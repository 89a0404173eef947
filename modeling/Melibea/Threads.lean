import Melibea.Isolation
import Melibea.Library.Mailbox
import Melibea.Revisions

/-! The threads of the service around the one queue of the broker. -/

namespace Melibea

open Library Machine

inductive ServiceTurn
  | publishSnapshot (windows : List MinimizedWindow)
  | setUnavailable (reason : String)
  | readRequest (version : UInt32) (request : Request)
  | receive (io : Io)
  | drop

def ServiceTurn.turn : ServiceTurn → Mailbox.Turn Io BrokerMessage
  | publishSnapshot windows => .call (.publish (windows.map Window.ofMinimized))
  | setUnavailable reason => .call (.setUnavailable reason)
  | readRequest version request => .post (.client version request)
  | receive io => .serve io
  | drop => .close

def ServiceTurn.receives : ServiceTurn → Bool
  | receive _ => true
  | _ => false

abbrev Threads := Mailbox Broker BrokerMessage

namespace Threads

abbrev start : Threads := Mailbox.start Broker.default

abbrev step (self : Threads) (turn : ServiceTurn) : Outcome (List Write) × Threads :=
  Mailbox.step Broker.turn self turn.turn

def after (turns : List ServiceTurn) : Threads := run step start turns

def outcomes (turns : List ServiceTurn) : List (Outcome (List Write)) := outputs step start turns

def written (turns : List ServiceTurn) : List Write :=
  ((outcomes turns).flatMap Outcome.responses).flatten

def received (turns : List ServiceTurn) : List (Io × BrokerMessage) :=
  trace step (fun self turn => Mailbox.received self turn.turn) start turns

def queued (turns : List ServiceTurn) : List BrokerMessage :=
  (trace step (fun self turn => Mailbox.put self turn.turn) start turns).filterMap Mail.message?

end Threads

def primaryAfter (messages : List BrokerMessage) : Primary (List Window) String :=
  run (Primary.step diffWindows "") BrokerState.default.primary
    (messages.filterMap BrokerMessage.command)

def answer (primary : Primary (List Window) String) (io : Io) : Request → Message
  | .list =>
    if primary.ready then .snapshot primary.revision primary.value
    else .error (.unavailable primary.reason)
  | .subscribe => .ofUpdate primary.greeting
  | action@(.minimize ..) | action@(.restore ..) | action@(.close _) =>
    match io.execute action with
    | .ok result => .actionResult result
    | .error error => .error (.actionFailed error)

lemma BrokerState.reply_eq (self : BrokerState) (io : Io) (request : Request) :
    self.reply io request = answer self.primary io request := by
  cases request <;> rfl

namespace Broker

lemma run_primary (self : Broker) (inputs : List (Io × BrokerMessage)) :
    (run turn self inputs).state.primary =
      run (Primary.step diffWindows "") self.state.primary
        ((inputs.map Prod.snd).filterMap BrokerMessage.command) := by
  induction inputs generalizing self with
  | nil => rfl
  | cons input inputs ih =>
    rw [run_cons, ih, turn_primary, List.map_cons, List.filterMap_cons]
    cases input.2.command <;> rfl

lemma run_accepted (self : Broker) (inputs : List (Io × BrokerMessage)) :
    (run turn self inputs).accepted = self.accepted +
      (inputs.map Prod.snd).countP fun message => message.command.isNone := by
  induction inputs generalizing self with
  | nil => rfl
  | cons input inputs ih =>
    obtain ⟨io, message⟩ := input
    rw [run_cons, ih, List.map_cons, List.countP_cons]
    cases message with
    | client version request =>
      rw [if_pos (show BrokerMessage.command (.client version request) |>.isNone from rfl), turn_client,
        add_comm (List.countP _ _), ← add_assoc]
    | _ => rfl

end Broker

namespace Threads

open Mailbox

variable (turns : List ServiceTurn)

lemma sound : Sound (after turns) := by
  have h := (sound_start Broker.default).run Broker.turn (turns.map ServiceTurn.turn)
  rwa [run_map] at h

lemma after_server : (after turns).server = Broker.after (received turns) := by
  have h := (simulation Broker.turn).run (s := start) rfl (turns.map ServiceTurn.turn)
  rwa [run_map, trace_map] at h

lemma written_eq : written turns = Broker.written (received turns) := by
  have h := (simulation Broker.turn).outputs (s := start) rfl
    (turns.map ServiceTurn.turn)
  rw [outputs_map, trace_map, List.flatMap_singleton'] at h
  exact congrArg List.flatten h

lemma received_queue :
    (received turns).map Prod.snd ++ (after turns).queue.filterMap Mail.message? =
      queued turns := by
  have hc := conserved Broker.turn start (turns.map ServiceTurn.turn)
  have hm := messages_taken Broker.turn start (turns.map ServiceTurn.turn)
  rw [start_queue, List.nil_append] at hc
  replace hc := congrArg (List.filterMap Mail.message?) hc
  rw [List.filterMap_append, hm, run_map, trace_map, trace_map] at hc
  exact hc

lemma command_put {self : Threads} {turn : ServiceTurn} {mail : Mail BrokerMessage}
    (hm : mail ∈ Mailbox.put self turn.turn) :
    mail.awaited = (mail.message?.bind BrokerMessage.command).isSome := by
  cases turn with
  | receive io => cases hm
  | _ =>
    simp only [ServiceTurn.turn, Mailbox.put] at hm
    split_ifs at hm
    · cases hm
    · rw [List.mem_singleton.mp hm]
      rfl

lemma command_queue {mail : Mail BrokerMessage} (hm : mail ∈ (after turns).queue) :
    mail.awaited = (mail.message?.bind BrokerMessage.command).isSome := by
  have hc := conserved Broker.turn start (turns.map ServiceTurn.turn)
  rw [start_queue, List.nil_append, run_map, trace_map _ _ Mailbox.put] at hc
  have hput := hc ▸ List.mem_append_right _ hm
  obtain ⟨_, _, _, -, hmem⟩ := mem_trace _ hput
  exact command_put hmem

lemma queue_commands (hw : (after turns).waiting = false) :
    ((after turns).queue.filterMap Mail.message?).filterMap BrokerMessage.command = [] := by
  have hcount := (sound turns).waiting
  rw [hw, Bool.toNat_false, List.countP_eq_zero] at hcount
  rw [List.filterMap_filterMap, List.filterMap_eq_nil_iff]
  intro mail hm
  have h := command_queue turns hm
  rw [Bool.eq_false_of_not_eq_true (hcount mail hm)] at h
  simpa using h

lemma server_primary :
    (after turns).server.state.primary = primaryAfter ((received turns).map Prod.snd) := by
  rw [after_server]
  exact Broker.run_primary .default (received turns)

lemma server_accepted : (after turns).server.accepted =
    ((received turns).map Prod.snd).countP fun message => message.command.isNone := by
  rw [after_server]
  exact (Broker.run_accepted .default (received turns)).trans (Nat.zero_add _)

lemma primary_returned (hw : (after turns).waiting = false) :
    (after turns).server.state.primary = primaryAfter (queued turns) := by
  rw [server_primary, primaryAfter, primaryAfter, ← received_queue, List.filterMap_append,
    queue_commands turns hw, List.append_nil]

lemma after_append (more : List ServiceTurn) :
    after (turns ++ more) = run step (after turns) more :=
  run_append ..

lemma received_append (more : List ServiceTurn) :
    received (turns ++ more) = received turns ++
      trace step (fun self turn => Mailbox.received self turn.turn) (after turns) more :=
  trace_append ..

lemma broker_gets_to {before rest : List (Mail BrokerMessage)} {mail : Mail BrokerMessage}
    (hs : (after turns).stopped = false) (hq : (after turns).queue = before ++ mail :: rest)
    (hb : .shutdown ∉ before) {more : List ServiceTurn}
    (hn : before.length < more.countP ServiceTurn.receives) :
    ∃ early io late rest', more = early ++ .receive io :: late ∧
      (received (turns ++ early)).map Prod.snd =
        (received turns).map Prod.snd ++ before.filterMap Mail.message? ∧
      (after (turns ++ early)).stopped = false ∧
      (after (turns ++ early)).queue = mail :: rest' := by
  have hcount : (more.map ServiceTurn.turn).countP Turn.serves = more.countP ServiceTurn.receives := by
    rw [List.countP_map]
    exact List.countP_congr fun turn _ => by cases turn <;> rfl
  obtain ⟨ys, io, zs, rest', hmore, htaken, hstopped, hqueue⟩ :=
    turn_comes Broker.turn hs hq hb (hcount ▸ hn)
  obtain ⟨early, later, rfl, rfl, hlater⟩ := List.map_eq_append_iff.mp hmore
  obtain ⟨turn, late, rfl, hturn, rfl⟩ := List.map_eq_cons_iff.mp hlater
  obtain rfl : turn = .receive io := by
    cases turn with
    | receive io' => cases hturn; rfl
    | _ => cases hturn
  have hmessages := messages_taken Broker.turn (after turns) (early.map ServiceTurn.turn)
  rw [htaken, trace_map] at hmessages
  rw [run_map] at hstopped hqueue
  refine ⟨early, io, late, rest', rfl, ?_, ?_, ?_⟩
  · rw [received_append, List.map_append, ← hmessages]
  · rwa [after_append]
  · rwa [after_append]

variable {turns}

lemma shutdown_queue (hc : (after turns).closing = false) : .shutdown ∉ (after turns).queue :=
  fun hm => (nomatch hc.symm.trans ((sound turns).shutdown hm))

lemma running (hc : (after turns).closing = false) : (after turns).stopped = false :=
  Bool.eq_false_of_not_eq_true fun hs => (nomatch hc.symm.trans ((sound turns).stopped hs))

lemma call_returns (hw : (after turns).waiting = true) {more : List ServiceTurn}
    (hn : (after turns).queue.length ≤ more.countP ServiceTurn.receives) :
    ∃ early, early <+: more ∧ (after (turns ++ early)).waiting = false := by
  have hsound := sound turns
  have hc : (after turns).closing = false :=
    Bool.eq_false_of_not_eq_true fun hc => (nomatch hw.symm.trans (hsound.closing hc))
  have hpos : 0 < (after turns).queue.countP Mail.awaited := by
    rw [hsound.waiting, hw]
    exact Nat.one_pos
  obtain ⟨mail, hm, hawaited⟩ := List.countP_pos_iff.mp hpos
  obtain ⟨before, rest, hq⟩ := List.append_of_mem hm
  obtain ⟨early, io, late, rest', rfl, -, hstopped, hqueue⟩ := broker_gets_to turns (running hc) hq
    (fun h => shutdown_queue hc (hq ▸ List.mem_append_left _ h))
    (lt_of_lt_of_le (by rw [hq]; simp) hn)
  refine ⟨early ++ [.receive io], ⟨late, by simp⟩, ?_⟩
  cases mail with
  | shutdown => cases hawaited
  | message acknowledged message =>
    obtain rfl : acknowledged = true := hawaited
    rw [← List.append_assoc, after_append, run_cons, run_nil]
    simp [step, ServiceTurn.turn, Mailbox.step, hstopped, hqueue]

lemma receive_client {self : Threads} {acknowledged : Bool} {version : UInt32} {request : Request}
    {rest : List (Mail BrokerMessage)} (hs : self.stopped = false)
    (hq : self.queue = .message acknowledged (.client version request) :: rest) (io : Io) :
    (step self (.receive io)).1 = .response [⟨self.server.accepted,
      .forVersion version (answer self.server.state.primary io request)⟩] := by
  simp only [step, ServiceTurn.turn, Mailbox.step, hs, hq, Broker.turn_client,
    BrokerState.handleClient_eq, BrokerState.reply_eq]
  rfl

lemma received_client {acknowledged : Bool} {version : UInt32} {request : Request}
    {rest : List (Mail BrokerMessage)} (hs : (after turns).stopped = false)
    (hq : (after turns).queue = .message acknowledged (.client version request) :: rest) (io : Io)
    (late : List ServiceTurn) : ∃ handed, received (turns ++ .receive io :: late) =
      received turns ++ (io, .client version request) :: handed := by
  have htaken : Mailbox.received (after turns) (ServiceTurn.receive io).turn =
      [(io, .client version request)] := by
    simp only [ServiceTurn.turn, Mailbox.received, hs, hq]
    rfl
  refine ⟨trace step (fun self turn => Mailbox.received self turn.turn)
    (step (after turns) (.receive io)).2 late, ?_⟩
  rw [received_append, trace_cons, htaken, List.singleton_append]

lemma receive_shutdown {self : Threads} {rest : List (Mail BrokerMessage)}
    (hs : self.stopped = false) (hq : self.queue = .shutdown :: rest) (io : Io) :
    (step self (.receive io)).2.stopped = true := by
  simp [step, ServiceTurn.turn, Mailbox.step, hs, hq]

lemma stays_stopped {self : Threads} (hs : self.stopped = true) (turn : ServiceTurn) :
    (step self turn).2.stopped = true := by
  rcases (Mailbox.moved Broker.turn self turn.turn).stopping with ⟨h, -⟩ | ⟨-, h, -⟩
  · exact h.trans hs
  · exact h

lemma publish_queued {windows : List Window} (h : .publish windows ∈ queued turns) :
    ∃ minimized, .publishSnapshot minimized ∈ turns ∧ windows = minimized.map Window.ofMinimized := by
  obtain ⟨mail, hm, hmessage⟩ := List.mem_filterMap.mp h
  obtain ⟨before, turn, later, rfl, hput⟩ := mem_trace _ hm
  cases turn with
  | publishSnapshot minimized =>
    simp only [ServiceTurn.turn, Mailbox.put] at hput
    split_ifs at hput
    · cases hput
    · rw [List.mem_singleton.mp hput] at hmessage
      cases hmessage
      exact ⟨minimized, by simp, rfl⟩
  | receive io => cases hput
  | _ =>
    simp only [ServiceTurn.turn, Mailbox.put] at hput
    split_ifs at hput
    · cases hput
    · rw [List.mem_singleton.mp hput] at hmessage
      cases hmessage

lemma received_distinct
    (hd : ∀ windows, .publishSnapshot windows ∈ turns → (windows.map MinimizedWindow.id).Nodup) :
    ∀ input ∈ received turns, Broker.DistinctIds input := by
  intro input hi windows hm
  have hqueued : input.2 ∈ queued turns := by
    rw [← received_queue]
    exact List.mem_append_left _ (List.mem_map_of_mem hi)
  obtain ⟨minimized, hturn, rfl⟩ := publish_queued (hm ▸ hqueued)
  rw [ids_ofMinimized]
  exact hd minimized hturn

lemma drained_drop (hs : (after turns).stopped = true) :
    ∃ before late, turns = before ++ .drop :: late ∧ (after before).closing = false ∧
      (after before).waiting = false ∧ (received turns).map Prod.snd = queued before := by
  rw [after, ← run_map (Mailbox.step Broker.turn) ServiceTurn.turn] at hs
  obtain ⟨ys, zs, hturns, hc, hw, htaken⟩ := drained Broker.turn _ hs
  obtain ⟨before, later, rfl, rfl, hlater⟩ := List.map_eq_append_iff.mp hturns
  obtain ⟨turn, late, rfl, hturn, rfl⟩ := List.map_eq_cons_iff.mp hlater
  obtain rfl : turn = .drop := by
    cases turn with
    | drop => rfl
    | _ => cases hturn
  rw [run_map] at hc hw
  refine ⟨before, late, rfl, hc, hw, ?_⟩
  have hmessages := messages_taken Broker.turn start
    ((before ++ .drop :: late).map ServiceTurn.turn)
  rw [htaken, trace_map, trace_map, List.filterMap_append] at hmessages
  exact hmessages.symm.trans (List.append_nil _)

end Threads

open Threads

/-- The broker does one after the other what the other threads have put before it, in the order in
which they did. No call is refused and every call returns; between two calls the public state
is the one that all calls so far lead to, and every subscriber holds it. -/
theorem calls_return_done (turns : List ServiceTurn)
    (hd : ∀ windows, .publishSnapshot windows ∈ turns → (windows.map MinimizedWindow.id).Nodup) :
    let self := after turns
    (self.server = Broker.after (received turns) ∧ written turns = Broker.written (received turns) ∧
      (received turns).map Prod.snd <+: queued turns) ∧
    (∀ outcome ∈ outcomes turns, outcome ≠ .refused) ∧
    (∀ more, self.queue.length ≤ more.countP ServiceTurn.receives →
      ∃ early, early <+: more ∧ (after (turns ++ early)).waiting = false) ∧
    (self.waiting = false → self.server.state.primary = primaryAfter (queued turns) ∧
      ∀ subscriber ∈ self.server.state.subscribers,
        (replica (sent (written turns) subscriber.stream)).Mirrors (primaryAfter (queued turns))) := by
  intro self
  refine ⟨⟨after_server turns, written_eq turns, _, received_queue turns⟩, fun outcome ho => ?_,
    fun more hn => ?_, fun hw => ?_⟩
  · obtain ⟨before, turn, later, -, rfl⟩ := mem_outputs step ho
    exact ((sound before).moved (Mailbox.moved Broker.turn _ turn.turn)).2
  · cases hw : self.waiting with
    | false => exact ⟨[], List.nil_prefix, by rw [List.append_nil]; exact hw⟩
    | true => exact call_returns hw hn
  · have hprimary := primary_returned turns hw
    refine ⟨hprimary, fun subscriber hm => ?_⟩
    have hfollows := Broker.follows (received turns) (received_distinct hd)
    rw [← hprimary, after_server, written_eq]
    exact hfollows.mirrors subscriber (after_server turns ▸ hm)

section Kitty

def kittyTurns : List ServiceTurn :=
  [.readRequest 1 .subscribe, .publishSnapshot [⟨10, some "kitty", none⟩], .receive .reliable,
    .readRequest 2 .list, .receive .reliable]

theorem calls_return_done_kitty :
    (after kittyTurns).waiting = false ∧
      ∀ subscriber ∈ (after kittyTurns).server.state.subscribers,
        (replica (sent (written kittyTurns) subscriber.stream)).Mirrors
          (primaryAfter (queued kittyTurns)) := by
  refine ⟨by decide +kernel, ?_⟩
  refine ((calls_return_done kittyTurns fun windows hm => ?_).2.2.2 (by decide +kernel)).2
  simp only [kittyTurns, List.mem_cons, reduceCtorEq, ServiceTurn.publishSnapshot.injEq,
    List.not_mem_nil, false_or, or_false] at hm
  rw [hm]
  decide

end Kitty

/-- However long a request waits and whatever is put behind it, it is answered from the state that
the calls made before it lead to, on its own connection, and unless it is a subscription nothing
else is ever written there. -/
theorem request_answered_as_sent (before later : List ServiceTurn) (version : UInt32)
    (request : Request) (hc : (after before).closing = false)
    (hn : (after before).queue.length < later.countP ServiceTurn.receives) :
    let stream := (queued before).countP fun message => message.command.isNone
    let heard := messagesOn (written (before ++ .readRequest version request :: later)) stream
    ∃ early io late, later = early ++ .receive io :: late ∧
      let answered := .forVersion version (answer (primaryAfter (queued before)) io request)
      (step (after (before ++ .readRequest version request :: early)) (.receive io)).1 =
        .response [⟨stream, answered⟩] ∧
      [answered] <+: heard ∧ (request ≠ .subscribe → heard = [answered]) := by
  have hs := running hc
  have hnext : after (before ++ [.readRequest version request]) = { after before with
      queue := (after before).queue ++ [.message false (.client version request)] } := by
    rw [after_append, run_cons, run_nil]
    simp [step, ServiceTurn.turn, Mailbox.step, hs]
  have hstill : received (before ++ [.readRequest version request]) = received before := by
    rw [received_append, trace_cons, trace_nil]
    simp [ServiceTurn.turn, Mailbox.received]
  obtain ⟨early, io, late, rest, rfl, hreceived, hstopped, hqueue⟩ :=
    broker_gets_to (before ++ [.readRequest version request]) (by rw [hnext]; exact hs)
      (congrArg Mailbox.queue hnext) (shutdown_queue hc) hn
  rw [List.append_assoc, List.singleton_append] at hreceived hstopped hqueue
  rw [hstill, received_queue] at hreceived
  intro stream heard
  have hstream : (after (before ++ .readRequest version request :: early)).server.accepted =
      stream := by rw [server_accepted, hreceived]
  have hanswered : answer (after (before ++ .readRequest version request :: early)).server.state.primary
      io request = answer (primaryAfter (queued before)) io request := by
    rw [server_primary, hreceived]
  refine ⟨early, io, late, rfl, ?_, ?_⟩
  · rw [receive_client hstopped hqueue, hstream, hanswered]
  · obtain ⟨handed, htaken⟩ := received_client hstopped hqueue io late
    rw [List.append_assoc, List.cons_append] at htaken
    have hclient := Broker.messagesOn_client
      (received (before ++ .readRequest version request :: early)) handed io version request
    rw [← htaken, ← written_eq, ← after_server, BrokerState.reply_eq, hstream, hanswered] at hclient
    exact hclient

theorem request_answered_as_sent_list :
    messagesOn (written (kittyTurns ++ .readRequest 2 .list :: [.publishSnapshot [],
        .receive .reliable, .receive .reliable, .receive .reliable])) 2 =
      [⟨2, .snapshot 1 [⟨10, some "kitty", none, none⟩]⟩] := by
  obtain ⟨early, io, late, -, -, -, honly⟩ := request_answered_as_sent kittyTurns
    [.publishSnapshot [], .receive .reliable, .receive .reliable, .receive .reliable] 2 .list
    (by decide +kernel) (by decide +kernel)
  exact honly (by decide)

/-- Dropping the service waits for all that was put before it and for nothing put later. -/
theorem dropped_service_drains (turns : List ServiceTurn) :
    ((after turns).stopped = true → ∃ before late, turns = before ++ .drop :: late ∧
      (after before).waiting = false ∧ (after before).closing = false ∧
        (received turns).map Prod.snd = queued before) ∧
    ((after turns).waiting = false → (after turns).closing = false → ∀ late,
      (after turns).queue.length < late.countP ServiceTurn.receives →
        (after (turns ++ .drop :: late)).stopped = true) := by
  refine ⟨fun hs => ?_, fun hw hc late hn => ?_⟩
  · obtain ⟨before, late, rfl, hc, hw, hsame⟩ := drained_drop hs
    exact ⟨before, late, rfl, hw, hc, hsame⟩
  · have hstopped := running hc
    have hnext : after (turns ++ [.drop]) = { after turns with
        queue := (after turns).queue ++ [.shutdown], closing := true } := by
      rw [after_append, run_cons, run_nil]
      simp [step, ServiceTurn.turn, Mailbox.step, hstopped, hw, hc]
    obtain ⟨early, io, late, rest, rfl, -, hrunning, hqueue⟩ :=
      broker_gets_to (turns ++ [.drop]) (by rw [hnext]; exact hstopped)
        (congrArg Mailbox.queue hnext) (shutdown_queue hc) hn
    have hall : turns ++ .drop :: (early ++ .receive io :: late) =
        turns ++ [.drop] ++ early ++ .receive io :: late := by simp
    rw [hall, after_append, run_cons]
    refine run_invariant step (P := fun self => self.stopped = true) (fun self turn h => ?_) ?_ late
    · exact stays_stopped h turn
    · exact receive_shutdown hrunning hqueue io

theorem dropped_service_drains_kitty :
    let turns := kittyTurns ++ .drop :: [.readRequest 1 .list, .receive .reliable,
      .receive .reliable]
    (after turns).stopped = true ∧
      (∃ before late, turns = before ++ .drop :: late ∧
        (received turns).map Prod.snd = queued before) ∧
      (received turns).map Prod.snd = [.client 1 .subscribe,
        .publish [⟨10, some "kitty", none, none⟩], .client 2 .list] := by
  intro turns
  have hstopped : (after turns).stopped = true :=
    (dropped_service_drains kittyTurns).2 (by decide +kernel) (by decide +kernel) _
      (by decide +kernel)
  obtain ⟨before, late, hturns, -, -, hsame⟩ := (dropped_service_drains turns).1 hstopped
  exact ⟨hstopped, ⟨before, late, hturns, hsame⟩, rfl⟩

end Melibea
