import Melibea.Daemon

/-! What an open connection receives is decided by the commands of the daemon alone. -/

namespace Melibea

open Library BrokerState

def commands (inputs : List (Io × BrokerMessage)) : List (Command (List Window) String) :=
  inputs.filterMap (·.2.command)

def feed (version : UInt32) (updates : List (Update (List Window) (List WindowChange) String)) :
    List ServerMessage :=
  updates.map fun update => .forVersion version (.ofUpdate update)

lemma feed_append (version : UInt32)
    (updates more : List (Update (List Window) (List WindowChange) String)) :
    feed version (updates ++ more) = feed version updates ++ feed version more :=
  List.map_append

lemma messagesOn_obey {self : BrokerState} (hn : (self.subscribers.map (·.stream)).Nodup)
    {subscriber : Subscriber} (hm : subscriber ∈ self.subscribers) (io : Io)
    (command : Command (List Window) String) :
    messagesOn (self.obey io command).1 subscriber.stream =
      feed subscriber.version (self.primary.step diffWindows "" command).1.toList := by
  rw [obey]
  cases self.primary.step diffWindows "" command with
  | mk update primary =>
    cases update with
    | none => rfl
    | some update =>
      simp only [broadcast, withPrimary, messagesOn, List.filter_map, List.map_map,
        Function.comp_def]
      rw [KeyedList.filter_eq_singleton hn hm]
      rfl

namespace Broker

variable {self : Broker}

lemma apart (inputs : List (Io × BrokerMessage)) : Apart (after inputs) :=
  Machine.run_invariant _ (fun _ input h => h.turn input)
    ⟨List.nodup_nil, by simp [default, BrokerState.default]⟩ inputs

lemma written_lt (inputs : List (Io × BrokerMessage)) :
    ∀ write ∈ written inputs, write.stream < (after inputs).accepted := by
  induction inputs using List.reverseRecOn with
  | nil => exact fun write hw => by cases hw
  | append_singleton inputs input ih =>
    rw [written_concat, after_concat]
    exact (apart inputs).seen_turn ih input

/-- A connection that has been dealt with and that nobody subscribed on. -/
structure Silent (stream : StreamId) (broker : Broker) : Prop where
  accepted : stream < broker.accepted
  subscribers : ∀ subscriber ∈ broker.state.subscribers, subscriber.stream ≠ stream

lemma Silent.turn {stream : StreamId} (h : Silent stream self) (input : Io × BrokerMessage) :
    messagesOn (self.turn input).1 stream = [] ∧ Silent stream (self.turn input).2 := by
  obtain ⟨io, message⟩ := input
  cases hc : message.command with
  | some command =>
    rw [turn_command self io hc]
    refine ⟨messagesOn_eq_nil fun write hw => ?_, h.accepted, fun subscriber hm => ?_⟩
    · obtain ⟨subscriber, hm, _, rfl⟩ := mem_obey hw
      exact h.subscribers subscriber hm
    · exact h.subscribers subscriber ((self.state.subscribers_obey io command).subset hm)
  | none =>
    obtain ⟨version, request, rfl⟩ := message.client_of_command hc
    rw [turn_client, handleClient_eq]
    refine ⟨messagesOn_eq_nil fun write hw => ?_, h.accepted.trans (Nat.lt_succ_self _),
      fun subscriber hm => ?_⟩
    · rw [List.mem_singleton.mp hw]
      exact h.accepted.ne'
    · dsimp only at hm
      split_ifs at hm
      · rcases List.mem_append.mp hm with hm | hm
        · exact h.subscribers subscriber (List.mem_filter.mp hm).1
        · rw [List.mem_singleton.mp hm]
          exact h.accepted.ne'
      · exact h.subscribers subscriber hm

lemma Silent.messagesOn_run {stream : StreamId} (h : Silent stream self)
    (inputs : List (Io × BrokerMessage)) :
    messagesOn (Machine.outputs Broker.turn self inputs).flatten stream = [] := by
  induction inputs generalizing self with
  | nil => rfl
  | cons input inputs ih =>
    obtain ⟨hnone, hsilent⟩ := h.turn input
    rw [Machine.outputs_cons, List.flatten_cons, messagesOn_append, hnone, ih hsilent,
      List.append_nil]

lemma Apart.silent_client (h : Apart self) (io : Io) (version : UInt32) {request : Request}
    (hr : request ≠ .subscribe) :
    Silent self.accepted (self.turn (io, .client version request)).2 := by
  rw [turn_client, handleClient_eq, if_neg fun hs => hr hs.1]
  exact ⟨Nat.lt_succ_self _, fun subscriber hm => (h.accepted subscriber hm).ne⟩

lemma messagesOn_client (before later : List (Io × BrokerMessage)) (io : Io) (version : UInt32)
    (request : Request) :
    let answered := ServerMessage.forVersion version ((after before).state.reply io request)
    let heard := messagesOn (written (before ++ (io, .client version request) :: later))
      (after before).accepted
    [answered] <+: heard ∧ (request ≠ .subscribe → heard = [answered]) := by
  intro answered heard
  have hheard : heard = answered :: messagesOn (Machine.outputs turn
      ((after before).turn (io, .client version request)).2 later).flatten
        (after before).accepted := by
    have hbefore := messagesOn_eq_nil fun write hw => (written_lt before write hw).ne
    have hturn : messagesOn ((after before).turn (io, .client version request)).1
        (after before).accepted = [answered] := by
      rw [turn_client, handleClient_eq]
      exact messagesOn_self _ _
    simp only [heard, written, Machine.outputs_append, Machine.outputs_cons, List.flatten_append,
      List.flatten_cons, messagesOn_append] at hbefore ⊢
    rw [hbefore]
    exact congrArg (· ++ _) hturn
  refine ⟨⟨_, hheard.symm⟩, fun hr => ?_⟩
  rw [hheard, ((apart before).silent_client io version hr).messagesOn_run]

lemma Apart.messagesOn_turn (h : Apart self) {subscriber : Subscriber}
    (hm : subscriber ∈ self.state.subscribers) (input : Io × BrokerMessage) :
    messagesOn (self.turn input).1 subscriber.stream =
      feed subscriber.version
        (self.state.primary.updates diffWindows "" (commands [input])) := by
  obtain ⟨io, message⟩ := input
  cases hc : message.command with
  | some command =>
    rw [turn_command _ io hc, messagesOn_obey h.streams hm]
    simp only [commands, List.filterMap_cons, hc, List.filterMap_nil, Primary.updates,
      Machine.outputs_cons, Machine.outputs_nil]
    cases (self.state.primary.step diffWindows "" command).1 <;> rfl
  | none =>
    obtain ⟨version, request, rfl⟩ := message.client_of_command hc
    rw [turn_client, handleClient_eq]
    refine messagesOn_eq_nil fun write hw => ?_
    rw [List.mem_singleton.mp hw]
    exact (h.accepted subscriber hm).ne'

lemma turn_primary_run (self : Broker) (input : Io × BrokerMessage) :
    (self.turn input).2.state.primary =
      Machine.run (Primary.step diffWindows "") self.state.primary (commands [input]) := by
  rw [turn_primary]
  cases hc : input.2.command <;> simp [commands, hc]

lemma commands_append (inputs more : List (Io × BrokerMessage)) :
    commands (inputs ++ more) = commands inputs ++ commands more :=
  List.filterMap_append

def Stays (self : Broker) (subscriber : Subscriber) (inputs : List (Io × BrokerMessage)) : Prop :=
  Machine.Meets turn (fun broker _ => subscriber ∈ broker.state.subscribers) self inputs

lemma Apart.messagesOn_run (h : Apart self) {subscriber : Subscriber}
    {inputs : List (Io × BrokerMessage)} (hm : self.Stays subscriber inputs) :
    messagesOn (Machine.outputs Broker.turn self inputs).flatten subscriber.stream =
      feed subscriber.version
        (self.state.primary.updates diffWindows "" (commands inputs)) := by
  induction inputs generalizing self with
  | nil => rfl
  | cons input inputs ih =>
    have hsplit : commands (input :: inputs) = commands [input] ++ commands inputs :=
      commands_append [input] inputs
    rw [Machine.outputs_cons, List.flatten_cons, messagesOn_append, h.messagesOn_turn hm.1 input,
      ih (h.turn input) hm.2, hsplit, Primary.updates_append, turn_primary_run, feed_append]

lemma stays_of_open {subscriber : Subscriber} (hm : subscriber ∈ self.state.subscribers)
    {inputs : List (Io × BrokerMessage)}
    (ho : ∀ input ∈ inputs, input.1.Open subscriber.stream) : self.Stays subscriber inputs := by
  induction inputs generalizing self with
  | nil => trivial
  | cons input inputs ih =>
    have hkept := mem_subscribers_turn hm (ho input (by simp)) input.2
    exact ⟨hm, ih hkept fun x hx => ho x (List.mem_cons_of_mem _ hx)⟩

lemma primary_after (inputs : List (Io × BrokerMessage)) :
    (after inputs).state.primary =
      Machine.run (Primary.step diffWindows "") default.state.primary (commands inputs) := by
  induction inputs using List.reverseRecOn with
  | nil => rfl
  | append_singleton inputs input ih =>
    rw [after_concat, turn_primary_run, ih, commands_append, Machine.run_append]

lemma mem_subscribed (self : Broker) {io : Io} (version : UInt32)
    (hs : io.writeMessage self.accepted ∧ io.tryClone self.accepted) :
    (⟨version, self.accepted⟩ : Subscriber) ∈
      (self.turn (io, .client version .subscribe)).2.state.subscribers := by
  rw [turn_client, handleClient_eq, if_pos ⟨rfl, hs⟩]
  exact List.mem_append_right _ (List.mem_singleton_self _)

lemma messagesOn_subscribed (before rest : List (Io × BrokerMessage)) (io : Io) (version : UInt32)
    (hm : ((after before).turn (io, .client version .subscribe)).2.Stays
      ⟨version, (after before).accepted⟩ rest) :
    let primary := Machine.run (Primary.step diffWindows "") default.state.primary (commands before)
    messagesOn (written (before ++ (io, .client version .subscribe) :: rest))
        (after before).accepted =
      feed version (primary.greeting :: primary.updates diffWindows "" (commands rest)) := by
  intro primary
  set subscribed := ((after before).turn (io, .client version .subscribe)) with hsub
  have hturn : subscribed =
      ([⟨(after before).accepted, version, .ofUpdate (after before).state.primary.greeting⟩],
        subscribed.2) := by
    rw [hsub, turn_client, handleClient_eq]
    rfl
  have hprimary : subscribed.2.state.primary = primary := by
    rw [hsub, turn_primary]
    exact primary_after before
  have hrest := ((apart before).turn (io, .client version .subscribe)).messagesOn_run hm
  have hold : messagesOn (written before) (after before).accepted = [] :=
    messagesOn_eq_nil fun write hw => (written_lt before write hw).ne
  rw [written, Machine.outputs_append, Machine.outputs_cons, List.flatten_append,
    List.flatten_cons, messagesOn_append, messagesOn_append]
  change messagesOn (written before) _ ++ (messagesOn subscribed.1 _ ++
    messagesOn (Machine.outputs Broker.turn subscribed.2 rest).flatten _) = _
  rw [hold, hrest, hprimary, hturn, primary_after, List.nil_append, messagesOn_self]
  rfl

end Broker

open Broker

/-- Clients never change the public state, and two runs with the same commands send an open
subscriber the same messages, whatever their other clients do. -/
theorem clients_isolated :
    (∀ (broker : Broker) (io : Io) (version : UInt32) (request : Request),
      (broker.turn (io, .client version request)).2.state.primary = broker.state.primary) ∧
    ∀ (before rest before' rest' : List (Io × BrokerMessage)) (io io' : Io) (version : UInt32),
      commands before = commands before' → commands rest = commands rest' →
      (io.writeMessage (after before).accepted ∧ io.tryClone (after before).accepted) →
      (io'.writeMessage (after before').accepted ∧ io'.tryClone (after before').accepted) →
      (∀ input ∈ rest, input.1.Open (after before).accepted) →
      (∀ input ∈ rest', input.1.Open (after before').accepted) →
      messagesOn (written (before ++ (io, .client version .subscribe) :: rest))
          (after before).accepted =
        messagesOn (written (before' ++ (io', .client version .subscribe) :: rest'))
          (after before').accepted := by
  refine ⟨fun broker io version request => broker.turn_primary _, ?_⟩
  intro before rest before' rest' io io' version hbefore hrest hs hs' ho ho'
  have hm := stays_of_open (mem_subscribed (after before) version hs) ho
  have hm' := stays_of_open (mem_subscribed (after before') version hs') ho'
  rw [messagesOn_subscribed before rest io version hm,
    messagesOn_subscribed before' rest' io' version hm', hbefore, hrest]

theorem clients_isolated_crowd :
    let window : Window := ⟨10, some "kitty", none, none⟩
    let broken : Io := { Io.reliable with
      writeMessage stream := stream = 1
      read stream := if stream = 1 then .wouldBlock else .ok 0 }
    let crowd :=
      [(Io.reliable, .publish [window]), (Io.reliable, BrokerMessage.client 1 .subscribe)]
    let rest := [(broken, .client 1 .list), (broken, .setUnavailable "lost"),
      (broken, BrokerMessage.client 2 .subscribe)]
    let heard := messagesOn (written (crowd ++ (broken, .client 2 .subscribe) :: rest)) 1
    heard = messagesOn (written ([(.reliable, .publish [window])] ++
        (.reliable, .client 2 .subscribe) :: [(.reliable, .setUnavailable "lost")])) 0 ∧
      heard = [⟨2, .snapshot 1 [window]⟩, ⟨2, .unavailable 1 "lost"⟩] := by
  intro window broken crowd rest heard
  have hopen : broken.Open 1 := ⟨rfl, fun _ => rfl, by simp [broken]⟩
  refine ⟨clients_isolated.2 _ _ _ _ _ _ _ rfl rfl ⟨rfl, rfl⟩ ⟨rfl, rfl⟩ ?_ ?_, rfl⟩
  · intro input hi
    simp only [rest, List.mem_cons, List.not_mem_nil, or_false] at hi
    rcases hi with rfl | rfl | rfl <;> exact hopen
  · intro input hi
    rw [List.mem_singleton.mp hi]
    exact open_reliable 0

end Melibea
