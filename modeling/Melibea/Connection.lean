import Melibea.Generations
import Melibea.Rejection
import Melibea.Watcher
import Melibea.Library.Simulation

/-! One connection to niri as the main thread runs it. -/

namespace Melibea

open Library Machine

-- Where `run_controller_connection` is. It drains its channel before it polls the configuration,
-- and again before it takes an action off the queue.
inductive Phase
  | receiving
  | draining (sending : Bool)
  | polling
  | checking
  | taking
  | sending (action : ResizeAction)
  | returned (result : Except String Config)

structure Answers where
  io : Io
  elapsed : Bool
  file : Except String String
  applied : Except String Unit

def Answers.reliable : Answers where
  io := .reliable
  elapsed := false
  file := .ok ""
  applied := .ok ()

structure Effects where
  writes : List Write
  resized : Option ResizeAction

def Effects.quiet : Effects where
  writes := []
  resized := none

structure Connection where
  controller : Controller
  watcher : ConfigWatcher
  channel : List StreamMessage
  readerStopped : Bool
  phase : Phase

inductive ConnectionInput
  | read (message : StreamMessage)
  | client (io : Io) (version : UInt32) (request : Request)
  | turn (answers : Answers)

def terminal : StreamMessage → Bool
  | .ok (some _) => false
  | .ok none | .error _ => true

namespace Connection

def connect (config : Config) (service : Service) (watcher : ConfigWatcher) : Connection where
  controller := .connect config service
  watcher := watcher
  channel := []
  readerStopped := false
  phase := .receiving

def hasReader (self : Connection) : Bool :=
  match self.phase with
  | .returned _ => false
  | _ => !self.readerStopped

def deliver (self : Connection) (message : StreamMessage) : Connection :=
  if self.hasReader then
    { self with channel := self.channel ++ [message], readerStopped := terminal message }
  else self

def serveClient (self : Connection) (io : Io) (version : UInt32) (request : Request) :
    List Write × Connection :=
  let (writes, broker) := self.controller.service.broker.turn (io, .client version request)
  (writes, { self with controller.service.broker := broker })

def ingest (self : Connection) (io : Io) (message : StreamMessage) (next : Phase) :
    List Write × Connection :=
  match self.controller.ingestStreamMessage io message with
  | ((writes, .ok ()), controller) => (writes, { self with controller, phase := next })
  | ((writes, .error error), controller) =>
    (writes, { self with controller, phase := .returned (.error error) })

def receive (self : Connection) (io : Io) (next : Phase) (empty : Connection) :
    List Write × Connection :=
  match self.channel with
  | message :: channel => { self with channel }.ingest io message next
  | [] =>
    if self.readerStopped then
      ([], { self with phase := .returned (.error "niri event reader stopped unexpectedly") })
    else ([], empty)

section Poll

variable (parse : String → Except String Config)

def poll (self : Connection) (answers : Answers) (next : Phase) : Connection :=
  match self.watcher.pollIfDue parse answers.elapsed answers.file with
  | (.reloaded config, watcher) => { self with watcher, phase := .returned (.ok config) }
  | (_, watcher) => { self with watcher, phase := next }

def turn (self : Connection) (answers : Answers) : Effects × Connection :=
  match self.phase with
  | .receiving =>
    let (writes, self) := self.receive answers.io (.draining false)
      (self.poll parse answers .receiving)
    (⟨writes, none⟩, self)
  | .draining sending =>
    let (writes, self) := self.receive answers.io (.draining sending)
      { self with phase := if sending then .taking else .polling }
    (⟨writes, none⟩, self)
  | .polling => (.quiet, self.poll parse answers .checking)
  | .checking =>
    (.quiet, { self with
      phase := if self.controller.pending.isEmpty then .receiving else .draining true })
  | .taking =>
    let (action, pending) := self.controller.pending.popNext
    (.quiet, { self with
      controller.pending := pending
      phase := action.elim .receiving .sending })
  | .sending action =>
    match answers.applied with
    | .ok () => (⟨[], some action⟩, { self with phase := .checking })
    | .error error =>
      (.quiet, { self with
        phase := .returned (.error
          s!"generation {action.generation} failed for window {action.windowId}: {error}") })
  | .returned _ => (.quiet, self)

def step (self : Connection) : ConnectionInput → Effects × Connection
  | .read message => (.quiet, self.deliver message)
  | .client io version request =>
    let (writes, self) := self.serveClient io version request
    (⟨writes, none⟩, self)
  | .turn answers => self.turn parse answers

abbrev after (config : Config) (service : Service) (watcher : ConfigWatcher)
    (inputs : List ConnectionInput) : Connection :=
  Machine.run (step parse) (connect config service watcher) inputs

end Poll

def delivered (self : Connection) : ConnectionInput → List StreamMessage
  | .read message => if self.hasReader then [message] else []
  | _ => []

def received (self : Connection) : ConnectionInput → List StreamMessage
  | .turn _ =>
    match self.phase with
    | .receiving | .draining _ => self.channel.head?.toList
    | _ => []
  | _ => []

variable {parse : String → Except String Config} {self : Connection}

/-- What a step does, the service running. -/
inductive Moved (parse : String → Except String Config) (self : Connection) :
    ConnectionInput → Effects × Connection → Prop
  | read {message : StreamMessage} : self.hasReader →
    Moved parse self (.read message) (.quiet,
      { self with channel := self.channel ++ [message], readerStopped := terminal message })
  | unread {message : StreamMessage} : ¬ self.hasReader →
    Moved parse self (.read message) (.quiet, self)
  | client {io : Io} {version : UInt32} {request : Request} :
    Moved parse self (.client io version request)
      (⟨(self.serveClient io version request).1, none⟩, (self.serveClient io version request).2)
  | ingested {answers : Answers} {message : StreamMessage} {channel : List StreamMessage}
      {sending : Bool} : self.channel = message :: channel →
    self.phase = .receiving ∧ sending = false ∨ self.phase = .draining sending →
    ¬ Rejected message →
    Moved parse self (.turn answers)
      (⟨(self.controller.ingestStreamMessage answers.io message).1.1, none⟩,
        { self with
          channel, phase := .draining sending
          controller := (self.controller.ingestStreamMessage answers.io message).2 })
  | rejected {answers : Answers} {message : StreamMessage} {channel : List StreamMessage}
      {error : String} : self.channel = message :: channel →
    self.phase = .receiving ∨ (∃ sending, self.phase = .draining sending) → Rejected message →
    Moved parse self (.turn answers)
      (.quiet, { self with channel, phase := .returned (.error error) })
  | orphaned {answers : Answers} {error : String} : self.channel = [] → self.readerStopped →
    self.phase = .receiving ∨ (∃ sending, self.phase = .draining sending) →
    Moved parse self (.turn answers) (.quiet, { self with phase := .returned (.error error) })
  | drained {answers : Answers} {sending : Bool} : self.channel = [] → ¬ self.readerStopped →
    self.phase = .draining sending →
    Moved parse self (.turn answers)
      (.quiet, { self with phase := if sending then .taking else .polling })
  | polled {answers : Answers} {next : Phase} :
    self.phase = .receiving ∧ self.channel = [] ∧ ¬ self.readerStopped ∧ next = .receiving ∨
      self.phase = .polling ∧ next = .checking →
    (∀ config,
      (self.watcher.pollIfDue parse answers.elapsed answers.file).1 ≠ .reloaded config) →
    Moved parse self (.turn answers) (.quiet, { self with
      watcher := (self.watcher.pollIfDue parse answers.elapsed answers.file).2, phase := next })
  | reloaded {answers : Answers} {config : Config} :
    self.phase = .receiving ∧ self.channel = [] ∧ ¬ self.readerStopped ∨ self.phase = .polling →
    (self.watcher.pollIfDue parse answers.elapsed answers.file).1 = .reloaded config →
    Moved parse self (.turn answers) (.quiet, { self with
      watcher := (self.watcher.pollIfDue parse answers.elapsed answers.file).2
      phase := .returned (.ok config) })
  | idle {answers : Answers} : self.phase = .checking → self.controller.pending.isEmpty →
    Moved parse self (.turn answers) (.quiet, { self with phase := .receiving })
  | busy {answers : Answers} : self.phase = .checking → ¬ self.controller.pending.isEmpty →
    Moved parse self (.turn answers) (.quiet, { self with phase := .draining true })
  | spent {answers : Answers} : self.phase = .taking →
    self.controller.pending.popNext.1 = none →
    Moved parse self (.turn answers) (.quiet, { self with
      controller.pending := self.controller.pending.popNext.2, phase := .receiving })
  | taken {answers : Answers} {action : ResizeAction} : self.phase = .taking →
    self.controller.pending.popNext.1 = some action →
    Moved parse self (.turn answers) (.quiet, { self with
      controller.pending := self.controller.pending.popNext.2, phase := .sending action })
  | sent {answers : Answers} {action : ResizeAction} : self.phase = .sending action →
    Moved parse self (.turn answers) (⟨[], some action⟩, { self with phase := .checking })
  | refused {answers : Answers} {action : ResizeAction} {error : String} :
    self.phase = .sending action →
    Moved parse self (.turn answers) (.quiet, { self with phase := .returned (.error error) })
  | ended {answers : Answers} {result : Except String Config} : self.phase = .returned result →
    Moved parse self (.turn answers) (.quiet, self)

lemma moved_receive {answers : Answers} {sending : Bool} {empty : Connection}
    (hs : self.controller.service.running)
    (hp : self.phase = .receiving ∧ sending = false ∨ self.phase = .draining sending)
    (hempty : self.channel = [] → ¬ self.readerStopped →
      Moved parse self (.turn answers) (.quiet, empty)) :
    Moved parse self (.turn answers)
      (⟨(self.receive answers.io (.draining sending) empty).1, none⟩,
        (self.receive answers.io (.draining sending) empty).2) := by
  have hphase : self.phase = .receiving ∨ ∃ sending, self.phase = .draining sending :=
    hp.imp And.left fun hp => ⟨sending, hp⟩
  rw [receive]
  cases hc : self.channel with
  | cons message channel =>
    by_cases hr : Rejected message
    · obtain ⟨error, he⟩ := Controller.ingestStreamMessage_rejected self.controller hr answers.io
      simp only [ingest, he]
      exact .rejected hc hphase hr
    · have hok := Controller.ingestStreamMessage_accepted hs hr answers.io
      have hm : Moved parse self (.turn answers) _ := .ingested hc hp hr
      simp only [ingest]
      rcases hi : self.controller.ingestStreamMessage answers.io message with ⟨⟨writes, result⟩, _⟩
      rw [hi] at hok hm
      obtain rfl : result = .ok () := hok
      exact hm
  | nil =>
    dsimp only
    by_cases hstopped : self.readerStopped
    · rw [if_pos hstopped, ← hc]
      exact .orphaned hc hstopped hphase
    · rw [if_neg hstopped]
      exact hempty hc hstopped

lemma moved_poll {answers : Answers} {next : Phase}
    (hp : self.phase = .receiving ∧ self.channel = [] ∧ ¬ self.readerStopped ∧ next = .receiving ∨
      self.phase = .polling ∧ next = .checking) :
    Moved parse self (.turn answers) (.quiet, self.poll parse answers next) := by
  have heq : self.poll parse answers next = { self with
      watcher := (self.watcher.pollIfDue parse answers.elapsed answers.file).2
      phase :=
        match (self.watcher.pollIfDue parse answers.elapsed answers.file).1 with
        | .reloaded config => .returned (.ok config)
        | _ => next } := by
    rw [poll]
    rcases self.watcher.pollIfDue parse answers.elapsed answers.file with ⟨_ | _ | _, _⟩ <;> rfl
  rw [heq]
  cases he : (self.watcher.pollIfDue parse answers.elapsed answers.file).1 with
  | reloaded config => exact .reloaded (hp.imp (fun h => ⟨h.1, h.2.1, h.2.2.1⟩) And.left) he
  | unchanged => exact .polled hp (by simp [he])
  | rejected error => exact .polled hp (by simp [he])

variable (parse) in
lemma moved (hs : self.controller.service.running) (input : ConnectionInput) :
    Moved parse self input (self.step parse input) := by
  cases input with
  | read message =>
    by_cases hr : self.hasReader
    · rw [step, deliver, if_pos hr]
      exact .read hr
    · rw [step, deliver, if_neg hr]
      exact .unread hr
  | client io version request => exact .client
  | turn answers =>
    rw [step, turn]
    cases hp : self.phase with
    | receiving =>
      exact moved_receive hs (.inl ⟨hp, rfl⟩) fun hc hstopped =>
        moved_poll (.inl ⟨hp, hc, hstopped, rfl⟩)
    | draining sending =>
      exact moved_receive hs (.inr hp) fun hc hstopped => .drained hc hstopped hp
    | polling => exact moved_poll (.inr ⟨hp, rfl⟩)
    | checking =>
      by_cases he : self.controller.pending.isEmpty
      · dsimp only
        rw [if_pos he]
        exact .idle hp he
      · dsimp only
        rw [if_neg he]
        exact .busy hp he
    | taking =>
      cases ha : self.controller.pending.popNext.1 with
      | none =>
        dsimp only
        rw [ha]
        exact .spent hp ha
      | some action =>
        dsimp only
        rw [ha]
        exact .taken hp ha
    | sending action =>
      cases ha : answers.applied with
      | ok => simpa only [ha] using Moved.sent hp
      | error error => simpa only [ha] using Moved.refused hp
    | returned result => exact .ended hp

lemma rejected_of_terminal {message : StreamMessage} (h : terminal message) :
    Rejected message := by
  rcases message with error | _ | event
  · exact .failed error
  · exact .closed
  · cases h

lemma channel_of_stopped {message last : StreamMessage} {channel : List StreamMessage}
    (hl : (message :: channel).getLast? = some last) (ht : terminal last)
    (hr : ¬ Rejected message) : channel.getLast? = some last := by
  cases channel with
  | nil =>
    obtain rfl : message = last := by simpa using hl
    exact absurd (rejected_of_terminal ht) hr
  | cons next channel => rwa [List.getLast?_cons_cons] at hl

def Running (self : Connection) : Prop :=
  ∀ result, self.phase ≠ .returned result

structure Sound (connection : Connection) : Prop where
  running : connection.controller.service.running
  targets : Targets connection.controller.adapter connection.controller.pending
  idle : connection.phase = .receiving → connection.controller.pending.isEmpty
  reader : connection.readerStopped → connection.Running →
    ∃ message, connection.channel.getLast? = some message ∧ terminal message

namespace Sound

lemma ingested (h : Sound self) (io : Io) (message : StreamMessage) :
    (self.controller.ingestStreamMessage io message).2.service.running ∧
      Targets (self.controller.ingestStreamMessage io message).2.adapter
        (self.controller.ingestStreamMessage io message).2.pending := by
  obtain ⟨writes, result, next, hm, hr, -⟩ :=
    Daemon.ingestStreamMessage_service self.controller h.running io message
  refine ⟨by rwa [hm], ?_⟩
  exact Controller.step_targets h.targets (.message io message)

lemma next (h : Sound self) {input : ConnectionInput} {out : Effects × Connection}
    (hm : Moved parse self input out) : Sound out.2 := by
  have hreader : ∀ {phase : Phase}, self.phase = phase → (∀ result, phase ≠ .returned result) →
      self.readerStopped →
        ∃ message, self.channel.getLast? = some message ∧ terminal message := by
    intro phase hp hne hs
    exact h.reader hs fun result hr => hne result (hp.symm.trans hr)
  cases hm with
  | read _ => exact ⟨h.running, h.targets, h.idle, fun ht _ => ⟨_, List.getLast?_concat, ht⟩⟩
  | unread _ => exact h
  | client => exact ⟨h.running, h.targets, h.idle, h.reader⟩
  | @ingested answers message channel sending hc hp hr =>
    obtain ⟨hrunning, htargets⟩ := h.ingested answers.io message
    refine ⟨hrunning, htargets, by simp, fun hs _ => ?_⟩
    obtain ⟨last, hl, ht⟩ : ∃ last, self.channel.getLast? = some last ∧ terminal last := by
      rcases hp with ⟨hp, -⟩ | hp
      · exact hreader hp (by simp) hs
      · exact hreader hp (by simp) hs
    exact ⟨last, channel_of_stopped (hc ▸ hl) ht hr, ht⟩
  | rejected _ _ _ => exact ⟨h.running, h.targets, by simp, fun _ hr => absurd rfl (hr _)⟩
  | orphaned _ _ _ => exact ⟨h.running, h.targets, by simp, fun _ hr => absurd rfl (hr _)⟩
  | @drained answers sending _ hs _ =>
    exact ⟨h.running, h.targets, by cases sending <;> simp, fun hr => absurd hr hs⟩
  | polled hp _ =>
    rcases hp with ⟨hp, -, hs, rfl⟩ | ⟨hp, rfl⟩
    · exact ⟨h.running, h.targets, fun _ => h.idle hp, fun hr => absurd hr hs⟩
    · exact ⟨h.running, h.targets, by simp, fun hs _ => hreader hp (by simp) hs⟩
  | reloaded _ _ => exact ⟨h.running, h.targets, by simp, fun _ hr => absurd rfl (hr _)⟩
  | idle hp he => exact ⟨h.running, h.targets, fun _ => he, fun hs _ => hreader hp (by simp) hs⟩
  | busy hp _ => exact ⟨h.running, h.targets, by simp, fun hs _ => hreader hp (by simp) hs⟩
  | spent hp ha =>
    refine ⟨h.running, h.targets.popNext, fun _ => ?_, fun hs _ => hreader hp (by simp) hs⟩
    rcases PendingResizes.popNext_cases h.targets.keyed with ⟨he, hpop⟩ | ⟨action, hpop, -⟩
    · rw [hpop]
      exact Std.ExtTreeMap.isEmpty_iff.mpr he
    · rw [hpop] at ha
      cases ha
  | taken hp _ =>
    exact ⟨h.running, h.targets.popNext, by simp, fun hs _ => hreader hp (by simp) hs⟩
  | sent hp => exact ⟨h.running, h.targets, by simp, fun hs _ => hreader hp (by simp) hs⟩
  | refused _ => exact ⟨h.running, h.targets, by simp, fun _ hr => absurd rfl (hr _)⟩
  | ended _ => exact h

variable (parse) in
lemma step (h : Sound self) (input : ConnectionInput) : Sound (self.step parse input).2 :=
  h.next (moved parse h.running input)

end Sound

lemma sound_connect (config : Config) {service : Service} (hs : service.running)
    (watcher : ConfigWatcher) : Sound (connect config service watcher) where
  running := hs
  targets := .new config
  idle _ := by simp [connect, Controller.connect, PendingResizes.isEmpty, PendingResizes.default]
  reader h := by cases h

variable (parse) in
lemma sound (config : Config) {service : Service} (hs : service.running)
    (watcher : ConfigWatcher) (inputs : List ConnectionInput) :
    Sound (after parse config service watcher inputs) :=
  run_invariant (Connection.step parse) (fun _ input h => h.step parse input)
    (sound_connect config hs watcher) inputs

def events (messages : List StreamMessage) : List NiriEvent :=
  messages.filterMap fun message => message.toOption.join

lemma events_append (messages more : List StreamMessage) :
    events (messages ++ more) = events messages ++ events more :=
  List.filterMap_append

lemma Moved.flow {input : ConnectionInput} {out : Effects × Connection}
    (hm : Moved parse self input out) :
    (∃ answers message channel, input = .turn answers ∧ self.channel = message :: channel ∧
      self.received input = [message] ∧ out.2.channel = channel ∧
      (out.2.Running → ¬ Rejected message) ∧
      out.2.controller = (self.controller.ingestStreamMessage answers.io message).2) ∨
    (self.received input = [] ∧ out.2.channel = self.channel ++ self.delivered input ∧
      out.2.controller.adapter = self.controller.adapter ∧
      (out.2.controller.service = self.controller.service ∨ ∃ io version request,
        out.2.controller.service.broker =
          (self.controller.service.broker.turn (io, .client version request)).2)) := by
  cases hm with
  | read hr => exact .inr ⟨rfl, by simp [delivered, hr], rfl, .inl rfl⟩
  | unread hr => exact .inr ⟨rfl, by simp [delivered, hr], rfl, .inl rfl⟩
  | client => exact .inr ⟨rfl, (List.append_nil _).symm, rfl, .inr ⟨_, _, _, rfl⟩⟩
  | ingested hc hp hr =>
    refine .inl ⟨_, _, _, rfl, hc, ?_, rfl, fun _ => hr, rfl⟩
    rcases hp with ⟨hp, -⟩ | hp <;> simp [received, hp, hc]
  | @rejected answers message _ _ hc hp hr =>
    obtain ⟨_, he⟩ := Controller.ingestStreamMessage_rejected self.controller hr answers.io
    refine .inl ⟨answers, message, _, rfl, hc, ?_, rfl, fun h => absurd rfl (h _), by rw [he]⟩
    rcases hp with hp | ⟨sending, hp⟩ <;> simp [received, hp, hc]
  | orphaned hc _ hp =>
    refine .inr ⟨?_, (List.append_nil _).symm, rfl, .inl rfl⟩
    rcases hp with hp | ⟨sending, hp⟩ <;> simp [received, hp, hc]
  | drained hc _ hp =>
    exact .inr ⟨by simp [received, hp, hc], (List.append_nil _).symm, rfl, .inl rfl⟩
  | polled hp _ =>
    refine .inr ⟨?_, (List.append_nil _).symm, rfl, .inl rfl⟩
    rcases hp with ⟨hp, hc, -⟩ | ⟨hp, -⟩
    · simp [received, hp, hc]
    · simp [received, hp]
  | reloaded hp _ =>
    refine .inr ⟨?_, (List.append_nil _).symm, rfl, .inl rfl⟩
    rcases hp with ⟨hp, hc, -⟩ | hp
    · simp [received, hp, hc]
    · simp [received, hp]
  | idle hp _ | busy hp _ | spent hp _ | taken hp _ | sent hp | refused hp | ended hp =>
    exact .inr ⟨by simp [received, hp], (List.append_nil _).symm, rfl, .inl rfl⟩

lemma Moved.running {input : ConnectionInput} {out : Effects × Connection}
    (hm : Moved parse self input out) (h : out.2.Running) : self.Running := by
  intro result hp
  cases hm with
  | read _ | unread _ | client => exact h result hp
  | ended _ => exact h result hp
  | ingested _ hq _ => rcases hq with ⟨hq, -⟩ | hq <;> rw [hp] at hq <;> cases hq
  | polled hq _ => rcases hq with ⟨hq, -⟩ | ⟨hq, -⟩ <;> rw [hp] at hq <;> cases hq
  | rejected _ _ _ | orphaned _ _ _ | reloaded _ _ | refused _ => exact h _ rfl
  | drained _ _ hq | idle hq _ | busy hq _ | spent hq _ | taken hq _ | sent hq =>
    rw [hp] at hq
    cases hq

lemma channel_step (hs : Sound self) (input : ConnectionInput) :
    self.received input ++ (self.step parse input).2.channel =
      self.channel ++ self.delivered input := by
  rcases (moved parse hs.running input).flow with
    ⟨answers, message, channel, rfl, hc, hr, ho, -, -⟩ | ⟨hr, ho, -, -⟩
  · rw [hr, ho, hc]
    exact (List.append_nil _).symm
  · rw [hr, ho]
    rfl

lemma adapter_step (hs : Sound self) (input : ConnectionInput) :
    (self.step parse input).2.controller.adapter =
      Machine.run NiriAdapter.apply self.controller.adapter (events (self.received input)) := by
  rcases (moved parse hs.running input).flow with
    ⟨answers, message, channel, rfl, -, hr, -, -, hc⟩ | ⟨hr, -, ha, -⟩
  · have hevent : (Controller.Input.message answers.io message).event?.toList =
        events [message] := by
      rcases message with error | _ | event <;> rfl
    rw [hc, hr, ← hevent]
    exact self.controller.step_adapter (.message answers.io message)
  · rw [ha, hr]
    rfl

lemma hasReader_iff : self.hasReader ↔ self.Running ∧ ¬ self.readerStopped := by
  rw [hasReader, Running]
  cases self.phase <;> simp

lemma Moved.hasReader {input : ConnectionInput} {out : Effects × Connection}
    (hm : Moved parse self input out) (h : out.2.hasReader) : self.hasReader := by
  obtain ⟨hrun, hstopped⟩ := hasReader_iff.mp h
  refine hasReader_iff.mpr ⟨hm.running hrun, ?_⟩
  cases hm with
  | read hr => exact (hasReader_iff.mp hr).2
  | _ => exact hstopped

def reads (inputs : List ConnectionInput) : List StreamMessage :=
  inputs.filterMap fun
    | .read message => some message
    | _ => none

variable (parse) in
lemma delivered_of_no_reader (hs : Sound self) (h : ¬ self.hasReader)
    (inputs : List ConnectionInput) : trace (step parse) delivered self inputs = [] := by
  induction inputs generalizing self with
  | nil => rfl
  | cons input inputs ih =>
    have hm := moved parse hs.running input
    rw [trace_cons, ih (hs.step parse input) (mt hm.hasReader h), List.append_nil]
    cases input with
    | read message => exact if_neg h
    | _ => rfl

variable (parse) in
lemma prefix_delivered (hs : Sound self) (inputs : List ConnectionInput) :
    trace (step parse) delivered self inputs <+: reads inputs := by
  induction inputs generalizing self with
  | nil => exact List.prefix_rfl
  | cons input inputs ih =>
    have hrest := ih (hs.step parse input)
    rw [trace_cons]
    cases input with
    | read message =>
      by_cases hr : self.hasReader
      · rw [delivered, if_pos hr]
        exact List.prefix_cons_inj message |>.mpr hrest
      · have hm := moved parse hs.running (.read message)
        rw [delivered, if_neg hr,
          delivered_of_no_reader parse (hs.step parse _) (mt hm.hasReader hr)]
        exact List.nil_prefix
    | client io version request => exact hrest
    | turn answers => exact hrest

section Run

variable {config : Config} {service : Service} {watcher : ConfigWatcher}

abbrev history (parse : String → Except String Config) (config : Config) (service : Service)
    (watcher : ConfigWatcher) (inputs : List ConnectionInput) : List StreamMessage :=
  trace (step parse) received (connect config service watcher) inputs

lemma history_concat (inputs : List ConnectionInput) (input : ConnectionInput) :
    history parse config service watcher (inputs ++ [input]) =
      history parse config service watcher inputs ++
        (after parse config service watcher inputs).received input := by
  rw [history, trace_append, trace_cons, trace_nil, List.append_nil]

lemma after_concat (inputs : List ConnectionInput) (input : ConnectionInput) :
    after parse config service watcher (inputs ++ [input]) =
      ((after parse config service watcher inputs).step parse input).2 := by
  rw [after, run_append, run_cons, run_nil]

lemma history_append_channel (hs : service.running) (inputs : List ConnectionInput) :
    history parse config service watcher inputs ++
        (after parse config service watcher inputs).channel =
      trace (step parse) delivered (connect config service watcher) inputs :=
  trace_conserved (step parse) (fun _ input h => h.step parse input)
    (fun _ input h => channel_step h input) (sound_connect config hs watcher) inputs

lemma prefix_history (hs : service.running) (inputs : List ConnectionInput) :
    history parse config service watcher inputs <+: reads inputs := by
  refine List.IsPrefix.trans ?_ (prefix_delivered parse (sound_connect config hs watcher) inputs)
  exact ⟨_, history_append_channel hs inputs⟩

lemma adapter_after (hs : service.running) (inputs : List ConnectionInput) :
    (after parse config service watcher inputs).controller.adapter =
      .after config (events (history parse config service watcher inputs)) := by
  induction inputs using List.reverseRecOn with
  | nil => rfl
  | append_singleton inputs input ih =>
    rw [after_concat, adapter_step (sound parse config hs watcher inputs), ih, history_concat,
      events_append, NiriAdapter.after, NiriAdapter.after, run_append]

/-- The pending resizes are those of an earlier state of the run that had no message waiting, and
no message has been received since. -/
def Caught (parse : String → Except String Config) (start : Connection)
    (inputs : List ConnectionInput) (pending : PendingResizes) : Prop :=
  ∃ before since, inputs = before ++ since ∧ (run (step parse) start before).channel = [] ∧
    (run (step parse) start before).controller.pending = pending ∧
    trace (step parse) received (run (step parse) start before) since = []

lemma Caught.concat {start : Connection} {inputs : List ConnectionInput}
    {pending : PendingResizes} (h : Caught parse start inputs pending) {input : ConnectionInput}
    (hr : (run (step parse) start inputs).received input = []) :
    Caught parse start (inputs ++ [input]) pending := by
  obtain ⟨before, since, rfl, hc, hp, hs⟩ := h
  refine ⟨before, since ++ [input], (List.append_assoc _ _ _), hc, hp, ?_⟩
  rw [run_append] at hr
  rw [trace_append, hs, trace_cons, hr]
  rfl

structure Choosing (parse : String → Except String Config) (start : Connection)
    (inputs : List ConnectionInput) (connection : Connection) : Prop where
  taking : connection.phase = .taking →
    Caught parse start inputs connection.controller.pending
  sending (action : ResizeAction) : connection.phase = .sending action →
    ∃ pending, Caught parse start inputs pending ∧ pending.popNext.1 = some action ∧
      pending.popNext.2 = connection.controller.pending

lemma choosing (hs : service.running) (inputs : List ConnectionInput) :
    Choosing parse (connect config service watcher) inputs
      (after parse config service watcher inputs) := by
  induction inputs using List.reverseRecOn with
  | nil => exact ⟨fun h => (nomatch h), fun _ h => (nomatch h)⟩
  | append_singleton inputs input ih =>
    rw [after_concat]
    have hm := moved parse (sound parse config hs watcher inputs).running input
    generalize (after parse config service watcher inputs).step parse input = out at hm
    cases hm with
    | read _ | unread _ | client =>
      refine ⟨fun hp => (ih.taking hp).concat rfl, fun _ hp => ?_⟩
      obtain ⟨pending, hc, h⟩ := ih.sending _ hp
      exact ⟨pending, hc.concat rfl, h⟩
    | @drained answers sending hc _ hp =>
      refine ⟨fun _ => ⟨inputs, [.turn answers], rfl, hc, rfl, ?_⟩, fun _ hp => ?_⟩
      · simp [received, hp, hc]
      · cases sending <;> cases hp
    | @taken answers action hp ha =>
      refine ⟨fun hp => (nomatch hp), fun _ he => ?_⟩
      obtain rfl := Phase.sending.inj he
      refine ⟨_, (ih.taking hp).concat (by simp [received, hp]), ha, rfl⟩
    | polled hp _ =>
      rcases hp with ⟨-, -, -, rfl⟩ | ⟨-, rfl⟩ <;>
        exact ⟨fun hp => (nomatch hp), fun _ hp => (nomatch hp)⟩
    | ended hp =>
      refine ⟨fun he => ?_, fun _ he => ?_⟩ <;> rw [hp] at he <;> cases he
    | _ => exact ⟨fun hp => (nomatch hp), fun _ hp => (nomatch hp)⟩

lemma received_accepted (hs : service.running) (inputs : List ConnectionInput)
    (hrun : (after parse config service watcher inputs).Running) :
    ∀ message ∈ history parse config service watcher inputs, ¬ Rejected message := by
  induction inputs using List.reverseRecOn with
  | nil => simp
  | append_singleton inputs input ih =>
    have hm := moved parse (sound parse config hs watcher inputs).running input
    rw [after_concat] at hrun
    intro message hmem
    rw [history_concat] at hmem
    rcases List.mem_append.mp hmem with hmem | hmem
    · exact ih (hm.running hrun) message hmem
    · rcases hm.flow with ⟨_, message', _, _, _, hr, _, haccepted, _⟩ | ⟨hr, _⟩ <;> rw [hr] at hmem
      · obtain rfl := List.mem_singleton.mp hmem
        exact haccepted hrun
      · cases hmem

end Run

end Connection

open Connection

/-- A connection ingests what its reader delivers, in order and without loss. It waits only with
nothing to send, never finds the channel closed under it, and sends only what it chose when no
message was waiting. -/
theorem messages_in_order (parse : String → Except String Config) (config : Config)
    (service : Service) (hs : service.running) (watcher : ConfigWatcher)
    (inputs : List ConnectionInput) :
    let self := after parse config service watcher inputs
    let received := history parse config service watcher inputs
    received ++ self.channel =
        trace (step parse) delivered (connect config service watcher) inputs ∧
      (self.Running → ∀ message ∈ received, ¬ Rejected message) ∧
      self.controller.adapter = .after config (events received) ∧
      (self.phase = .receiving → self.controller.pending.isEmpty) ∧
      (self.phase = .receiving ∨ (∃ sending, self.phase = .draining sending) →
        self.channel = [] → ¬ self.readerStopped) ∧
      ∀ action, self.phase = .sending action → ∃ before since, inputs = before ++ since ∧
        (after parse config service watcher before).channel = [] ∧
        history parse config service watcher before = received ∧
        (after parse config service watcher before).controller.pending.popNext.1 = some action := by
  intro self received
  have hsound := sound parse config hs watcher inputs
  refine ⟨history_append_channel hs inputs, received_accepted hs inputs, adapter_after hs inputs,
    hsound.idle, fun hp hc hstopped => ?_, fun action hp => ?_⟩
  · obtain ⟨last, hl, -⟩ := hsound.reader hstopped fun result hr => by
      rcases hp with hp | ⟨sending, hp⟩ <;> rw [hp] at hr <;> cases hr
    rw [hc] at hl
    cases hl
  · obtain ⟨pending, ⟨before, since, rfl, hc, rfl, hsince⟩, ha, -⟩ :=
      (choosing hs inputs).sending action hp
    have hreceived : received = history parse config service watcher before :=
      (trace_append ..).trans (by rw [hsince, List.append_nil])
    exact ⟨before, since, rfl, hc, hreceived.symm, ha⟩

def Phase.action? : Phase → Option ResizeAction
  | .sending action => some action
  | _ => none

lemma Phase.eq_sending {phase : Phase} {action : ResizeAction} (h : phase.action? = some action) :
    phase = .sending action := by
  cases phase with
  | sending other =>
    obtain rfl := Option.some.inj h
    rfl
  | _ => cases h

theorem messages_in_order_bounce :
    let parse := fun _ => Except.ok Config.kittyAndCode
    let watcher : ConfigWatcher := .new "config.toml" ""
    let kitty : NiriWindow := ⟨10, some "window", some "kitty", true, false⟩
    let code : NiriWindow := ⟨20, some "window", some "code", false, false⟩
    let turn : ConnectionInput := .turn .reliable
    let inputs := [.read (.ok (some (.windowsChanged [kitty, code]))), turn,
      .read (.ok (some (.windowFocusChanged (some 20)))), turn, turn, turn, turn, turn, turn]
    ∃ action before since, action.windowId = 20 ∧ inputs = before ++ since ∧
      history parse .kittyAndCode .start watcher before =
        [.ok (some (.windowsChanged [kitty, code])),
          .ok (some (.windowFocusChanged (some 20)))] ∧
      (after parse .kittyAndCode .start watcher before).controller.pending.popNext.1 =
        some action := by
  intro parse watcher kitty code turn inputs
  have hphase : ((after parse .kittyAndCode .start watcher inputs).phase.action?).map
      (·.windowId) = some 20 := by decide +kernel
  obtain ⟨action, ha, hid⟩ := Option.map_eq_some_iff.mp hphase
  have h := messages_in_order parse .kittyAndCode .start rfl watcher inputs
  obtain ⟨before, since, hi, -, hb, hpop⟩ := h.2.2.2.2.2 action (Phase.eq_sending ha)
  exact ⟨action, before, since, hid, hi, hb.trans (by decide +kernel), hpop⟩

end Melibea
