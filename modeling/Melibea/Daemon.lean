import Melibea.Controller
import Melibea.Revisions

/-! The daemon: connections to niri come and go, one service outlives them all. -/

namespace Melibea

open Library

-- `lost` is every end of a connection but a reload and a message that cannot be ingested.
inductive DaemonInput
  | message (io : Io) (message : StreamMessage)
  | popNext
  | lost (io : Io) (error : String)
  | reload (io : Io) (config : Config)
  | client (io : Io) (version : UInt32) (request : Request)

structure Daemon where
  config : Config
  controller : Controller

namespace Daemon

def start (config : Config) : Daemon where
  config := config
  controller := .connect config .start

-- `run_controller_inner` between two connections; the service it holds always answers.
def reconnect (io : Io) (reason : String) (config : Config) (service : Service) :
    List Write × Daemon :=
  let ((writes, _), service) := service.setUnavailable io reason
  (writes, { config, controller := .connect config service })

def step (self : Daemon) : DaemonInput → List Write × Daemon
  | .message io message =>
    match self.controller.ingestStreamMessage io message with
    | ((writes, .ok ()), controller) => (writes, { self with controller })
    | ((writes, .error error), controller) =>
      let (more, self) :=
        reconnect io s!"niri connection lost: {error}" self.config controller.service
      (writes ++ more, self)
  | .popNext => ([], { self with controller := (self.controller.step .popNext).2 })
  | .lost io error =>
    reconnect io s!"niri connection lost: {error}" self.config self.controller.service
  | .reload io config =>
    reconnect io "reloading configuration and rebuilding niri state" config
      self.controller.service
  | .client io version request =>
    let (writes, broker) := self.controller.service.broker.turn (io, .client version request)
    (writes, { self with controller.service.broker := broker })

abbrev after (config : Config) (inputs : List DaemonInput) : Daemon :=
  Machine.run step (start config) inputs

def written (config : Config) (inputs : List DaemonInput) : List Write :=
  (Machine.outputs step (start config) inputs).flatten

end Daemon

namespace DaemonInput

def io : DaemonInput → Option Io
  | .message io _ | .lost io _ | .reload io _ | .client io _ _ => some io
  | .popNext => none

def snapshot : DaemonInput → Option (List MinimizedWindow)
  | .message _ (.ok (some (.minimizedWindowsChanged windows))) =>
    if (windows.map (·.id)).Nodup then some windows else none
  | _ => none

end DaemonInput

def lastSnapshot (inputs : List DaemonInput) : Option (List MinimizedWindow) :=
  (inputs.filterMap DaemonInput.snapshot).getLast?

lemma lastSnapshot_concat (inputs : List DaemonInput) (input : DaemonInput) :
    lastSnapshot (inputs ++ [input]) = input.snapshot.or (lastSnapshot inputs) := by
  rw [lastSnapshot, List.filterMap_append]
  cases h : input.snapshot <;> simp [h, lastSnapshot]

inductive Turned (broker : Broker) : DaemonInput → List Write × Broker → Prop
  | quiet {input : DaemonInput} : input.snapshot = none → Turned broker input ([], broker)
  | published {io : Io} {windows : List MinimizedWindow} : (windows.map (·.id)).Nodup →
    Turned broker (.message io (.ok (some (.minimizedWindowsChanged windows))))
      (broker.turn (io, .publish (windows.map Window.ofMinimized)))
  | withdrawn {input : DaemonInput} {io : Io} (reason : String) : input.io = some io →
    input.snapshot = none → Turned broker input (broker.turn (io, .setUnavailable reason))
  | client {io : Io} {version : UInt32} {request : Request} :
    Turned broker (.client io version request) (broker.turn (io, .client version request))

namespace Daemon

def broker (self : Daemon) : Broker := self.controller.service.broker

variable {self : Daemon}

lemma replaceSnapshot_ok (registry : MinimizedRegistry) {windows : List MinimizedWindow}
    (h : (windows.map (·.id)).Nodup) : ∃ change,
      (registry.replaceSnapshot windows).1 = .ok change ∧
        (registry.replaceSnapshot windows).2.windows = windows := by
  have hr : MinimizedRegistry.repeatedId [] windows = none :=
    MinimizedRegistry.repeatedId_eq_none.mpr ⟨h, by simp⟩
  simp only [MinimizedRegistry.replaceSnapshot, hr]
  split_ifs with he
  · exact ⟨_, rfl, he⟩
  · exact ⟨_, rfl, rfl⟩

lemma replaceSnapshot_error (registry : MinimizedRegistry) {windows : List MinimizedWindow}
    (h : ¬ (windows.map (·.id)).Nodup) : ∃ error,
      registry.replaceSnapshot windows = (.error error, registry) := by
  cases hr : MinimizedRegistry.repeatedId [] windows with
  | none => exact absurd (MinimizedRegistry.repeatedId_eq_none.mp hr).1 h
  | some id => exact ⟨.duplicateWindow id, by rw [MinimizedRegistry.replaceSnapshot, hr]⟩

lemma reconnect_eq {service : Service} (h : service.running) (io : Io) (reason : String)
    (config : Config) :
    reconnect io reason config service =
      ((service.broker.turn (io, .setUnavailable reason)).1,
        { config, controller := .connect config
            { service with broker := (service.broker.turn (io, .setUnavailable reason)).2 } }) := by
  simp only [reconnect, Service.setUnavailable, Service.sendSynchronized, h, if_true]

lemma ingestEvent_service (controller : Controller) (event : NiriEvent) :
    (controller.ingestEvent event).2.service = controller.service := by
  rw [Controller.ingestEvent]
  split <;> rfl

lemma ingestStreamMessage_event (controller : Controller) (io : Io) {event : NiriEvent}
    (h : ∀ windows, event ≠ .minimizedWindowsChanged windows) :
    controller.ingestStreamMessage io (.ok (some event)) =
      (([], (controller.ingestEvent event).1), (controller.ingestEvent event).2) := by
  cases event with
  | minimizedWindowsChanged windows => exact absurd rfl (h windows)
  | _ => rfl

lemma ingestStreamMessage_service (controller : Controller) (h : controller.service.running)
    (io : Io) (message : StreamMessage) : ∃ writes result next,
      controller.ingestStreamMessage io message = ((writes, result), next) ∧
      next.service.running ∧
      ((∃ windows, message = .ok (some (.minimizedWindowsChanged windows)) ∧
        (windows.map (·.id)).Nodup ∧ result = .ok () ∧
        (writes, next.service.broker) =
          controller.service.broker.turn (io, .publish (windows.map Window.ofMinimized))) ∨
      ((DaemonInput.message io message).snapshot = none ∧ writes = [] ∧
        next.service.broker = controller.service.broker)) := by
  match message with
  | .error error => exact ⟨_, _, _, rfl, h, .inr ⟨rfl, rfl, rfl⟩⟩
  | .ok none => exact ⟨_, _, _, rfl, h, .inr ⟨rfl, rfl, rfl⟩⟩
  | .ok (some event) =>
    by_cases hmin : ∃ windows, event = .minimizedWindowsChanged windows
    · obtain ⟨windows, rfl⟩ := hmin
      by_cases hn : (windows.map (·.id)).Nodup
      · obtain ⟨change, hok, hwindows⟩ := replaceSnapshot_ok controller.minimized hn
        match hm : controller.minimized.replaceSnapshot windows with
        | (result, registry) =>
          rw [hm] at hok hwindows
          obtain rfl : result = .ok change := hok
          obtain rfl : registry.windows = windows := hwindows
          simp only [Controller.ingestStreamMessage, Controller.ingestMinimized,
            MinimizedRegistry.apply, hm, Service.publishSnapshot, Service.sendSynchronized, h,
            if_true]
          exact ⟨_, _, _, rfl, rfl, .inl ⟨_, rfl, hn, rfl, rfl⟩⟩
      · obtain ⟨error, he⟩ := replaceSnapshot_error controller.minimized hn
        simp only [Controller.ingestStreamMessage, Controller.ingestMinimized,
          MinimizedRegistry.apply, he]
        exact ⟨_, _, _, rfl, h, .inr ⟨if_neg hn, rfl, rfl⟩⟩
    · have hs := ingestEvent_service controller event
      rw [ingestStreamMessage_event _ _ (not_exists.mp hmin)]
      refine ⟨_, _, _, rfl, by rwa [hs], .inr ⟨?_, rfl, by rw [hs]⟩⟩
      cases event with
      | minimizedWindowsChanged windows => exact absurd ⟨windows, rfl⟩ hmin
      | _ => rfl

lemma step_turned (h : self.controller.service.running) (input : DaemonInput) :
    Turned self.broker input ((self.step input).1, (self.step input).2.broker) ∧
      (self.step input).2.controller.service.running := by
  cases input with
  | message io message =>
    obtain ⟨writes, result, controller, hm, hr, hcases⟩ :=
      ingestStreamMessage_service self.controller h io message
    rcases hcases with ⟨windows, rfl, hn, rfl, hb⟩ | ⟨hnone, rfl, hb⟩
    · rw [step, hm]
      exact ⟨show Turned _ _ (writes, controller.service.broker) from hb ▸ .published hn, hr⟩
    · rw [step, hm]
      cases result with
      | ok value =>
        exact ⟨show Turned _ _ ([], controller.service.broker) from hb ▸ .quiet hnone, hr⟩
      | error error =>
        simp only [reconnect_eq hr, List.nil_append]
        refine ⟨?_, hr⟩
        rw [hb]
        exact .withdrawn _ rfl hnone
  | popNext => exact ⟨.quiet rfl, h⟩
  | lost io error =>
    simp only [step, reconnect_eq h]
    exact ⟨.withdrawn _ rfl rfl, h⟩
  | reload io config =>
    simp only [step, reconnect_eq h]
    exact ⟨.withdrawn _ rfl rfl, h⟩
  | client io version request => exact ⟨.client, h⟩

end Daemon

structure Io.Open (io : Io) (stream : StreamId) : Prop where
  writeMessage : io.writeMessage stream
  setNonblocking (nonblocking : Bool) : io.setNonblocking stream nonblocking
  read : io.read stream ≠ .ok 0 ∧ io.read stream ≠ .failed

namespace Broker

lemma subscriberDeparted_of_open {io : Io} {stream : StreamId} (h : io.Open stream) :
    subscriberDeparted io stream = false := by
  rw [subscriberDeparted, h.setNonblocking true, h.setNonblocking false]
  cases hr : io.read stream with
  | ok bytes =>
    have hne : bytes ≠ 0 := fun he => h.read.1 (he ▸ hr)
    simpa using hne
  | wouldBlock => rfl
  | interrupted => rfl
  | failed => exact absurd hr h.read.2

lemma mem_subscribers_turn {broker : Broker} {io : Io} {subscriber : Subscriber}
    (h : subscriber ∈ broker.state.subscribers) (ho : io.Open subscriber.stream)
    (message : BrokerMessage) : subscriber ∈ (broker.turn (io, message)).2.state.subscribers := by
  cases hc : message.command with
  | some command =>
    rw [turn_command _ io hc]
    exact BrokerState.mem_subscribers_obey h ho.writeMessage
  | none =>
    obtain ⟨version, request, rfl⟩ := message.client_of_command hc
    rw [turn_client, BrokerState.handleClient_eq]
    split_ifs
    · refine List.mem_append_left _ (List.mem_filter.mpr ⟨h, ?_⟩)
      simp [subscriberDeparted_of_open ho]
    · exact h

lemma windows_publish (broker : Broker) (io : Io) (windows : List Window) :
    (broker.turn (io, .publish windows)).2.state.windows = windows := by
  refine (congrArg Primary.value (broker.turn_primary (io, .publish windows))).trans ?_
  simp only [BrokerMessage.command, Option.elim_some]
  by_cases hsame : broker.state.primary.ready ∧ broker.state.primary.value = windows
  · rw [Primary.step, if_pos hsame]
    exact hsame.2
  · rw [Primary.step, if_neg hsame]

lemma ready_setUnavailable (broker : Broker) (io : Io) (reason : String) :
    (broker.turn (io, .setUnavailable reason)).2.state.ready = false := by
  refine (congrArg Primary.ready (broker.turn_primary (io, .setUnavailable reason))).trans ?_
  simp only [BrokerMessage.command, Option.elim_some, Primary.step]
  split_ifs with hsame
  · simpa using hsame.1
  · rfl

end Broker

def Current (broker : Broker) (last : Option (List MinimizedWindow)) : Prop :=
  broker.state.ready → last.map (·.map Window.ofMinimized) = some broker.state.windows

lemma ids_ofMinimized (windows : List MinimizedWindow) :
    (windows.map Window.ofMinimized).map Window.id = windows.map (·.id) := by
  rw [List.map_map]
  rfl

lemma Turned.serves {broker : Broker} {input : DaemonInput} {out : List Write × Broker}
    (h : Turned broker input out) {writes : List Write} (hf : Broker.Follows broker writes)
    {last : Option (List MinimizedWindow)} (hc : Current broker last) :
    Broker.Follows out.2 (writes ++ out.1) ∧ Current out.2 (input.snapshot.or last) := by
  cases h with
  | quiet hnone =>
    rw [List.append_nil, hnone, Option.none_or]
    exact ⟨hf, hc⟩
  | @published io windows hn =>
    have hsnapshot : (DaemonInput.message io
        (.ok (some (.minimizedWindowsChanged windows)))).snapshot = some windows := if_pos hn
    refine ⟨hf.turn fun other he => ?_, fun _ => ?_⟩
    · obtain rfl := BrokerMessage.publish.inj he
      rwa [ids_ofMinimized]
    · rw [hsnapshot, Broker.windows_publish]
      rfl
  | withdrawn reason _ hnone =>
    refine ⟨hf.turn fun other he => (nomatch he), fun hr => ?_⟩
    rw [Broker.ready_setUnavailable] at hr
    cases hr
  | @client io version request =>
    refine ⟨hf.turn fun other he => (nomatch he), fun hr => ?_⟩
    have hp := broker.turn_primary (io, .client version request)
    have hready : (broker.turn (io, .client version request)).2.state.ready = broker.state.ready :=
      congrArg Primary.ready hp
    have hwindows : (broker.turn (io, .client version request)).2.state.windows =
        broker.state.windows := congrArg Primary.value hp
    rw [hwindows]
    exact hc (hready ▸ hr)

lemma Turned.registered {broker : Broker} {input : DaemonInput} {out : List Write × Broker}
    (h : Turned broker input out) {subscriber : Subscriber}
    (hm : subscriber ∈ broker.state.subscribers)
    (ho : ∀ io, input.io = some io → io.Open subscriber.stream) :
    subscriber ∈ out.2.state.subscribers := by
  cases h with
  | quiet _ => exact hm
  | published _ => exact Broker.mem_subscribers_turn hm (ho _ rfl) _
  | withdrawn _ hio _ => exact Broker.mem_subscribers_turn hm (ho _ hio) _
  | client => exact Broker.mem_subscribers_turn hm (ho _ rfl) _

namespace Daemon

variable {config : Config} {inputs : List DaemonInput}

lemma after_concat (config : Config) (inputs : List DaemonInput) (input : DaemonInput) :
    after config (inputs ++ [input]) = ((after config inputs).step input).2 := by
  simp

lemma written_concat (config : Config) (inputs : List DaemonInput) (input : DaemonInput) :
    written config (inputs ++ [input]) =
      written config inputs ++ ((after config inputs).step input).1 := by
  simp [written]

lemma running (config : Config) (inputs : List DaemonInput) :
    (after config inputs).controller.service.running :=
  Machine.run_invariant step (P := fun self => self.controller.service.running)
    (fun _ input h => (step_turned h input).2) rfl inputs

lemma serves (config : Config) (inputs : List DaemonInput) :
    Broker.Follows (after config inputs).broker (written config inputs) ∧
      Current (after config inputs).broker (lastSnapshot inputs) := by
  induction inputs using List.reverseRecOn with
  | nil => exact ⟨Broker.follows [] (by simp), fun hr => (nomatch hr)⟩
  | append_singleton inputs input ih =>
    rw [after_concat, written_concat, lastSnapshot_concat]
    exact (step_turned (running config inputs) input).1.serves ih.1 ih.2

lemma registered {before rest : List DaemonInput} {io : Io} (version : UInt32)
    (hs : io.writeMessage (after config before).broker.accepted ∧
      io.tryClone (after config before).broker.accepted)
    (ho : ∀ input ∈ rest, ∀ io, input.io = some io →
      io.Open (after config before).broker.accepted) :
    (⟨version, (after config before).broker.accepted⟩ : Subscriber) ∈
      (after config (before ++ .client io version .subscribe :: rest)).broker.state.subscribers := by
  induction rest using List.reverseRecOn with
  | nil =>
    rw [after_concat]
    change _ ∈ ((after config before).broker.turn (io, .client version .subscribe)).2.state.subscribers
    rw [Broker.turn_client, BrokerState.handleClient_eq, if_pos ⟨rfl, hs⟩]
    exact List.mem_append_right _ (List.mem_singleton_self _)
  | append_singleton rest input ih =>
    rw [← List.cons_append, ← List.append_assoc, after_concat]
    have hold := ih fun x hx => ho x (List.mem_append_left _ hx)
    exact (step_turned (running config _) input).1.registered hold (ho input (by simp))

end Daemon

open Daemon

/-- In every run of the daemon a subscriber whose connection stays open holds, after every step
since its subscription, what the broker holds, which while ready is niri's last snapshot. -/
theorem replica_is_gapless (config : Config) (before rest : List DaemonInput) (io : Io)
    (version : UInt32)
    (hs : io.writeMessage (after config before).broker.accepted ∧
      io.tryClone (after config before).broker.accepted)
    (ho : ∀ input ∈ rest, ∀ io, input.io = some io →
      io.Open (after config before).broker.accepted) :
    let inputs := before ++ .client io version .subscribe :: rest
    let broker := (after config inputs).broker
    let client := replica (sent (written config inputs) (after config before).broker.accepted)
    client.ready = broker.state.ready ∧ client.revision = broker.state.revision ∧
      (broker.state.ready → client.value = broker.state.windows ∧
        (lastSnapshot inputs).map (·.map Window.ofMinimized) = some broker.state.windows) := by
  intro inputs broker client
  obtain ⟨hf, hc⟩ := serves config inputs
  have hm := hf.mirrors _ (registered version hs ho)
  exact ⟨hm.ready, hm.revision, fun hr => ⟨hm.value hr, hc hr⟩⟩

lemma open_reliable (stream : StreamId) : Io.reliable.Open stream where
  writeMessage := rfl
  setNonblocking _ := rfl
  read := by simp [Io.reliable]

theorem replica_is_gapless_after_loss :
    let window : MinimizedWindow := ⟨10, some "kitty", some "window"⟩
    let snapshot : DaemonInput :=
      .message .reliable (.ok (some (.minimizedWindowsChanged [window])))
    let rest := [snapshot, .lost .reliable "niri closed the event stream", snapshot]
    (replica (sent (written .kittyAndCode (.client .reliable 2 .subscribe :: rest)) 0)).value =
      [⟨10, some "kitty", some "window", none⟩] := by
  intro window snapshot rest
  have ho : ∀ input ∈ rest, ∀ io, input.io = some io → io.Open 0 := by
    intro input hi io he
    simp only [rest, List.mem_cons, List.not_mem_nil, or_false] at hi
    rcases hi with rfl | rfl | rfl <;> obtain rfl := Option.some.inj he <;>
      exact open_reliable 0
  have h := replica_is_gapless .kittyAndCode [] rest .reliable 2 ⟨rfl, rfl⟩ ho
  exact (h.2.2 (by decide +kernel)).1.trans (by decide +kernel)

end Melibea
