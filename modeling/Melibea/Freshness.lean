import Melibea.Process

/-! What clients are served is never left over from an earlier connection. -/

namespace Melibea

open Library Machine

def lastPublished (messages : List StreamMessage) : Option (List MinimizedWindow) :=
  (messages.filterMap fun message => (DaemonInput.message .reliable message).snapshot).getLast?

lemma lastPublished_append (messages more : List StreamMessage) :
    lastPublished (messages ++ more) = (lastPublished more).or (lastPublished messages) := by
  rw [lastPublished, List.filterMap_append, List.getLast?_append]
  rfl

lemma lastPublished_singleton (message : StreamMessage) :
    lastPublished [message] = (DaemonInput.message .reliable message).snapshot := by
  cases h : (DaemonInput.message .reliable message).snapshot <;> simp [lastPublished, h]

structure Served (broker : Broker) (last : Option (List MinimizedWindow)) : Prop where
  ready : broker.state.ready = last.isSome
  windows {windows : List MinimizedWindow} : last = some windows →
    broker.state.windows = windows.map Window.ofMinimized

namespace Served

variable {broker : Broker} {last : Option (List MinimizedWindow)}

lemma client (h : Served broker last) (io : Io) (version : UInt32) (request : Request) :
    Served (broker.turn (io, .client version request)).2 last := by
  have hp := broker.turn_primary (io, .client version request)
  refine ⟨(congrArg Primary.ready hp).trans h.ready, fun hw => ?_⟩
  exact (congrArg Primary.value hp).trans (h.windows hw)

lemma publish (broker : Broker) (io : Io) (windows : List MinimizedWindow) :
    Served (broker.turn (io, .publish (windows.map Window.ofMinimized))).2 (some windows) := by
  refine ⟨?_, fun hw => ?_⟩
  · refine (congrArg Primary.ready (broker.turn_primary (io, .publish _))).trans ?_
    simp only [BrokerMessage.command, Option.elim_some, Primary.step]
    split_ifs with hsame hready
    · exact hsame.1
    · rfl
    · rfl
  · obtain rfl := Option.some.inj hw
    exact broker.windows_publish io _

lemma withdrawn (broker : Broker) (io : Io) (reason : String) :
    Served (broker.turn (io, .setUnavailable reason)).2 none where
  ready := broker.ready_setUnavailable io reason
  windows hw := (nomatch hw)

lemma ingested (h : Served broker last) {controller : Controller}
    (hb : controller.service.broker = broker) (hs : controller.service.running) (io : Io)
    (message : StreamMessage) :
    Served (controller.ingestStreamMessage io message).2.service.broker
      ((lastPublished [message]).or last) := by
  subst hb
  obtain ⟨writes, result, next, hm, -, hcases⟩ :=
    Daemon.ingestStreamMessage_service controller hs io message
  rw [hm, lastPublished_singleton]
  rcases hcases with ⟨windows, rfl, hn, -, hb⟩ | ⟨hnone, -, hb⟩
  · have hsnapshot : (DaemonInput.message .reliable
        (.ok (some (.minimizedWindowsChanged windows)))).snapshot = some windows := if_pos hn
    rw [hsnapshot, show next.service.broker = _ from congrArg Prod.snd hb]
    exact publish controller.service.broker io windows
  · have hnone' : (DaemonInput.message .reliable message).snapshot = none := by
      rcases message with error | _ | event
      · rfl
      · rfl
      · cases event <;> exact hnone
    rw [hnone', hb]
    exact h

end Served

namespace Connection

variable {parse : String → Except String Config} {self : Connection}
  {last : Option (List MinimizedWindow)}

lemma Moved.served {input : ConnectionInput} {out : Effects × Connection} (hs : Sound self)
    (h : Served self.controller.service.broker last) (hm : Moved parse self input out) :
    Served out.2.controller.service.broker ((lastPublished (self.received input)).or last) := by
  rcases hm.flow with ⟨answers, message, channel, rfl, -, hr, -, -, hc⟩ | ⟨hr, -, -, hb⟩
  · rw [hr, hc]
    exact h.ingested rfl hs.running answers.io message
  · rw [hr]
    rcases hb with hb | ⟨io, version, request, hb⟩
    · rw [hb]
      exact h
    · rw [hb]
      exact h.client io version request

variable {config : Config} {service : Service} {watcher : ConfigWatcher}

lemma served (hs : service.running) (h : Served service.broker none)
    (inputs : List ConnectionInput) :
    Served (after parse config service watcher inputs).controller.service.broker
      (lastPublished (history parse config service watcher inputs)) := by
  induction inputs using List.reverseRecOn with
  | nil => exact h
  | append_singleton inputs input ih =>
    have hsound := sound parse config hs watcher inputs
    rw [after_concat, history_concat, lastPublished_append]
    exact (moved parse hsound.running input).served hsound ih

end Connection

namespace Process

variable {parse : String → Except String Config} {loaded : LoadedConfig parse}

def Resting : Process → Prop
  | .connecting _ service _ => service.running ∧ Served service.broker none
  | .connected _ connection => connection.Sound
  | .exited _ => False

lemma resting_withdraw {service : Service} (h : service.running) (io : Io) (reason : String)
    (config : Config) (watcher : ConfigWatcher) :
    Resting (withdraw io reason config service watcher).2 := by
  simp only [withdraw, Service.setUnavailable, Service.sendSynchronized, h, if_true]
  exact ⟨rfl, .withdrawn service.broker io reason⟩

lemma resting_disconnect {service : Service} (h : service.running) (io : Io)
    (result : Except String Config) (config : Config) (watcher : ConfigWatcher) :
    Resting (disconnect io result config service watcher).2 := by
  cases result with
  | ok reloaded => exact resting_withdraw h io _ reloaded watcher
  | error error => exact resting_withdraw h io _ config watcher

lemma Resting.step {self : Process} (h : Resting self) (input : ProcessInput) :
    Resting (self.step parse input).2 := by
  cases input with
  | connect io result =>
    cases self with
    | connecting config service watcher =>
      cases result with
      | ok => exact Connection.sound_connect config h.1 watcher
      | error error => exact resting_disconnect h.1 io (.error error) config watcher
    | connected config connection => exact h
    | exited error => exact h
  | connection input =>
    cases self with
    | connecting config service watcher =>
      cases input with
      | client io version request => exact ⟨h.1, h.2.client io version request⟩
      | _ => exact h
    | connected config connection =>
      by_cases hr : ∃ result answers,
          connection.phase = .returned result ∧ input = .turn answers
      · obtain ⟨result, answers, hp, rfl⟩ := hr
        rw [Process.step, work_returned hp]
        exact resting_disconnect h.running answers.io result config connection.watcher
      · have hr' : ∀ result answers, connection.phase = .returned result →
            input ≠ .turn answers := fun result answers hp hi => hr ⟨result, answers, hp, hi⟩
        rw [Process.step, work_connected hr']
        exact Connection.Sound.step parse h input
    | exited error => exact h

lemma resting (inputs : List ProcessInput) : Resting (after loaded inputs) :=
  run_invariant (Process.step parse) (fun _ input h => h.step input)
    (show Resting (start loaded) from ⟨rfl, rfl, fun hw => (nomatch hw)⟩) inputs

lemma follows (loaded : LoadedConfig parse) (inputs : List ProcessInput) :
    Broker.Follows (Daemon.after loaded.config (daemonInputs loaded inputs)).broker
      (written loaded inputs) := by
  rw [written_eq]
  exact (Daemon.serves loaded.config (daemonInputs loaded inputs)).1

lemma Made.served {inputs : List ProcessInput} {config : Config} {connection : Connection}
    {since : List ConnectionInput} {service : Service} {watcher : ConfigWatcher}
    (hmade : Made loaded inputs config connection since service watcher) :
    Served connection.controller.service.broker
      (lastPublished (Connection.history parse config service watcher since)) := by
  obtain ⟨before, _, _, _, hb, _⟩ := hmade.origin
  have hrested : Resting (after loaded before) := resting before
  rw [hb] at hrested
  rw [hmade.runs]
  exact Connection.served hmade.running hrested.2 since

lemma Made.shown {inputs : List ProcessInput} {config : Config} {connection : Connection}
    {since : List ConnectionInput} {service : Service} {watcher : ConfigWatcher}
    (hmade : Made loaded inputs config connection since service watcher)
    (he : after loaded inputs = .connected config connection) :
    ∀ subscriber ∈ connection.controller.service.broker.state.subscribers,
      let client := replica (sent (written loaded inputs) subscriber.stream)
      let last := lastPublished (Connection.history parse config service watcher since)
      client.ready = last.isSome ∧
        ∀ windows, last = some windows → client.value = windows.map Window.ofMinimized := by
  intro subscriber hm client last
  have hfollows := follows loaded inputs
  rw [Daemon.broker, daemon_of_connected he] at hfollows
  have hmirrors := hfollows.mirrors subscriber hm
  have hserved : Served connection.controller.service.broker last := hmade.served
  refine ⟨hmirrors.ready.trans hserved.ready, fun windows hw => ?_⟩
  refine (hmirrors.value ?_).trans (hserved.windows hw)
  exact hserved.ready.trans (by rw [hw]; rfl)

end Process

open Process Broker

/-- A subscriber is never shown windows of an earlier connection to niri as current. While there
is no connection it is told that none are available, and during one it is told of windows exactly
when this connection has brought a snapshot, which they then are. -/
theorem clients_see_this_connection (parse : String → Except String Config)
    (loaded : LoadedConfig parse) (inputs : List ProcessInput) :
    let self := Process.after loaded inputs
    (∀ config service watcher, self = .connecting config service watcher →
      ∀ subscriber ∈ service.broker.state.subscribers,
        (replica (sent (written loaded inputs) subscriber.stream)).ready = false) ∧
    ∀ config connection, self = .connected config connection →
      ∃ since service watcher, Made loaded inputs config connection since service watcher ∧
        ∀ subscriber ∈ connection.controller.service.broker.state.subscribers,
          let client := replica (sent (written loaded inputs) subscriber.stream)
          let last := lastPublished (Connection.history parse config service watcher since)
          client.ready = last.isSome ∧
            ∀ windows, last = some windows → client.value = windows.map Window.ofMinimized := by
  intro self
  refine ⟨fun config service watcher he subscriber hm => ?_, fun config connection he => ?_⟩
  · have hrest : Resting self := resting inputs
    have hfollows := follows loaded inputs
    rw [Daemon.broker, daemon_of_connecting he] at hfollows
    rw [he] at hrest
    exact (hfollows.mirrors subscriber hm).ready.trans hrest.2.ready
  · obtain ⟨since, service, watcher, hmade⟩ := made he
    exact ⟨since, service, watcher, hmade, hmade.shown he⟩

end Melibea
