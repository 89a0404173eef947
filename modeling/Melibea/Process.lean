import Melibea.Connection

/-! The run command as a whole: connections to niri that come and go over one service. -/

namespace Melibea

open Library Machine

inductive Process
  | connecting (config : Config) (service : Service) (watcher : ConfigWatcher)
  | connected (config : Config) (connection : Connection)
  | exited (error : String)

inductive ProcessInput
  | connect (io : Io) (result : Except String Unit)
  | connection (input : ConnectionInput)

namespace Process

variable (parse : String → Except String Config)

variable {parse} in
def start (loaded : LoadedConfig parse) : Process :=
  .connecting loaded.config .start (.new loaded.path loaded.source)

def withdraw (io : Io) (reason : String) (config : Config) (service : Service)
    (watcher : ConfigWatcher) : List Write × Process :=
  match service.setUnavailable io reason with
  | ((writes, .ok ()), service) => (writes, .connecting config service watcher)
  | ((writes, .error error), _) => (writes, .exited error.display)

-- What `run_controller_inner` does with the result of a connection.
def disconnect (io : Io) (result : Except String Config) (config : Config) (service : Service)
    (watcher : ConfigWatcher) : List Write × Process :=
  match result with
  | .ok reloaded =>
    withdraw io "reloading configuration and rebuilding niri state" reloaded service watcher
  | .error error => withdraw io s!"niri connection lost: {error}" config service watcher

def connect (self : Process) (io : Io) (result : Except String Unit) : List Write × Process :=
  match self with
  | .connecting config service watcher =>
    match result with
    | .ok () => ([], .connected config (.connect config service watcher))
    | .error error => disconnect io (.error error) config service watcher
  | .connected _ _ | .exited _ => ([], self)

def work (self : Process) (input : ConnectionInput) : List Write × Process :=
  match self with
  | .connecting config service watcher =>
    match input with
    | .client io version request =>
      let (writes, broker) := service.broker.turn (io, .client version request)
      (writes, .connecting config { service with broker } watcher)
    | .read _ | .turn _ => ([], self)
  | .connected config connection =>
    match connection.phase, input with
    | .returned result, .turn answers =>
      disconnect answers.io result config connection.controller.service connection.watcher
    | _, _ =>
      let (effects, connection) := connection.step parse input
      (effects.writes, .connected config connection)
  | .exited _ => ([], self)

def step (self : Process) : ProcessInput → List Write × Process
  | .connect io result => self.connect io result
  | .connection input => self.work parse input

variable {parse}

abbrev after (loaded : LoadedConfig parse) (inputs : List ProcessInput) : Process :=
  Machine.run (step parse) (start loaded) inputs

lemma after_concat (loaded : LoadedConfig parse) (inputs : List ProcessInput)
    (input : ProcessInput) :
    after loaded (inputs ++ [input]) = ((after loaded inputs).step parse input).2 := by
  rw [after, run_append, run_cons, run_nil]

def ingestCalls (connection : Connection) (io : Io) (message : StreamMessage) :
    List ControllerInput :=
  match (connection.controller.ingestStreamMessage io message).1.2 with
  | .ok () => [.message io message]
  | .error _ => []

variable (parse) in
def pollCalls (connection : Connection) (answers : Answers) : List ControllerInput :=
  match (connection.watcher.pollIfDue parse answers.elapsed answers.file).1 with
  | .reloaded _ => []
  | .unchanged | .rejected _ => [.poll answers.io answers.elapsed answers.file]

variable (parse) in
def turnCalls (connection : Connection) (answers : Answers) : List ControllerInput :=
  match connection.phase with
  | .receiving =>
    match connection.channel with
    | message :: _ => ingestCalls connection answers.io message
    | [] => if connection.readerStopped then [] else pollCalls parse connection answers
  | .draining _ =>
    match connection.channel with
    | message :: _ => ingestCalls connection answers.io message
    | [] => []
  | .polling => pollCalls parse connection answers
  | .taking => [.popNext]
  | .checking | .sending _ => []
  | .returned (.ok _) => [.poll answers.io true (.ok connection.watcher.lastSeenSource)]
  | .returned (.error error) => [.lost answers.io error]

variable (parse) in
def calls (self : Process) : ProcessInput → List ControllerInput
  | .connect io (.error error) =>
    match self with
    | .connecting _ _ _ => [.lost io error]
    | .connected _ _ | .exited _ => []
  | .connect _ (.ok ()) => []
  | .connection (.client io version request) =>
    match self with
    | .connecting _ _ _ | .connected _ _ => [.client io version request]
    | .exited _ => []
  | .connection (.read _) => []
  | .connection (.turn answers) =>
    match self with
    | .connected _ connection => turnCalls parse connection answers
    | .connecting _ _ _ | .exited _ => []

inductive Matches (parse : String → Except String Config) : Process → RunController → Prop
  | connecting {config : Config} {service : Service} {watcher : ConfigWatcher} : service.running →
    Matches parse (.connecting config service watcher) ⟨⟨config, .connect config service⟩, watcher⟩
  | connected {config : Config} {connection : Connection} : connection.Sound →
    (∀ reloaded, connection.phase ≠ .returned (.ok reloaded)) →
    Matches parse (.connected config connection)
      ⟨⟨config, connection.controller⟩, connection.watcher⟩
  | reloading {config reloaded : Config} {connection : Connection} {watcher : ConfigWatcher} :
    connection.Sound → connection.phase = .returned (.ok reloaded) →
    watcher.pollNow parse (.ok connection.watcher.lastSeenSource) =
      (.reloaded reloaded, connection.watcher) →
    Matches parse (.connected config connection) ⟨⟨config, connection.controller⟩, watcher⟩

lemma Matches.running {config : Config} {service : Service} {watcher : ConfigWatcher}
    {run : RunController} (h : Matches parse (.connecting config service watcher) run) :
    service.running := by
  cases h with
  | connecting hs => exact hs

def Simulated (parse : String → Except String Config) (out : List Write × Process)
    (run : RunController) (calls : List ControllerInput) : Prop :=
  Matches parse out.2 (Machine.run (RunController.step parse) run calls) ∧
    out.1 = (Machine.outputs (RunController.step parse) run calls).flatten

variable {config : Config} {connection : Connection} {service : Service} {watcher : ConfigWatcher}

lemma simulated_withdraw (h : service.running) {io : Io} {reason : String} {run : RunController}
    {input : ControllerInput}
    (hstep : RunController.step parse run input =
      ((Daemon.reconnect io reason config service).1,
        ⟨(Daemon.reconnect io reason config service).2, watcher⟩)) :
    Simulated parse (withdraw io reason config service watcher) run [input] := by
  rw [Simulated, run_cons, run_nil, outputs_cons, outputs_nil, hstep,
    Daemon.reconnect_eq h io reason config, withdraw]
  simp only [Service.setUnavailable, Service.sendSynchronized, h, if_true, List.flatten_cons,
    List.flatten_nil, List.append_nil, and_true]
  exact .connecting rfl

lemma pollIfDue_reloaded {answers : Answers} {reloaded : Config}
    (h : (watcher.pollIfDue parse answers.elapsed answers.file).1 = .reloaded reloaded) :
    watcher.pollNow parse
        (.ok (watcher.pollIfDue parse answers.elapsed answers.file).2.lastSeenSource) =
      (.reloaded reloaded, (watcher.pollIfDue parse answers.elapsed answers.file).2) := by
  rw [ConfigWatcher.pollIfDue] at h ⊢
  split_ifs at h ⊢
  have hpolled := ConfigWatcher.polled parse watcher answers.file
  rw [h] at hpolled
  generalize hseen : (watcher.pollNow parse answers.file).2.lastSeenSource = seen at hpolled
  generalize answers.file = file at h hpolled hseen ⊢
  cases hpolled with
  | unreadable hn => exact absurd rfl (hn reloaded)
  | reloaded _ _ => exact Prod.ext h rfl

lemma pollCalls_quiet {answers : Answers}
    (h : ∀ config,
      (connection.watcher.pollIfDue parse answers.elapsed answers.file).1 ≠ .reloaded config) :
    pollCalls parse connection answers = [.poll answers.io answers.elapsed answers.file] := by
  rw [pollCalls]
  split
  next config he => exact absurd he (h config)
  all_goals rfl

lemma pollCalls_reloaded {answers : Answers} {reloaded : Config}
    (h : (connection.watcher.pollIfDue parse answers.elapsed answers.file).1 =
      .reloaded reloaded) : pollCalls parse connection answers = [] := by
  rw [pollCalls, h]

lemma simulated_quiet {next : Connection} (hs : next.Sound)
    (hr : ∀ reloaded, next.phase ≠ .returned (.ok reloaded))
    (hc : next.controller = connection.controller) (hw : next.watcher = connection.watcher) :
    Simulated parse ([], .connected config next)
      ⟨⟨config, connection.controller⟩, connection.watcher⟩ [] := by
  refine ⟨?_, rfl⟩
  rw [run_nil, ← hc, ← hw]
  exact .connected hs hr

lemma simulated_turn (hs : connection.Sound) (hr : connection.Running) (answers : Answers) :
    Simulated parse
      ((connection.step parse (.turn answers)).1.writes,
        .connected config (connection.step parse (.turn answers)).2)
      ⟨⟨config, connection.controller⟩, connection.watcher⟩
      (turnCalls parse connection answers) := by
  have hsound := hs.step parse (.turn answers)
  have hm := Connection.moved parse hs.running (.turn answers)
  generalize connection.step parse (.turn answers) = out at hm hsound
  cases hm with
  | @ingested answers message channel sending hc hp hrejected =>
    have hok := Controller.ingestStreamMessage_accepted hs.running hrejected answers.io
    have hcalls : turnCalls parse connection answers = [.message answers.io message] := by
      have hingest : ingestCalls connection answers.io message = [.message answers.io message] := by
        rw [ingestCalls, hok]
      rcases hp with ⟨hp, -⟩ | hp <;> simp [turnCalls, hp, hc, hingest]
    have hstep : RunController.step parse ⟨⟨config, connection.controller⟩, connection.watcher⟩
        (.message answers.io message) =
          ((connection.controller.ingestStreamMessage answers.io message).1.1,
            ⟨⟨config, (connection.controller.ingestStreamMessage answers.io message).2⟩,
              connection.watcher⟩) := by
      rw [RunController.step, RunController.forward, Daemon.step]
      rcases hi : connection.controller.ingestStreamMessage answers.io message with
        ⟨⟨writes, result⟩, controller⟩
      rw [hi] at hok
      obtain rfl : result = .ok () := hok
      rfl
    rw [hcalls, Simulated, run_cons, run_nil, outputs_cons, outputs_nil, hstep]
    exact ⟨.connected hsound (by simp), (List.append_nil _).symm⟩
  | @rejected answers message channel error hc hp hrejected =>
    have hcalls : turnCalls parse connection answers = [] := by
      obtain ⟨_, he⟩ :=
        Controller.ingestStreamMessage_rejected connection.controller hrejected answers.io
      have hingest : ingestCalls connection answers.io message = [] := by rw [ingestCalls, he]
      rcases hp with hp | ⟨sending, hp⟩ <;> simp [turnCalls, hp, hc, hingest]
    rw [hcalls]
    exact simulated_quiet hsound (by simp) rfl rfl
  | orphaned hc hstopped hp =>
    have hcalls : turnCalls parse connection answers = [] := by
      rcases hp with hp | ⟨sending, hp⟩ <;> simp [turnCalls, hp, hc, hstopped]
    rw [hcalls]
    exact simulated_quiet hsound (by simp) rfl rfl
  | @drained answers sending hc _ hp =>
    have hcalls : turnCalls parse connection answers = [] := by simp [turnCalls, hp, hc]
    rw [hcalls]
    refine simulated_quiet hsound (fun _ he => ?_) rfl rfl
    cases sending <;> cases he
  | @polled answers next hp hn =>
    have hcalls : turnCalls parse connection answers =
        [.poll answers.io answers.elapsed answers.file] := by
      rcases hp with ⟨hp, hc, hstopped, -⟩ | ⟨hp, -⟩
      · simp [turnCalls, hp, hc, hstopped, pollCalls_quiet hn]
      · simp [turnCalls, hp, pollCalls_quiet hn]
    have hstep : RunController.step parse ⟨⟨config, connection.controller⟩, connection.watcher⟩
        (.poll answers.io answers.elapsed answers.file) = ([], ⟨⟨config, connection.controller⟩,
          (connection.watcher.pollIfDue parse answers.elapsed answers.file).2⟩) :=
      RunController.heed_of_ne_reloaded hn answers.io
    rw [hcalls, Simulated, run_cons, run_nil, outputs_cons, outputs_nil, hstep]
    refine ⟨.connected hsound fun reloaded he => ?_, rfl⟩
    rcases hp with ⟨-, -, -, rfl⟩ | ⟨-, rfl⟩ <;> cases he
  | @reloaded answers reloaded hp hreloaded =>
    have hcalls : turnCalls parse connection answers = [] := by
      rcases hp with ⟨hp, hc, hstopped⟩ | hp
      · simp [turnCalls, hp, hc, hstopped, pollCalls_reloaded hreloaded]
      · simp [turnCalls, hp, pollCalls_reloaded hreloaded]
    rw [hcalls]
    exact ⟨.reloading hsound rfl (pollIfDue_reloaded hreloaded), rfl⟩
  | idle hp _ | busy hp _ | sent hp | refused hp =>
    have hcalls : turnCalls parse connection answers = [] := by simp [turnCalls, hp]
    rw [hcalls]
    exact simulated_quiet hsound (by simp) rfl rfl
  | spent hp _ | taken hp _ =>
    have hcalls : turnCalls parse connection answers = [.popNext] := by simp [turnCalls, hp]
    rw [hcalls]
    exact ⟨.connected hsound (by simp), rfl⟩
  | ended hp => exact absurd hp (hr _)

lemma work_connected {input : ConnectionInput}
    (h : ∀ result answers, connection.phase = .returned result → input ≠ .turn answers) :
    work parse (.connected config connection) input =
      ((connection.step parse input).1.writes,
        .connected config (connection.step parse input).2) := by
  rw [work]
  exact h

lemma work_returned {result : Except String Config} (hp : connection.phase = .returned result)
    (answers : Answers) :
    work parse (.connected config connection) (.turn answers) =
      disconnect answers.io result config connection.controller.service connection.watcher := by
  simp only [work, hp]

lemma simulated_other (hs : connection.Sound) {watcher : ConfigWatcher}
    (hmatch : ∀ next : Connection, next.Sound → next.phase = connection.phase →
      next.watcher = connection.watcher →
      Matches parse (.connected config next) ⟨⟨config, next.controller⟩, watcher⟩)
    {input : ConnectionInput} (hi : ∀ answers, input ≠ .turn answers) :
    Simulated parse (work parse (.connected config connection) input)
      ⟨⟨config, connection.controller⟩, watcher⟩
      (calls parse (.connected config connection) (.connection input)) := by
  have hsound := hs.step parse input
  rw [work_connected fun _ answers _ => hi answers]
  cases input with
  | read message =>
    have hdeliver : (connection.deliver message).phase = connection.phase ∧
        (connection.deliver message).watcher = connection.watcher ∧
        (connection.deliver message).controller = connection.controller := by
      rw [Connection.deliver]
      split_ifs <;> exact ⟨rfl, rfl, rfl⟩
    refine ⟨?_, rfl⟩
    rw [calls, run_nil, ← hdeliver.2.2]
    exact hmatch _ hsound hdeliver.1 hdeliver.2.1
  | client io version request =>
    exact ⟨hmatch _ hsound rfl rfl, (List.append_nil _).symm⟩
  | turn answers => exact absurd rfl (hi answers)

lemma simulated_step {self : Process} {run : RunController} (h : Matches parse self run)
    (input : ProcessInput) :
    Simulated parse (self.step parse input) run (self.calls parse input) := by
  cases input with
  | connect io result =>
    cases h with
    | @connecting config service watcher hs =>
      cases result with
      | ok =>
        refine ⟨.connected (Connection.sound_connect config hs watcher) fun _ he => ?_, rfl⟩
        cases he
      | error error => exact simulated_withdraw hs rfl
    | connected hs hr => cases result <;> exact ⟨.connected hs hr, rfl⟩
    | reloading hs hp hw => cases result <;> exact ⟨.reloading hs hp hw, rfl⟩
  | connection input =>
    cases h with
    | connecting hs =>
      cases input with
      | client io version request => exact ⟨.connecting hs, (List.append_nil _).symm⟩
      | _ => exact ⟨.connecting hs, rfl⟩
    | @connected config connection hs hr =>
      by_cases hi : ∃ answers, input = .turn answers
      · obtain ⟨answers, rfl⟩ := hi
        cases hp : connection.phase with
        | returned result =>
          cases result with
          | ok reloaded => exact absurd hp (hr reloaded)
          | error error =>
            have hcalls : calls parse (.connected config connection) (.connection (.turn answers)) =
                [.lost answers.io error] := by simp [calls, turnCalls, hp]
            rw [step, work_returned hp, hcalls]
            exact simulated_withdraw hs.running rfl
        | _ =>
          have hrun : connection.Running := fun result he => by
            rw [hp] at he
            cases he
          rw [step, work_connected fun result _ he => absurd he (hrun result)]
          exact simulated_turn hs hrun answers
      · refine simulated_other hs (fun next hnext hphase hwatcher => ?_) (not_exists.mp hi)
        rw [← hwatcher]
        exact .connected hnext (hphase ▸ hr)
    | @reloading config reloaded connection watcher hs hp hw =>
      by_cases hi : ∃ answers, input = .turn answers
      · obtain ⟨answers, rfl⟩ := hi
        have hcalls : calls parse (.connected config connection) (.connection (.turn answers)) =
            [.poll answers.io true (.ok connection.watcher.lastSeenSource)] := by
          simp [calls, turnCalls, hp]
        rw [step, work_returned hp, hcalls]
        refine simulated_withdraw hs.running ?_
        rw [RunController.step_poll, hw]
        rfl
      · refine simulated_other hs (fun next hnext hphase hwatcher => ?_) (not_exists.mp hi)
        exact .reloading hnext (hphase.trans hp) (by rw [hwatcher, hw])

lemma simulation (parse : String → Except String Config) :
    Simulation (step parse) (RunController.step parse) (calls parse) (Matches parse) id id where
  matched h input := (simulated_step h input).1
  observed h input := by
    rw [List.flatMap_id]
    exact (simulated_step h input).2

lemma matches_start (loaded : LoadedConfig parse) :
    Matches parse (start loaded) (RunController.start loaded) := .connecting rfl

end Process

namespace RunController

variable (parse : String → Except String Config)

def calls (self : RunController) : ControllerInput → List DaemonInput
  | .message io message => [.message io message]
  | .popNext => [.popNext]
  | .lost io error => [.lost io error]
  | .client io version request => [.client io version request]
  | .poll io elapsed read =>
    match (self.watcher.pollIfDue parse elapsed read).1 with
    | .reloaded config => [.reload io config]
    | .unchanged | .rejected _ => []

lemma matched (self : RunController) (input : ControllerInput) :
    (self.step parse input).2.daemon =
        Machine.run Daemon.step self.daemon (self.calls parse input) ∧
      (self.step parse input).1 =
        (Machine.outputs Daemon.step self.daemon (self.calls parse input)).flatten := by
  cases input with
  | poll io elapsed read =>
    rw [step, calls]
    rcases self.watcher.pollIfDue parse elapsed read with ⟨_ | config | _, watcher⟩
    · exact ⟨rfl, rfl⟩
    · exact ⟨rfl, (List.append_nil _).symm⟩
    · exact ⟨rfl, rfl⟩
  | _ => exact ⟨rfl, (List.append_nil _).symm⟩

lemma simulation : Simulation (step parse) Daemon.step (calls parse)
    (fun self daemon => self.daemon = daemon) id id where
  matched {self daemon} h input := by
    subst h
    exact (self.matched parse input).1
  observed {self daemon} h input := by
    subst h
    rw [List.flatMap_id]
    exact (self.matched parse input).2

end RunController

namespace Process

variable {parse : String → Except String Config}

abbrev written (loaded : LoadedConfig parse) (inputs : List ProcessInput) : List Write :=
  (outputs (step parse) (start loaded) inputs).flatten

abbrev daemonInputs (loaded : LoadedConfig parse) (inputs : List ProcessInput) :
    List DaemonInput :=
  trace (RunController.step parse) (RunController.calls parse) (RunController.start loaded)
    (trace (step parse) (calls parse) (start loaded) inputs)

lemma matches_after (loaded : LoadedConfig parse) (inputs : List ProcessInput) :
    Matches parse (after loaded inputs)
      (RunController.after loaded (trace (step parse) (calls parse) (start loaded) inputs)) :=
  (simulation parse).run (matches_start loaded) inputs

lemma daemon_after (loaded : LoadedConfig parse) (inputs : List ProcessInput) :
    (RunController.after loaded (trace (step parse) (calls parse) (start loaded) inputs)).daemon =
      Daemon.after loaded.config (daemonInputs loaded inputs) :=
  (RunController.simulation parse).run rfl _

lemma written_eq (loaded : LoadedConfig parse) (inputs : List ProcessInput) :
    written loaded inputs = Daemon.written loaded.config (daemonInputs loaded inputs) := by
  have hprocess := (simulation parse).outputs (matches_start loaded) inputs
  have hdaemon := (RunController.simulation parse).outputs (s := .start loaded)
    (t := .start loaded.config) rfl (trace (step parse) (calls parse) (start loaded) inputs)
  simp only [List.flatMap_id] at hprocess hdaemon
  exact hprocess.trans hdaemon

end Process

def ProcessInput.connection? : ProcessInput → Option ConnectionInput
  | .connection input => some input
  | .connect _ _ => none

namespace Process

variable {parse : String → Except String Config} {loaded : LoadedConfig parse}

structure Made (loaded : LoadedConfig parse) (inputs : List ProcessInput) (config : Config)
    (connection : Connection) (since : List ConnectionInput) (service : Service)
    (watcher : ConfigWatcher) : Prop where
  origin : ∃ before io rest, inputs = before ++ .connect io (.ok ()) :: rest ∧
    after loaded before = .connecting config service watcher ∧
    since = rest.filterMap ProcessInput.connection?
  running : service.running
  runs : connection = Connection.after parse config service watcher since

lemma withdraw_ne_connected {io : Io} {reason : String} {config config' : Config} {service : Service}
    {watcher : ConfigWatcher} {connection : Connection} :
    (withdraw io reason config service watcher).2 ≠ .connected config' connection := by
  rw [withdraw]
  split <;> exact fun h => (nomatch h)

lemma disconnect_ne_connected {io : Io} {result : Except String Config} {config config' : Config}
    {service : Service} {watcher : ConfigWatcher} {connection : Connection} :
    (disconnect io result config service watcher).2 ≠ .connected config' connection := by
  cases result with
  | _ => exact withdraw_ne_connected

lemma Made.concat {inputs : List ProcessInput} {config : Config} {connection : Connection}
    {since : List ConnectionInput} {service : Service} {watcher : ConfigWatcher}
    (h : Made loaded inputs config connection since service watcher) (input : ProcessInput) :
    Made loaded (inputs ++ [input]) config
      (run (Connection.step parse) connection input.connection?.toList)
      (since ++ input.connection?.toList) service watcher := by
  obtain ⟨before, io, rest, rfl, hb, rfl⟩ := h.origin
  refine ⟨⟨before, io, rest ++ [input], by simp, hb, ?_⟩, h.running, ?_⟩
  · rw [List.filterMap_append]
    cases input <;> rfl
  · rw [Connection.after, run_append, h.runs]

lemma connected_step {self : Process} {input : ProcessInput} {config : Config}
    {connection : Connection} (h : (self.step parse input).2 = .connected config connection) :
    (∃ service watcher io, self = .connecting config service watcher ∧
      input = .connect io (.ok ()) ∧ connection = .connect config service watcher) ∨
    ∃ previous, self = .connected config previous ∧
      connection = run (Connection.step parse) previous input.connection?.toList := by
  cases self with
  | connecting config' service watcher =>
    cases input with
    | connect io result =>
      cases result with
      | ok =>
        obtain ⟨rfl, rfl⟩ := Process.connected.inj h
        exact .inl ⟨service, watcher, io, rfl, rfl, rfl⟩
      | error error => exact absurd h disconnect_ne_connected
    | connection input => cases input <;> cases h
  | connected config' previous =>
    cases input with
    | connect io result =>
      obtain ⟨rfl, rfl⟩ := Process.connected.inj h
      exact .inr ⟨_, rfl, rfl⟩
    | connection input =>
      by_cases hr : ∃ result answers, previous.phase = .returned result ∧ input = .turn answers
      · obtain ⟨result, answers, hp, rfl⟩ := hr
        rw [step, work_returned hp] at h
        exact absurd h disconnect_ne_connected
      · rw [step, work_connected fun result answers hp hi => hr ⟨result, answers, hp, hi⟩] at h
        obtain ⟨rfl, rfl⟩ := Process.connected.inj h
        exact .inr ⟨_, rfl, rfl⟩
  | exited error => cases input <;> cases h

lemma made_connect {inputs : List ProcessInput} {config : Config} {service : Service}
    {watcher : ConfigWatcher} (h : after loaded inputs = .connecting config service watcher) (io : Io) :
    Made loaded (inputs ++ [.connect io (.ok ())]) config (.connect config service watcher) [] service
      watcher := by
  have hm := matches_after loaded inputs
  rw [h] at hm
  exact ⟨⟨inputs, io, [], rfl, h, rfl⟩, hm.running, rfl⟩

lemma made {inputs : List ProcessInput} {config : Config} {connection : Connection}
    (h : after loaded inputs = .connected config connection) :
    ∃ since service watcher, Made loaded inputs config connection since service watcher := by
  induction inputs using List.reverseRecOn generalizing config connection with
  | nil => cases h
  | append_singleton inputs input ih =>
    rw [after_concat] at h
    rcases connected_step h with ⟨service, watcher, io, hself, rfl, rfl⟩ | ⟨previous, hself, rfl⟩
    · exact ⟨[], service, watcher, made_connect hself io⟩
    · obtain ⟨since, service, watcher, hs⟩ := ih hself
      exact ⟨_, _, _, hs.concat input⟩

section Daemon

variable {inputs : List ProcessInput} {config : Config}

lemma daemon_of_connecting {service : Service} {watcher : ConfigWatcher}
    (he : after loaded inputs = .connecting config service watcher) :
    Daemon.after loaded.config (daemonInputs loaded inputs) = ⟨config, .connect config service⟩ := by
  have hm := matches_after loaded inputs
  rw [← daemon_after]
  rw [he] at hm
  generalize RunController.after loaded _ = run at hm ⊢
  cases hm with
  | connecting _ => rfl

lemma daemon_of_connected {connection : Connection}
    (he : after loaded inputs = .connected config connection) :
    Daemon.after loaded.config (daemonInputs loaded inputs) = ⟨config, connection.controller⟩ := by
  have hm := matches_after loaded inputs
  rw [← daemon_after]
  rw [he] at hm
  generalize RunController.after loaded _ = run at hm ⊢
  cases hm with
  | connected _ _ => rfl
  | reloading _ _ _ => rfl

end Daemon

end Process

open Process

/-- The run command never stops. Over any run it has written what the daemon writes, whose state
it shares, and each of its connections is a run of a connection from the time it was made. -/
theorem process_refines_daemon (parse : String → Except String Config)
    (loaded : LoadedConfig parse) (inputs : List ProcessInput) :
    let self := Process.after loaded inputs
    let daemon := Daemon.after loaded.config (daemonInputs loaded inputs)
    written loaded inputs = Daemon.written loaded.config (daemonInputs loaded inputs) ∧
      (∀ error, self ≠ .exited error) ∧
      (∀ config service watcher, self = .connecting config service watcher →
        daemon = ⟨config, .connect config service⟩) ∧
      ∀ config connection, self = .connected config connection →
        daemon = ⟨config, connection.controller⟩ ∧
          ∃ since service watcher, Made loaded inputs config connection since service watcher := by
  intro self daemon
  refine ⟨written_eq loaded inputs, fun error he => ?_,
    fun config service watcher he => daemon_of_connecting he,
    fun config connection he => ⟨daemon_of_connected he, made he⟩⟩
  have hm : Matches parse self _ := matches_after loaded inputs
  rw [he] at hm
  cases hm

end Melibea
