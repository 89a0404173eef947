import Melibea.Daemon
import Melibea.Targets

/-! The configuration file under a running daemon. -/

namespace Melibea

open Library

variable (parse : String → Except String Config)

structure LoadedConfig where
  config : Config
  path : String
  source : String
  parsed : parse source = .ok config

structure ConfigWatcher where
  path : String
  lastSeenSource : String
  lastReadError : Option String
  deriving DecidableEq

inductive ConfigPoll
  | unchanged
  | reloaded (config : Config)
  | rejected (error : String)

namespace ConfigWatcher

def new (path source : String) : ConfigWatcher where
  path := path
  lastSeenSource := source
  lastReadError := none

def pollNow (self : ConfigWatcher) (read : Except String String) : ConfigPoll × ConfigWatcher :=
  match read with
  | .error error =>
    let message := s!"cannot read configuration update from {self.path}: {error}"
    if self.lastReadError = some message then (.unchanged, self)
    else (.rejected message, { self with lastReadError := some message })
  | .ok source =>
    let self := { self with lastReadError := none }
    if source = self.lastSeenSource then (.unchanged, self)
    else
      let self := { self with lastSeenSource := source }
      match parse source with
      | .ok config => (.reloaded config, self)
      | .error error =>
        (.rejected s!"configuration update from {self.path} rejected: {error}", self)

-- Whether the poll interval has elapsed is the clock's to say.
def pollIfDue (self : ConfigWatcher) (elapsed : Bool) (read : Except String String) :
    ConfigPoll × ConfigWatcher :=
  if !elapsed then (.unchanged, self) else self.pollNow parse read

end ConfigWatcher

inductive ControllerInput
  | message (io : Io) (message : StreamMessage)
  | popNext
  | lost (io : Io) (error : String)
  | client (io : Io) (version : UInt32) (request : Request)
  | poll (io : Io) (elapsed : Bool) (read : Except String String)

structure RunController where
  daemon : Daemon
  watcher : ConfigWatcher

namespace RunController

variable {parse} in
def start (loaded : LoadedConfig parse) : RunController where
  daemon := .start loaded.config
  watcher := .new loaded.path loaded.source

def forward (self : RunController) (input : DaemonInput) : List Write × RunController :=
  let (writes, daemon) := self.daemon.step input
  (writes, { self with daemon })

def heed (self : RunController) (io : Io) : ConfigPoll → List Write × RunController
  | .reloaded config => self.forward (.reload io config)
  | .unchanged | .rejected _ => ([], self)

def step (self : RunController) : ControllerInput → List Write × RunController
  | .message io message => self.forward (.message io message)
  | .popNext => self.forward .popNext
  | .lost io error => self.forward (.lost io error)
  | .client io version request => self.forward (.client io version request)
  | .poll io elapsed read =>
    let (poll, watcher) := self.watcher.pollIfDue parse elapsed read
    { self with watcher }.heed io poll

variable {parse}

abbrev after (loaded : LoadedConfig parse) (inputs : List ControllerInput) : RunController :=
  Machine.run (step parse) (start loaded) inputs

end RunController

def ControllerInput.text : ControllerInput → Option String
  | .poll _ true (.ok source) => some source
  | _ => none

def lastRead (initial : String) (inputs : List ControllerInput) : String :=
  (inputs.filterMap (·.text)).getLastD initial

def lastGood (initial : String) (inputs : List ControllerInput) : String :=
  ((inputs.filterMap (·.text)).filter fun source => (parse source).isOk).getLastD initial

variable {parse}

section Texts

variable (initial : String) (inputs : List ControllerInput) {input : ControllerInput}

lemma lastRead_concat : lastRead initial (inputs ++ [input]) =
    input.text.getD (lastRead initial inputs) := by
  rw [lastRead, List.filterMap_append]
  cases h : input.text <;> simp [h, lastRead]

lemma lastGood_concat_none (h : input.text = none) :
    lastGood parse initial (inputs ++ [input]) = lastGood parse initial inputs := by
  simp [lastGood, h]

lemma lastGood_concat_some {source : String} (h : input.text = some source) :
    lastGood parse initial (inputs ++ [input]) =
      if (parse source).isOk then source else lastGood parse initial inputs := by
  rw [lastGood, List.filterMap_append, List.filter_append]
  split_ifs with hp <;> simp [h, hp, lastGood]

lemma lastGood_eq_lastRead (h : (parse (lastRead initial inputs)).isOk) :
    lastGood parse initial inputs = lastRead initial inputs := by
  induction inputs using List.reverseRecOn with
  | nil => rfl
  | append_singleton inputs input ih =>
    rw [lastRead_concat] at h ⊢
    cases ht : input.text with
    | none =>
      rw [ht] at h
      rw [lastGood_concat_none initial inputs ht]
      exact ih h
    | some source =>
      rw [ht, Option.getD_some] at h
      rw [lastGood_concat_some initial inputs ht, if_pos h, Option.getD_some]

end Texts

namespace Daemon

lemma ingestStreamMessage_config (controller : Controller) (io : Io) (message : StreamMessage) :
    (controller.ingestStreamMessage io message).2.adapter.engine.config =
      controller.adapter.engine.config := by
  rcases controller.ingestStreamMessage_cases io message with
    ⟨ha, -⟩ | ⟨event, transition, -, -, ha, -⟩
  · rw [ha]
  · rw [ha, NiriAdapter.apply_config]

structure Runs (daemon : Daemon) (config : Config) : Prop where
  policy : daemon.config = config
  engine : daemon.controller.adapter.engine.config = config

variable {self : Daemon} {config : Config}

lemma Runs.step (h : self.Runs config) {input : DaemonInput}
    (hi : ∀ io config, input ≠ .reload io config) : Runs (self.step input).2 config := by
  cases input with
  | message io message =>
    have hc := ingestStreamMessage_config self.controller io message
    rw [Daemon.step]
    rcases hm : self.controller.ingestStreamMessage io message with ⟨⟨writes, _ | _⟩, controller⟩
    · exact ⟨h.policy, h.policy⟩
    · rw [hm] at hc
      exact ⟨h.policy, hc.trans h.engine⟩
  | popNext => exact ⟨h.policy, h.engine⟩
  | lost io error => exact ⟨h.policy, h.policy⟩
  | reload io config => exact absurd rfl (hi io config)
  | client io version request => exact ⟨h.policy, h.engine⟩

end Daemon

namespace ConfigWatcher

variable {self : ConfigWatcher}

inductive Polled (parse : String → Except String Config) (self : ConfigWatcher) :
    Except String String → ConfigPoll → String → Prop
  | unreadable {error : String} {poll : ConfigPoll} (hp : ∀ config, poll ≠ .reloaded config) :
    Polled parse self (.error error) poll self.lastSeenSource
  | same : Polled parse self (.ok self.lastSeenSource) .unchanged self.lastSeenSource
  | reloaded {source : String} {config : Config} (hn : source ≠ self.lastSeenSource)
      (hp : parse source = .ok config) : Polled parse self (.ok source) (.reloaded config) source
  | rejected {source error message : String} (hn : source ≠ self.lastSeenSource)
      (hp : parse source = .error error) : Polled parse self (.ok source) (.rejected message) source

lemma polled (parse : String → Except String Config) (self : ConfigWatcher)
    (read : Except String String) :
    Polled parse self read (self.pollNow parse read).1
      (self.pollNow parse read).2.lastSeenSource := by
  cases read with
  | error error =>
    rw [pollNow]
    split_ifs
    · exact .unreadable (by simp)
    · exact .unreadable (by simp)
  | ok source =>
    rw [pollNow]
    dsimp only
    split_ifs with h
    · rw [h]
      exact .same
    · cases hp : parse source with
      | ok config => exact .reloaded h hp
      | error error => exact .rejected h hp

lemma pollNow_seen : (self.pollNow parse (.ok self.lastSeenSource)).1 = .unchanged := by
  simp [pollNow]

lemma pollNow_new {source : String} (hn : source ≠ self.lastSeenSource) {config : Config}
    (hp : parse source = .ok config) :
    (self.pollNow parse (.ok source)).1 = .reloaded config := by
  simp [pollNow, hn, hp]

lemma pollNow_bad {read : Except String String}
    (hbad : ∀ source config, read = .ok source → parse source ≠ .ok config) (config : Config) :
    (self.pollNow parse read).1 ≠ .reloaded config := by
  have hpolled := polled parse self read
  generalize (self.pollNow parse read).2.lastSeenSource = seen at hpolled
  intro he
  rw [he] at hpolled
  cases hpolled with
  | unreadable hn => exact hn config rfl
  | reloaded _ hp => exact hbad _ config rfl hp

end ConfigWatcher

structure RunController.Watching (loaded : LoadedConfig parse) (inputs : List ControllerInput)
    (run : RunController) : Prop where
  seen : run.watcher.lastSeenSource = lastRead loaded.source inputs
  inForce : ∃ config, parse (lastGood parse loaded.source inputs) = .ok config ∧
    run.daemon.Runs config

namespace RunController

variable {loaded : LoadedConfig parse} {inputs : List ControllerInput} {self : RunController}

lemma Watching.forward (h : self.Watching loaded inputs) {input : DaemonInput}
    (hi : ∀ io config, input ≠ .reload io config) :
    (self.forward input).2.Watching loaded inputs := by
  obtain ⟨config, hp, hr⟩ := h.inForce
  exact ⟨h.seen, config, hp, hr.step hi⟩

lemma Watching.concat (h : self.Watching loaded inputs) {input : ControllerInput}
    (hi : input.text = none) : self.Watching loaded (inputs ++ [input]) := by
  refine ⟨?_, ?_⟩
  · rw [lastRead_concat, hi]
    exact h.seen
  · rw [lastGood_concat_none loaded.source inputs hi]
    exact h.inForce

lemma heed_watcher (io : Io) (poll : ConfigPoll) : (self.heed io poll).2.watcher = self.watcher := by
  cases poll <;> rfl

lemma heed_of_ne_reloaded {poll : ConfigPoll} (h : ∀ config, poll ≠ .reloaded config) (io : Io) :
    self.heed io poll = ([], self) := by
  cases poll with
  | reloaded config => exact absurd rfl (h config)
  | _ => rfl

lemma runs_heed_reloaded (io : Io) (config : Config) :
    (self.heed io (.reloaded config)).2.daemon.Runs config := ⟨rfl, rfl⟩

lemma step_poll (io : Io) (read : Except String String) :
    self.step parse (.poll io true read) =
      { self with watcher := (self.watcher.pollNow parse read).2 }.heed io
        (self.watcher.pollNow parse read).1 := rfl

lemma Watching.poll (h : self.Watching loaded inputs) (io : Io) (read : Except String String) :
    (self.step parse (.poll io true read)).2.Watching loaded (inputs ++ [.poll io true read]) := by
  have hpolled := ConfigWatcher.polled parse self.watcher read
  obtain ⟨config, hgood, hruns⟩ := h.inForce
  rw [step_poll]
  generalize self.watcher.pollNow parse read = result at hpolled
  obtain ⟨poll, watcher⟩ := result
  dsimp only at hpolled ⊢
  generalize hseen : watcher.lastSeenSource = seen at hpolled
  cases hpolled with
  | unreadable hp =>
    rw [heed_of_ne_reloaded hp]
    have hsame : Watching loaded inputs { self with watcher } := ⟨hseen.trans h.seen, h.inForce⟩
    exact hsame.concat rfl
  | same =>
    refine ⟨by rw [heed_watcher, lastRead_concat]; exact hseen, config, ?_, hruns⟩
    rw [lastGood_concat_some loaded.source inputs rfl, h.seen]
    split_ifs with hok
    · rwa [← lastGood_eq_lastRead loaded.source inputs hok]
    · exact hgood
  | @reloaded source next _ hp =>
    refine ⟨by rw [heed_watcher, lastRead_concat]; exact hseen, next, ?_, runs_heed_reloaded io next⟩
    rw [lastGood_concat_some loaded.source inputs rfl, if_pos (by rw [hp]; rfl), hp]
  | @rejected source error _ _ hp =>
    refine ⟨by rw [heed_watcher, lastRead_concat]; exact hseen, config, ?_, hruns⟩
    rwa [lastGood_concat_some loaded.source inputs rfl, if_neg (by rw [hp]; exact Bool.false_ne_true)]

lemma Watching.step (h : self.Watching loaded inputs) (input : ControllerInput) :
    (self.step parse input).2.Watching loaded (inputs ++ [input]) := by
  cases input with
  | poll io elapsed read =>
    cases elapsed with
    | true => exact h.poll io read
    | false => exact Watching.concat h rfl
  | message io message => exact (h.forward (by simp)).concat rfl
  | popNext => exact (h.forward (by simp)).concat rfl
  | lost io error => exact (h.forward (by simp)).concat rfl
  | client io version request => exact (h.forward (by simp)).concat rfl

lemma watching (loaded : LoadedConfig parse) (inputs : List ControllerInput) :
    (after loaded inputs).Watching loaded inputs := by
  induction inputs using List.reverseRecOn with
  | nil => exact ⟨rfl, loaded.config, loaded.parsed, rfl, rfl⟩
  | append_singleton inputs input ih =>
    rw [after, Machine.run_append]
    exact ih.step input

end RunController

open RunController

/-- In every run the policy of the current connection, which is also that of the next one, is the
last good text: nothing else replaces it, and no good text goes unnoticed. -/
theorem policy_is_last_good (loaded : LoadedConfig parse) (inputs : List ControllerInput) :
    let run := after loaded inputs
    (parse (lastGood parse loaded.source inputs) = .ok run.daemon.config ∧
      run.daemon.controller.adapter.engine.config = run.daemon.config) ∧
    (∀ io read, (∀ source config, read = .ok source → parse source ≠ .ok config) →
      (run.step parse (.poll io true read)).1 = [] ∧
        (run.step parse (.poll io true read)).2.daemon = run.daemon) ∧
    (run.watcher.pollNow parse (.ok (lastRead loaded.source inputs))).1 = .unchanged ∧
    ∀ io source config, source ≠ lastRead loaded.source inputs → parse source = .ok config →
      (run.watcher.pollNow parse (.ok source)).1 = .reloaded config ∧
        (run.step parse (.poll io true (.ok source))).2.daemon =
          (run.daemon.step (.reload io config)).2 ∧
        (run.step parse (.poll io true (.ok source))).2.daemon.Runs config := by
  intro run
  have hw := watching loaded inputs
  obtain ⟨config, hp, hr⟩ := hw.inForce
  refine ⟨⟨hr.policy ▸ hp, hr.engine.trans hr.policy.symm⟩, fun io read hbad => ?_, ?_, ?_⟩
  · rw [step_poll, heed_of_ne_reloaded (ConfigWatcher.pollNow_bad hbad)]
    exact ⟨rfl, rfl⟩
  · rw [← hw.seen]
    exact ConfigWatcher.pollNow_seen
  · intro io source next hn hok
    have hnew : (run.watcher.pollNow parse (.ok source)).1 = .reloaded next :=
      ConfigWatcher.pollNow_new (hw.seen ▸ hn) hok
    rw [step_poll, hnew]
    exact ⟨rfl, rfl, rfl, rfl⟩

section Edited

def codeOnly : Config where
  attention := Config.kittyAndCode.attention.tail
  nonempty := List.cons_ne_nil _ _

def kittyText : String :=
  "[[attention]]\napp_id = \"^kitty$\"\nfocused_width = \"50%\"\nunfocused_width = \"10%\"\n"

def codeText : String :=
  "[[attention]]\napp_id = \"^code$\"\nfocused_width = 0.9\nunfocused_width = \"preserve\"\n"

def unfinishedText : String := "[[attention]]\napp_id = \"^kitty$\"\n"

def parseEdited (source : String) : Except String Config :=
  if source = kittyText ++ codeText then .ok .kittyAndCode
  else if source = codeText then .ok codeOnly
  else .error "missing field `focused_width`"

def loadedEdited : LoadedConfig parseEdited where
  config := .kittyAndCode
  path := "config.toml"
  source := kittyText ++ codeText
  parsed := rfl

theorem policy_is_last_good_edited :
    let inputs : List ControllerInput := [.poll .reliable true (.ok unfinishedText),
      .lost .reliable "niri closed the event stream", .poll .reliable true (.error "not found")]
    let run := after loadedEdited inputs
    (run.watcher.pollNow parseEdited (.ok unfinishedText)).1 = .unchanged ∧
      (run.watcher.pollNow parseEdited (.ok codeText)).1 = .reloaded codeOnly ∧
      (run.step parseEdited (.poll .reliable true (.ok codeText))).2.daemon.Runs codeOnly := by
  intro inputs run
  have h := policy_is_last_good loadedEdited inputs
  have hnew := h.2.2.2 .reliable codeText codeOnly (by decide +kernel) (by
    rw [parseEdited, if_neg (by decide +kernel), if_pos rfl])
  exact ⟨h.2.2.1, hnew.1, hnew.2.2⟩

end Edited

end Melibea
