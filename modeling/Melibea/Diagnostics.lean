import Melibea.Health
import Melibea.Invocation
import Melibea.Session
import Melibea.Settling

/-! The commands that only look: `check-config`, `observe` and `status`. -/

namespace Melibea

open Library Json Lines NiriEventStream

structure ConfigEnvironment where
  xdgConfigHome : Option String
  home : Option String

inductive ConfigPathError
  | missingBaseDirectory
  deriving DecidableEq

def ConfigPathError.display : ConfigPathError → String
  | missingBaseDirectory =>
    "cannot locate configuration: both `XDG_CONFIG_HOME` and `HOME` are unset"

def defaultConfigPath (env : ConfigEnvironment) : Except ConfigPathError String :=
  match env.xdgConfigHome.filter (· ≠ "") with
  | some base => .ok (joinPath (joinPath base "melibea") "config.toml")
  | none =>
    match env.home.filter (· ≠ "") with
    | some home => .ok (joinPath (joinPath (joinPath home ".config") "melibea") "config.toml")
    | none => .error .missingBaseDirectory

inductive LoadError
  | read (path source : String)
  | atPath (path : String) (source : ConfigError)
  deriving DecidableEq

def LoadError.display : LoadError → String
  | read path source => s!"could not read `{path}`: {source}"
  | atPath path source => s!"invalid configuration `{path}`: {source.display}"

section Configured

variable (compile : String → Except String Regex) (toml : String → Except String RawConfig)

def Config.parseText (source : String) : Except String Config :=
  (Config.parse compile toml source).mapError ConfigError.display

def Config.loadWithSource (read : String → Except String String) (path : String) :
    Except LoadError { loaded : Config × String //
      parseText compile toml loaded.2 = .ok loaded.1 } :=
  match read path with
  | .error source => .error (.read path source)
  | .ok input =>
    match h : Config.parse compile toml input with
    | .error error => .error (.atPath path error)
    | .ok config => .ok ⟨(config, input), by rw [parseText, h]; rfl⟩

def configured (env : ConfigEnvironment) (read : String → Except String String)
    (path : Option String) : Except String (LoadedConfig (Config.parseText compile toml)) := do
  let path ← (path.elim (defaultConfigPath env) .ok).mapError ConfigPathError.display
  let loaded ← (Config.loadWithSource compile toml read path).mapError LoadError.display
  return { config := loaded.val.1, path, source := loaded.val.2, parsed := loaded.property }

end Configured

variable {parse : String → Except String Config}

def checkConfig (configured : Except String (LoadedConfig parse)) : Finished :=
  match configured with
  | .ok loaded =>
    { stdout := [s!"configuration valid: {loaded.config.attention.length} attention rule(s) " ++
        s!"from {loaded.path}"]
      stderr := []
      code := 0 }
  | .error error => { stdout := [], stderr := [error], code := 1 }

lemma checkConfig_iff_reloaded (compile : String → Except String Regex)
    (toml : String → Except String RawConfig) (env : ConfigEnvironment)
    {read : String → Except String String} {path text : String} (hread : read path = .ok text)
    {watcher : ConfigWatcher} (hseen : text ≠ watcher.lastSeenSource) :
    (checkConfig (configured compile toml env read (some path))).code = 0 ↔ ∃ config,
      (watcher.pollNow (Config.parseText compile toml) (.ok text)).1 = .reloaded config := by
  have hconfigured : configured compile toml env read (some path) =
      ((Config.loadWithSource compile toml read path).mapError LoadError.display).map fun loaded =>
        { config := loaded.val.1, path, source := loaded.val.2, parsed := loaded.property } := rfl
  rw [hconfigured, Config.loadWithSource, hread, ConfigWatcher.pollNow]
  dsimp only
  rw [if_neg hseen]
  split
  · next error h =>
    have hparse : Config.parseText compile toml text = .error error.display := by
      rw [Config.parseText, h]
      rfl
    constructor
    · exact fun hcode => absurd hcode (show (1 : UInt8) ≠ 0 by decide)
    · rintro ⟨config, he⟩
      rw [hparse] at he
      cases he
  · next config h =>
    have hparse : Config.parseText compile toml text = .ok config := by
      rw [Config.parseText, h]
      rfl
    exact ⟨fun _ => ⟨config, by rw [hparse]⟩, fun _ => rfl⟩

abbrev Opened := Except NiriIpcError (NiriEventStream.Requesting × ByteStream)

def NiriEventStream.connect (serde : SerdeValue) (opened : Opened) :
    Except NiriIpcError ByteStream := do
  let (io, stream) ← opened
  start serde io stream

def focusStateName : FocusState → String
  | .focused => "focused"
  | .unfocused => "unfocused"

def formatWindowId (id : Option WindowId) : String := id.elim "none" toString

def exclusionName : ExclusionReason → String
  | .floating => "floating"

def decisionLine (decision : FocusDecision) : String :=
  let about := s!"  window={decision.windowId} state={focusStateName decision.state} "
  about ++ match decision.outcome with
    | .resize ruleIndex width =>
      s!"rule={ruleIndex} policy={Decimal.oneDecimal width.percent}% action=would-set-window-width"
    | .preserve ruleIndex => s!"rule={ruleIndex} policy=preserve action=none"
    | .unmanaged => "rule=none action=none reason=no-match"
    | .excluded reason => s!"rule=none action=none reason={exclusionName reason}"
    | .unknownWindow => "rule=unknown action=none reason=missing-metadata"

def printTransition (event : String) (transition : FocusTransition) : List String :=
  (s!"generation={transition.generation} event={event} " ++
    s!"focus={formatWindowId transition.previous}->{formatWindowId transition.current}") ::
    transition.decisions.map decisionLine

-- The loop of `observe`: what it prints, and the error it ends with.
def observing (serde : SerdeValue) (adapter : NiriAdapter) (stream : ByteStream) :
    List String × String :=
  match _h : readEvent serde stream with
  | (.ok none, _) => ([], "niri closed the event stream")
  | (.error error, _) => ([], error.display)
  | (.ok (some event), rest) =>
    match adapter.apply event with
    | (.error error, _) => ([], s!"cannot apply niri event `{eventName event}`: {error.display}")
    | (.ok transition, adapter) =>
      let (lines, error) := observing serde adapter rest
      (transition.toList.flatMap (printTransition (eventName event)) ++ lines, error)
termination_by stream.bytes.length
decreasing_by exact bytes_of_readEvent _h

def observe (serde : SerdeValue) (configured : Except String (LoadedConfig parse))
    (opened : Opened) : Finished :=
  match configured with
  | .error error => { stdout := [], stderr := [error], code := 1 }
  | .ok loaded =>
    match NiriEventStream.connect serde opened with
    | .error error => { stdout := [], stderr := [error.display], code := 1 }
    | .ok stream =>
      let (lines, error) := observing serde (.new loaded.config) stream
      { stdout :=
          s!"observing niri in read-only mode with configuration from {loaded.path}" :: lines
        stderr := [error]
        code := 1 }

def NiriAdapter.displayed (self : NiriAdapter) :
    List NiriEvent → List (NiriEvent × FocusTransition)
  | [] => []
  | event :: events =>
    match self.apply event with
    | (.error _, _) => []
    | (.ok transition, next) => transition.toList.map (event, ·) ++ next.displayed events

lemma observing_lines (serde : SerdeValue) (self : NiriAdapter) (stream : ByteStream) :
    (observing serde self stream).1 =
      (self.displayed (readAll (parseEventLine serde) stream).1).flatMap fun shown =>
        printTransition (eventName shown.1) shown.2 := by
  fun_induction observing serde self stream with
  | case1 self stream rest h =>
    obtain ⟨stopped, hall, -⟩ := readAll_of_last h (by simp)
    rw [hall]
    rfl
  | case2 self stream error rest h =>
    obtain ⟨stopped, hall, -⟩ := readAll_of_last h (by simp)
    rw [hall]
    rfl
  | case3 self stream event rest h error next he =>
    rw [readAll_of_event h, NiriAdapter.displayed, he]
    rfl
  | case4 self stream event rest h transition next he lines error hrest ih =>
    rw [readAll_of_event h, NiriAdapter.displayed, he]
    rw [hrest] at ih
    dsimp only at ih ⊢
    rw [ih, List.flatMap_append, List.flatMap_map]

lemma observe_stdout {serde : SerdeValue} {opened : Opened} {stream : ByteStream}
    (loaded : LoadedConfig parse) (h : NiriEventStream.connect serde opened = .ok stream) :
    (observe serde (.ok loaded) opened).stdout =
      s!"observing niri in read-only mode with configuration from {loaded.path}" ::
        ((NiriAdapter.new loaded.config).displayed
          (readAll (parseEventLine serde) stream).1).flatMap fun shown =>
            printTransition (eventName shown.1) shown.2 := by
  rw [observe, ← observing_lines]
  dsimp only
  rw [h]

namespace NiriAdapter

open Machine

lemma prefix_displayed (self : NiriAdapter) {events more : List NiriEvent} (h : events <+: more) :
    self.displayed events <+: self.displayed more := by
  induction events generalizing self more with
  | nil => exact List.nil_prefix
  | cons event events ih =>
    obtain ⟨rest, rfl⟩ := h
    rw [List.cons_append, displayed, displayed]
    rcases self.apply event with ⟨error | transition, next⟩
    · exact List.prefix_rfl
    · exact List.prefix_append_right_inj _ |>.mpr (ih next (List.prefix_append _ _))

def Taken (events : List NiriEvent) : Prop :=
  ∀ windows, .windowsChanged windows ∈ events → Accepted windows

lemma displayed_concat (self : NiriAdapter) {events : List NiriEvent} {event : NiriEvent}
    (h : Taken (events ++ [event])) : ∃ transition,
      ((run apply self events).apply event).1 = .ok transition ∧
        self.displayed (events ++ [event]) =
          self.displayed events ++ transition.toList.map (event, ·) := by
  induction events generalizing self with
  | nil =>
    obtain ⟨transition, ht⟩ := self.apply_ok fun windows he =>
      h windows (he ▸ List.mem_singleton_self _)
    refine ⟨transition, ht, ?_⟩
    have hnil : self.displayed [] = [] := rfl
    rw [hnil, List.nil_append, List.nil_append, displayed]
    rcases he : self.apply event with ⟨_, next⟩
    rw [he] at ht
    obtain rfl := ht
    exact List.append_nil _
  | cons first events ih =>
    obtain ⟨transition, ht⟩ := self.apply_ok fun windows he =>
      h windows (he ▸ List.mem_cons_self)
    obtain ⟨last, hlast, hdisplayed⟩ := ih (self.apply first).2 fun windows hm =>
      h windows (List.mem_cons_of_mem _ hm)
    refine ⟨last, hlast, ?_⟩
    rw [List.cons_append, displayed, displayed]
    rcases he : self.apply first with ⟨_, next⟩
    rw [he] at ht hdisplayed
    obtain rfl := ht
    dsimp only at hdisplayed ⊢
    rw [hdisplayed, List.append_assoc]

lemma displayed_of_wantedBy {config : Config} {events : List NiriEvent} (h : Taken events)
    {id : WindowId} {action : ResizeAction} (hw : wantedBy config events id = some action) :
    ∃ shown ∈ (NiriAdapter.new config).displayed events, ∃ decision ∈ shown.2.decisions,
      decision.action shown.2.generation = some action := by
  induction events using List.reverseRecOn with
  | nil => cases hw
  | append_singleton events event ih =>
    obtain ⟨transition, ht, hdisplayed⟩ := (NiriAdapter.new config).displayed_concat h
    rw [hdisplayed]
    have hwanted : wantedBy config (events ++ [event]) id =
        (after config events).want (wantedBy config events) event id := by
      rw [wantedBy_append]
      rfl
    rw [hwanted, want, show ((after config events).apply event).1 = _ from ht] at hw
    dsimp only at hw
    have hbefore : wantedBy config events id = some action → ∃ shown ∈
        (NiriAdapter.new config).displayed events ++ transition.toList.map (event, ·),
        ∃ decision ∈ shown.2.decisions, decision.action shown.2.generation = some action := by
      intro hw
      obtain ⟨shown, hm, hdecided⟩ :=
        ih (fun windows hm => h windows (List.mem_append_left _ hm)) hw
      exact ⟨shown, List.mem_append_left _ hm, hdecided⟩
    cases hwish : transition.bind (·.wish id) with
    | none =>
      rw [hwish, Option.getD_none] at hw
      split_ifs at hw
      exact hbefore hw
    | some wish =>
      rw [hwish, Option.getD_some] at hw
      subst hw
      obtain ⟨t, rfl, hdecision⟩ := Option.bind_eq_some_iff.mp hwish
      obtain ⟨decision, hd, haction⟩ := Option.map_eq_some_iff.mp hdecision
      exact ⟨(event, t), List.mem_append_right _ (List.mem_singleton_self _), decision,
        FocusTransition.mem_of_decision hd, haction⟩

end NiriAdapter

namespace Connection

open Machine

variable {config : Config} {service : Service} {watcher : ConfigWatcher}

lemma history_accepted (hs : service.running) {inputs : List ConnectionInput}
    (hrun : (after parse config service watcher inputs).Running) {message : StreamMessage}
    (hm : message ∈ history parse config service watcher inputs) : ¬ Rejected message := by
  induction inputs using List.reverseRecOn with
  | nil => cases hm
  | append_singleton inputs input ih =>
    have hmoved := moved parse (sound parse config hs watcher inputs).running input
    rw [after_concat] at hrun
    rw [history_concat] at hm
    rcases List.mem_append.mp hm with hm | hm
    · exact ih (hmoved.running hrun) hm
    · rcases hmoved.flow with ⟨_, _, _, -, -, hr, -, hok, -⟩ | ⟨hr, -⟩
      · rw [hr] at hm
        rw [List.mem_singleton.mp hm]
        exact hok hrun
      · rw [hr] at hm
        cases hm

lemma taken_history (hs : service.running) {inputs : List ConnectionInput}
    (hrun : (after parse config service watcher inputs).Running) :
    NiriAdapter.Taken (events (history parse config service watcher inputs)) := by
  intro windows hm
  obtain ⟨message, hmessage, he⟩ := List.mem_filterMap.mp hm
  by_contra ha
  refine history_accepted hs hrun hmessage ?_
  rcases message with error | _ | event
  · cases he
  · cases he
  · obtain rfl := Option.some.inj he
    exact .focusedTwice (by simpa [Accepted] using ha)

lemma wanted_of_resized (hs : service.running) {inputs : List ConnectionInput}
    {action : ResizeAction} (ha : action ∈ resizes parse config service watcher inputs) :
    ∃ before, before <+: inputs ∧ (after parse config service watcher before).Running ∧
      NiriAdapter.wantedBy config (events (history parse config service watcher before))
        action.windowId = some action := by
  obtain ⟨before, input, rest, rfl, hm⟩ := mem_trace _ ha
  have hmoved := moved parse (sound parse config hs watcher before).running input
  change action ∈ ((after parse config service watcher before).step parse input).1.resized.toList
    at hm
  generalize (after parse config service watcher before).step parse input = out at hm hmoved
  cases hmoved with
  | @sent answers action' hp =>
    obtain rfl := List.mem_singleton.mp hm
    have hrun : (after parse config service watcher before).Running := fun result hr => by
      rw [hp] at hr
      cases hr
    exact ⟨before, List.prefix_append _ _, hrun,
      (settled parse config service watcher hs before hrun).sending action hp⟩
  | _ => cases hm

end Connection

open Connection in
/-- Every resize that a run carries out was shown by `observe` when niri sent it the same events. -/
theorem observe_shows_resizes (serde : SerdeValue) (loaded : LoadedConfig parse) (opened : Opened)
    (stream : ByteStream) (hopened : NiriEventStream.connect serde opened = .ok stream)
    (service : Service) (hs : service.running) (watcher : ConfigWatcher)
    (inputs : List ConnectionInput) (hreads : reads inputs <+: messages serde stream) :
    ∀ action ∈ resizes parse loaded.config service watcher inputs, ∃ event transition ruleIndex,
      printTransition event transition <:+: (observe serde (.ok loaded) opened).stdout ∧
      transition.generation = action.generation ∧
      decisionLine ⟨action.windowId, action.state, .resize ruleIndex action.width⟩ ∈
        printTransition event transition := by
  intro action ha
  obtain ⟨before, hbefore, hrun, hwanted⟩ := wanted_of_resized hs ha
  obtain ⟨⟨event, transition⟩, hshown, decision, hdecision, haction⟩ :=
    NiriAdapter.displayed_of_wantedBy (taken_history hs hrun) hwanted
  have hhistory : events (history parse loaded.config service watcher before) <+:
      (readAll (parseEventLine serde) stream).1 := by
    rw [← events_messages]
    refine List.IsPrefix.filterMap _ ((prefix_history hs before).trans ?_)
    exact (hbefore.filterMap _).trans hreads
  have hdisplayed := (NiriAdapter.prefix_displayed (.new loaded.config) hhistory).subset hshown
  obtain ⟨ruleIndex, rfl⟩ : ∃ ruleIndex,
      decision = ⟨action.windowId, action.state, .resize ruleIndex action.width⟩ := by
    obtain ⟨id, state, outcome⟩ := decision
    cases outcome with
    | resize ruleIndex width => exact ⟨ruleIndex, by cases haction; rfl⟩
    | _ => cases haction
  refine ⟨eventName event, transition, ruleIndex, ?_, congrArg ResizeAction.generation
    (Option.some.inj haction), List.mem_cons_of_mem _ (List.mem_map_of_mem hdecision)⟩
  obtain ⟨shown, more, hsplit⟩ := List.append_of_mem hdisplayed
  rw [observe_stdout loaded hopened, hsplit, List.flatMap_append, List.flatMap_cons]
  exact List.infix_cons (List.infix_append' _ _ _)

def HealthError.display : HealthError → String
  | multipleFocusedWindows ids =>
    "niri reports multiple focused windows: [" ++
      ", ".intercalate (ids.map fun id => s!"WindowId({id})") ++ "]"

def initialSnapshotEventLimit : ℕ := 64

def initialSnapshot (serde : SerdeValue) : ℕ → ByteStream → Except String (List NiriWindow)
  | 0, _ =>
    .error s!"niri sent no window snapshot within {initialSnapshotEventLimit} initial events"
  | limit + 1, stream =>
    match readEvent serde stream with
    | (.ok (some (.windowsChanged windows)), _) => .ok windows
    | (.ok (some _), rest) => initialSnapshot serde limit rest
    | (.ok none, _) => .error "niri closed IPC before its window snapshot"
    | (.error error, _) =>
      .error s!"cannot read niri window snapshot within 2 second(s): {error.display}"

section Status

variable (debug : Option String → String)

def focusLine (focused : Option FocusedWindowHealth) : String :=
  match focused with
  | some focused =>
    let policy := if focused.isFloating then "excluded-floating" else
      focused.matchedRule.elim "none" fun index => s!"rule-{index}"
    s!"focus window={focused.id} app_id={debug focused.appId} title={debug focused.title} " ++
      s!"policy={policy}"
  | none => "focus none"

def reportLines (loaded : LoadedConfig parse) (report : HealthReport) : List String :=
  ["melibea health: ok",
    s!"config={loaded.path} rules={loaded.config.attention.length}",
    s!"windows total={report.totalWindows} matched-tiled={report.matchedTiledWindows} " ++
      s!"unmatched-tiled={report.unmatchedTiledWindows} floating={report.floatingWindows} " ++
      s!"matched-floating={report.matchedFloatingWindows}",
    focusLine debug report.focused] ++
  report.matchesPerRule.zipIdx.map fun (matched, index) =>
    s!"rule={index} tiled-matches={matched}"

variable (serde : SerdeValue)

def statusInner (configured : Except String (LoadedConfig parse)) (opened : Opened)
    (timeout : Except String Unit) : Option (Except String (List String)) :=
  let snapshot : Except String (LoadedConfig parse × List NiriWindow) := do
    let loaded ← configured
    let stream ← (NiriEventStream.connect serde opened).mapError NiriIpcError.display
    timeout.mapError fun error => s!"cannot set niri health timeout: {error}"
    let windows ← initialSnapshot serde initialSnapshotEventLimit stream
    return (loaded, windows)
  match snapshot with
  | .error error => some (.error error)
  | .ok (loaded, windows) =>
    (HealthReport.fromWindows loaded.config windows).map fun report =>
      (report.mapError HealthError.display).map (reportLines debug loaded)

def status (configured : Except String (LoadedConfig parse)) (opened : Opened)
    (timeout : Except String Unit) : Option Finished :=
  (statusInner debug serde configured opened timeout).map fun result =>
    match result with
    | .ok lines => { stdout := lines, stderr := [], code := 0 }
    | .error error => { stdout := [], stderr := ["melibea health: error", error], code := 1 }

variable {serde} {debug}

structure FirstSnapshot (limit : ℕ) (events before : List NiriEvent) (windows : List NiriWindow) :
    Prop where
  early : before.length < limit
  first : ∀ other, .windowsChanged other ∉ before
  begins : before ++ [.windowsChanged windows] <+: events

lemma FirstSnapshot.cons {limit : ℕ} {event : NiriEvent} {events before : List NiriEvent}
    {windows : List NiriWindow} (he : ∀ other, event ≠ .windowsChanged other) :
    FirstSnapshot (limit + 1) (event :: events) (event :: before) windows ↔
      FirstSnapshot limit events before windows := by
  constructor
  · rintro ⟨hearly, hfirst, hbegins⟩
    exact ⟨Nat.lt_of_succ_lt_succ hearly, fun other hm => hfirst other (List.mem_cons_of_mem _ hm),
      (List.prefix_cons_inj event).mp hbegins⟩
  · rintro ⟨hearly, hfirst, hbegins⟩
    refine ⟨Nat.succ_lt_succ hearly, fun other hm => ?_, (List.prefix_cons_inj event).mpr hbegins⟩
    rcases List.mem_cons.mp hm with hm | hm
    · exact he other hm.symm
    · exact hfirst other hm

lemma FirstSnapshot.before_eq {limit : ℕ} {event : NiriEvent} {events before : List NiriEvent}
    {windows : List NiriWindow} (h : FirstSnapshot limit (event :: events) before windows) :
    (before = [] ∧ event = .windowsChanged windows) ∨
      ∃ rest, before = event :: rest ∧ ∀ other, event ≠ .windowsChanged other := by
  cases before with
  | nil => exact .inl ⟨rfl, ((List.cons_prefix_cons.mp h.begins).1).symm⟩
  | cons first rest =>
    obtain rfl := (List.cons_prefix_cons.mp h.begins).1
    refine .inr ⟨rest, rfl, ?_⟩
    rintro other rfl
    exact h.first other List.mem_cons_self

lemma initialSnapshot_skip {limit : ℕ} {stream rest : ByteStream} {event : NiriEvent}
    (h : readEvent serde stream = (.ok (some event), rest))
    (hne : ∀ other, event ≠ .windowsChanged other) :
    initialSnapshot serde (limit + 1) stream = initialSnapshot serde limit rest := by
  rw [initialSnapshot, h]
  cases event with
  | windowsChanged other => exact absurd rfl (hne other)
  | _ => rfl

lemma initialSnapshot_eq_ok {limit : ℕ} {stream : ByteStream} {windows : List NiriWindow} :
    initialSnapshot serde limit stream = .ok windows ↔
      ∃ before, FirstSnapshot limit (readAll (parseEventLine serde) stream).1 before windows := by
  induction limit generalizing stream with
  | zero => exact ⟨fun h => (nomatch h), fun ⟨_, h⟩ => absurd h.early (Nat.not_lt_zero _)⟩
  | succ limit ih =>
    have hnone : ∀ before, ¬ FirstSnapshot (limit + 1) [] before windows := fun before h => by
      simpa using h.begins
    rcases hread : readEvent serde stream with ⟨error | _ | event, rest⟩
    · obtain ⟨stopped, hall, -⟩ := readAll_of_last hread (by simp)
      rw [initialSnapshot, hread, hall]
      exact ⟨fun h => (nomatch h), fun ⟨before, h⟩ => absurd h (hnone before)⟩
    · obtain ⟨stopped, hall, -⟩ := readAll_of_last hread (by simp)
      rw [initialSnapshot, hread, hall]
      exact ⟨fun h => (nomatch h), fun ⟨before, h⟩ => absurd h (hnone before)⟩
    · rw [readAll_of_event hread]
      by_cases he : ∃ other, event = .windowsChanged other
      · obtain ⟨other, rfl⟩ := he
        rw [initialSnapshot, hread]
        constructor
        · intro h
          obtain rfl := Except.ok.inj h
          exact ⟨[], Nat.succ_pos _, by simp, List.prefix_append [_] _⟩
        · rintro ⟨before, h⟩
          rcases h.before_eq with ⟨-, he⟩ | ⟨_, -, hne⟩
          · rw [NiriEvent.windowsChanged.inj he]
          · exact absurd rfl (hne other)
      · have hne := not_exists.mp he
        rw [initialSnapshot_skip hread hne, ih]
        constructor
        · rintro ⟨before, h⟩
          exact ⟨event :: before, (FirstSnapshot.cons hne).mpr h⟩
        · rintro ⟨before, h⟩
          rcases h.before_eq with ⟨-, he⟩ | ⟨rest, rfl, -⟩
          · exact absurd he (hne windows)
          · exact ⟨rest, (FirstSnapshot.cons hne).mp h⟩

lemma statusInner_eq {loaded : LoadedConfig parse} {opened : Opened} {stream : ByteStream}
    (hopened : NiriEventStream.connect serde opened = .ok stream) :
    statusInner debug serde (.ok loaded) opened (.ok ()) =
      match initialSnapshot serde initialSnapshotEventLimit stream with
      | .error error => some (.error error)
      | .ok windows => (HealthReport.fromWindows loaded.config windows).map fun report =>
        (report.mapError HealthError.display).map (reportLines debug loaded) := by
  rw [statusInner, hopened]
  cases hs : initialSnapshot serde initialSnapshotEventLimit stream with
  | error error => simp [hs, Except.mapError, bind, Except.bind]
  | ok windows => simp [hs, Except.mapError, bind, Except.bind, pure, Except.pure]

end Status

lemma NiriAdapter.after_snapshot (config : Config) (before : List NiriEvent)
    {windows : List NiriWindow} (ha : Accepted windows) :
    let engine := (NiriAdapter.after config (before ++ [.windowsChanged windows])).engine
    engine.focusedWindow = (windows.find? (·.isFocused)).map (·.id) ∧ ∀ id : WindowId,
      engine.windows[id]? = ((windows.filter (·.id = id)).getLast?).map NiriWindow.intoRecord := by
  rw [after_concat, apply_accepted _ ha]
  exact ⟨rfl, get_replacedEngine_windows (tracks_after config before).keys windows⟩

section Kitty

def snapshotLine : Bytes :=
  text ("\x7b\"WindowsChanged\":\x7b\"windows\":[\x7b\"id\":10,\"title\":\"shell\"," ++
    "\"app_id\":\"kitty\",\"is_focused\":true,\"is_floating\":false\x7d]\x7d\x7d")

def snapshotJson : Json :=
  .object [("WindowsChanged", .object [("windows", .array [.object [("id", .unsigned 10),
    ("title", .string "shell"), ("app_id", .string "kitty"), ("is_focused", .bool true),
    ("is_floating", .bool false)]])])]

def snapshotSerde : SerdeValue :=
  .ofLines [(handledLine, handledJson), (snapshotLine, snapshotJson)] fun _ => []

def shellWindow : NiriWindow := ⟨10, some "shell", some "kitty", true, false⟩

lemma snapshotLine_event : EventLine snapshotSerde snapshotLine (.windowsChanged [shellWindow]) := by
  refine ⟨.ofLines _ (by decide +kernel) (by decide +kernel) rfl (by decide +kernel), rfl,
    .known ⟨by simp [eventName], rfl⟩ (.windowsChanged (.object _) rfl ?_)⟩
  exact .cons ⟨.object _, rfl, rfl, rfl, rfl, rfl⟩ .nil

def snapshotStream : ByteStream := ⟨unlines newline [snapshotLine] ++ [], .closed⟩

def snapshotOpened : Opened :=
  .ok (⟨.ok (), .ok ()⟩, ⟨handledLine ++ newline :: snapshotStream.bytes, .closed⟩)

lemma handledLine_snapshot : JsonLine snapshotSerde.toSerdeJson handledLine handledJson :=
  .ofLines _ (by decide +kernel) (by decide +kernel) rfl (by decide +kernel)

lemma snapshotOpened_connect :
    NiriEventStream.connect snapshotSerde snapshotOpened = .ok snapshotStream := by
  rw [snapshotOpened, NiriEventStream.connect]
  exact start_handled handledLine_snapshot rfl ⟨by simp, rfl⟩ snapshotStream.bytes .closed

lemma snapshotStream_messages :
    [.ok (some (.windowsChanged [shellWindow]))] <+: messages snapshotSerde snapshotStream := by
  rw [messages_eq, snapshotStream, readAll_lines (.cons snapshotLine_event.decoded .nil)]
  exact List.prefix_append _ _

theorem observe_shows_resizes_kitty : ∃ ruleIndex,
    decisionLine ⟨10, .focused, .resize ruleIndex .half⟩ ∈
      (observe snapshotSerde (.ok loadedKitty) snapshotOpened).stdout := by
  obtain ⟨event, transition, ruleIndex, hshown, -, hline⟩ := observe_shows_resizes snapshotSerde
    loadedKitty snapshotOpened snapshotStream snapshotOpened_connect .start rfl
    (.new "config.toml" "")
    (.read (.ok (some (.windowsChanged [shellWindow]))) :: List.replicate 10 (.turn .reliable))
    snapshotStream_messages ⟨1, 10, .focused, .half⟩ (by decide +kernel)
  exact ⟨ruleIndex, hshown.subset hline⟩

end Kitty

open Connection in
/-- `status` never panics. It succeeds exactly when niri sends a snapshot early enough and no two of
its windows have the focus, and then describes what every run has that has got as far. -/
theorem status_describes_run (debug : Option String → String) (serde : SerdeValue)
    (loaded : LoadedConfig parse) (opened : Opened) (stream : ByteStream)
    (hopened : NiriEventStream.connect serde opened = .ok stream) : ∃ finished,
    status debug serde (.ok loaded) opened (.ok ()) = some finished ∧
    (finished.code = 0 ↔ ∃ before windows,
      FirstSnapshot initialSnapshotEventLimit (events (messages serde stream)) before windows ∧
        Accepted windows) ∧
    ∀ before windows,
      FirstSnapshot initialSnapshotEventLimit (events (messages serde stream)) before windows →
      Accepted windows → ∃ report : HealthReport,
        finished.stdout = reportLines debug loaded report ∧
        report.Describes loaded.config windows ∧
        ∀ (service : Service) (watcher : ConfigWatcher) (inputs : List ConnectionInput),
          service.running → events (history parse loaded.config service watcher inputs) =
              before ++ [.windowsChanged windows] →
            let adapter := (after parse loaded.config service watcher inputs).controller.adapter
            adapter.engine.focusedWindow = report.focused.map (·.id) ∧
              ∀ id : WindowId, adapter.engine.windows[id]? =
                ((windows.filter (·.id = id)).getLast?).map NiriWindow.intoRecord := by
  rw [events_messages, status, statusInner_eq hopened]
  have hsnapshot : ∀ windows, initialSnapshot serde initialSnapshotEventLimit stream =
      .ok windows ↔ _ := fun _ => initialSnapshot_eq_ok
  have hfailed : (1 : UInt8) ≠ 0 := by decide
  cases hs : initialSnapshot serde initialSnapshotEventLimit stream with
  | error error =>
    have hnone : ∀ before windows, ¬ FirstSnapshot initialSnapshotEventLimit
        (readAll (parseEventLine serde) stream).1 before windows := fun before windows h =>
      nomatch hs.symm.trans ((hsnapshot windows).mpr ⟨before, h⟩)
    refine ⟨_, rfl, ⟨fun h => absurd h hfailed, fun ⟨before, windows, h, _⟩ => ?_⟩,
      fun before windows h => absurd h (hnone before windows)⟩
    exact absurd h (hnone before windows)
  | ok windows =>
    have honly : ∀ before other, FirstSnapshot initialSnapshotEventLimit
        (readAll (parseEventLine serde) stream).1 before other → other = windows :=
      fun before other h =>
        Except.ok.inj (((hsnapshot other).mpr ⟨before, h⟩).symm.trans hs)
    by_cases ha : Accepted windows
    · obtain ⟨report, hreport, hdescribes⟩ := HealthReport.fromWindows_accepted loaded.config ha
      obtain ⟨before, hfirst⟩ := (hsnapshot windows).mp hs
      simp only [hreport]
      refine ⟨_, rfl, ⟨fun _ => ⟨before, windows, hfirst, ha⟩, fun _ => rfl⟩, ?_⟩
      intro before other h _
      obtain rfl := honly before other h
      refine ⟨report, rfl, hdescribes, fun service watcher inputs hrunning hhistory => ?_⟩
      obtain ⟨hfocused, hwindows⟩ := NiriAdapter.after_snapshot loaded.config before ha
      rw [adapter_after hrunning, hhistory, hdescribes.focused, Option.map_map]
      exact ⟨hfocused, hwindows⟩
    · simp only [HealthReport.fromWindows_rejected ha]
      refine ⟨_, rfl, ⟨fun h => absurd h hfailed, fun ⟨before, other, h, hother⟩ => ?_⟩,
        fun before other h hother => ?_⟩
      · exact absurd (honly before other h ▸ hother) ha
      · exact absurd (honly before other h ▸ hother) ha

theorem status_describes_run_kitty : ∃ finished,
    status (fun _ => "") snapshotSerde (.ok loadedKitty) snapshotOpened (.ok ()) =
      some finished ∧ finished.code = 0 := by
  obtain ⟨finished, hfinished, hcode, -⟩ := status_describes_run (fun _ => "") snapshotSerde
    loadedKitty snapshotOpened snapshotStream snapshotOpened_connect
  have hevents : Connection.events [.ok (some (.windowsChanged [shellWindow]))] <+:
      Connection.events (messages snapshotSerde snapshotStream) :=
    snapshotStream_messages.filterMap _
  exact ⟨finished, hfinished, hcode.mpr
    ⟨[], [shellWindow], ⟨by decide, by simp, hevents⟩, by decide⟩⟩

end Melibea
