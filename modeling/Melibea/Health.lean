import Melibea.Decisions
import Melibea.Library.KeyedList
import Mathlib.Data.List.Perm.Basic

/-! The health report of a snapshot, which agrees with what the engine decides on it. -/

namespace Melibea

open Std Library OrderedMap NiriAdapter AttentionEngine

inductive HealthError
  | multipleFocusedWindows (ids : List WindowId)
  deriving DecidableEq

structure FocusedWindowHealth where
  id : WindowId
  appId : Option String
  title : Option String
  matchedRule : Option ℕ
  isFloating : Bool
  deriving DecidableEq

structure HealthReport where
  totalWindows : ℕ
  matchedTiledWindows : ℕ
  unmatchedTiledWindows : ℕ
  floatingWindows : ℕ
  matchedFloatingWindows : ℕ
  matchesPerRule : List ℕ
  focused : Option FocusedWindowHealth
  deriving DecidableEq

def resolveRule (config : Config) (window : NiriWindow) : Option ℕ :=
  (config.resolve { appId := window.appId, title := window.title }).map (·.index)

def FocusedWindowHealth.ofWindow (config : Config) (window : NiriWindow) : FocusedWindowHealth where
  id := window.windowId
  appId := window.appId
  title := window.title
  matchedRule := resolveRule config window
  isFloating := window.isFloating

namespace HealthReport

structure Tally where
  matchesPerRule : List ℕ
  matchedTiledWindows : ℕ
  unmatchedTiledWindows : ℕ
  floatingWindows : ℕ
  matchedFloatingWindows : ℕ

def Tally.start (config : Config) : Tally where
  matchesPerRule := List.replicate config.attention.length 0
  matchedTiledWindows := 0
  unmatchedTiledWindows := 0
  floatingWindows := 0
  matchedFloatingWindows := 0

-- One turn of the loop; an index past the end of the counters panics.
def Tally.count (config : Config) (self : Tally) (window : NiriWindow) : Option Tally :=
  let matchedRule := resolveRule config window
  if window.isFloating then
    some { self with
      floatingWindows := self.floatingWindows + 1
      matchedFloatingWindows :=
        if matchedRule.isSome then self.matchedFloatingWindows + 1
        else self.matchedFloatingWindows }
  else
    match matchedRule with
    | some ruleIndex =>
      if ruleIndex < self.matchesPerRule.length then
        some { self with
          matchedTiledWindows := self.matchedTiledWindows + 1
          matchesPerRule := self.matchesPerRule.modify ruleIndex (· + 1) }
      else none
    | none => some { self with unmatchedTiledWindows := self.unmatchedTiledWindows + 1 }

/-- `none` stands for a panic of the loop. -/
def fromWindows (config : Config) (windows : List NiriWindow) :
    Option (Except HealthError HealthReport) :=
  let focused := windows.filter (·.isFocused)
  if focused.length > 1 then some (.error (.multipleFocusedWindows (focused.map (·.windowId))))
  else do
    let tally ← windows.foldlM (Tally.count config) (.start config)
    return .ok {
      totalWindows := windows.length
      matchedTiledWindows := tally.matchedTiledWindows
      unmatchedTiledWindows := tally.unmatchedTiledWindows
      floatingWindows := tally.floatingWindows
      matchedFloatingWindows := tally.matchedFloatingWindows
      matchesPerRule := tally.matchesPerRule
      focused := focused.head?.map (.ofWindow config) }

def tiledRule (config : Config) (window : NiriWindow) : Option ℕ :=
  if window.isFloating then none else resolveRule config window

structure Tally.Counts (config : Config) (windows : List NiriWindow) (tally : Tally) : Prop where
  floating : tally.floatingWindows = windows.countP (·.isFloating)
  matched : tally.matchedTiledWindows = windows.countP fun window =>
    (tiledRule config window).isSome
  unmatched : tally.unmatchedTiledWindows = windows.countP fun window =>
    !window.isFloating && (resolveRule config window).isNone
  rules : tally.matchesPerRule = (List.range config.attention.length).map fun index =>
    windows.countP fun window => tiledRule config window = some index

variable {config : Config} {windows : List NiriWindow}

lemma resolveRule_lt {window : NiriWindow} {index : ℕ} (h : resolveRule config window = some index) :
    index < config.attention.length := by
  obtain ⟨resolved, hr, rfl⟩ := Option.map_eq_some_iff.mp h
  exact (List.getElem?_eq_some_iff.mp (Config.resolve_eq_some.mp hr).1).1

lemma Tally.Counts.start : Counts config [] (.start config) := by
  refine ⟨rfl, rfl, rfl, List.ext_getElem (by simp [Tally.start]) fun i hi hi' => ?_⟩
  simp [Tally.start]

lemma Tally.Counts.count {tally : Tally} (h : Counts config windows tally) (window : NiriWindow) :
    ∃ next, tally.count config window = some next ∧ Counts config (windows ++ [window]) next := by
  by_cases hf : window.isFloating
  · refine ⟨_, if_pos hf, ?_⟩
    have htiled : tiledRule config window = none := if_pos hf
    constructor
    · simp [h.floating, hf]
    · simp [h.matched, htiled]
    · simp [h.unmatched, hf]
    · simp [h.rules, htiled]
  · have htiled : tiledRule config window = resolveRule config window := if_neg hf
    cases hr : resolveRule config window with
    | none =>
      refine ⟨{ tally with unmatchedTiledWindows := tally.unmatchedTiledWindows + 1 }, ?_, ?_⟩
      · simp [Tally.count, hf, hr]
      · constructor
        · simp [h.floating, hf]
        · simp [h.matched, htiled, hr]
        · simp [h.unmatched, hf, hr]
        · simp [h.rules, htiled, hr]
    | some index =>
      have hlt := resolveRule_lt hr
      refine ⟨{ tally with
        matchedTiledWindows := tally.matchedTiledWindows + 1
        matchesPerRule := tally.matchesPerRule.modify index (· + 1) }, ?_, ?_⟩
      · simp [Tally.count, hf, hr, h.rules, hlt]
      · constructor
        · simp [h.floating, hf]
        · simp [h.matched, htiled, hr]
        · simp [h.unmatched, hf, hr]
        · refine List.ext_getElem (by simp [h.rules]) fun i hi hi' => ?_
          by_cases hindex : index = i
          · simp [h.rules, htiled, hr, hindex]
          · simp [h.rules, htiled, hr, hindex]

lemma tally_counts (config : Config) (windows : List NiriWindow) : ∃ tally,
    windows.foldlM (Tally.count config) (.start config) = some tally ∧
      tally.Counts config windows := by
  induction windows using List.reverseRecOn with
  | nil => exact ⟨_, rfl, .start⟩
  | append_singleton windows window ih =>
    obtain ⟨tally, hfold, hcounts⟩ := ih
    obtain ⟨next, hnext, hcounts'⟩ := hcounts.count window
    refine ⟨next, ?_, hcounts'⟩
    rw [List.foldlM_append, hfold]
    exact (Option.bind_some _ _).trans (by simp [hnext])

lemma fromWindows_rejected (h : ¬ Accepted windows) : fromWindows config windows =
    some (.error (.multipleFocusedWindows ((windows.filter (·.isFocused)).map (·.windowId)))) :=
  if_pos (by simpa [Accepted] using h)

structure Describes (config : Config) (windows : List NiriWindow) (report : HealthReport) :
    Prop where
  total : report.totalWindows = windows.length
  floating : report.floatingWindows = windows.countP (·.isFloating)
  matched : report.matchedTiledWindows = windows.countP fun window =>
    (tiledRule config window).isSome
  unmatched : report.unmatchedTiledWindows = windows.countP fun window =>
    !window.isFloating && (resolveRule config window).isNone
  rules : report.matchesPerRule = (List.range config.attention.length).map fun index =>
    windows.countP fun window => tiledRule config window = some index
  focused : report.focused = (windows.find? (·.isFocused)).map (.ofWindow config)

lemma fromWindows_accepted (config : Config) (h : Accepted windows) : ∃ report,
    fromWindows config windows = some (.ok report) ∧ Describes config windows report := by
  obtain ⟨tally, hfold, hcounts⟩ := tally_counts config windows
  rw [fromWindows, if_neg (by simpa [Accepted] using h), hfold, List.head?_filter]
  exact ⟨_, rfl, rfl, hcounts.floating, hcounts.matched, hcounts.unmatched, hcounts.rules, rfl⟩

end HealthReport

namespace DecisionOutcome

def ruleIndex : DecisionOutcome → Option ℕ
  | .resize index _ | .preserve index => some index
  | .unmanaged | .excluded _ | .unknownWindow => none

def isExcluded : DecisionOutcome → Bool
  | .excluded _ => true
  | _ => false

end DecisionOutcome

def snapshotState (window : NiriWindow) : FocusState :=
  if window.isFocused then .focused else .unfocused

def snapshotDecision (config : Config) (window : NiriWindow) : FocusDecision where
  windowId := window.id
  state := snapshotState window
  outcome := outcomeOf config window.intoRecord (snapshotState window)

section Outcome

variable (config : Config) (window : NiriWindow) (state : FocusState)

lemma outcomeOf_cases : ∃ outcome, outcomeOf config window.intoRecord state = outcome ∧
    ((window.isFloating ∧ outcome = .excluded .floating) ∨
      (window.isFloating = false ∧ resolveRule config window = none ∧ outcome = .unmanaged) ∨
      ∃ index, window.isFloating = false ∧ resolveRule config window = some index ∧
        (outcome = .preserve index ∨ ∃ width, outcome = .resize index width)) := by
  refine ⟨_, rfl, ?_⟩
  by_cases hf : window.isFloating
  · exact .inl ⟨hf, outcomeOf_floating hf state⟩
  · rcases firstMatch_or_noMatch config window with hn | ⟨index, rule, hm⟩
    · have hr : config.resolve window.identity = none := Config.resolve_eq_none.mpr hn
      exact .inr (.inl ⟨by simpa using hf, congrArg (Option.map _) hr,
        outcomeOf_noMatch hf hn state⟩)
    · have hr : config.resolve window.identity = some ⟨index, rule⟩ := resolve_firstMatch.mpr hm
      refine .inr (.inr ⟨index, by simpa using hf, congrArg (Option.map _) hr, ?_⟩)
      rw [outcomeOf_firstMatch hf hm state, AttentionRule.outcome]
      cases rule.width state with
      | proportion width => exact .inr ⟨width, rfl⟩
      | preserve => exact .inl rfl

lemma isExcluded_outcomeOf :
    (outcomeOf config window.intoRecord state).isExcluded = window.isFloating := by
  obtain ⟨outcome, he, ⟨hf, rfl⟩ | ⟨hf, -, rfl⟩ | ⟨index, hf, -, rfl | ⟨width, rfl⟩⟩⟩ :=
    outcomeOf_cases config window state <;> rw [he, hf] <;> rfl

lemma ruleIndex_outcomeOf : (outcomeOf config window.intoRecord state).ruleIndex =
    HealthReport.tiledRule config window := by
  obtain ⟨outcome, he, ⟨hf, rfl⟩ | ⟨hf, hr, rfl⟩ | ⟨index, hf, hr, rfl | ⟨width, rfl⟩⟩⟩ :=
    outcomeOf_cases config window state <;>
      simp [*, HealthReport.tiledRule, DecisionOutcome.ruleIndex]

lemma outcomeOf_eq_unmanaged : outcomeOf config window.intoRecord state = .unmanaged ↔
    window.isFloating = false ∧ resolveRule config window = none := by
  obtain ⟨outcome, he, ⟨hf, rfl⟩ | ⟨hf, hr, rfl⟩ | ⟨index, hf, hr, rfl | ⟨width, rfl⟩⟩⟩ :=
    outcomeOf_cases config window state <;> simp [*]

lemma outcomeOf_ne_unknown : outcomeOf config window.intoRecord state ≠ .unknownWindow := by
  obtain ⟨outcome, he, ⟨hf, rfl⟩ | ⟨hf, -, rfl⟩ | ⟨index, hf, -, rfl | ⟨width, rfl⟩⟩⟩ :=
    outcomeOf_cases config window state <;> rw [he] <;> simp

end Outcome

lemma decisions_perm (config : Config) {windows : List NiriWindow} (ha : Accepted windows)
    (hn : (windows.map (·.id)).Nodup) : ∃ t,
    ((NiriAdapter.new config).apply (.windowsChanged windows)).1 = .ok (some t) ∧
      t.current = (windows.find? (·.isFocused)).map (·.id) ∧
      t.decisions.Perm (windows.map (snapshotDecision config)) := by
  rw [apply_accepted _ ha]
  refine ⟨_, rfl, rfl, ?_⟩
  set current := (windows.find? (·.isFocused)).map (·.id)
  set engine := (NiriAdapter.new config).replacedEngine windows
  have hget (id : WindowId) : engine.windows[id]? =
      ((windows.filter (·.id = id)).getLast?).map NiriWindow.intoRecord :=
    get_replacedEngine_windows (Tracks.new config).keys windows id
  have hkeys : engine.windows.keys.Perm (windows.map (·.id)) := by
    refine (List.perm_ext_iff_of_nodup ExtTreeMap.nodup_keys hn).mpr fun id => ?_
    rw [ExtTreeMap.mem_keys, mem_iff_get_ne, hget, Ne, Option.map_eq_none_iff,
      List.getLast?_eq_none_iff, List.filter_eq_nil_iff]
    simp
  have hdecision : ∀ window ∈ windows, engine.decisionFor window.id
      (if some window.id = current then .focused else .unfocused) =
        snapshotDecision config window := by
    intro window hw
    have hstate : some window.id = current ↔ window.isFocused := by
      rw [eq_comm, ha.focused_iff]
      constructor
      · rintro ⟨other, ho, hf, he⟩
        rwa [List.inj_on_of_nodup_map hn ho hw he] at hf
      · exact fun hf => ⟨window, hw, hf, rfl⟩
    have hwindow : engine.windows[window.id]? = some window.intoRecord := by
      rw [hget, KeyedList.filter_eq_singleton hn hw]
      rfl
    have hconfig : engine.config = config := replacedEngine_config _ windows
    simp only [decisionFor, hwindow, hconfig, hstate, Option.elim_some]
    rfl
  have hmap := hkeys.map fun id =>
    engine.decisionFor id (if some id = current then .focused else .unfocused)
  rw [List.map_map] at hmap
  refine hmap.trans (List.Perm.of_eq (List.map_congr_left fun window hw => hdecision window hw))

structure HealthReport.Agrees (config : Config) (report : HealthReport) (t : FocusTransition) :
    Prop where
  total : report.totalWindows = t.decisions.length
  floating : report.floatingWindows = t.decisions.countP (·.outcome.isExcluded)
  matched : report.matchedTiledWindows = t.decisions.countP (·.outcome.ruleIndex.isSome)
  unmatched : report.unmatchedTiledWindows = t.decisions.countP (·.outcome = .unmanaged)
  known : ∀ decision ∈ t.decisions, decision.outcome ≠ .unknownWindow
  rules : report.matchesPerRule.length = config.attention.length
  perRule : ∀ index, index < config.attention.length → report.matchesPerRule[index]? =
    some (t.decisions.countP fun decision => decision.outcome.ruleIndex = some index)
  current : report.focused.map (·.id) = t.current
  focused : ∀ focused, report.focused = some focused → focused.isFloating = false →
    ∃ decision ∈ t.decisions, decision.windowId = focused.id ∧
      (decision.outcome = .unmanaged ∧ focused.matchedRule = none ∨
        ∃ index, decision.outcome.ruleIndex = some index ∧ focused.matchedRule = some index)

/-- The health report and a fresh adapter reject the same snapshots, and agree on the others. -/
theorem health_agrees_with_run (config : Config) (windows : List NiriWindow)
    (hn : (windows.map (·.id)).Nodup) :
    let reported := HealthReport.fromWindows config windows
    let answer := ((NiriAdapter.new config).apply (.windowsChanged windows)).1
    (∃ ids, reported = some (.error (.multipleFocusedWindows ids)) ∧
      answer = .error (.multipleFocusedWindows ids)) ∨
    ∃ report t, reported = some (.ok report) ∧ answer = .ok (some t) ∧ report.Agrees config t := by
  intro reported answer
  by_cases ha : Accepted windows
  · right
    obtain ⟨report, hreport, hd⟩ := HealthReport.fromWindows_accepted config ha
    obtain ⟨t, hanswer, hcurrent, hp⟩ := decisions_perm config ha hn
    refine ⟨report, t, hreport, hanswer, ?_⟩
    have hcount (p : FocusDecision → Bool) : t.decisions.countP p =
        windows.countP fun window => p (snapshotDecision config window) := by
      rw [hp.countP_eq, List.countP_map]
      rfl
    refine ⟨?_, ?_, ?_, ?_, fun decision hm => ?_, ?_, fun index hi => ?_, ?_, ?_⟩
    · rw [hp.length_eq, List.length_map, hd.total]
    · rw [hcount, hd.floating]
      exact List.countP_congr fun window _ => by rw [snapshotDecision, isExcluded_outcomeOf]
    · rw [hcount, hd.matched]
      exact List.countP_congr fun window _ => by rw [snapshotDecision, ruleIndex_outcomeOf]
    · rw [hcount, hd.unmatched]
      exact List.countP_congr fun window _ => by simp [snapshotDecision, outcomeOf_eq_unmanaged]
    · obtain ⟨window, -, rfl⟩ := List.mem_map.mp (hp.mem_iff.mp hm)
      exact outcomeOf_ne_unknown config window (snapshotState window)
    · rw [hd.rules, List.length_map, List.length_range]
    · rw [hcount, hd.rules, List.getElem?_map, List.getElem?_range hi]
      simp [snapshotDecision, ruleIndex_outcomeOf]
    · rw [hd.focused, hcurrent, Option.map_map]
      rfl
    · intro focused hf hfloating
      obtain ⟨window, hw, rfl⟩ := Option.map_eq_some_iff.mp (hd.focused.symm.trans hf)
      refine ⟨snapshotDecision config window, hp.mem_iff.mpr (List.mem_map_of_mem ?_), rfl, ?_⟩
      · exact List.mem_of_find?_eq_some hw
      · obtain ⟨outcome, he, ⟨hexcluded, -⟩ | ⟨-, hr, rfl⟩ | ⟨index, -, hr, ho⟩⟩ :=
          outcomeOf_cases config window (snapshotState window)
        · exact absurd hfloating (by simp [FocusedWindowHealth.ofWindow, hexcluded])
        · exact .inl ⟨he, hr⟩
        · refine .inr ⟨index, ?_, hr⟩
          simp only [snapshotDecision, he]
          rcases ho with rfl | ⟨width, rfl⟩ <;> rfl
  · exact .inl ⟨_, HealthReport.fromWindows_rejected ha, congrArg Prod.fst (apply_rejected _ ha)⟩

theorem health_agrees_with_run_mixed :
    let windows : List NiriWindow := [⟨30, some "title", some "kitty", false, true⟩,
      ⟨20, some "title", some "code", true, false⟩, ⟨10, some "title", some "kitty", false, false⟩,
      ⟨40, some "title", some "firefox", false, false⟩]
    ∃ report t, HealthReport.fromWindows .kittyAndCode windows = some (.ok report) ∧
      ((NiriAdapter.new .kittyAndCode).apply (.windowsChanged windows)).1 = .ok (some t) ∧
      report.Agrees .kittyAndCode t := by
  intro windows
  rcases health_agrees_with_run .kittyAndCode windows (by decide) with ⟨ids, h, -⟩ | h
  · obtain ⟨report, hreport, -⟩ :=
      HealthReport.fromWindows_accepted .kittyAndCode (show Accepted windows by decide)
    cases hreport.symm.trans h
  · exact h

end Melibea
