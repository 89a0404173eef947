import Melibea.Tracking

/-! Every decision is the configured policy applied to the history of niri events. -/

namespace Melibea

open Std Library OrderedMap NiriAdapter AttentionEngine

def NiriWindow.identity (self : NiriWindow) : WindowIdentity where
  appId := self.appId
  title := self.title

def Config.FirstMatch (config : Config) (window : NiriWindow) (index : ℕ) (rule : AttentionRule) :
    Prop :=
  config.attention[index]? = some rule ∧ rule.matches window.identity ∧
    ∀ (j : ℕ) (other : AttentionRule), j < index → config.attention[j]? = some other →
      other.matches window.identity = false

def Config.NoMatch (config : Config) (window : NiriWindow) : Prop :=
  ∀ rule ∈ config.attention, rule.matches window.identity = false

def AttentionRule.width (rule : AttentionRule) : FocusState → WidthPolicy
  | .focused => rule.policy.focused
  | .unfocused => rule.policy.unfocused

structure Prescribed (config : Config) (record : Option NiriWindow) (state : FocusState)
    (outcome : DecisionOutcome) : Prop where
  unknown : outcome = .unknownWindow ↔ record = none
  excluded : outcome = .excluded .floating ↔ ∃ window, record = some window ∧ window.isFloating
  unmanaged : outcome = .unmanaged ↔ ∃ window, record = some window ∧ ¬ window.isFloating ∧
    config.NoMatch window
  resize (index : ℕ) (width : Proportion) : outcome = .resize index width ↔ ∃ window rule,
    record = some window ∧ ¬ window.isFloating ∧ config.FirstMatch window index rule ∧
      rule.width state = .proportion width
  preserve (index : ℕ) : outcome = .preserve index ↔ ∃ window rule,
    record = some window ∧ ¬ window.isFloating ∧ config.FirstMatch window index rule ∧
      rule.width state = .preserve

lemma widthFor_eq (rule : AttentionRule) (state : FocusState) :
    rule.policy.widthFor state.isFocused = rule.width state := by
  cases state <;> rfl

lemma resolve_firstMatch {config : Config} {window : NiriWindow} {resolved : ResolvedRule} :
    config.resolve window.identity = some resolved ↔
      config.FirstMatch window resolved.index resolved.rule :=
  Config.resolve_eq_some

lemma Config.FirstMatch.unique {config : Config} {window : NiriWindow} {i j : ℕ}
    {rule other : AttentionRule} (h : config.FirstMatch window i rule)
    (h' : config.FirstMatch window j other) : i = j ∧ rule = other := by
  have hi : config.resolve window.identity = some ⟨i, rule⟩ := resolve_firstMatch.mpr h
  have hj : config.resolve window.identity = some ⟨j, other⟩ := resolve_firstMatch.mpr h'
  rw [hi] at hj
  simpa using hj

lemma Config.FirstMatch.not_noMatch {config : Config} {window : NiriWindow} {index : ℕ}
    {rule : AttentionRule} (h : config.FirstMatch window index rule) :
    ¬ config.NoMatch window := by
  intro hn
  have hm := hn rule (List.mem_of_getElem? h.1)
  simp [h.2.1] at hm

def AttentionRule.outcome (rule : AttentionRule) (index : ℕ) (state : FocusState) :
    DecisionOutcome :=
  match rule.width state with
  | .proportion width => .resize index width
  | .preserve => .preserve index

lemma outcomeOf_floating {config : Config} {window : NiriWindow} (h : window.isFloating)
    (state : FocusState) : outcomeOf config window.intoRecord state = .excluded .floating := by
  simp [outcomeOf, NiriWindow.intoRecord, h]

lemma outcomeOf_noMatch {config : Config} {window : NiriWindow} (h : ¬ window.isFloating)
    (hn : config.NoMatch window) (state : FocusState) :
    outcomeOf config window.intoRecord state = .unmanaged := by
  have he : window.intoRecord.eligibility = .managed := by simp [NiriWindow.intoRecord, h]
  have hr : config.resolve window.intoRecord.identity = none := Config.resolve_eq_none.mpr hn
  simp only [outcomeOf, he, hr]

lemma outcomeOf_firstMatch {config : Config} {window : NiriWindow} (h : ¬ window.isFloating)
    {index : ℕ} {rule : AttentionRule} (hm : config.FirstMatch window index rule)
    (state : FocusState) :
    outcomeOf config window.intoRecord state = rule.outcome index state := by
  have he : window.intoRecord.eligibility = .managed := by simp [NiriWindow.intoRecord, h]
  have hr : config.resolve window.intoRecord.identity = some ⟨index, rule⟩ :=
    resolve_firstMatch.mpr hm
  simp only [outcomeOf, he, hr, widthFor_eq]
  rfl

lemma firstMatch_or_noMatch (config : Config) (window : NiriWindow) :
    config.NoMatch window ∨ ∃ index rule, config.FirstMatch window index rule := by
  cases hr : config.resolve window.identity with
  | none => exact .inl (Config.resolve_eq_none.mp hr)
  | some resolved => exact .inr ⟨_, _, resolve_firstMatch.mp hr⟩

lemma prescribed_outcome (config : Config) (record : Option NiriWindow) (state : FocusState) :
    Prescribed config record state
      ((record.map NiriWindow.intoRecord).elim .unknownWindow (outcomeOf config · state)) := by
  cases record with
  | none => constructor <;> simp
  | some window =>
    by_cases hf : window.isFloating
    · have ho : outcomeOf config window.intoRecord state = _ := outcomeOf_floating hf state
      constructor <;> simp [ho, hf]
    rcases firstMatch_or_noMatch config window with hn | ⟨index, rule, hm⟩
    · have ho := outcomeOf_noMatch hf hn state
      have hno : ∀ index rule, ¬ config.FirstMatch window index rule :=
        fun index rule hm => hm.not_noMatch hn
      constructor <;> simp [ho, hf, hn, hno]
    · have ho := outcomeOf_firstMatch hf hm state
      have hn := hm.not_noMatch
      have hu : ∀ i other, config.FirstMatch window i other ↔ i = index ∧ other = rule :=
        fun i other => ⟨fun h => h.unique hm, fun h => h.1 ▸ h.2 ▸ hm⟩
      cases hw : rule.width state with
      | proportion width =>
        refine ⟨?_, ?_, ?_, fun i width' => ?_, fun i => ?_⟩ <;>
          simp [ho, hf, hn, hu, AttentionRule.outcome, hw]
        rw [eq_comm (a := index)]
        exact fun _ => Iff.rfl
      | preserve =>
        refine ⟨?_, ?_, ?_, fun i width' => ?_, fun i => ?_⟩ <;>
          simp [ho, hf, hn, hu, AttentionRule.outcome, hw]
        rw [eq_comm (a := index)]

lemma Accepted.focused_iff {windows : List NiriWindow} (h : Accepted windows) (id : WindowId) :
    (windows.find? (·.isFocused)).map (·.id) = some id ↔
      ∃ window ∈ windows, window.isFocused ∧ window.id = id := by
  rw [← List.head?_filter]
  have hm : ∀ window, window ∈ windows.filter (·.isFocused) ↔ window ∈ windows ∧ window.isFocused :=
    fun window => List.mem_filter
  unfold Accepted at h
  match hl : windows.filter (·.isFocused) with
  | [] =>
    simp only [hl, List.not_mem_nil, false_iff] at hm
    rw [hl, List.head?_nil, Option.map_none]
    simp only [reduceCtorEq, false_iff]
    rintro ⟨window, hw, hf, _⟩
    exact hm window ⟨hw, hf⟩
  | [focused] =>
    simp only [hl, List.mem_singleton] at hm
    rw [hl, List.head?_cons, Option.map_some, Option.some.injEq]
    simp only [← and_assoc, ← hm, exists_eq_left]
  | _ :: _ :: _ => simp [hl] at h

lemma focusDecisions_shape (self : AttentionEngine) (previous current : Option WindowId) :
    (self.focusDecisions previous current).map (fun d => (d.windowId, d.state)) =
      (if previous = current then [] else (previous.map (·, .unfocused)).toList) ++
        (current.map (·, .focused)).toList := by
  cases previous <;> cases current <;> simp only [focusDecisions] <;> split_ifs <;> simp

/-- Every emitted decision is the policy applied to the latest report of its window; a snapshot
decides once for each reported window and any other event for the windows whose focus it moves,
or for the focused window again. -/
theorem decisions_follow_history (config : Config) (events : List NiriEvent) (event : NiriEvent)
    (t : FocusTransition) (h : ((NiriAdapter.after config events).apply event).1 = .ok (some t)) :
    let desktop := Desktop.after (events ++ [event])
    let previous := (NiriAdapter.after config events).engine.focusedWindow
    let current := (NiriAdapter.after config (events ++ [event])).engine.focusedWindow
    (∀ decision ∈ t.decisions,
      Prescribed config (desktop.window decision.windowId) decision.state decision.outcome) ∧
    (∀ windows, event = .windowsChanged windows →
      (t.decisions.map (·.windowId)).Nodup ∧
      (∀ id, id ∈ t.decisions.map (·.windowId) ↔ (desktop.window id).isSome) ∧
      ∀ decision ∈ t.decisions, decision.state = .focused ↔
        ∃ window ∈ windows, window.isFocused ∧ window.id = decision.windowId) ∧
    ((∀ windows, event ≠ .windowsChanged windows) →
      (previous ≠ current → t.decisions.map (fun d => (d.windowId, d.state)) =
        (previous.map (·, .unfocused)).toList ++ (current.map (·, .focused)).toList) ∧
      (previous = current → t.decisions.map (fun d => (d.windowId, d.state)) =
        (current.map (·, .focused)).toList)) := by
  intro desktop previous current
  have he := apply_emission h
  have ht : Tracks (NiriAdapter.after config (events ++ [event])) desktop := tracks_after _ _
  have hc : (NiriAdapter.after config (events ++ [event])).engine.config = config :=
    after_config _ _
  simp only [current, previous, focusedWindow]
  rw [NiriAdapter.after_concat] at ht hc ⊢
  refine ⟨fun decision hd => ?_, fun windows hw => ?_, fun hw => ?_⟩
  · have hp := prescribed_outcome config (desktop.window decision.windowId) decision.state
    rw [← ht.engine] at hp
    rw [he.decided hd, decisionFor, hc]
    exact hp
  · obtain ⟨ha, hcur, hdec⟩ := he.snapshot hw
    have hids : t.decisions.map (·.windowId) =
        ((NiriAdapter.after config events).apply event).2.engine.windows.keys := by
      rw [hdec, snapshotDecisions, List.map_map]
      exact List.map_id _
    refine ⟨hids ▸ ExtTreeMap.nodup_keys, fun id => ?_, fun decision hd => ?_⟩
    · rw [hids, ExtTreeMap.mem_keys, ExtTreeMap.mem_iff_isSome_getElem?, ht.engine,
        Option.isSome_map]
    · rw [← ha.focused_iff, ← hcur]
      rw [hdec, snapshotDecisions] at hd
      obtain ⟨id, _, rfl⟩ := List.mem_map.mp hd
      simp only [decisionFor_state, decisionFor_windowId]
      split_ifs with hi
      · simp [hi]
      · simp [Ne.symm hi]
  · obtain ⟨hp, hdec⟩ := he.report hw
    rw [hdec, focusDecisions_shape, hp, ← he.current]
    refine ⟨fun hne => ?_, fun heq => ?_⟩
    · rw [if_neg hne]
    · rw [if_pos heq, List.nil_append]

theorem decisions_follow_unknown_focus :
    let kitty : NiriWindow := ⟨10, some "window", some "kitty", true, false⟩
    let transition : FocusTransition :=
      ⟨2, some 10, some 30, [⟨10, .unfocused, .resize 0 .tenth⟩, ⟨30, .focused, .unknownWindow⟩]⟩
    ∀ decision ∈ transition.decisions, Prescribed .kittyAndCode
      ((Desktop.after [.windowsChanged [kitty], .windowFocusChanged (some 30)]).window
        decision.windowId) decision.state decision.outcome := by
  intro kitty transition
  exact (decisions_follow_history .kittyAndCode [.windowsChanged [kitty]]
    (.windowFocusChanged (some 30)) transition (by decide +kernel)).1

end Melibea
