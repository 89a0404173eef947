import Melibea.Tracking

/-! A full snapshot erases history. -/

namespace Melibea

open Std Library OrderedMap

def FocusTransition.SameDecisions (t u : FocusTransition) : Prop :=
  t.previous = u.previous ∧ t.current = u.current ∧ t.decisions = u.decisions

inductive SameAnswer : Except NiriAdapterError (Option FocusTransition) →
    Except NiriAdapterError (Option FocusTransition) → Prop
  | error (e : NiriAdapterError) : SameAnswer (.error e) (.error e)
  | silent : SameAnswer (.ok none) (.ok none)
  | emitted {t u : FocusTransition} : t.SameDecisions u → SameAnswer (.ok (some t)) (.ok (some u))

namespace NiriAdapter

open AttentionEngine

structure SameView (a b : NiriAdapter) : Prop where
  config : a.engine.config = b.engine.config
  windows : a.engine.windows = b.engine.windows
  focused : a.engine.focused = b.engine.focused
  known : a.knownWindows = b.knownWindows

variable {a b : NiriAdapter}

lemma SameView.replacedEngine_windows (h : SameView a b) (windows : List NiriWindow) :
    (a.replacedEngine windows).windows = (b.replacedEngine windows).windows := by
  simp only [replacedEngine, foldl_removeWindow, foldl_upsertWindow, h.windows, h.known]

lemma SameView.replacedEngine_focused (h : SameView a b) (windows : List NiriWindow) :
    (a.replacedEngine windows).focused = (b.replacedEngine windows).focused := by
  simp only [replacedEngine, foldl_removeWindow, foldl_upsertWindow, h.focused, h.known]

lemma SameView.recorded (h : SameView a b) (window : NiriWindow) :
    SameView (a.recorded window) (b.recorded window) where
  config := h.config
  windows := by simp [NiriAdapter.recorded, h.windows]
  focused := h.focused
  known := by simp [NiriAdapter.recorded, h.known]

lemma SameView.focusDecisions (h : SameView a b) (previous current : Option WindowId) :
    a.engine.focusDecisions previous current = b.engine.focusDecisions previous current := by
  simp only [AttentionEngine.focusDecisions, decisionFor_congr h.config h.windows]

lemma SameView.applyFocus (h : SameView a b) (current : Option WindowId) :
    (a.applyFocus current).1.SameDecisions (b.applyFocus current).1 ∧
      SameView (a.applyFocus current).2 (b.applyFocus current).2 := by
  rw [applyFocus_eq, applyFocus_eq]
  refine ⟨⟨h.focused, rfl, ?_⟩, h.config, h.windows, rfl, h.known⟩
  rw [h.focused]
  exact h.focusDecisions _ _

lemma SameView.apply (h : SameView a b) (event : NiriEvent) :
    SameAnswer (a.apply event).1 (b.apply event).1 ∧
      SameView (a.apply event).2 (b.apply event).2 := by
  cases event with
  | windowsChanged windows =>
    by_cases ha : Accepted windows
    · rw [apply_accepted _ ha, apply_accepted _ ha]
      have hc : (a.replacedEngine windows).config = (b.replacedEngine windows).config := by
        simp [h.config]
      have hw := h.replacedEngine_windows windows
      exact ⟨.emitted ⟨h.replacedEngine_focused windows, rfl, snapshotDecisions_congr hc hw _⟩,
        hc, hw, rfl, rfl⟩
    · rw [apply_rejected _ ha, apply_rejected _ ha]
      exact ⟨.error _, h⟩
  | minimizedWindowsChanged windows => exact ⟨.silent, h⟩
  | windowOpenedOrChanged window =>
    have hiff : a.Relevant window ↔ b.Relevant window := by rw [Relevant, Relevant, h.known]
    by_cases ha : a.Relevant window
    · rw [apply_opened_relevant _ ha, apply_opened_relevant _ (hiff.mp ha)]
      have hf := (h.recorded window).applyFocus (some window.windowId)
      exact ⟨.emitted hf.1, hf.2⟩
    · rw [apply_opened_silent _ ha, apply_opened_silent _ (mt hiff.mpr ha)]
      exact ⟨.silent, h.recorded window⟩
  | windowClosed id =>
    refine ⟨.silent, h.config, ?_, ?_, ?_⟩
    · simp [NiriAdapter.apply, h.windows]
    · simp [NiriAdapter.apply, h.focused]
    · simp [NiriAdapter.apply, h.known]
  | windowFocusChanged id =>
    have hf := h.applyFocus id
    exact ⟨.emitted hf.1, hf.2⟩
  | ignored name => exact ⟨.silent, h⟩

lemma sameView_bisimulation :
    Machine.Bisimulation NiriAdapter.apply NiriAdapter.apply SameView SameAnswer where
  answers h event := (h.apply event).1
  preserved h event := (h.apply event).2

lemma apply_accepted_sameView {c d : Desktop} (hc : Tracks a c) (hd : Tracks b d)
    (he : a.engine.config = b.engine.config) {windows : List NiriWindow} (h : Accepted windows) :
    SameView (a.apply (.windowsChanged windows)).2 (b.apply (.windowsChanged windows)).2 := by
  rw [apply_accepted _ h, apply_accepted _ h]
  refine ⟨?_, ExtTreeMap.ext_getElem? fun id => ?_, rfl, rfl⟩
  · simp [observed, he]
  · exact (get_replacedEngine_windows hc.keys windows id).trans
      (get_replacedEngine_windows hd.keys windows id).symm

end NiriAdapter

open NiriAdapter

/-- An accepted snapshot gives the same decisions in any reachable adapter as in a fresh one, and
the two are indistinguishable from then on, generation numbers apart. -/
theorem snapshot_erases_history (config : Config) (history : List NiriEvent)
    (windows : List NiriWindow) (h : Accepted windows) :
    let reached := (NiriAdapter.after config history).apply (.windowsChanged windows)
    let fresh := (NiriAdapter.new config).apply (.windowsChanged windows)
    (∃ t u, reached.1 = .ok (some t) ∧ fresh.1 = .ok (some u) ∧
      t.decisions = u.decisions ∧ t.current = u.current) ∧
    reached.2.knownWindows = fresh.2.knownWindows ∧
    reached.2.engine.windows = fresh.2.engine.windows ∧
    reached.2.engine.focusedWindow = fresh.2.engine.focusedWindow ∧
    ∀ later, List.Forall₂ SameAnswer (Machine.outputs NiriAdapter.apply reached.2 later)
      (Machine.outputs NiriAdapter.apply fresh.2 later) := by
  have hv := apply_accepted_sameView (tracks_after config history) (.new config)
    (after_config config history) h
  refine ⟨?_, hv.known, hv.windows, hv.focused, sameView_bisimulation.outputs hv⟩
  rw [apply_accepted _ h, apply_accepted _ h] at hv ⊢
  exact ⟨_, _, rfl, rfl, snapshotDecisions_congr hv.config hv.windows _, rfl⟩

theorem snapshot_erases_reopened_window :
    let kitty : NiriWindow := ⟨10, some "window", some "kitty", true, false⟩
    let code : NiriWindow := ⟨20, some "window", some "code", false, false⟩
    let history : List NiriEvent := [.windowsChanged [kitty, code], .windowClosed 20,
      .windowFocusChanged (some 30), .windowOpenedOrChanged code]
    let reached := (NiriAdapter.after .kittyAndCode history).apply (.windowsChanged [kitty])
    let fresh := (NiriAdapter.new .kittyAndCode).apply (.windowsChanged [kitty])
    reached.2.knownWindows[(10 : WindowId)]? = some (.ofWindow kitty) ∧
      reached.2.knownWindows[(20 : WindowId)]? = none ∧
      reached.2.engine.windows[(20 : WindowId)]? = none ∧
      reached.2.engine.focusedWindow = some 10 ∧
      ∀ later, List.Forall₂ SameAnswer (Machine.outputs NiriAdapter.apply reached.2 later)
        (Machine.outputs NiriAdapter.apply fresh.2 later) := by
  intro kitty code history reached fresh
  obtain ⟨-, hknown, hwindows, hfocused, hlater⟩ :=
    snapshot_erases_history .kittyAndCode history [kitty] (by decide)
  refine ⟨?_, ?_, ?_, hfocused.trans (by decide +kernel), hlater⟩
  · exact hknown ▸ (by decide +kernel : fresh.2.knownWindows[(10 : WindowId)]? = some (.ofWindow kitty))
  · exact hknown ▸ (by decide +kernel : fresh.2.knownWindows[(20 : WindowId)]? = none)
  · exact hwindows ▸ (by decide +kernel : fresh.2.engine.windows[(20 : WindowId)]? = none)

end Melibea
