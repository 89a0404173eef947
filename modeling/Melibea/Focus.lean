import Melibea.Tracking

/-! The engine's focus against the focus niri reports. -/

namespace Melibea

open Library

/-- The report of a focused window repeats what niri last said about the window. -/
def Desktop.Repeats (self : Desktop) (window : NiriWindow) : Prop :=
  (self.window window.id).map WindowSignature.ofWindow = some (.ofWindow window)

instance (self : Desktop) (window : NiriWindow) : Decidable (self.Repeats window) :=
  inferInstanceAs (Decidable (_ = _))

namespace NiriAdapter

open AttentionEngine

lemma applyFocus_focused (self : NiriAdapter) (current : Option WindowId) :
    (self.applyFocus current).2.engine.focused = current := by
  rw [applyFocus_eq]
  rfl

lemma apply_opened_focused (self : NiriAdapter) (window : NiriWindow)
    [Decidable (self.Relevant window)] :
    (self.apply (.windowOpenedOrChanged window)).2.engine.focused =
      if self.Relevant window then some window.id else self.engine.focused := by
  split_ifs with h
  · rw [apply_opened_relevant _ h, applyFocus_focused]
    rfl
  · rw [apply_opened_silent _ h]
    rfl

end NiriAdapter

open NiriAdapter

lemma Tracks.relevant_iff {adapter : NiriAdapter} {desktop : Desktop}
    (h : Tracks adapter desktop) (window : NiriWindow) :
    adapter.Relevant window ↔ window.isFocused ∧ ¬ desktop.Repeats window := by
  rw [Relevant, Desktop.Repeats, NiriWindow.windowId, h.known]

lemma focus_step {adapter : NiriAdapter} {desktop : Desktop} (h : Tracks adapter desktop)
    (hf : adapter.engine.focused = desktop.focus) (event : NiriEvent) :
    (adapter.apply event).2.engine.focused = (desktop.observe event).focus ↔
      ∀ window, event = .windowOpenedOrChanged window → window.isFocused →
        desktop.Repeats window → desktop.focus = some window.id := by
  cases event with
  | windowsChanged windows =>
    by_cases ha : Accepted windows
    · simp [apply_accepted _ ha, Desktop.observe, ha, AttentionEngine.observed]
    · simp [apply_rejected _ ha, Desktop.observe, ha, hf]
  | minimizedWindowsChanged windows => simp [apply, Desktop.observe, hf]
  | windowOpenedOrChanged window =>
    classical
    rw [apply_opened_focused, Desktop.observe, hf]
    simp only [h.relevant_iff, NiriEvent.windowOpenedOrChanged.injEq, forall_eq']
    by_cases hw : window.isFocused <;> by_cases hr : desktop.Repeats window <;> simp [hw, hr]
  | windowClosed id => simp [apply, Desktop.observe, hf]
  | windowFocusChanged id =>
    simp only [reduceCtorEq, false_implies, implies_true, iff_true]
    exact applyFocus_focused adapter id
  | ignored name => simp [apply, Desktop.observe, hf]

/-- The tracked focus is niri's after every event of a history exactly when no report of a
focused window repeats the window's title, app id and floating flag while another window, or
none, has the focus. -/
theorem focus_refines_iff (config : Config) (events : List NiriEvent) :
    (∀ seen, seen <+: events →
      (NiriAdapter.after config seen).engine.focusedWindow = (Desktop.after seen).focus) ↔
    ∀ before window rest, events = before ++ .windowOpenedOrChanged window :: rest →
      window.isFocused → (Desktop.after before).Repeats window →
        (Desktop.after before).focus = some window.id := by
  have hstep : ∀ (seen : List NiriEvent) (event : NiriEvent),
      (NiriAdapter.after config seen).engine.focused = (Desktop.after seen).focus →
      ((NiriAdapter.after config (seen ++ [event])).engine.focused =
          (Desktop.after (seen ++ [event])).focus ↔
        ∀ window, event = .windowOpenedOrChanged window → window.isFocused →
          (Desktop.after seen).Repeats window → (Desktop.after seen).focus = some window.id) := by
    intro seen event hf
    rw [NiriAdapter.after_concat, Desktop.after_concat]
    exact focus_step (tracks_after config seen) hf event
  refine (Machine.forall_prefix_iff (P := fun seen =>
    (NiriAdapter.after config seen).engine.focused = (Desktop.after seen).focus)
    rfl hstep events).trans ⟨?_, ?_⟩
  · intro h before window rest he
    exact h before _ rest he window rfl
  · rintro h before _ rest he window rfl
    exact h before window rest he

-- Focus moves from the first window to the second, and a report of the first as focused, with
-- unchanged metadata, is swallowed.
theorem focus_report_swallowed :
    let kitty : NiriWindow := ⟨10, some "window", some "kitty", true, false⟩
    let code : NiriWindow := ⟨20, some "window", some "code", false, false⟩
    let events : List NiriEvent :=
      [.windowsChanged [kitty, code], .windowFocusChanged (some 20), .windowOpenedOrChanged kitty]
    (NiriAdapter.after .kittyAndCode events).engine.focusedWindow = some 20 ∧
      (Desktop.after events).focus = some 10 := by
  decide

end Melibea
