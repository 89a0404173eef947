import Melibea.Niri

/-! The desktop that a history of niri events describes. -/

namespace Melibea

open Library

def Accepted (windows : List NiriWindow) : Prop := (windows.filter (·.isFocused)).length ≤ 1

instance (windows : List NiriWindow) : Decidable (Accepted windows) :=
  inferInstanceAs (Decidable (_ ≤ _))

structure Desktop where
  window : WindowId → Option NiriWindow
  focus : Option WindowId

namespace Desktop

def empty : Desktop where
  window _ := none
  focus := none

def observe (self : Desktop) : NiriEvent → Desktop
  | .windowsChanged windows =>
    if Accepted windows then
      { window := fun id => (windows.filter (·.id = id)).getLast?
        focus := (windows.find? (·.isFocused)).map (·.id) }
    else self
  | .windowOpenedOrChanged window =>
    { window := Function.update self.window window.id (some window)
      focus := if window.isFocused then some window.id else self.focus }
  | .windowClosed id =>
    { window := Function.update self.window id none
      focus := if self.focus = some id then none else self.focus }
  | .windowFocusChanged id => { self with focus := id }
  | .minimizedWindowsChanged _ | .ignored _ => self

def after (events : List NiriEvent) : Desktop := events.foldl observe empty

@[simp] lemma after_nil : after [] = empty := rfl

@[simp] lemma after_concat (events : List NiriEvent) (event : NiriEvent) :
    after (events ++ [event]) = (after events).observe event := by
  simp [after]

lemma window_id {events : List NiriEvent} {id : WindowId} {window : NiriWindow}
    (h : (after events).window id = some window) : window.id = id := by
  induction events using List.reverseRecOn with
  | nil => cases h
  | append_singleton events event ih =>
    rw [after_concat] at h
    cases event with
    | windowsChanged windows =>
      rw [observe] at h
      split_ifs at h
      · simpa using (List.mem_filter.mp (List.mem_of_getLast? h)).2
      · exact ih h
    | windowOpenedOrChanged opened =>
      simp only [observe, Function.update_apply] at h
      split_ifs at h with hid
      · obtain rfl := Option.some.inj h
        exact hid.symm
      · exact ih h
    | windowClosed closed =>
      simp only [observe, Function.update_apply] at h
      split_ifs at h
      exact ih h
    | _ => exact ih h

end Desktop

end Melibea
