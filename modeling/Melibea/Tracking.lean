import Melibea.Desktop
import Melibea.Library.Machine

/-! The adapter mirrors the desktop its events describe. -/

namespace Melibea

open Std Library OrderedMap

namespace AttentionEngine

lemma foldl_removeWindow (ids : List WindowId) (engine : AttentionEngine) :
    ids.foldl (fun engine id => (engine.removeWindow id).2) engine =
      { engine with
        windows := ids.foldl (fun windows id => windows.erase id) engine.windows
        focused := if ∃ id ∈ ids, engine.focused = some id then none else engine.focused } := by
  induction ids generalizing engine with
  | nil => simp
  | cons id ids ih =>
    rw [List.foldl_cons, List.foldl_cons, ih]
    simp only [removeWindow_config, removeWindow_windows, removeWindow_focused,
      removeWindow_generation, List.mem_cons, exists_eq_or_imp, mk.injEq, true_and, and_true]
    by_cases h : engine.focused = some id <;> simp [h]

lemma foldl_upsertWindow (windows : List NiriWindow) (engine : AttentionEngine) :
    windows.foldl (fun engine window => engine.upsertWindow window.intoRecord) engine =
      { engine with
        windows := windows.foldl (fun m window => m.insert window.id window.intoRecord)
          engine.windows } := by
  induction windows generalizing engine with
  | nil => rfl
  | cons window windows ih => exact ih _

def focusDecisions (self : AttentionEngine) (previous current : Option WindowId) :
    List FocusDecision :=
  (if previous = current then [] else (previous.map (self.decisionFor · .unfocused)).toList) ++
    (current.map (self.decisionFor · .focused)).toList

def snapshotDecisions (self : AttentionEngine) (current : Option WindowId) : List FocusDecision :=
  self.windows.keys.map fun id =>
    self.decisionFor id (if some id = current then .focused else .unfocused)

def observed (self : AttentionEngine) (current : Option WindowId) : AttentionEngine :=
  { self with focused := current, generation := Word64.saturatingAdd self.generation 1 }

lemma synchronizeFocus_eq (self : AttentionEngine) (current : Option WindowId) :
    self.synchronizeFocus current =
      ({ generation := Word64.saturatingAdd self.generation 1, previous := self.focused, current
         decisions := self.snapshotDecisions current }, self.observed current) := rfl

end AttentionEngine

namespace NiriAdapter

open AttentionEngine

lemma applyFocus_eq (self : NiriAdapter) (current : Option WindowId) :
    self.applyFocus current =
      ({ generation := Word64.saturatingAdd self.engine.generation 1
         previous := self.engine.focused, current
         decisions := self.engine.focusDecisions self.engine.focused current },
        { self with engine := self.engine.observed current }) := by
  rw [applyFocus, focusedWindow]
  split_ifs with h
  · subst h
    simp [reevaluateFocus, nextGeneration, focusDecisions, observed, decisionFor]
  · simp [observeFocus, nextGeneration, focusDecisions, observed, decisionFor, h]

lemma apply_rejected (self : NiriAdapter) {windows : List NiriWindow} (h : ¬ Accepted windows) :
    self.apply (.windowsChanged windows) =
      (.error (.multipleFocusedWindows ((windows.filter (·.isFocused)).map (·.windowId))),
        self) := by
  have hl : ((windows.filter (·.isFocused)).map (·.windowId)).length > 1 := by
    simpa [Accepted] using h
  simp only [apply, replaceWindows, if_pos hl]
  rfl

lemma apply_accepted (self : NiriAdapter) {windows : List NiriWindow} (h : Accepted windows) :
    self.apply (.windowsChanged windows) =
      (.ok (some ((self.replacedEngine windows).synchronizeFocus
          ((windows.find? (·.isFocused)).map (·.id))).1),
        { engine := (self.replacedEngine windows).observed
            ((windows.find? (·.isFocused)).map (·.id))
          knownWindows := nextWindows windows }) := by
  have hl : ¬ ((windows.filter (·.isFocused)).map (·.windowId)).length > 1 := by
    simpa [Accepted] using h
  simp only [apply, replaceWindows, if_neg hl, List.head?_map, List.head?_filter]
  rfl

def recorded (self : NiriAdapter) (window : NiriWindow) : NiriAdapter where
  engine := self.engine.upsertWindow window.intoRecord
  knownWindows := self.knownWindows.insert window.windowId (.ofWindow window)

def Relevant (self : NiriAdapter) (window : NiriWindow) : Prop :=
  window.isFocused ∧ self.knownWindows[window.windowId]? ≠ some (.ofWindow window)

lemma apply_opened_relevant (self : NiriAdapter) {window : NiriWindow}
    (h : self.Relevant window) :
    self.apply (.windowOpenedOrChanged window) =
      (.ok (some ((self.recorded window).applyFocus (some window.windowId)).1),
        ((self.recorded window).applyFocus (some window.windowId)).2) := by
  rw [Relevant] at h
  simp only [apply, if_pos h]
  rfl

lemma apply_opened_silent (self : NiriAdapter) {window : NiriWindow}
    (h : ¬ self.Relevant window) :
    self.apply (.windowOpenedOrChanged window) = (.ok none, self.recorded window) := by
  rw [Relevant] at h
  simp only [apply, if_neg h]
  rfl

end NiriAdapter

namespace NiriAdapter

lemma get_nextWindows (windows : List NiriWindow) (id : WindowId) :
    (nextWindows windows)[id]? =
      ((windows.filter (·.id = id)).getLast?).map WindowSignature.ofWindow := by
  rw [nextWindows, get_foldl_insert, ExtTreeMap.getElem?_empty, Option.or_none]
  rfl

@[simp] lemma replacedEngine_config (self : NiriAdapter) (windows : List NiriWindow) :
    (self.replacedEngine windows).config = self.engine.config := by
  simp [replacedEngine, AttentionEngine.foldl_removeWindow, AttentionEngine.foldl_upsertWindow]

@[simp] lemma replacedEngine_generation (self : NiriAdapter) (windows : List NiriWindow) :
    (self.replacedEngine windows).generation = self.engine.generation := by
  simp [replacedEngine, AttentionEngine.foldl_removeWindow, AttentionEngine.foldl_upsertWindow]

lemma get_replacedEngine_windows {self : NiriAdapter}
    (keys : ∀ id : WindowId, self.knownWindows[id]? = none → self.engine.windows[id]? = none)
    (windows : List NiriWindow) (id : WindowId) :
    (self.replacedEngine windows).windows[id]? =
      ((windows.filter (·.id = id)).getLast?).map NiriWindow.intoRecord := by
  simp only [replacedEngine, AttentionEngine.foldl_removeWindow,
    AttentionEngine.foldl_upsertWindow, get_foldl_insert, get_foldl_erase, List.mem_filter,
    ExtTreeMap.mem_keys, mem_iff_get_ne, get_nextWindows]
  cases hl : (windows.filter (·.id = id)).getLast? with
  | some window => simp
  | none =>
    by_cases hk : self.knownWindows[id]? = none
    · simp [hk, keys id hk]
    · simp [hk]

end NiriAdapter

namespace NiriAdapter

open AttentionEngine

/-- What an emitted transition says: the generation after the adapter's, and either one decision
for each window of a snapshot or the decisions of a focus report, all of them evaluated in the
engine the event leaves. -/
structure Emission (adapter : NiriAdapter) (event : NiriEvent) (t : FocusTransition) : Prop where
  generation : t.generation = Word64.saturatingAdd adapter.engine.generation 1
  advanced : (adapter.apply event).2.engine.generation = t.generation
  current : (adapter.apply event).2.engine.focused = t.current
  snapshot {windows} : event = .windowsChanged windows → Accepted windows ∧
    t.current = (windows.find? (·.isFocused)).map (·.id) ∧
    t.decisions = (adapter.apply event).2.engine.snapshotDecisions t.current
  report : (∀ windows, event ≠ .windowsChanged windows) → t.previous = adapter.engine.focused ∧
    t.decisions = (adapter.apply event).2.engine.focusDecisions t.previous t.current

lemma focusDecisions_congr {self other : AttentionEngine} (hc : self.config = other.config)
    (hw : self.windows = other.windows) (previous current : Option WindowId) :
    self.focusDecisions previous current = other.focusDecisions previous current := by
  simp only [focusDecisions, decisionFor_congr hc hw]

lemma snapshotDecisions_congr {self other : AttentionEngine} (hc : self.config = other.config)
    (hw : self.windows = other.windows) (current : Option WindowId) :
    self.snapshotDecisions current = other.snapshotDecisions current := by
  simp only [snapshotDecisions, decisionFor_congr hc hw, hw]

lemma apply_emission {self : NiriAdapter} {event : NiriEvent} {t : FocusTransition}
    (h : (self.apply event).1 = .ok (some t)) : self.Emission event t := by
  cases event with
  | windowsChanged windows =>
    by_cases ha : Accepted windows
    · have he := self.apply_accepted ha
      rw [he] at h
      obtain rfl := Option.some.inj (Except.ok.inj h)
      refine ⟨?_, ?_, ?_, ?_, fun hn => absurd rfl (hn windows)⟩
      · simp [synchronizeFocus_eq]
      · simp [he, synchronizeFocus_eq, observed]
      · simp [he, synchronizeFocus_eq, observed]
      · intro windows' hw
        obtain rfl := NiriEvent.windowsChanged.inj hw
        rw [he]
        exact ⟨ha, rfl, snapshotDecisions_congr rfl rfl _⟩
    · rw [apply_rejected _ ha] at h
      cases h
  | minimizedWindowsChanged windows => cases h
  | windowOpenedOrChanged window =>
    by_cases hr : self.Relevant window
    · have he := self.apply_opened_relevant hr
      rw [he, applyFocus_eq] at h
      obtain rfl := Option.some.inj (Except.ok.inj h)
      refine ⟨rfl, ?_, ?_, fun hw => (nomatch hw), fun _ => ⟨rfl, ?_⟩⟩ <;> rw [he, applyFocus_eq]
      · rfl
      · rfl
      · exact focusDecisions_congr rfl rfl _ _
    · rw [apply_opened_silent _ hr] at h
      cases h
  | windowClosed id => cases h
  | windowFocusChanged id =>
    have he : self.apply (.windowFocusChanged id) =
        (.ok (some (self.applyFocus id).1), (self.applyFocus id).2) := rfl
    rw [he, applyFocus_eq] at h
    obtain rfl := Option.some.inj (Except.ok.inj h)
    refine ⟨rfl, ?_, ?_, fun hw => (nomatch hw), fun _ => ⟨rfl, ?_⟩⟩ <;> rw [he, applyFocus_eq]
    · rfl
    · rfl
    · exact focusDecisions_congr rfl rfl _ _
  | ignored name => cases h

lemma Emission.decided {self : NiriAdapter} {event : NiriEvent} {t : FocusTransition}
    (h : self.Emission event t) {decision : FocusDecision} (hd : decision ∈ t.decisions) :
    decision =
      (self.apply event).2.engine.decisionFor decision.windowId decision.state := by
  by_cases hs : ∃ windows, event = .windowsChanged windows
  · obtain ⟨windows, hs⟩ := hs
    rw [(h.snapshot hs).2.2, snapshotDecisions] at hd
    obtain ⟨id, _, rfl⟩ := List.mem_map.mp hd
    rfl
  · rw [(h.report (not_exists.mp hs)).2, focusDecisions, List.mem_append] at hd
    rcases hd with hd | hd
    · split_ifs at hd
      · simp at hd
      · obtain ⟨id, _, rfl⟩ := Option.map_eq_some_iff.mp (Option.mem_toList.mp hd)
        rfl
    · obtain ⟨id, _, rfl⟩ := Option.map_eq_some_iff.mp (Option.mem_toList.mp hd)
      rfl

@[simp] lemma apply_config (self : NiriAdapter) (event : NiriEvent) :
    (self.apply event).2.engine.config = self.engine.config := by
  cases event with
  | windowsChanged windows =>
    by_cases ha : Accepted windows
    · rw [apply_accepted _ ha]
      exact self.replacedEngine_config windows
    · rw [apply_rejected _ ha]
  | minimizedWindowsChanged windows => rfl
  | windowOpenedOrChanged window =>
    by_cases hr : self.Relevant window
    · rw [apply_opened_relevant _ hr, applyFocus_eq]
      rfl
    · rw [apply_opened_silent _ hr]
      rfl
  | windowClosed id => rfl
  | windowFocusChanged id =>
    change (self.applyFocus id).2.engine.config = _
    rw [applyFocus_eq]
    rfl
  | ignored name => rfl

end NiriAdapter

structure Tracks (adapter : NiriAdapter) (desktop : Desktop) : Prop where
  engine : ∀ id : WindowId,
    adapter.engine.windows[id]? = (desktop.window id).map NiriWindow.intoRecord
  known : ∀ id : WindowId,
    adapter.knownWindows[id]? = (desktop.window id).map WindowSignature.ofWindow

namespace Tracks

open NiriAdapter AttentionEngine

variable {adapter : NiriAdapter} {desktop : Desktop}

lemma new (config : Config) : Tracks (.new config) .empty where
  engine id := by simp [NiriAdapter.new, AttentionEngine.new, Desktop.empty]
  known id := by simp [NiriAdapter.new, Desktop.empty]

lemma keys (h : Tracks adapter desktop) (id : WindowId) :
    adapter.knownWindows[id]? = none → adapter.engine.windows[id]? = none := by
  rw [h.engine, h.known]
  simp

lemma recorded (h : Tracks adapter desktop) (window : NiriWindow) :
    Tracks (adapter.recorded window) (desktop.observe (.windowOpenedOrChanged window)) where
  engine id := by
    simp only [NiriAdapter.recorded, upsertWindow_windows, NiriWindow.intoRecord_id, get_insert,
      Desktop.observe, Function.update_apply, eq_comm (a := window.id)]
    split_ifs
    · rfl
    · exact h.engine id
  known id := by
    simp only [NiriAdapter.recorded, NiriWindow.windowId, get_insert, Desktop.observe,
      Function.update_apply, eq_comm (a := window.id)]
    split_ifs
    · rfl
    · exact h.known id

lemma applyFocus (h : Tracks adapter desktop) (current : Option WindowId) :
    Tracks (adapter.applyFocus current).2 desktop := by
  rw [applyFocus_eq]
  exact ⟨h.engine, h.known⟩

lemma apply (h : Tracks adapter desktop) (event : NiriEvent) :
    Tracks (adapter.apply event).2 (desktop.observe event) := by
  cases event with
  | windowsChanged windows =>
    by_cases ha : Accepted windows
    · rw [apply_accepted _ ha, Desktop.observe, if_pos ha]
      exact ⟨get_replacedEngine_windows h.keys windows, get_nextWindows windows⟩
    · rw [apply_rejected _ ha, Desktop.observe, if_neg ha]
      exact h
  | minimizedWindowsChanged windows => exact h
  | windowOpenedOrChanged window =>
    by_cases hr : adapter.Relevant window
    · rw [apply_opened_relevant _ hr]
      exact (h.recorded window).applyFocus _
    · rw [apply_opened_silent _ hr]
      exact h.recorded window
  | windowClosed id =>
    constructor
    all_goals
      intro w
      simp only [NiriAdapter.apply, removeWindow_windows, get_erase, Desktop.observe,
        Function.update_apply, eq_comm (a := id)]
      split_ifs
      · rfl
    · exact h.engine w
    · exact h.known w
  | windowFocusChanged id =>
    have hf := h.applyFocus id
    exact ⟨hf.engine, hf.known⟩
  | ignored name => exact h

end Tracks

abbrev NiriAdapter.after (config : Config) (events : List NiriEvent) : NiriAdapter :=
  Machine.run NiriAdapter.apply (.new config) events

lemma NiriAdapter.after_concat (config : Config) (events : List NiriEvent) (event : NiriEvent) :
    after config (events ++ [event]) = ((after config events).apply event).2 := by
  simp

lemma NiriAdapter.after_config (config : Config) (events : List NiriEvent) :
    (after config events).engine.config = config :=
  Machine.run_invariant NiriAdapter.apply (P := fun self => self.engine.config = config)
    (fun self event h => by rw [apply_config, h]) rfl events

theorem tracks_after (config : Config) (events : List NiriEvent) :
    Tracks (.after config events) (.after events) := by
  induction events using List.reverseRecOn with
  | nil => exact .new config
  | append_singleton events event ih =>
    rw [NiriAdapter.after_concat, Desktop.after_concat]
    exact ih.apply event

end Melibea
