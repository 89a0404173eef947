import Melibea.Agreement

/-! The resize that the last decision for each window asks for. -/

namespace Melibea

open Std Library Machine OrderedMap

def NiriEvent.Clears (id : WindowId) : NiriEvent → Prop
  | .windowsChanged _ => True
  | .windowClosed closed => closed = id
  | _ => False

instance (id : WindowId) : (event : NiriEvent) → Decidable (event.Clears id)
  | .windowsChanged _ => isTrue trivial
  | .windowClosed closed => inferInstanceAs (Decidable (closed = id))
  | .minimizedWindowsChanged _ | .windowOpenedOrChanged _ | .windowFocusChanged _ | .ignored _ =>
    isFalse not_false

def FocusTransition.wish (t : FocusTransition) (id : WindowId) : Option (Option ResizeAction) :=
  (t.decision? id).map (·.action t.generation)

namespace NiriAdapter

open AttentionEngine

def want (self : NiriAdapter) (wanted : WindowId → Option ResizeAction) (event : NiriEvent)
    (id : WindowId) : Option ResizeAction :=
  match (self.apply event).1 with
  | .error _ => wanted id
  | .ok transition =>
    (transition.bind (·.wish id)).getD (if event.Clears id then none else wanted id)

def observeWanted (self : NiriAdapter × (WindowId → Option ResizeAction)) (event : NiriEvent) :
    NiriAdapter × (WindowId → Option ResizeAction) :=
  ((self.1.apply event).2, self.1.want self.2 event)

def wantedFrom (self : NiriAdapter × (WindowId → Option ResizeAction)) (events : List NiriEvent) :
    WindowId → Option ResizeAction :=
  (events.foldl observeWanted self).2

/-- The resize that the last decision for each window asks for, since the last snapshot and since
the window was last closed. -/
def wantedBy (config : Config) (events : List NiriEvent) : WindowId → Option ResizeAction :=
  wantedFrom (.new config, fun _ => none) events

lemma foldl_observeWanted (events : List NiriEvent)
    (self : NiriAdapter × (WindowId → Option ResizeAction)) :
    (events.foldl observeWanted self).1 = Machine.run NiriAdapter.apply self.1 events := by
  induction events generalizing self with
  | nil => rfl
  | cons event events ih => exact ih _

lemma wantedBy_append (config : Config) (events more : List NiriEvent) :
    wantedBy config (events ++ more) =
      wantedFrom (after config events, wantedBy config events) more := by
  have hfirst : (events.foldl observeWanted (.new config, fun _ => none)).1 = after config events :=
    foldl_observeWanted events _
  rw [wantedBy, wantedFrom, List.foldl_append, ← hfirst]
  rfl

lemma want_cases (self : NiriAdapter) (event : NiriEvent) (id : WindowId) :
    (∃ action, ∀ wanted, self.want wanted event id = action) ∨
      ∀ wanted, self.want wanted event id = wanted id := by
  simp only [want]
  cases (self.apply event).1 with
  | error error => exact .inr fun _ => rfl
  | ok transition =>
    dsimp only
    cases transition.bind (·.wish id) with
    | some action => exact .inl ⟨action, fun _ => rfl⟩
    | none =>
      by_cases hc : event.Clears id
      · exact .inl ⟨none, fun _ => by simp [hc]⟩
      · exact .inr fun _ => by simp [hc]

lemma want_focused {self : NiriAdapter} {event : NiriEvent} {t : FocusTransition}
    (he : (self.apply event).1 = .ok (some t)) {id : WindowId}
    (hf : (self.apply event).2.engine.focused = some id)
    (wanted : WindowId → Option ResizeAction) :
    self.want wanted event id =
      ((self.apply event).2.engine.decisionFor id .focused).action t.generation := by
  have hem := apply_emission he
  rw [want, he]
  dsimp only
  rw [Option.bind_some, FocusTransition.wish]
  cases hd : t.decision? id with
  | some decision =>
    have hm := FocusTransition.mem_of_decision hd
    have hid := FocusTransition.windowId_of_decision hd
    have hstate : decision.state = .focused := by
      rw [hem.state_iff hm, ← hem.current, hf, hid]
    rw [Option.map_some, Option.getD_some, hem.decided hm, hid, hstate]
  | none =>
    by_cases hs : ∃ windows, event = .windowsChanged windows
    · obtain ⟨windows, rfl⟩ := hs
      have hunknown : (self.apply (.windowsChanged windows)).2.engine.windows[id]? = none := by
        rw [FocusTransition.decision_eq_none, (hem.snapshot rfl).2.2, snapshotDecisions] at hd
        by_contra hw
        rw [← ne_eq, ← mem_iff_get_ne, ← ExtTreeMap.mem_keys] at hw
        exact hd _ (List.mem_map_of_mem hw) rfl
      simp [NiriEvent.Clears, FocusDecision.action, decisionFor, hunknown]
    · have hundecided := (hem.undecided (not_exists.mp hs) hd).2
      rw [← hem.current] at hundecided
      exact absurd hf hundecided

/-- No report of an unfocused window is about the window that has the engine's focus. -/
def FocusReported (config : Config) (events : List NiriEvent) : Prop :=
  ∀ before window rest, events = before ++ .windowOpenedOrChanged window :: rest →
    window.isFocused ∨ (after config before).engine.focusedWindow ≠ some window.id

lemma FocusReported.of_concat {config : Config} {events : List NiriEvent} {event : NiriEvent}
    (h : FocusReported config (events ++ [event])) : FocusReported config events := by
  rintro before window rest rfl
  exact h before window (rest ++ [event]) (List.append_assoc _ _ _)

lemma decisionFor_action_congr {self other : AttentionEngine} {id : WindowId}
    (hc : self.config = other.config) (hw : self.windows[id]? = other.windows[id]?)
    (state : FocusState) : self.decisionFor id state = other.decisionFor id state := by
  rw [decisionFor, decisionFor, hc, hw]

lemma wantedBy_focused {config : Config} {events : List NiriEvent}
    (h : FocusReported config events) {id : WindowId}
    (hf : (after config events).engine.focused = some id) : ∃ generation,
      wantedBy config events id =
        ((after config events).engine.decisionFor id .focused).action generation := by
  induction events using List.reverseRecOn with
  | nil => cases hf
  | append_singleton events event ih =>
    have hwanted : wantedBy config (events ++ [event]) id =
        (after config events).want (wantedBy config events) event id := by
      rw [wantedBy_append]
      rfl
    have hkept : ((after config events).apply event).1 = .ok none → ¬ event.Clears id →
        (after config events).engine.focused = some id →
        ((after config events).apply event).2.engine.windows[id]? =
          (after config events).engine.windows[id]? → ∃ generation,
        (after config events).want (wantedBy config events) event id =
          (((after config events).apply event).2.engine.decisionFor id .focused).action
            generation := by
      intro he hclears hfocused hwindow
      obtain ⟨generation, hg⟩ := ih h.of_concat hfocused
      refine ⟨generation, ?_⟩
      rw [decisionFor_action_congr (apply_config _ _) hwindow, ← hg, want, he]
      exact if_neg hclears
    rw [after_concat] at hf ⊢
    rw [hwanted]
    cases event with
    | windowsChanged windows =>
      by_cases ha : Accepted windows
      · exact ⟨_, want_focused (by rw [apply_accepted _ ha]) hf _⟩
      · rw [apply_rejected _ ha] at hf ⊢
        rw [want, apply_rejected _ ha]
        exact ih h.of_concat hf
    | windowOpenedOrChanged window =>
      by_cases hr : (after config events).Relevant window
      · exact ⟨_, want_focused (by rw [apply_opened_relevant _ hr]) hf _⟩
      · have hsilent := (after config events).apply_opened_silent hr
        rw [hsilent] at hf
        refine hkept (by rw [hsilent]) not_false hf ?_
        rw [hsilent]
        rcases h events window [] rfl with hfocused | hne
        · rw [Relevant, not_and, not_not] at hr
          exact recorded_known (hr hfocused) id
        · have hid : window.id ≠ id := fun hid => hne (by rw [hid]; exact hf)
          simp [recorded, get_insert, hid]
    | windowClosed closed =>
      have hne : closed ≠ id ∧ (after config events).engine.focused = some id := by
        simp only [apply, AttentionEngine.removeWindow_focused] at hf
        split_ifs at hf with hclosed
        exact ⟨fun hid => hclosed (hid ▸ hf), hf⟩
      exact hkept rfl hne.1 hne.2 (by simp [apply, get_erase, hne.1])
    | windowFocusChanged current => exact ⟨_, want_focused rfl hf _⟩
    | minimizedWindowsChanged windows | ignored name => exact hkept rfl not_false hf rfl

end NiriAdapter

lemma pending_follow_none (pending : PendingResizes) (event : NiriEvent) (id : WindowId) :
    (Controller.follow pending event none).pending[id]? =
      if event.Clears id then none else pending.pending[id]? := by
  cases event with
  | windowClosed closed => exact get_erase pending.pending closed id
  | windowsChanged windows => simp [Controller.follow, PendingResizes.reset, NiriEvent.Clears]
  | _ => rfl

lemma pending_follow {adapter : NiriAdapter} {pending : PendingResizes}
    (ht : Targets adapter pending) {event : NiriEvent} {transition : Option FocusTransition}
    (he : (adapter.apply event).1 = .ok transition) (id : WindowId) :
    (Controller.follow pending event transition).pending[id]? =
      adapter.want (fun id => pending.pending[id]?) event id := by
  rw [NiriAdapter.want, he]
  dsimp only
  cases transition with
  | none => exact pending_follow_none pending event id
  | some t =>
    have hem := NiriAdapter.apply_emission he
    have hbounded : pending.BoundedBy t.generation := fun id latest hl =>
      (ht.latest id hl).trans hem.le
    have hslot := PendingResizes.slot_ingest_fresh id hem.nodup
      (hbounded.cleared event id)
    rw [Controller.follow_ingest, Option.bind_some, FocusTransition.wish]
    have hvalue := congrArg Register.value hslot
    cases hd : t.decision? id with
    | none =>
      rw [hd] at hvalue
      exact hvalue.trans (pending_follow_none pending event id)
    | some decision =>
      rw [hd] at hvalue
      exact hvalue

end Melibea
