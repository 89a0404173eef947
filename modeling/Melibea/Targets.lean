import Melibea.Controller
import Melibea.Tracking
import Melibea.Library.KeyedList

/-! Pending resizes target open windows in their tracked focus state. -/

namespace Melibea

open Std Library OrderedMap

namespace FocusTransition

def decision? (self : FocusTransition) (id : WindowId) : Option FocusDecision :=
  self.decisions.find? (·.windowId = id)

variable {t : FocusTransition} {id : WindowId} {decision : FocusDecision}

lemma mem_of_decision (h : t.decision? id = some decision) : decision ∈ t.decisions :=
  List.mem_of_find?_eq_some h

lemma windowId_of_decision (h : t.decision? id = some decision) : decision.windowId = id := by
  simpa using List.find?_some h

lemma decision_eq_none : t.decision? id = none ↔ ∀ d ∈ t.decisions, d.windowId ≠ id := by
  simp [decision?]

end FocusTransition

namespace PendingResizes

lemma slot_ingest_fresh {self : PendingResizes} {t : FocusTransition} (id : WindowId)
    (hn : (t.decisions.map (·.windowId)).Nodup)
    (hl : ∀ latest, self.latestGeneration[id]? = some latest → latest ≤ t.generation) :
    (self.ingest t).slot id = (t.decision? id).elim (self.slot id)
      fun decision => ⟨some t.generation, decision.action t.generation⟩ := by
  rw [slot_ingest, FocusTransition.decision?, ← List.head?_filter]
  rcases KeyedList.filter_eq_nil_or_singleton hn id with hf | ⟨decision, hf⟩
  · rw [hf]
    rfl
  · rw [hf, List.foldl_cons, List.foldl_nil, List.head?_cons, Option.elim_some, Register.write,
      if_neg]
    rintro ⟨latest, hm, hlt⟩
    exact (hl latest hm).not_gt hlt

lemma pending_ingest_fresh {self : PendingResizes} {t : FocusTransition} (id : WindowId)
    (hn : (t.decisions.map (·.windowId)).Nodup)
    (hl : ∀ latest, self.latestGeneration[id]? = some latest → latest ≤ t.generation)
    {action : ResizeAction} (ha : (self.ingest t).pending[id]? = some action) :
    (∃ decision, t.decision? id = some decision ∧
      decision.action t.generation = some action) ∨
    (t.decision? id = none ∧ self.pending[id]? = some action) := by
  have hv := congrArg Register.value (slot_ingest_fresh id hn hl)
  cases hd : t.decision? id with
  | none => exact .inr ⟨rfl, by simpa [hd, slot, ha] using hv.symm⟩
  | some decision => exact .inl ⟨decision, rfl, by simpa [hd, slot, ha] using hv.symm⟩

end PendingResizes

namespace NiriAdapter.Emission

variable {adapter : NiriAdapter} {event : NiriEvent} {t : FocusTransition}

open AttentionEngine

lemma le (h : adapter.Emission event t) : adapter.engine.generation ≤ t.generation := by
  rw [h.generation]
  exact Word64.le_saturatingAdd _ _

lemma nodup (h : adapter.Emission event t) : (t.decisions.map (·.windowId)).Nodup := by
  by_cases hs : ∃ windows, event = .windowsChanged windows
  · obtain ⟨windows, hs⟩ := hs
    rw [(h.snapshot hs).2.2, snapshotDecisions, List.map_map]
    exact (List.map_id _).symm ▸ ExtTreeMap.nodup_keys
  · rw [(h.report (not_exists.mp hs)).2, focusDecisions]
    cases t.previous <;> cases t.current <;> simp
    split_ifs with he
    · simp
    · simpa using he

lemma state_iff (h : adapter.Emission event t) {decision : FocusDecision}
    (hd : decision ∈ t.decisions) :
    decision.state = .focused ↔ t.current = some decision.windowId := by
  by_cases hs : ∃ windows, event = .windowsChanged windows
  · obtain ⟨windows, hs⟩ := hs
    rw [(h.snapshot hs).2.2, snapshotDecisions] at hd
    obtain ⟨id, _, rfl⟩ := List.mem_map.mp hd
    rw [decisionFor_state, decisionFor_windowId, eq_comm (a := t.current)]
    split_ifs with he <;> simp [he]
  · rw [(h.report (not_exists.mp hs)).2, focusDecisions, List.mem_append] at hd
    rcases hd with hd | hd
    · split_ifs at hd with he
      · simp at hd
      · obtain ⟨id, hp, rfl⟩ := Option.map_eq_some_iff.mp (Option.mem_toList.mp hd)
        rw [hp] at he
        simpa [eq_comm] using he
    · obtain ⟨id, hc, rfl⟩ := Option.map_eq_some_iff.mp (Option.mem_toList.mp hd)
      simp [hc]

lemma undecided (h : adapter.Emission event t) (hr : ∀ windows, event ≠ .windowsChanged windows)
    {id : WindowId} (hn : t.decision? id = none) :
    adapter.engine.focused ≠ some id ∧ t.current ≠ some id := by
  rw [FocusTransition.decision_eq_none, (h.report hr).2] at hn
  set engine := (adapter.apply event).2.engine
  rw [← (h.report hr).1]
  have hc : t.current ≠ some id := fun hc =>
    hn (engine.decisionFor id .focused) (by simp [focusDecisions, hc]) rfl
  refine ⟨fun hp => ?_, hc⟩
  exact hn (engine.decisionFor id .unfocused) (by simp [focusDecisions, hp, hc.symm]) rfl

end NiriAdapter.Emission

namespace NiriAdapter

open AttentionEngine

lemma apply_recorded {adapter : NiriAdapter} {event : NiriEvent} {id : WindowId}
    (hr : ∀ windows, event ≠ .windowsChanged windows) (hc : event ≠ .windowClosed id)
    (h : adapter.engine.windows[id]? ≠ none) :
    (adapter.apply event).2.engine.windows[id]? ≠ none := by
  have hinsert : ∀ window, (adapter.recorded window).engine.windows[id]? ≠ none := by
    intro window
    rw [recorded, upsertWindow_windows, get_insert]
    split_ifs
    · simp
    · exact h
  cases event with
  | windowsChanged windows => exact absurd rfl (hr windows)
  | minimizedWindowsChanged windows => exact h
  | windowOpenedOrChanged window =>
    by_cases hw : adapter.Relevant window
    · rw [apply_opened_relevant _ hw, applyFocus_eq]
      exact hinsert window
    · rw [apply_opened_silent _ hw]
      exact hinsert window
  | windowClosed other =>
    have hne : other ≠ id := fun he => hc (he ▸ rfl)
    simpa [apply, get_erase, hne] using h
  | windowFocusChanged current =>
    change (adapter.applyFocus current).2.engine.windows[id]? ≠ none
    rw [applyFocus_eq]
    exact h
  | ignored name => exact h

end NiriAdapter

inductive Ingested (adapter : NiriAdapter) (pending : PendingResizes) :
    NiriEvent → NiriAdapter → PendingResizes → Prop
  | snapshot {windows : List NiriWindow} {t : FocusTransition} :
    (adapter.apply (.windowsChanged windows)).1 = .ok (some t) →
      Ingested adapter pending (.windowsChanged windows)
        (adapter.apply (.windowsChanged windows)).2 (pending.reset.ingest t)
  | report {event : NiriEvent} {t : FocusTransition} :
    (∀ windows, event ≠ .windowsChanged windows) → (∀ id, event ≠ .windowClosed id) →
      (adapter.apply event).1 = .ok (some t) →
        Ingested adapter pending event (adapter.apply event).2 (pending.ingest t)
  | recorded {window : NiriWindow} : ¬ adapter.Relevant window →
    Ingested adapter pending (.windowOpenedOrChanged window) (adapter.recorded window) pending
  | closed (id : WindowId) :
    Ingested adapter pending (.windowClosed id) (adapter.apply (.windowClosed id)).2
      (pending.forgetWindow id)
  | unchanged {event : NiriEvent} : Ingested adapter pending event adapter pending

namespace Controller

lemma follow_ingested {adapter : NiriAdapter} (pending : PendingResizes) {event : NiriEvent}
    {transition : Option FocusTransition} (he : (adapter.apply event).1 = .ok transition) :
    Ingested adapter pending event (adapter.apply event).2 (follow pending event transition) := by
  cases event with
  | windowsChanged windows =>
    by_cases ha : Accepted windows
    · have hok := adapter.apply_accepted ha
      rw [hok] at he
      obtain rfl := Except.ok.inj he
      exact .snapshot (by rw [hok])
    · rw [NiriAdapter.apply_rejected _ ha] at he
      cases he
  | windowOpenedOrChanged window =>
    by_cases hw : adapter.Relevant window
    · have hok := adapter.apply_opened_relevant hw
      rw [hok] at he
      obtain rfl := Except.ok.inj he
      exact .report (by simp) (by simp) (by rw [hok])
    · have hok := adapter.apply_opened_silent hw
      rw [hok] at he ⊢
      obtain rfl := Except.ok.inj he
      exact .recorded hw
  | windowClosed id =>
    obtain rfl := Except.ok.inj he
    exact .closed id
  | windowFocusChanged current =>
    obtain rfl := Except.ok.inj he
    exact .report (by simp) (by simp) rfl
  | minimizedWindowsChanged windows =>
    obtain rfl := Except.ok.inj he
    exact .unchanged
  | ignored name =>
    obtain rfl := Except.ok.inj he
    exact .unchanged

lemma apply_error {adapter : NiriAdapter} {event : NiriEvent} {error : NiriAdapterError}
    (h : (adapter.apply event).1 = .error error) : (adapter.apply event).2 = adapter := by
  cases event with
  | windowsChanged windows =>
    by_cases ha : Accepted windows
    · rw [NiriAdapter.apply_accepted _ ha] at h
      cases h
    · rw [NiriAdapter.apply_rejected _ ha]
  | windowOpenedOrChanged window =>
    by_cases hr : adapter.Relevant window
    · rw [NiriAdapter.apply_opened_relevant _ hr] at h
      cases h
    · rw [NiriAdapter.apply_opened_silent _ hr] at h
      cases h
  | _ => cases h

lemma ingestMinimized_view (self : Controller) (io : Io) (event : NiriEvent) :
    (self.ingestMinimized io event).2.adapter = self.adapter ∧
      (self.ingestMinimized io event).2.pending = self.pending := by
  cases event with
  | minimizedWindowsChanged windows =>
    rw [ingestMinimized]
    split <;> exact ⟨rfl, rfl⟩
  | _ => exact ⟨rfl, rfl⟩

lemma ingestEvent_cases (self : Controller) (event : NiriEvent) :
    ((self.ingestEvent event).2.adapter = self.adapter ∧
      (self.ingestEvent event).2.pending = self.pending) ∨
    ∃ transition, (self.adapter.apply event).1 = .ok transition ∧
      (self.ingestEvent event).2.adapter = (self.adapter.apply event).2 ∧
      (self.ingestEvent event).2.pending = follow self.pending event transition := by
  rw [ingestEvent]
  match he : self.adapter.apply event with
  | (.error error, adapter) =>
    have hsame := apply_error (congrArg Prod.fst he)
    rw [he] at hsame
    exact .inl ⟨hsame, rfl⟩
  | (.ok transition, adapter) => exact .inr ⟨transition, rfl, rfl, rfl⟩

lemma ingestStreamMessage_cases (self : Controller) (io : Io) (message : StreamMessage) :
    let next := (self.ingestStreamMessage io message).2
    (next.adapter = self.adapter ∧ next.pending = self.pending) ∨
      ∃ event transition, message = .ok (some event) ∧
        (self.adapter.apply event).1 = .ok transition ∧
        next.adapter = (self.adapter.apply event).2 ∧
        next.pending = follow self.pending event transition := by
  match message with
  | .error error => exact .inl ⟨rfl, rfl⟩
  | .ok none => exact .inl ⟨rfl, rfl⟩
  | .ok (some event) =>
    have hview := self.ingestMinimized_view io event
    rw [ingestStreamMessage]
    match hm : self.ingestMinimized io event with
    | ((writes, .error error), next) =>
      rw [hm] at hview
      exact .inl hview
    | ((writes, .ok ()), next) =>
      rw [hm] at hview
      obtain ⟨ha, hp⟩ : next.adapter = self.adapter ∧ next.pending = self.pending := hview
      have hcases := next.ingestEvent_cases event
      rw [ha, hp] at hcases
      exact hcases.imp_right fun ⟨transition, h⟩ => ⟨event, transition, rfl, h⟩

end Controller

/-- Every pending action is for a window of the engine, in the focus state the engine tracks, and
nothing remembered is newer than the engine's last transition. -/
structure Targets (adapter : NiriAdapter) (pending : PendingResizes) : Prop where
  keyed : pending.Keyed
  recorded (id : WindowId) {action : ResizeAction} : pending.pending[id]? = some action →
    adapter.engine.windows[id]? ≠ none
  state (id : WindowId) {action : ResizeAction} : pending.pending[id]? = some action →
    (action.state = .focused ↔ adapter.engine.focused = some id)
  latest (id : WindowId) {generation : UInt64} : pending.latestGeneration[id]? = some generation →
    generation ≤ adapter.engine.generation

lemma decisionFor_action {engine : AttentionEngine} {id : WindowId} {state : FocusState}
    {generation : UInt64} {action : ResizeAction}
    (h : (engine.decisionFor id state).action generation = some action) :
    engine.windows[id]? ≠ none ∧ action.windowId = id ∧ action.state = state ∧
      action.generation = generation := by
  cases hw : engine.windows[id]? with
  | none => simp [FocusDecision.action, AttentionEngine.decisionFor, hw] at h
  | some record =>
    rw [FocusDecision.action] at h
    split at h
    · obtain rfl := Option.some.inj h
      exact ⟨by simp, rfl, rfl, rfl⟩
    · cases h

namespace Targets

variable {adapter : NiriAdapter} {pending : PendingResizes}

lemma new (config : Config) : Targets (.new config) .default where
  keyed id action h := by simp [PendingResizes.default] at h
  recorded id action h := by simp [PendingResizes.default] at h
  state id action h := by simp [PendingResizes.default] at h
  latest id generation h := by simp [PendingResizes.default] at h

lemma ingest {event : NiriEvent} {t : FocusTransition} (he : adapter.Emission event t)
    (keyed : pending.Keyed)
    (latest : ∀ (id : WindowId) (generation : UInt64),
      pending.latestGeneration[id]? = some generation → generation ≤ adapter.engine.generation)
    (undecided : ∀ (id : WindowId) (action : ResizeAction), t.decision? id = none →
      pending.pending[id]? = some action → (adapter.apply event).2.engine.windows[id]? ≠ none ∧
        (action.state = .focused ↔ t.current = some id)) :
    Targets (adapter.apply event).2 (pending.ingest t) := by
  have hle := he.le
  have hslot := fun id : WindowId => PendingResizes.slot_ingest_fresh id he.nodup
    fun g hg => (latest id g hg).trans hle
  have hdecided := fun (id : WindowId) (action : ResizeAction) =>
    (PendingResizes.pending_ingest_fresh id he.nodup fun g hg => (latest id g hg).trans hle :
      (pending.ingest t).pending[id]? = some action → _)
  have haction : ∀ (id : WindowId) (action : ResizeAction) (decision : FocusDecision),
      t.decision? id = some decision → decision.action t.generation = some action →
        (adapter.apply event).2.engine.windows[id]? ≠ none ∧ action.windowId = id ∧
          action.state = decision.state := by
    intro id action decision hd ha
    have hid := FocusTransition.windowId_of_decision hd
    have hm := FocusTransition.mem_of_decision hd
    rw [he.decided hm, hid] at ha
    obtain ⟨hw, hi, hs, _⟩ := decisionFor_action ha
    exact ⟨hw, hi, hs⟩
  refine ⟨fun id action ha => ?_, fun id action ha => ?_, fun id action ha => ?_,
    fun id generation hg => ?_⟩
  · rcases hdecided id action ha with ⟨decision, hd, hact⟩ | ⟨_, hold⟩
    · exact (haction id action decision hd hact).2.1
    · exact keyed id action hold
  · rcases hdecided id action ha with ⟨decision, hd, hact⟩ | ⟨hn, hold⟩
    · exact (haction id action decision hd hact).1
    · exact (undecided id action hn hold).1
  · rw [he.current]
    rcases hdecided id action ha with ⟨decision, hd, hact⟩ | ⟨hn, hold⟩
    · rw [(haction id action decision hd hact).2.2, he.state_iff (FocusTransition.mem_of_decision hd),
        FocusTransition.windowId_of_decision hd]
    · exact (undecided id action hn hold).2
  · rw [he.advanced]
    have hs := congrArg Register.stamp (hslot id)
    cases hd : t.decision? id with
    | none =>
      have hold : pending.latestGeneration[id]? = some generation := by
        simpa [hd, PendingResizes.slot, hg] using hs.symm
      exact (latest id generation hold).trans hle
    | some decision =>
      have heq : t.generation = generation := by
        simpa [hd, PendingResizes.slot, hg] using hs.symm
      exact heq.ge

lemma close (h : Targets adapter pending) (closed : WindowId) :
    Targets (adapter.apply (.windowClosed closed)).2 (pending.forgetWindow closed) := by
  refine ⟨fun id action ha => h.keyed id action (PendingResizes.pending_forgetWindow ha).2, fun id action ha => ?_,
    fun id action ha => ?_, fun id generation hg => ?_⟩
  · obtain ⟨hne, hold⟩ := PendingResizes.pending_forgetWindow ha
    refine NiriAdapter.apply_recorded (by simp) ?_ (h.recorded id hold)
    simpa using hne
  · obtain ⟨hne, hold⟩ := PendingResizes.pending_forgetWindow ha
    rw [h.state id hold]
    simp only [NiriAdapter.apply, AttentionEngine.removeWindow_focused]
    split_ifs with hf <;> simp [hf, hne]
  · rw [PendingResizes.forgetWindow, get_erase] at hg
    split_ifs at hg
    exact h.latest id hg

lemma reset (_ : Targets adapter pending) : Targets adapter pending.reset where
  keyed id action ha := by simp [PendingResizes.reset] at ha
  recorded id action ha := by simp [PendingResizes.reset] at ha
  state id action ha := by simp [PendingResizes.reset] at ha
  latest id generation hg := by simp [PendingResizes.reset] at hg

lemma ingested (h : Targets adapter pending) {event : NiriEvent} {adapter' : NiriAdapter}
    {pending' : PendingResizes} (hi : Ingested adapter pending event adapter' pending') :
    Targets adapter' pending' := by
  cases hi with
  | snapshot he =>
    refine ingest (NiriAdapter.apply_emission he) h.reset.keyed (fun id generation hg => h.reset.latest id hg) ?_
    intro id action _ ha
    simp [PendingResizes.reset] at ha
  | report hr hc he =>
    have hem := NiriAdapter.apply_emission he
    refine ingest hem h.keyed (fun id generation hg => h.latest id hg) fun id action hn ha => ?_
    obtain ⟨hprevious, hcurrent⟩ := hem.undecided hr hn
    refine ⟨NiriAdapter.apply_recorded hr (hc id) (h.recorded id ha), ?_⟩
    rw [h.state id ha]
    simp [hprevious, hcurrent]
  | @recorded window hw =>
    refine ⟨h.keyed, fun id action ha => ?_, h.state, h.latest⟩
    have hrec : (adapter.apply (.windowOpenedOrChanged window)).2.engine.windows[id]? ≠ none :=
      NiriAdapter.apply_recorded (by simp) (by simp) (h.recorded id ha)
    rwa [NiriAdapter.apply_opened_silent _ hw] at hrec
  | closed closed => exact h.close closed
  | unchanged => exact h

lemma popNext (h : Targets adapter pending) : Targets adapter pending.popNext.2 where
  keyed := h.keyed.popNext
  recorded id _ ha := h.recorded id (PendingResizes.pending_popNext h.keyed ha)
  state id _ ha := h.state id (PendingResizes.pending_popNext h.keyed ha)
  latest id _ hg := h.latest id (by rwa [← PendingResizes.latestGeneration_popNext])

end Targets

structure Since (bound : UInt64) (adapter : NiriAdapter) (pending : PendingResizes) : Prop where
  engine : bound ≤ adapter.engine.generation
  pending (id : WindowId) {action : ResizeAction} : pending.pending[id]? = some action →
    bound ≤ action.generation

namespace Since

variable {bound : UInt64} {adapter : NiriAdapter} {pending : PendingResizes}

lemma ingest {event : NiriEvent} {t : FocusTransition} (ht : Targets adapter pending)
    (he : adapter.Emission event t) (hb : bound ≤ t.generation)
    (hp : ∀ (id : WindowId) (action : ResizeAction), pending.pending[id]? = some action →
      bound ≤ action.generation) :
    Since bound (adapter.apply event).2 (pending.ingest t) := by
  refine ⟨he.advanced ▸ hb, fun id action ha => ?_⟩
  rcases PendingResizes.pending_ingest_fresh id he.nodup
    (fun g hg => (ht.latest id hg).trans he.le) ha with ⟨decision, hd, hact⟩ | ⟨_, hold⟩
  · rw [he.decided (FocusTransition.mem_of_decision hd)] at hact
    rw [(decisionFor_action hact).2.2.2]
    exact hb
  · exact hp id action hold

lemma snapshot (ht : Targets adapter pending) {windows : List NiriWindow} {t : FocusTransition}
    (he : adapter.Emission (.windowsChanged windows) t) :
    Since t.generation (adapter.apply (.windowsChanged windows)).2 (pending.reset.ingest t) := by
  refine ingest ht.reset he le_rfl fun id action ha => ?_
  simp [PendingResizes.reset] at ha

lemma ingested (h : Since bound adapter pending) (ht : Targets adapter pending)
    {event : NiriEvent} {adapter' : NiriAdapter} {pending' : PendingResizes}
    (hi : Ingested adapter pending event adapter' pending') : Since bound adapter' pending' := by
  cases hi with
  | snapshot he =>
    have hem := NiriAdapter.apply_emission he
    refine ingest ht.reset hem (h.engine.trans hem.le) fun id action ha => ?_
    simp [PendingResizes.reset] at ha
  | report _ _ he =>
    have hem := NiriAdapter.apply_emission he
    exact ingest ht hem (h.engine.trans hem.le) fun id action ha => h.pending id ha
  | recorded _ => exact ⟨h.engine, h.pending⟩
  | closed closed =>
    exact ⟨h.engine, fun id action ha => h.pending id (PendingResizes.pending_forgetWindow ha).2⟩
  | unchanged => exact h

lemma popNext (h : Since bound adapter pending) (ht : Targets adapter pending) :
    Since bound adapter pending.popNext.2 :=
  ⟨h.engine, fun id _ ha => h.pending id (PendingResizes.pending_popNext ht.keyed ha)⟩

end Since

def NiriEvent.Reports (id : WindowId) : NiriEvent → Prop
  | .windowsChanged windows => ∃ window ∈ windows, window.id = id
  | .windowOpenedOrChanged window => window.id = id
  | _ => False

lemma NiriAdapter.apply_absent {adapter : NiriAdapter} {event : NiriEvent} {id : WindowId}
    (h : adapter.engine.windows[id]? = none) (hr : ¬ event.Reports id) :
    (adapter.apply event).2.engine.windows[id]? = none := by
  cases event with
  | windowsChanged windows =>
    by_cases ha : Accepted windows
    · rw [apply_accepted _ ha]
      have hf : windows.filter (·.id = id) = [] := by
        rw [List.filter_eq_nil_iff]
        intro window hw
        simpa using fun he : window.id = id => hr ⟨window, hw, he⟩
      simp [AttentionEngine.observed, replacedEngine, AttentionEngine.foldl_removeWindow,
        AttentionEngine.foldl_upsertWindow, get_foldl_insert, get_foldl_erase, hf, h]
    · rwa [apply_rejected _ ha]
  | windowOpenedOrChanged window =>
    have hne : window.id ≠ id := hr
    by_cases hw : adapter.Relevant window
    · rw [apply_opened_relevant _ hw, applyFocus_eq]
      simpa [recorded, AttentionEngine.observed, get_insert, hne] using h
    · rw [apply_opened_silent _ hw]
      simpa [recorded, get_insert, hne] using h
  | windowClosed closed =>
    simp [apply, get_erase, h]
  | windowFocusChanged current =>
    change (adapter.applyFocus current).2.engine.windows[id]? = none
    rw [applyFocus_eq]
    exact h
  | _ => exact h

namespace Controller

variable {self : Controller}

lemma step_message (self : Controller) (io : Io) (message : StreamMessage) :
    (self.step (.message io message)).2 = (self.ingestStreamMessage io message).2 := rfl

lemma step_targets (h : Targets self.adapter self.pending) (input : Input) :
    Targets (self.step input).2.adapter (self.step input).2.pending := by
  cases input with
  | message io message =>
    rw [step_message]
    rcases self.ingestStreamMessage_cases io message with
      ⟨ha, hp⟩ | ⟨event, transition, _, he, ha, hp⟩
    · rwa [ha, hp]
    · rw [ha, hp]
      exact h.ingested (follow_ingested self.pending he)
  | popNext => exact h.popNext

lemma step_since {bound : UInt64} (ht : Targets self.adapter self.pending)
    (h : Since bound self.adapter self.pending) (input : Input) :
    Since bound (self.step input).2.adapter (self.step input).2.pending := by
  cases input with
  | message io message =>
    rw [step_message]
    rcases self.ingestStreamMessage_cases io message with
      ⟨ha, hp⟩ | ⟨event, transition, _, he, ha, hp⟩
    · rwa [ha, hp]
    · rw [ha, hp]
      exact h.ingested ht (follow_ingested self.pending he)
  | popNext => exact h.popNext ht

lemma after_targets (config : Config) (service : Service) (inputs : List Input) :
    Targets (after config service inputs).adapter (after config service inputs).pending :=
  Machine.run_invariant step (P := fun self => Targets self.adapter self.pending)
    (fun _ input h => step_targets h input) (.new config) inputs

lemma since_snapshot (config : Config) (service : Service) (before rest : List Input) (io : Io)
    {windows : List NiriWindow} {t : FocusTransition}
    (h : ((after config service before).adapter.apply (.windowsChanged windows)).1 =
      .ok (some t)) :
    Since t.generation
      (after config service (before ++ .message io (.ok (some (.windowsChanged windows))) ::
        rest)).adapter
      (after config service (before ++ .message io (.ok (some (.windowsChanged windows))) ::
        rest)).pending := by
  have ht := after_targets config service before
  rw [after, Machine.run_append, Machine.run_cons]
  set self := after config service before
  have hstep : (self.step (.message io (.ok (some (.windowsChanged windows))))).2 =
      (self.ingestEvent (.windowsChanged windows)).2 := rfl
  have hfirst := step_targets ht (.message io (.ok (some (.windowsChanged windows))))
  have hsince : Since t.generation (self.ingestEvent (.windowsChanged windows)).2.adapter
      (self.ingestEvent (.windowsChanged windows)).2.pending := by
    have he : self.ingestEvent (.windowsChanged windows) = (.ok (), { self with
        adapter := (self.adapter.apply (.windowsChanged windows)).2
        pending := self.pending.reset.ingest t }) := by
      rw [ingestEvent]
      match hm : self.adapter.apply (.windowsChanged windows) with
      | (result, adapter) =>
        rw [hm] at h
        obtain rfl : result = .ok (some t) := h
        rfl
    rw [he]
    exact .snapshot ht (NiriAdapter.apply_emission h)
  rw [hstep] at hfirst
  rw [hstep]
  exact (Machine.run_invariant step
    (P := fun self => Targets self.adapter self.pending ∧
      Since t.generation self.adapter self.pending)
    (fun self input hp => ⟨step_targets hp.1 input, step_since hp.1 hp.2 input⟩)
    ⟨hfirst, hsince⟩ rest).2

lemma step_absent {id : WindowId} (h : self.adapter.engine.windows[id]? = none) {input : Input}
    (hr : ∀ io event, input = .message io (.ok (some event)) → ¬ event.Reports id) :
    (self.step input).2.adapter.engine.windows[id]? = none := by
  cases input with
  | message io message =>
    rw [step_message]
    rcases self.ingestStreamMessage_cases io message with
      ⟨ha, _⟩ | ⟨event, transition, rfl, _, ha, _⟩
    · rwa [ha]
    · rw [ha]
      exact NiriAdapter.apply_absent h (hr io event rfl)
  | popNext => exact h

lemma absent_after_close (config : Config) (service : Service) (before rest : List Input) (io : Io)
    (closed : WindowId)
    (hr : ∀ io event, Input.message io (.ok (some event)) ∈ rest → ¬ event.Reports closed) :
    (after config service (before ++ .message io (.ok (some (.windowClosed closed))) ::
      rest)).adapter.engine.windows[closed]? = none := by
  rw [after, Machine.run_append, Machine.run_cons]
  set self := after config service before
  have hfirst : (self.step (.message io (.ok (some (.windowClosed closed))))).2.adapter.engine.windows[
      closed]? = none := by
    change (self.adapter.engine.windows.erase closed)[closed]? = none
    simp
  generalize (self.step (.message io (.ok (some (.windowClosed closed))))).2 = next at hfirst ⊢
  induction rest generalizing next with
  | nil => exact hfirst
  | cons input rest ih =>
    refine ih (fun io event hm => hr io event (List.mem_cons_of_mem _ hm)) _ ?_
    exact step_absent hfirst fun io event he => hr io event (he ▸ List.mem_cons_self)

end Controller

open Controller

/-- In every reachable state of a connection the pending actions target open windows in their
tracked focus state, at most one of them the focused one, none older than the last snapshot; and
nothing is sent for a closed window that was not reported again. -/
theorem pending_on_target (config : Config) (service : Service) (inputs : List Input) :
    let controller := after config service inputs
    (∀ (id : WindowId) (action : ResizeAction), controller.pending.pending[id]? = some action →
      action.windowId = id ∧ (controller.adapter.engine.windows[id]?).isSome ∧
        (action.state = .focused ↔ controller.adapter.engine.focusedWindow = some id)) ∧
    (∀ (id other : WindowId) (action action' : ResizeAction),
      controller.pending.pending[id]? = some action →
        controller.pending.pending[other]? = some action' →
          action.state = .focused → action'.state = .focused → id = other) ∧
    (∀ before io windows rest t,
      inputs = before ++ .message io (.ok (some (.windowsChanged windows))) :: rest →
        ((after config service before).adapter.apply (.windowsChanged windows)).1 =
          .ok (some t) →
            ∀ (id : WindowId) (action : ResizeAction),
              controller.pending.pending[id]? = some action → t.generation ≤ action.generation) ∧
    (∀ before io closed rest,
      inputs = before ++ .message io (.ok (some (.windowClosed closed))) :: rest →
        (∀ io event, Input.message io (.ok (some event)) ∈ rest → ¬ event.Reports closed) →
          ∀ action, (controller.step .popNext).1 = some action → action.windowId ≠ closed) := by
  intro controller
  have ht : Targets controller.adapter controller.pending := after_targets config service inputs
  refine ⟨fun id action ha => ⟨ht.keyed id action ha, ?_, ht.state id ha⟩,
    fun id other action action' ha ha' hf hf' => ?_, ?_, ?_⟩
  · exact Option.isSome_iff_ne_none.mpr (ht.recorded id ha)
  · have hid := (ht.state id ha).mp hf
    rw [(ht.state other ha').mp hf'] at hid
    exact (Option.some.inj hid).symm
  · rintro before io windows rest t rfl h id action ha
    exact (since_snapshot config service before rest io h).pending id ha
  · rintro before io closed rest rfl hr action ha rfl
    have hpending := PendingResizes.popNext_some ht.keyed ha
    exact ht.recorded _ hpending (absent_after_close config service before rest io _ hr)

theorem pending_on_target_bounce :
    let kitty : NiriWindow := ⟨10, some "window", some "kitty", true, false⟩
    let code : NiriWindow := ⟨20, some "window", some "code", false, false⟩
    let inputs : List Input := [.message .reliable (.ok (some (.windowsChanged [kitty, code]))),
      .message .reliable (.ok (some (.windowFocusChanged (some 20))))]
    let controller := after .kittyAndCode .start inputs
    controller.pending.pending[(10 : WindowId)]? = some ⟨2, 10, .unfocused, .tenth⟩ ∧
      ∃ action, controller.pending.pending[(20 : WindowId)]? = some action ∧
        action.state = .focused ∧ controller.adapter.engine.focusedWindow = some 20 ∧
          ∀ (other : WindowId) (action' : ResizeAction),
            controller.pending.pending[other]? = some action' → action'.state = .focused →
              other = 20 := by
  intro kitty code inputs controller
  obtain ⟨htarget, hone, -, -⟩ := pending_on_target .kittyAndCode .start inputs
  have hstate : controller.pending.pending[(20 : WindowId)]?.map ResizeAction.state =
      some .focused := by decide +kernel
  obtain ⟨action, ha, hf⟩ := Option.map_eq_some_iff.mp hstate
  exact ⟨by decide +kernel, action, ha, hf, (htarget 20 action ha).2.2.mp hf,
    fun other action' ha' hf' => hone other 20 action' action ha' ha hf' hf⟩

end Melibea
