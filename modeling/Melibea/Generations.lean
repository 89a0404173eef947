import Melibea.Daemon
import Melibea.Targets

/-! Generations are handed out one for each transition. -/

namespace Melibea

open Std Library OrderedMap

namespace NiriAdapter

abbrev transition? (result : Except NiriAdapterError (Option FocusTransition)) :
    Option FocusTransition :=
  result.toOption.join

def emitted (config : Config) (events : List NiriEvent) : List FocusTransition :=
  (Machine.outputs apply (.new config) events).filterMap transition?

lemma emitted_concat (config : Config) (events : List NiriEvent) (event : NiriEvent) :
    emitted config (events ++ [event]) =
      emitted config events ++ (transition? ((after config events).apply event).1).toList := by
  rw [emitted, Machine.outputs_append, List.filterMap_append, ← emitted]
  cases ht : transition? ((after config events).apply event).1 <;> simp [ht]

lemma transition_eq_some {result : Except NiriAdapterError (Option FocusTransition)}
    {t : FocusTransition} : transition? result = some t ↔ result = .ok (some t) := by
  rcases result with error | _ | t' <;> simp [transition?, Except.toOption]

lemma apply_silent (adapter : NiriAdapter) {event : NiriEvent}
    (h : transition? (adapter.apply event).1 = none) :
    (adapter.apply event).2.engine.generation = adapter.engine.generation := by
  cases event with
  | windowsChanged windows =>
    by_cases ha : Accepted windows
    · rw [apply_accepted _ ha] at h
      cases h
    · rw [apply_rejected _ ha]
  | windowOpenedOrChanged window =>
    by_cases hr : adapter.Relevant window
    · rw [apply_opened_relevant _ hr] at h
      cases h
    · rw [apply_opened_silent _ hr]
      rfl
  | windowFocusChanged id => cases h
  | _ => rfl

lemma generation_after (config : Config) (events : List NiriEvent) :
    (after config events).engine.generation.toNat =
      min (emitted config events).length (2 ^ 64 - 1) := by
  induction events using List.reverseRecOn with
  | nil => rfl
  | append_singleton events event ih =>
    rw [after_concat, emitted_concat, List.length_append]
    cases ht : transition? ((after config events).apply event).1 with
    | none =>
      rw [apply_silent _ ht, ih]
      rfl
    | some t =>
      have he := apply_emission (transition_eq_some.mp ht)
      rw [he.advanced, he.generation, Word64.toNat_saturatingAdd, ih, Option.toList_some,
        List.length_singleton, UInt64.toNat_one]
      omega

lemma generation_emitted (config : Config) (events : List NiriEvent) {n : ℕ} {t : FocusTransition}
    (h : (emitted config events)[n]? = some t) : t.generation.toNat = min (n + 1) (2 ^ 64 - 1) := by
  induction events using List.reverseRecOn with
  | nil => cases h
  | append_singleton events event ih =>
    rw [emitted_concat, List.getElem?_append] at h
    split_ifs at h with hn
    · exact ih h
    · have hm : t ∈ transition? ((after config events).apply event).1 :=
        Option.mem_toList.mp (List.mem_of_getElem? h)
      have he := apply_emission (transition_eq_some.mp hm)
      have hlast : n = (emitted config events).length := by
        rw [Option.mem_def.mp hm, Option.toList_some] at h
        have := (List.getElem?_eq_some_iff.mp h).1
        rw [List.length_singleton] at this
        omega
      rw [he.generation, Word64.toNat_saturatingAdd, generation_after, UInt64.toNat_one, hlast]
      omega

end NiriAdapter

namespace PendingResizes

def BoundedBy (self : PendingResizes) (generation : UInt64) : Prop :=
  ∀ (id : WindowId) (latest : UInt64), self.latestGeneration[id]? = some latest →
    latest ≤ generation

variable {self : PendingResizes} {generation : UInt64}

lemma BoundedBy.not_stale (h : self.BoundedBy generation) (id : WindowId) :
    ¬ generation < self.latestGeneration[id]?.getD 0 := by
  rw [lt_latest_iff]
  rintro ⟨latest, hl, hlt⟩
  exact (h id latest hl).not_gt hlt

lemma BoundedBy.ingestDecision (h : self.BoundedBy generation) (decision : FocusDecision) :
    (self.ingestDecision generation decision).BoundedBy generation := by
  intro id latest hl
  have hs : ((self.ingestDecision generation decision).slot id).stamp = some latest := hl
  rw [slot_ingestDecision] at hs
  split_ifs at hs with hid
  · subst hid
    rw [Register.write, if_neg (mt (lt_latest_iff _ _ _).mpr (h.not_stale _))] at hs
    exact (Option.some.inj hs).symm.le
  · exact h id latest hs

lemma BoundedBy.foldl (h : self.BoundedBy generation) (decisions : List FocusDecision) :
    (decisions.foldl (PendingResizes.ingestDecision generation) self).BoundedBy generation := by
  induction decisions generalizing self with
  | nil => exact h
  | cons decision decisions ih => exact ih (h.ingestDecision decision)

lemma BoundedBy.cleared (h : self.BoundedBy generation) (event : NiriEvent) :
    (Controller.follow self event none).BoundedBy generation := by
  cases event with
  | windowsChanged windows =>
    intro id latest hl
    simp [Controller.follow, PendingResizes.reset] at hl
  | windowClosed closed =>
    intro id latest hl
    rw [Controller.follow, Option.elim_none, PendingResizes.forgetWindow, get_erase] at hl
    split_ifs at hl
    exact h id latest hl
  | _ => exact h

end PendingResizes

namespace Controller

def Input.event? : Input → Option NiriEvent
  | .message _ (.ok (some event)) => some event
  | _ => none

def heard (inputs : List Input) : List NiriEvent := inputs.filterMap Input.event?

lemma heard_concat (inputs : List Input) (input : Input) :
    heard (inputs ++ [input]) = heard inputs ++ input.event?.toList := by
  rw [heard, List.filterMap_append, ← heard]
  cases he : input.event? <;> simp [he]

lemma ingestEvent_adapter (self : Controller) (event : NiriEvent) :
    (self.ingestEvent event).2.adapter = (self.adapter.apply event).2 := by
  rw [ingestEvent]
  rcases self.adapter.apply event with ⟨_ | _, adapter⟩ <;> rfl

lemma step_adapter (self : Controller) (input : Input) :
    (self.step input).2.adapter =
      Machine.run NiriAdapter.apply self.adapter input.event?.toList := by
  cases input with
  | message io message =>
    rcases message with error | _ | event
    · rfl
    · rfl
    · rw [step_message]
      by_cases hmin : ∃ windows, event = .minimizedWindowsChanged windows
      · obtain ⟨windows, rfl⟩ := hmin
        rcases self.ingestStreamMessage_cases io (.ok (some (.minimizedWindowsChanged windows)))
          with ⟨ha, _⟩ | ⟨event, _, he, _, ha, _⟩
        · exact ha
        · obtain rfl : .minimizedWindowsChanged windows = event := by simpa using he
          exact ha
      · rw [Daemon.ingestStreamMessage_event _ _ (not_exists.mp hmin)]
        exact self.ingestEvent_adapter event
  | popNext => rfl

lemma adapter_after (config : Config) (service : Service) (inputs : List Input) :
    (after config service inputs).adapter = .after config (heard inputs) := by
  induction inputs using List.reverseRecOn with
  | nil => rfl
  | append_singleton inputs input ih =>
    rw [after, Machine.run_append, Machine.run_cons, Machine.run_nil, step_adapter, ih,
      heard_concat, NiriAdapter.after, NiriAdapter.after, Machine.run_append]

lemma step_pending {self : Controller} {event : NiriEvent} {t : FocusTransition}
    (h : (self.adapter.apply event).1 = .ok (some t)) (io : Io) :
    (self.step (.message io (.ok (some event)))).2.pending =
      follow self.pending event (some t) := by
  have hi : (self.ingestEvent event).2.pending = follow self.pending event (some t) := by
    rw [ingestEvent]
    rcases he : self.adapter.apply event with ⟨_ | transition, adapter⟩
    · rw [he] at h
      cases h
    · rw [he] at h
      obtain rfl := Except.ok.inj h
      rfl
  have hmin : ∀ windows, event ≠ .minimizedWindowsChanged windows := by
    rintro windows rfl
    cases h
  rw [step_message, Daemon.ingestStreamMessage_event _ _ hmin, hi]

lemma follow_ingest (pending : PendingResizes) (event : NiriEvent) (t : FocusTransition) :
    follow pending event (some t) = (follow pending event none).ingest t := by
  cases event <;> rfl

end Controller

open Controller

/-- The n-th transition an adapter emits has generation n until the counter saturates, and no
generation that the executor remembers is ever newer than the transition it is given, so that none
of its decisions is skipped. -/
theorem live_decisions_ingested (config : Config) (service : Service) (inputs : List Input) :
    let controller := after config service inputs
    controller.adapter = .after config (heard inputs) ∧
    (∀ (n : ℕ) (t : FocusTransition), (NiriAdapter.emitted config (heard inputs))[n]? = some t →
      t.generation.toNat = min (n + 1) (2 ^ 64 - 1)) ∧
    (∀ event, (∀ t, (controller.adapter.apply event).1 ≠ .ok (some t)) →
      NiriAdapter.emitted config (heard inputs ++ [event]) =
        NiriAdapter.emitted config (heard inputs) ∧
      (controller.adapter.apply event).2.engine.generation =
        controller.adapter.engine.generation) ∧
    ∀ event t, (controller.adapter.apply event).1 = .ok (some t) →
      NiriAdapter.emitted config (heard inputs ++ [event]) =
        NiriAdapter.emitted config (heard inputs) ++ [t] ∧
      (∀ (id : WindowId) (latest : UInt64),
        controller.pending.latestGeneration[id]? = some latest → latest ≤ t.generation) ∧
      (∀ earlier decision later, t.decisions = earlier ++ decision :: later →
        ¬ t.generation < ((earlier.foldl (PendingResizes.ingestDecision t.generation)
          (follow controller.pending event none)).latestGeneration[decision.windowId]?.getD 0)) ∧
      ∀ io, ∀ decision ∈ t.decisions,
        (controller.step (.message io (.ok (some event)))).2.pending.slot decision.windowId =
          ⟨some t.generation, decision.action t.generation⟩ := by
  intro controller
  have hadapter : controller.adapter = .after config (heard inputs) :=
    adapter_after config service inputs
  have ht : Targets controller.adapter controller.pending := after_targets config service inputs
  refine ⟨hadapter, fun n t => NiriAdapter.generation_emitted config _, fun event hn => ?_,
    fun event t he => ?_⟩
  · have hnone : NiriAdapter.transition? (controller.adapter.apply event).1 = none := by
      rw [Option.eq_none_iff_forall_ne_some]
      exact fun t ht => hn t (NiriAdapter.transition_eq_some.mp ht)
    refine ⟨?_, NiriAdapter.apply_silent _ hnone⟩
    rw [NiriAdapter.emitted_concat, ← hadapter, hnone, Option.toList_none, List.append_nil]
  · have hem := NiriAdapter.apply_emission he
    have hbounded : controller.pending.BoundedBy t.generation :=
      fun id latest hl => (ht.latest id hl).trans hem.le
    have hcleared := hbounded.cleared event
    refine ⟨?_, hbounded, fun earlier decision later _ => ?_, fun io decision hd => ?_⟩
    · rw [NiriAdapter.emitted_concat, ← hadapter, NiriAdapter.transition_eq_some.mpr he,
        Option.toList_some]
    · exact (hcleared.foldl earlier).not_stale decision.windowId
    · have hfind : t.decision? decision.windowId = some decision := by
        rw [FocusTransition.decision?, ← List.head?_filter,
          KeyedList.filter_eq_singleton hem.nodup hd]
        rfl
      rw [step_pending he, follow_ingest,
        PendingResizes.slot_ingest_fresh _ hem.nodup (hcleared decision.windowId), hfind]
      rfl

theorem live_decisions_ingested_unfocus :
    let kitty : NiriWindow := ⟨10, some "window", some "kitty", true, false⟩
    let inputs := [.message .reliable (.ok (some (.windowsChanged [kitty]))), .popNext]
    let controller := after .kittyAndCode .start inputs
    let unfocus : NiriEvent := .windowFocusChanged none
    let decision : FocusDecision := ⟨10, .unfocused, .resize 0 .tenth⟩
    (controller.adapter.apply unfocus).1 = .ok (some ⟨2, some 10, none, [decision]⟩) ∧
      (controller.step (.message .reliable (.ok (some unfocus)))).2.pending.slot decision.windowId =
        ⟨some 2, decision.action 2⟩ := by
  intro kitty inputs controller unfocus decision
  have ht : (controller.adapter.apply unfocus).1 = .ok (some ⟨2, some 10, none, [decision]⟩) := by
    decide +kernel
  have h := (live_decisions_ingested .kittyAndCode .start inputs).2.2.2 unfocus _ ht
  exact ⟨ht, h.2.2.2 .reliable decision (List.mem_singleton_self decision)⟩

end Melibea
