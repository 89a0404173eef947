import Melibea.Transition
import Melibea.Library.Machine
import Melibea.Library.Register
import Mathlib.Data.Prod.Lex
import Mathlib.Data.Bool.Basic

/-! Coalescing of focus decisions into targeted resize actions. -/

namespace Melibea

open Std Library OrderedMap

structure ResizeAction where
  generation : UInt64
  windowId : WindowId
  state : FocusState
  width : Proportion
  deriving DecidableEq

structure PendingResizes where
  latestGeneration : ExtTreeMap WindowId UInt64
  pending : ExtTreeMap WindowId ResizeAction

namespace PendingResizes

def default : PendingResizes where
  latestGeneration := ∅
  pending := ∅

def ingestDecision (generation : UInt64) (self : PendingResizes) (decision : FocusDecision) :
    PendingResizes :=
  let latest := self.latestGeneration[decision.windowId]?.getD 0
  if generation < latest then self
  else
    let latestGeneration := self.latestGeneration.insert decision.windowId generation
    match decision.outcome with
    | .resize _ width =>
      { latestGeneration
        pending := self.pending.insert decision.windowId
          { generation, windowId := decision.windowId, state := decision.state, width } }
    | .preserve _ | .unmanaged | .excluded _ | .unknownWindow =>
      { latestGeneration, pending := self.pending.erase decision.windowId }

def ingest (self : PendingResizes) (transition : FocusTransition) : PendingResizes :=
  transition.decisions.foldl (ingestDecision transition.generation) self

def priority (action : ResizeAction) : UInt64 ×ₗ Bool :=
  toLex (action.generation, decide (action.state = .focused))

def popNext (self : PendingResizes) : Option ResizeAction × PendingResizes :=
  match maxByKey priority (values self.pending) with
  | none => (none, self)
  | some action =>
    (self.pending[action.windowId]?,
      { self with pending := self.pending.erase action.windowId })

def forgetWindow (self : PendingResizes) (windowId : WindowId) : PendingResizes where
  latestGeneration := self.latestGeneration.erase windowId
  pending := self.pending.erase windowId

def reset (_ : PendingResizes) : PendingResizes where
  latestGeneration := ∅
  pending := ∅

def isEmpty (self : PendingResizes) : Bool := self.pending.isEmpty

end PendingResizes

def FocusDecision.action (decision : FocusDecision) (generation : UInt64) :
    Option ResizeAction :=
  match decision.outcome with
  | .resize _ width =>
    some { generation, windowId := decision.windowId, state := decision.state, width }
  | _ => none

namespace PendingResizes

def slot (self : PendingResizes) (id : WindowId) : Register UInt64 ResizeAction where
  stamp := self.latestGeneration[id]?
  value := self.pending[id]?

lemma ext_slot {a b : PendingResizes} (h : ∀ id, a.slot id = b.slot id) : a = b := by
  obtain ⟨la, pa⟩ := a
  obtain ⟨lb, pb⟩ := b
  congr 1
  · exact ExtTreeMap.ext_getElem? fun id => congrArg Register.stamp (h id)
  · exact ExtTreeMap.ext_getElem? fun id => congrArg Register.value (h id)

@[simp] lemma slot_default (id : WindowId) : default.slot id = .empty := by
  simp [slot, default, Register.empty]

lemma lt_latest_iff (self : PendingResizes) (generation : UInt64) (id : WindowId) :
    generation < self.latestGeneration[id]?.getD 0 ↔
      ∃ latest ∈ (self.slot id).stamp, generation < latest := by
  cases h : self.latestGeneration[id]? with
  | none => simp [slot, h]
  | some latest => simp [slot, h]

lemma slot_ingestDecision (self : PendingResizes) (generation : UInt64) (decision : FocusDecision)
    (id : WindowId) :
    (self.ingestDecision generation decision).slot id =
      if decision.windowId = id then
        (self.slot id).write generation (decision.action generation)
      else self.slot id := by
  rw [ingestDecision]
  by_cases hlt : generation < self.latestGeneration[decision.windowId]?.getD 0
  · simp only [if_pos hlt]
    split_ifs with hid
    · subst hid
      exact (if_pos ((self.lt_latest_iff generation _).mp hlt)).symm
    · rfl
  · simp only [if_neg hlt]
    have hw := mt (self.lt_latest_iff generation decision.windowId).mpr hlt
    split_ifs with hid
    · subst hid
      rw [Register.write, if_neg hw]
      cases ho : decision.outcome <;> simp [slot, FocusDecision.action, ho]
    · cases ho : decision.outcome <;> simp [slot, get_insert, get_erase, hid]

lemma slot_ingest (self : PendingResizes) (transition : FocusTransition) (id : WindowId) :
    (self.ingest transition).slot id =
      (transition.decisions.filter (·.windowId = id)).foldl
        (fun register decision => register.write transition.generation
          (decision.action transition.generation)) (self.slot id) := by
  rw [ingest]
  induction transition.decisions generalizing self with
  | nil => rfl
  | cons decision decisions ih =>
    rw [List.foldl_cons, ih, slot_ingestDecision]
    split_ifs with hid
    · simp [hid]
    · simp [hid]

@[simp] lemma slot_forgetWindow (self : PendingResizes) (forgotten id : WindowId) :
    (self.forgetWindow forgotten).slot id =
      if forgotten = id then .empty else self.slot id := by
  simp only [slot, forgetWindow, get_erase]
  split_ifs <;> rfl

@[simp] lemma slot_reset (self : PendingResizes) (id : WindowId) :
    self.reset.slot id = .empty := by
  simp [slot, reset, Register.empty]

def Keyed (self : PendingResizes) : Prop :=
  ∀ (id : WindowId) (action : ResizeAction), self.pending[id]? = some action → action.windowId = id

lemma popNext_cases {self : PendingResizes} (hk : self.Keyed) :
    (self.pending = ∅ ∧ self.popNext = (none, self)) ∨
    ∃ action, self.popNext.1 = some action ∧ self.pending[action.windowId]? = some action ∧
      (∀ (id : WindowId) (other : ResizeAction), self.pending[id]? = some other →
        priority other ≤ priority action) ∧
      ∀ id, self.popNext.2.slot id =
        if action.windowId = id then (self.slot id).take else self.slot id := by
  cases hm : maxByKey priority (values self.pending) with
  | none =>
    refine .inl ⟨values_eq_nil.mp (maxByKey_eq_none.mp hm), ?_⟩
    simp [popNext, hm]
  | some action =>
    obtain ⟨key, hkey⟩ := mem_values.mp (mem_of_maxByKey hm)
    obtain rfl : action.windowId = key := hk key action hkey
    refine .inr ⟨action, by simpa [popNext, hm] using hkey, hkey, fun id other ho => ?_,
      fun id => ?_⟩
    · exact key_le_of_maxByKey hm (mem_values.mpr ⟨id, ho⟩)
    · simp only [popNext, hm, slot, get_erase, Register.take]
      split_ifs <;> rfl

lemma pending_forgetWindow {self : PendingResizes} {forgotten id : WindowId}
    {action : ResizeAction} (ha : (self.forgetWindow forgotten).pending[id]? = some action) :
    forgotten ≠ id ∧ self.pending[id]? = some action := by
  rw [forgetWindow, get_erase] at ha
  split_ifs at ha with hne
  exact ⟨hne, ha⟩

lemma pending_popNext {self : PendingResizes} (hk : self.Keyed) {id : WindowId}
    {action : ResizeAction} (ha : self.popNext.2.pending[id]? = some action) :
    self.pending[id]? = some action := by
  rcases popNext_cases hk with ⟨_, hpop⟩ | ⟨popped, _, _, _, hslot⟩
  · rwa [hpop] at ha
  · have hv : (self.popNext.2.slot id).value = some action := ha
    rw [hslot] at hv
    split_ifs at hv
    · cases hv
    · exact hv

lemma latestGeneration_popNext (self : PendingResizes) :
    self.popNext.2.latestGeneration = self.latestGeneration := by
  rw [popNext]
  split <;> rfl

lemma Keyed.popNext {self : PendingResizes} (hk : self.Keyed) : self.popNext.2.Keyed :=
  fun id action ha => hk id action (pending_popNext hk ha)

lemma popNext_some {self : PendingResizes} (hk : self.Keyed) {action : ResizeAction}
    (ha : self.popNext.1 = some action) : self.pending[action.windowId]? = some action := by
  rcases popNext_cases hk with ⟨_, hpop⟩ | ⟨popped, hpop, hget, _⟩
  · rw [hpop] at ha
    cases ha
  · obtain rfl : popped = action := Option.some.inj (hpop.symm.trans ha)
    exact hget

end PendingResizes

end Melibea
