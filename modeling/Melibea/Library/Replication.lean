import Melibea.Library.Machine
import Melibea.Library.Word64
import Mathlib.Data.List.Infix
import Mathlib.Data.List.ReduceOption

/-! A primary publishes a value under a revision counter, and replicas follow it. -/

namespace Melibea.Library

structure Primary (α ρ : Type*) where
  revision : UInt64
  ready : Bool
  reason : ρ
  value : α

inductive Update (α δ ρ : Type*)
  | snapshot (revision : UInt64) (value : α)
  | delta (revision : UInt64) (delta : δ)
  | withdrawn (revision : UInt64) (reason : ρ)

inductive Command (α ρ : Type*)
  | publish (value : α)
  | withdraw (reason : ρ)

structure Replica (α : Type*) where
  revision : UInt64
  ready : Bool
  value : α

variable {α δ ρ : Type*}

def Primary.greeting (self : Primary α ρ) : Update α δ ρ :=
  if self.ready then .snapshot self.revision self.value else .withdrawn self.revision self.reason

def Primary.step [DecidableEq α] [DecidableEq ρ] (diff : α → α → δ) (cleared : ρ)
    (self : Primary α ρ) : Command α ρ → Option (Update α δ ρ) × Primary α ρ
  | .publish value =>
    if self.ready ∧ self.value = value then (none, self)
    else
      let revision := Word64.saturatingAdd self.revision 1
      (some (if self.ready then .delta revision (diff self.value value)
          else .snapshot revision value),
        { revision, ready := true, reason := cleared, value })
  | .withdraw reason =>
    if !self.ready ∧ self.reason = reason then (none, self)
    else (some (.withdrawn self.revision reason), { self with ready := false, reason })

def Primary.updates [DecidableEq α] [DecidableEq ρ] (diff : α → α → δ) (cleared : ρ)
    (self : Primary α ρ) (commands : List (Command α ρ)) : List (Update α δ ρ) :=
  (Machine.outputs (Primary.step diff cleared) self commands).reduceOption

lemma Primary.updates_append [DecidableEq α] [DecidableEq ρ] (diff : α → α → δ) (cleared : ρ)
    (self : Primary α ρ) (xs ys : List (Command α ρ)) :
    self.updates diff cleared (xs ++ ys) = self.updates diff cleared xs ++
      (Machine.run (Primary.step diff cleared) self xs).updates diff cleared ys := by
  rw [updates, Machine.outputs_append, List.reduceOption_append]
  rfl

def Replica.receive (patch : δ → α → α) (self : Replica α) : Update α δ ρ → Replica α
  | .snapshot revision value => { revision, ready := true, value }
  | .delta revision delta => { self with revision, value := patch delta self.value }
  | .withdrawn revision _ => { self with revision, ready := false }

structure Replica.Mirrors (replica : Replica α) (primary : Primary α ρ) : Prop where
  ready : replica.ready = primary.ready
  revision : replica.revision = primary.revision
  value : primary.ready → replica.value = primary.value

lemma Replica.mirrors_greeting (patch : δ → α → α) (replica : Replica α) (primary : Primary α ρ) :
    (replica.receive patch primary.greeting).Mirrors primary := by
  rw [Primary.greeting]
  split_ifs with h
  · exact ⟨h.symm, rfl, fun _ => rfl⟩
  · exact ⟨by simpa [receive] using h, rfl, fun hr => absurd hr h⟩

section Step

variable [DecidableEq α] [DecidableEq ρ] {diff : α → α → δ} {patch : δ → α → α} {cleared : ρ}

lemma Replica.Mirrors.step {replica : Replica α} {primary : Primary α ρ}
    (h : replica.Mirrors primary) (command : Command α ρ)
    (hdiff : ∀ value, command = .publish value → primary.ready →
      patch (diff primary.value value) primary.value = value) :
    ((primary.step diff cleared command).1.elim replica (replica.receive patch)).Mirrors
      (primary.step diff cleared command).2 := by
  cases command with
  | publish value =>
    rw [Primary.step]
    split_ifs with hsame hready
    · exact h
    · refine ⟨h.ready.trans hready, rfl, fun _ => ?_⟩
      change patch _ replica.value = value
      rw [h.value hready, hdiff value rfl hready]
    · exact ⟨rfl, rfl, fun _ => rfl⟩
  | withdraw reason =>
    rw [Primary.step]
    split_ifs
    · exact h
    · exact ⟨rfl, rfl, fun hr => absurd hr (by simp)⟩

end Step

structure Publications (α : Type*) where
  published : List α
  ready : Bool

namespace Publications

def at? (self : Publications α) (revision : UInt64) : Option α :=
  if revision = 0 then none else self.published[revision.toNat - 1]?

lemma at_of_prefix {self other : Publications α} (h : self.published <+: other.published)
    {revision : UInt64} {value : α} (hv : self.at? revision = some value) :
    other.at? revision = some value := by
  rw [at?] at hv ⊢
  split_ifs at hv ⊢
  obtain ⟨later, hl⟩ := h
  rw [← hl, List.getElem?_append_left (List.getElem?_eq_some_iff.mp hv).1, hv]

variable [DecidableEq α]

def empty : Publications α where
  published := []
  ready := false

def observe (self : Publications α) : Command α ρ → Publications α
  | .publish value =>
    if self.ready ∧ self.published.getLast? = some value then self
    else { published := self.published ++ [value], ready := true }
  | .withdraw _ => { self with ready := false }

lemma prefix_observe (self : Publications α) (command : Command α ρ) :
    self.published <+: (self.observe command).published := by
  cases command with
  | publish value =>
    rw [observe]
    split_ifs
    · exact List.prefix_refl _
    · exact List.prefix_append _ _
  | withdraw reason => exact List.prefix_refl _

end Publications

structure Primary.Numbered (primary : Primary α ρ) (publications : Publications α) : Prop where
  ready : primary.ready = publications.ready
  revision : primary.revision.toNat = publications.published.length
  value : primary.ready → publications.published.getLast? = some primary.value

namespace Primary.Numbered

variable {primary : Primary α ρ} {publications : Publications α}

lemma at_revision (h : primary.Numbered publications) (hr : primary.ready) :
    publications.at? primary.revision = some primary.value := by
  have hv := h.value hr
  have hne : publications.published.length ≠ 0 := by
    rw [Ne, List.length_eq_zero_iff]
    rintro he
    simp [he] at hv
  have hrev : primary.revision ≠ 0 := by
    rintro he
    rw [← h.revision, he] at hne
    exact hne rfl
  rw [Publications.at?, if_neg hrev, h.revision, ← List.getLast?_eq_getElem?, hv]

lemma publish_iff (h : primary.Numbered publications) (value : α) :
    (primary.ready ∧ primary.value = value) ↔
      (publications.ready ∧ publications.published.getLast? = some value) := by
  rw [← h.ready]
  refine and_congr_right fun hr => ?_
  rw [h.value hr, Option.some.injEq]

variable [DecidableEq α] [DecidableEq ρ] {diff : α → α → δ} {cleared : ρ}

lemma step (h : primary.Numbered publications) (command : Command α ρ)
    (hlt : (publications.observe command).published.length < 2 ^ 64) :
    (primary.step diff cleared command).2.Numbered (publications.observe command) := by
  cases command with
  | publish value =>
    by_cases hsame : primary.ready ∧ primary.value = value
    · rw [Primary.step, Publications.observe, if_pos hsame, if_pos ((h.publish_iff value).mp hsame)]
      exact h
    · have hnew := mt (h.publish_iff value).mpr hsame
      rw [Publications.observe, if_neg hnew] at hlt ⊢
      rw [Primary.step, if_neg hsame]
      refine ⟨rfl, ?_, fun _ => by simp⟩
      simp only [List.length_append, List.length_singleton] at hlt ⊢
      rw [Word64.toNat_saturatingAdd, h.revision, UInt64.toNat_one]
      omega
  | withdraw reason =>
    rw [Primary.step, Publications.observe]
    split_ifs with hsame
    · refine ⟨?_, h.revision, h.value⟩
      simpa using hsame.1
    · exact ⟨rfl, h.revision, fun hr => absurd hr (by simp)⟩

end Primary.Numbered

end Melibea.Library
