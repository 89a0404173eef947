import Mathlib.Logic.Basic
import Mathlib.Tactic.Lemma
import Mathlib.Data.List.Forall2

/-! Checks that accept with a value or reject with an error. -/

namespace Melibea.Library

universe u

variable {ε ε' : Type*} {α β : Type u}

structure Checks (result : Except ε α) (Good : α → Prop) (Blame : ε → Prop) : Prop where
  accepted (a : α) : result = .ok a ↔ Good a
  rejected {e : ε} : result = .error e → Blame e

namespace Checks

variable {result : Except ε α} {Good : α → Prop} {Blame : ε → Prop}

lemma accepts_iff (h : Checks result Good Blame) : (∃ a, result = .ok a) ↔ ∃ a, Good a := by
  simp only [h.accepted]

lemma not_good (h : Checks result Good Blame) {e : ε} (he : result = .error e) :
    ¬ ∃ a, Good a := by
  rintro ⟨a, ha⟩
  have hok := (h.accepted a).mpr ha
  rw [he] at hok
  cases hok

lemma congr {Good' : α → Prop} (h : Checks result Good Blame) (hg : ∀ a, Good a ↔ Good' a) :
    Checks result Good' Blame :=
  ⟨fun a => (h.accepted a).trans (hg a), h.rejected⟩

lemma blame {Blame' : ε → Prop} (h : Checks result Good Blame)
    (hb : ∀ e, (¬ ∃ a, Good a) → Blame e → Blame' e) : Checks result Good Blame' :=
  ⟨h.accepted, fun he => hb _ (h.not_good he) (h.rejected he)⟩

lemma ok (a : α) (Blame : ε → Prop) : Checks (.ok a) (fun b => a = b) Blame :=
  ⟨fun b => by rw [Except.ok.injEq], nofun⟩

lemma error {e : ε} (h : Blame e) : Checks (.error e : Except ε α) (fun _ => False) Blame :=
  ⟨fun a => by simp, fun he => Except.error.inj he ▸ h⟩

lemma bind {f : α → Except ε β} {Next : α → β → Prop} (h : Checks result Good Blame)
    (hf : ∀ a, Good a → Checks (f a) (Next a) Blame) :
    Checks (result >>= f) (fun b => ∃ a, Good a ∧ Next a b) Blame := by
  cases hr : result with
  | error e =>
    refine ⟨fun b => iff_of_false nofun ?_, fun he => h.rejected (hr.trans ?_)⟩
    · rintro ⟨a, ha, _⟩
      exact h.not_good hr ⟨a, ha⟩
    · exact congrArg _ (Except.error.inj he)
  | ok a =>
    have ha := (h.accepted a).mp hr
    refine ⟨fun b => ((hf a ha).accepted b).trans ⟨fun hb => ⟨a, ha, hb⟩, ?_⟩,
      (hf a ha).rejected⟩
    rintro ⟨a', ha', hb⟩
    have he := (h.accepted a').mpr ha'
    rw [hr] at he
    exact Except.ok.inj he ▸ hb

lemma mapError {Blame' : ε' → Prop} (h : Checks result Good Blame) {f : ε → ε'}
    (hf : ∀ e, Blame e → Blame' (f e)) : Checks (result.mapError f) Good Blame' := by
  constructor
  · intro a
    rw [← h.accepted]
    cases result <;> simp [Except.mapError]
  · intro e' he
    cases hr : result with
    | error e =>
      rw [hr] at he
      exact Except.error.inj he ▸ hf e (h.rejected hr)
    | ok a =>
      rw [hr] at he
      cases he

lemma map (h : Checks result Good Blame) (f : α → β) :
    Checks (result.map f) (fun b => ∃ a, Good a ∧ f a = b) Blame :=
  h.bind fun a _ => ok (f a) Blame

end Checks

lemma ok_of_bind {result : Except ε α} {f : α → Except ε β} {b : β} (h : result >>= f = .ok b) :
    ∃ a, result = .ok a ∧ f a = .ok b := by
  cases result with
  | error e => cases h
  | ok a => exact ⟨a, rfl, h⟩

section Corresponding

variable {γ δ : Type*} {R : γ → δ → Prop} {xs : List γ} {ys : List δ}

lemma exists_right_of_getElem (h : List.Forall₂ R xs ys) {i : ℕ} {x : γ} (hx : xs[i]? = some x) :
    ∃ y, ys[i]? = some y ∧ R x y := by
  induction h generalizing i with
  | nil => simp at hx
  | @cons _ y _ _ hr _ ih =>
    cases i with
    | zero => exact ⟨y, rfl, Option.some.inj hx ▸ hr⟩
    | succ i => exact ih hx

lemma exists_left_of_getElem (h : List.Forall₂ R xs ys) {i : ℕ} {y : δ} (hy : ys[i]? = some y) :
    ∃ x, xs[i]? = some x ∧ R x y :=
  exists_right_of_getElem h.flip hy

lemma exists_corresponding (h : ∀ x ∈ xs, ∃ y, R x y) : ∃ ys, List.Forall₂ R xs ys := by
  induction xs with
  | nil => exact ⟨[], .nil⟩
  | cons x xs ih =>
    obtain ⟨y, hy⟩ := h x List.mem_cons_self
    obtain ⟨ys, hys⟩ := ih fun x' hx' => h x' (List.mem_cons_of_mem x hx')
    exact ⟨y :: ys, .cons hy hys⟩

end Corresponding

end Melibea.Library
