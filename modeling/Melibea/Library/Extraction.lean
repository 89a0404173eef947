import Melibea.Library.Machine
import Mathlib.Data.List.MinMax
import Mathlib.Data.List.Perm.Basic

/-! Stores that one of their operations empties, a greatest element at a time. -/

namespace Melibea.Library

variable {σ ι α γ : Type*} [LinearOrder γ]

/-- From a valid store, the input gives back a greatest element of those held and leaves the
others; it gives nothing only when nothing is held. -/
structure Extraction (step : σ → ι → Option α × σ) (input : ι) (key : α → γ) (held : σ → List α)
    (Valid : σ → Prop) : Prop where
  valid {s} : Valid s → Valid (step s input).2
  empty {s} : Valid s → (step s input).1 = none → held s = [] ∧ held (step s input).2 = []
  taken {s a} : Valid s → (step s input).1 = some a → (held s).Perm (a :: held (step s input).2)
  greatest {s a} : Valid s → (step s input).1 = some a → ∀ b ∈ held s, key b ≤ key a

namespace Extraction

variable {step : σ → ι → Option α × σ} {input : ι} {key : α → γ} {held : σ → List α}
  {Valid : σ → Prop} {s : σ}

lemma outputs_of_empty (E : Extraction step input key held Valid) (hs : Valid s)
    (he : held s = []) (n : ℕ) :
    Machine.outputs step s (List.replicate n input) = List.replicate n none := by
  induction n generalizing s with
  | zero => rfl
  | succ n ih =>
    have hnone : (step s input).1 = none := by
      by_contra hsome
      obtain ⟨a, ha⟩ := Option.ne_none_iff_exists'.mp hsome
      have hp := E.taken hs ha
      rw [he] at hp
      exact absurd hp.length_eq (by simp)
    rw [List.replicate_succ, Machine.outputs_cons, hnone, ih (E.valid hs) (E.empty hs hnone).2,
      List.replicate_succ]

lemma held_run_replicate (E : Extraction step input key held Valid) (hs : Valid s) {n : ℕ}
    (hn : (held s).length ≤ n) : held (Machine.run step s (List.replicate n input)) = [] := by
  induction n generalizing s with
  | zero => exact List.length_eq_zero_iff.mp (Nat.le_zero.mp hn)
  | succ n ih =>
    rw [List.replicate_succ, Machine.run_cons]
    apply ih (E.valid hs)
    cases ha : (step s input).1 with
    | none =>
      rw [(E.empty hs ha).2]
      exact Nat.zero_le n
    | some a =>
      have hlen := (E.taken hs ha).length_eq
      rw [List.length_cons] at hlen
      omega

lemma outputs_replicate (E : Extraction step input key held Valid) (hs : Valid s) :
    ∃ xs : List α, xs.Perm (held s) ∧ xs.Pairwise (fun a b => key b ≤ key a) ∧
      ∀ n, Machine.outputs step s (List.replicate n input) =
        (xs.take n).map some ++ List.replicate (n - xs.length) none := by
  induction hl : (held s).length generalizing s with
  | zero =>
    have he : held s = [] := List.length_eq_zero_iff.mp hl
    refine ⟨[], by rw [he], List.Pairwise.nil, fun n => ?_⟩
    rw [E.outputs_of_empty hs he]
    simp
  | succ l ih =>
    cases ha : (step s input).1 with
    | none =>
      rw [(E.empty hs ha).1] at hl
      simp at hl
    | some a =>
      have hp := E.taken hs ha
      have hlen : (held (step s input).2).length = l := by
        have := hp.length_eq
        rw [hl, List.length_cons] at this
        exact (Nat.succ.inj this).symm
      obtain ⟨xs, hxs, hsorted, hout⟩ := ih (E.valid hs) hlen
      refine ⟨a :: xs, (hxs.cons a).trans hp.symm, List.pairwise_cons.mpr ⟨?_, hsorted⟩, ?_⟩
      · intro b hb
        apply E.greatest hs ha
        exact hp.mem_iff.mpr (List.mem_cons_of_mem _ (hxs.mem_iff.mp hb))
      · intro n
        cases n with
        | zero => simp
        | succ n =>
          rw [List.replicate_succ, Machine.outputs_cons, ha, hout, List.take_succ_cons,
            List.length_cons, Nat.add_sub_add_right]
          rfl

end Extraction

end Melibea.Library
