import Mathlib.Data.List.Basic
import Mathlib.Data.List.Infix
import Mathlib.Tactic.Lemma

/-! Deterministic machines that answer every input with an output. -/

namespace Melibea.Library.Machine

variable {σ τ ι ο ω : Type*} (step : σ → ι → ο × σ)

def run (s : σ) : List ι → σ
  | [] => s
  | x :: xs => run (step s x).2 xs

def outputs (s : σ) : List ι → List ο
  | [] => []
  | x :: xs => (step s x).1 :: outputs (step s x).2 xs

@[simp] lemma run_nil (s : σ) : run step s [] = s := rfl

@[simp] lemma run_cons (s : σ) (x : ι) (xs : List ι) :
    run step s (x :: xs) = run step (step s x).2 xs := rfl

@[simp] lemma outputs_nil (s : σ) : outputs step s [] = [] := rfl

@[simp] lemma outputs_cons (s : σ) (x : ι) (xs : List ι) :
    outputs step s (x :: xs) = (step s x).1 :: outputs step (step s x).2 xs := rfl

@[simp] lemma run_append (s : σ) (xs ys : List ι) :
    run step s (xs ++ ys) = run step (run step s xs) ys := by
  induction xs generalizing s with
  | nil => rfl
  | cons x xs ih => exact ih _

@[simp] lemma outputs_append (s : σ) (xs ys : List ι) :
    outputs step s (xs ++ ys) = outputs step s xs ++ outputs step (run step s xs) ys := by
  induction xs generalizing s with
  | nil => rfl
  | cons x xs ih => exact congrArg _ (ih _)

lemma run_map (f : τ → ι) (s : σ) (xs : List τ) :
    run step s (xs.map f) = run (fun s x => step s (f x)) s xs := by
  induction xs generalizing s with
  | nil => rfl
  | cons x xs ih => exact ih _

lemma outputs_map (f : τ → ι) (s : σ) (xs : List τ) :
    outputs step s (xs.map f) = outputs (fun s x => step s (f x)) s xs := by
  induction xs generalizing s with
  | nil => rfl
  | cons x xs ih => exact congrArg _ (ih _)

lemma run_invariant {P : σ → Prop} (hstep : ∀ s x, P s → P (step s x).2) {s : σ} (hs : P s)
    (xs : List ι) : P (run step s xs) := by
  induction xs generalizing s with
  | nil => exact hs
  | cons x xs ih => exact ih (hstep s x hs)

lemma run_invariant_of_mem {P : σ → Prop} {xs : List ι}
    (hstep : ∀ x ∈ xs, ∀ s, P s → P (step s x).2) {s : σ} (hs : P s) : P (run step s xs) := by
  induction xs generalizing s with
  | nil => exact hs
  | cons x xs ih =>
    apply ih (fun y hy => hstep y (List.mem_cons_of_mem x hy))
    exact hstep x List.mem_cons_self s hs

lemma run_replicate {s : σ} {x : ι} (n : ℕ) (h : (step s x).2 = s) :
    run step s (List.replicate n x) = s := by
  induction n with
  | zero => rfl
  | succ n ih => rw [List.replicate_succ, run_cons, h, ih]

lemma mem_outputs {s : σ} {xs : List ι} {o : ο} (h : o ∈ outputs step s xs) :
    ∃ ys x zs, xs = ys ++ x :: zs ∧ o = (step (run step s ys) x).1 := by
  induction xs generalizing s with
  | nil => simp at h
  | cons x xs ih =>
    rcases List.mem_cons.mp h with rfl | h
    · exact ⟨[], x, xs, rfl, rfl⟩
    · obtain ⟨ys, y, zs, rfl, rfl⟩ := ih h
      exact ⟨x :: ys, y, zs, rfl, rfl⟩

def Meets (C : σ → ι → Prop) (s : σ) : List ι → Prop
  | [] => True
  | x :: xs => C s x ∧ Meets C (step s x).2 xs

lemma meets_append {C : σ → ι → Prop} {s : σ} {xs ys : List ι} :
    Meets step C s (xs ++ ys) ↔ Meets step C s xs ∧ Meets step C (run step s xs) ys := by
  induction xs generalizing s with
  | nil => simp [Meets]
  | cons x xs ih => simp [Meets, ih, and_assoc]

lemma meets_iff {C : σ → ι → Prop} {s : σ} {xs : List ι} :
    Meets step C s xs ↔ ∀ ys x zs, xs = ys ++ x :: zs → C (run step s ys) x := by
  induction xs generalizing s with
  | nil => simp [Meets]
  | cons x xs ih =>
    rw [Meets, ih]
    constructor
    · rintro ⟨hx, hxs⟩ ys y zs he
      cases ys with
      | nil => simpa using (List.cons.inj he).1 ▸ hx
      | cons w ys =>
        obtain ⟨rfl, htail⟩ := List.cons.inj he
        exact hxs ys y zs htail
    · exact fun h => ⟨h [] x xs rfl, fun ys y zs he => h (x :: ys) y zs (by rw [he]; rfl)⟩

instance Meets.decidable (C : σ → ι → Prop) [∀ s x, Decidable (C s x)] :
    (s : σ) → (xs : List ι) → Decidable (Meets step C s xs)
  | _, [] => isTrue trivial
  | s, x :: xs => @instDecidableAnd _ _ _ (Meets.decidable C (step s x).2 xs)

lemma run_invariant_of_meets {C : σ → ι → Prop} {P : σ → Prop}
    (hstep : ∀ s x, P s → C s x → P (step s x).2) {s : σ} (hs : P s) {xs : List ι}
    (hc : Meets step C s xs) : P (run step s xs) := by
  induction xs generalizing s with
  | nil => exact hs
  | cons x xs ih => exact ih (hstep s x hs hc.1) hc.2

def count (C : σ → ι → Prop) [∀ s x, Decidable (C s x)] (s : σ) : List ι → ℕ
  | [] => 0
  | x :: xs => (if C s x then 1 else 0) + count C (step s x).2 xs

lemma run_of_count {C : σ → ι → Prop} [∀ s x, Decidable (C s x)] {P : ℕ → σ → Prop} {xs : List ι}
    (hstep : ∀ x ∈ xs, ∀ n s, P n s → P (if C s x then n - 1 else n) (step s x).2) {n : ℕ} {s : σ}
    (hs : P n s) : P (n - count step C s xs) (run step s xs) := by
  induction xs generalizing n s with
  | nil => exact hs
  | cons x xs ih =>
    have hrest := ih (fun y hy => hstep y (List.mem_cons_of_mem x hy))
      (hstep x List.mem_cons_self n s hs)
    have hn : n - count step C s (x :: xs) =
        (if C s x then n - 1 else n) - count step C (step s x).2 xs := by
      rw [count]
      split_ifs <;> omega
    rw [hn]
    exact hrest

lemma forall_prefix_iff {P : List ι → Prop} {C : List ι → ι → Prop} (hnil : P [])
    (hstep : ∀ xs x, P xs → (P (xs ++ [x]) ↔ C xs x)) (xs : List ι) :
    (∀ ys, ys <+: xs → P ys) ↔ ∀ ys x zs, xs = ys ++ x :: zs → C ys x := by
  induction xs using List.reverseRecOn with
  | nil => simp [hnil]
  | append_singleton xs x ih =>
    constructor
    · intro h ys y zs he
      have hp : ∀ ys, ys <+: xs → P ys := fun ys hys => h ys (hys.trans (List.prefix_append _ _))
      rcases List.eq_nil_or_concat zs with rfl | ⟨zs, z, rfl⟩
      · obtain ⟨rfl, he⟩ := List.append_inj' he rfl
        obtain rfl : x = y := by simpa using he
        exact (hstep xs x (hp xs (List.prefix_refl _))).mp (h _ (List.prefix_refl _))
      · rw [List.concat_eq_append, ← List.cons_append, ← List.append_assoc] at he
        exact ih.mp hp ys y zs (List.append_inj' he rfl).1
    · intro h ys hys
      have hp : ∀ ys, ys <+: xs → P ys := by
        refine ih.mpr fun ys y zs he => h ys y (zs ++ [x]) ?_
        rw [he, List.append_assoc, List.cons_append]
      rcases List.prefix_concat_iff.mp hys with rfl | hys
      · exact (hstep xs x (hp xs (List.prefix_refl _))).mpr (h xs x [] rfl)
      · exact hp ys hys

/-- A relation between the states of two machines that every common input preserves, with
related answers. -/
structure Bisimulation (step : σ → ι → ο × σ) (step' : τ → ι → ω × τ)
    (R : σ → τ → Prop) (E : ο → ω → Prop) : Prop where
  answers {s t} : R s t → ∀ x, E (step s x).1 (step' t x).1
  preserved {s t} : R s t → ∀ x, R (step s x).2 (step' t x).2

variable {step} {step' : τ → ι → ω × τ} {R : σ → τ → Prop} {E : ο → ω → Prop}

lemma Bisimulation.outputs (B : Bisimulation step step' R E) {s : σ} {t : τ} (h : R s t)
    (xs : List ι) : List.Forall₂ E (outputs step s xs) (outputs step' t xs) := by
  induction xs generalizing s t with
  | nil => exact .nil
  | cons x xs ih => exact .cons (B.answers h x) (ih (B.preserved h x))

lemma Bisimulation.run (B : Bisimulation step step' R E) {s : σ} {t : τ} (h : R s t)
    (xs : List ι) : R (run step s xs) (run step' t xs) := by
  induction xs generalizing s t with
  | nil => exact h
  | cons x xs ih => exact ih (B.preserved h x)

end Melibea.Library.Machine
