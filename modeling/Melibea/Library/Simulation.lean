import Mathlib.Data.List.Range
import Melibea.Library.Machine

/-! Two levels of one machine, what a run conserves, and that a run gets somewhere. -/

namespace Melibea.Library.Machine

variable {σ τ ι κ ο ω ρ α : Type*}

section Trace

variable (step : σ → ι → ο × σ)

def trace (f : σ → ι → List α) (s : σ) : List ι → List α
  | [] => []
  | x :: xs => f s x ++ trace f (step s x).2 xs

@[simp] lemma trace_nil (f : σ → ι → List α) (s : σ) : trace step f s [] = [] := rfl

@[simp] lemma trace_cons (f : σ → ι → List α) (s : σ) (x : ι) (xs : List ι) :
    trace step f s (x :: xs) = f s x ++ trace step f (step s x).2 xs := rfl

@[simp] lemma trace_append (f : σ → ι → List α) (s : σ) (xs ys : List ι) :
    trace step f s (xs ++ ys) = trace step f s xs ++ trace step f (run step s xs) ys := by
  induction xs generalizing s with
  | nil => rfl
  | cons x xs ih =>
    rw [List.cons_append, trace_cons, trace_cons, ih, List.append_assoc, run_cons]

lemma trace_map (g : κ → ι) (f : σ → ι → List α) (s : σ) (xs : List κ) :
    trace step f s (xs.map g) = trace (fun s x => step s (g x)) (fun s x => f s (g x)) s xs := by
  induction xs generalizing s with
  | nil => rfl
  | cons x xs ih => exact congrArg _ (ih _)

lemma mem_trace {f : σ → ι → List α} {s : σ} {xs : List ι} {a : α} (h : a ∈ trace step f s xs) :
    ∃ ys x zs, xs = ys ++ x :: zs ∧ a ∈ f (run step s ys) x := by
  induction xs generalizing s with
  | nil => simp at h
  | cons x xs ih =>
    rcases List.mem_append.mp h with h | h
    · exact ⟨[], x, xs, rfl, h⟩
    · obtain ⟨ys, y, zs, rfl, hy⟩ := ih h
      exact ⟨x :: ys, y, zs, rfl, hy⟩

lemma trace_conserved {I : σ → Prop} {queue : σ → List α} {taken given : σ → ι → List α}
    (hI : ∀ s x, I s → I (step s x).2)
    (h : ∀ s x, I s → taken s x ++ queue (step s x).2 = queue s ++ given s x) {s : σ} (hs : I s)
    (xs : List ι) :
    trace step taken s xs ++ queue (run step s xs) = queue s ++ trace step given s xs := by
  induction xs generalizing s with
  | nil => simp
  | cons x xs ih =>
    rw [trace_cons, trace_cons, run_cons, List.append_assoc, ih (hI s x hs), ← List.append_assoc,
      h s x hs, List.append_assoc]

end Trace

/-- Each step of the first machine is matched by calls of the second, which show the same. -/
structure Simulation (step : σ → ι → ο × σ) (step' : τ → κ → ω × τ) (calls : σ → ι → List κ)
    (R : σ → τ → Prop) (shown : ο → List α) (shown' : ω → List α) : Prop where
  matched {s : σ} {t : τ} : R s t → ∀ x, R (step s x).2 (run step' t (calls s x))
  observed {s : σ} {t : τ} : R s t → ∀ x,
    shown (step s x).1 = (outputs step' t (calls s x)).flatMap shown'

namespace Simulation

variable {step : σ → ι → ο × σ} {step' : τ → κ → ω × τ} {calls : σ → ι → List κ}
  {R : σ → τ → Prop} {shown : ο → List α} {shown' : ω → List α}

lemma run (S : Simulation step step' calls R shown shown') {s : σ} {t : τ} (h : R s t)
    (xs : List ι) : R (Machine.run step s xs) (Machine.run step' t (trace step calls s xs)) := by
  induction xs generalizing s t with
  | nil => exact h
  | cons x xs ih =>
    rw [trace_cons, run_append]
    exact ih (S.matched h x)

lemma outputs (S : Simulation step step' calls R shown shown') {s : σ} {t : τ} (h : R s t)
    (xs : List ι) : (Machine.outputs step s xs).flatMap shown =
      (Machine.outputs step' t (trace step calls s xs)).flatMap shown' := by
  induction xs generalizing s t with
  | nil => rfl
  | cons x xs ih =>
    rw [trace_cons, outputs_append, outputs_cons, List.flatMap_cons, List.flatMap_append,
      S.observed h x, ih (S.matched h x)]

end Simulation

lemma reaches [WellFoundedRelation ρ] {step : σ → ι → ο × σ} {I G : σ → Prop} {C : ι → Prop}
    (μ : σ → ρ) (hstep : ∀ s x, I s → C x → ¬ G s →
      I (step s x).2 ∧ WellFoundedRelation.rel (μ (step s x).2) (μ s))
    {s : σ} (hs : I s) {f : ℕ → ι} (hf : ∀ n, C (f n)) :
    ∃ n, G (run step s ((List.range n).map f)) := by
  by_cases hg : G s
  · exact ⟨0, hg⟩
  · obtain ⟨hi, hlt⟩ := hstep s (f 0) hs (hf 0) hg
    obtain ⟨n, hn⟩ := reaches μ hstep hi fun n => hf (n + 1)
    refine ⟨n + 1, ?_⟩
    rwa [List.range_succ_eq_map, List.map_cons, run_cons, List.map_map]
termination_by μ s

end Melibea.Library.Machine
