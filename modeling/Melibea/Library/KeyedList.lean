import Mathlib.Data.List.Basic
import Mathlib.Data.List.Nodup

/-! Lists whose elements carry pairwise distinct keys. -/

namespace Melibea.Library.KeyedList

variable {α κ : Type*} [DecidableEq κ] {key : α → κ}

lemma filter_eq_nil_or_singleton {xs : List α} (h : (xs.map key).Nodup) (k : κ) :
    xs.filter (key · = k) = [] ∨ ∃ x, xs.filter (key · = k) = [x] := by
  have hn : ((xs.filter (key · = k)).map key).Nodup := h.sublist (List.filter_sublist.map key)
  have hk : ∀ x ∈ xs.filter (key · = k), key x = k := fun x hx => by
    simpa using (List.mem_filter.mp hx).2
  match hf : xs.filter (key · = k) with
  | [] => exact .inl rfl
  | [x] => exact .inr ⟨x, rfl⟩
  | x :: y :: ys =>
    rw [hf] at hn hk
    have hxy : key x = key y := (hk x (by simp)).trans (hk y (by simp)).symm
    simp [hxy] at hn

lemma filter_eq_singleton {xs : List α} (h : (xs.map key).Nodup) {x : α} (hx : x ∈ xs) :
    xs.filter (key · = key x) = [x] := by
  have hmem : x ∈ xs.filter (key · = key x) := List.mem_filter.mpr ⟨hx, by simp⟩
  rcases filter_eq_nil_or_singleton h (key x) with hf | ⟨y, hf⟩
  · rw [hf] at hmem
    cases hmem
  · rw [hf] at hmem ⊢
    rw [List.mem_singleton.mp hmem]

lemma findIdx_eq_none {xs : List α} {k : κ} :
    xs.findIdx? (key · = k) = none ↔ k ∉ xs.map key := by
  simp [List.findIdx?_eq_none_iff]

lemma split_of_findIdx {xs : List α} {k : κ} {i : ℕ} (h : xs.findIdx? (key · = k) = some i) :
    ∃ before x after, xs = before ++ x :: after ∧ before.length = i ∧ key x = k := by
  obtain ⟨hi, hk, -⟩ := List.findIdx?_eq_some_iff_getElem.mp h
  refine ⟨xs.take i, xs[i], xs.drop (i + 1), ?_, ?_, by simpa using hk⟩
  · simp
  · rw [List.length_take, Nat.min_eq_left (Nat.le_of_lt hi)]

lemma filter_ne_of_not_mem {xs : List α} {k : κ} (h : k ∉ xs.map key) :
    xs.filter (key · ≠ k) = xs := by
  refine List.filter_eq_self.mpr fun x hx => ?_
  simpa using fun he : key x = k => h (he ▸ List.mem_map_of_mem hx)

lemma filter_ne_split {front back : List α} {x : α}
    (h : ((front ++ x :: back).map key).Nodup) :
    (front ++ x :: back).filter (key · ≠ key x) = front ++ back := by
  rw [List.map_append, List.map_cons, List.nodup_middle, List.nodup_cons, List.mem_append,
    not_or] at h
  rw [List.filter_append, List.filter_cons, filter_ne_of_not_mem h.1.1,
    filter_ne_of_not_mem h.1.2]
  simp

lemma findIdx_split {front : List α} {x : α} {k : κ} (hf : k ∉ front.map key)
    (hx : key x = k) (back : List α) : (front ++ x :: back).findIdx? (key · = k) = some front.length := by
  rw [List.findIdx?_append, findIdx_eq_none.mpr hf, List.findIdx?_cons]
  simp [hx]

end Melibea.Library.KeyedList
