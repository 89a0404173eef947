import Mathlib.Data.List.Basic
import Mathlib.Data.List.MinMax

/-! Ordered maps filled and emptied by folds, and the choice of a last greatest element. -/

namespace Melibea.Library.OrderedMap

open Std

variable {κ α β : Type*} [Ord κ] [TransOrd κ] [LawfulEqOrd κ] [DecidableEq κ]

lemma get_insert (m : ExtTreeMap κ α) (k a : κ) (v : α) :
    (m.insert k v)[a]? = if k = a then some v else m[a]? := by
  simp [ExtTreeMap.getElem?_insert]

lemma get_erase (m : ExtTreeMap κ α) (k a : κ) :
    (m.erase k)[a]? = if k = a then none else m[a]? := by
  simp [ExtTreeMap.getElem?_erase]

omit [LawfulEqOrd κ] [DecidableEq κ] in
lemma mem_iff_get_ne (m : ExtTreeMap κ α) (k : κ) : k ∈ m ↔ m[k]? ≠ none := by
  rw [ExtTreeMap.mem_iff_isSome_getElem?, Option.isSome_iff_ne_none]

lemma get_foldl_insert (key : β → κ) (val : β → α) (xs : List β) (m : ExtTreeMap κ α) (k : κ) :
    (xs.foldl (fun m x => m.insert (key x) (val x)) m)[k]? =
      ((xs.filter (key · = k)).getLast?.map val).or m[k]? := by
  induction xs using List.reverseRecOn with
  | nil => simp
  | append_singleton xs x ih =>
    rw [List.foldl_append, List.filter_append]
    simp only [List.foldl_cons, List.foldl_nil, get_insert]
    by_cases h : key x = k
    · simp [h]
    · simp [h, ih]

lemma get_foldl_erase (ks : List κ) (m : ExtTreeMap κ α) (k : κ) :
    (ks.foldl (fun m x => m.erase x) m)[k]? = if k ∈ ks then none else m[k]? := by
  induction ks using List.reverseRecOn with
  | nil => simp
  | append_singleton ks x ih =>
    rw [List.foldl_append]
    simp only [List.foldl_cons, List.foldl_nil, get_erase, ih, List.mem_append, List.mem_singleton]
    by_cases h : x = k
    · simp [h]
    · simp [h, Ne.symm h]

def values (m : ExtTreeMap κ α) : List α := m.toList.map Prod.snd

omit [DecidableEq κ] in
lemma mem_values {m : ExtTreeMap κ α} {v : α} : v ∈ values m ↔ ∃ k : κ, m[k]? = some v := by
  simp [values, ExtTreeMap.mem_toList_iff_getElem?_eq_some]

omit [LawfulEqOrd κ] [DecidableEq κ] in
lemma values_eq_nil {m : ExtTreeMap κ α} : values m = [] ↔ m = ∅ := by
  rw [values, List.map_eq_nil_iff, ← List.isEmpty_iff, ExtTreeMap.isEmpty_toList,
    ExtTreeMap.isEmpty_iff]

omit [LawfulEqOrd κ] [DecidableEq κ] in
lemma length_values (m : ExtTreeMap κ α) : (values m).length = m.size := by
  rw [values, List.length_map, ExtTreeMap.length_toList]

omit [DecidableEq κ] in
lemma nodup_map_values {m : ExtTreeMap κ α} {key : α → κ}
    (h : ∀ (k : κ) (v : α), m[k]? = some v → key v = k) : ((values m).map key).Nodup := by
  have hkeys : (values m).map key = m.keys := by
    rw [values, List.map_map, ← ExtTreeMap.map_fst_toList_eq_keys]
    refine List.map_congr_left fun entry he => ?_
    exact h entry.1 entry.2 (ExtTreeMap.mem_toList_iff_getElem?_eq_some.mp he)
  rw [hkeys]
  exact ExtTreeMap.nodup_keys

def maxByKey {γ : Type*} [LinearOrder γ] (key : α → γ) (xs : List α) : Option α :=
  xs.reverse.argmax key

section MaxByKey

variable {γ : Type*} [LinearOrder γ] {key : α → γ} {xs : List α} {a : α}

lemma mem_of_maxByKey (h : maxByKey key xs = some a) : a ∈ xs :=
  List.mem_reverse.mp (List.argmax_mem h)

lemma key_le_of_maxByKey (h : maxByKey key xs = some a) {b : α} (hb : b ∈ xs) : key b ≤ key a :=
  List.le_of_mem_argmax (List.mem_reverse.mpr hb) h

@[simp] lemma maxByKey_eq_none : maxByKey key xs = none ↔ xs = [] := by
  simp [maxByKey]

end MaxByKey

end Melibea.Library.OrderedMap
