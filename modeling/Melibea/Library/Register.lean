import Mathlib.Data.List.Basic
import Mathlib.Data.List.MinMax
import Mathlib.Data.List.Perm.Basic

/-! A register that keeps the value of the write with the greatest stamp. -/

namespace Melibea.Library

structure Register (γ α : Type*) where
  stamp : Option γ
  value : Option α

namespace Register

variable {γ α β : Type*} [LinearOrder γ]

def empty : Register γ α := ⟨none, none⟩

def write (r : Register γ α) (stamp : γ) (value : Option α) : Register γ α :=
  if ∃ latest ∈ r.stamp, stamp < latest then r else ⟨some stamp, value⟩

def take (r : Register γ α) : Register γ α := ⟨r.stamp, none⟩

lemma write_of_lt {r : Register γ α} {s : γ} (h : ∃ latest ∈ r.stamp, s < latest)
    (v : Option α) : r.write s v = r :=
  if_pos h

lemma le_stamp_write {r : Register γ α} {g : γ} (h : ∃ latest ∈ r.stamp, g ≤ latest) (s : γ)
    (v : Option α) : ∃ latest ∈ (r.write s v).stamp, g ≤ latest := by
  by_cases hs : ∃ latest ∈ r.stamp, s < latest
  · rwa [write_of_lt hs]
  · rw [write, if_neg hs]
    obtain ⟨latest, hl, hg⟩ := h
    exact ⟨s, rfl, hg.trans (not_lt.mp fun hlt => hs ⟨latest, hl, hlt⟩)⟩

lemma write_comm (r : Register γ α) {s t : γ} (h : s ≠ t) (u v : Option α) :
    (r.write s u).write t v = (r.write t v).write s u := by
  wlog hst : s < t generalizing s t u v
  · exact (this h.symm v u (lt_of_le_of_ne (not_lt.mp hst) h.symm)).symm
  by_cases ht : ∃ latest ∈ r.stamp, t < latest
  · have hs : ∃ latest ∈ r.stamp, s < latest :=
      ht.imp fun latest hl => ⟨hl.1, hst.trans hl.2⟩
    simp only [write, if_pos hs, if_pos ht]
  · have hr : r.write t v = ⟨some t, v⟩ := if_neg ht
    have hlate : (⟨some t, v⟩ : Register γ α).write s u = ⟨some t, v⟩ :=
      if_pos ⟨t, rfl, hst⟩
    have hearly : (r.write s u).write t v = ⟨some t, v⟩ := by
      by_cases hs : ∃ latest ∈ r.stamp, s < latest
      · have he : r.write s u = r := if_pos hs
        rw [he, hr]
      · have he : r.write s u = ⟨some s, u⟩ := if_neg hs
        rw [he]
        exact if_neg (by simpa using hst.le)
    rw [hearly, hr, hlate]

def latest (writes : List (γ × β)) : Option (γ × β) := writes.argmax Prod.fst

lemma mem_of_latest {writes : List (γ × β)} {w : γ × β} (h : latest writes = some w) :
    w ∈ writes :=
  List.argmax_mem h

lemma latest_concat {writes : List (γ × β)} {s : γ} (hs : ∀ w ∈ writes, w.1 ≠ s) (b : β) :
    latest (writes ++ [(s, b)]) =
      if ∃ l ∈ (latest writes).map Prod.fst, s < l then latest writes else some (s, b) := by
  rw [latest, List.argmax_concat, ← latest]
  cases hl : latest writes with
  | none => simp
  | some w =>
    have hne : w.1 ≠ s := hs w (mem_of_latest hl)
    rcases lt_or_gt_of_ne hne with hlt | hgt
    · simp [hlt, hlt.le]
    · simp [hgt, hgt.le]

end Register

end Melibea.Library
