import Mathlib.Data.List.Basic
import Mathlib.Data.List.Infix

/-! Lists cut at a separator, the way a buffered reader cuts a stream into lines. -/

namespace Melibea.Library.Lines

variable {α : Type*} [DecidableEq α] (sep : α)

def afterLine : List α → List α
  | [] => []
  | a :: as => if a = sep then as else afterLine as

def unlines (lines : List (List α)) : List α := lines.flatMap (· ++ [sep])

variable {sep}

lemma afterLine_append {line : List α} (h : sep ∉ line) (rest : List α) :
    afterLine sep (line ++ sep :: rest) = rest := by
  induction line with
  | nil => simp [afterLine]
  | cons a line ih =>
    rw [List.mem_cons, not_or] at h
    rw [List.cons_append, afterLine, if_neg (Ne.symm h.1), ih h.2]

lemma afterLine_of_notMem {xs : List α} (h : sep ∉ xs) : afterLine sep xs = [] := by
  induction xs with
  | nil => rfl
  | cons a as ih =>
    rw [List.mem_cons, not_or] at h
    rw [afterLine, if_neg (Ne.symm h.1), ih h.2]

lemma prefix_afterLine {line xs rest : List α} (h : sep ∉ line)
    (hp : xs <+: line ++ ([sep] ++ rest)) : afterLine sep xs <+: rest := by
  induction line generalizing xs with
  | nil =>
    cases xs with
    | nil => exact List.nil_prefix
    | cons a as =>
      obtain ⟨rfl, hp⟩ := List.cons_prefix_cons.mp hp
      rwa [afterLine, if_pos rfl]
  | cons b line ih =>
    rw [List.mem_cons, not_or] at h
    cases xs with
    | nil => exact List.nil_prefix
    | cons a as =>
      obtain ⟨rfl, hrest⟩ := List.cons_prefix_cons.mp hp
      rw [afterLine, if_neg (Ne.symm h.1)]
      exact ih h.2 hrest

lemma length_afterLine_le (xs : List α) : (afterLine sep xs).length ≤ xs.length := by
  induction xs with
  | nil => exact le_rfl
  | cons a as ih =>
    rw [afterLine]
    split_ifs
    · exact Nat.le_succ _
    · exact ih.trans (Nat.le_succ _)

lemma length_afterLine_lt {xs : List α} (h : xs ≠ []) :
    (afterLine sep xs).length < xs.length := by
  cases xs with
  | nil => exact absurd rfl h
  | cons a as =>
    rw [afterLine]
    split_ifs
    · exact Nat.lt_succ_self _
    · exact Nat.lt_succ_of_le (length_afterLine_le as)

omit [DecidableEq α] in
lemma unlines_cons (line : List α) (lines : List (List α)) :
    unlines sep (line :: lines) = line ++ [sep] ++ unlines sep lines :=
  List.flatMap_cons

omit [DecidableEq α] in
lemma prefix_unlines {lines : List (List α)} {xs : List α} (h : xs <+: unlines sep lines) :
    ∃ whole part rest, lines = whole ++ rest ∧ xs = unlines sep whole ++ part ∧
      (part = [] ∨ ∃ line after, rest = line :: after ∧ part <+: line) := by
  induction lines generalizing xs with
  | nil =>
    obtain rfl := List.prefix_nil.mp h
    exact ⟨[], [], [], rfl, rfl, .inl rfl⟩
  | cons line lines ih =>
    rw [unlines_cons] at h
    rcases List.prefix_or_prefix_of_prefix h (List.prefix_append _ _) with hp | ⟨ys, rfl⟩
    · rcases List.prefix_concat_iff.mp hp with rfl | hp
      · exact ⟨[line], [], lines, rfl, by simp [unlines], .inl rfl⟩
      · exact ⟨[], xs, line :: lines, rfl, rfl, .inr ⟨line, lines, rfl, hp⟩⟩
    · obtain ⟨whole, part, rest, rfl, rfl, hpart⟩ := ih ((List.prefix_append_right_inj _).mp h)
      refine ⟨line :: whole, part, rest, rfl, ?_, hpart⟩
      rw [unlines_cons, List.append_assoc (line ++ [sep])]

end Melibea.Library.Lines
