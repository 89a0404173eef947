import Melibea.Library.Binary64
import Melibea.Library.Word64
import Mathlib.Data.List.DropRight
import Mathlib.Data.List.Basic

/-! Decimal text of binary64 numbers and of 64-bit words. -/

namespace Melibea.Library

namespace Decimal

-- The code points with the Unicode property White_Space.
def isWhitespace (c : Char) : Bool :=
  let n := c.toNat
  (9 ≤ n && n ≤ 13) || n == 0x20 || n == 0x85 || n == 0xA0 || n == 0x1680 ||
    (0x2000 ≤ n && n ≤ 0x200A) || n == 0x2028 || n == 0x2029 || n == 0x202F || n == 0x205F ||
    n == 0x3000

def trim (text : List Char) : List Char :=
  (text.dropWhile isWhitespace).rdropWhile isWhitespace

def stripSuffix (text : List Char) (c : Char) : Option (List Char) :=
  if text.getLast? = some c then some text.dropLast else none

def natural (digits : List Char) : ℕ :=
  digits.foldl (fun n c => 10 * n + (c.toNat - '0'.toNat)) 0

def sign : List Char → Bool × List Char
  | '-' :: text => (true, text)
  | '+' :: text => (false, text)
  | text => (false, text)

def exponent : List Char → Option ℤ
  | [] => some 0
  | c :: text =>
    if c = 'e' ∨ c = 'E' then
      let (negative, digits) := sign text
      if digits ≠ [] ∧ digits.all Char.isDigit then
        some (if negative then -(natural digits : ℤ) else natural digits)
      else none
    else none

def round (negative : Bool) (significand : ℕ) (exponent : ℤ) : Binary64 :=
  .ofRatio negative (significand * 10 ^ exponent.toNat * 2 ^ 1074) (10 ^ (-exponent).toNat)

def fraction : List Char → List Char × List Char
  | '.' :: text => text.span Char.isDigit
  | text => ([], text)

def number (negative : Bool) (text : List Char) : Option Binary64 :=
  let (whole, rest) := text.span Char.isDigit
  let (fractional, rest) := fraction rest
  if whole = [] ∧ fractional = [] then none
  else (exponent rest).map fun exponent =>
    round negative (natural (whole ++ fractional)) (exponent - fractional.length)

def parse (text : List Char) : Option Binary64 :=
  let (negative, text) := sign text
  let lower := text.map Char.toLower
  if lower = "inf".toList ∨ lower = "infinity".toList then some (.infinity negative)
  else if lower = "nan".toList then some .nan
  else number negative text

-- Counted in units of `10 ^ (-1074)` every finite double is a natural number. Its shortest
-- decimal is the neighbour, on the coarsest decimal grid where one of the two still denotes the
-- double, that is closest to it.
def shortest (units exact : ℕ) : ℕ → ℕ
  | 0 => exact
  | grid + 1 =>
    let lower := exact / 10 ^ (grid + 1) * 10 ^ (grid + 1)
    let upper := lower + 10 ^ (grid + 1)
    let denotes (decimal : ℕ) : Bool :=
      Binary64.roundRatio (decimal * 2 ^ 1074) (10 ^ 1074) == units
    if denotes upper && (!denotes lower || upper - exact ≤ exact - lower) then upper
    else if denotes lower then lower
    else shortest units exact grid

def display : Binary64 → String
  | .nan => "NaN"
  | .infinity negative => (if negative then "-" else "") ++ "inf"
  | .finite negative units _ =>
    let exact := units * 5 ^ 1074
    let decimal := shortest units exact (Nat.toDigits 10 exact).length
    let whole := toString (decimal / 10 ^ 1074)
    let digits :=
      ((Nat.toDigits 10 (decimal % 10 ^ 1074)).leftpad 1074 '0').rdropWhile (· == '0')
    (if negative then "-" else "") ++ whole ++
      (if digits = [] then "" else "." ++ String.ofList digits)

def oneDecimal : Binary64 → String
  | .nan => "NaN"
  | .infinity negative => (if negative then "-" else "") ++ "inf"
  | .finite negative units _ =>
    let one := 2 ^ 1074
    let q := units * 10 / one
    let r := units * 10 % one
    let up := if 2 * r < one then 0 else if one < 2 * r then 1 else q % 2
    (if negative then "-" else "") ++ s!"{(q + up) / 10}.{(q + up) % 10}"

-- `u64::from_str` after the sign.
def accumulate : UInt64 → List Char → Option UInt64
  | n, [] => some n
  | n, c :: text =>
    if c.isDigit then do
      let shifted ← Word64.checkedMul n 10
      let n ← Word64.checkedAdd shifted (.ofNat (c.toNat - '0'.toNat))
      accumulate n text
    else none

def unsigned : List Char → Option UInt64
  | [] | ['+'] | ['-'] => none
  | '+' :: digits => accumulate 0 digits
  | digits => accumulate 0 digits

lemma le_natural (n : ℕ) (text : List Char) :
    n ≤ text.foldl (fun n c => 10 * n + (c.toNat - '0'.toNat)) n := by
  induction text generalizing n with
  | nil => exact le_rfl
  | cons c text ih => exact le_trans (show n ≤ 10 * n + (c.toNat - '0'.toNat) by omega) (ih _)

lemma toNat_digit {c : Char} (h : c.isDigit = true) :
    (UInt64.ofNat (c.toNat - '0'.toNat)).toNat = c.toNat - '0'.toNat := by
  rw [UInt64.toNat_ofNat']
  apply Nat.mod_eq_of_lt
  simp only [Char.isDigit, Bool.and_eq_true, decide_eq_true_eq, UInt32.le_iff_toNat_le] at h
  have hle : c.toNat ≤ 57 := h.2
  omega

lemma accumulate_eq_some {n m : UInt64} {text : List Char} :
    accumulate n text = some m ↔ text.all Char.isDigit ∧
      text.foldl (fun n c => 10 * n + (c.toNat - '0'.toNat)) n.toNat = m.toNat := by
  induction text generalizing n with
  | nil => simp [accumulate, UInt64.toNat_inj]
  | cons c text ih =>
    rw [accumulate, List.all_cons, List.foldl_cons]
    by_cases hc : c.isDigit = true
    · rw [if_pos hc, hc, Bool.true_and]
      have hdigit := toNat_digit hc
      constructor
      · intro h
        obtain ⟨shifted, hshifted, h⟩ := Option.bind_eq_some_iff.mp h
        obtain ⟨next, hnext, h⟩ := Option.bind_eq_some_iff.mp h
        rw [Word64.checkedMul_eq_some] at hshifted
        rw [Word64.checkedAdd_eq_some, hdigit, ← hshifted, UInt64.toNat_ofNat, mul_comm] at hnext
        obtain ⟨hall, hvalue⟩ := ih.mp h
        exact ⟨hall, by rw [← hvalue, ← hnext]⟩
      · rintro ⟨hall, hvalue⟩
        have hle := le_natural (10 * n.toNat + (c.toNat - '0'.toNat)) text
        have hlt := m.toNat_lt
        obtain ⟨shifted, hshifted⟩ : ∃ shifted : UInt64, n.toNat * 10 = shifted.toNat :=
          ⟨.ofNat (n.toNat * 10), (Nat.mod_eq_of_lt (by omega)).symm⟩
        obtain ⟨next, hnext⟩ : ∃ next : UInt64,
            10 * n.toNat + (c.toNat - '0'.toNat) = next.toNat :=
          ⟨.ofNat _, (Nat.mod_eq_of_lt (by omega)).symm⟩
        refine Option.bind_eq_some_iff.mpr ⟨shifted, Word64.checkedMul_eq_some.mpr hshifted, ?_⟩
        refine Option.bind_eq_some_iff.mpr ⟨next, Word64.checkedAdd_eq_some.mpr ?_, ?_⟩
        · rw [hdigit, ← hshifted, ← hnext, mul_comm]
        · exact ih.mpr ⟨hall, by rw [← hnext]; exact hvalue⟩
    · simp [hc]

lemma unsigned_eq_some {text : List Char} {m : UInt64} :
    unsigned text = some m ↔ ∃ digits, (text = digits ∨ text = '+' :: digits) ∧ digits ≠ [] ∧
      digits.all Char.isDigit ∧ natural digits = m.toNat := by
  have hacc : ∀ digits, accumulate 0 digits = some m ↔
      digits.all Char.isDigit ∧ natural digits = m.toNat := fun digits => accumulate_eq_some
  constructor
  · intro h
    unfold unsigned at h
    split at h
    case h_4 digits _ => exact ⟨digits, .inr rfl, by rintro rfl; contradiction, (hacc digits).mp h⟩
    case h_5 => exact ⟨text, .inl rfl, by rintro rfl; contradiction, (hacc text).mp h⟩
    all_goals cases h
  · rintro ⟨digits, rfl | rfl, hne, hdigits⟩
    · unfold unsigned
      split
      case h_1 => exact absurd rfl hne
      case h_2 => exact absurd hdigits.1 (by decide)
      case h_3 => exact absurd hdigits.1 (by decide)
      case h_4 => exact absurd hdigits.1 (by simp [Char.isDigit])
      case h_5 => exact (hacc _).mpr hdigits
    · unfold unsigned
      split
      case h_2 heq => exact absurd (List.cons.inj heq).2 hne
      case h_4 heq => exact (hacc _).mpr ((List.cons.inj heq).2 ▸ hdigits)
      case h_5 h => exact absurd rfl (h digits)
      case h_1 heq => cases heq
      case h_3 heq => exact absurd (List.cons.inj heq).1 (by decide)

end Decimal

end Melibea.Library
