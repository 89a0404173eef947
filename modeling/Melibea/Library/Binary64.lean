import Mathlib.Data.Nat.Log
import Mathlib.Tactic.Linarith

/-! IEEE 754 binary64 by value: a finite number is a sign and a magnitude in units of `2 ^ (-1074)`,
and NaN payloads are not distinguished. -/

namespace Melibea.Library

def Representable (units : ℕ) : Prop :=
  units < 2 ^ 2098 ∧ 2 ^ (Nat.log2 units - 52) ∣ units

instance (units : ℕ) : Decidable (Representable units) :=
  inferInstanceAs (Decidable (_ ∧ _))

inductive Binary64
  | nan
  | infinity (negative : Bool)
  | finite (negative : Bool) (units : ℕ) (representable : Representable units)
  deriving DecidableEq

namespace Binary64

def signed (negative : Bool) (units : ℕ) : ℤ := if negative then -units else units

def isFinite : Binary64 → Bool
  | .finite .. => true
  | _ => false

def lt : Binary64 → Binary64 → Bool
  | .nan, _ | _, .nan => false
  | .infinity s, .infinity t => s && !t
  | .infinity s, .finite .. => s
  | .finite .., .infinity t => !t
  | .finite s a _, .finite t b _ => decide (signed s a < signed t b)

def le : Binary64 → Binary64 → Bool
  | .nan, _ | _, .nan => false
  | .infinity s, .infinity t => s || !t
  | .infinity s, .finite .. => s
  | .finite .., .infinity t => !t
  | .finite s a _, .finite t b _ => decide (signed s a ≤ signed t b)

-- Round to 53 significant bits, ties to even.
def roundUnits (n : ℕ) : ℕ :=
  let k := Nat.log2 n - 52
  let q := n / 2 ^ k
  let r := n % 2 ^ k
  let up := if 2 * r < 2 ^ k then 0 else if 2 ^ k < 2 * r then 1 else q % 2
  (q + up) * 2 ^ k

def roundRatio (n d : ℕ) : ℕ :=
  let k := Nat.log2 (n / d) - 52
  let q := n / (d * 2 ^ k)
  let r := n % (d * 2 ^ k)
  let up := if 2 * r < d * 2 ^ k then 0 else if d * 2 ^ k < 2 * r then 1 else q % 2
  (q + up) * 2 ^ k

lemma significand_lt (n : ℕ) : n / 2 ^ (n.log2 - 52) < 2 ^ 53 := by
  have hn : n < 2 ^ (n.log2 + 1) := Nat.lt_log2_self
  have hk : 2 ^ (n.log2 + 1) ≤ 2 ^ 53 * 2 ^ (n.log2 - 52) := by
    rw [← Nat.pow_add]
    exact Nat.pow_le_pow_right (by omega) (by omega)
  exact Nat.div_lt_of_lt_mul (by rw [Nat.mul_comm]; omega)

lemma roundUnits_significant (n : ℕ) : ∃ k q, q ≤ 2 ^ 53 ∧ roundUnits n = q * 2 ^ k := by
  refine ⟨Nat.log2 n - 52, _, ?_, rfl⟩
  have hq := significand_lt n
  have hm : (n / 2 ^ (n.log2 - 52)) % 2 < 2 := Nat.mod_lt _ (by omega)
  split_ifs <;> omega

lemma roundRatio_significant (n d : ℕ) : ∃ k q, q ≤ 2 ^ 53 ∧ roundRatio n d = q * 2 ^ k := by
  refine ⟨Nat.log2 (n / d) - 52, _, ?_, rfl⟩
  have hq := significand_lt (n / d)
  rw [Nat.div_div_eq_div_mul] at hq
  have hm : (n / (d * 2 ^ ((n / d).log2 - 52))) % 2 < 2 := Nat.mod_lt _ (by omega)
  split_ifs <;> omega

lemma dvd_of_significant {q k : ℕ} (hq : q ≤ 2 ^ 53) :
    2 ^ (Nat.log2 (q * 2 ^ k) - 52) ∣ q * 2 ^ k := by
  rcases Nat.eq_zero_or_pos q with rfl | hpos
  · simp
  rcases Nat.eq_or_lt_of_le hq with rfl | hlt
  · rw [← Nat.pow_add, Nat.log2_two_pow]
    exact Nat.pow_dvd_pow _ (by omega)
  · have hne : q * 2 ^ k ≠ 0 := (Nat.mul_pos hpos (Nat.two_pow_pos k)).ne'
    have hlog : Nat.log2 (q * 2 ^ k) < 53 + k := by
      rw [Nat.log2_lt hne, Nat.pow_add]
      exact Nat.mul_lt_mul_of_pos_right hlt (Nat.two_pow_pos k)
    exact (Nat.pow_dvd_pow 2 (by omega)).trans (Nat.dvd_mul_left _ _)

def ofUnits (negative : Bool) (n : ℕ) : Binary64 :=
  if h : roundUnits n < 2 ^ 2098 then
    .finite negative (roundUnits n) ⟨h, by
      obtain ⟨k, q, hq, he⟩ := roundUnits_significant n
      rw [he]
      exact dvd_of_significant hq⟩
  else .infinity negative

def ofRatio (negative : Bool) (n d : ℕ) : Binary64 :=
  if h : roundRatio n d < 2 ^ 2098 then
    .finite negative (roundRatio n d) ⟨h, by
      obtain ⟨k, q, hq, he⟩ := roundRatio_significant n d
      rw [he]
      exact dvd_of_significant hq⟩
  else .infinity negative

def add : Binary64 → Binary64 → Binary64
  | .nan, _ | _, .nan => .nan
  | .infinity s, .infinity t => if s = t then .infinity s else .nan
  | .infinity s, .finite .. => .infinity s
  | .finite .., .infinity t => .infinity t
  | .finite s a _, .finite t b _ =>
    let sum := signed s a + signed t b
    ofUnits (if sum = 0 then s && t else decide (sum < 0)) sum.natAbs

def div : Binary64 → Binary64 → Binary64
  | .nan, _ | _, .nan => .nan
  | .infinity _, .infinity _ => .nan
  | .infinity s, .finite t _ _ => .infinity (s ^^ t)
  | .finite s _ _, .infinity t => ofUnits (s ^^ t) 0
  | .finite s a _, .finite t b _ =>
    if b = 0 then if a = 0 then .nan else .infinity (s ^^ t)
    else ofRatio (s ^^ t) (a * 2 ^ 1074) b

def mul : Binary64 → Binary64 → Binary64
  | .nan, _ | _, .nan => .nan
  | .infinity s, .infinity t => .infinity (s ^^ t)
  | .infinity s, .finite t b _ => if b = 0 then .nan else .infinity (s ^^ t)
  | .finite s a _, .infinity t => if a = 0 then .nan else .infinity (s ^^ t)
  | .finite s a _, .finite t b _ => ofRatio (s ^^ t) (a * b) (2 ^ 1074)

def zero : Binary64 := ofUnits false 0

def one : Binary64 := ofUnits false (2 ^ 1074)

def hundred : Binary64 := ofUnits false (100 * 2 ^ 1074)

end Binary64

end Melibea.Library
