import Melibea.Library.Binary64

/-! Rounding to binary64 keeps the order, and what can be represented. -/

namespace Melibea.Library.Binary64

lemma roundRatio_mul (n : ℕ) {d : ℕ} (hd : 0 < d) : roundRatio (n * d) d = roundUnits n := by
  have hq : ∀ k, n * d / (d * 2 ^ k) = n / 2 ^ k := fun k => by
    rw [Nat.mul_comm n d, Nat.mul_div_mul_left _ _ hd]
  have hr : ∀ k, n * d % (d * 2 ^ k) = d * (n % 2 ^ k) := fun k => by
    rw [Nat.mul_comm n d, Nat.mul_mod_mul_left]
  have hlt : ∀ a b, d * a < d * b ↔ a < b := fun a b => Nat.mul_lt_mul_left hd
  simp only [roundRatio, roundUnits, Nat.mul_div_cancel n hd, hq, hr, Nat.mul_left_comm 2 d, hlt]

lemma roundUnits_eq {n : ℕ} (h : Representable n) : roundUnits n = n := by
  obtain ⟨q, hq⟩ := h.2
  have hmod : n % 2 ^ (Nat.log2 n - 52) = 0 := Nat.mod_eq_zero_of_dvd h.2
  have hpos := Nat.two_pow_pos (Nat.log2 n - 52)
  simp only [roundUnits, hmod, Nat.mul_zero, if_pos hpos, Nat.add_zero]
  exact Nat.div_mul_cancel h.2

lemma roundUnits_le (n : ℕ) : roundUnits n ≤ 2 ^ 53 * 2 ^ (n.log2 - 52) := by
  have hq := significand_lt n
  have hm : (n / 2 ^ (n.log2 - 52)) % 2 < 2 := Nat.mod_lt _ (by omega)
  refine Nat.mul_le_mul_right _ ?_
  split_ifs <;> omega

lemma le_roundUnits {n : ℕ} (h : 52 < n.log2) : 2 ^ 52 * 2 ^ (n.log2 - 52) ≤ roundUnits n := by
  have hle : 2 ^ n.log2 ≤ n := Nat.log2_self_le (by rintro rfl; simp at h)
  have hpow : 2 ^ n.log2 = 2 ^ 52 * 2 ^ (n.log2 - 52) := by
    rw [← Nat.pow_add]
    congr 1
    omega
  have hq : 2 ^ 52 ≤ n / 2 ^ (n.log2 - 52) := by
    rw [Nat.le_div_iff_mul_le (Nat.two_pow_pos _), ← hpow]
    exact hle
  exact Nat.mul_le_mul_right _ (hq.trans (Nat.le_add_right _ _))

lemma roundUnits_mono {m n : ℕ} (h : m ≤ n) : roundUnits m ≤ roundUnits n := by
  have hlog : m.log2 ≤ n.log2 := by
    rw [Nat.log2_eq_log_two, Nat.log2_eq_log_two]
    exact Nat.log_mono_right h
  rcases Nat.lt_or_ge (m.log2 - 52) (n.log2 - 52) with hk | hk
  · calc roundUnits m ≤ 2 ^ 53 * 2 ^ (m.log2 - 52) := roundUnits_le m
      _ = 2 ^ 52 * 2 ^ (m.log2 - 52 + 1) := by rw [Nat.pow_succ']; omega
      _ ≤ 2 ^ 52 * 2 ^ (n.log2 - 52) :=
        Nat.mul_le_mul_left _ (Nat.pow_le_pow_right (by omega) hk)
      _ ≤ roundUnits n := le_roundUnits (by omega)
  · have hk : m.log2 - 52 = n.log2 - 52 := by omega
    rw [roundUnits, roundUnits, hk]
    refine Nat.mul_le_mul_right _ ?_
    have hdiv := Nat.div_le_div_right (c := 2 ^ (n.log2 - 52)) h
    rcases hdiv.eq_or_lt with hq | hq
    · have hm := Nat.div_add_mod m (2 ^ (n.log2 - 52))
      have hn := Nat.div_add_mod n (2 ^ (n.log2 - 52))
      rw [hq] at hm
      have hr : m % 2 ^ (n.log2 - 52) ≤ n % 2 ^ (n.log2 - 52) := by omega
      rw [hq]
      split_ifs <;> omega
    · have hone : (if 2 * (m % 2 ^ (n.log2 - 52)) < 2 ^ (n.log2 - 52) then 0 else
          if 2 ^ (n.log2 - 52) < 2 * (m % 2 ^ (n.log2 - 52)) then 1 else
            m / 2 ^ (n.log2 - 52) % 2) ≤ 1 := by
        split_ifs <;> omega
      omega

lemma ofRatio_mul (negative : Bool) (n : ℕ) {d : ℕ} (hd : 0 < d) :
    ofRatio negative (n * d) d = ofUnits negative n := by
  simp only [ofRatio, ofUnits, roundRatio_mul n hd]

lemma representable_shift {q k : ℕ} (hq : q ≤ 2 ^ 53) (hk : k < 2045) :
    Representable (q * 2 ^ k) := by
  refine ⟨?_, dvd_of_significant hq⟩
  have hpow : 2 ^ 53 * 2 ^ k = 2 ^ (53 + k) := (Nat.pow_add 2 53 k).symm
  have hexponent : 53 + k < 2098 := by omega
  exact (hpow ▸ Nat.mul_le_mul_right _ hq).trans_lt (pow_lt_pow_right₀ one_lt_two hexponent)

lemma lt_finite {m n : ℕ} {hm : Representable m} {hn : Representable n} :
    (finite false m hm).lt (finite false n hn) = true ↔ m < n := by
  simp [lt, signed]

lemma le_finite {m n : ℕ} {hm : Representable m} {hn : Representable n} :
    (finite false m hm).le (finite false n hn) = true ↔ m ≤ n := by
  simp [le, signed]

lemma not_lt_negative {m n : ℕ} {hm : Representable m} {hn : Representable n} :
    ¬ (finite false m hm).lt (finite true n hn) = true := by
  simp only [lt, signed, Bool.false_eq_true, if_false, if_true, decide_eq_true_eq]
  omega

lemma ofUnits_eq (negative : Bool) {n : ℕ} (h : Representable n) :
    ofUnits negative n = .finite negative n h := by
  have hround := roundUnits_eq h
  rw [ofUnits, dif_pos (hround.symm ▸ h.1)]
  simp only [hround]

end Melibea.Library.Binary64
