import Mathlib.Algebra.Order.Field.Rat
import Mathlib.Data.Nat.Log
import Mathlib.Tactic.NormNum
import Mathlib.Tactic.Ring
import MetricQuery.Number.Binary64

/-!
# Rounding

The integer nearest to a fraction depends on the value of the fraction only, and lies within one
half of it.  A whole number up to `2 ^ 53` is kept as it is.

## Main results

* `Binary64.roundRatio_congr` : equal fractions round alike.
* `Binary64.roundRatio_nearest` : the distance of a fraction from its rounded value.
* `Binary64.value?_ofDecimal` : a whole number up to `2 ^ 53` is kept.
-/

namespace MetricQuery.Binary64

/-! ### The nearest integer -/

theorem roundRatio_mul_self (n : Nat) {den : Nat} (hden : 0 < den) :
    roundRatio (n * den) den = n := by
  have hlt : compare (2 * 0) den = .lt := compare_lt_iff_lt.2 (by omega)
  simp only [roundRatio, Nat.mul_mod_left, hlt, Nat.mul_div_cancel n hden]

theorem roundRatio_one (n : Nat) : roundRatio n 1 = n := by
  simpa using roundRatio_mul_self n one_pos

theorem roundRatio_mul_right (num den : Nat) {c : Nat} (hc : 0 < c) :
    roundRatio (num * c) (den * c) = roundRatio num den := by
  have hcompare : compare (2 * (num % den * c)) (den * c) = compare (2 * (num % den)) den := by
    simp only [← Nat.mul_assoc, Nat.compare_eq_ite_lt, Nat.mul_lt_mul_right hc]
  simp only [roundRatio, Nat.mul_div_mul_right _ _ hc, Nat.mul_mod_mul_right, hcompare]

/-- Equal fractions round alike. -/
theorem roundRatio_congr {num den num' den' : Nat} (hden : 0 < den) (hden' : 0 < den')
    (h : num * den' = num' * den) : roundRatio num den = roundRatio num' den' := by
  rw [← roundRatio_mul_right num den hden', ← roundRatio_mul_right num' den' hden, h,
    Nat.mul_comm den]

/-- A fraction is at most one half away from its rounded value. -/
theorem roundRatio_nearest (num den : Nat) (hden : 0 < den) :
    2 * num ≤ 2 * (roundRatio num den * den) + den ∧
      2 * (roundRatio num den * den) ≤ 2 * num + den := by
  have hdivision := Nat.div_add_mod' num den
  have hmod := Nat.mod_lt num hden
  have hnext : (num / den + 1) * den = num / den * den + den := Nat.succ_mul _ _
  simp only [roundRatio]
  split
  case h_1 hlt =>
    have hlt := compare_lt_iff_lt.1 hlt
    omega
  case h_2 hgt =>
    have hgt := compare_gt_iff_gt.1 hgt
    omega
  case h_3 heq =>
    have heq := compare_eq_iff_eq.1 heq
    split <;> omega

/-! ### Scaled fractions -/

theorem unscale_den_pos (base num den : Nat) (power : Int) (hbase : 0 < base) (hden : 0 < den) :
    0 < (unscale base num den power).2 := by
  rw [unscale]
  split
  · exact Nat.mul_pos hden (Nat.pow_pos hbase)
  · exact hden

theorem value_unscale (base num den : Nat) (power : Int) (hbase : 0 < base) :
    ((unscale base num den power).1 : ℚ) / (unscale base num den power).2 =
      num / den / (base : ℚ) ^ power := by
  have hbase : (base : ℚ) ≠ 0 := by positivity
  rw [unscale]
  split
  case isTrue hpower =>
    obtain ⟨k, rfl⟩ := Int.eq_ofNat_of_zero_le hpower
    simp [div_div]
  case isFalse hpower =>
    obtain ⟨k, hk⟩ := Int.eq_ofNat_of_zero_le (a := -power) (by omega)
    obtain rfl : power = -(k : Int) := by omega
    simp
    ring

/-! ### Exact values -/

theorem value?_finite (negative : Bool) (mantissa : Nat) (exponent : Int) :
    (finite negative mantissa exponent).value? =
      some (if negative then -(mantissa * 2 ^ exponent : ℚ) else mantissa * 2 ^ exponent) := by
  have hmagnitude : (if 0 ≤ exponent then mkRat (mantissa * Nat.pow 2 exponent.toNat : Nat) 1
      else mkRat mantissa (Nat.pow 2 (-exponent).toNat)) = (mantissa * 2 ^ exponent : ℚ) := by
    split
    case isTrue hexponent =>
      obtain ⟨k, rfl⟩ := Int.eq_ofNat_of_zero_le hexponent
      simp [Rat.mkRat_eq_div]
    case isFalse hexponent =>
      obtain ⟨k, hk⟩ := Int.eq_ofNat_of_zero_le (a := -exponent) (by omega)
      obtain rfl : exponent = -(k : Int) := by omega
      simp [Rat.mkRat_eq_div]
      ring
  simp only [value?, hmagnitude]

theorem floorLog2_one {n : Nat} (hn : n ≠ 0) : floorLog2 n 1 = n.log2 := by
  have hle : 2 ^ n.log2 ≤ n := Nat.log2_self_le hn
  have hone : Nat.log2 1 = 0 := rfl
  simp [floorLog2, unscale, hone, hle]

theorem unscale_neg (base num den power : Nat) :
    unscale base num den (-power) = (num * base ^ power, den) := by
  rcases Nat.eq_zero_or_pos power with rfl | hpower
  · simp [unscale]
  · rw [unscale, if_neg (by omega), neg_neg, Int.toNat_natCast]
    rfl

/-- A whole number of at most 53 binary digits, the mantissa with all of them. -/
theorem ofRatio_of_lt (negative : Bool) {n k : Nat} (hn : n ≠ 0) (hk : n.log2 + k = 52) :
    ofRatio negative n 1 = finite negative (n * 2 ^ k) (-k) := by
  have hexponent : max (floorLog2 n 1 - 52) (-1074) = -(k : Int) := by
    rw [floorLog2_one hn]
    omega
  have hmantissa : n * 2 ^ k ≠ Nat.pow 2 53 := by
    have hlt : n * 2 ^ k < 2 ^ (n.log2 + 1) * 2 ^ k :=
      Nat.mul_lt_mul_of_pos_right Nat.lt_log2_self (by positivity)
    rw [← pow_add, show n.log2 + 1 + k = 53 by omega] at hlt
    exact hlt.ne
  simp only [ofRatio, hn, hexponent, unscale_neg, roundRatio_one, hmantissa, if_false]
  rw [if_neg (by omega)]

theorem value?_ofRatio (negative : Bool) {n : Nat} (hn : n ≤ 2 ^ 53) :
    (ofRatio negative n 1).value? = some (if negative then -(n : ℚ) else n) := by
  by_cases hzero : n = 0
  · simp [hzero, ofRatio, zero, value?_finite]
  rcases hn.lt_or_eq with hlt | rfl
  · have hlog : n.log2 < 53 := (Nat.log2_lt hzero).2 hlt
    obtain ⟨k, hk⟩ : ∃ k, n.log2 + k = 52 := ⟨52 - n.log2, by omega⟩
    rw [ofRatio_of_lt negative hzero hk, value?_finite]
    simp
  · have hround : ofRatio negative (2 ^ 53) 1 = finite negative (2 ^ 52) 1 := by
      cases negative <;> decide +kernel
    rw [hround, value?_finite]
    norm_num

/-- A whole number of up to 53 binary digits is kept. -/
theorem value?_ofDecimal (negative : Bool) {n : Nat} (hn : n ≤ 2 ^ 53) :
    (ofDecimal negative n 0).value? = some (if negative then -(n : ℚ) else n) := by
  have hlength : (Nat.toDigits 10 n).length ≤ 16 :=
    (Nat.length_toDigits_le_iff (by decide) (by decide)).2 (by omega)
  by_cases hzero : n = 0
  · simp [hzero, ofDecimal, zero, value?_finite]
  · have hnear : ¬(n = 0 ∨ ((Nat.toDigits 10 n).length : Int) + 0 < -400) := by omega
    have hfar : ¬400 < ((Nat.toDigits 10 n).length : Int) + 0 := by omega
    have hone : n * Nat.pow 10 (0 : Int).toNat = n := by simp
    simp only [ofDecimal, hnear, hfar, if_false, le_refl, if_true, hone]
    exact value?_ofRatio negative hn

end MetricQuery.Binary64
