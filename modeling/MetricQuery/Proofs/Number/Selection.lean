import Mathlib.Algebra.Order.Field.Power
import Mathlib.Data.Int.Log
import Mathlib.Data.Rat.Cast.Order
import Mathlib.Data.Rat.Floor
import Mathlib.Tactic.NormNum
import Mathlib.Tactic.Positivity
import Mathlib.Tactic.Ring
import MetricQuery.Proofs.Number.Numeral
import MetricQuery.Proofs.Number.Rounding

/-!
# Significant digits

A number inside an expression has at most six digits.  Of a whole number up to `2 ^ 53` the text
denotes the number rounded to six digits, which is the number itself only if nothing but zeros stand
behind its first six digits.

## Main definitions

* `roundedTo` : a whole number rounded to a count of significant digits.

## Main results

* `Binary64.decimalScale_eq` : the scale of a whole number is its count of digits.
* `roundedTo_eq_self_iff` : the numbers that rounding keeps.
* `roundedTo_near` : how far rounding moves a number.
* `Binary64.exists_readBinary64?_toString` : a written whole number is read without loss.
* `Binary64.spells_brief` : what the text of a whole number inside an expression denotes.
-/

namespace MetricQuery

theorem Decimal.value_strip (fuel : Nat) (d : Decimal) : (d.strip fuel).value = d.value := by
  induction fuel generalizing d with
  | zero => rfl
  | succ fuel ih =>
      rw [strip]
      split
      case isTrue hzero =>
        obtain ⟨n, hn⟩ := Nat.dvd_of_mod_eq_zero hzero.2
        rw [ih, value, value, hn, Nat.mul_div_cancel_left n (by decide), zpow_add₀ (by norm_num)]
        push_cast
        ring
      case isFalse => rfl

namespace Binary64

/-! ### Exact comparison -/

theorem cast_pow_toNat (base : Nat) (hbase : 0 < base) (power : Int) :
    ((base ^ power.toNat : Nat) : ℚ) = (base : ℚ) ^ power * (base ^ (-power).toNat : Nat) := by
  have hbase : (base : ℚ) ≠ 0 := by positivity
  push_cast
  rw [← zpow_natCast, ← zpow_natCast, ← zpow_add₀ hbase]
  congr 1
  omega

theorem compareDecimal_eq_gt_iff (d : Decimal) (count : Nat) (exponent : Int) :
    compareDecimal d count exponent = .gt ↔ (count * 2 ^ exponent : ℚ) < d.value := by
  have hdigits := cast_pow_toNat 10 (by decide) d.exponent
  have hcount := cast_pow_toNat 2 (by decide) exponent
  set tens := 10 ^ (-d.exponent).toNat with htens
  set twos := 2 ^ (-exponent).toNat with htwos
  have hscale : (0 : ℚ) < tens * twos := by positivity
  have hleft : ((d.digits * 10 ^ d.exponent.toNat * twos : Nat) : ℚ) =
      d.value * (tens * twos) := by
    rw [Nat.cast_mul, Nat.cast_mul, hdigits, Decimal.value]
    push_cast
    ring
  have hright : ((count * 2 ^ exponent.toNat * tens : Nat) : ℚ) =
      count * 2 ^ exponent * (tens * twos) := by
    rw [Nat.cast_mul, Nat.cast_mul, hcount]
    push_cast
    ring
  rw [compareDecimal, compare_gt_iff_gt]
  change count * 2 ^ exponent.toNat * tens < d.digits * 10 ^ d.exponent.toNat * twos ↔ _
  rw [← Nat.cast_lt (α := ℚ), hleft, hright, mul_lt_mul_iff_left₀ hscale]

theorem onGrid_den_pos (mantissa : Nat) (exponent power : Int) :
    0 < (onGrid mantissa exponent power).2 :=
  Nat.mul_pos (unscale_den_pos _ _ _ _ (by decide) (by decide)) (Nat.two_pow_pos _)

theorem value_onGrid (mantissa : Nat) (exponent power : Int) :
    ((onGrid mantissa exponent power).1 : ℚ) / (onGrid mantissa exponent power).2 =
      mantissa * 2 ^ exponent / 10 ^ power := by
  have hscaled := value_unscale 10 mantissa 1 power (by decide)
  have htwos := cast_pow_toNat 2 (by decide) exponent
  have hpos : (0 : ℚ) < ((2 ^ (-exponent).toNat : Nat) : ℚ) := by positivity
  change (((unscale 10 mantissa 1 power).1 * 2 ^ exponent.toNat : Nat) : ℚ) /
    ((unscale 10 mantissa 1 power).2 * 2 ^ (-exponent).toNat : Nat) = _
  rw [Nat.cast_mul, htwos, Nat.cast_mul, ← mul_assoc, mul_div_mul_right _ _ hpos.ne',
    mul_div_right_comm, hscaled]
  push_cast
  ring

/-! ### The number of digits -/

variable {mantissa : Nat} {exponent : Int}

/-- The binary digits of a number are those of its mantissa and the exponent. -/
theorem log_value (hmantissa : mantissa ≠ 0) :
    Int.log 2 (mantissa * 2 ^ exponent : ℚ) = exponent + mantissa.log2 := by
  have hvalue : (0 : ℚ) < mantissa * 2 ^ exponent := by
    have hpos : 0 < mantissa := Nat.pos_of_ne_zero hmantissa
    positivity
  have hpower (k : Nat) :
      ((2 : Nat) : ℚ) ^ (exponent + k) = ((2 ^ k : Nat) : ℚ) * 2 ^ exponent := by
    push_cast
    rw [add_comm, zpow_add₀ (by norm_num), zpow_natCast]
  have hle : exponent + mantissa.log2 ≤ Int.log 2 (mantissa * 2 ^ exponent : ℚ) := by
    rw [← Int.zpow_le_iff_le_log (by decide) hvalue, hpower]
    gcongr
    exact Nat.log2_self_le hmantissa
  have hlt : Int.log 2 (mantissa * 2 ^ exponent : ℚ) < exponent + (mantissa.log2 + 1 : Nat) := by
    rw [← Int.lt_zpow_iff_log_lt (by decide) hvalue, hpower]
    gcongr
    exact Nat.lt_log2_self
  omega

theorem estimate_bounds :
    ∀ log < 54, 10 ^ (log * 30103 / 100000) ≤ 10 * 2 ^ log ∧
      2 ^ (log + 1) ≤ 10 ^ (log * 30103 / 100000 + 2) := by
  decide

/-- The estimate that is made from the binary digits is not above the count of decimal digits and at
most two below it. -/
theorem log_mem_estimate {n : Nat} (hn : n ≠ 0) (hle : n ≤ 2 ^ 53) :
    Nat.log 2 n * 30103 / 100000 ≤ Nat.log 10 n + 1 ∧
      Nat.log 10 n < Nat.log 2 n * 30103 / 100000 + 2 := by
  have hrange : Nat.log 2 n < 54 := Nat.log_lt_of_lt_pow hn (by omega)
  obtain ⟨hlow, hhigh⟩ := estimate_bounds _ hrange
  constructor
  · have hbinary : 2 ^ Nat.log 2 n ≤ n := Nat.pow_log_le_self 2 hn
    rw [← Nat.log_mul_base (by decide) hn]
    exact Nat.le_log_of_pow_le (by decide) (by omega)
  · exact Nat.log_lt_of_lt_pow hn ((Nat.lt_pow_succ_log_self (by decide) n).trans_le hhigh)

/-- A power of ten is above a whole number if it has more digits. -/
theorem compareDecimal_power {n : Nat} (hn : n ≠ 0) (hvalue : (mantissa * 2 ^ exponent : ℚ) = n)
    (k : Nat) : (compareDecimal ⟨1, k⟩ mantissa exponent == .gt) = decide (Nat.log 10 n < k) := by
  have hten : (⟨1, k⟩ : Decimal).value = ((10 ^ k : Nat) : ℚ) := by simp [Decimal.value]
  rw [Bool.eq_iff_iff, beq_iff_eq, compareDecimal_eq_gt_iff, hvalue, decide_eq_true_iff, hten,
    Nat.cast_lt, Nat.log_lt_iff_lt_pow (by decide) hn]

/-- The scale of a whole number is its count of decimal digits. -/
theorem decimalScale_eq {n : Nat} (hn : n ≠ 0) (hle : n ≤ 2 ^ 53)
    (hvalue : (mantissa * 2 ^ exponent : ℚ) = n) :
    decimalScale mantissa exponent = Nat.log 10 n + 1 := by
  have hmantissa : mantissa ≠ 0 := by
    rintro rfl
    simp [eq_comm, hn] at hvalue
  have hlog : exponent + mantissa.log2 = Nat.log 2 n := by
    rw [← log_value hmantissa, hvalue, Int.log_natCast]
  obtain ⟨hleast, hgreatest⟩ := log_mem_estimate hn hle
  set estimate := Nat.log 2 n * 30103 / 100000 with hestimate
  have hscale : (exponent + mantissa.log2) * 30103 / 100000 = (estimate : Int) := by
    rw [hlog]
    norm_cast
  have hfirst := compareDecimal_power hn hvalue estimate
  have hsecond := compareDecimal_power hn hvalue (estimate + 1)
  push_cast at hsecond
  simp only [decimalScale, hscale, List.find?_cons, List.find?_nil, hfirst, hsecond]
  by_cases hle : Nat.log 10 n < estimate
  · simp only [hle, decide_true, Option.getD_some]
    omega
  · by_cases heq : Nat.log 10 n < estimate + 1
    · simp only [hle, heq, decide_true, decide_false, Option.getD_some]
      omega
    · simp only [hle, heq, decide_false, Option.getD_none]
      omega

end Binary64

/-! ### Rounded whole numbers -/

/-- The magnitude of a whole number, rounded to a count of significant digits. -/
def keepDigits (count n : Nat) : Nat :=
  let unit := 10 ^ (Nat.log 10 n + 1 - count)
  Binary64.roundRatio n unit * unit

/-- A whole number rounded to a count of significant digits, ties to the even one. -/
def roundedTo (count : Nat) (n : Int) : Int :=
  n.sign * keepDigits count n.natAbs

theorem keepDigits_zero (count : Nat) : keepDigits count 0 = 0 := by
  have hunit : 0 < 10 ^ (1 - count) := by positivity
  have hround := Binary64.roundRatio_mul_self 0 hunit
  rw [Nat.zero_mul] at hround
  simp [keepDigits, hround]

/-- Rounding keeps the magnitudes that have digits beyond the count only as zeros at their end. -/
theorem keepDigits_eq_self_iff {count n : Nat} :
    keepDigits count n = n ↔ ∃ m k, m < 10 ^ count ∧ n = m * 10 ^ k := by
  constructor
  · intro h
    rcases Nat.eq_zero_or_pos n with rfl | hpos
    · exact ⟨0, 0, by positivity, by simp⟩
    refine ⟨_, _, ?_, h.symm⟩
    set power := Nat.log 10 n + 1 - count with hpower
    have hlt : Binary64.roundRatio n (10 ^ power) * 10 ^ power < 10 ^ count * 10 ^ power := by
      calc Binary64.roundRatio n (10 ^ power) * 10 ^ power = n := h
        _ < 10 ^ (Nat.log 10 n + 1) := Nat.lt_pow_succ_log_self (by decide) n
        _ ≤ 10 ^ (count + power) := Nat.pow_le_pow_right (by decide) (by omega)
        _ = 10 ^ count * 10 ^ power := pow_add 10 count power
    exact Nat.lt_of_mul_lt_mul_right hlt
  · rintro ⟨m, k, hm, rfl⟩
    rcases Nat.eq_zero_or_pos m with rfl | hpos
    · rw [Nat.zero_mul, keepDigits_zero]
    have hlog : Nat.log 10 (m * 10 ^ k) < count + k := by
      apply Nat.log_lt_of_lt_pow (by positivity)
      rw [pow_add]
      exact Nat.mul_lt_mul_of_pos_right hm (by positivity)
    obtain ⟨j, hj⟩ : ∃ j, k = j + (Nat.log 10 (m * 10 ^ k) + 1 - count) :=
      Nat.exists_eq_add_of_le' (by omega)
    set power := Nat.log 10 (m * 10 ^ k) + 1 - count with hpower
    have hmultiple : m * 10 ^ k = m * 10 ^ j * 10 ^ power := by rw [mul_assoc, ← pow_add, ← hj]
    rw [keepDigits, ← hpower, hmultiple, Binary64.roundRatio_mul_self _ (by positivity)]

/-- Rounding moves a magnitude by at most one half of a unit in the last digit that it keeps, which
is no more than one part in `2 * 10 ^ count` if one digit more than `count` is kept. -/
theorem keepDigits_near (count n : Nat) :
    2 * 10 ^ count * keepDigits (count + 1) n ≤ 2 * 10 ^ count * n + n ∧
      2 * 10 ^ count * n ≤ 2 * 10 ^ count * keepDigits (count + 1) n + n := by
  rcases Nat.lt_or_ge (Nat.log 10 n) (count + 1) with hshort | hlong
  · have hkept : keepDigits (count + 1) n = n :=
      keepDigits_eq_self_iff.2
        ⟨n, 0, Nat.lt_pow_of_log_lt (by decide) hshort, by simp⟩
    rw [hkept]
    omega
  · have hn : n ≠ 0 := by
      rintro rfl
      simp at hlong
    set unit := 10 ^ (Nat.log 10 n + 1 - (count + 1)) with hunit
    obtain ⟨hlow, hhigh⟩ := Binary64.roundRatio_nearest n unit (by positivity)
    have hscale : 10 ^ count * unit ≤ n := by
      calc 10 ^ count * unit = 10 ^ Nat.log 10 n := by
            rw [hunit, ← pow_add]
            congr 1
            omega
        _ ≤ n := Nat.pow_log_le_self 10 hn
    have hkept : keepDigits (count + 1) n = Binary64.roundRatio n unit * unit := rfl
    rw [hkept]
    constructor
    · calc 2 * 10 ^ count * (Binary64.roundRatio n unit * unit)
          = 10 ^ count * (2 * (Binary64.roundRatio n unit * unit)) := by ring
        _ ≤ 10 ^ count * (2 * n + unit) := Nat.mul_le_mul_left _ hhigh
        _ = 2 * 10 ^ count * n + 10 ^ count * unit := by ring
        _ ≤ 2 * 10 ^ count * n + n := Nat.add_le_add_left hscale _
    · calc 2 * 10 ^ count * n
          = 10 ^ count * (2 * n) := by ring
        _ ≤ 10 ^ count * (2 * (Binary64.roundRatio n unit * unit) + unit) :=
          Nat.mul_le_mul_left _ hlow
        _ = 2 * 10 ^ count * (Binary64.roundRatio n unit * unit) + 10 ^ count * unit := by ring
        _ ≤ 2 * 10 ^ count * (Binary64.roundRatio n unit * unit) + n :=
          Nat.add_le_add_left hscale _

theorem roundedTo_of_nonneg (count : Nat) {n : Int} (hn : 0 ≤ n) :
    roundedTo count n = keepDigits count n.natAbs := by
  rcases hn.eq_or_lt with rfl | hpos
  · simp [roundedTo, keepDigits_zero]
  · simp [roundedTo, Int.sign_eq_one_of_pos hpos]

theorem roundedTo_of_nonpos (count : Nat) {n : Int} (hn : n ≤ 0) :
    roundedTo count n = -(keepDigits count n.natAbs : Int) := by
  rcases hn.eq_or_lt with rfl | hneg
  · simp [roundedTo, keepDigits_zero]
  · simp [roundedTo, Int.sign_eq_neg_one_of_neg hneg]

theorem roundedTo_eq_iff {count : Nat} {n : Int} :
    roundedTo count n = n ↔ keepDigits count n.natAbs = n.natAbs := by
  rcases le_total 0 n with hn | hn
  · rw [roundedTo_of_nonneg count hn]
    omega
  · rw [roundedTo_of_nonpos count hn]
    omega

/-- Rounding keeps the numbers that have digits beyond the count only as zeros at their end. -/
theorem roundedTo_eq_self_iff {count : Nat} {n : Int} :
    roundedTo count n = n ↔ ∃ (m : Int) (k : Nat), m.natAbs < 10 ^ count ∧ n = m * 10 ^ k := by
  rw [roundedTo_eq_iff, keepDigits_eq_self_iff]
  constructor
  · rintro ⟨m, k, hm, hn⟩
    rcases le_total 0 n with hpos | hneg
    · refine ⟨m, k, by simpa using hm, ?_⟩
      rw [← Int.natAbs_of_nonneg hpos, hn]
      push_cast
      rfl
    · refine ⟨-m, k, by simpa using hm, ?_⟩
      rw [← neg_neg n, ← Int.ofNat_natAbs_of_nonpos hneg, hn]
      push_cast
      ring
  · rintro ⟨m, k, hm, rfl⟩
    exact ⟨m.natAbs, k, hm, by simp [Int.natAbs_mul, Int.natAbs_pow]⟩

/-- Rounding to one digit more than `count` changes a number by at most one part in
`2 * 10 ^ count`. -/
theorem roundedTo_near (count : Nat) (n : Int) :
    2 * 10 ^ count * |roundedTo (count + 1) n - n| ≤ |n| := by
  obtain ⟨hhigh, hlow⟩ := keepDigits_near count n.natAbs
  have hdistance : |roundedTo (count + 1) n - n| =
      |(keepDigits (count + 1) n.natAbs : Int) - n.natAbs| := by
    rcases le_total 0 n with hn | hn
    · rw [roundedTo_of_nonneg _ hn, Int.natAbs_of_nonneg hn]
    · rw [roundedTo_of_nonpos _ hn, Int.ofNat_natAbs_of_nonpos hn, ← abs_neg]
      congr 1
      ring
  have hscale : (0 : Int) < 2 * 10 ^ count := by positivity
  rw [hdistance, ← abs_of_pos hscale, ← abs_mul, abs_le, mul_sub, Int.natCast_natAbs]
  zify at hlow hhigh
  constructor <;> linarith

namespace Binary64

/-- On the grid of a power of ten a whole number is rounded to its digits from that power on; below
one the grid holds the number itself. -/
theorem value_roundRatio {n num den : Nat} {power : Int} (hden : 0 < den)
    (hvalue : (num / den : ℚ) = n / 10 ^ power) :
    (⟨roundRatio num den, power⟩ : Decimal).value =
      (roundRatio n (10 ^ power.toNat) * 10 ^ power.toNat : Nat) := by
  have hden' : (den : ℚ) ≠ 0 := by positivity
  rcases le_total 0 power with hpower | hpower
  · obtain ⟨k, rfl⟩ := Int.eq_ofNat_of_zero_le hpower
    have hround : roundRatio num den = roundRatio n (10 ^ k) := by
      apply roundRatio_congr hden (by positivity)
      rw [zpow_natCast, div_eq_div_iff hden' (by positivity)] at hvalue
      exact_mod_cast hvalue
    simp [Decimal.value, hround]
  · obtain ⟨k, hk⟩ := Int.eq_ofNat_of_zero_le (a := -power) (by omega)
    obtain rfl : power = -(k : Int) := by omega
    have hnum : num = n * 10 ^ k * den := by
      rw [zpow_neg, zpow_natCast, div_inv_eq_mul, div_eq_iff hden'] at hvalue
      exact_mod_cast hvalue
    simp [Decimal.value, hnum, roundRatio_mul_self _ hden, roundRatio_one]

/-- A whole number is rounded to the count of digits. -/
theorem value_significant (count : Nat) {mantissa : Nat} {exponent : Int} {n : Nat}
    (hle : n ≤ 2 ^ 53) (hvalue : (mantissa * 2 ^ exponent : ℚ) = n) :
    (significant count mantissa exponent).value = keepDigits count n := by
  by_cases hmantissa : mantissa = 0
  · obtain rfl : n = 0 := by
      rw [hmantissa] at hvalue
      simpa [eq_comm] using hvalue
    simp [significant, hmantissa, Decimal.value, keepDigits_zero]
  have hn : n ≠ 0 := by
    rintro rfl
    have hpower : (2 : ℚ) ^ exponent ≠ 0 := by positivity
    simp [hmantissa, hpower] at hvalue
  have hgrid := value_onGrid mantissa exponent (Nat.log 10 n + 1 - count)
  have hpower : ((Nat.log 10 n : Int) + 1 - count).toNat = Nat.log 10 n + 1 - count := by omega
  rw [hvalue] at hgrid
  simp only [significant, hmantissa, if_false, decimalScale_eq hn hle hvalue, Decimal.value_strip]
  rw [value_roundRatio (onGrid_den_pos _ _ _) hgrid, hpower, keepDigits]

/-! ### Whole numbers as binary numbers -/

/-- A written whole number is read without loss. -/
theorem exists_readBinary64?_toString {n : Int} (hn : n.natAbs ≤ 2 ^ 53) :
    ∃ x, Literal.readBinary64? (toString n).toList = some x ∧ x.value? = some (n : ℚ) := by
  refine ⟨_, Literal.readBinary64?_toString n, ?_⟩
  rw [value?_ofDecimal _ hn, Option.some.injEq, Nat.cast_natAbs, Int.cast_abs]
  rcases lt_or_ge n 0 with hneg | hnonneg
  · have hcast : (n : ℚ) < 0 := by exact_mod_cast hneg
    simp [hneg, abs_of_neg hcast]
  · have hcast : (0 : ℚ) ≤ n := by exact_mod_cast hnonneg
    simp [not_lt.2 hnonneg, abs_of_nonneg hcast]

/-- The text of a whole number inside an expression denotes the number rounded to six digits. -/
theorem spells_brief {x : Binary64} {n : Int} (hx : x.value? = some (n : ℚ))
    (hn : n.natAbs ≤ 2 ^ 53) : Literal.Spells (String.ofList x.brief) (roundedTo 6 n) := by
  rw [Literal.Spells, String.toList_ofList]
  obtain _ | _ | ⟨negative, mantissa, exponent⟩ := x
  · simp [value?] at hx
  · simp [value?] at hx
  rw [value?_finite, Option.some.injEq] at hx
  have hnonneg : (0 : ℚ) ≤ mantissa * 2 ^ exponent := by positivity
  have hmagnitude : (mantissa * 2 ^ exponent : ℚ) = n.natAbs := by
    rw [Nat.cast_natAbs, Int.cast_abs, ← hx]
    cases negative <;> simp [abs_of_nonneg hnonneg]
  obtain ⟨d, hread, hvalue⟩ := briefLayout.value_render (significant 6 mantissa exponent)
  rw [value_significant 6 hn hmagnitude] at hvalue
  cases negative with
  | false =>
      have hsign : 0 ≤ n := by
        have hcast : (0 : ℚ) ≤ n := hx ▸ hnonneg
        exact_mod_cast hcast
      have htext : (finite false mantissa exponent).brief =
          briefLayout.render (significant 6 mantissa exponent) := rfl
      simp [Literal.exactValue?, htext, Literal.splitSign_of_decimal? hread, hread, hvalue,
        roundedTo_of_nonneg 6 hsign]
  | true =>
      have hsign : n ≤ 0 := by
        have hcast : (n : ℚ) ≤ 0 := by
          rw [← hx, if_pos rfl]
          exact neg_nonpos.2 hnonneg
        exact_mod_cast hcast
      have htext : (finite true mantissa exponent).brief =
          '-' :: briefLayout.render (significant 6 mantissa exponent) := rfl
      simp [Literal.exactValue?, htext, Literal.splitSign, hread, hvalue,
        roundedTo_of_nonpos 6 hsign]

end Binary64

end MetricQuery
