import Mathlib.Data.Rat.Defs
import Mathlib.Algebra.Field.Rat
import Mathlib.Data.List.TakeDrop
import Mathlib.Tactic.NormNum
import Mathlib.Tactic.Ring
import MetricQuery.Number.Layout
import MetricQuery.Number.Literal

/-!
# Numerals

A text that spells a decimal fraction denotes an exact number, which the program rounds to a binary
one when it reads the text.  Written decimals are read back: the text of a decimal, positional or
with an exponent, denotes the value of the decimal.

## Main definitions

* `Decimal.value` : the exact value of a decimal.
* `Literal.decimal?`, `Literal.exactValue?` : what a text without a sign, or with one, denotes.
* `Literal.Spells` : whether a text denotes a number.

## Main results

* `Literal.readDecimal?_eq` : reading is rounding what a text denotes.
* `Literal.readBinary64?_toString` : a written integer is read as the number nearest to it.
* `Layout.value_render` : the text of a decimal denotes the value of the decimal.
-/

namespace MetricQuery

/-- The exact value of a decimal. -/
def Decimal.value (d : Decimal) : ℚ :=
  d.digits * 10 ^ d.exponent

theorem Decimal.mk_digits {d : Decimal} {exponent : Int} (h : exponent = d.exponent) :
    ⟨d.digits, exponent⟩ = d := by
  rw [h]

namespace Literal

open Text

/-- The digits behind a point, if there is one, and what follows them. -/
def splitFraction : List Char → List Char × List Char
  | '.' :: rest => rest.span isAsciiDigit
  | rest => ([], rest)

/-- The decimal that a text without a sign spells: digits before or after the point, and an optional
exponent. -/
def decimal? (s : List Char) : Option Decimal :=
  let (whole, behind) := s.span isAsciiDigit
  let (fraction, rest) := splitFraction behind
  if whole.isEmpty && fraction.isEmpty then none
  else
    (readExponent? rest).map fun exponent =>
      ⟨digitsValue (whole ++ fraction), exponent - fraction.length⟩

/-- The exact number that a text spells, with an optional sign. -/
def exactValue? (s : List Char) : Option ℚ :=
  let (negative, body) := splitSign s
  (decimal? body).map fun d => if negative then -d.value else d.value

/-- A text spells a number exactly. -/
def Spells (numeral : String) (q : ℚ) : Prop :=
  exactValue? numeral.toList = some q

instance (numeral : String) (q : ℚ) : Decidable (Spells numeral q) :=
  inferInstanceAs (Decidable (_ = _))

/-- The reader of binary numbers rounds the decimal that a text spells. -/
theorem readDecimal?_eq (negative : Bool) (s : List Char) :
    readDecimal? negative s =
      (decimal? s).map fun d => Binary64.ofDecimal negative d.digits d.exponent := by
  simp only [readDecimal?, decimal?, List.span_eq_takeWhile_dropWhile]
  generalize s.takeWhile isAsciiDigit = whole
  generalize s.dropWhile isAsciiDigit = behind
  fun_cases splitFraction behind <;>
    simp only [List.span_eq_takeWhile_dropWhile, apply_ite (Option.map _), Option.map_none,
      Option.map_map, Function.comp_def]

/-! ### Rows of digits -/

theorem digitsValue_eq (row : List Char) : digitsValue row = Nat.ofDigitChars 10 row 0 := rfl

theorem digitsValue_toDigits (n : Nat) : digitsValue (Nat.toDigits 10 n) = n :=
  Nat.ofDigitChars_ten_toDigits

theorem digitsValue_append (row row' : List Char) :
    digitsValue (row ++ row') = digitsValue row * 10 ^ row'.length + digitsValue row' := by
  simp only [digitsValue_eq, Nat.ofDigitChars_append]
  rw [Nat.ofDigitChars_eq_ofDigitChars_zero, Nat.mul_comm]

theorem digitsValue_zeros (n : Nat) : digitsValue (List.replicate n '0') = 0 := by
  simp [digitsValue_eq]

theorem isAsciiDigit_of_mem_toDigits {n : Nat} {c : Char} (h : c ∈ Nat.toDigits 10 n) :
    isAsciiDigit c = true := by
  have hdigit : c.isDigit = true := Nat.isDigit_of_mem_toDigits (by decide) (by decide) h
  simpa [Char.isDigit, isAsciiDigit, Char.le_def] using hdigit

theorem isAsciiDigit_of_mem_zeros {n : Nat} {c : Char} (h : c ∈ List.replicate n '0') :
    isAsciiDigit c = true := by
  rw [List.eq_of_mem_replicate h]
  rfl

theorem isAsciiDigit_of_mem_padded {zeros n : Nat} {c : Char}
    (h : c ∈ List.replicate zeros '0' ++ Nat.toDigits 10 n) : isAsciiDigit c = true := by
  rcases List.mem_append.1 h with h | h
  · exact isAsciiDigit_of_mem_zeros h
  · exact isAsciiDigit_of_mem_toDigits h

theorem digitsValue_padded (zeros n : Nat) :
    digitsValue (List.replicate zeros '0' ++ Nat.toDigits 10 n) = n := by
  rw [digitsValue_append, digitsValue_zeros, digitsValue_toDigits, Nat.zero_mul, Nat.zero_add]

theorem toNat_of_isAsciiDigit {c : Char} (h : isAsciiDigit c = true) :
    48 ≤ c.toNat ∧ c.toNat ≤ 57 := by
  simpa [isAsciiDigit, Char.le_def, UInt32.le_iff_toNat_le] using h

theorem isSpacing_of_isAsciiDigit {c : Char} (h : isAsciiDigit c = true) :
    isSpacing c = false := by
  have hrange := toNat_of_isAsciiDigit h
  have hspace : c ≠ ' ' := by
    rintro rfl
    exact absurd hrange.1 (by decide)
  have hreturn : ¬c ≤ '\r' := fun hle => by
    have hcode : c.toNat ≤ 13 := hle
    omega
  simp [isSpacing, hspace, hreturn]

theorem toLower_of_isAsciiDigit {c : Char} (h : isAsciiDigit c = true) : c.toLower = c := by
  have hrange := toNat_of_isAsciiDigit h
  have hupper : ¬ 'A' ≤ c := fun hle => by
    have hcode : 65 ≤ c.toNat := hle
    omega
  exact dif_neg fun hletter => hupper hletter.1

/-- A row of digits is read up to its end. -/
theorem span_row {row tail : List Char} (hrow : ∀ c ∈ row, isAsciiDigit c = true)
    (htail : ∀ c ∈ tail.head?, isAsciiDigit c = false) :
    (row ++ tail).span isAsciiDigit = (row, tail) := by
  rw [List.span_eq_takeWhile_dropWhile, List.takeWhile_append_of_pos hrow,
    List.dropWhile_append_of_pos hrow]
  cases tail with
  | nil => simp
  | cons c tail => simp [htail c (by simp)]

/-! ### Reading decimals -/

theorem splitFraction_of_head {tail : List Char} (htail : ∀ c ∈ tail.head?, c ≠ '.') :
    splitFraction tail = ([], tail) := by
  fun_cases splitFraction tail with
  | case1 rest => exact absurd rfl (htail '.' (by simp))
  | case2 => rfl

/-- A row of digits without a point. -/
theorem decimal?_row {row : List Char} (tail : List Char) (hrow : ∀ c ∈ row, isAsciiDigit c = true)
    (hne : row ≠ []) (htail : ∀ c ∈ tail.head?, isAsciiDigit c = false ∧ c ≠ '.') :
    decimal? (row ++ tail) =
      (readExponent? tail).map fun exponent => ⟨digitsValue row, exponent⟩ := by
  have hspan := span_row hrow fun c hc => (htail c hc).1
  rw [decimal?, hspan]
  simp [splitFraction_of_head fun c hc => (htail c hc).2, hne]

/-- A row of digits with a point inside or at one of its ends. -/
theorem decimal?_point (whole fraction tail : List Char)
    (hwhole : ∀ c ∈ whole, isAsciiDigit c = true) (hne : whole ++ fraction ≠ [])
    (hfraction : ∀ c ∈ fraction, isAsciiDigit c = true)
    (htail : ∀ c ∈ tail.head?, isAsciiDigit c = false) :
    decimal? (whole ++ '.' :: (fraction ++ tail)) =
      (readExponent? tail).map fun exponent =>
        ⟨digitsValue (whole ++ fraction), exponent - fraction.length⟩ := by
  have hspan : (whole ++ '.' :: (fraction ++ tail)).span isAsciiDigit =
      (whole, '.' :: (fraction ++ tail)) := span_row hwhole (by simp [isAsciiDigit])
  rw [decimal?, hspan]
  simp only [splitFraction, span_row hfraction htail]
  refine if_neg fun hempty => hne ?_
  simpa using hempty

/-- A text with a sign is no decimal. -/
theorem splitSign_of_decimal? {s : List Char} {d : Decimal} (h : decimal? s = some d) :
    splitSign s = (false, s) := by
  fun_cases splitSign s with
  | case1 | case2 =>
      simp [decimal?, List.span_eq_takeWhile_dropWhile, splitFraction, isAsciiDigit] at h
  | case3 => rfl

/-- A text that spells a decimal starts with a digit or a point. -/
theorem head_of_decimal? {s : List Char} {d : Decimal} (h : decimal? s = some d) :
    ∃ c rest, s = c :: rest ∧ (isAsciiDigit c = true ∨ c = '.') := by
  cases s with
  | nil => exact nomatch h
  | cons c rest =>
      refine ⟨c, rest, rfl, ?_⟩
      by_contra hhead
      rw [not_or, Bool.not_eq_true] at hhead
      have hspan : ([] ++ c :: rest).span isAsciiDigit = ([], c :: rest) :=
        span_row nofun fun b hb => Option.some.inj hb ▸ hhead.1
      rw [List.nil_append] at hspan
      have hpoint : splitFraction (c :: rest) = ([], c :: rest) :=
        splitFraction_of_head fun b hb => Option.some.inj hb ▸ hhead.2
      rw [decimal?, hspan] at h
      dsimp only at h
      rw [hpoint] at h
      exact nomatch h

/-- The exponent of a number is read back. -/
theorem readExponent?_exponentText (n : Int) : readExponent? (Layout.exponentText n) = some n := by
  set zeros := 2 - (Nat.toDigits 10 n.natAbs).length
  set row := List.replicate zeros '0' ++ Nat.toDigits 10 n.natAbs with hrow
  have hdigits : row.all isAsciiDigit = true :=
    List.all_eq_true.2 fun _ => isAsciiDigit_of_mem_padded
  have hvalue : digitsValue row = n.natAbs := digitsValue_padded zeros n.natAbs
  have hne : row.isEmpty = false := by simp [hrow, Nat.toDigits_ne_nil]
  have htext : Layout.exponentText n = 'e' :: (if n < 0 then '-' else '+') :: row := rfl
  rw [htext]
  by_cases hneg : n < 0
  · simp [readExponent?, splitSign, hneg, hdigits, hvalue, hne, abs_of_neg hneg]
  · simp [readExponent?, splitSign, hneg, hdigits, hvalue, hne, abs_of_nonneg (not_lt.1 hneg)]

/-! ### Written integers -/

theorem toList_toString_int (n : Int) :
    (toString n).toList = (if n < 0 then ['-'] else []) ++ Nat.toDigits 10 n.natAbs := by
  rw [Int.toString_eq_repr, Int.repr_eq_if]
  by_cases hneg : n < 0
  · have habs : (-n).toNat = n.natAbs := by omega
    simp [hneg, not_le.2 hneg, Nat.toList_repr, habs]
  · have habs : n.toNat = n.natAbs := by omega
    simp [hneg, not_lt.1 hneg, Nat.toList_repr, habs]

/-- The characters of a written integer. -/
theorem mem_toString_int {n : Int} {c : Char} (h : c ∈ (toString n).toList) :
    c = '-' ∨ isAsciiDigit c = true := by
  rw [toList_toString_int, List.mem_append] at h
  rcases h with h | h
  · left
    split_ifs at h <;> simp_all
  · exact .inr (isAsciiDigit_of_mem_toDigits h)

/-- A text without the characters that are dropped at its ends stays as it is. -/
theorem trimBy_eq_self {p : Char → Bool} {s : List Char} (h : ∀ c ∈ s, p c = false) :
    trimBy p s = s := by
  have hdrop {s' : List Char} (hs' : ∀ c ∈ s', c ∈ s) : s'.dropWhile p = s' := by
    cases s' with
    | nil => rfl
    | cons c s' => simp [h c (hs' c (by simp))]
  rw [trimBy, hdrop fun _ hc => hc, hdrop (by simp), List.reverse_reverse]

/-- A literal of basic characters without spacing is plain already. -/
theorem plainForm_eq_self {s : List Char}
    (h : ∀ c ∈ s, c.toNat < 0x7F ∧ isSpacing c = false) : plainForm s = s := by
  have hmap : s.map plainChar = s :=
    (List.map_congr_left fun c hc => if_pos (h c hc).1).trans (List.map_id' s)
  rw [plainForm, hmap, trimBy_eq_self fun c hc => (h c hc).2]

/-- A written integer is plain. -/
theorem plainForm_toString (n : Int) : plainForm (toString n).toList = (toString n).toList := by
  apply plainForm_eq_self
  intro c hc
  rcases mem_toString_int hc with rfl | hdigit
  · decide
  · exact ⟨by have := toNat_of_isAsciiDigit hdigit; omega, isSpacing_of_isAsciiDigit hdigit⟩

theorem dropSeparators?_eq_some_self {s : List Char} (h : '_' ∉ s) (afterDigit : Bool) :
    dropSeparators? afterDigit s = some s := by
  induction s generalizing afterDigit with
  | nil => rfl
  | cons c s ih =>
      rw [List.mem_cons, not_or] at h
      simp [dropSeparators?, Ne.symm h.1, ih h.2]

/-- A decimal in plain characters is read as the binary number nearest to it. -/
theorem readBinary64?_of_decimal? {s : List Char} {d : Decimal}
    (hs : ∀ c ∈ s, c.toNat < 0x7F ∧ isSpacing c = false ∧ c ≠ '_') (h : decimal? s = some d) :
    readBinary64? s = some (Binary64.ofDecimal false d.digits d.exponent) := by
  have hplain : plainForm s = s := plainForm_eq_self fun c hc => ⟨(hs c hc).1, (hs c hc).2.1⟩
  have hseparators : dropSeparators? false s = some s :=
    dropSeparators?_eq_some_self (fun hc => (hs '_' hc).2.2 rfl) false
  -- A word starts with a letter, and the decimal does not.
  have hword (word : String) (hfirst : ∀ c ∈ word.toList.head?, c = 'i' ∨ c = 'n') :
      (String.ofList (s.map Char.toLower) == word) = false := by
    obtain ⟨c, rest, rfl, hc⟩ := head_of_decimal? h
    rw [beq_eq_false_iff_ne]
    rintro rfl
    have hletter : c.toLower = 'i' ∨ c.toLower = 'n' := hfirst c.toLower (by simp)
    rcases hc with hdigit | rfl
    · rw [toLower_of_isAsciiDigit hdigit] at hletter
      rcases hletter with rfl | rfl <;> exact absurd hdigit (by decide)
    · exact absurd hletter (by decide)
  simp only [readBinary64?, hplain, hseparators, splitSign_of_decimal? h, hword "inf" (by simp),
    hword "infinity" (by simp), hword "nan" (by simp), bind, Option.bind, readDecimal?_eq, h]
  rfl

theorem decimal?_toDigits (n : Nat) : decimal? (Nat.toDigits 10 n) = some ⟨n, 0⟩ := by
  have hread := decimal?_row [] (fun _ => isAsciiDigit_of_mem_toDigits (n := n))
    Nat.toDigits_ne_nil (by simp)
  simpa [readExponent?, digitsValue_toDigits] using hread

/-- A row of digits is none of the words for numbers that are not finite. -/
theorem toDigits_ne_word (n : Nat) (word : String) (hword : 'n' ∈ word.toList) :
    (String.ofList ((Nat.toDigits 10 n).map Char.toLower) == word) = false := by
  have hlower : (Nat.toDigits 10 n).map Char.toLower = Nat.toDigits 10 n :=
    (List.map_congr_left fun _ hc =>
      toLower_of_isAsciiDigit (isAsciiDigit_of_mem_toDigits hc)).trans (List.map_id _)
  rw [hlower, beq_eq_false_iff_ne]
  rintro rfl
  rw [String.toList_ofList] at hword
  exact absurd (isAsciiDigit_of_mem_toDigits hword) (by decide)

/-- The sign and the digits of a written integer. -/
theorem splitSign_toString (n : Int) :
    splitSign (toString n).toList = (decide (n < 0), Nat.toDigits 10 n.natAbs) := by
  rw [toList_toString_int]
  by_cases hneg : n < 0
  · simp [hneg, splitSign]
  · simp [hneg, splitSign_of_decimal? (decimal?_toDigits n.natAbs)]

/-- A written integer is read as the binary number nearest to it. -/
theorem readBinary64?_toString (n : Int) :
    readBinary64? (toString n).toList = some (Binary64.ofDecimal (n < 0) n.natAbs 0) := by
  have hseparators : dropSeparators? false (toString n).toList = some (toString n).toList := by
    apply dropSeparators?_eq_some_self
    intro h
    rcases mem_toString_int h with h | h <;> revert h <;> decide
  have hinf := toDigits_ne_word n.natAbs "inf" (by decide)
  have hinfinity := toDigits_ne_word n.natAbs "infinity" (by decide)
  have hnan := toDigits_ne_word n.natAbs "nan" (by decide)
  simp only [readBinary64?, plainForm_toString, hseparators, splitSign_toString, hinf, hinfinity,
    hnan, bind, Option.bind, readDecimal?_eq, decimal?_toDigits]
  rfl

end Literal

/-! ### Written decimals -/

namespace Layout

open Literal Text

variable (layout : Layout) (d : Decimal)

/-- A positional number without digits behind the point. -/
theorem value_integral (n power : Nat) (pointZero : Bool) :
    ∃ d, decimal? (Nat.toDigits 10 n ++ List.replicate power '0' ++
        if pointZero then ['.', '0'] else []) = some d ∧ d.value = n * 10 ^ power := by
  have hrow : ∀ c ∈ Nat.toDigits 10 n ++ List.replicate power '0', isAsciiDigit c = true := by
    intro c hc
    rcases List.mem_append.1 hc with hc | hc
    · exact isAsciiDigit_of_mem_toDigits hc
    · exact isAsciiDigit_of_mem_zeros hc
  have hne : Nat.toDigits 10 n ++ List.replicate power '0' ≠ [] := by simp [Nat.toDigits_ne_nil]
  have hvalue : digitsValue (Nat.toDigits 10 n ++ List.replicate power '0') = n * 10 ^ power := by
    simp [digitsValue_append, digitsValue_toDigits, digitsValue_zeros]
  cases pointZero with
  | false =>
      refine ⟨⟨n * 10 ^ power, 0⟩, ?_, by simp [Decimal.value]⟩
      have hread := decimal?_row [] hrow hne (by simp)
      simpa [readExponent?, hvalue] using hread
  | true =>
      refine ⟨⟨n * 10 ^ power * 10, -1⟩, ?_, by simp [Decimal.value]⟩
      have hread := decimal?_point _ ['0'] [] hrow (by simp) (by simp [isAsciiDigit]) (by simp)
      rw [digitsValue_append, hvalue] at hread
      simpa [readExponent?, digitsValue] using hread

/-- A positional number with digits on both sides of the point. -/
theorem decimal?_inside (n count : Nat) (hcount : count < (Nat.toDigits 10 n).length) :
    decimal? ((Nat.toDigits 10 n).take (count + 1) ++
        '.' :: (Nat.toDigits 10 n).drop (count + 1)) =
      some ⟨n, count + 1 - (Nat.toDigits 10 n).length⟩ := by
  have hread := decimal?_point ((Nat.toDigits 10 n).take (count + 1))
    ((Nat.toDigits 10 n).drop (count + 1)) []
    (fun c hc => isAsciiDigit_of_mem_toDigits (List.mem_of_mem_take hc))
    (by simp [Nat.toDigits_ne_nil])
    (fun c hc => isAsciiDigit_of_mem_toDigits (List.mem_of_mem_drop hc)) (by simp)
  rw [List.append_nil, List.take_append_drop, digitsValue_toDigits] at hread
  simp only [hread, readExponent?, Option.map_some, List.length_drop, Option.some.injEq,
    Decimal.mk.injEq, true_and]
  omega

/-- A positional number below one. -/
theorem decimal?_below (n zeros : Nat) :
    decimal? ('0' :: '.' :: List.replicate zeros '0' ++ Nat.toDigits 10 n) =
      some ⟨n, -(zeros + (Nat.toDigits 10 n).length)⟩ := by
  have hread := decimal?_point ['0'] (List.replicate zeros '0' ++ Nat.toDigits 10 n) []
    (by simp [isAsciiDigit]) (by simp) (fun _ => isAsciiDigit_of_mem_padded) (by simp)
  have hvalue : digitsValue (['0'] ++ (List.replicate zeros '0' ++ Nat.toDigits 10 n)) = n :=
    digitsValue_padded (zeros + 1) n
  rw [hvalue] at hread
  simpa [readExponent?] using hread

/-- A number with an exponent and a single digit. -/
theorem decimal?_digit {n : Nat} {digit : Char} (hdigits : Nat.toDigits 10 n = [digit])
    (exponent : Int) : decimal? (digit :: exponentText exponent) = some ⟨n, exponent⟩ := by
  have hrow : ∀ c ∈ [digit], isAsciiDigit c = true := fun c hc =>
    isAsciiDigit_of_mem_toDigits (hdigits ▸ hc)
  have hread := decimal?_row (exponentText exponent) hrow (by simp)
    (by simp [exponentText, isAsciiDigit])
  rw [← hdigits, digitsValue_toDigits] at hread
  simpa [readExponent?_exponentText, hdigits] using hread

/-- A number with an exponent and digits behind the point. -/
theorem decimal?_scientific {n : Nat} {first : Char} {rest : List Char}
    (hdigits : Nat.toDigits 10 n = first :: rest) (exponent : Int) :
    decimal? (first :: '.' :: rest ++ exponentText exponent) =
      some ⟨n, exponent - rest.length⟩ := by
  have hrow : ∀ c ∈ first :: rest, isAsciiDigit c = true := fun c hc =>
    isAsciiDigit_of_mem_toDigits (hdigits ▸ hc)
  have hread := decimal?_point [first] rest (exponentText exponent)
    (by simpa using hrow first (by simp)) (by simp)
    (fun c hc => hrow c (List.mem_cons_of_mem _ hc)) (by simp [exponentText, isAsciiDigit])
  rw [show [first] ++ rest = first :: rest from rfl, ← hdigits, digitsValue_toDigits] at hread
  simpa [readExponent?_exponentText] using hread

/-- The text of a decimal spells a decimal of the same value, not always with the same digits: the
zeros of a large number are among them. -/
theorem value_render : ∃ d', decimal? (layout.render d) = some d' ∧ d'.value = d.value := by
  have hlength : 0 < (Nat.toDigits 10 d.digits).length := List.length_pos_iff.2 Nat.toDigits_ne_nil
  simp only [render]
  split
  case isTrue hplace =>
    split
    case isTrue hintegral =>
      obtain ⟨d', hread, hvalue⟩ := value_integral d.digits d.exponent.toNat layout.pointZero
      refine ⟨d', hread, ?_⟩
      rw [hvalue, Decimal.value, ← zpow_natCast, Int.toNat_of_nonneg hintegral]
    case isFalse hintegral =>
      split
      case isTrue hleading =>
        have hread := decimal?_inside d.digits
          (d.exponent + (Nat.toDigits 10 d.digits).length - 1).toNat (by omega)
        exact ⟨_, hread, by rw [Decimal.mk_digits (by omega)]⟩
      case isFalse hleading =>
        exact ⟨_, decimal?_below _ _, by rw [Decimal.mk_digits (by omega)]⟩
  case isFalse =>
    rcases hdigits : Nat.toDigits 10 d.digits with _ | ⟨first, _ | ⟨second, rest⟩⟩
    · exact absurd hdigits Nat.toDigits_ne_nil
    · refine ⟨_, decimal?_digit hdigits _, ?_⟩
      simp [Decimal.value]
    · refine ⟨_, decimal?_scientific hdigits _, ?_⟩
      simp [Decimal.value, add_sub_assoc]

end Layout

end MetricQuery
