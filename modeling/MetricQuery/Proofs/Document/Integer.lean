import MetricQuery.Proofs.Document.Row
import MetricQuery.Proofs.Outcome

/-!
# Integers of documents

A text that has the form of an integer is one, with two exceptions: its first decimal digits may be
too many, and there may be none behind the mark of a base.

## Main definitions

* `LacksInteger` : what keeps the digits of an integer from being read.

## Main results

* `readDecimal_row` : decimal digits are an integer unless there are too many.
* `exists_readInBase_iff` : digits of a base are an integer unless there are none.
* `exists_readInteger_iff` : which texts of the form of an integer are one.
-/

namespace MetricQuery.Document

open Literal (splitSign)
open Text (isAsciiDigit hexValue?)

/-! ### Digits of bases -/

section Bases

variable {row : List Char}

theorem toNat_of_hexValue? {c : Char} (h : (hexValue? c).isSome) : c.toNat < 0x67 := by
  have hlower : 'f'.toNat < 0x67 := by decide
  rw [hexValue?] at h
  split_ifs at h with hdigit hsmall hlarge
  · exact Nat.lt_of_le_of_lt (decide_eq_true_iff.1 (Bool.and_eq_true_iff.1 hdigit).2) (by decide)
  · exact Nat.lt_of_le_of_lt (decide_eq_true_iff.1 (Bool.and_eq_true_iff.1 hsmall).2) hlower
  · exact Nat.lt_of_le_of_lt (decide_eq_true_iff.1 (Bool.and_eq_true_iff.1 hlarge).2) (by decide)
  · exact nomatch h

/-- A digit is no sign, no spacing, and none of the marks of bases that its base goes with. -/
theorem plain_of_hexValue? {c : Char} (h : (hexValue? c).isSome) :
    Literal.isSpacing c = false ∧ c ≠ '-' ∧ c ≠ '+' ∧ c.toLower ≠ 'o' ∧ c.toLower ≠ 'x' ∧
      (c.toLower = 'b' → hexValue? c = some 11) ∧ ∃ n < 16, hexValue? c = some n := by
  have hall : ∀ n < 0x67, (hexValue? (Char.ofNat n)).isSome →
      Literal.isSpacing (Char.ofNat n) = false ∧ Char.ofNat n ≠ '-' ∧ Char.ofNat n ≠ '+' ∧
        (Char.ofNat n).toLower ≠ 'o' ∧ (Char.ofNat n).toLower ≠ 'x' ∧
        ((Char.ofNat n).toLower = 'b' → hexValue? (Char.ofNat n) = some 11) ∧
        ∃ k < 16, hexValue? (Char.ofNat n) = some k := by
    decide
  have hchar := hall c.toNat (toNat_of_hexValue? h)
  rw [Char.ofNat_toNat] at hchar
  exact hchar h

/-- Digits of a base behind its mark are an integer if there are any. -/
theorem exists_readInBase_iff {base : Nat} (hbase : base = 2 ∨ base = 8 ∨ base = 16)
    (hrow : ∀ c ∈ row, ∃ n < base, hexValue? c = some n) :
    (∃ n, readInBase base row = .ok n) ↔ row ≠ [] := by
  have hhex : ∀ c ∈ row, (hexValue? c).isSome := fun c hc =>
    have ⟨n, _, hn⟩ := hrow c hc
    hn ▸ rfl
  have hplain : Literal.plainForm row = row := Literal.plainForm_eq_self fun c hc =>
    have hcode := toNat_of_hexValue? (hhex c hc)
    ⟨by omega, (plain_of_hexValue? (hhex c hc)).1⟩
  have hsign : splitSign row = (false, row) := splitSign_of_head fun c hc =>
    have ⟨_, hminus, hplus, _⟩ := plain_of_hexValue? (hhex c (List.mem_of_mem_head? hc))
    ⟨hminus, hplus⟩
  have hmark : ∀ c ∈ row, c.toLower ≠ baseMark base := fun c hc heq => by
    obtain ⟨-, -, -, hoctal, hhexadecimal, hbinary, -⟩ := plain_of_hexValue? (hhex c hc)
    obtain ⟨n, hlt, hn⟩ := hrow c hc
    obtain rfl | rfl | rfl := hbase
    · obtain rfl := Option.some.inj (hn.symm.trans (hbinary heq))
      exact absurd hlt (by decide)
    · exact hoctal heq
    · exact hhexadecimal heq
  have hdigits : dropBaseMark base row = row := by
    fun_cases dropBaseMark base row with
    | case1 mark rest heq => exact absurd heq (hmark mark (by simp))
    | case2 => rfl
    | case3 => rfl
  obtain ⟨values, hvalues⟩ : ∃ values, (row.mapM fun c => (hexValue? c).filter (· < base)) =
      some values := by
    clear hhex hplain hsign hmark hdigits
    induction row with
    | nil => exact ⟨[], rfl⟩
    | cons c row ih =>
        obtain ⟨⟨n, hlt, hn⟩, hrow⟩ := List.forall_mem_cons.1 hrow
        obtain ⟨values, hvalues⟩ := ih hrow
        have hkept : (some n).filter (· < base) = some n :=
          Option.filter_some_pos (by simpa using hlt)
        exact ⟨n :: values, by simp [hn, hkept, hvalues]⟩
  rw [readInBase, hplain, hsign]
  dsimp only
  rw [hdigits]
  cases row with
  | nil => simp
  | cons c rest =>
      rw [hvalues]
      simp

end Bases

/-! ### Decimal digits -/

/-- Decimal digits are an integer unless there are too many. -/
theorem readDecimal_row {row : List Char} (hrow : ∀ c ∈ row, isAsciiDigit c = true)
    (hne : row ≠ []) :
    readDecimal row =
      if Literal.maxIntegerDigits < row.length then .error (.integerTooLong row.length)
      else .ok (Literal.digitsValue row) := by
  have hinRow : ∀ c ∈ row, (isAsciiDigit c || c == '_') = true := fun c hc => by
    rw [hrow c hc, Bool.true_or]
  have hseam : '_' ∉ row := notMem_row hrow rfl
  have htake := List.takeWhile_eq_self_iff.2 hinRow
  have hdrop := List.dropWhile_eq_nil_iff.2 hinRow
  have hread : Literal.readInteger row =
      if Literal.maxIntegerDigits < row.length then .error (.tooLong row.length)
      else .ok (Literal.digitsValue row) := by
    simp only [Literal.readInteger, plainForm_row hrow, splitSign_row hrow, htake, hdrop,
      Literal.ungrouped?_of_notMem hne hseam]
    rfl
  rw [readDecimal, hread]
  split_ifs <;> rfl

/-! ### Magnitudes -/

/-- What keeps the digits of an integer from being read: the first decimal ones are more than are
allowed, or there are none behind the mark of a base.  Underscores do not count. -/
def LacksInteger (digits : List Char) : Prop :=
  (startsNonzero digits ∧
    Literal.maxIntegerDigits < (dropSeams (digits.takeWhile isDigitOrSeam)).length) ∨
  dropSeams digits = ['0', 'b'] ∨ dropSeams digits = ['0', 'x']

theorem exists_readMagnitude_binary {digits : List Char}
    (h : isRowOf (fun c => c == '0' || c == '1' || c == '_') digits) :
    (∃ n, readMagnitude (dropSeams ('0' :: 'b' :: digits)) = .ok n) ↔
      ¬ LacksInteger ('0' :: 'b' :: digits) := by
  have hrow : ∀ c ∈ dropSeams digits, ∃ n < 2, hexValue? c = some n := fun c hc => by
    obtain ⟨hc, hne⟩ := mem_dropSeams.1 hc
    have hdigit := List.all_eq_true.1 (Bool.and_eq_true_iff.1 h).2 c hc
    simp only [Bool.or_eq_true, beq_iff_eq, hne, or_false] at hdigit
    rcases hdigit with rfl | rfl <;> decide
  have hread : readMagnitude (dropSeams ('0' :: 'b' :: digits)) =
      readInBase 2 (dropSeams digits) := rfl
  have hdrop : dropSeams ('0' :: 'b' :: digits) = '0' :: 'b' :: dropSeams digits := rfl
  rw [hread, exists_readInBase_iff (.inl rfl) hrow, LacksInteger, hdrop]
  simp [startsNonzero]

theorem exists_readMagnitude_hex {digits : List Char}
    (h : isRowOf (fun c => (hexValue? c).isSome || c == '_') digits) :
    (∃ n, readMagnitude (dropSeams ('0' :: 'x' :: digits)) = .ok n) ↔
      ¬ LacksInteger ('0' :: 'x' :: digits) := by
  have hrow : ∀ c ∈ dropSeams digits, ∃ n < 16, hexValue? c = some n := fun c hc => by
    obtain ⟨hc, hne⟩ := mem_dropSeams.1 hc
    have hdigit := List.all_eq_true.1 (Bool.and_eq_true_iff.1 h).2 c hc
    simp only [Bool.or_eq_true, beq_iff_eq, hne, or_false] at hdigit
    exact (plain_of_hexValue? hdigit).2.2.2.2.2.2
  have hread : readMagnitude (dropSeams ('0' :: 'x' :: digits)) =
      readInBase 16 (dropSeams digits) := rfl
  have hdrop : dropSeams ('0' :: 'x' :: digits) = '0' :: 'x' :: dropSeams digits := rfl
  rw [hread, exists_readInBase_iff (.inr (.inr rfl)) hrow, LacksInteger, hdrop]
  simp [startsNonzero]

theorem exists_readMagnitude_octal {digits : List Char}
    (h : isRowOf (fun c => ('0' ≤ c && c ≤ '7') || c == '_') digits) :
    (∃ n, readMagnitude (dropSeams ('0' :: digits)) = .ok n) ∧ ¬ LacksInteger ('0' :: digits) := by
  have hoctal : ∀ c ∈ dropSeams digits, '0' ≤ c ∧ c ≤ '7' := fun c hc => by
    obtain ⟨hc, hne⟩ := mem_dropSeams.1 hc
    have hdigit := List.all_eq_true.1 (Bool.and_eq_true_iff.1 h).2 c hc
    simpa [hne] using hdigit
  have hrow : ∀ c ∈ '0' :: dropSeams digits, ∃ n < 8, hexValue? c = some n := by
    refine List.forall_mem_cons.2 ⟨⟨0, by decide, rfl⟩, fun c hc => ?_⟩
    obtain ⟨hlow, hhigh⟩ := hoctal c hc
    have hcode : c.toNat ≤ 55 := hhigh
    have hseven : '7' ≤ '9' := by decide
    have hdigit : c ≤ '9' := Char.le_trans hhigh hseven
    exact ⟨c.toNat - 48, by omega, if_pos (by simp [hlow, hdigit])⟩
  have hdrop : dropSeams ('0' :: digits) = '0' :: dropSeams digits := rfl
  rw [LacksInteger, hdrop]
  constructor
  · unfold readMagnitude
    split
    · rename_i heq
      exact nomatch heq
    · exact ⟨0, rfl⟩
    · rename_i rest heq
      obtain ⟨-, heq⟩ := List.cons.inj heq
      exact absurd (hoctal 'b' (heq ▸ List.mem_cons_self)) (by decide)
    · rename_i rest heq
      obtain ⟨-, heq⟩ := List.cons.inj heq
      exact absurd (hoctal 'x' (heq ▸ List.mem_cons_self)) (by decide)
    · rename_i heq
      rw [← heq]
      exact (exists_readInBase_iff (.inr (.inl rfl)) hrow).2 (List.cons_ne_nil _ _)
    · rename_i hne
      exact absurd rfl (hne _)
  · rintro (⟨hfirst, -⟩ | heq | heq)
    · exact absurd hfirst (by simp [startsNonzero])
    · obtain ⟨-, heq⟩ := List.cons.inj heq
      exact absurd (hoctal 'b' (heq ▸ List.mem_cons_self)) (by decide)
    · obtain ⟨-, heq⟩ := List.cons.inj heq
      exact absurd (hoctal 'x' (heq ▸ List.mem_cons_self)) (by decide)

/-- The first part of a text in sixtieths is the row of digits in its front. -/
theorem takeWhile_isDigitOrSeam {s hours : List Char} {parts : List (List Char)}
    (hsplit : s.splitOn ':' = hours :: parts) (hhours : hours.all isDigitOrSeam) :
    s.takeWhile isDigitOrSeam = hours := by
  rw [eq_intercalate_of_splitOn hsplit]
  cases parts with
  | nil => simpa [List.intercalate] using hhours
  | cons part parts =>
      have hseam : isDigitOrSeam ':' = false := rfl
      rw [List.intercalate_cons_cons, List.append_assoc,
        List.takeWhile_append_of_pos (List.all_eq_true.1 hhours)]
      simp [hseam]

theorem exists_readDecimal_sixtieths {parts : List (List Char)} (h : parts.all isSixtieth) :
    ∃ ns, (parts.map dropSeams).mapM readDecimal = .ok ns := by
  refine List.exists_mapM_eq_ok fun row hrow => ?_
  obtain ⟨part, hpart, rfl⟩ := List.mem_map.1 hrow
  obtain ⟨hrow, hne, hlength⟩ := row_of_isSixtieth (List.all_eq_true.1 h part hpart)
  refine ⟨Literal.digitsValue part, ?_⟩
  rw [dropSeams_eq_self (notMem_row hrow rfl), readDecimal_row hrow hne, if_neg]
  rw [Literal.maxIntegerDigits]
  omega

theorem readMagnitude_of_ne {c : Char} (hc : c ≠ '0') (rest : List Char) :
    readMagnitude (c :: rest) =
      if (c :: rest).contains ':' then readSixtieths ((c :: rest).splitOn ':')
      else readDecimal (c :: rest) := by
  unfold readMagnitude
  split <;> simp_all

/-- A text starts with a digit other than zero if the first one of its parts does. -/
theorem exists_cons_of_startsNonzero {digits hours : List Char} {parts : List (List Char)}
    (hsplit : digits.splitOn ':' = hours :: parts) (hfirst : startsNonzero hours) :
    ∃ c rest more, digits = c :: rest ∧ hours = c :: more ∧ isAsciiDigit c = true ∧ c ≠ '0' := by
  cases hours with
  | nil => exact nomatch hfirst
  | cons c more =>
      obtain ⟨rest, rfl⟩ := exists_cons_of_splitOn hsplit
      exact ⟨c, rest, more, rfl, rfl, by simpa [startsNonzero] using hfirst⟩

/-- Digits that start with a nonzero one have a value if the first part of them is not too long. -/
theorem exists_readMagnitude_decimal {digits hours : List Char} {parts : List (List Char)}
    (hsplit : digits.splitOn ':' = hours :: parts) (hfirst : startsNonzero hours)
    (hhours : hours.all isDigitOrSeam) (hparts : parts.all isSixtieth) :
    (∃ n, readMagnitude (dropSeams digits) = .ok n) ↔ ¬ LacksInteger digits := by
  have hrow : ∀ c ∈ dropSeams hours, isAsciiDigit c = true :=
    fun _ => isAsciiDigit_of_mem_dropSeams hhours
  have htake := takeWhile_isDigitOrSeam hsplit hhours
  obtain ⟨c, rest, hours, rfl, rfl, hc⟩ := exists_cons_of_startsNonzero hsplit hfirst
  have hseam : c ≠ '_' := by
    rintro rfl
    exact absurd hc.1 (by decide)
  have hlacks : LacksInteger (c :: rest) ↔
      Literal.maxIntegerDigits < (dropSeams (c :: hours)).length := by
    rw [LacksInteger, htake]
    simp [startsNonzero, hc, dropSeams_cons_of_ne hseam]
  have hne : dropSeams (c :: hours) ≠ [] := by
    rw [dropSeams_cons_of_ne hseam]
    exact List.cons_ne_nil _ _
  have hsplit' := splitOn_dropSeams (c :: rest)
  rw [hsplit, dropSeams_cons_of_ne hseam, List.map_cons] at hsplit'
  rw [hlacks, dropSeams_cons_of_ne hseam, readMagnitude_of_ne hc.2, hsplit']
  cases parts with
  | nil =>
      have hwhole : c :: dropSeams rest = dropSeams (c :: hours) := eq_of_splitOn hsplit'
      have hcolon : (dropSeams (c :: hours)).contains ':' = false := by
        rw [← Bool.not_eq_true, List.contains_iff_mem]
        exact notMem_row hrow rfl
      rw [hwhole, hcolon, if_neg Bool.false_ne_true, readDecimal_row hrow hne]
      split_ifs with hlong
      · simp [hlong]
      · simp [hlong]
  | cons part parts =>
      have hcolon : (c :: dropSeams rest).contains ':' = true := by
        rw [List.contains_iff_mem]
        by_contra hmem
        rw [List.splitOn_eq_singleton hmem] at hsplit'
        exact absurd (congrArg List.length hsplit') (by simp)
      obtain ⟨ns, hns⟩ := exists_readDecimal_sixtieths hparts
      rw [hcolon, if_pos rfl, readSixtieths, List.mapM_cons, readDecimal_row hrow hne, hns]
      split_ifs with hlong
      · exact iff_of_false (fun ⟨_, h⟩ => nomatch h) (not_not.2 hlong)
      · exact iff_of_true ⟨_, rfl⟩ hlong

/-- The digits of an integer have a value unless there are too many of them or none. -/
theorem exists_readMagnitude_iff {digits : List Char} (h : isInteger digits) :
    (∃ n, readMagnitude (dropSeams digits) = .ok n) ↔ ¬ LacksInteger digits := by
  unfold isInteger at h
  split at h
  · exact iff_of_true ⟨0, rfl⟩ (by simp [LacksInteger, startsNonzero, dropSeams])
  · exact exists_readMagnitude_binary h
  · exact exists_readMagnitude_hex h
  · have hoctal := exists_readMagnitude_octal h
    exact iff_of_true hoctal.1 hoctal.2
  · split at h
    · rename_i hsplit
      obtain ⟨hfirst, hhours⟩ := Bool.and_eq_true_iff.1 h
      exact exists_readMagnitude_decimal hsplit hfirst hhours rfl
    · rename_i hsplit
      obtain ⟨hhours, hparts⟩ := Bool.and_eq_true_iff.1 h
      obtain ⟨hfirst, hhours⟩ := Bool.and_eq_true_iff.1 hhours
      exact exists_readMagnitude_decimal hsplit hfirst hhours hparts
    · exact absurd h Bool.false_ne_true

theorem isAsciiDigit_of_head_isInteger {digits : List Char} (h : isInteger digits) :
    ∃ c rest, digits = c :: rest ∧ isAsciiDigit c = true := by
  unfold isInteger at h
  split at h
  · exact ⟨'0', _, rfl, rfl⟩
  · exact ⟨'0', _, rfl, rfl⟩
  · exact ⟨'0', _, rfl, rfl⟩
  · exact ⟨'0', _, rfl, rfl⟩
  · have hstarts {hours : List Char} {parts : List (List Char)}
        (hsplit : digits.splitOn ':' = hours :: parts) (hfirst : startsNonzero hours) :
        ∃ c rest, digits = c :: rest ∧ isAsciiDigit c = true :=
      have ⟨c, rest, _, hdigits, _, hc, _⟩ := exists_cons_of_startsNonzero hsplit hfirst
      ⟨c, rest, hdigits, hc⟩
    split at h
    · rename_i hsplit
      exact hstarts hsplit (Bool.and_eq_true_iff.1 h).1
    · rename_i hsplit
      exact hstarts hsplit (Bool.and_eq_true_iff.1 (Bool.and_eq_true_iff.1 h).1).1
    · exact nomatch h

/-- An integer has a value exactly if its digits have. -/
theorem exists_readInteger_iff {s : List Char} (h : isInteger (dropSign s)) :
    (∃ n, readInteger s = .ok n) ↔ ¬ LacksInteger (dropSign s) := by
  have hsign : splitSign (dropSeams s) = ((splitSign s).1, dropSeams (dropSign s)) := by
    obtain ⟨c, rest, hdigits, hc⟩ := isAsciiDigit_of_head_isInteger h
    rw [dropSign] at hdigits ⊢
    revert hdigits
    fun_cases splitSign s with
    | case1 => exact fun _ => rfl
    | case2 => exact fun _ => rfl
    | case3 =>
        rintro rfl
        refine splitSign_of_head fun d hd => ?_
        rw [dropSeams_cons_of_ne (by rintro rfl; exact absurd hc (by decide))] at hd
        obtain rfl := Option.some.inj hd
        constructor <;> rintro rfl <;> exact absurd hc (by decide)
  have hread : readInteger s = (readMagnitude (dropSeams (dropSign s))).map fun n =>
      if (splitSign s).1 then -n else n := by
    rw [readInteger, hsign]
    rfl
  rw [← exists_readMagnitude_iff h, hread]
  simp [Except.map_eq_ok_iff]

end MetricQuery.Document
