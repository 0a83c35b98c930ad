import Mathlib.Data.Bool.AllAny
import MetricQuery.Proofs.Document.Row
import MetricQuery.Proofs.Outcome
import MetricQuery.Proofs.Text.Case

/-!
# Binary numbers of documents

A text that has the form of a number with a fraction is one, unless it counts sixtieths of so many
parts that the first of them counts more than any binary number.

## Main definitions

* `Pointed` : digits around a point, in front of an exponent or behind hours and minutes.
* `maxParts` : the count of parts up to which each counts no more than a binary number.

## Main results

* `exists_sumScaled_iff` : how many parts have a sum.
* `pointed_of_isPointed` : the forms that the test of a form lets through.
* `exists_readFloat_iff` : which texts of the form of a number with a fraction are one.
-/

namespace MetricQuery.Document

open Literal (splitSign)
open Text (isAsciiDigit)

/-! ### Fractions -/

/-- The characters of fractions in lower case. -/
def IsFloatChar (c : Char) : Prop :=
  isAsciiDigit c = true ∨ c ∈ ".e+-".toList

theorem IsFloatChar.plain {c : Char} (h : IsFloatChar c) :
    c.toNat < 0x7F ∧ Literal.isSpacing c = false ∧ c ≠ '_' := by
  obtain hdigit | hmark := h
  · have hcode := Literal.toNat_of_isAsciiDigit hdigit
    refine ⟨by omega, Literal.isSpacing_of_isAsciiDigit hdigit, ?_⟩
    rintro rfl
    exact absurd hdigit (by decide)
  · have hmarks : ∀ c ∈ ".e+-".toList, c.toNat < 0x7F ∧ Literal.isSpacing c = false ∧ c ≠ '_' :=
      List.all_iff_forall_prop.1 (by decide)
    exact hmarks c hmark

/-- What may stand behind the digits of a fraction. -/
structure IsTail (tail : List Char) : Prop where
  read : ∃ n, Literal.readExponent? tail = some n
  head : ∀ c ∈ tail.head?, isAsciiDigit c = false
  chars : ∀ c ∈ tail, IsFloatChar c

theorem isTail_nil : IsTail [] :=
  ⟨⟨0, rfl⟩, nofun, nofun⟩

theorem isTail_of_isExponent {tail : List Char} (h : isExponent tail) :
    IsTail (tail.map Char.toLower) ∧ '_' ∉ tail ∧ ∀ c ∈ tail, c.toNat < 0x80 := by
  unfold isExponent at h
  split at h
  · exact ⟨isTail_nil, by simp, by simp⟩
  · rename_i mark sign digits
    simp only [Bool.and_eq_true, Bool.or_eq_true, beq_iff_eq, isRowOf, Bool.not_eq_true'] at h
    obtain ⟨⟨hmark, hsign⟩, hne, hdigits⟩ := h
    have hrow : ∀ c ∈ digits, isAsciiDigit c = true := List.all_eq_true.1 hdigits
    have hseam : '_' ∉ digits := notMem_row hrow rfl
    have hcode : ∀ c ∈ digits, c.toNat < 0x80 := fun c hc => by
      have := Literal.toNat_of_isAsciiDigit (hrow c hc)
      omega
    have hfloat : ∀ c ∈ digits, IsFloatChar c := fun c hc => .inl (hrow c hc)
    rw [List.map_cons, List.map_cons, map_toLower_row hrow]
    rcases hmark with rfl | rfl <;> rcases hsign with rfl | rfl
    all_goals
      refine ⟨⟨?_, fun c hc => ?_, ?_⟩, by simp [hseam], ?_⟩
      · simp [Literal.readExponent?, splitSign, hne, hdigits]
      · obtain rfl := Option.some.inj hc
        decide
      · refine List.forall_mem_cons.2 ⟨.inr (by decide), ?_⟩
        exact List.forall_mem_cons.2 ⟨.inr (by decide), hfloat⟩
      · exact List.forall_mem_cons.2 ⟨by decide, List.forall_mem_cons.2 ⟨by decide, hcode⟩⟩
  · exact absurd h Bool.false_ne_true

section Fractions

variable {whole fraction tail : List Char} (hwhole : ∀ c ∈ whole, isAsciiDigit c = true)
  (hfraction : ∀ c ∈ fraction, isAsciiDigit c = true)

include hwhole

theorem exists_readFraction_row (hne : whole ≠ []) : ∃ x, readFraction whole = .ok x := by
  have hdecimal := Literal.decimal?_row [] hwhole hne (by simp)
  rw [List.append_nil] at hdecimal
  have hread := Literal.readBinary64?_of_decimal?
    (fun c hc => (IsFloatChar.plain (.inl (hwhole c hc)))) hdecimal
  rw [readFraction, hread]
  exact ⟨_, rfl⟩

include hfraction

theorem exists_readFraction_point (hne : whole ++ fraction ≠ []) (htail : IsTail tail) :
    ∃ x, readFraction (whole ++ '.' :: (fraction ++ tail)) = .ok x := by
  obtain ⟨n, hn⟩ := htail.read
  have hdecimal := Literal.decimal?_point whole fraction tail hwhole hne hfraction htail.head
  rw [hn, Option.map_some] at hdecimal
  have hchars : ∀ c ∈ whole ++ '.' :: (fraction ++ tail), IsFloatChar c := by
    simp only [List.forall_mem_append, List.forall_mem_cons]
    exact ⟨fun c hc => .inl (hwhole c hc), .inr (by decide), fun c hc => .inl (hfraction c hc),
      htail.chars⟩
  have hread := Literal.readBinary64?_of_decimal? (fun c hc => (hchars c hc).plain) hdecimal
  rw [readFraction, hread]
  exact ⟨_, rfl⟩

end Fractions

/-! ### Sums -/

/-- The count of parts up to which each counts no more than a binary number. -/
def maxParts : Nat := 174

theorem ofRatio_ne_infinite {k : Nat} (hk : k < maxParts) (negative : Bool) :
    Binary64.ofRatio false (60 ^ k) 1 ≠ .infinite negative := by
  have hall : ∀ k < maxParts, ∀ negative,
      Binary64.ofRatio false (60 ^ k) 1 ≠ .infinite negative := by
    decide +kernel
  exact hall k hk negative

/-- A row of numbers has a sum unless there are too many.  The induction is on the row, of which `k`
numbers have been added. -/
theorem exists_sumScaled_iff {k : Nat} (hk : k ≤ maxParts) (sum : Binary64) (xs : List Binary64) :
    (∃ x, sumScaled (60 ^ k) sum xs = .ok x) ↔ k + xs.length ≤ maxParts := by
  induction xs generalizing k sum with
  | nil => exact iff_of_true ⟨sum, rfl⟩ hk
  | cons x xs ih =>
      rw [sumScaled]
      obtain hlt | rfl := Nat.lt_or_eq_of_le hk
      · split
        · rename_i hinfinite
          exact absurd hinfinite (ofRatio_ne_infinite hlt _)
        · rw [← Nat.pow_succ', ih hlt]
          simp only [List.length_cons]
          omega
      · have hinfinite : Binary64.ofRatio false (60 ^ maxParts) 1 = .infinite false := by
          decide +kernel
        rw [hinfinite]
        refine iff_of_false (fun ⟨_, h⟩ => nomatch h) ?_
        simp only [List.length_cons]
        omega

/-- A number has a value if all its parts have and there are not too many. -/
theorem exists_readFloatMagnitude_iff {s : List Char}
    (h : ∀ part ∈ s.splitOn ':', ∃ x, readFraction part = .ok x) :
    (∃ x, readFloatMagnitude s = .ok x) ↔ s.count ':' < maxParts := by
  unfold readFloatMagnitude
  split_ifs with hinf hnan hcolon
  · exact iff_of_true ⟨_, rfl⟩ (by rw [hinf]; decide)
  · exact iff_of_true ⟨_, rfl⟩ (by rw [hnan]; decide)
  · obtain ⟨xs, hxs⟩ := List.exists_mapM_eq_ok h
    have hlength := (List.mapM_eq_ok_iff.1 hxs).length_eq
    rw [length_splitOn] at hlength
    have hsum := exists_sumScaled_iff (Nat.zero_le maxParts) (.zero false) xs.reverse
    rw [Nat.pow_zero, List.length_reverse, ← hlength, Nat.zero_add] at hsum
    rw [hxs]
    exact hsum
  · rw [List.contains_iff_mem] at hcolon
    rw [List.splitOn_eq_singleton hcolon] at h
    rw [List.count_eq_zero.2 hcolon]
    exact iff_of_true (h s List.mem_cons_self) (by decide)

/-! ### Forms -/

/-- A number with a point and without a sign: digits around the point, in front of an exponent or
behind hours and minutes. -/
inductive Pointed : List Char → Prop
  | fraction {whole fraction tail : List Char} (hwhole : whole.all isDigitOrSeam)
      (hfraction : fraction.all isDigitOrSeam) (hfirst : (whole ++ fraction).head?.any isAsciiDigit)
      (htail : isExponent tail) : Pointed (whole ++ '.' :: (fraction ++ tail))
  | sixtieths {whole fraction hours : List Char} {parts : List (List Char)}
      (hsplit : whole.splitOn ':' = hours :: parts) (hhours : isWhole hours)
      (hparts : parts.all isSixtieth) (hfraction : fraction.all isDigitOrSeam) :
      Pointed (whole ++ '.' :: fraction)

theorem pointed_of_isPointed {s : List Char} (h : isPointed s) : Pointed s := by
  unfold isPointed at h
  dsimp only at h
  split at h
  · rename_i point rest hrest
    have hpoint : point = '.' := by
      have hhead := List.head?_dropWhile_not (p := (· != '.')) s
      rw [hrest] at hhead
      simpa using hhead
    obtain rfl := hpoint
    have hs : s = s.takeWhile (· != '.') ++ '.' :: rest := by
      rw [← hrest, List.takeWhile_append_dropWhile]
    have hrest := List.takeWhile_append_dropWhile (p := isDigitOrSeam) (l := rest)
    have hfraction : (rest.takeWhile isDigitOrSeam).all isDigitOrSeam := List.all_takeWhile
    rw [hs]
    split at h
    · rename_i digits hsplit
      obtain ⟨hwhole, htail⟩ := Bool.and_eq_true_iff.1 h
      have hdigits : s.takeWhile (· != '.') = digits := eq_of_splitOn hsplit
      obtain ⟨hfirst, hwhole⟩ := Bool.and_eq_true_iff.1 hwhole
      rw [hdigits, ← hrest]
      refine .fraction hwhole hfraction ?_ htail
      cases digits with
      | nil => exact nomatch hfirst
      | cons c digits => exact hfirst
    · rename_i hsplit
      obtain ⟨hparts, htail⟩ := Bool.and_eq_true_iff.1 h
      obtain ⟨hhours, hparts⟩ := Bool.and_eq_true_iff.1 hparts
      rw [List.isEmpty_iff.1 htail, List.append_nil] at hrest
      rw [← hrest]
      exact .sixtieths hsplit hhours hparts hfraction
    · exact nomatch h
  · exact nomatch h

theorem row_of_isWhole {s : List Char} (h : isWhole s) :
    (∀ c ∈ dropSeams s, isAsciiDigit c = true) ∧ dropSeams s ≠ [] := by
  obtain ⟨hfirst, hall⟩ := Bool.and_eq_true_iff.1 h
  exact ⟨fun _ => isAsciiDigit_of_mem_dropSeams hall, dropSeams_ne_nil hfirst⟩

/-- Hours, minutes and so on without their seams are rows of digits. -/
theorem rows_of_sixtieths {whole hours : List Char} {parts : List (List Char)}
    (hsplit : whole.splitOn ':' = hours :: parts) (hhours : isWhole hours)
    (hparts : parts.all isSixtieth) :
    ∀ part ∈ (dropSeams whole).splitOn ':',
      (∀ c ∈ part, isAsciiDigit c = true) ∧ part ≠ [] := by
  rw [splitOn_dropSeams, hsplit, List.map_cons, List.forall_mem_cons]
  refine ⟨row_of_isWhole hhours, fun part hpart => ?_⟩
  obtain ⟨own, hown, rfl⟩ := List.mem_map.1 hpart
  obtain ⟨hrow, hne, -⟩ := row_of_isSixtieth (List.all_eq_true.1 hparts own hown)
  rw [dropSeams_eq_self (notMem_row hrow rfl)]
  exact ⟨hrow, hne⟩

theorem map_toLower_rows {s : List Char}
    (h : ∀ part ∈ s.splitOn ':', ∀ c ∈ part, isAsciiDigit c = true) :
    s.map Char.toLower = s := by
  refine (List.map_congr_left fun c hc => ?_).trans (List.map_id _)
  obtain rfl | ⟨part, hpart, hmem⟩ := mem_splitOn hc
  · rfl
  · exact Literal.toLower_of_isAsciiDigit (h part hpart c hmem)

section Pointed

variable {whole fraction : List Char} (hfraction : fraction.all isDigitOrSeam)

include hfraction

theorem exists_readFraction_of_fraction {tail : List Char} (hwhole : whole.all isDigitOrSeam)
    (hfirst : (whole ++ fraction).head?.any isAsciiDigit) (htail : isExponent tail) :
    ∀ part ∈ ((dropSeams (whole ++ '.' :: (fraction ++ tail))).map Char.toLower).splitOn ':',
      ∃ x, readFraction part = .ok x := by
  have hrow : ∀ c ∈ dropSeams whole, isAsciiDigit c = true :=
    fun _ => isAsciiDigit_of_mem_dropSeams hwhole
  have hrow' : ∀ c ∈ dropSeams fraction, isAsciiDigit c = true :=
    fun _ => isAsciiDigit_of_mem_dropSeams hfraction
  have hne := dropSeams_ne_nil hfirst
  rw [dropSeams_append] at hne
  obtain ⟨htail, hseam, -⟩ := isTail_of_isExponent htail
  have hform : (dropSeams (whole ++ '.' :: (fraction ++ tail))).map Char.toLower =
      dropSeams whole ++ '.' :: (dropSeams fraction ++ tail.map Char.toLower) := by
    rw [dropSeams_append, dropSeams_cons_of_ne (by decide : '.' ≠ '_'), dropSeams_append,
      dropSeams_eq_self hseam, List.map_append, List.map_cons, List.map_append,
      map_toLower_row hrow, map_toLower_row hrow']
    rfl
  have hchars : ∀ c ∈ dropSeams whole ++ '.' :: (dropSeams fraction ++ tail.map Char.toLower),
      IsFloatChar c := by
    simp only [List.forall_mem_append, List.forall_mem_cons]
    exact ⟨fun c hc => .inl (hrow c hc), .inr (by decide), fun c hc => .inl (hrow' c hc),
      htail.chars⟩
  rw [hform, List.splitOn_eq_singleton fun hmem => ?_]
  · exact List.forall_mem_singleton.2 (exists_readFraction_point hrow hrow' hne htail)
  · exact absurd (hchars ':' hmem) (by unfold IsFloatChar; decide)

theorem exists_readFraction_of_sixtieths {hours : List Char} {parts : List (List Char)}
    (hsplit : whole.splitOn ':' = hours :: parts) (hhours : isWhole hours)
    (hparts : parts.all isSixtieth) :
    ∀ part ∈ ((dropSeams (whole ++ '.' :: fraction)).map Char.toLower).splitOn ':',
      ∃ x, readFraction part = .ok x := by
  have hrow : ∀ c ∈ dropSeams fraction, isAsciiDigit c = true :=
    fun _ => isAsciiDigit_of_mem_dropSeams hfraction
  have hrows := rows_of_sixtieths hsplit hhours hparts
  have hform : (dropSeams (whole ++ '.' :: fraction)).map Char.toLower =
      dropSeams whole ++ '.' :: dropSeams fraction := by
    rw [dropSeams_append, dropSeams_cons_of_ne (by decide : '.' ≠ '_'), List.map_append,
      List.map_cons, map_toLower_row hrow, map_toLower_rows fun part hpart => (hrows part hpart).1]
    rfl
  have hcolon : ':' ∉ '.' :: dropSeams fraction := fun hmem => by
    rcases List.mem_cons.1 hmem with heq | hmem
    · exact absurd heq (by decide)
    · exact absurd (hrow ':' hmem) (by decide)
  -- The point stands in the last part, which alone is no row of digits.
  obtain ⟨init, last, hinit, happend⟩ := splitOn_append hcolon (dropSeams whole)
  rw [hinit, List.forall_mem_append, List.forall_mem_singleton] at hrows
  obtain ⟨hinits, hlast, hne⟩ := hrows
  rw [hform, happend, List.forall_mem_append, List.forall_mem_singleton]
  constructor
  · exact fun part hpart => exists_readFraction_row (hinits part hpart).1 (hinits part hpart).2
  · have hread := exists_readFraction_point hlast hrow (by simp [hne]) isTail_nil
    rwa [List.append_nil] at hread

end Pointed

theorem Pointed.exists_readFraction {s : List Char} (h : Pointed s) :
    ∀ part ∈ ((dropSeams s).map Char.toLower).splitOn ':', ∃ x, readFraction part = .ok x := by
  cases h with
  | fraction hwhole hfraction hfirst htail =>
      exact exists_readFraction_of_fraction hfraction hwhole hfirst htail
  | sixtieths hsplit hhours hparts hfraction =>
      exact exists_readFraction_of_sixtieths hfraction hsplit hhours hparts

theorem exists_cons_of_isWhole {s : List Char} (h : isWhole s) :
    ∃ c rest, s = c :: rest ∧ isAsciiDigit c = true := by
  cases s with
  | nil => exact nomatch h
  | cons c rest => exact ⟨c, rest, rfl, (Bool.and_eq_true_iff.1 h).1⟩

theorem Pointed.exists_cons {s : List Char} (h : Pointed s) :
    ∃ c rest, s = c :: rest ∧ (isAsciiDigit c = true ∨ c = '.') := by
  cases h with
  | @fraction whole fraction tail hwhole hfraction hfirst htail =>
      cases whole with
      | nil => exact ⟨'.', _, rfl, .inr rfl⟩
      | cons c whole => exact ⟨c, _, rfl, .inl hfirst⟩
  | sixtieths hsplit hhours _ _ =>
      obtain ⟨c, more, rfl, hc⟩ := exists_cons_of_isWhole hhours
      obtain ⟨rest, rfl⟩ := exists_cons_of_splitOn hsplit
      exact ⟨c, _, rfl, .inl hc⟩

theorem Pointed.toNat_lt {s : List Char} (h : Pointed s) : ∀ c ∈ s, c.toNat < 0x80 := by
  cases h with
  | fraction hwhole hfraction hfirst htail =>
      simp only [List.forall_mem_append, List.forall_mem_cons]
      exact ⟨fun c hc => toNat_of_isDigitOrSeam (List.all_eq_true.1 hwhole c hc), by decide,
        fun c hc => toNat_of_isDigitOrSeam (List.all_eq_true.1 hfraction c hc),
        (isTail_of_isExponent htail).2.2⟩
  | sixtieths hsplit hhours hparts hfraction =>
      simp only [List.forall_mem_append, List.forall_mem_cons]
      refine ⟨fun c hc => ?_, by decide,
        fun c hc => toNat_of_isDigitOrSeam (List.all_eq_true.1 hfraction c hc)⟩
      obtain rfl | ⟨part, hpart, hmem⟩ := mem_splitOn hc
      · decide
      · rw [hsplit] at hpart
        rcases List.mem_cons.1 hpart with rfl | hpart
        · have hall := List.all_eq_true.1 (Bool.and_eq_true_iff.1 hhours).2
          exact toNat_of_isDigitOrSeam (hall c hmem)
        · have hrow := (row_of_isSixtieth (List.all_eq_true.1 hparts part hpart)).1
          have := Literal.toNat_of_isAsciiDigit (hrow c hmem)
          omega

/-- Underscores and letter case do not change the count of marks between parts. -/
theorem count_lowered {s : List Char} (hcode : ∀ c ∈ s, c.toNat < 0x80) :
    ((dropSeams s).map Char.toLower).count ':' = s.count ':' := by
  have hall : ∀ n < 0x80, (Char.ofNat n).toLower = ':' ↔ Char.ofNat n = ':' := by decide
  rw [dropSeams, List.count_eq_countP, List.count_eq_countP, List.countP_map, List.countP_filter]
  refine List.countP_congr fun c hc => ?_
  have hchar := hall c.toNat (hcode c hc)
  rw [Char.ofNat_toNat] at hchar
  simp only [Function.comp_apply, Bool.and_eq_true, beq_iff_eq, hchar, and_iff_left_iff_imp]
  rintro rfl
  rfl

theorem Pointed.exists_readFloatMagnitude_iff {s : List Char} (h : Pointed s) :
    (∃ x, readFloatMagnitude ((dropSeams s).map Char.toLower) = .ok x) ↔
      s.count ':' < maxParts := by
  rw [Document.exists_readFloatMagnitude_iff h.exists_readFraction, count_lowered h.toNat_lt]

/-! ### Signs -/

/-- The sign of a number does not depend on letter case and underscores. -/
theorem splitSign_lowered {s : List Char} {c : Char} {rest : List Char}
    (hbody : dropSign s = c :: rest) (hc : isAsciiDigit c = true ∨ c = '.') :
    splitSign ((dropSeams s).map Char.toLower) =
      ((splitSign s).1, (dropSeams (dropSign s)).map Char.toLower) := by
  rw [dropSign] at hbody ⊢
  revert hbody
  fun_cases splitSign s with
  | case1 => exact fun _ => rfl
  | case2 => exact fun _ => rfl
  | case3 =>
      rintro rfl
      have hfirst : c ≠ '_' ∧ c.toLower = c ∧ c ≠ '-' ∧ c ≠ '+' := by
        rcases hc with hdigit | rfl
        · refine ⟨?_, Literal.toLower_of_isAsciiDigit hdigit, ?_, ?_⟩ <;> rintro rfl <;>
            exact absurd hdigit (by decide)
        · decide
      rw [dropSeams_cons_of_ne hfirst.1, List.map_cons, hfirst.2.1]
      exact splitSign_of_head fun d hd => Option.some.inj hd ▸ hfirst.2.2

/-- A number has a value exactly if its magnitude has one. -/
theorem exists_readFloat_iff_magnitude {s : String} {c : Char} {rest : List Char}
    (hbody : dropSign s.toList = c :: rest) (hc : isAsciiDigit c = true ∨ c = '.')
    (hcode : ∀ c ∈ dropSign s.toList, c.toNat < 0x80) :
    (∃ x, readFloat s = .ok x) ↔
      ∃ x, readFloatMagnitude ((dropSeams (dropSign s.toList)).map Char.toLower) = .ok x := by
  have hcode : ∀ c ∈ dropSeams s.toList, c.toNat < 0x80 := fun c hc => by
    obtain hmem | rfl | rfl := Literal.mem_splitSign (mem_dropSeams.1 hc).1
    · exact hcode c hmem
    · decide
    · decide
  have hsign := splitSign_lowered hbody hc
  have hne : ((dropSeams s.toList).map Char.toLower).isEmpty = false := by
    rw [List.isEmpty_eq_false_iff]
    intro hnil
    have hseam : c ≠ '_' := by
      rintro rfl
      exact absurd hc (by decide)
    rw [hnil, hbody, dropSeams_cons_of_ne hseam] at hsign
    exact nomatch (Prod.mk.inj hsign).2
  have hread : readFloat s =
      (readFloatMagnitude ((dropSeams (dropSign s.toList)).map Char.toLower)).map fun x =>
        if (splitSign s.toList).1 then x.neg else x := by
    rw [readFloat, Text.lower_of_ascii hcode]
    dsimp only
    rw [hne, hsign]
    rfl
  rw [hread]
  simp [Except.map_eq_ok_iff]

/-- The words for what no digits express are numbers. -/
theorem exists_readFloat_word {s word : String}
    (hword : word ∈ [".inf", ".Inf", ".INF", ".nan", ".NaN", ".NAN"])
    (hbody : dropSign s.toList = word.toList) :
    (∃ x, readFloat s = .ok x) ∧ (dropSign s.toList).count ':' < maxParts := by
  have hall : ∀ word ∈ [".inf", ".Inf", ".INF", ".nan", ".NaN", ".NAN"],
      word.toList.head? = some '.' ∧ (word.toList.all fun c => decide (c.toNat < 0x80)) ∧
        word.toList.count ':' < maxParts ∧
        (dropSeams word.toList).map Char.toLower ∈ [".inf".toList, ".nan".toList] := by
    decide
  obtain ⟨hhead, hcode, hcount, hlower⟩ := hall word hword
  obtain ⟨rest, hrest⟩ := List.head?_eq_some_iff.1 hhead
  rw [exists_readFloat_iff_magnitude (hbody.trans hrest) (.inr rfl)
    (hbody ▸ List.all_iff_forall_prop.1 hcode), hbody]
  refine ⟨?_, hcount⟩
  rcases List.mem_cons.1 hlower with heq | hmem
  · exact ⟨_, by rw [heq]; rfl⟩
  · exact ⟨_, by rw [List.mem_singleton.1 hmem]; rfl⟩

theorem exists_readFloat_iff_of_pointed {s : String} (h : Pointed (dropSign s.toList)) :
    (∃ x, readFloat s = .ok x) ↔ (dropSign s.toList).count ':' < maxParts := by
  obtain ⟨c, rest, hbody, hc⟩ := h.exists_cons
  rw [exists_readFloat_iff_magnitude hbody hc h.toNat_lt, h.exists_readFloatMagnitude_iff]

/-- A text of the form of a number with a fraction is one exactly if it has not too many parts. -/
theorem exists_readFloat_iff {s : String} (h : isFloat s.toList) :
    (∃ x, readFloat s = .ok x) ↔ (dropSign s.toList).count ':' < maxParts := by
  simp only [isFloat, Bool.or_eq_true, List.contains_iff_mem] at h
  obtain ((hpointed | hinf) | hnan) | hpoint := h
  · exact exists_readFloat_iff_of_pointed (pointed_of_isPointed hpointed)
  · obtain ⟨hread, hcount⟩ := exists_readFloat_word
      (List.mem_append_left [".nan", ".NaN", ".NAN"] hinf) String.toList_ofList.symm
    exact iff_of_true hread hcount
  · have hword : s ∈ [".nan", ".NaN", ".NAN"] := by rwa [String.ofList_toList] at hnan
    have hsign : ∀ word ∈ [".nan", ".NaN", ".NAN"], dropSign word.toList = word.toList := by decide
    obtain ⟨hread, hcount⟩ := exists_readFloat_word
      (List.mem_append_right [".inf", ".Inf", ".INF"] hword) (hsign s hword)
    exact iff_of_true hread hcount
  · split at hpoint
    · rename_i c rest hs
      obtain ⟨hc, hexponent⟩ := Bool.and_eq_true_iff.1 hpoint
      have hdigit : isDigitOrSeam c = true := Bool.or_eq_true_iff.2 (.inl hc)
      have hfraction : (c :: rest.takeWhile isDigitOrSeam).all isDigitOrSeam := by
        rw [List.all_cons, hdigit, List.all_takeWhile]
        rfl
      have hpointed : Pointed ([] ++ '.' :: ((c :: rest.takeWhile isDigitOrSeam) ++
          rest.dropWhile isDigitOrSeam)) := .fraction rfl hfraction hc hexponent
      rw [List.cons_append, List.takeWhile_append_dropWhile] at hpointed
      refine exists_readFloat_iff_of_pointed ?_
      rw [hs]
      exact hpointed
    · exact nomatch hpoint

end MetricQuery.Document
