import Mathlib.Data.List.TakeWhile
import MetricQuery.Proofs.Number.Numeral

/-!
# Integers read back

A written integer of at most 4300 digits is read as itself (`Literal.readInteger_toString`).  Of the
basic characters a text that is read as an integer holds digits, underscores, signs and spacing only
(`Literal.isIntegerChar_of_readInteger`).  A written binary number always holds a point or one of
the letters `e` and `n`, so it is never read as an integer (`Binary64.readInteger_text_ne_ok`).

## Main definitions

* `Literal.IsIntegerChar` : the basic characters of texts that are read as integers.

## Main results

* `Literal.readInteger_toString` : a written integer is read back.
* `Binary64.readInteger_text_ne_ok` : a written binary number is no integer.
-/

namespace MetricQuery

namespace Literal

open Text

/-! ### Written integers -/

/-- Different integers are written differently. -/
theorem toString_int_inj {m n : Int} : toString m = toString n ↔ m = n := by
  refine ⟨fun h => ?_, fun h => h ▸ rfl⟩
  have hsplit := splitSign_toString m
  rw [h, splitSign_toString, Prod.mk.injEq, decide_eq_decide] at hsplit
  obtain ⟨hsign, hdigits⟩ := hsplit
  have hvalue : n.natAbs = m.natAbs := by
    rw [← digitsValue_toDigits n.natAbs, hdigits, digitsValue_toDigits]
  omega

theorem ungrouped?_of_notMem {row : List Char} (hne : row ≠ []) (h : '_' ∉ row) :
    ungrouped? row = some row := by
  have hgroups : row.splitOn '_' = [row] := List.splitOn_eq_singleton h
  simp [ungrouped?, hgroups, hne]

/-- A written integer is read back, if it does not have too many digits. -/
theorem readInteger_toString {n : Int}
    (h : (Nat.toDigits 10 n.natAbs).length ≤ maxIntegerDigits) :
    readInteger (toString n).toList = .ok n := by
  have hrow : ∀ c ∈ Nat.toDigits 10 n.natAbs, (isAsciiDigit c || c == '_') = true := fun c hc => by
    rw [isAsciiDigit_of_mem_toDigits hc, Bool.true_or]
  have hseparator : '_' ∉ Nat.toDigits 10 n.natAbs := fun hmem =>
    absurd (isAsciiDigit_of_mem_toDigits hmem) (by decide)
  have htake := List.takeWhile_eq_self_iff.2 hrow
  have hdrop := List.dropWhile_eq_nil_iff.2 hrow
  simp only [readInteger, plainForm_toString, splitSign_toString, htake, hdrop,
    ungrouped?_of_notMem Nat.toDigits_ne_nil hseparator, if_neg (Nat.not_lt.2 h),
    digitsValue_toDigits]
  by_cases hneg : n < 0
  · simp [hneg, abs_of_neg hneg]
  · simp [hneg, abs_of_nonneg (not_lt.1 hneg)]

/-! ### Texts that are no integers -/

/-- The basic characters of texts that are read as integers. -/
def IsIntegerChar (c : Char) : Prop :=
  isAsciiDigit c = true ∨ c = '_' ∨ c = '-' ∨ c = '+' ∨ isSpacing c = true

instance (c : Char) : Decidable (IsIntegerChar c) :=
  inferInstanceAs (Decidable (_ ∨ _))

theorem mem_trimBy {p : Char → Bool} {s : List Char} {c : Char} (hc : c ∈ s) (h : p c = false) :
    c ∈ trimBy p s := by
  have hdrop {s' : List Char} (hs' : c ∈ s') : c ∈ s'.dropWhile p := by
    rw [← List.takeWhile_append_dropWhile (p := p) (l := s'), List.mem_append] at hs'
    refine hs'.resolve_left fun htake => ?_
    rw [List.mem_takeWhile_imp htake] at h
    exact absurd h (by decide)
  rw [trimBy, List.mem_reverse]
  exact hdrop (List.mem_reverse.2 (hdrop hc))

theorem mem_splitSign {s : List Char} {c : Char} (hc : c ∈ s) :
    c ∈ (splitSign s).2 ∨ c = '-' ∨ c = '+' := by
  fun_cases splitSign s with
  | case1 rest => exact (List.mem_cons.1 hc).symm.imp_right .inl
  | case2 rest => exact (List.mem_cons.1 hc).symm.imp_right .inr
  | case3 => exact .inl hc

/-- Behind its sign a text that is read as an integer holds digits and underscores. -/
theorem inRow_of_readInteger {s : List Char} {n : Int} (h : readInteger s = .ok n) :
    ∀ c ∈ (splitSign (plainForm s)).2, (isAsciiDigit c || c == '_') = true := by
  rcases hsign : splitSign (plainForm s) with ⟨negative, body⟩
  simp only [readInteger, hsign] at h
  split at h
  next => exact nomatch h
  next digits hdigits =>
    split_ifs at h with hlong hrest
    all_goals
      rw [Bool.not_eq_true, Bool.not_eq_false', List.isEmpty_iff] at hrest
      exact List.dropWhile_eq_nil_iff.1 hrest

/-- A text that is read as an integer has no other basic characters. -/
theorem isIntegerChar_of_readInteger {s : List Char} {n : Int} (h : readInteger s = .ok n)
    {c : Char} (hc : c ∈ s) (hplain : c.toNat < 0x7F) : IsIntegerChar c := by
  by_cases hspacing : isSpacing c = true
  · exact .inr (.inr (.inr (.inr hspacing)))
  have hmem : c ∈ plainForm s := by
    refine mem_trimBy (List.mem_map.2 ⟨c, hc, if_pos hplain⟩) (Bool.eq_false_iff.2 hspacing)
  rcases mem_splitSign hmem with hbody | hminus | hplus
  · have hrow := inRow_of_readInteger h c hbody
    rw [Bool.or_eq_true, beq_iff_eq] at hrow
    exact hrow.imp_right .inl
  · exact .inr (.inr (.inl hminus))
  · exact .inr (.inr (.inr (.inl hplus)))

end Literal

/-! ### Written binary numbers -/

open Literal

/-- A number that keeps its fraction is written with a point or an exponent. -/
theorem Layout.mem_render {layout : Layout} (h : layout.pointZero = true) (d : Decimal) :
    '.' ∈ layout.render d ∨ 'e' ∈ layout.render d := by
  have hexponent (n : Int) : 'e' ∈ exponentText n := List.mem_cons_self
  simp only [render, h]
  split_ifs
  · simp
  · simp
  · simp
  · rcases hdigits : Nat.toDigits 10 d.digits with _ | ⟨first, _ | ⟨second, rest⟩⟩
    · exact absurd hdigits Nat.toDigits_ne_nil
    · exact .inr (List.mem_cons_of_mem _ (hexponent _))
    · simp

namespace Binary64

theorem mem_text (x : Binary64) : '.' ∈ x.text ∨ 'e' ∈ x.text ∨ 'n' ∈ x.text := by
  cases x with
  | nan => simp [text, textBy]
  | infinite negative => simp [text, textBy]
  | finite negative mantissa exponent =>
      have hrender : '.' ∈ valueLayout.render (shortest mantissa exponent) ∨
          'e' ∈ valueLayout.render (shortest mantissa exponent) := Layout.mem_render rfl _
      simp only [text, textBy, List.mem_append]
      exact hrender.imp .inr fun hmark => .inl (.inr hmark)

/-- A written binary number is no integer. -/
theorem readInteger_text_ne_ok (x : Binary64) (n : Int) : readInteger x.text ≠ .ok n := by
  intro h
  rcases x.mem_text with hmem | hmem | hmem
  all_goals exact absurd (isIntegerChar_of_readInteger h hmem (by decide)) (by decide)

end Binary64

end MetricQuery
