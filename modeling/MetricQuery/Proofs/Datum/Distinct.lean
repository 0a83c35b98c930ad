import Mathlib.Data.List.Induction
import MetricQuery.Proofs.Collection
import MetricQuery.Proofs.Keyed
import MetricQuery.Proofs.Members
import MetricQuery.Proofs.Number.Rounding

/-!
# First occurrences among scalars

Texts, truth values, integers, binary numbers and the absent value stand side by side in a list, and
of equal ones the first is kept.  Truth values, integers and finite binary numbers are fractions
with a power of two below the line, and they are equal if the integers above the line are, once each
is multiplied by the denominator of the other: nothing is rounded, so an integer beyond `2 ^ 53` is
kept apart from the binary number nearest to it.  Any other scalar equals itself only.  So equality
is an equivalence, and it does not matter which of two equal elements a third one is compared with.

The elements may as well enter a map one after the other, which keeps the key it has under an equal
one (`Keyed.keys_ofList_eq_distinct`).

## Main definitions

* `Scalar.fraction?` : the fraction that a scalar is.
* `Scalar.Equals` : equality without rounding.

## Main results

* `Scalar.beq_iff_equals` : scalars are equal if their fractions are.
* `Keyed.keys_ofList_eq_distinct` : the keys of a map are first occurrences.
* `Scalar.distinct_firstOccurrences` : what is kept of a list of scalars, and of two lists behind
  each other.
-/

namespace MetricQuery

/-! ### Equality without rounding -/

namespace Scalar

/-- The fraction that a scalar is, if it is one: an integer over a power of two, of which the
exponent is given. -/
def fraction? : Scalar → Option (Int × Nat)
  | bool b => some (if b then 1 else 0, 0)
  | int n => some (n, 0)
  | float (.finite negative mantissa exponent) =>
    some ((if negative then -(mantissa : Int) else mantissa) * 2 ^ exponent.toNat,
      (-exponent).toNat)
  | _ => none

/-- Equality of scalars: fractions are compared by cross multiplication of integers, and a scalar
that is no fraction equals itself only. -/
def Equals (x y : Scalar) : Prop :=
  match x.fraction?, y.fraction? with
  | some (m, p), some (n, q) => m * 2 ^ q = n * 2 ^ p
  | none, none => x = y
  | _, _ => False

variable {x y : Scalar}

/-- A fraction denotes its value. -/
theorem denotation_of_fraction? {m : Int} {p : Nat} (h : x.fraction? = some (m, p)) :
    x.denotation = .number (m / 2 ^ p) := by
  cases x with
  | null | text s => cases h
  | bool b =>
      obtain ⟨rfl, rfl⟩ : (if b then 1 else 0) = m ∧ 0 = p := by simpa [fraction?] using h
      cases b <;> simp [Scalar.denotation]
  | int n =>
      obtain ⟨rfl, rfl⟩ : n = m ∧ 0 = p := by simpa [fraction?] using h
      simp [Scalar.denotation]
  | float x =>
      cases x with
      | nan | infinite negative => cases h
      | finite negative mantissa exponent =>
          obtain ⟨rfl, rfl⟩ : (if negative then -(mantissa : Int) else mantissa) *
              2 ^ exponent.toNat = m ∧ (-exponent).toNat = p := by simpa [fraction?] using h
          have hpower : (2 : ℚ) ^ exponent = 2 ^ exponent.toNat / 2 ^ (-exponent).toNat := by
            rw [← zpow_natCast, ← zpow_natCast, ← zpow_sub₀ two_ne_zero, Int.toNat_sub_toNat_neg]
          simp only [Scalar.denotation, Binary64.value?_finite, Option.getD_some, hpower]
          cases negative <;> simp [mul_div_assoc, neg_div]

/-- What is no fraction denotes no number. -/
theorem denotation_ne_number (h : x.fraction? = none) (q : ℚ) : x.denotation ≠ .number q := by
  cases x with
  | null | text s => simp [Scalar.denotation]
  | bool b | int n => cases h
  | float x =>
      cases x with
      | nan | infinite negative => simp [Scalar.denotation]
      | finite negative mantissa exponent => cases h

/-- Different scalars that are no fractions denote different things. -/
theorem eq_of_denotation_eq (hx : x.fraction? = none) (hy : y.fraction? = none)
    (h : x.denotation = y.denotation) : x = y := by
  cases x with
  | bool b | int n => exact nomatch hx
  | null | text s =>
      cases y with
      | float y => cases y <;> simp_all [Scalar.denotation, fraction?]
      | _ => simp_all [Scalar.denotation, fraction?]
  | float x =>
      cases y with
      | float y => cases x <;> cases y <;> simp_all [Scalar.denotation, fraction?]
      | _ => cases x <;> simp_all [Scalar.denotation, fraction?]

/-- Scalars are equal if their fractions are. -/
theorem beq_iff_equals : (x == y) = true ↔ x.Equals y := by
  rw [beq_iff, Equals]
  cases hx : x.fraction? with
  | some f =>
      cases hy : y.fraction? with
      | some g =>
          rw [Scalar.denotation_of_fraction? hx, Scalar.denotation_of_fraction? hy,
            Denotation.number.injEq, div_eq_div_iff (by positivity) (by positivity)]
          exact_mod_cast Iff.rfl
      | none =>
          rw [Scalar.denotation_of_fraction? hx]
          exact iff_of_false (denotation_ne_number hy _).symm id
  | none =>
      cases hy : y.fraction? with
      | some g =>
          rw [Scalar.denotation_of_fraction? hy]
          exact iff_of_false (denotation_ne_number hx _) id
      | none => exact ⟨eq_of_denotation_eq hx hy, congrArg denotation⟩

/-- Equality without rounding is an equivalence. -/
theorem equivalence_equals : Equivalence Equals where
  refl _ := beq_iff_equals.1 BEq.rfl
  symm h := beq_iff_equals.1 (BEq.symm (beq_iff_equals.2 h))
  trans h h' := beq_iff_equals.1 (BEq.trans (beq_iff_equals.2 h) (beq_iff_equals.2 h'))

end Scalar

/-! ### Elements that enter a map one after the other -/

namespace Keyed

variable {κ ν : Type} [BEq κ]

/-- The keys of the map of a list of entries are the first occurrences of their keys. -/
theorem keys_ofList_eq_distinct [EquivBEq κ] (entries : List (κ × ν)) :
    keys (ofList entries) = distinct (keys entries) := by
  induction entries using List.reverseRecOn with
  | nil => rfl
  | append_singleton entries entry ih =>
      have hlast : ofList (entries ++ [entry]) = put (ofList entries) entry.1 entry.2 :=
        List.foldl_concat ..
      have hkeys : keys (entries ++ [entry]) = keys entries ++ [entry.1] := List.map_append
      rw [hlast, hkeys, keys_put, ih, distinct_concat, any_distinct]

end Keyed

/-! ### First occurrences -/

/-- **Of equal scalars the first one is kept.**  Let two lists of scalars be given.

* Equality compares fractions by cross multiplication of integers, and is an equivalence.
* A list can always be read; what is kept are the keys of a map which the elements enter one after
  the other.
* What is kept is a part of the list in its order, and no two elements of it are equal.
* Each element of the list equals just one that is kept, namely the first of its equals.
* Of two lists behind each other the same is kept if first occurrences are taken ahead in one of
  the two. -/
theorem Scalar.distinct_firstOccurrences (xs ys : List Scalar) :
    (∀ x y : Scalar, (x == y) = true ↔ x.Equals y) ∧ Equivalence Scalar.Equals ∧
    (Datum.list (xs.map Datum.scalar)).distinctScalars = .ok (distinct xs) ∧
    distinct xs = (Keyed.ofList (xs.map (·, ()))).keys ∧
    (distinct xs).Sublist xs ∧ (distinct xs).Pairwise (fun x y => ¬x.Equals y) ∧
    (∀ x ∈ xs, ∃ first, xs.find? (x == ·) = some first ∧
      (distinct xs).filter (x == ·) = [first]) ∧
    distinct (distinct xs ++ ys) = distinct (xs ++ ys) ∧
    distinct (xs ++ distinct ys) = distinct (xs ++ ys) := by
  refine ⟨fun _ _ => beq_iff_equals, equivalence_equals, Datum.distinctScalars_scalars xs, ?_,
    distinct_sublist xs, ?_, fun x hx => ?_, distinct_distinct_append xs ys,
    distinct_append_distinct xs ys⟩
  · rw [Keyed.keys_ofList_eq_distinct, Keyed.keys, List.map_map]
    exact congrArg distinct (List.map_id xs).symm
  · refine (noRepeats_distinct xs).imp fun {x y} hxy h => ?_
    rw [beq_iff_equals.2 h] at hxy
    exact Bool.false_ne_true hxy.symm
  · have hfound : (xs.find? (x == ·)).isSome := List.find?_isSome.2 ⟨x, hx, BEq.rfl⟩
    obtain ⟨first, hfirst⟩ := Option.isSome_iff_exists.1 hfound
    exact ⟨first, hfirst, by rw [filter_distinct, hfirst, Option.toList_some]⟩

-- `2 ^ 53 + 1` is kept apart from the binary number nearest to it.
example :
    distinct [.bool true, .int 1, .int (2 ^ 53 + 1), .float (.finite false (2 ^ 52) 1),
      .int (2 ^ 53), .null] =
      [Scalar.bool true, .int (2 ^ 53 + 1), .float (.finite false (2 ^ 52) 1), .null] := by
  rfl

end MetricQuery
