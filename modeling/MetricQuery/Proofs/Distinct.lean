import MetricQuery.Collection

/-!
# First occurrences

Of equal elements `distinct` keeps the first one.  The result is characterised without any law of
equality: a list stays as it is exactly if no element equals an earlier one
(`distinct_eq_self_iff`), and a result is always of this kind (`noRepeats_distinct`), so a second
pass changes nothing.  Where equal elements are the same, `distinct` is the removal of duplicates of
the library (`distinct_eq_eraseDups`).

## Main definitions

* `NoRepeats` : lists in which no element equals an earlier one.

## Main results

* `noRepeats_distinct`, `distinct_eq_self_iff` : the lists without repeats.
* `distinct_distinct` : a second pass changes nothing.
* `distinct_map`, `distinct_concat`, `distinct_append` : the first occurrences under a map, with one
  more element, and in two lists behind each other.
* `mem_takeWhile_distinct` : what comes up before a given element.
* `distinct_eq_eraseDups` : the removal of duplicates.
-/

namespace MetricQuery

variable {α : Type} [BEq α]

/-! ### Lists without repeats -/

/-- No element of a list equals an earlier one. -/
def NoRepeats (xs : List α) : Prop :=
  xs.Pairwise fun x y => (x == y) = false

theorem noRepeats_distinct : (xs : List α) → NoRepeats (distinct xs)
  | [] => .nil
  | x :: rest => by
      rw [distinct, NoRepeats, List.pairwise_cons]
      refine ⟨fun y hy => ?_, (noRepeats_distinct rest).filter _⟩
      simpa using (List.mem_filter.1 hy).2

theorem NoRepeats.distinct_eq {xs : List α} (h : NoRepeats xs) : distinct xs = xs := by
  induction xs with
  | nil => rfl
  | cons x rest ih =>
      obtain ⟨hx, hrest⟩ := List.pairwise_cons.1 h
      rw [distinct, ih hrest, List.filter_eq_self.2 fun y hy => by rw [hx y hy]; rfl]

/-- A list stays as it is exactly if no element equals an earlier one. -/
theorem distinct_eq_self_iff {xs : List α} : distinct xs = xs ↔ NoRepeats xs :=
  ⟨fun h => h ▸ noRepeats_distinct xs, NoRepeats.distinct_eq⟩

@[simp] theorem distinct_distinct (xs : List α) : distinct (distinct xs) = distinct xs :=
  (noRepeats_distinct xs).distinct_eq

theorem distinct_sublist : (xs : List α) → (distinct xs).Sublist xs
  | [] => .slnil
  | _ :: rest => (List.filter_sublist.trans (distinct_sublist rest)).cons_cons _

/-- A list loses no element exactly if no element equals an earlier one. -/
theorem length_distinct_eq_iff {xs : List α} : (distinct xs).length = xs.length ↔ NoRepeats xs := by
  rw [← distinct_eq_self_iff]
  exact ⟨(distinct_sublist xs).eq_of_length, congrArg List.length⟩

/-- The first occurrences stay the same under a map that neither makes elements equal nor keeps
equal ones apart. -/
theorem distinct_map {β : Type} [BEq β] {f : α → β} (hf : ∀ x y, (f x == f y) = (x == y))
    (xs : List α) : distinct (xs.map f) = (distinct xs).map f := by
  induction xs with
  | nil => rfl
  | cons x rest ih =>
      simp only [List.map_cons, distinct, ih, List.filter_map, Function.comp_def, hf]

/-- A last element is kept if no earlier one equals it. -/
theorem distinct_concat (xs : List α) (x : α) :
    distinct (xs ++ [x]) = distinct xs ++ if xs.any (· == x) then [] else [x] := by
  induction xs with
  | nil => rfl
  | cons y rest ih =>
      rw [List.cons_append, distinct, ih, distinct, List.filter_append, List.any_cons,
        List.cons_append]
      cases hyx : y == x with
      | true => cases rest.any (· == x) <;> simp [hyx]
      | false => cases rest.any (· == x) <;> simp [hyx]

/-- Of a list behind another one those first occurrences are kept that equal no element of the other
one. -/
theorem distinct_append (xs ys : List α) :
    distinct (xs ++ ys) = distinct xs ++ (distinct ys).filter fun y => !xs.any (· == y) := by
  induction xs with
  | nil => exact (List.filter_eq_self.2 fun _ _ => rfl).symm
  | cons x rest ih =>
      simp only [List.cons_append, distinct, ih, List.filter_append, List.filter_filter,
        List.any_cons, Bool.not_or]

/-- First occurrences may be taken ahead in the rear one of two lists. -/
theorem distinct_append_distinct (xs ys : List α) :
    distinct (xs ++ distinct ys) = distinct (xs ++ ys) := by
  rw [distinct_append, distinct_append, distinct_distinct]

theorem NoRepeats.concat {xs : List α} (h : NoRepeats xs) {y : α}
    (hy : ∀ x ∈ xs, (x == y) = false) : NoRepeats (xs ++ [y]) := by
  refine List.pairwise_append.2 ⟨h, List.pairwise_singleton .., fun x hx z hz => ?_⟩
  rw [List.mem_singleton.1 hz]
  exact hy x hx

/-! ### Equal elements that are the same -/

variable [LawfulBEq α]

theorem noRepeats_iff_nodup {xs : List α} : NoRepeats xs ↔ xs.Nodup := by
  simp only [NoRepeats, List.Nodup, beq_eq_false_iff_ne]

theorem distinct_filter (p : α → Bool) (xs : List α) :
    distinct (xs.filter p) = (distinct xs).filter p := by
  induction xs with
  | nil => rfl
  | cons x rest ih =>
      cases hx : p x with
      | true =>
          simp only [List.filter_cons, hx, ↓reduceIte, distinct, ih, List.filter_filter,
            Bool.and_comm]
      | false =>
          -- Nothing that passes the filter equals `x`.
          have hkeep : ∀ y ∈ distinct rest, (p y && !(x == y)) = p y := by
            intro y _
            by_cases hxy : x = y
            · rw [← hxy, hx, Bool.false_and]
            · rw [beq_eq_false_iff_ne.2 hxy, Bool.not_false, Bool.and_true]
          simp only [List.filter_cons, hx, Bool.false_eq_true, ↓reduceIte, distinct, ih,
            List.filter_filter]
          exact (List.filter_congr hkeep).symm

omit [BEq α] [LawfulBEq α] in
/-- A beginning may be taken before or after a choice that keeps the element it stops at. -/
theorem takeWhile_filter {p q : α → Bool} (h : ∀ x, p x = false → q x = true) (xs : List α) :
    (xs.filter q).takeWhile p = (xs.takeWhile p).filter q := by
  induction xs with
  | nil => rfl
  | cons x rest ih =>
      cases hp : p x with
      | false => simp [h x hp, hp]
      | true =>
          cases hq : q x with
          | true => simp [hp, hq, ih]
          | false => simp [hp, hq, ih]

/-- What comes up before a given element does so among the first occurrences. -/
theorem mem_takeWhile_distinct {xs : List α} {x y : α} :
    y ∈ (distinct xs).takeWhile (· != x) ↔ y ∈ xs.takeWhile (· != x) := by
  induction xs with
  | nil => exact Iff.rfl
  | cons z rest ih =>
      by_cases hzx : z = x
      · simp [distinct, hzx]
      · -- `x` is not dropped for being equal to `z`.
        have hkeep : ∀ w, (w != x) = false → (!(z == w)) = true := by
          intro w hw
          rw [bne_eq_false_iff_eq.1 hw, beq_eq_false_iff_ne.2 hzx, Bool.not_false]
        rw [distinct, List.takeWhile_cons, List.takeWhile_cons, if_pos (bne_iff_ne.2 hzx),
          if_pos (bne_iff_ne.2 hzx), takeWhile_filter hkeep, List.mem_cons, List.mem_cons,
          List.mem_filter, ih]
        by_cases hyz : y = z
        · simp [hyz]
        · simp [hyz, Ne.symm hyz]

/-- Keeping the first of equal elements is the removal of duplicates. -/
theorem distinct_eq_eraseDups : (xs : List α) → distinct xs = xs.eraseDups
  | [] => rfl
  | x :: rest => by
      rw [List.eraseDups_cons, ← distinct_eq_eraseDups (rest.filter fun y => !y == x),
        distinct_filter, distinct]
      simp only [Bool.beq_comm]
termination_by xs => xs.length
decreasing_by exact Nat.lt_succ_of_le (List.length_filter_le ..)

end MetricQuery
