import MetricQuery.Keyed
import MetricQuery.Proofs.Equality

/-!
# Lists with equal members

A list without repeats stands for a set, and two such lists are equal as sets if they have as many
elements and each element of the first equals one of the second.  Here this is traced back to what
it is meant to say (`AlikeSets.sameMembers`): each element of one list equals an element of the
other.  Neither the order nor repeats make a difference to this relation, so it holds between a list
and its first occurrences and between a list and its permutations.

## Main definitions

* `AlikeSets` : lists whose elements are equal without regard to order and repeats.

## Main results

* `alikeSets_distinct`, `AlikeSets.of_perm` : lists with equal members.
* `filter_distinct` : of equal elements just the first is kept.
* `distinct_distinct_append` : first occurrences taken ahead in the front one of two lists.
* `NoRepeats.length_le` : different elements that all have equal ones in another list.
* `AlikeSets.sameMembers` : equality of lists without repeats as sets.
-/

namespace MetricQuery

variable {α : Type} [BEq α] {xs ys zs : List α}

/-- Each element of one list equals an element of the other one. -/
structure AlikeSets (xs ys : List α) : Prop where
  left : ∀ x ∈ xs, ∃ y ∈ ys, (x == y) = true
  right : ∀ y ∈ ys, ∃ x ∈ xs, (y == x) = true

theorem AlikeSets.symm (h : AlikeSets xs ys) : AlikeSets ys xs :=
  ⟨h.right, h.left⟩

theorem AlikeSets.of_perm [ReflBEq α] (h : xs.Perm ys) : AlikeSets xs ys :=
  ⟨fun x hx => ⟨x, h.mem_iff.1 hx, BEq.rfl⟩, fun y hy => ⟨y, h.mem_iff.2 hy, BEq.rfl⟩⟩

/-- Lists with equal members stay so under a test that does not tell equal elements apart. -/
theorem AlikeSets.filter (h : AlikeSets xs ys) {p : α → Bool}
    (hp : ∀ x y, (x == y) = true → p x = p y) : AlikeSets (xs.filter p) (ys.filter p) := by
  constructor
  · intro x hx
    obtain ⟨hx, hpx⟩ := List.mem_filter.1 hx
    obtain ⟨y, hy, hxy⟩ := h.left x hx
    exact ⟨y, List.mem_filter.2 ⟨hy, hp x y hxy ▸ hpx⟩, hxy⟩
  · intro y hy
    obtain ⟨hy, hpy⟩ := List.mem_filter.1 hy
    obtain ⟨x, hx, hyx⟩ := h.right y hy
    exact ⟨x, List.mem_filter.2 ⟨hx, hp y x hyx ▸ hpy⟩, hyx⟩

variable [EquivBEq α]

theorem AlikeSets.trans (h : AlikeSets xs ys) (h' : AlikeSets ys zs) : AlikeSets xs zs := by
  constructor
  · intro x hx
    obtain ⟨y, hy, hxy⟩ := h.left x hx
    obtain ⟨z, hz, hyz⟩ := h'.left y hy
    exact ⟨z, hz, BEq.trans hxy hyz⟩
  · intro z hz
    obtain ⟨y, hy, hzy⟩ := h'.right z hz
    obtain ⟨x, hx, hyx⟩ := h.right y hy
    exact ⟨x, hx, BEq.trans hzy hyx⟩

/-- Every element equals a first occurrence. -/
theorem exists_mem_distinct {x : α} (hx : x ∈ xs) : ∃ y ∈ distinct xs, (x == y) = true := by
  induction xs with
  | nil => exact absurd hx List.not_mem_nil
  | cons first rest ih =>
      rw [distinct]
      rcases List.mem_cons.1 hx with rfl | hx
      · exact ⟨x, List.mem_cons_self, BEq.rfl⟩
      · obtain ⟨y, hy, hxy⟩ := ih hx
        cases hfirst : first == y with
        | true => exact ⟨first, List.mem_cons_self, BEq.trans hxy (BEq.symm hfirst)⟩
        | false =>
            have hkept : y ∈ (distinct rest).filter fun z => !(first == z) :=
              List.mem_filter.2 ⟨hy, by simp [hfirst]⟩
            exact ⟨y, List.mem_cons_of_mem _ hkept, hxy⟩

/-- A list and its first occurrences have equal members. -/
theorem alikeSets_distinct (xs : List α) : AlikeSets (distinct xs) xs :=
  ⟨fun x hx => ⟨x, (distinct_sublist xs).subset hx, BEq.rfl⟩, fun _ => exists_mem_distinct⟩

theorem any_distinct (xs : List α) (y : α) :
    (distinct xs).any (· == y) = xs.any (· == y) := by
  rw [Bool.eq_iff_iff, List.any_eq_true, List.any_eq_true]
  constructor
  · rintro ⟨x, hx, hxy⟩
    exact ⟨x, (distinct_sublist xs).subset hx, hxy⟩
  · rintro ⟨x, hx, hxy⟩
    obtain ⟨z, hz, hxz⟩ := exists_mem_distinct hx
    exact ⟨z, hz, BEq.trans (BEq.symm hxz) hxy⟩

/-- Of the elements that equal a given one, just the first is a first occurrence. -/
theorem filter_distinct (xs : List α) (x : α) :
    (distinct xs).filter (x == ·) = (xs.find? (x == ·)).toList := by
  induction xs with
  | nil => rfl
  | cons y rest ih =>
      rw [distinct]
      cases hxy : x == y with
      | true =>
          -- What equals `x` equals `y`, so none of it is left behind `y`.
          have hnone : ∀ z ∈ (distinct rest).filter fun z => !(y == z), ¬(x == z) = true := by
            intro z hz
            rw [BEq.congr_left hxy]
            simpa using (List.mem_filter.1 hz).2
          rw [List.filter_cons_of_pos hxy, List.filter_eq_nil_iff.2 hnone,
            List.find?_cons_of_pos hxy, Option.toList_some]
      | false =>
          have hkeep : ∀ z, ((x == z) && !(y == z)) = (x == z) := by
            intro z
            cases hxz : x == z with
            | false => rfl
            | true => rw [BEq.comm, ← BEq.congr_left hxz, hxy, Bool.not_false, Bool.and_true]
          rw [List.filter_cons_of_neg (by simp [hxy]), List.filter_filter,
            List.find?_cons_of_neg (by simp [hxy]), ← ih]
          simp only [hkeep]

/-- First occurrences may be taken ahead in the front one of two lists. -/
theorem distinct_distinct_append (xs ys : List α) :
    distinct (distinct xs ++ ys) = distinct (xs ++ ys) := by
  simp only [distinct_append, distinct_distinct, any_distinct]

/-- Different elements that all have equal ones in another list are no more than the elements of
the other list. -/
theorem NoRepeats.length_le (hxs : NoRepeats xs) (h : ∀ x ∈ xs, ∃ y ∈ ys, (x == y) = true) :
    xs.length ≤ ys.length := by
  induction xs generalizing ys with
  | nil => exact Nat.zero_le _
  | cons x rest ih =>
      obtain ⟨hfirst, hrest⟩ := List.pairwise_cons.1 hxs
      obtain ⟨hx, hothers⟩ := List.forall_mem_cons.1 h
      obtain ⟨y, hy, hxy⟩ := hx
      obtain ⟨before, after, rfl⟩ := List.append_of_mem hy
      -- The partner of `x` is no partner of another element, so it can be left out.
      have hle : rest.length ≤ (before ++ after).length := by
        refine ih hrest fun x' hx' => ?_
        obtain ⟨y', hy', hxy'⟩ := hothers x' hx'
        rcases List.mem_append.1 hy' with hy' | hy'
        · exact ⟨y', List.mem_append_left _ hy', hxy'⟩
        rcases List.mem_cons.1 hy' with rfl | hy'
        · exact absurd (BEq.trans hxy (BEq.symm hxy')) (by simp [hfirst x' hx'])
        · exact ⟨y', List.mem_append_right _ hy', hxy'⟩
      simp only [List.length_append, List.length_cons] at hle ⊢
      omega

theorem AlikeSets.length_eq (h : AlikeSets xs ys) (hxs : NoRepeats xs) (hys : NoRepeats ys) :
    xs.length = ys.length :=
  Nat.le_antisymm (hxs.length_le h.left) (hys.length_le h.right)

/-- Lists without repeats are equal as sets if they have equal members. -/
theorem AlikeSets.sameMembers (h : AlikeSets xs ys) (hxs : NoRepeats xs) (hys : NoRepeats ys) :
    sameMembers xs ys = true := by
  rw [MetricQuery.sameMembers, Bool.and_eq_true, beq_iff_eq, List.all_eq_true]
  exact ⟨h.length_eq hxs hys, fun x hx => List.any_eq_true.2 (h.left x hx)⟩

end MetricQuery
