import MetricQuery.Proofs.Spec.TimeSort

/-!
# A directive of any column as the time sort

An update of the time sort takes any directive and does not look at its column.  It puts the
directive in front of the other sorts and drops what equals it behind.  The views are derived from
the list that results, so a directive of the column of time becomes the time sort and leaves the
other sorts alone, whereas a directive of another column becomes the first of the other sorts, and
there is no time sort left.

## Main results

* `timeSort?_combineSorts`, `standardSorts_combineSorts` : the views of a list that is put together.
* `cons_filter_ne_eq_self_iff` : when moving an element to the front changes nothing.
* `Spec.sorts_update_timeSort_eq_iff` : when an update of the time sort keeps the other sorts.
-/

namespace MetricQuery

/-! ### Views of a list that is put together -/

section Views

variable {sorts : List SortDirective} {d : SortDirective}

/-- Of a list that is put together only the directive in front can be a time sort. -/
theorem timeSort?_combineSorts (first : Option SortDirective) (sorts : List SortDirective) :
    timeSort? (combineSorts first sorts) = first.filter (·.isTime) := by
  have hothers : ∀ d ∈ (combineSorts first sorts).tail, ¬ d.isTime = true := by
    intro d hd
    rw [isTime_of_mem_tail_combineSorts hd]
    exact Bool.false_ne_true
  cases first with
  | none =>
      refine List.find?_eq_none.2 fun d hd => ?_
      rw [isTime_of_mem_standardSorts hd]
      exact Bool.false_ne_true
  | some f =>
      rw [combineSorts, timeSort?, List.find?_cons, Option.filter_some]
      cases hf : f.isTime with
      | true => rfl
      | false => exact List.find?_eq_none.2 hothers

/-- Of a list that is put together the directive in front is a standard sort unless it is a time
sort. -/
theorem standardSorts_combineSorts (first : Option SortDirective) (sorts : List SortDirective) :
    standardSorts (combineSorts first sorts) =
      (first.filter fun f => !f.isTime).toList ++
        (standardSorts sorts).filter fun d => some d != first := by
  cases first with
  | none =>
      have hkeep : ∀ d ∈ standardSorts sorts, (some d != none) = true := fun _ _ => rfl
      rw [List.filter_eq_self.2 hkeep]
      exact standardSorts_standardSorts sorts
  | some f =>
      have hnodup : ((standardSorts sorts).filter (· != f)).Nodup :=
        (nodup_standardSorts sorts).filter _
      have hothers : ∀ d ∈ (standardSorts sorts).filter (· != f), d.isTime = false := fun d hd =>
        isTime_of_mem_standardSorts (List.mem_filter.1 hd).1
      rw [Option.filter_some]
      cases hf : f.isTime with
      | true =>
          have htime : ∀ d ∈ some f, d.isTime = true := by rintro _ ⟨⟩; exact hf
          exact standardSorts_toList_append htime hnodup hothers
      | false =>
          have hall : ∀ d ∈ combineSorts (some f) sorts, d.isTime = false :=
            List.forall_mem_cons.2 ⟨hf, hothers⟩
          exact standardSorts_eq_self (nodup_combineSorts _ _) hall

/-- A list stays as it is when an element is moved to its front exactly if the element is there
already. -/
theorem cons_filter_ne_eq_self_iff (hnodup : sorts.Nodup) :
    d :: sorts.filter (· != d) = sorts ↔ sorts.head? = some d := by
  cases sorts with
  | nil => simp
  | cons e rest =>
      obtain ⟨he, -⟩ := List.nodup_cons.1 hnodup
      rw [List.head?_cons, Option.some.injEq, List.cons.injEq]
      refine ⟨fun h => h.1.symm, ?_⟩
      rintro rfl
      have hkeep : ∀ c ∈ rest, (c != e) = true := by
        rintro c hc
        exact bne_iff_ne.2 fun hce => he (hce ▸ hc)
      rw [List.filter_cons_of_neg (by simp), List.filter_eq_self.2 hkeep]
      exact ⟨rfl, rfl⟩

end Views

namespace Spec

/-! ### An update of the time sort -/

/-- **When an update of the time sort keeps the other sorts.**  An update of the time sort by any
directive, or by none, succeeds.  Of the directive only the column decides which view it enters: the
time sort of the result is the directive if it is a time sort and none otherwise, and the other
sorts are those that there were, with a directive of another column moved or put to their front.

So the other sorts stay as they were exactly if a directive that is given is a time sort or was the
first of the other sorts already. -/
theorem sorts_update_timeSort_eq_iff {s : Spec} (hs : s.Constructible)
    (sort : Option SortDirective) :
    ∃ t, s.update (.timeSort sort) = .ok t ∧
      t.dateTimeSort = sort.filter (·.isTime) ∧
      t.sorts = (sort.filter fun d => !d.isTime).toList ++
        s.sorts.filter (fun d => some d != sort) ∧
      (t.sorts = s.sorts ↔ ∀ d ∈ sort, d.isTime = true ∨ s.sorts.head? = some d) := by
  have haccepted : (Update.timeSort sort).Accepted := ⟨default, _, rfl⟩
  obtain ⟨t, ht⟩ := haccepted.exists_update hs
  have hall : t.allSorts = combineSorts sort s.sorts := allSorts_update_timeSort ht
  have hsorts : t.sorts = (sort.filter fun d => !d.isTime).toList ++
      s.sorts.filter (fun d => some d != sort) := by
    rw [Spec.sorts, hall, standardSorts_combineSorts, Spec.sorts, standardSorts_standardSorts]
  refine ⟨t, ht, ?_, hsorts, ?_⟩
  · rw [dateTimeSort, hall, timeSort?_combineSorts]
  cases sort with
  | none =>
      have hkeep : ∀ d ∈ s.sorts, (some d != none) = true := fun _ _ => rfl
      rw [hsorts, List.filter_eq_self.2 hkeep]
      exact iff_of_true rfl (by simp)
  | some f =>
      rw [hsorts, Option.filter_some]
      cases hf : f.isTime with
      | true =>
          -- No standard sort equals a time sort, so none is dropped.
          have hkeep : ∀ d ∈ s.sorts, (some d != some f) = true := by
            rintro d hd
            refine bne_iff_ne.2 fun hdf => ?_
            rw [← Option.some.inj hdf, isTime_of_mem_standardSorts hd] at hf
            exact Bool.false_ne_true hf
          rw [List.filter_eq_self.2 hkeep]
          exact iff_of_true rfl (by rintro _ ⟨⟩; exact .inl hf)
      | false =>
          have hmoved : f :: s.sorts.filter (· != f) = s.sorts ↔ s.sorts.head? = some f :=
            cons_filter_ne_eq_self_iff (nodup_standardSorts s.allSorts)
          refine hmoved.trans ⟨?_, fun h => ?_⟩
          · rintro hhead _ ⟨⟩
            exact .inr hhead
          · exact (h f rfl).resolve_left (by rw [hf]; exact Bool.false_ne_true)

/-- A directive of another column moves to the front of the other sorts, and the time sort is
gone. -/
theorem sorts_update_timeSort_otherColumn :
    let given : Parts := { pageViews with
      allSorts := .items [.time .asc, ⟨"views", .desc⟩, ⟨"users", .asc⟩] }
    ∃ s t : Spec, make given = .ok s ∧ s.update (.timeSort (some ⟨"users", .asc⟩)) = .ok t ∧
      s.sorts = [⟨"views", .desc⟩, ⟨"users", .asc⟩] ∧
      t.sorts = [⟨"users", .asc⟩, ⟨"views", .desc⟩] ∧ t.sorts ≠ s.sorts ∧
      s.dateTimeSort = some (.time .asc) ∧ t.dateTimeSort = none := by
  intro given
  obtain ⟨s, hs⟩ : ∃ s, make given = .ok s := ⟨_, rfl⟩
  obtain ⟨t, ht⟩ : ∃ t, s.update (.timeSort (some ⟨"users", .asc⟩)) = .ok t := by
    obtain rfl := Except.ok.inj hs
    exact ⟨_, rfl⟩
  refine ⟨s, t, hs, ht, ?_⟩
  obtain rfl := Except.ok.inj hs
  obtain rfl := Except.ok.inj ht
  decide

/-- A directive of the first of the other sorts leaves these as they were. -/
theorem sorts_update_timeSort_eq_iff_firstColumn :
    let given : Parts := { pageViews with
      allSorts := .items [.time .asc, ⟨"views", .desc⟩, ⟨"users", .asc⟩] }
    ∃ s t : Spec, make given = .ok s ∧ s.Constructible ∧
      s.update (.timeSort (some ⟨"views", .desc⟩)) = .ok t ∧ t.dateTimeSort = none ∧
      t.sorts = s.sorts := by
  intro given
  obtain ⟨s, hs⟩ : ∃ s, make given = .ok s := ⟨_, rfl⟩
  have hfirst : s.sorts.head? = some ⟨"views", .desc⟩ := by
    obtain rfl := Except.ok.inj hs
    decide
  obtain ⟨t, ht, htime, -, hsorts⟩ :=
    sorts_update_timeSort_eq_iff ⟨given, hs⟩ (some ⟨"views", .desc⟩)
  exact ⟨s, t, hs, ⟨given, hs⟩, ht, htime, hsorts.2 (by rintro _ ⟨⟩; exact .inr hfirst)⟩

end Spec

end MetricQuery
