import Mathlib.Data.List.Induction
import MetricQuery.Proofs.Spec.Update

/-!
# The two views of the sorts

The sorts of a specification are one list, seen through two views: the time sort and the other
sorts.  `combineSorts` puts the two together again.  A list is put together from its own views
exactly if it has no repeats and no time sort behind its first place
(`combineSorts_views_eq_self_iff`).

Updates of the two views obey the laws of lenses.  After an update of a view the time sort stands in
front, whatever the list was before, the updated view is what the update gives, and the other view
is what it was; so a run of such updates is settled by the last update of each view
(`allSorts_updateAll`).

## Main definitions

* `Spec.Update.timeSort?`, `Spec.Update.sorts?` : what an update gives for each of the views.

## Main results

* `combineSorts_views_eq_self_iff` : the lists that are put together from their views.
* `Spec.allSorts_update_sorts`, `Spec.allSorts_update_timeSort` : the sorts after one update.
* `Spec.allSorts_updateAll` : the sorts after a run of updates of the views.
-/

namespace MetricQuery

/-! ### Views of a list -/

section Views

variable {first : Option SortDirective} {sorts others : List SortDirective} {d : SortDirective}

theorem isTime_of_mem_timeSort? (h : d ∈ timeSort? sorts) : d.isTime = true :=
  List.find?_some (p := fun d : SortDirective => d.isTime) h

theorem standardSorts_eq_eraseDups (sorts : List SortDirective) :
    standardSorts sorts = (sorts.filter fun d => !d.isTime).eraseDups :=
  distinct_eq_eraseDups _

theorem nodup_standardSorts (sorts : List SortDirective) : (standardSorts sorts).Nodup :=
  noRepeats_iff_nodup.1 (noRepeats_distinct _)

theorem isTime_of_mem_standardSorts (h : d ∈ standardSorts sorts) : d.isTime = false := by
  have hd := (List.mem_filter.1 ((distinct_sublist _).subset h)).2
  simpa using hd

theorem standardSorts_eq_self (hnodup : sorts.Nodup) (h : ∀ d ∈ sorts, d.isTime = false) :
    standardSorts sorts = sorts := by
  rw [standardSorts, List.filter_eq_self.2 fun d hd => by rw [h d hd]; rfl]
  exact (noRepeats_iff_nodup.2 hnodup).distinct_eq

theorem standardSorts_standardSorts (sorts : List SortDirective) :
    standardSorts (standardSorts sorts) = standardSorts sorts :=
  standardSorts_eq_self (nodup_standardSorts sorts) fun _ => isTime_of_mem_standardSorts

/-- No standard sort equals a time sort, so none is dropped behind it. -/
theorem combineSorts_of_isTime (h : ∀ d ∈ first, d.isTime = true) (sorts : List SortDirective) :
    combineSorts first sorts = first.toList ++ standardSorts sorts := by
  cases first with
  | none => rfl
  | some t =>
      have ht : t.isTime = true := h t rfl
      have hkeep : ∀ d ∈ standardSorts sorts, (d != t) = true := by
        intro d hd
        refine bne_iff_ne.2 fun hdt => ?_
        rw [← hdt, isTime_of_mem_standardSorts hd] at ht
        exact Bool.false_ne_true ht
      rw [combineSorts, List.filter_eq_self.2 hkeep]
      rfl

theorem nodup_combineSorts (first : Option SortDirective) (sorts : List SortDirective) :
    (combineSorts first sorts).Nodup := by
  cases first with
  | none => exact nodup_standardSorts sorts
  | some t =>
      refine List.nodup_cons.2 ⟨fun ht => ?_, (nodup_standardSorts sorts).filter _⟩
      simpa using (List.mem_filter.1 ht).2

theorem timeSort?_toList_append (hfirst : ∀ d ∈ first, d.isTime = true)
    (hothers : ∀ d ∈ others, d.isTime = false) : timeSort? (first.toList ++ others) = first := by
  cases first with
  | none =>
      refine List.find?_eq_none.2 fun d hd => ?_
      rw [hothers d hd]
      exact Bool.false_ne_true
  | some t => exact List.find?_cons_of_pos (hfirst t rfl)

theorem standardSorts_toList_append (hfirst : ∀ d ∈ first, d.isTime = true)
    (hnodup : others.Nodup) (hothers : ∀ d ∈ others, d.isTime = false) :
    standardSorts (first.toList ++ others) = others := by
  cases first with
  | none => exact standardSorts_eq_self hnodup hothers
  | some t =>
      have ht : ¬ (!t.isTime) = true := by rw [hfirst t rfl]; decide
      have hfilter : (t :: others).filter (fun d => !d.isTime) = others.filter fun d => !d.isTime :=
        List.filter_cons_of_neg ht
      calc standardSorts (t :: others) = standardSorts others := congrArg distinct hfilter
        _ = others := standardSorts_eq_self hnodup hothers

/-- A list is put together from its own views exactly if it has no repeats and no time sort behind
its first place. -/
theorem combineSorts_views_eq_self_iff :
    combineSorts (timeSort? sorts) (standardSorts sorts) = sorts ↔
      sorts.Nodup ∧ ∀ d ∈ sorts.tail, d.isTime = false := by
  have htime : ∀ d ∈ timeSort? sorts, d.isTime = true := fun _ => isTime_of_mem_timeSort?
  have hcombine := combineSorts_of_isTime htime (standardSorts sorts)
  rw [standardSorts_standardSorts] at hcombine
  constructor
  · intro h
    refine ⟨h ▸ nodup_combineSorts _ _, fun d hd => ?_⟩
    rw [← h, hcombine] at hd
    cases hfirst : timeSort? sorts with
    | none =>
        rw [hfirst] at hd
        exact isTime_of_mem_standardSorts (List.mem_of_mem_tail hd)
    | some t =>
        rw [hfirst] at hd
        exact isTime_of_mem_standardSorts hd
  · rintro ⟨hnodup, htail⟩
    -- The list is its head, if that is a time sort, in front of standard sorts.
    obtain ⟨first, others, rfl, hfirst, hnodup', hothers⟩ : ∃ first others,
        sorts = Option.toList first ++ others ∧ (∀ d ∈ first, d.isTime = true) ∧ others.Nodup ∧
          ∀ d ∈ others, d.isTime = false := by
      cases sorts with
      | nil => exact ⟨none, [], rfl, nofun, .nil, nofun⟩
      | cons d rest =>
          cases hd : d.isTime with
          | true =>
              exact ⟨some d, rest, rfl, by rintro _ ⟨⟩; exact hd, (List.nodup_cons.1 hnodup).2,
                htail⟩
          | false =>
              exact ⟨none, d :: rest, rfl, nofun, hnodup, List.forall_mem_cons.2 ⟨hd, htail⟩⟩
    rw [hcombine, timeSort?_toList_append hfirst hothers,
      standardSorts_toList_append hfirst hnodup' hothers]

end Views

namespace Spec

/-! ### One update of a view -/

section OneUpdate

variable {s t : Spec}

/-- After an update of the other sorts the list is the old time sort in front of the given ones. -/
theorem allSorts_update_sorts {given : Given SortDirective fun _ => True}
    (h : s.update (.sorts given) = .ok t) :
    ∃ others, given.elementsWith "is_time_sort" = .ok others ∧
      t.allSorts = combineSorts s.dateTimeSort others := by
  obtain ⟨p, hp, hmake⟩ := Except.bind_eq_ok_iff.1 h
  obtain ⟨others, hothers, hp⟩ := Except.bind_eq_ok_iff.1 hp
  obtain rfl := Except.ok.inj hp
  have hstored := Except.ok.inj (stored_of_make hmake .allSorts)
  have hnodup := noRepeats_iff_nodup.2 (nodup_combineSorts s.dateTimeSort others)
  exact ⟨others, hothers, hstored.symm.trans hnodup.distinct_eq⟩

/-- After an update of the time sort the list is the given one in front of the old other sorts. -/
theorem allSorts_update_timeSort {sort : Option SortDirective}
    (h : s.update (.timeSort sort) = .ok t) : t.allSorts = combineSorts sort s.sorts := by
  obtain ⟨p, hp, hmake⟩ := Except.bind_eq_ok_iff.1 h
  obtain rfl := Except.ok.inj hp
  have hstored := Except.ok.inj (stored_of_make hmake .allSorts)
  have hnodup := noRepeats_iff_nodup.2 (nodup_combineSorts sort s.sorts)
  exact hstored.symm.trans hnodup.distinct_eq

end OneUpdate

/-! ### Runs of updates of the views -/

/-- The time sort that an update gives, if it is an update of the time sort. -/
def Update.timeSort? : Update → Option (Option SortDirective)
  | .timeSort sort => some sort
  | _ => none

/-- The directives that an update gives for the other sorts, if it is an update of these. -/
def Update.sorts? : Update → Option (List SortDirective)
  | .sorts (.items others) => some others
  | _ => none

/-- Updates of a view: of the other sorts by any directives, or of the time sort by a time sort or
by none. -/
def Update.OfView (u : Update) : Prop :=
  (∃ others, u = .sorts (.items others)) ∨ ∃ sort, u = .timeSort sort ∧ ∀ d ∈ sort, d.isTime = true

section Runs

variable {s t : Spec} {u : Update} {us : List Update}

theorem Update.OfView.accepted (hu : u.OfView) : u.Accepted := by
  obtain ⟨others, rfl⟩ | ⟨sort, rfl, -⟩ := hu
  · exact ⟨default, _, rfl⟩
  · exact ⟨default, _, rfl⟩

theorem isTime_of_mem_dateTimeSort {d : SortDirective} (h : d ∈ s.dateTimeSort) :
    d.isTime = true :=
  isTime_of_mem_timeSort? h

/-- After an update of a view the list is put together from what the update gives for its view and
from the other view as it was. -/
theorem allSorts_update_of_ofView (hu : u.OfView) (h : s.update u = .ok t) :
    t.allSorts = (u.timeSort?.getD s.dateTimeSort).toList ++
      standardSorts (u.sorts?.getD s.allSorts) := by
  obtain ⟨others, rfl⟩ | ⟨sort, rfl, hsort⟩ := hu
  · obtain ⟨others', hothers, hsorts⟩ := allSorts_update_sorts h
    obtain rfl := Except.ok.inj hothers
    rw [hsorts, combineSorts_of_isTime fun _ => isTime_of_mem_dateTimeSort]
    rfl
  · rw [allSorts_update_timeSort h, combineSorts_of_isTime hsort, Spec.sorts,
      standardSorts_standardSorts]
    rfl

theorem Update.OfView.isTime_of_mem (hu : u.OfView) {d : SortDirective}
    (hd : d ∈ u.timeSort?.getD s.dateTimeSort) : d.isTime = true := by
  obtain ⟨others, rfl⟩ | ⟨sort, rfl, hsort⟩ := hu
  · exact isTime_of_mem_dateTimeSort hd
  · exact hsort d hd

/-- After an update of a view that view is what the update gives. -/
theorem views_update_of_ofView (hu : u.OfView) (h : s.update u = .ok t) :
    t.dateTimeSort = u.timeSort?.getD s.dateTimeSort ∧
      t.sorts = standardSorts (u.sorts?.getD s.allSorts) := by
  have htime : ∀ d ∈ u.timeSort?.getD s.dateTimeSort, d.isTime = true := fun _ => hu.isTime_of_mem
  rw [dateTimeSort, Spec.sorts, allSorts_update_of_ofView hu h]
  exact ⟨timeSort?_toList_append htime fun _ => isTime_of_mem_standardSorts,
    standardSorts_toList_append htime (nodup_standardSorts _) fun _ => isTime_of_mem_standardSorts⟩

/-- The time sort after a run: the one of the last update of it. -/
def timeSortAfter (s : Spec) (us : List Update) : Option SortDirective :=
  (us.filterMap Update.timeSort?).getLast?.getD s.dateTimeSort

/-- The other sorts after a run: those of the last update of them without time sorts and repeats. -/
def sortsAfter (s : Spec) (us : List Update) : List SortDirective :=
  ((us.filterMap Update.sorts?).getLast?.map fun sorts =>
    (sorts.filter fun d => !d.isTime).eraseDups).getD s.sorts

theorem timeSortAfter_concat (s : Spec) (us : List Update) (u : Update) :
    s.timeSortAfter (us ++ [u]) = u.timeSort?.getD (s.timeSortAfter us) := by
  cases hu : u.timeSort? <;> simp [timeSortAfter, List.filterMap_append, hu]

theorem sortsAfter_eq (s : Spec) (us : List Update) :
    s.sortsAfter us = standardSorts ((us.filterMap Update.sorts?).getLast?.getD s.allSorts) := by
  rw [sortsAfter]
  cases (us.filterMap Update.sorts?).getLast? with
  | none => rfl
  | some sorts => exact (standardSorts_eq_eraseDups sorts).symm

theorem sortsAfter_concat (s : Spec) (us : List Update) (u : Update) :
    s.sortsAfter (us ++ [u]) = (u.sorts?.map standardSorts).getD (s.sortsAfter us) := by
  rw [sortsAfter_eq, sortsAfter_eq]
  cases hu : u.sorts? <;> simp [List.filterMap_append, hu]

/-- A run of updates of the views leaves in each view what the last update of that view gives. -/
theorem views_updateAll (hus : ∀ u ∈ us, u.OfView) (h : s.updateAll us = .ok t) :
    t.dateTimeSort = s.timeSortAfter us ∧ t.sorts = s.sortsAfter us ∧
      (us ≠ [] → t.allSorts = (s.timeSortAfter us).toList ++ s.sortsAfter us) := by
  induction us using List.reverseRecOn generalizing t with
  | nil =>
      obtain rfl := Except.ok.inj h
      exact ⟨rfl, rfl, fun hne => absurd rfl hne⟩
  | append_singleton us u ih =>
      obtain ⟨r, hr, h⟩ := updateAll_append_eq_ok_iff.1 h
      obtain ⟨_, hu', h⟩ := updateAll_cons_eq_ok_iff.1 h
      obtain rfl := Except.ok.inj h
      have hu : u.OfView := hus u (by simp)
      obtain ⟨htime, hsorts, -⟩ := ih (fun v hv => hus v (List.mem_append_left _ hv)) hr
      have hothers : standardSorts (u.sorts?.getD r.allSorts) = s.sortsAfter (us ++ [u]) := by
        rw [sortsAfter_concat, ← hsorts]
        cases u.sorts? <;> rfl
      obtain ⟨htime', hsorts'⟩ := views_update_of_ofView hu hu'
      have hall := allSorts_update_of_ofView hu hu'
      rw [htime, ← timeSortAfter_concat] at htime' hall
      rw [hothers] at hsorts' hall
      exact ⟨htime', hsorts', fun _ => hall⟩

end Runs

/-- **The sorts are settled by the last update of each view.**  A run of updates of the views that
is not empty succeeds.  After it the list of sorts is the time sort of the last update of the time
sort in front of the directives of the last update of the other sorts, these without time sorts and
repeats; where the run does not update a view, the view is what it was before.  The views of the
result are the two portions.

A list is put together from its own views exactly if it has no repeats and no time sort behind its
first place. -/
theorem allSorts_updateAll {s : Spec} {us : List Update} (hs : s.Constructible) (hne : us ≠ [])
    (hus : ∀ u ∈ us, u.OfView) :
    (∃ t, s.updateAll us = .ok t ∧
      t.allSorts = (s.timeSortAfter us).toList ++ s.sortsAfter us ∧
      t.dateTimeSort = s.timeSortAfter us ∧ t.sorts = s.sortsAfter us) ∧
    ∀ sorts, combineSorts (timeSort? sorts) (standardSorts sorts) = sorts ↔
      sorts.Nodup ∧ ∀ d ∈ sorts.tail, d.isTime = false := by
  refine ⟨?_, fun _ => combineSorts_views_eq_self_iff⟩
  obtain ⟨t, ht⟩ := (exists_updateAll_iff hs).2 fun u hu => (hus u hu).accepted
  obtain ⟨htime, hsorts, hall⟩ := views_updateAll hus ht
  exact ⟨t, ht, hall hne, htime, hsorts⟩

theorem allSorts_updateAll_twoTimeSorts :
    let given : Parts := { pageViews with
      allSorts := .items [⟨"a", .asc⟩, .time .asc, ⟨"b", .asc⟩, .time .desc] }
    let us : List Update :=
      [.timeSort none, .sorts (.items [⟨"b", .asc⟩, .time .asc, ⟨"b", .asc⟩]),
        .timeSort (some (.time .desc)),
        .sorts (.items [⟨"c", .desc⟩, .time .asc, ⟨"a", .asc⟩, ⟨"c", .desc⟩])]
    ∃ s t : Spec, make given = .ok s ∧ s.updateAll us = .ok t ∧
      t.allSorts = [.time .desc, ⟨"c", .desc⟩, ⟨"a", .asc⟩] := by
  intro given us
  obtain ⟨s, hs⟩ : ∃ s, make given = .ok s := ⟨_, rfl⟩
  have hus : ∀ u ∈ us, u.OfView := by
    simp only [us, List.forall_mem_cons]
    exact ⟨.inr ⟨_, rfl, nofun⟩, .inl ⟨_, rfl⟩, .inr ⟨_, rfl, by rintro _ ⟨⟩; rfl⟩, .inl ⟨_, rfl⟩,
      nofun⟩
  obtain ⟨⟨t, ht, hsorts, -⟩, -⟩ := allSorts_updateAll ⟨given, hs⟩ (List.cons_ne_nil _ _) hus
  exact ⟨s, t, hs, ht, hsorts⟩

end Spec

end MetricQuery
