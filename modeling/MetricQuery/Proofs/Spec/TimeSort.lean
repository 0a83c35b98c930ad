import MetricQuery.Proofs.Spec.Sort

/-!
# At most one time sort

The sorts of a specification are meant to hold one time sort at most.  Nothing but an update of all
sorts at once can bring a second one: what is put together from a time sort and other sorts has no
time sort behind its first place (`isTime_of_mem_tail_combineSorts`), whichever directives it is put
together from.  So an update of one of the two views leaves at most one time sort and leaves it in
front, even where there were several before, and a run whose updates of all sorts at once give at
most one time sort each never comes to hold two.

## Main definitions

* `AtMostOneTimeSort` : lists of sorts with at most one time sort.
* `Spec.Update.OfPortion` : the updates of one of the two views, by any argument.
* `Spec.Update.GivesAtMostOne` : updates that do not bring a second time sort by their argument.

## Main results

* `Spec.atMostOneTimeSort_update` : what one update keeps.
* `Spec.tail_update_of_ofPortion` : an update of a view leaves a time sort in front only.
* `Spec.atMostOneTimeSort_updateAll` : what every specification along a run holds.
-/

namespace MetricQuery

/-! ### Lists with at most one time sort -/

/-- At most one directive of a list sorts by time. -/
def AtMostOneTimeSort (sorts : List SortDirective) : Prop :=
  sorts.countP (·.isTime) ≤ 1

instance (sorts : List SortDirective) : Decidable (AtMostOneTimeSort sorts) :=
  inferInstanceAs (Decidable (sorts.countP (·.isTime) ≤ 1))

section Lists

variable {sorts sorts' : List SortDirective} {d : SortDirective}

theorem AtMostOneTimeSort.sublist (h : AtMostOneTimeSort sorts) (hsub : sorts'.Sublist sorts) :
    AtMostOneTimeSort sorts' :=
  Nat.le_trans hsub.countP_le h

/-- A list has at most one time sort if none stands behind its first place. -/
theorem atMostOneTimeSort_of_tail (h : ∀ d ∈ sorts.tail, d.isTime = false) :
    AtMostOneTimeSort sorts := by
  cases sorts with
  | nil => exact Nat.zero_le 1
  | cons d rest =>
      have hrest : rest.countP (·.isTime) = 0 := by
        refine List.countP_eq_zero.2 fun e he => ?_
        rw [h e he]
        exact Bool.false_ne_true
      rw [AtMostOneTimeSort, List.countP_cons, hrest]
      split <;> decide

/-- A time sort is the first directive of a list if none stands behind the first place. -/
theorem head?_eq_of_isTime (h : ∀ d ∈ sorts.tail, d.isTime = false) (hd : d ∈ sorts)
    (htime : d.isTime = true) : sorts.head? = some d := by
  cases sorts with
  | nil => exact absurd hd List.not_mem_nil
  | cons e rest =>
      rcases List.mem_cons.1 hd with rfl | hrest
      · rfl
      · rw [h d hrest] at htime
        exact absurd htime Bool.false_ne_true

/-- What is put together from any directive and any other sorts has no time sort behind its first
place. -/
theorem isTime_of_mem_tail_combineSorts {first : Option SortDirective}
    (hd : d ∈ (combineSorts first sorts).tail) : d.isTime = false := by
  cases first with
  | none => exact isTime_of_mem_standardSorts (List.mem_of_mem_tail hd)
  | some t =>
      have hstandard : d ∈ standardSorts sorts := (List.mem_filter.1 hd).1
      exact isTime_of_mem_standardSorts hstandard

end Lists

namespace Spec

/-! ### One update -/

/-- The updates of one of the two views of the sorts, by any argument. -/
def Update.OfPortion : Update → Prop
  | .sorts _ | .timeSort _ => True
  | _ => False

/-- If an update replaces all sorts at once, it gives at most one time sort. -/
def Update.GivesAtMostOne (u : Update) : Prop :=
  ∀ given sorts, u = .allSorts given → given.elementsOrNone = .ok sorts →
    AtMostOneTimeSort sorts

section OneUpdate

variable {s t : Spec} {u : Update}

/-- The sorts of a specification have no repeats. -/
theorem Constructible.nodup_allSorts (hs : s.Constructible) : s.allSorts.Nodup := by
  have hdistinct : distinct s.allSorts = s.allSorts :=
    Except.ok.inj (stored_of_make hs.make_parts .allSorts)
  exact noRepeats_iff_nodup.1 (distinct_eq_self_iff.1 hdistinct)

/-- After an update of all sorts at once the list is the given one without repeats. -/
theorem allSorts_update_allSorts {given : Given SortDirective}
    (h : s.update (.allSorts given) = .ok t) :
    ∃ sorts, given.elementsOrNone = .ok sorts ∧ t.allSorts = distinct sorts := by
  obtain ⟨p, hp, hmake⟩ := Except.bind_eq_ok_iff.1 h
  obtain rfl := Except.ok.inj hp
  obtain ⟨sorts, hsorts, hdistinct⟩ := Except.map_eq_ok_iff.1 (stored_of_make hmake .allSorts)
  exact ⟨sorts, hsorts, hdistinct.symm⟩

/-- An update of a view leaves no time sort behind the first place, whatever there was before. -/
theorem tail_update_of_ofPortion (hu : u.OfPortion) (h : s.update u = .ok t) :
    ∀ d ∈ t.allSorts.tail, d.isTime = false := by
  intro d hd
  cases u with
  | sorts given =>
      obtain ⟨others, -, hsorts⟩ := allSorts_update_sorts h
      rw [hsorts] at hd
      exact isTime_of_mem_tail_combineSorts hd
  | timeSort sort =>
      rw [allSorts_update_timeSort h] at hd
      exact isTime_of_mem_tail_combineSorts hd
  | _ => exact hu.elim

/-- An update keeps at most one time sort, unless its argument holds several. -/
theorem atMostOneTimeSort_update (hs : s.Constructible) (hone : AtMostOneTimeSort s.allSorts)
    (hu : u.GivesAtMostOne) (h : s.update u = .ok t) : AtMostOneTimeSort t.allSorts := by
  by_cases hportion : u.OfPortion
  · exact atMostOneTimeSort_of_tail (tail_update_of_ofPortion hportion h)
  by_cases hfacet : u.facet = .allSorts
  · cases u with
    | allSorts given =>
        obtain ⟨sorts, hsorts, hdistinct⟩ := allSorts_update_allSorts h
        have hgiven : AtMostOneTimeSort sorts := hu given sorts rfl hsorts
        rw [hdistinct]
        exact hgiven.sublist (distinct_sublist sorts)
    | sorts | timeSort => exact (hportion trivial).elim
    | _ => exact nomatch hfacet
  · have hkept : t.allSorts = s.allSorts := get_update_of_ne hs h (Ne.symm hfacet)
    rw [hkept]
    exact hone

end OneUpdate

/-! ### Runs -/

/-- A run keeps at most one time sort, unless the argument of an update holds several. -/
theorem atMostOneTimeSort_run {s t : Spec} {us : List Update} (hs : s.Constructible)
    (hone : AtMostOneTimeSort s.allSorts) (hus : ∀ u ∈ us, u.GivesAtMostOne)
    (h : s.updateAll us = .ok t) : AtMostOneTimeSort t.allSorts := by
  induction us generalizing s with
  | nil =>
      obtain rfl := Except.ok.inj h
      exact hone
  | cons u us ih =>
      obtain ⟨r, hr, h⟩ := updateAll_cons_eq_ok_iff.1 h
      obtain ⟨hu, hus⟩ := List.forall_mem_cons.1 hus
      have hone' : AtMostOneTimeSort r.allSorts := atMostOneTimeSort_update hs hone hu hr
      exact ih (.update hr) hone' hus h

/-- **At most one time sort.**  Let a specification hold at most one time sort, and let each update
of all sorts at once in a run give at most one.  Then every specification along the run holds at
most one time sort and no directive twice, whatever the other updates give.

An update of one of the two views, by any argument that updates accept, succeeds on every
specification, one with several time sorts included.  What it leaves has at most one time sort, and
this is the first directive. -/
theorem atMostOneTimeSort_updateAll :
    (∀ (s : Spec) (us : List Update), s.Constructible → AtMostOneTimeSort s.allSorts →
      (∀ u ∈ us, u.GivesAtMostOne) → ∀ n t, s.updateAll (us.take n) = .ok t →
        AtMostOneTimeSort t.allSorts ∧ t.allSorts.Nodup) ∧
    ∀ (s : Spec) (u : Update), s.Constructible → u.OfPortion → u.Accepted →
      ∃ t, s.update u = .ok t ∧ AtMostOneTimeSort t.allSorts ∧
        ∀ d ∈ t.allSorts, d.isTime = true → t.allSorts.head? = some d := by
  constructor
  · intro s us hs hone hus n t h
    have hus' : ∀ u ∈ us.take n, u.GivesAtMostOne := fun u hu => hus u (List.mem_of_mem_take hu)
    exact ⟨atMostOneTimeSort_run hs hone hus' h, (hs.updateAll h).nodup_allSorts⟩
  · intro s u hs hu haccepted
    obtain ⟨t, ht⟩ := haccepted.exists_update hs
    have htail := tail_update_of_ofPortion hu ht
    exact ⟨t, ht, atMostOneTimeSort_of_tail htail, fun d hd => head?_eq_of_isTime htail hd⟩

/-- Time sorts among the other sorts, a directive of another column for a time sort, and a
specification with two time sorts. -/
theorem atMostOneTimeSort_updateAll_smuggled :
    let one : Parts := { pageViews with allSorts := .items [⟨"a", .asc⟩, .time .asc] }
    let two : Parts := { pageViews with allSorts := .items [.time .asc, ⟨"a", .asc⟩, .time .desc] }
    let us : List Update :=
      [.sorts (.items [.time .desc, ⟨"b", .asc⟩, .time .asc]), .timeSort (some ⟨"b", .asc⟩),
        .allSorts (.items [⟨"c", .asc⟩, .time .desc, ⟨"c", .asc⟩])]
    (∃ s t : Spec, make one = .ok s ∧ s.updateAll (us.take 3) = .ok t ∧
      t.allSorts = [⟨"c", .asc⟩, .time .desc] ∧ AtMostOneTimeSort t.allSorts) ∧
    ∃ s t : Spec, make two = .ok s ∧ s.update (.sorts (.items [.time .desc, ⟨"b", .asc⟩])) = .ok t ∧
      AtMostOneTimeSort t.allSorts := by
  intro one two us
  obtain ⟨hrun, hview⟩ := atMostOneTimeSort_updateAll
  constructor
  · obtain ⟨s, hs⟩ : ∃ s, make one = .ok s := ⟨_, rfl⟩
    have hone : AtMostOneTimeSort s.allSorts := by
      have hgiven : AtMostOneTimeSort [⟨"a", .asc⟩, .time .asc] := by decide
      obtain rfl := Except.ok.inj hs
      exact hgiven
    have hus : ∀ u ∈ us, u.GivesAtMostOne := by
      simp only [us, List.forall_mem_cons]
      refine ⟨nofun, nofun, ?_, nofun⟩
      intro given sorts hgiven hsorts
      obtain rfl := Update.allSorts.inj hgiven
      obtain rfl := Except.ok.inj hsorts
      decide
    obtain ⟨t, ht, hsorts⟩ : ∃ t, s.updateAll (us.take 3) = .ok t ∧
        t.allSorts = [⟨"c", .asc⟩, .time .desc] := by
      obtain rfl := Except.ok.inj hs
      exact ⟨_, rfl, rfl⟩
    exact ⟨s, t, hs, ht, hsorts, (hrun s us ⟨one, hs⟩ hone hus 3 t ht).1⟩
  · obtain ⟨s, hs⟩ : ∃ s, make two = .ok s := ⟨_, rfl⟩
    obtain ⟨t, ht, hone, -⟩ :=
      hview s (.sorts (.items [.time .desc, ⟨"b", .asc⟩])) ⟨two, hs⟩ trivial
      ⟨default, _, rfl⟩
    exact ⟨s, t, hs, ht, hone⟩

end Spec

end MetricQuery
