import MetricQuery.Proofs.Spec.Facet

/-!
# Runs of updates

An update replaces one facet of a specification and builds the specification anew from its parts, so
every update brings all facets into normal form again.  As facets are their own normal forms, an
update changes its own facet only (`get_update_of_ne`), and what it leaves there depends on its
argument and, for the sorts, on the sorts before it (`get_update_congr`).

A run is a sequence of updates.  What it leaves in a facet depends on the updates of that facet
alone (`get_updateAll_congr`): in a facet other than the sorts it is the normal form of the last
argument given for the facet, and a facet that no update replaces stays as it is.

## Main definitions

* `Spec.Constructible` : specifications that are made from parts.
* `Spec.Update.facet` : the facet that an update replaces.
* `Spec.Update.Accepted` : updates that some specification takes.
* `Spec.Parts.Holds` : parts that hold the argument of an update.
* `Spec.updateAll` : a run of updates.

## Main results

* `Spec.exists_updateAll_iff` : a run succeeds exactly if each update in it is accepted.
* `Spec.get_updateAll_congr` : runs with the same updates of a facet leave the same value in it.
* `Spec.updateAll_facetwise` : what a run leaves in each facet.
-/

namespace MetricQuery

namespace Spec

/-! ### Updates and their facets -/

/-- A specification that is made from some parts. -/
def Constructible (s : Spec) : Prop :=
  ∃ p, make p = .ok s

theorem Constructible.make_parts {s : Spec} (h : s.Constructible) : make s.parts = .ok s :=
  h.elim fun _ => Spec.make_parts

/-- The facet that an update replaces.  The time sort and the other sorts are portions of one
facet. -/
def Update.facet : Update → Facet
  | .table _ => .table
  | .granularity _ => .granularity
  | .dimensions _ => .dimensions
  | .dimensionFields _ => .dimensionFields
  | .metrics _ => .metrics
  | .intervals _ => .intervals
  | .filters _ => .filters
  | .havings _ => .havings
  | .allSorts _ | .sorts _ | .timeSort _ => .allSorts
  | .count _ => .count
  | .topN _ => .topN
  | .format _ => .format
  | .downloadFilename _ => .downloadFilename
  | .timeZone _ => .timeZone
  | .asyncAfter _ => .asyncAfter
  | .page _ => .page

/-- The argument of an update is one that updates accept: some specification takes the update. -/
def Update.Accepted (u : Update) : Prop :=
  ∃ s t : Spec, s.update u = .ok t

/-- The part that is given for the facet of an update is the argument of the update.  An update of a
portion of the sorts gives no whole part. -/
def Parts.Holds (p : Parts) : Update → Prop
  | .table t => p.table = t
  | .granularity g => p.granularity = g
  | .dimensions given => p.dimensions = given
  | .dimensionFields given => p.dimensionFields = given
  | .metrics given => p.metrics = given
  | .intervals given => p.intervals = given
  | .filters given => p.filters = given
  | .havings given => p.havings = given
  | .allSorts given => p.allSorts = given
  | .sorts _ | .timeSort _ => False
  | .count d => p.count = d
  | .topN d => p.topN = d
  | .format f => p.format = f
  | .downloadFilename d => p.downloadFilename = d
  | .timeZone z => p.timeZone = z
  | .asyncAfter d => p.asyncAfter = d
  | .page page => p.page = page

section UpdatedParts

variable {s t : Spec} {u : Update} {p q : Parts}

/-- The parts after an update are the old ones but for the facet of the update. -/
theorem stored_updatedParts_of_ne (h : s.updatedParts u = .ok p) {f : Facet} (hf : f ≠ u.facet) :
    p.stored f = s.parts.stored f := by
  cases u with
  | sorts given =>
      obtain ⟨others, -, hp⟩ := Except.bind_eq_ok_iff.1 h
      obtain rfl := Except.ok.inj hp
      cases f <;> first | rfl | exact absurd rfl hf
  | _ =>
      obtain rfl := Except.ok.inj h
      cases f <;> first | rfl | exact absurd rfl hf

/-- What an update stores in its facet depends on its argument and, for the sorts, on the sorts
before it. -/
theorem stored_updatedParts_congr (hp : s.updatedParts u = .ok p) (hq : t.updatedParts u = .ok q)
    (hsorts : u.facet = .allSorts → s.allSorts = t.allSorts) :
    p.stored u.facet = q.stored u.facet := by
  cases u with
  | sorts given =>
      obtain ⟨others, hothers, hp⟩ := Except.bind_eq_ok_iff.1 hp
      obtain ⟨others', hothers', hq⟩ := Except.bind_eq_ok_iff.1 hq
      obtain rfl := Except.ok.inj (hothers.symm.trans hothers')
      obtain rfl := Except.ok.inj hp
      obtain rfl := Except.ok.inj hq
      simp only [Update.facet, Parts.stored, dateTimeSort, hsorts rfl]
  | timeSort sort =>
      obtain rfl := Except.ok.inj hp
      obtain rfl := Except.ok.inj hq
      simp only [Update.facet, Parts.stored, Spec.sorts, hsorts rfl]
  | _ =>
      obtain rfl := Except.ok.inj hp
      obtain rfl := Except.ok.inj hq
      rfl

theorem holds_updatedParts (h : s.updatedParts u = .ok p) (hu : u.facet ≠ .allSorts) :
    p.Holds u := by
  cases u with
  | sorts | timeSort | allSorts => exact absurd rfl hu
  | _ =>
      obtain rfl := Except.ok.inj h
      rfl

/-- The normal form of a facet depends on the part that is given for it. -/
theorem stored_congr_of_holds (hp : p.Holds u) (hq : q.Holds u) :
    p.stored u.facet = q.stored u.facet := by
  cases u <;> simp only [Parts.Holds] at hp hq <;> simp only [Update.facet, Parts.stored, hp, hq]

/-- An accepted update has a value to store in its facet, whatever the specification. -/
theorem Update.Accepted.exists_stored (hu : u.Accepted) (s : Spec) :
    ∃ p, s.updatedParts u = .ok p ∧ ∃ v, p.stored u.facet = .ok v := by
  obtain ⟨r, r', h⟩ := hu
  obtain ⟨q, hq, hmake⟩ := Except.bind_eq_ok_iff.1 h
  have hstored := stored_of_make hmake u.facet
  cases u with
  | sorts given =>
      obtain ⟨others, hothers, -⟩ := Except.bind_eq_ok_iff.1 hq
      exact ⟨_, Except.bind_eq_ok_iff.2 ⟨others, hothers, rfl⟩, _, rfl⟩
  | timeSort sort => exact ⟨_, rfl, _, rfl⟩
  | _ =>
      obtain rfl := Except.ok.inj hq
      exact ⟨_, rfl, _, hstored⟩

end UpdatedParts

/-! ### One update -/

section OneUpdate

variable {s t s' t' : Spec} {u : Update}

theorem Constructible.update (h : s.update u = .ok t) : t.Constructible :=
  let ⟨p, _, hp⟩ := Except.bind_eq_ok_iff.1 h
  ⟨p, hp⟩

/-- An accepted update succeeds on every constructible specification. -/
theorem Update.Accepted.exists_update (hu : u.Accepted) (hs : s.Constructible) :
    ∃ t, s.update u = .ok t := by
  obtain ⟨p, hp, v, hv⟩ := hu.exists_stored s
  have hstored : ∀ f, ∃ w, p.stored f = .ok w := by
    intro f
    by_cases hf : f = u.facet
    · subst hf
      exact ⟨v, hv⟩
    · exact ⟨_, (stored_updatedParts_of_ne hp hf).trans (stored_of_make hs.make_parts f)⟩
  obtain ⟨t, ht⟩ := exists_make_eq_ok hstored
  exact ⟨t, Except.bind_eq_ok_iff.2 ⟨p, hp, ht⟩⟩

/-- An update changes its own facet only. -/
theorem get_update_of_ne (hs : s.Constructible) (h : s.update u = .ok t) {f : Facet}
    (hf : f ≠ u.facet) : t.get f = s.get f := by
  obtain ⟨p, hp, hmake⟩ := Except.bind_eq_ok_iff.1 h
  have hstored : p.stored f = .ok (s.get f) :=
    (stored_updatedParts_of_ne hp hf).trans (stored_of_make hs.make_parts f)
  exact Except.ok.inj ((stored_of_make hmake f).symm.trans hstored)

/-- What an update leaves in its facet depends on its argument and, for the sorts, on the sorts
before it. -/
theorem get_update_congr (h : s.update u = .ok s') (h' : t.update u = .ok t')
    (hsorts : u.facet = .allSorts → s.allSorts = t.allSorts) : s'.get u.facet = t'.get u.facet := by
  obtain ⟨p, hp, hmake⟩ := Except.bind_eq_ok_iff.1 h
  obtain ⟨q, hq, hmake'⟩ := Except.bind_eq_ok_iff.1 h'
  have hstored : p.stored u.facet = .ok (t'.get u.facet) :=
    (stored_updatedParts_congr hp hq hsorts).trans (stored_of_make hmake' _)
  exact Except.ok.inj ((stored_of_make hmake _).symm.trans hstored)

end OneUpdate

/-! ### Runs -/

/-- The specification after a run of updates. -/
def updateAll (s : Spec) (us : List Update) : Except Fault Spec :=
  us.foldlM update s

section Runs

variable {s t s' t' : Spec} {us vs : List Update} {f : Facet}

theorem updateAll_nil (s : Spec) : s.updateAll [] = .ok s := rfl

theorem updateAll_cons_eq_ok_iff {u : Update} :
    s.updateAll (u :: us) = .ok t ↔ ∃ r, s.update u = .ok r ∧ r.updateAll us = .ok t := by
  rw [updateAll, List.foldlM_cons, Except.bind_eq_ok_iff]
  rfl

theorem updateAll_append_eq_ok_iff :
    s.updateAll (us ++ vs) = .ok t ↔ ∃ r, s.updateAll us = .ok r ∧ r.updateAll vs = .ok t := by
  rw [updateAll, List.foldlM_append, Except.bind_eq_ok_iff]
  rfl

theorem Constructible.updateAll (hs : s.Constructible) (h : s.updateAll us = .ok t) :
    t.Constructible := by
  induction us generalizing s with
  | nil =>
      obtain rfl := Except.ok.inj h
      exact hs
  | cons u us ih =>
      obtain ⟨r, hr, h⟩ := updateAll_cons_eq_ok_iff.1 h
      exact ih (.update hr) h

/-- A run succeeds exactly if each update in it is accepted. -/
theorem exists_updateAll_iff (hs : s.Constructible) :
    (∃ t, s.updateAll us = .ok t) ↔ ∀ u ∈ us, u.Accepted := by
  induction us generalizing s with
  | nil => exact ⟨fun _ _ h => absurd h List.not_mem_nil, fun _ => ⟨s, rfl⟩⟩
  | cons u us ih =>
      rw [List.forall_mem_cons]
      constructor
      · rintro ⟨t, h⟩
        obtain ⟨r, hr, h⟩ := updateAll_cons_eq_ok_iff.1 h
        exact ⟨⟨s, r, hr⟩, (ih (.update hr)).1 ⟨t, h⟩⟩
      · rintro ⟨hu, hus⟩
        obtain ⟨r, hr⟩ := hu.exists_update hs
        obtain ⟨t, ht⟩ := (ih (.update hr)).2 hus
        exact ⟨t, updateAll_cons_eq_ok_iff.2 ⟨r, hr, ht⟩⟩

/-- The updates of a facet in a run. -/
def updatesOf (f : Facet) (us : List Update) : List Update :=
  us.filter fun u => u.facet = f

theorem updatesOf_cons_of_eq {u : Update} (hu : u.facet = f) :
    updatesOf f (u :: us) = u :: updatesOf f us :=
  List.filter_cons_of_pos (decide_eq_true hu)

theorem updatesOf_cons_of_ne {u : Update} (hu : u.facet ≠ f) :
    updatesOf f (u :: us) = updatesOf f us :=
  List.filter_cons_of_neg (by simpa using hu)

theorem mem_updatesOf {u : Update} : u ∈ updatesOf f us ↔ u ∈ us ∧ u.facet = f := by
  rw [updatesOf, List.mem_filter, decide_eq_true_iff]

/-- A run leaves in a facet what the updates of that facet alone leave in it. -/
theorem get_updateAll_updatesOf (hs : s.Constructible) (ht : t.Constructible)
    (h : s.updateAll us = .ok s') (h' : t.updateAll (updatesOf f us) = .ok t')
    (hst : s.get f = t.get f) : s'.get f = t'.get f := by
  induction us generalizing s t with
  | nil =>
      obtain rfl := Except.ok.inj h
      obtain rfl := Except.ok.inj h'
      exact hst
  | cons u us ih =>
      obtain ⟨r, hr, h⟩ := updateAll_cons_eq_ok_iff.1 h
      by_cases hu : u.facet = f
      · rw [updatesOf_cons_of_eq hu] at h'
        obtain ⟨r', hr', h'⟩ := updateAll_cons_eq_ok_iff.1 h'
        refine ih (.update hr) (.update hr') h h' ?_
        subst hu
        refine get_update_congr hr hr' fun hsorts => ?_
        rw [hsorts] at hst
        exact hst
      · rw [updatesOf_cons_of_ne hu] at h'
        exact ih (.update hr) ht h h' ((get_update_of_ne hs hr (Ne.symm hu)).trans hst)

/-- Runs with the same updates of a facet leave the same value in it. -/
theorem get_updateAll_congr (hs : s.Constructible) (ht : t.Constructible)
    (h : s.updateAll us = .ok s') (h' : t.updateAll vs = .ok t')
    (huv : updatesOf f us = updatesOf f vs) (hst : s.get f = t.get f) : s'.get f = t'.get f := by
  have hus := (exists_updateAll_iff hs).1 ⟨s', h⟩
  obtain ⟨r, hr⟩ : ∃ r, s.updateAll (updatesOf f us) = .ok r :=
    (exists_updateAll_iff hs).2 fun u hu => hus u (mem_updatesOf.1 hu).1
  calc s'.get f = r.get f := get_updateAll_updatesOf hs hs h hr rfl
    _ = t'.get f := (get_updateAll_updatesOf ht hs h' (huv ▸ hr) hst.symm).symm

/-- Runs with the same updates of each facet are one. -/
theorem updateAll_eq_ok_of_updatesOf_eq (hs : s.Constructible)
    (huv : ∀ f, updatesOf f us = updatesOf f vs) (h : s.updateAll us = .ok t) :
    s.updateAll vs = .ok t := by
  have hus := (exists_updateAll_iff hs).1 ⟨t, h⟩
  obtain ⟨t', h'⟩ : ∃ t', s.updateAll vs = .ok t' :=
    (exists_updateAll_iff hs).2 fun v hv =>
      hus v (mem_updatesOf.1 (huv v.facet ▸ mem_updatesOf.2 ⟨hv, rfl⟩)).1
  have htt' : t = t' := eq_of_get_eq fun f => get_updateAll_congr hs hs h h' (huv f) rfl
  rw [h', htt']

theorem updatesOf_swap {u v : Update} (huv : u.facet ≠ v.facet) (before after : List Update) :
    updatesOf f (before ++ u :: v :: after) = updatesOf f (before ++ v :: u :: after) := by
  simp only [updatesOf, List.filter_append, List.filter_cons]
  split_ifs with hu hv
  · exact absurd ((of_decide_eq_true hu).trans (of_decide_eq_true hv).symm) huv
  all_goals rfl

theorem get_updateAll_of_forall_ne (hs : s.Constructible) (h : s.updateAll us = .ok t)
    (hf : ∀ u ∈ us, u.facet ≠ f) : t.get f = s.get f := by
  refine get_updateAll_congr hs hs h (updateAll_nil s) ?_ rfl
  exact List.filter_eq_nil_iff.2 fun u hu => by simpa using hf u hu

/-- A facet other than the sorts holds the normal form of the last argument that the run gives for
it, which is what the construction stores for that argument. -/
theorem get_updateAll_of_getLast?_eq (hs : s.Constructible) (h : s.updateAll us = .ok t)
    (hf : f ≠ .allSorts) {u : Update} (hu : (updatesOf f us).getLast? = some u) :
    (∃ p r, p.Holds u ∧ make p = .ok r) ∧
      ∀ p r, p.Holds u → make p = .ok r → t.get f = r.get f := by
  have hus := (exists_updateAll_iff hs).1 ⟨t, h⟩
  obtain ⟨t', h'⟩ : ∃ t', s.updateAll (updatesOf f us) = .ok t' :=
    (exists_updateAll_iff hs).2 fun v hv => hus v (mem_updatesOf.1 hv).1
  have htt' : t.get f = t'.get f := get_updateAll_updatesOf hs hs h h' rfl
  obtain rfl : u.facet = f := (mem_updatesOf.1 (List.mem_of_getLast? hu)).2
  obtain ⟨before, hbefore⟩ := List.getLast?_eq_some_iff.1 hu
  rw [hbefore] at h'
  obtain ⟨r, -, h'⟩ := updateAll_append_eq_ok_iff.1 h'
  obtain ⟨r', hr', h'⟩ := updateAll_cons_eq_ok_iff.1 h'
  obtain rfl := Except.ok.inj h'
  obtain ⟨p, hp, hmake⟩ := Except.bind_eq_ok_iff.1 hr'
  have hholds := holds_updatedParts hp hf
  refine ⟨⟨p, r', hholds, hmake⟩, fun q w hq hw => htt'.trans ?_⟩
  have hstored : p.stored u.facet = .ok (w.get u.facet) :=
    (stored_congr_of_holds hholds hq).trans (stored_of_make hw _)
  exact Except.ok.inj ((stored_of_make hmake _).symm.trans hstored)

end Runs

/-- **Updates act facet by facet.**  Let `s` be a specification that is made from parts.

* It is made from its own facets again.
* Neighbouring updates of different facets can be exchanged anywhere in a run.
* A run succeeds exactly if each update in it is accepted.
* After a run, a facet other than the sorts holds what the construction stores for the last argument
  that the run gives for the facet, and exactly what `s` holds in it if the run gives none.
* The sorts after a run depend only on the sorts of `s` and on the updates of sorts in the run. -/
theorem updateAll_facetwise {s : Spec} (hs : s.Constructible) :
    make s.parts = .ok s ∧
    (∀ (u v : Update) (before after : List Update) (t : Spec), u.facet ≠ v.facet →
      (s.updateAll (before ++ u :: v :: after) = .ok t ↔
        s.updateAll (before ++ v :: u :: after) = .ok t)) ∧
    ∀ us : List Update,
      ((∃ t, s.updateAll us = .ok t) ↔ ∀ u ∈ us, u.Accepted) ∧
      ∀ t, s.updateAll us = .ok t →
        (∀ f, f ≠ .allSorts →
          ((∀ u ∈ us, u.facet ≠ f) → t.get f = s.get f) ∧
          ∀ u, (us.filter fun v => v.facet = f).getLast? = some u →
            (∃ p r, p.Holds u ∧ make p = .ok r) ∧
            ∀ p r, p.Holds u → make p = .ok r → t.get f = r.get f) ∧
        ∀ (s' t' : Spec) (vs : List Update), s'.Constructible → s'.updateAll vs = .ok t' →
          s'.allSorts = s.allSorts →
          (vs.filter fun v => v.facet = .allSorts) = (us.filter fun u => u.facet = .allSorts) →
          t'.allSorts = t.allSorts := by
  refine ⟨hs.make_parts, fun u v before after t huv => ⟨?_, ?_⟩, fun us =>
    ⟨exists_updateAll_iff hs, fun t h => ⟨fun f hf => ⟨?_, fun u hu => ?_⟩, ?_⟩⟩⟩
  · exact updateAll_eq_ok_of_updatesOf_eq hs fun f => updatesOf_swap huv before after
  · exact updateAll_eq_ok_of_updatesOf_eq hs fun f => updatesOf_swap (Ne.symm huv) before after
  · exact get_updateAll_of_forall_ne hs h
  · exact get_updateAll_of_getLast?_eq hs h hf hu
  · intro s' t' vs hs' h' hsorts hvs
    have hget : t'.get .allSorts = t.get .allSorts := get_updateAll_congr hs' hs h' h hvs hsorts
    exact hget

/-- The parts of a query for the views of pages, with a dimension given twice. -/
def pageViews : Parts where
  table := .make "views" [] ""
  granularity := .all
  format := .json
  timeZone := ⟨"UTC"⟩
  asyncAfter := .int (-1)
  dimensions := .items [.make "page" "" "" "" [] [], .make "page" "" "" "" [] []]

theorem updateAll_facetwise_pageViews :
    let page := Dimension.make "page" "" "" "" [] []
    let user := Dimension.make "user" "" "" "" [] []
    let filter : Filter := ⟨page, ⟨"id", ""⟩, .eq, [.text "home"]⟩
    ∃ s t : Spec, make pageViews = .ok s ∧
      s.updateAll [.filters (.flat (.items [filter])), .dimensions (.items []), .count (.int 5),
        .filters (.flat (.items [filter, filter])), .dimensions (.items [user, page, user])] =
          .ok t ∧
      t.dimensions = [user, page] ∧ t.filters = [(page, [filter])] ∧ t.metrics = s.metrics := by
  intro page user filter
  obtain ⟨s, hs⟩ : ∃ s, make pageViews = .ok s := ⟨_, rfl⟩
  obtain ⟨-, -, hrun⟩ := updateAll_facetwise ⟨pageViews, hs⟩
  obtain ⟨haccepted, hfacets⟩ := hrun [.filters (.flat (.items [filter])), .dimensions (.items []),
    .count (.int 5), .filters (.flat (.items [filter, filter])),
    .dimensions (.items [user, page, user])]
  obtain ⟨t, ht⟩ := haccepted.2 (by
    simp only [List.forall_mem_cons]
    exact ⟨⟨default, _, rfl⟩, ⟨default, _, rfl⟩, ⟨default, _, rfl⟩, ⟨default, _, rfl⟩,
      ⟨default, _, rfl⟩, fun _ h => absurd h List.not_mem_nil⟩)
  obtain ⟨hfacets, -⟩ := hfacets t ht
  have hdimensions := ((hfacets .dimensions (by decide)).2 _ rfl).2
    { pageViews with dimensions := .items [user, page, user] } _ rfl rfl
  have hfilters := ((hfacets .filters (by decide)).2 _ rfl).2
    { pageViews with filters := .flat (.items [filter, filter]) } _ rfl rfl
  have hmetrics := (hfacets .metrics (by decide)).1 (by decide)
  exact ⟨s, t, hs, ht, hdimensions, hfilters, hmetrics⟩

end Spec

end MetricQuery
