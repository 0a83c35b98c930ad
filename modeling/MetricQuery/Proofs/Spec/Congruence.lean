import MetricQuery.Proofs.Collection
import MetricQuery.Proofs.Spec.Update

/-!
# Specifications from equal arguments

Two arguments of a specification are alike if they are equal part by part: lists element by element,
maps entry by entry.  The construction takes alike arguments to equal specifications, although each
of them keeps its own representatives where it frees a list of repeats, collects a set or groups
filters by dimension: it keeps them at the same places.  The same holds for a run of updates, so no
sequence of operations can tell equal arguments apart.

Alike specifications have alike parts again, which carries one construction over to the next.

## Main definitions

* `Spec.GivenFilters.Alike`, `Spec.Parts.Alike`, `Spec.Update.Alike` : equal arguments of the
  construction and of updates.
* `Spec.Facet.Alike`, `Spec.Alike` : equal facets, and specifications whose facets are.
* `Spec.Matches` : specifications that are equal in every facet and every view.

## Main results

* `Spec.make_alike`, `Spec.update_alike`, `Spec.updateAll_alike` : equal arguments lead to equal
  results.
* `Spec.Alike.matches` : specifications with equal facets match.
* `Spec.updateAll_congr` : a construction and a run of updates from equal arguments.
-/

namespace MetricQuery

namespace Spec

/-! ### Equal arguments of the construction -/

/-- Filters are given alike: in the same one of the two forms, and equal part by part. -/
inductive GivenFilters.Alike : GivenFilters → GivenFilters → Prop
  | grouped {m m' : Keyed Dimension (Given Filter)} (h : AlikeMaps (Given.Alike AlikeLists) m m') :
      Alike (.grouped m) (.grouped m')
  | flat {g g' : Given Filter Datum.Entryless} (h : g.Alike AlikeLists g') :
      Alike (.flat g) (.flat g')

/-- Parts that are equal facet by facet. -/
structure Parts.Alike (p q : Parts) : Prop where
  table : (p.table == q.table) = true
  granularity : (p.granularity == q.granularity) = true
  dimensions : p.dimensions.Alike AlikeLists q.dimensions
  dimensionFields : p.dimensionFields.Alike (AlikeMaps (Given.Alike AlikeLists)) q.dimensionFields
  metrics : p.metrics.Alike AlikeLists q.metrics
  intervals : p.intervals.Alike AlikeLists q.intervals
  filters : p.filters.Alike q.filters
  havings : p.havings.Alike (AlikeMaps (Given.Alike AlikeLists)) q.havings
  allSorts : p.allSorts.Alike AlikeLists q.allSorts
  count : (p.count == q.count) = true
  topN : (p.topN == q.topN) = true
  format : (p.format == q.format) = true
  downloadFilename : (p.downloadFilename == q.downloadFilename) = true
  timeZone : (p.timeZone == q.timeZone) = true
  asyncAfter : (p.asyncAfter == q.asyncAfter) = true
  page : (p.page == q.page) = true

/-- Updates of the same facet with equal arguments. -/
inductive Update.Alike : Update → Update → Prop
  | table {t t' : Table} (h : (t == t') = true) : Alike (.table t) (.table t')
  | granularity {g g' : Granularity} (h : (g == g') = true) :
      Alike (.granularity g) (.granularity g')
  | dimensions {g g' : Given Dimension} (h : g.Alike AlikeLists g') :
      Alike (.dimensions g) (.dimensions g')
  | dimensionFields {g g' : Given (Dimension × Given DimensionField) Datum.Entryless}
      (h : g.Alike (AlikeMaps (Given.Alike AlikeLists)) g') :
      Alike (.dimensionFields g) (.dimensionFields g')
  | metrics {g g' : Given Metric} (h : g.Alike AlikeLists g') : Alike (.metrics g) (.metrics g')
  | intervals {g g' : Given Interval} (h : g.Alike AlikeLists g') :
      Alike (.intervals g) (.intervals g')
  | filters {g g' : GivenFilters} (h : g.Alike g') : Alike (.filters g) (.filters g')
  | havings {g g' : Given (Metric × Given Having) Datum.Entryless}
      (h : g.Alike (AlikeMaps (Given.Alike AlikeLists)) g') : Alike (.havings g) (.havings g')
  | allSorts {g g' : Given SortDirective} (h : g.Alike AlikeLists g') :
      Alike (.allSorts g) (.allSorts g')
  | sorts {g g' : Given SortDirective fun _ => True} (h : g.Alike AlikeLists g') :
      Alike (.sorts g) (.sorts g')
  | timeSort {s s' : Option SortDirective} (h : (s == s') = true) :
      Alike (.timeSort s) (.timeSort s')
  | count {d d' : Datum} (h : (d == d') = true) : Alike (.count d) (.count d')
  | topN {d d' : Datum} (h : (d == d') = true) : Alike (.topN d) (.topN d')
  | format {f f' : ResponseFormat} (h : (f == f') = true) : Alike (.format f) (.format f')
  | downloadFilename {d d' : Datum} (h : (d == d') = true) :
      Alike (.downloadFilename d) (.downloadFilename d')
  | timeZone {z z' : Zone} (h : (z == z') = true) : Alike (.timeZone z) (.timeZone z')
  | asyncAfter {d d' : Datum} (h : (d == d') = true) : Alike (.asyncAfter d) (.asyncAfter d')
  | page {p p' : Option Page} (h : (p == p') = true) : Alike (.page p) (.page p')

/-! ### Equal normal forms -/

theorem normalFields_alike {g g' : Given (Dimension × Given DimensionField) Datum.Entryless}
    (h : g.Alike (AlikeMaps (Given.Alike AlikeLists)) g') :
    (normalFields g).Alike (AlikeMaps AlikeLists) (normalFields g') := by
  refine (h.entriesOrNone alikeMaps_nil).bind fun m m' hm => ?_
  refine hm.mapM (fun fields => do return distinct (← fields.elementsOrNone))
    (fun _ => by simp only [bind_assoc, pure_bind]) fun v v' hv => ?_
  exact (hv.elementsOrNone .nil).bind fun _ _ hfields => .ok hfields.distinct

theorem alikeMaps_foldl_addUnder {fs fs' : List Filter} (h : AlikeLists fs fs')
    {m m' : Keyed Dimension (List Filter)} (hm : AlikeMaps AlikeLists m m') :
    AlikeMaps AlikeLists (fs.foldl (fun m f => m.addUnder f.dimension f) m)
      (fs'.foldl (fun m f => m.addUnder f.dimension f) m') := by
  induction h generalizing m m' with
  | nil => exact hm
  | cons hf _ ih => exact ih (hm.addUnder (Filter.dimension_beq hf) hf)

theorem normalFilters_alike {g g' : GivenFilters} (h : g.Alike g') :
    (normalFilters g).Alike (AlikeMaps AlikeLists) (normalFilters g') := by
  cases h with
  | grouped h =>
      refine h.mapM (fun filters => do return distinct (← filters.elements))
        (fun _ => by simp only [bind_assoc, pure_bind]) fun v v' hv => ?_
      exact (hv.elements .nil).bind fun _ _ hfilters => .ok hfilters.distinct
  | flat h =>
      refine (h.elementsWithOrNone .nil _).bind fun fs fs' hfs => .ok ?_
      exact alikeMaps_foldl_addUnder hfs alikeMaps_nil

/-- Equal values are both keys or both not. -/
theorem key_alike : (d e : Datum) → (d == e) = true → d.key.Alike (fun _ _ => True) e.key
  | .scalar _, .scalar _, _ => .ok trivial
  | .date _, .date _, _ | .instant _, .instant _, _ | .bytes _, .bytes _, _ | .list _, .list _, _
  | .pair _ _, .pair _ _, _ | .set _, .set _, _ | .map _, .map _, _ | .cycle _, .cycle _, _ =>
      .error ..

theorem checkMember_alike {h k : Having} (hk : (h == k) = true) :
    h.checkMember.Alike (fun _ _ => True) k.checkMember :=
  .forM (Having.alikeLists_values hk) fun d e hd => (key_alike d e hd).bind fun _ _ _ => .ok trivial

theorem normalHavings_alike {g g' : Given (Metric × Given Having) Datum.Entryless}
    (h : g.Alike (AlikeMaps (Given.Alike AlikeLists)) g') :
    (normalHavings g).Alike (AlikeMaps AlikeLists) (normalHavings g') := by
  refine (h.entriesOrNone alikeMaps_nil).bind fun m m' hm => ?_
  refine hm.mapM (fun havings => do
      let members ← havings.elements
      members.forM Having.checkMember
      return distinct members) (fun _ => by simp only [bind_assoc, pure_bind]) fun v v' hv => ?_
  refine (hv.elements .nil).bind fun hs hs' hhs => ?_
  have hchecks : (hs.forM Having.checkMember).Alike (fun _ _ => True)
      (hs'.forM Having.checkMember) := .forM hhs fun _ _ => checkMember_alike
  exact hchecks.bind fun _ _ _ => .ok hhs.distinct

/-! ### Equal specifications -/

/-- Values of a facet that are equal part by part. -/
def Facet.Alike : (f : Facet) → f.Value → f.Value → Prop
  | .table, t, t' => (t == t') = true
  | .granularity, g, g' => (g == g') = true
  | .dimensions, ds, ds' => AlikeLists ds ds'
  | .dimensionFields, m, m' => AlikeMaps AlikeLists m m'
  | .metrics, ms, ms' => AlikeLists ms ms'
  | .intervals, is, is' => AlikeLists is is'
  | .filters, m, m' => AlikeMaps AlikeLists m m'
  | .havings, m, m' => AlikeMaps AlikeLists m m'
  | .allSorts, ss, ss' => AlikeLists ss ss'
  | .count, d, d' | .topN, d, d' | .downloadFilename, d, d' | .asyncAfter, d, d' => (d == d') = true
  | .format, f, f' => (f == f') = true
  | .timeZone, z, z' => (z == z') = true
  | .page, p, p' => (p == p') = true

/-- Specifications whose facets are equal part by part. -/
def Alike (s t : Spec) : Prop :=
  ∀ f : Facet, f.Alike (s.get f) (t.get f)

section Alike

variable {p q : Parts} {s t : Spec} {u v : Update}

/-- Equal parts have equal normal forms, facet by facet. -/
theorem stored_alike (h : p.Alike q) (f : Facet) : (p.stored f).Alike f.Alike (q.stored f) := by
  cases f with
  | table => exact .ok h.table
  | granularity => exact .ok h.granularity
  | dimensions => exact (h.dimensions.elementsOrNone .nil).map fun _ _ => AlikeLists.distinct
  | dimensionFields => exact normalFields_alike h.dimensionFields
  | metrics => exact (h.metrics.elementsOrNone .nil).map fun _ _ => AlikeLists.distinct
  | intervals => exact h.intervals.elementsOrNone .nil
  | filters => exact normalFilters_alike h.filters
  | havings => exact normalHavings_alike h.havings
  | allSorts => exact (h.allSorts.elementsOrNone .nil).map fun _ _ => AlikeLists.distinct
  | count => exact .ok h.count
  | topN => exact .ok h.topN
  | format => exact .ok h.format
  | downloadFilename => exact .ok h.downloadFilename
  | timeZone => exact .ok h.timeZone
  | asyncAfter => exact .ok h.asyncAfter
  | page => exact .ok h.page

theorem exists_make_eq_ok_iff : (∃ s, make p = .ok s) ↔ ∀ f, ∃ v, p.stored f = .ok v :=
  ⟨fun ⟨_, hs⟩ f => ⟨_, stored_of_make hs f⟩, exists_make_eq_ok⟩

/-- Equal parts make equal specifications. -/
theorem make_alike (h : p.Alike q) : (make p).Alike Spec.Alike (make q) := by
  refine .of_exists_iff ?_ fun s t hs ht f =>
    (stored_alike h f).rel (stored_of_make hs f) (stored_of_make ht f)
  rw [exists_make_eq_ok_iff, exists_make_eq_ok_iff]
  exact forall_congr' fun f => (stored_alike h f).exists_iff

/-- Maps of equal lists are equal as maps of given lists. -/
theorem alikeMaps_items {κ ν : Type} [BEq κ] [BEq ν] {m m' : Keyed κ (List ν)}
    (h : AlikeMaps AlikeLists m m') :
    AlikeMaps (Given.Alike AlikeLists) (m.map fun (k, values) => (k, (.items values : Given ν)))
      (m'.map fun (k, values) => (k, .items values)) := by
  obtain ⟨hdifferent, hentries⟩ := h
  refine ⟨?_, ?_⟩
  · rwa [Keyed.keys, List.map_map]
  · rw [List.forall₂_map_left_iff, List.forall₂_map_right_iff]
    exact hentries.imp fun e e' he => ⟨he.1, .items he.2⟩

/-- Equal specifications have equal parts. -/
theorem parts_alike (h : s.Alike t) : s.parts.Alike t.parts where
  table := h .table
  granularity := h .granularity
  dimensions := .items (h .dimensions)
  dimensionFields := .items (alikeMaps_items (h .dimensionFields))
  metrics := .items (h .metrics)
  intervals := .items (h .intervals)
  filters := .grouped (alikeMaps_items (h .filters))
  havings := .items (alikeMaps_items (h .havings))
  allSorts := .items (h .allSorts)
  count := h .count
  topN := h .topN
  format := h .format
  downloadFilename := h .downloadFilename
  timeZone := h .timeZone
  asyncAfter := h .asyncAfter
  page := h .page

/-- Sorts are equal only if they are the same. -/
theorem Alike.allSorts_eq (h : s.Alike t) : s.allSorts = t.allSorts :=
  AlikeLists.eq (h .allSorts)

/-- Equal updates of equal specifications lead to equal parts. -/
theorem updatedParts_alike (h : s.Alike t) (hu : u.Alike v) :
    (s.updatedParts u).Alike Parts.Alike (t.updatedParts v) := by
  have hparts := parts_alike h
  cases hu with
  | table hu => exact .ok { hparts with table := hu }
  | granularity hu => exact .ok { hparts with granularity := hu }
  | dimensions hu => exact .ok { hparts with dimensions := hu }
  | dimensionFields hu => exact .ok { hparts with dimensionFields := hu }
  | metrics hu => exact .ok { hparts with metrics := hu }
  | intervals hu => exact .ok { hparts with intervals := hu }
  | filters hu => exact .ok { hparts with filters := hu }
  | havings hu => exact .ok { hparts with havings := hu }
  | allSorts hu => exact .ok { hparts with allSorts := hu }
  -- Sorts that are equal are the same, so the portions of the sorts are combined to the same list.
  | sorts hu =>
      refine (hu.elementsWith .nil _).bind fun others others' hothers => ?_
      have hsorts : combineSorts s.dateTimeSort others = combineSorts t.dateTimeSort others' := by
        rw [dateTimeSort, dateTimeSort, h.allSorts_eq, AlikeLists.eq hothers]
      exact .ok { hparts with allSorts := .items (hsorts ▸ alikeLists_refl _) }
  | @timeSort sort sort' hu =>
      have hsorts : combineSorts sort s.sorts = combineSorts sort' t.sorts := by
        rw [sorts, sorts, h.allSorts_eq, eq_of_beq hu]
      exact .ok { hparts with allSorts := .items (hsorts ▸ alikeLists_refl _) }
  | count hu => exact .ok { hparts with count := hu }
  | topN hu => exact .ok { hparts with topN := hu }
  | format hu => exact .ok { hparts with format := hu }
  | downloadFilename hu => exact .ok { hparts with downloadFilename := hu }
  | timeZone hu => exact .ok { hparts with timeZone := hu }
  | asyncAfter hu => exact .ok { hparts with asyncAfter := hu }
  | page hu => exact .ok { hparts with page := hu }

/-- Equal updates take equal specifications to equal ones. -/
theorem update_alike (h : s.Alike t) (hu : u.Alike v) :
    (s.update u).Alike Spec.Alike (t.update v) :=
  (updatedParts_alike h hu).bind fun _ _ => make_alike

/-- Runs of equal updates take equal specifications to equal ones. -/
theorem updateAll_alike {us vs : List Update} (h : s.Alike t)
    (hus : List.Forall₂ Update.Alike us vs) :
    (s.updateAll us).Alike Spec.Alike (t.updateAll vs) := by
  induction hus generalizing s t with
  | nil => exact .ok h
  | cons hu _ ih => exact (update_alike h hu).bind fun _ _ => ih

end Alike

/-! ### Equality of specifications and of their views -/

/-- Two specifications are equal, no facet differs, and all views agree. -/
structure Matches (s t : Spec) : Prop where
  beq : (s == t) = true
  differing : s.differing t = []
  sorts : s.sorts = t.sorts
  dateTimeSort : s.dateTimeSort = t.dateTimeSort
  hasTimeSort : s.hasTimeSort = t.hasTimeSort
  isDownload : s.isDownload = t.isDownload

theorem differing_eq_nil_iff {s t : Spec} : s.differing t = [] ↔ (s == t) = true := by
  have hbeq : (s == t) = (agreement s t).all (·.2) := rfl
  rw [hbeq, differing, List.map_eq_nil_iff, List.filter_eq_nil_iff, List.all_eq_true]
  simp

theorem Alike.beq {s t : Spec} (h : s.Alike t) : (s == t) = true := by
  have hbeq : (s == t) = (agreement s t).all (·.2) := rfl
  have hfields : s.dimensionFields.same (· == ·) t.dimensionFields = true :=
    AlikeMaps.same (h .dimensionFields) fun _ _ => list_beq_iff.2
  have hfilters : s.filters.same sameMembers t.filters = true :=
    AlikeMaps.same (h .filters) fun _ _ => AlikeLists.sameMembers
  have hhavings : s.havings.same sameMembers t.havings = true :=
    AlikeMaps.same (h .havings) fun _ _ => AlikeLists.sameMembers
  rw [hbeq, List.all_eq_true]
  simp only [agreement, List.forall_mem_cons]
  exact ⟨h .table, h .granularity, list_beq_iff.2 (h .dimensions), hfields,
    list_beq_iff.2 (h .metrics), list_beq_iff.2 (h .intervals), hfilters, hhavings,
    list_beq_iff.2 (h .allSorts), h .count, h .topN, h .format, h .downloadFilename, h .timeZone,
    h .asyncAfter, h .page, fun _ he => absurd he List.not_mem_nil⟩

theorem Alike.matches {s t : Spec} (h : s.Alike t) : s.Matches t := by
  have hsorts := h.allSorts_eq
  have htime : s.dateTimeSort = t.dateTimeSort := by rw [dateTimeSort, dateTimeSort, hsorts]
  have hfile : (s.downloadFilename == t.downloadFilename) = true := h .downloadFilename
  refine ⟨h.beq, differing_eq_nil_iff.2 h.beq, ?_, htime, ?_, ?_⟩
  · rw [sorts, sorts, hsorts]
  · rw [hasTimeSort, hasTimeSort, htime]
  · rw [isDownload, isDownload, BEq.congr_left hfile]

/-- **Equality is a congruence.**  From equal parts the construction succeeds for both or for
neither, and then makes specifications that match.  Runs of equal updates from there succeed for
both or for neither, and then lead to specifications that match. -/
theorem updateAll_congr {p q : Parts} (h : p.Alike q) :
    ((∃ s, make p = .ok s) ↔ ∃ t, make q = .ok t) ∧
    ∀ s t, make p = .ok s → make q = .ok t → s.Matches t ∧
      ∀ us vs, List.Forall₂ Update.Alike us vs →
        ((∃ s', s.updateAll us = .ok s') ↔ ∃ t', t.updateAll vs = .ok t') ∧
        ∀ s' t', s.updateAll us = .ok s' → t.updateAll vs = .ok t' → s'.Matches t' := by
  refine ⟨(make_alike h).exists_iff, fun s t hs ht => ?_⟩
  have hst : s.Alike t := (make_alike h).rel hs ht
  refine ⟨hst.matches, fun us vs hus => ⟨(updateAll_alike hst hus).exists_iff, ?_⟩⟩
  exact fun s' t' hs' ht' => ((updateAll_alike hst hus).rel hs' ht').matches

/-- The parts of a query for a day of views of pages, whose dimension is bound to a store or not and
whose numbers are given in one way or another. -/
def dayOfViews (store : Option String) (start : Instant) (one hundred : Datum) : Parts where
  table := .make "views" [] ""
  granularity := .all
  format := .json
  timeZone := ⟨"UTC"⟩
  asyncAfter := .int (-1)
  dimensions := .items [{ Dimension.make "page" "" "" "" [] [] with store := store },
    .make "page" "" "" "" [] []]
  intervals := .items [⟨start, ⟨⟨2024, 1, 2⟩, 0, 0, 0, 0, false, some (.fixed 0)⟩⟩]
  havings := .items [(.make (.text "clicks") "" "" "General" [],
    .items [⟨.make (.text "clicks") "" "" "General" [], .greaterThan, [hundred]⟩,
      ⟨.make (.text "clicks") "" "" "General" [], .greaterThan, [.int 100]⟩])]
  count := one

/-- The binary number 100. -/
def hundred : Binary64 :=
  .finite false 7036874417766400 (-46)

/-- The day in universal time, with integers and an unbound dimension. -/
def plainDay : Parts :=
  dayOfViews none ⟨⟨2024, 1, 1⟩, 0, 0, 0, 0, false, some (.fixed 0)⟩ (.int 1) (.int 100)

/-- The day from one hour ahead, with other numbers and a bound dimension. -/
def boundDay : Parts :=
  dayOfViews (some "pages") ⟨⟨2024, 1, 1⟩, 1, 0, 0, 0, false, some (.fixed 3600000000)⟩ (.bool true)
    (.float hundred)

theorem plainDay_alike : plainDay.Alike boundDay where
  table := rfl
  granularity := rfl
  dimensions := .items (.cons rfl (.cons rfl .nil))
  dimensionFields := .items alikeMaps_nil
  metrics := .items .nil
  intervals := .items (.cons rfl .nil)
  filters := .grouped alikeMaps_nil
  havings := .items ⟨List.pairwise_singleton ..,
    .cons ⟨rfl, .items (.cons rfl (.cons rfl .nil))⟩ .nil⟩
  allSorts := .items .nil
  count := rfl
  topN := rfl
  format := rfl
  downloadFilename := rfl
  timeZone := rfl
  asyncAfter := rfl
  page := rfl

theorem updateAll_congr_dayOfViews : plainDay.Alike boundDay ∧
    ∃ s t s' t' : Spec, make plainDay = .ok s ∧ make boundDay = .ok t ∧ s.Matches t ∧
      s.updateAll [.count (.int 0), .topN (.int 100)] = .ok s' ∧
      t.updateAll [.count (.bool false), .topN (.float hundred)] = .ok t' ∧ s'.Matches t' := by
  obtain ⟨s, hs⟩ : ∃ s, make plainDay = .ok s := ⟨_, rfl⟩
  obtain ⟨hmake, hmatches⟩ := updateAll_congr plainDay_alike
  obtain ⟨t, ht⟩ := hmake.1 ⟨s, hs⟩
  obtain ⟨hst, hrun⟩ := hmatches s t hs ht
  obtain ⟨s', hs'⟩ : ∃ s', s.updateAll [.count (.int 0), .topN (.int 100)] = .ok s' :=
    (exists_updateAll_iff ⟨plainDay, hs⟩).2 (List.forall_mem_cons.2 ⟨⟨default, _, rfl⟩,
      List.forall_mem_singleton.2 ⟨default, _, rfl⟩⟩)
  have hupdates : List.Forall₂ Update.Alike [.count (.int 0), .topN (.int 100)]
      [.count (.bool false), .topN (.float hundred)] :=
    .cons (.count rfl) (.cons (.topN rfl) .nil)
  obtain ⟨hupdate, hmatches'⟩ := hrun _ _ hupdates
  obtain ⟨t', ht'⟩ := hupdate.1 ⟨s', hs'⟩
  exact ⟨plainDay_alike, s, t, s', t', hs, ht, hst, hs', ht', hmatches' s' t' hs' ht'⟩

end Spec

end MetricQuery
