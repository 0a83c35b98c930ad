import MetricQuery.Proofs.Distinct
import MetricQuery.Proofs.Outcome
import MetricQuery.Query.Spec

/-!
# Facets of specifications

A specification consists of sixteen facets, and it is determined by them (`eq_of_get_eq`).  The
construction treats every facet on its own: `Parts.stored` is the normal form of one facet, and a
specification is made from parts exactly if each of its facets is the normal form of the part that
is given for it (`make_eq_ok_iff`).

Every facet of a specification is its own normal form.  So a specification that was made from parts
is made from its own facets again (`make_parts`), although its filters were given one after another
and come back grouped by dimension.

## Main definitions

* `Spec.Facet`, `Spec.Facet.Value` : the facets and their values.
* `Spec.get`, `Spec.ofFacets` : the facets of a specification, and the specification with given
  ones.
* `Spec.Parts.stored` : the normal form of one facet.

## Main results

* `Spec.make_eq_ok_iff` : the construction facet by facet.
* `Spec.exists_make_eq_ok` : the construction succeeds if every normal form exists.
* `Spec.make_parts` : the facets of a specification are their own normal forms.
-/

namespace MetricQuery

namespace Spec

/-! ### Facets -/

/-- The facets of a specification. -/
inductive Facet
  | table
  | granularity
  | dimensions
  | dimensionFields
  | metrics
  | intervals
  | filters
  | havings
  | allSorts
  | count
  | topN
  | format
  | downloadFilename
  | timeZone
  | asyncAfter
  | page
deriving DecidableEq, Repr

/-- The values of a facet. -/
abbrev Facet.Value : Facet → Type
  | .table => Table
  | .granularity => Granularity
  | .dimensions => List Dimension
  | .dimensionFields => Keyed Dimension (List DimensionField)
  | .metrics => List Metric
  | .intervals => List Interval
  | .filters => Keyed Dimension (List Filter)
  | .havings => Keyed Metric (List Having)
  | .allSorts => List SortDirective
  | .count | .topN | .downloadFilename | .asyncAfter => Datum
  | .format => ResponseFormat
  | .timeZone => Zone
  | .page => Option Page

/-- A facet of a specification. -/
def get (s : Spec) : (f : Facet) → f.Value
  | .table => s.table
  | .granularity => s.granularity
  | .dimensions => s.dimensions
  | .dimensionFields => s.dimensionFields
  | .metrics => s.metrics
  | .intervals => s.intervals
  | .filters => s.filters
  | .havings => s.havings
  | .allSorts => s.allSorts
  | .count => s.count
  | .topN => s.topN
  | .format => s.format
  | .downloadFilename => s.downloadFilename
  | .timeZone => s.timeZone
  | .asyncAfter => s.asyncAfter
  | .page => s.page

/-- The specification with given facets. -/
def ofFacets (v : (f : Facet) → f.Value) : Spec where
  table := v .table
  granularity := v .granularity
  dimensions := v .dimensions
  dimensionFields := v .dimensionFields
  metrics := v .metrics
  intervals := v .intervals
  filters := v .filters
  havings := v .havings
  allSorts := v .allSorts
  count := v .count
  topN := v .topN
  format := v .format
  downloadFilename := v .downloadFilename
  timeZone := v .timeZone
  asyncAfter := v .asyncAfter
  page := v .page

@[simp] theorem get_ofFacets (v : (f : Facet) → f.Value) (f : Facet) :
    (ofFacets v).get f = v f := by
  cases f <;> rfl

@[simp] theorem ofFacets_get (s : Spec) : ofFacets s.get = s := rfl

theorem eq_of_get_eq {s t : Spec} (h : ∀ f, s.get f = t.get f) : s = t := by
  rw [← ofFacets_get s, funext h, ofFacets_get]

/-! ### Construction facet by facet -/

/-- The normal form of the part that is given for a facet. -/
def Parts.stored (p : Parts) : (f : Facet) → Except Fault f.Value
  | .table => .ok p.table
  | .granularity => .ok p.granularity
  | .dimensions => p.dimensions.elementsOrNone.map distinct
  | .dimensionFields => normalFields p.dimensionFields
  | .metrics => p.metrics.elementsOrNone.map distinct
  | .intervals => p.intervals.elementsOrNone
  | .filters => normalFilters p.filters
  | .havings => normalHavings p.havings
  | .allSorts => p.allSorts.elementsOrNone.map distinct
  | .count => .ok p.count
  | .topN => .ok p.topN
  | .format => .ok p.format
  | .downloadFilename => .ok p.downloadFilename
  | .timeZone => .ok p.timeZone
  | .asyncAfter => .ok p.asyncAfter
  | .page => .ok p.page

theorem stored_of_make {p : Parts} {s : Spec} (h : make p = .ok s) (f : Facet) :
    p.stored f = .ok (s.get f) := by
  simp only [make, Except.bind_eq_ok_iff] at h
  obtain ⟨dimensions, hdimensions, fields, hfields, metrics, hmetrics, intervals, hintervals,
    filters, hfilters, havings, hhavings, sorts, hsorts, h⟩ := h
  obtain rfl := Except.ok.inj h
  cases f <;> simp only [Parts.stored, get, Except.map, *]

/-- The construction succeeds if every facet has a normal form. -/
theorem exists_make_eq_ok {p : Parts} (h : ∀ f, ∃ v, p.stored f = .ok v) :
    ∃ s, make p = .ok s := by
  obtain ⟨_, hdimensions⟩ := h .dimensions
  obtain ⟨fields, hfields⟩ := h .dimensionFields
  obtain ⟨_, hmetrics⟩ := h .metrics
  obtain ⟨intervals, hintervals⟩ := h .intervals
  obtain ⟨filters, hfilters⟩ := h .filters
  obtain ⟨havings, hhavings⟩ := h .havings
  obtain ⟨_, hsorts⟩ := h .allSorts
  obtain ⟨dimensions, hdimensions, -⟩ := Except.map_eq_ok_iff.1 hdimensions
  obtain ⟨metrics, hmetrics, -⟩ := Except.map_eq_ok_iff.1 hmetrics
  obtain ⟨sorts, hsorts, -⟩ := Except.map_eq_ok_iff.1 hsorts
  simp only [Parts.stored] at hfields hintervals hfilters hhavings
  simp only [make, hdimensions, hfields, hmetrics, hintervals, hfilters, hhavings, hsorts]
  exact ⟨_, rfl⟩

/-- A specification is made from parts exactly if each of its facets is the normal form of the part
that is given for it. -/
theorem make_eq_ok_iff {p : Parts} {s : Spec} :
    make p = .ok s ↔ ∀ f, p.stored f = .ok (s.get f) := by
  refine ⟨stored_of_make, fun h => ?_⟩
  obtain ⟨t, ht⟩ := exists_make_eq_ok fun f => ⟨_, h f⟩
  have hst : t = s := eq_of_get_eq fun f =>
    Except.ok.inj ((stored_of_make ht f).symm.trans (h f))
  rw [ht, hst]

/-! ### Facets are their own normal forms -/

theorem distinct_of_map_eq_ok {α : Type} [BEq α] {x : Except Fault (List α)} {ys : List α}
    (h : x.map distinct = .ok ys) : distinct ys = ys := by
  obtain ⟨xs, -, rfl⟩ := Except.map_eq_ok_iff.1 h
  exact distinct_distinct xs

/-- Entries that are computed from lists of members come back from their own members. -/
theorem mapM_items_eq_ok {κ ν : Type} {f : κ × Given ν → Except Fault (κ × List ν)}
    {m : Keyed κ (List ν)} (h : ∀ e ∈ m, f (e.1, .items e.2) = .ok e) :
    (m.map fun (key, members) => (key, Given.items members)).mapM f = .ok m := by
  rw [List.mapM_eq_ok_iff, List.forall₂_map_left_iff, List.forall₂_same]
  exact h

theorem normalFields_fixed {given : Given (Dimension × Given DimensionField) Datum.Entryless}
    {m : Keyed Dimension (List DimensionField)} (h : normalFields given = .ok m) :
    normalFields (.items (m.map fun (d, fields) => (d, .items fields))) = .ok m := by
  obtain ⟨entries, -, h⟩ := Except.bind_eq_ok_iff.1 h
  refine mapM_items_eq_ok fun e he => ?_
  obtain ⟨entry, -, hentry⟩ := List.exists_of_mapM_eq_ok h he
  obtain ⟨fields, -, hfields⟩ := Except.bind_eq_ok_iff.1 hentry
  obtain rfl := Except.ok.inj hfields
  change Except.ok (entry.1, distinct (distinct fields)) = _
  rw [distinct_distinct]

theorem normalHavings_fixed {given : Given (Metric × Given Having) Datum.Entryless}
    {m : Keyed Metric (List Having)} (h : normalHavings given = .ok m) :
    normalHavings (.items (m.map fun (metric, havings) => (metric, .items havings))) = .ok m := by
  obtain ⟨entries, -, h⟩ := Except.bind_eq_ok_iff.1 h
  refine mapM_items_eq_ok fun e he => ?_
  obtain ⟨entry, -, hentry⟩ := List.exists_of_mapM_eq_ok h he
  simp only [Except.bind_eq_ok_iff] at hentry
  obtain ⟨members, -, ⟨⟩, hcheck, hmembers⟩ := hentry
  obtain rfl := Except.ok.inj hmembers
  have hkept : (distinct members).forM Having.checkMember = .ok ⟨⟩ :=
    List.forM_eq_ok_iff.2 fun x hx =>
      List.forM_eq_ok_iff.1 hcheck x ((distinct_sublist members).subset hx)
  refine Except.bind_eq_ok_iff.2 ⟨_, rfl, Except.bind_eq_ok_iff.2 ⟨_, hkept, ?_⟩⟩
  rw [distinct_distinct]
  rfl

theorem noRepeats_addUnder {κ ν : Type} [BEq κ] [BEq ν] {m : Keyed κ (List ν)} (key : κ) (value : ν)
    (h : ∀ e ∈ m, NoRepeats e.2) : ∀ e ∈ m.addUnder key value, NoRepeats e.2 := by
  induction m with
  | nil =>
      intro e he
      obtain rfl := List.mem_singleton.1 he
      exact List.pairwise_singleton ..
  | cons entry rest ih =>
      obtain ⟨hentry, hrest⟩ := List.forall_mem_cons.1 h
      rw [Keyed.addUnder]
      split
      · refine List.forall_mem_cons.2 ⟨?_, hrest⟩
        dsimp only
        split
        · exact hentry
        · rename_i hnew
          refine hentry.concat fun x hx => ?_
          rw [← Bool.not_eq_true]
          exact fun hxy => hnew (List.any_eq_true.2 ⟨x, hx, hxy⟩)
      · exact List.forall_mem_cons.2 ⟨hentry, ih hrest⟩

theorem noRepeats_foldl_addUnder (filters : List Filter) {m : Keyed Dimension (List Filter)}
    (h : ∀ e ∈ m, NoRepeats e.2) :
    ∀ e ∈ filters.foldl (fun m f => m.addUnder f.dimension f) m, NoRepeats e.2 := by
  induction filters generalizing m with
  | nil => exact h
  | cons f rest ih => exact ih (noRepeats_addUnder f.dimension f h)

/-- The sets of a map of filters have no repeats, in whichever of the two forms the filters are
given. -/
theorem noRepeats_of_normalFilters {given : GivenFilters} {m : Keyed Dimension (List Filter)}
    (h : normalFilters given = .ok m) : ∀ e ∈ m, NoRepeats e.2 := by
  cases given with
  | grouped groups =>
      intro e he
      obtain ⟨group, -, hgroup⟩ := List.exists_of_mapM_eq_ok h he
      obtain ⟨filters, -, hfilters⟩ := Except.bind_eq_ok_iff.1 hgroup
      obtain rfl := Except.ok.inj hfilters
      exact noRepeats_distinct filters
  | flat filters =>
      obtain ⟨elements, -, helements⟩ := Except.bind_eq_ok_iff.1 h
      obtain rfl := Except.ok.inj helements
      exact noRepeats_foldl_addUnder elements fun e he => absurd he List.not_mem_nil

theorem normalFilters_fixed {given : GivenFilters} {m : Keyed Dimension (List Filter)}
    (h : normalFilters given = .ok m) :
    normalFilters (.grouped (m.map fun (d, filters) => (d, .items filters))) = .ok m := by
  refine mapM_items_eq_ok fun e he => ?_
  change Except.ok (e.1, distinct e.2) = _
  rw [(noRepeats_of_normalFilters h e he).distinct_eq]

/-- The normal form of a facet is its own normal form. -/
theorem stored_parts {p : Parts} {s : Spec} {f : Facet} (h : p.stored f = .ok (s.get f)) :
    s.parts.stored f = .ok (s.get f) := by
  cases f with
  | dimensions | metrics | allSorts => exact congrArg Except.ok (distinct_of_map_eq_ok h)
  | dimensionFields => exact normalFields_fixed h
  | filters => exact normalFilters_fixed h
  | havings => exact normalHavings_fixed h
  | _ => rfl

/-- A specification is made from its own facets again. -/
theorem make_parts {p : Parts} {s : Spec} (h : make p = .ok s) : make s.parts = .ok s :=
  make_eq_ok_iff.2 fun f => stored_parts (stored_of_make h f)

end Spec

end MetricQuery
