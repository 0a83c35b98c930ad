import MetricQuery.Keyed
import MetricQuery.Query.Interval
import MetricQuery.Query.Predicate
import MetricQuery.Query.Response
import MetricQuery.Query.Sort

/-!
# Query specifications

A specification is the full description of one query.  It is built from parts, which may hold
repeats or loose values, and holds every facet in normal form.  A specification is never changed: an
update gives a new one that is built from the parts of the old one with one part replaced.

## Main definitions

* `Spec` : a specification.
* `Spec.Parts` : what a specification is built from.
* `Spec.make` : the specification with given parts.
* `Spec.parts` : the parts of a specification.
* `Spec.Update`, `Spec.update` : the replacement of one facet.
* `Spec.sorts`, `Spec.dateTimeSort` : the two views of the sort directives.
-/

namespace MetricQuery

/-- The full description of one query. -/
structure Spec where
  table : Table
  granularity : Granularity
  dimensions : List Dimension
  dimensionFields : Keyed Dimension (List DimensionField)
  metrics : List Metric
  intervals : List Interval
  /-- Under each dimension the set of its filters. -/
  filters : Keyed Dimension (List Filter)
  /-- Under each metric the set of its havings. -/
  havings : Keyed Metric (List Having)
  allSorts : List SortDirective
  count : Datum
  topN : Datum
  format : ResponseFormat
  downloadFilename : Datum
  timeZone : Zone
  asyncAfter : Datum
  page : Option Page
deriving Repr, Inhabited

namespace Spec

/-- The filters that a specification is built from: grouped by dimension, or one after another. -/
inductive GivenFilters
  | grouped (groups : Keyed Dimension (Given Filter))
  | flat (filters : Given Filter Datum.Entryless)

/-- The parts of a specification that have a default. -/
structure Choices where
  dimensions : Given Dimension := .items []
  dimensionFields : Given (Dimension × Given DimensionField) Datum.Entryless := .items []
  metrics : Given Metric := .items []
  intervals : Given Interval := .items []
  filters : GivenFilters := .grouped []
  havings : Given (Metric × Given Having) Datum.Entryless := .items []
  allSorts : Given SortDirective := .items []
  count : Datum := .null
  topN : Datum := .null
  downloadFilename : Datum := .null
  page : Option Page := none

/-- What a specification is built from. -/
structure Parts extends Choices where
  table : Table
  granularity : Granularity
  format : ResponseFormat
  timeZone : Zone
  asyncAfter : Datum

/-! ### Normal forms of the facets -/

/-- The fields wanted of each dimension, without repeats. -/
def normalFields (given : Given (Dimension × Given DimensionField) Datum.Entryless) :
    Except Fault (Keyed Dimension (List DimensionField)) := do
  (← given.entriesOrNone).mapM fun (dimension, fields) => do
    return (dimension, distinct (← fields.elementsOrNone))

/-- The filters grouped by dimension. -/
def normalFilters : GivenFilters → Except Fault (Keyed Dimension (List Filter))
  | .grouped groups => groups.mapM fun (dimension, filters) => do
      return (dimension, distinct (← filters.elements))
  | .flat filters => do
      let members ← filters.elementsWithOrNone "dimension"
      return members.foldl (fun m f => m.addUnder f.dimension f) []

/-- The havings of each metric, without repeats. -/
def normalHavings (given : Given (Metric × Given Having) Datum.Entryless) :
    Except Fault (Keyed Metric (List Having)) := do
  (← given.entriesOrNone).mapM fun (metric, havings) => do
    let members ← havings.elements
    members.forM Having.checkMember
    return (metric, distinct members)

/-! ### Construction -/

/-- The specification with given parts.  Of several faults the one of the first facet counts. -/
def make (p : Parts) : Except Fault Spec := do
  let dimensions ← p.dimensions.elementsOrNone
  let dimensionFields ← normalFields p.dimensionFields
  let metrics ← p.metrics.elementsOrNone
  let intervals ← p.intervals.elementsOrNone
  let filters ← normalFilters p.filters
  let havings ← normalHavings p.havings
  let allSorts ← p.allSorts.elementsOrNone
  return {
    table := p.table
    granularity := p.granularity
    dimensions := distinct dimensions
    dimensionFields := dimensionFields
    metrics := distinct metrics
    intervals := intervals
    filters := filters
    havings := havings
    allSorts := distinct allSorts
    count := p.count
    topN := p.topN
    format := p.format
    downloadFilename := p.downloadFilename
    timeZone := p.timeZone
    asyncAfter := p.asyncAfter
    page := p.page }

/-- The parts of a specification. -/
def parts (s : Spec) : Parts where
  table := s.table
  granularity := s.granularity
  dimensions := .items s.dimensions
  dimensionFields := .items (s.dimensionFields.map fun (d, fields) => (d, .items fields))
  metrics := .items s.metrics
  intervals := .items s.intervals
  filters := .grouped (s.filters.map fun (d, filters) => (d, .items filters))
  havings := .items (s.havings.map fun (m, havings) => (m, .items havings))
  allSorts := .items s.allSorts
  count := s.count
  topN := s.topN
  format := s.format
  downloadFilename := s.downloadFilename
  timeZone := s.timeZone
  asyncAfter := s.asyncAfter
  page := s.page

/-! ### Views -/

/-- The sorts that are no time sorts. -/
def sorts (s : Spec) : List SortDirective :=
  standardSorts s.allSorts

/-- The time sort. -/
def dateTimeSort (s : Spec) : Option SortDirective :=
  timeSort? s.allSorts

/-- Whether there is a time sort. -/
def hasTimeSort (s : Spec) : Bool :=
  s.dateTimeSort.isSome

/-- Whether the answer is stored in a file. -/
def isDownload (s : Spec) : Bool :=
  !(s.downloadFilename == .null)

/-! ### Updates -/

/-- The replacement of one facet.  The sorts can be replaced as a whole, or the time sort and the
others on their own. -/
inductive Update
  | table (t : Table)
  | granularity (g : Granularity)
  | dimensions (given : Given Dimension)
  | dimensionFields (given : Given (Dimension × Given DimensionField) Datum.Entryless)
  | metrics (given : Given Metric)
  | intervals (given : Given Interval)
  | filters (given : GivenFilters)
  | havings (given : Given (Metric × Given Having) Datum.Entryless)
  | allSorts (given : Given SortDirective)
  | sorts (given : Given SortDirective fun _ => True)
  | timeSort (sort : Option SortDirective)
  | count (d : Datum)
  | topN (d : Datum)
  | format (f : ResponseFormat)
  | downloadFilename (d : Datum)
  | timeZone (z : Zone)
  | asyncAfter (d : Datum)
  | page (p : Option Page)

/-- The parts of a specification after an update. -/
def updatedParts (s : Spec) : Update → Except Fault Parts
  | .table t => .ok { s.parts with table := t }
  | .granularity g => .ok { s.parts with granularity := g }
  | .dimensions given => .ok { s.parts with dimensions := given }
  | .dimensionFields given => .ok { s.parts with dimensionFields := given }
  | .metrics given => .ok { s.parts with metrics := given }
  | .intervals given => .ok { s.parts with intervals := given }
  | .filters given => .ok { s.parts with filters := given }
  | .havings given => .ok { s.parts with havings := given }
  | .allSorts given => .ok { s.parts with allSorts := given }
  | .sorts given => do
      let others ← given.elementsWith "is_time_sort"
      return { s.parts with allSorts := .items (combineSorts s.dateTimeSort others) }
  | .timeSort sort => .ok { s.parts with allSorts := .items (combineSorts sort s.sorts) }
  | .count d => .ok { s.parts with count := d }
  | .topN d => .ok { s.parts with topN := d }
  | .format f => .ok { s.parts with format := f }
  | .downloadFilename d => .ok { s.parts with downloadFilename := d }
  | .timeZone z => .ok { s.parts with timeZone := z }
  | .asyncAfter d => .ok { s.parts with asyncAfter := d }
  | .page p => .ok { s.parts with page := p }

/-- The specification after an update. -/
def update (s : Spec) (u : Update) : Except Fault Spec := do
  make (← s.updatedParts u)

/-! ### Equality -/

/-- For each facet its name and whether two specifications agree on it.  Lists are compared in
order, maps and sets without regard to it. -/
def agreement (a b : Spec) : List (String × Bool) :=
  [("table", a.table == b.table),
   ("granularity", a.granularity == b.granularity),
   ("dimensions", a.dimensions == b.dimensions),
   ("dimension_fields", a.dimensionFields.same (· == ·) b.dimensionFields),
   ("metrics", a.metrics == b.metrics),
   ("intervals", a.intervals == b.intervals),
   ("filters", a.filters.same sameMembers b.filters),
   ("havings", a.havings.same sameMembers b.havings),
   ("all_sorts", a.allSorts == b.allSorts),
   ("count", a.count == b.count),
   ("top_n", a.topN == b.topN),
   ("format", a.format == b.format),
   ("download_filename", a.downloadFilename == b.downloadFilename),
   ("time_zone", a.timeZone == b.timeZone),
   ("async_after", a.asyncAfter == b.asyncAfter),
   ("pagination_parameters", a.page == b.page)]

instance : BEq Spec where
  beq a b := (agreement a b).all (·.2)

/-- The names of the facets on which two specifications differ. -/
def differing (a b : Spec) : List String :=
  ((agreement a b).filter (!·.2)).map (·.1)

end Spec

end MetricQuery
