import MetricQuery.Setup.Settings

/-!
# Request objects read from records

A request names the parts of an object in a record.  Parts that are read on their own come first, so
a part that cannot be read is a fault before a missing part is one.

## Main definitions

* `Arguments` : the parts of an object by name.
* `Table.ofDatum`, `Dimension.ofDatum`, `Metric.ofDatum`, … : objects read from loose values.
* `Spec.Draft`, `Spec.Draft.ofArguments` : a specification whose parts are being collected.
* `Spec.Update.ofDatum` : the replacement of a named facet.
-/

namespace MetricQuery

/-! ### Arguments -/

/-- The parts of an object by name. -/
abbrev Arguments := Keyed String Datum

namespace Arguments

/-- The parts that a loose value names. -/
def ofDatum : Datum → Except Fault Arguments
  | .map entries => .ok (entries.map fun entry => (entry.1.written, entry.2))
  | d => .error (.notIterable d.kind)

/-- Succeeds if every given part is one of the object's and no required one is missing. -/
def check (arguments : Arguments) (owner : String) (required optional : List String) :
    Except Fault Unit := do
  if let some name := arguments.keys.find? fun name => !(required ++ optional).contains name then
    throw (.unexpected owner name)
  let missing := required.filter fun name => !arguments.has name
  if !missing.isEmpty then throw (.missing owner false missing)

/-- The part with a name read by `read`, if it is given. -/
def readIfGiven {α : Type} (arguments : Arguments) (name : String)
    (read : Datum → Except Fault α) : Except Fault (Option α) :=
  match arguments.get? name with
  | none => .ok none
  | some d => (read d).map some

end Arguments

/-- The text that a value is; the empty text for an empty value. -/
def Datum.readTextOrEmpty (d : Datum) : Except Fault String :=
  if d.isEmpty then .ok "" else d.readText

/-- A loose value that may stand in for a collection.  Any other one has elements that lack the
member which the objects of the collection have. -/
def Given.ofLoose {α : Type} {Loose : Datum → Prop} [DecidablePred Loose] (member : String)
    (d : Datum) : Except Fault (Given α Loose) :=
  if h : Loose d then .ok (.loose d h)
  else
    match d.elements with
    | .ok (first :: _) => .error (.noAttribute first.kind member)
    | _ => .error (.noAttribute d.kind member)

/-- A collection whose items are read by `read`; a value that is no list stays loose. -/
def Given.ofDatum {α : Type} {Loose : Datum → Prop} [DecidablePred Loose] (member : String)
    (read : Datum → Except Fault α) : Datum → Except Fault (Given α Loose)
  | .list ds => (ds.mapM read).map .items
  | d => ofLoose member d

/-- A map whose entries are pairs of a key and a collection; of two entries with one key the last
one counts.  A value that is no list stays loose. -/
def Given.pairsOfDatum {κ ν : Type} [BEq κ] (readKey : Datum → Except Fault κ)
    (member : String) (readItem : Datum → Except Fault ν) :
    Datum → Except Fault (Given (κ × Given ν) Datum.Entryless)
  | .list ds => do
    let pairs ← ds.mapM fun item => do
      match item with
      | .list [key, value] => return (← readKey key, ← Given.ofDatum member readItem value)
      | d => throw (.notIterable d.kind)
    return .items (Keyed.ofList pairs)
  | d => ofLoose "items" d

/-! ### Terms -/

/-- The granularity with the name that a value is. -/
def Granularity.ofDatum (d : Datum) : Except Fault Granularity := do
  read (← d.readText)

/-- The table that a name or a record describes. -/
def Table.ofDatum : Datum → Except Fault Table
  | .scalar (.text name) => .ok (make name [] "")
  | d => do
    let arguments ← Arguments.ofDatum d
    let name ← arguments.readIfGiven "name" Datum.readText
    let readGrains := Given.ofDatum "name" Granularity.ofDatum
    let granularities ← arguments.readIfGiven "granularities" readGrains
    let description ← arguments.readIfGiven "description" Datum.readText
    arguments.check "LogicalTable.__init__" ["name"] ["granularities", "description"]
    let granularities ← (granularities.getD (.items [])).elementsOrNone
    return make (name.getD "") granularities (description.getD "")

/-- The field that a name or a record describes. -/
def DimensionField.ofDatum : Datum → Except Fault DimensionField
  | .scalar (.text name) => .ok ⟨name, ""⟩
  | d => do
    let arguments ← Arguments.ofDatum d
    let name ← arguments.readIfGiven "name" Datum.readText
    let description ← arguments.readIfGiven "description" Datum.readText
    arguments.check "DimensionField.__init__" ["name"] ["description"]
    return ⟨name.getD "", description.getD ""⟩

/-- The dimension that a name or a record describes. -/
def Dimension.ofDatum : Datum → Except Fault Dimension
  | .scalar (.text apiName) => .ok (make apiName "" "" "" [] [])
  | d => do
    let arguments ← Arguments.ofDatum d
    let readFields := Given.ofDatum "name" DimensionField.ofDatum
    let apiName ← arguments.readIfGiven "api_name" Datum.readText
    let description ← arguments.readIfGiven "description" Datum.readText
    let longName ← arguments.readIfGiven "long_name" Datum.readTextOrEmpty
    let category ← arguments.readIfGiven "category" Datum.readText
    let fields ← arguments.readIfGiven "fields" readFields
    let defaultFields ← arguments.readIfGiven "default_fields" readFields
    let store ← arguments.readIfGiven "store" fun d => .ok d.text?
    arguments.check "Dimension.__init__" ["api_name"]
      ["description", "long_name", "category", "fields", "default_fields", "store"]
    let fields ← (fields.getD (.items [])).elementsOrNone
    let defaultFields ← (defaultFields.getD (.items [])).elementsOrNone
    return { make (apiName.getD "") (description.getD "") (longName.getD "") (category.getD "")
      fields defaultFields with store := store.join }

/-- The metric that a name or a record describes. -/
def Metric.ofDatum : Datum → Except Fault Metric
  | .scalar (.text name) => .ok (make (.text name) "" "" "General" [])
  | d => do
    let arguments ← Arguments.ofDatum d
    let name ← arguments.readIfGiven "name" Datum.key
    let expression ← arguments.readIfGiven "expression" Datum.readTextOrEmpty
    let description ← arguments.readIfGiven "description" Datum.readText
    let category ← arguments.readIfGiven "category" Datum.readText
    arguments.check "LogicalMetric.__init__" ["name"]
      ["expression", "description", "category", "dependencies"]
    let dependencies ← ((arguments.get? "dependencies").getD (.list [])).distinctScalars
    return make (name.getD .null) (expression.getD "") (description.getD "")
      (category.getD "General") dependencies

/-! ### Clauses -/

/-- The direction with the name that a value is. -/
def Direction.ofDatum (d : Datum) : Except Fault Direction :=
  match [Direction.asc, .desc].find? fun direction => d.text? == some direction.name with
  | some direction => .ok direction
  | none => .error (.notMember d "SortDirection")

/-- The sort directive that a record describes, none for the absent value.  A record with the part
`time_sort` is a sort by time, upwards unless it says otherwise. -/
def SortDirective.ofDatum? : Datum → Except Fault (Option SortDirective)
  | .scalar .null => .ok none
  | d => do
    let arguments ← Arguments.ofDatum d
    match arguments.get? "time_sort" with
    | some direction =>
      if direction == .null then return some (time .asc)
      else return some (time (← Direction.ofDatum direction))
    | none =>
      let column ← arguments.readIfGiven "column" Datum.readText
      let direction ← arguments.readIfGiven "direction" Direction.ofDatum
      arguments.check "OrderByColumn.__init__" ["column"] ["direction"]
      return some ⟨column.getD "", direction.getD .desc⟩

/-- The sort directive that a record describes. -/
def SortDirective.ofDatum (d : Datum) : Except Fault SortDirective := do
  match ← ofDatum? d with
  | some s => return s
  | none => throw (.noAttribute d.kind "is_time_sort")

/-- The instant that is written in the text that a value is. -/
def Instant.ofDatum (d : Datum) : Except Fault Instant := do
  match read (← d.readText) with
  | .ok t => return t
  | .error fault => throw (.calendar fault)

/-- The interval between the two instants of a list. -/
def Interval.ofDatum : Datum → Except Fault Interval
  | .list [start, finish] => do make (← Instant.ofDatum start) (← Instant.ofDatum finish)
  | d => .error (.notIterable d.kind)

/-- The filter that a record describes. -/
def Filter.ofDatum (d : Datum) : Except Fault Filter := do
  let arguments ← Arguments.ofDatum d
  let dimension ← arguments.readIfGiven "dimension" Dimension.ofDatum
  let field ← arguments.readIfGiven "field" DimensionField.ofDatum
  let operation ← arguments.readIfGiven "operation" FilterOperation.read
  arguments.check "ApiFilter.__init__" ["dimension", "field", "operation"] ["values"]
  make (dimension.getD default) (field.getD default) (operation.getD default)
    ((arguments.get? "values").getD (.list []))

/-- The having that a record describes. -/
def Having.ofDatum (d : Datum) : Except Fault Having := do
  let arguments ← Arguments.ofDatum d
  let metric ← arguments.readIfGiven "metric" Metric.ofDatum
  let operation ← arguments.readIfGiven "operation" HavingOperation.read
  arguments.check "ApiHaving.__init__" ["metric", "operation"] ["values"]
  make (metric.getD default) (operation.getD default) ((arguments.get? "values").getD (.list []))

/-- The page that a record describes, none for the absent value. -/
def Page.ofDatum? : Datum → Except Fault (Option Page)
  | .scalar .null => .ok none
  | d => do
    let arguments ← Arguments.ofDatum d
    arguments.check "PaginationParameters.__init__" ["per_page"] ["page"]
    some <$> make ((arguments.get? "per_page").getD .null) ((arguments.get? "page").getD (.int 1))

/-- The format with the name that a value is, none for the absent value. -/
def ResponseFormat.ofDatum? : Datum → Except Fault (Option ResponseFormat)
  | .scalar .null => .ok none
  | d => do some <$> read (← d.readTextFor "strip")

/-- The zone with the key that a value is, none for the absent value. -/
def Zone.ofDatum? (zones : ZoneDatabase) : Datum → Except Fault (Option Zone)
  | .scalar .null => .ok none
  | d => do some <$> read zones (← d.readText)

/-! ### Specifications -/

namespace Spec

/-- The filters of a request: a record with the part `mapping` groups them by dimension. -/
def GivenFilters.ofDatum (d : Datum) : Except Fault GivenFilters :=
  match d.field? "mapping" with
  | some pairs => do
    match ← Given.pairsOfDatum Dimension.ofDatum "dimension" Filter.ofDatum pairs with
    | .items groups => return .grouped groups
    | .loose d h => return .flat (.loose d h)
  | none => .flat <$> Given.ofDatum "dimension" Filter.ofDatum d

/-- A specification whose parts are being collected. -/
structure Draft extends Choices where
  table : Option Table := none
  granularity : Option Granularity := none
  format : Option ResponseFormat := none
  timeZone : Option Zone := none
  asyncAfter : Option Datum := none

namespace Draft

/-- The draft with a named part read from a loose value. -/
def put (zones : ZoneDatabase) (draft : Draft) (name : String) (d : Datum) :
    Except Fault Draft := do
  match name with
  | "table" => return { draft with table := some (← Table.ofDatum d) }
  | "granularity" => return { draft with granularity := some (← Granularity.ofDatum d) }
  | "dimensions" =>
    return { draft with dimensions := ← Given.ofDatum "api_name" Dimension.ofDatum d }
  | "dimension_fields" =>
    return { draft with
      dimensionFields := ← Given.pairsOfDatum Dimension.ofDatum "name" DimensionField.ofDatum d }
  | "metrics" => return { draft with metrics := ← Given.ofDatum "name" Metric.ofDatum d }
  | "intervals" => return { draft with intervals := ← Given.ofDatum "start" Interval.ofDatum d }
  | "filters" => return { draft with filters := ← GivenFilters.ofDatum d }
  | "havings" =>
    return { draft with havings := ← Given.pairsOfDatum Metric.ofDatum "metric" Having.ofDatum d }
  | "all_sorts" =>
    return { draft with allSorts := ← Given.ofDatum "is_time_sort" SortDirective.ofDatum d }
  | "count" => return { draft with count := d }
  | "top_n" => return { draft with topN := d }
  | "format" => return { draft with format := ← ResponseFormat.ofDatum? d }
  | "download_filename" => return { draft with downloadFilename := d }
  | "time_zone" => return { draft with timeZone := ← Zone.ofDatum? zones d }
  | "async_after" => return { draft with asyncAfter := some d }
  | "pagination_parameters" => return { draft with page := ← Page.ofDatum? d }
  | name => throw (.unexpected "DataQuerySpec.__init__" name)

/-- The draft with the parts of a record, read in their order. -/
def ofArguments (zones : ZoneDatabase) (arguments : Arguments) : Except Fault Draft :=
  arguments.foldlM (fun draft entry => draft.put zones entry.1 entry.2) {}

/-- The specification that a draft describes.  All parts without a default have to be there. -/
def complete (draft : Draft) : Except Fault Spec :=
  match draft.table, draft.granularity, draft.format, draft.timeZone, draft.asyncAfter with
  | some table, some granularity, some format, some timeZone, some asyncAfter =>
    make { draft.toChoices with table, granularity, format, timeZone, asyncAfter }
  | table, granularity, format, timeZone, asyncAfter =>
    let required :=
      [("table", table.isSome), ("granularity", granularity.isSome), ("format", format.isSome),
       ("time_zone", timeZone.isSome), ("async_after", asyncAfter.isSome)]
    .error (.missing "DataQuerySpec.__init__" true ((required.filter (!·.2)).map (·.1)))

/-- Succeeds if a draft has the parts that no setting can stand in for. -/
def checkTerms (draft : Draft) : Except Fault (Table × Granularity) :=
  match draft.table, draft.granularity with
  | some table, some granularity => .ok (table, granularity)
  | table, granularity =>
    let required := [("table", table.isSome), ("granularity", granularity.isSome)]
    .error (.missing "DataQuerySpec.build" false ((required.filter (!·.2)).map (·.1)))

/-- The specification that a draft describes, with settings in place of what is missing. -/
def completeWith (zones : ZoneDatabase) (settings : Settings) (draft : Draft) :
    Except Fault Spec := do
  let (table, granularity) ← draft.checkTerms
  build zones settings table granularity draft.format draft.timeZone
    (draft.asyncAfter.getD .null) draft.toChoices

end Draft

/-- The replacement of a named facet by what is read from a loose value. -/
def Update.ofDatum (zones : ZoneDatabase) (facet : String) (d : Datum) : Except Fault Update := do
  match facet with
  | "table" => return .table (← Table.ofDatum d)
  | "granularity" => return .granularity (← Granularity.ofDatum d)
  | "dimensions" => return .dimensions (← Given.ofDatum "api_name" Dimension.ofDatum d)
  | "dimension_fields" =>
    return .dimensionFields
      (← Given.pairsOfDatum Dimension.ofDatum "name" DimensionField.ofDatum d)
  | "metrics" => return .metrics (← Given.ofDatum "name" Metric.ofDatum d)
  | "intervals" => return .intervals (← Given.ofDatum "start" Interval.ofDatum d)
  | "filters" => return .filters (← GivenFilters.ofDatum d)
  | "havings" => return .havings (← Given.pairsOfDatum Metric.ofDatum "metric" Having.ofDatum d)
  | "all_sorts" => return .allSorts (← Given.ofDatum "is_time_sort" SortDirective.ofDatum d)
  | "sorts" => return .sorts (← Given.ofDatum "is_time_sort" SortDirective.ofDatum d)
  | "time_sort" => return .timeSort (← SortDirective.ofDatum? d)
  | "count" => return .count d
  | "top_n" => return .topN d
  | "format" => return .format (← ResponseFormat.read (← d.readTextFor "strip"))
  | "download_filename" => return .downloadFilename d
  | "time_zone" => return .timeZone (← Zone.read zones (← d.readText))
  | "async_after" => return .asyncAfter d
  | "pagination_parameters" => return .page (← Page.ofDatum? d)
  | name => throw (.noAttribute "DataQuerySpec" ("with_" ++ name))

end Spec

end MetricQuery
