import MetricQuery.Vocabulary.Granularity

/-!
# Terms of queries

A query names a table, groups by dimensions and asks for metrics.

## Main definitions

* `Table` : a table with the granularities it can be grouped by.
* `DimensionField`, `Dimension` : a property of rows, and the fields that describe its values.
* `Metric` : a number computed from rows by an expression.
-/

namespace MetricQuery

/-! ### Tables -/

/-- A table of rows. -/
structure Table where
  name : String
  /-- The granularities it can be grouped by, without repeats. -/
  granularities : List Granularity
  description : String
deriving DecidableEq, Repr, Inhabited

/-- A table with its granularities freed of repeats. -/
def Table.make (name : String) (granularities : List Granularity) (description : String) : Table :=
  ⟨name, distinct granularities, description⟩

/-! ### Dimensions -/

/-- A field that describes the values of a dimension. -/
structure DimensionField where
  name : String
  description : String
deriving DecidableEq, Repr, Inhabited

/-- A property of rows.  The names of its row store and search provider, if it is bound, take no
part in equality. -/
structure Dimension where
  apiName : String
  description : String
  longName : String
  category : String
  fields : List DimensionField
  defaultFields : List DimensionField
  store : Option String
  provider : Option String
deriving Repr, Inhabited

namespace Dimension

/-- An unbound dimension with its fields freed of repeats.  An empty long name becomes the api
name. -/
def make (apiName description longName category : String)
    (fields defaultFields : List DimensionField) : Dimension where
  apiName := apiName
  description := description
  longName := if longName = "" then apiName else longName
  category := category
  fields := distinct fields
  defaultFields := distinct defaultFields
  store := none
  provider := none

/-- What the equality of dimensions looks at. -/
def attributes (d : Dimension) :
    (String × String × String × String) × List DimensionField × List DimensionField :=
  ((d.apiName, d.description, d.longName, d.category), d.fields, d.defaultFields)

instance : BEq Dimension where
  beq a b := a.attributes = b.attributes

/-- The first field with a name. -/
def fieldByName? (d : Dimension) (name : String) : Option DimensionField :=
  d.fields.find? (·.name == name)

end Dimension

/-! ### Metrics -/

/-- A number computed from rows.  A name or dependency that is no text is kept as it is given. -/
structure Metric where
  name : Scalar
  expression : String
  description : String
  category : String
  /-- The names of what the expression is built from, without repeats. -/
  dependencies : List Scalar
deriving BEq, Repr, Inhabited

/-- A metric with its dependencies freed of repeats. -/
def Metric.make (name : Scalar) (expression description category : String)
    (dependencies : List Scalar) : Metric :=
  ⟨name, expression, description, category, distinct dependencies⟩

end MetricQuery
