import MetricQuery.Vocabulary.Term

/-!
# Predicates on rows and on answers

A filter restricts the rows of a query by a field of a dimension.  A having restricts the answer by
the value of a metric.

## Main definitions

* `FilterOperation`, `Filter` : a condition on a field of a dimension.
* `HavingOperation`, `Having` : a condition on a metric.
-/

namespace MetricQuery

/-! ### Filters -/

/-- How a field is compared with the values of a filter. -/
inductive FilterOperation
  | isIn
  | notIn
  | startsWith
  | contains
  | eq
deriving DecidableEq, Repr, Inhabited

namespace FilterOperation

/-- All operations. -/
def all : List FilterOperation := [isIn, notIn, startsWith, contains, eq]

/-- The name of an operation. -/
def name : FilterOperation → String
  | isIn => "in"
  | notIn => "notin"
  | startsWith => "startswith"
  | contains => "contains"
  | eq => "eq"

/-- The operation with a name. -/
def read (d : Datum) : Except Fault FilterOperation :=
  match all.find? fun operation => d.text? == some operation.name with
  | some operation => .ok operation
  | none => .error (.notMember d "FilterOperation")

end FilterOperation

/-- A condition on a field of a dimension. -/
structure Filter where
  dimension : Dimension
  field : DimensionField
  operation : FilterOperation
  /-- The values, without repeats. -/
  values : List Scalar
deriving BEq, Repr, Inhabited

/-- A filter with the values of a loose collection. -/
def Filter.make (dimension : Dimension) (field : DimensionField) (operation : FilterOperation)
    (values : Datum) : Except Fault Filter := do
  return ⟨dimension, field, operation, ← values.distinctScalars⟩

/-! ### Havings -/

/-- How a metric is compared with the values of a having. -/
inductive HavingOperation
  | equalTo
  | greaterThan
  | lessThan
  | between
  | notEqualTo
  | notGreaterThan
  | notLessThan
  | notBetween
deriving DecidableEq, Repr, Inhabited

namespace HavingOperation

/-- All operations. -/
def all : List HavingOperation :=
  [equalTo, greaterThan, lessThan, between, notEqualTo, notGreaterThan, notLessThan, notBetween]

/-- The name of an operation. -/
def name : HavingOperation → String
  | equalTo => "equalTo"
  | greaterThan => "greaterThan"
  | lessThan => "lessThan"
  | between => "between"
  | notEqualTo => "notEqualTo"
  | notGreaterThan => "notGreaterThan"
  | notLessThan => "notLessThan"
  | notBetween => "notBetween"

/-- The operation with a name. -/
def read (d : Datum) : Except Fault HavingOperation :=
  match all.find? fun operation => d.text? == some operation.name with
  | some operation => .ok operation
  | none => .error (.notMember d "HavingOperation")

end HavingOperation

/-- A condition on a metric.  Its values are kept as they are given. -/
structure Having where
  metric : Metric
  operation : HavingOperation
  values : List Datum
deriving BEq, Repr, Inhabited

/-- A having with the values of a loose collection. -/
def Having.make (metric : Metric) (operation : HavingOperation) (values : Datum) :
    Except Fault Having := do
  return ⟨metric, operation, ← values.elements⟩

/-- Succeeds if a having can be the member of a set, which its values have to allow. -/
def Having.checkMember (h : Having) : Except Fault Unit :=
  h.values.forM fun value => do
    let _ ← value.key

end MetricQuery
