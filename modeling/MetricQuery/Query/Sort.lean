import MetricQuery.Collection

/-!
# Sort directives

The rows of an answer are sorted by columns.  A sort on the column of time comes first and there is
at most one; the others keep the order in which they are given.

## Main definitions

* `Sort` : a column and a direction.
* `timeSort?` : the first time sort in a list.
* `standardSorts` : the other sorts of a list, without repeats.
* `combineSorts` : a time sort in front of standard sorts.
-/

namespace MetricQuery

/-- The direction of a sort. -/
inductive Direction
  | asc
  | desc
deriving DecidableEq, Repr, Inhabited

/-- The name of a direction. -/
def Direction.name : Direction → String
  | asc => "asc"
  | desc => "desc"

/-- A sort directive: a target column and a direction. -/
structure SortDirective where
  column : String
  direction : Direction
deriving DecidableEq, Repr, Inhabited

namespace SortDirective

/-- The column of time. -/
def timeColumn : String := "dateTime"

/-- Whether the directive sorts by time. -/
def isTime (s : SortDirective) : Bool :=
  s.column == timeColumn

/-- The directive that sorts by time. -/
def time (direction : Direction) : SortDirective :=
  ⟨timeColumn, direction⟩

end SortDirective

/-- The first time sort in a list. -/
def timeSort? (sorts : List SortDirective) : Option SortDirective :=
  sorts.find? (·.isTime)

/-- The sorts of a list that are no time sorts, without repeats. -/
def standardSorts (sorts : List SortDirective) : List SortDirective :=
  distinct (sorts.filter fun s => !s.isTime)

/-- A directive, if there is one, in front of the standard sorts of a list; a standard sort equal to
the directive is dropped. -/
def combineSorts (first : Option SortDirective) (sorts : List SortDirective) :
    List SortDirective :=
  match first with
  | none => standardSorts sorts
  | some s => s :: (standardSorts sorts).filter (· != s)

end MetricQuery
