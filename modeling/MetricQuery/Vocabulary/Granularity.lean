import MetricQuery.Collection
import MetricQuery.Text.Blank
import MetricQuery.Text.Case

/-!
# Granularities

A query groups its rows by a grain of time, or not at all.

## Main definitions

* `Grain` : a unit of the calendar that rows are grouped by.
* `Granularity` : a grain, or all rows in one group.
* `Grain.read`, `Granularity.read` : the grain or granularity with a name.
-/

namespace MetricQuery

/-- A unit of the calendar that rows are grouped by. -/
inductive Grain
  | minute
  | hour
  | day
  | week
  | month
  | quarter
  | year
deriving DecidableEq, Repr, Inhabited

namespace Grain

/-- All grains, from the finest to the coarsest. -/
def all : List Grain := [minute, hour, day, week, month, quarter, year]

/-- The name by which a grain is shown. -/
def name : Grain → String
  | minute => "MINUTE"
  | hour => "HOUR"
  | day => "DAY"
  | week => "WEEK"
  | month => "MONTH"
  | quarter => "QUARTER"
  | year => "YEAR"

/-- The name of a grain inside expressions. -/
def apiName : Grain → String
  | minute => "minute"
  | hour => "hour"
  | day => "day"
  | week => "week"
  | month => "month"
  | quarter => "quarter"
  | year => "year"

/-- The grain with a name, in any letter case and with blanks around it. -/
def named? (s : String) : Option Grain :=
  let key := String.ofList (Text.upper (Text.trim s.toList))
  all.find? (·.name == key)

/-- The grain with a name, or the fault that there is none. -/
def read (s : String) : Except Fault Grain :=
  match named? s with
  | some grain => .ok grain
  | none => .error (.unknownGrain s)

end Grain

/-- A grain of time, or all rows in one group. -/
inductive Granularity
  | grain (g : Grain)
  | all
deriving DecidableEq, Repr, Inhabited

namespace Granularity

/-- The name by which a granularity is shown. -/
def name : Granularity → String
  | grain g => g.name
  | all => "ALL"

/-- The name of a granularity inside expressions. -/
def apiName : Granularity → String
  | grain g => g.apiName
  | all => "all"

/-- The granularity with a name: `all` in any letter case, else a grain. -/
def read (s : String) : Except Fault Granularity :=
  if s.lowerCase == "all" then .ok all else (Grain.read s).map grain

end Granularity

end MetricQuery
