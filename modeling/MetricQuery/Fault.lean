import MetricQuery.Datum.Written

/-!
# Faults of requests

A request object is built from loosely typed values, and nothing is built when one of them does not
fit.  Each way of not fitting is a fault; its wording is fixed in one place.

## Main definitions

* `Fault` : why a request object cannot be built or an operation on one fails.
* `Fault.message` : the wording.
-/

namespace MetricQuery

/-- Why a request object cannot be built or an operation on one fails. -/
inductive Fault
  /-- Required parts of an object are not given. -/
  | missing (owner : String) (byName : Bool) (names : List String)
  /-- A part is given that the object does not have. -/
  | unexpected (owner name : String)
  /-- A value that is no collection is given where one is wanted. -/
  | notIterable (kind : String)
  /-- A structure is given where a key is wanted. -/
  | unhashable (kind : String)
  /-- A value of another kind is given where one with the member is wanted. -/
  | noAttribute (kind member : String)
  /-- A value that has no order with integers is given where a count is wanted. -/
  | notOrdered (kind : String)
  /-- A count is below one. -/
  | belowOne (part : String) (count : Scalar)
  /-- A value is not a member of an enumeration. -/
  | notMember (value : Datum) (enumeration : String)
  | unknownGrain (name : String)
  | unknownFormat (name : String)
  | unknownZone (key : String)
  | zoneKeyAbsolute (key : String)
  | zoneKeyNotNormal (key : String)
  | zoneKeyOutside (key : String)
  | intervalReversed (start finish : Instant)
  | clocksMixed
  | calendar (fault : CalendarFault)
  | cannotAssign (field : String)
  | cannotDelete (field : String)
  | noItemAssignment (kind : String)
  /-- A text is no binary number. -/
  | notNumber (text : String)
  /-- A value of a kind that holds no number is given where a number is wanted. -/
  | noNumber (kind : String)
  /-- An integer is beyond the binary numbers. -/
  | numberTooLarge
  /-- A text is no integer. -/
  | notInteger (text : String)
  /-- A text is an integer of more digits than are read. -/
  | integerTooLong (digits : Nat)
  /-- A text is no truth value. -/
  | notTruth
  | metricUnknown (name : String)
  | dimensionUnknown (name : String)
  | dependenciesMissing (maker : String) (metric : Scalar)
  | dependencyCount (maker : String) (required : Nat) (metric : Scalar) (given : Nat)
  | notImplemented
deriving Repr

namespace Fault

/-- The names of the grains, as messages list them. -/
def grainNames : String := "MINUTE, HOUR, DAY, WEEK, MONTH, QUARTER, YEAR"

/-- The names of the response formats, as messages list them. -/
def formatNames : String := "json, csv, jsonapi, debug"

/-- Quoted names joined as in running text. -/
def joinNames (names : List String) : String :=
  match names.map String.quotedLiteral with
  | [] => ""
  | [a] => a
  | [a, b] => a ++ " and " ++ b
  | quoted => ", ".intercalate quoted.dropLast ++ ", and " ++ quoted.getLast?.getD ""

/-- The wording of a fault. -/
def message : Fault → String
  | missing owner byName names =>
    let manner := if byName then "keyword-only" else "positional"
    let plural := if names.length = 1 then "" else "s"
    s!"{owner}() missing {names.length} required {manner} argument{plural}: " ++
      joinNames names
  | unexpected owner name =>
    s!"{owner}() got an unexpected keyword argument '{name}'"
  | notIterable kind => s!"'{kind}' object is not iterable"
  | unhashable kind => s!"unhashable type: '{kind}'"
  | noAttribute kind member => s!"'{kind}' object has no attribute '{member}'"
  | notOrdered kind => s!"'<' not supported between instances of '{kind}' and 'int'"
  | belowOne part count => s!"{part} must be >= 1, got {count.written}"
  | notMember value enumeration => s!"{value.literal} is not a valid {enumeration}"
  | unknownGrain name => s!"Unknown time grain '{name}'. Allowed: {grainNames}"
  | unknownFormat name => s!"Unknown response format '{name}'. Allowed: {formatNames}"
  | unknownZone key => ("No time zone found with key " ++ key).quotedLiteral
  | zoneKeyAbsolute key => s!"ZoneInfo keys may not be absolute paths, got: {key}"
  | zoneKeyNotNormal key => s!"ZoneInfo keys must be normalized relative paths, got: {key}"
  | zoneKeyOutside key => s!"ZoneInfo keys must refer to subdirectories of TZPATH, got: {key}"
  | intervalReversed start finish =>
    s!"Interval end {finish.spoken} is before start {start.spoken}"
  | clocksMixed => "can't compare offset-naive and offset-aware datetimes"
  | calendar fault => fault.message
  | cannotAssign field => s!"cannot assign to field '{field}'"
  | cannotDelete field => s!"cannot delete field '{field}'"
  | noItemAssignment kind => s!"'{kind}' object does not support item assignment"
  | notNumber text => s!"could not convert string to float: {text.quotedLiteral}"
  | noNumber kind => s!"float() argument must be a string or a real number, not '{kind}'"
  | numberTooLarge => "int too large to convert to float"
  | notInteger text =>
    "invalid literal for int() with base 10: " ++ (text.quotedLiteral.take 200).toString
  | integerTooLong digits =>
    s!"Exceeds the limit (4300 digits) for integer string conversion: value has {digits} digits" ++
      "; use sys.set_int_max_str_digits() to increase the limit"
  | notTruth => "expected one of ['0', '1', 'false', 'no', 'true', 'yes']"
  | metricUnknown name => s!"Dependent metric '{name}' is not in the metric dictionary"
  | dimensionUnknown name => s!"Dimension '{name}' is not in the dimension dictionary"
  | dependenciesMissing maker metric =>
    s!"{maker} needs at least one dependency for '{metric.written}'"
  | dependencyCount maker required metric given =>
    s!"{maker} expects {required} dependent metric(s) for '{metric.written}', got {given}"
  | notImplemented => ""

end Fault

end MetricQuery
