import MetricQuery.Collection
import MetricQuery.Text.Blank
import MetricQuery.Text.Case

/-!
# Shape of responses

A query says in which format its answer is written, which page of it is wanted, and in which time
zone instants are shown.

## Main definitions

* `ResponseFormat` : the formats of an answer.
* `Page` : a page of an answer and its size.
* `Zone`, `ZoneDatabase` : a time zone, and the ones that are installed.
-/

namespace MetricQuery

/-! ### Formats -/

/-- The formats of an answer. -/
inductive ResponseFormat
  | json
  | csv
  | jsonapi
  | debug
deriving DecidableEq, Repr, Inhabited

namespace ResponseFormat

/-- All formats. -/
def all : List ResponseFormat := [json, csv, jsonapi, debug]

/-- The name of a format as a value. -/
def name : ResponseFormat → String
  | json => "json"
  | csv => "csv"
  | jsonapi => "jsonapi"
  | debug => "debug"

/-- The name of a format as a member of the enumeration. -/
def memberName (f : ResponseFormat) : String :=
  f.name.upperCase

/-- The format with a name, in any letter case and with blanks around it. -/
def read (s : String) : Except Fault ResponseFormat :=
  let key := String.ofList (Text.lower (Text.trim s.toList))
  match all.find? (·.name == key) with
  | some format => .ok format
  | none => .error (.unknownFormat s)

end ResponseFormat

/-! ### Pages -/

/-- A page of an answer: how many rows a page has and which page is wanted. -/
structure Page where
  perPage : Scalar
  page : Scalar
deriving BEq, Repr, Inhabited

namespace Page

/-- The count that a value is, which has to be a number and at least one.  An undefined number is
not below one. -/
def count (part : String) (d : Datum) : Except Fault Scalar :=
  match d with
  | .scalar s =>
    match s.denotation with
    | .nothing | .text _ => .error (.notOrdered d.kind)
    | .number q => if q < 1 then .error (.belowOne part s) else .ok s
    | .infinity negative => if negative then .error (.belowOne part s) else .ok s
    | .undefined => .ok s
  | d => .error (.notOrdered d.kind)

/-- The page with a given size and number. -/
def make (perPage page : Datum) : Except Fault Page := do
  return ⟨← count "per_page" perPage, ← count "page" page⟩

end Page

/-! ### Time zones -/

/-- A time zone, named by an area and a place. -/
structure Zone where
  key : String
deriving DecidableEq, Repr, Inhabited

/-- The zones that are installed where a query is answered, by their keys.  Universal time is one of
them; which others there are is not up to the query. -/
structure ZoneDatabase where
  keys : List String
  utc_mem : "UTC" ∈ keys

namespace Zone

/-- The parts of a relative path without those that say nothing; a step up removes the part before
it. -/
def normalParts (path : String) : List (List Char) :=
  ((path.toList.splitOn '/').foldl (fun (parts : List (List Char)) part =>
    if part = [] ∨ part = ['.'] then parts
    else if part = ['.', '.'] then
      match parts with
      | [] => [part]
      | last :: rest => if last = ['.', '.'] then part :: parts else rest
    else part :: parts) []).reverse

/-- The length of a relative path after normalisation. -/
def normalLength (path : String) : Nat :=
  match normalParts path with
  | [] => 1
  | parts => (parts.map List.length).foldr (· + ·) 0 + (parts.length - 1)

/-- The installed zone with a key.  A key is a normalised relative path that stays below its
root. -/
def read (zones : ZoneDatabase) (key : String) : Except Fault Zone :=
  if key.toList.head? = some '/' then .error (.zoneKeyAbsolute key)
  else if normalLength key ≠ key.length then .error (.zoneKeyNotNormal key)
  else if (normalParts key).head?.all (· = ['.', '.']) then .error (.zoneKeyOutside key)
  else if zones.keys.contains key then .ok ⟨key⟩
  else .error (.unknownZone key)

end Zone

end MetricQuery
