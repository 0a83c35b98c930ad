/-!
# Maps as lists of entries

A map is a list of entries with different keys, in the order in which the keys came up.

## Main definitions

* `Keyed` : a map as a list of entries.
* `Keyed.get?`, `Keyed.put`, `Keyed.erase` : look-up, insertion and removal.
* `Keyed.ofList` : the map of a list of entries, of which the last one with a key counts.
* `Keyed.addUnder` : a value added to the set under a key.
* `Keyed.same` : equality of maps without regard to order.
-/

namespace MetricQuery

/-- A map as a list of entries. -/
abbrev Keyed (κ ν : Type) := List (κ × ν)

namespace Keyed

variable {κ ν : Type} [BEq κ]

/-- The value under a key. -/
def get? (m : Keyed κ ν) (key : κ) : Option ν :=
  (m.find? fun entry => entry.1 == key).map (·.2)

/-- Whether a key is present. -/
def has (m : Keyed κ ν) (key : κ) : Bool :=
  m.any fun entry => entry.1 == key

/-- The keys in their order. -/
def keys (m : Keyed κ ν) : List κ :=
  m.map (·.1)

/-- The map with a value under a key: in the place of the old value, else at the end. -/
def put (m : Keyed κ ν) (key : κ) (value : ν) : Keyed κ ν :=
  match m with
  | [] => [(key, value)]
  | (k, v) :: rest => if k == key then (k, value) :: rest else (k, v) :: put rest key value

/-- The map without a key. -/
def erase (m : Keyed κ ν) (key : κ) : Keyed κ ν :=
  m.filter fun entry => !(entry.1 == key)

/-- The map of a list of entries: a later entry replaces the value of an earlier one with the same
key. -/
def ofList (entries : List (κ × ν)) : Keyed κ ν :=
  entries.foldl (fun m entry => put m entry.1 entry.2) []

/-- The map with a value added to the set under a key, which stays as it is if it has the value. -/
def addUnder [BEq ν] (m : Keyed κ (List ν)) (key : κ) (value : ν) : Keyed κ (List ν) :=
  match m with
  | [] => [(key, [value])]
  | (k, values) :: rest =>
    if k == key then (k, if values.any (· == value) then values else values ++ [value]) :: rest
    else (k, values) :: addUnder rest key value

/-- Whether two maps have the same keys with values that `agree`, in any order. -/
def same (agree : ν → ν → Bool) (a b : Keyed κ ν) : Bool :=
  a.length == b.length && a.all fun (key, value) => (get? b key).any (agree value)

end Keyed

/-- Whether two lists without repeats have the same members. -/
def sameMembers {α : Type} [BEq α] (a b : List α) : Bool :=
  a.length == b.length && a.all fun x => b.any (x == ·)

end MetricQuery
