import MetricQuery.Collection

/-!
# Checks of configuration data

The parts of a configuration document are checked one by one and all faults are counted, not only
the first one.

## Main definitions

* `Checked` : a value, or the number of faults in what it is read from.
* `Checked.map₂`, `Checked.each` : checks of two parts and of every part of a list.
* `Datum.checkText`, `Datum.sequence?` : a text, and a row of values.
-/

namespace MetricQuery

/-- A value, or the number of faults in what it is read from. -/
abbrev Checked (α : Type) := Except Nat α

namespace Checked

variable {α β γ : Type}

/-- The number of faults. -/
def faults : Checked α → Nat
  | .ok _ => 0
  | .error n => n

/-- A value made of two parts; the faults of both count. -/
def map₂ (f : α → β → γ) (a : Checked α) (b : Checked β) : Checked γ :=
  match a, b with
  | .ok a, .ok b => .ok (f a b)
  | a, b => .error (a.faults + b.faults)

/-- Every part of a list is checked. -/
def each (check : α → Checked β) : List α → Checked (List β)
  | [] => .ok []
  | a :: rest => map₂ List.cons (check a) (each check rest)

/-- A part that may be absent. -/
def optional (check : Datum → Checked α) (default : α) : Option Datum → Checked α
  | none => .ok default
  | some d => check d

/-- A part that must be there. -/
def required (check : Datum → Checked α) : Option Datum → Checked α
  | none => .error 1
  | some d => check d

end Checked

namespace Datum

/-- The text that a value is; bytes are a text if they encode one. -/
def asText? : Datum → Option String
  | .scalar (.text s) => some s
  | .bytes bs => String.fromUTF8? ⟨bs.toArray⟩
  | _ => none

/-- A text, or one fault. -/
def checkText (d : Datum) : Checked String :=
  match d.asText? with
  | some s => .ok s
  | none => .error 1

/-- The values of a list or a set. -/
def sequence? : Datum → Option (List Datum)
  | .list items => some items
  | .set members => some members
  | _ => none

/-- The value under the first of two keys, else under the second. -/
def fieldOr? (d : Datum) (first second : String) : Option Datum :=
  (d.field? first).or (d.field? second)

end Datum

end MetricQuery
