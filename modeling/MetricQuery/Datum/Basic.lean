import MetricQuery.Calendar.Instant

/-!
# Data of requests and configuration documents

Requests and configuration documents carry values of several kinds side by side.  A scalar is a
single value: it can be a key, and it equals every other scalar that denotes the same thing, so that
`1`, `1.0` and `true` are one.  A datum is a scalar or a structure built from data.

## Main definitions

* `Scalar` : a value without parts.
* `Scalar.denotation` : what a scalar denotes; scalars are equal if they denote the same.
* `Datum` : a value of a request or document.
* `Datum.kind` : the name of the kind of a value, as messages show it.
-/

namespace MetricQuery

/-- A value without parts. -/
inductive Scalar
  | null
  | bool (b : Bool)
  | int (n : Int)
  | float (x : Binary64)
  | text (s : String)
deriving Repr, Inhabited

/-- What a scalar stands for. -/
inductive Denotation
  | nothing
  | number (q : Rat)
  | infinity (negative : Bool)
  | undefined
  | text (s : String)
deriving DecidableEq, Repr, Inhabited

namespace Scalar

/-- What a scalar denotes.  The truth values are the numbers 1 and 0, and a binary number denotes
its exact value, so a large integer is never confused with a binary number near it. -/
def denotation : Scalar → Denotation
  | null => .nothing
  | bool b => .number (if b then 1 else 0)
  | int n => .number n
  | float .nan => .undefined
  | float (.infinite negative) => .infinity negative
  | float x => .number (x.value?.getD 0)
  | text s => .text s

instance : BEq Scalar where
  beq a b := a.denotation = b.denotation

theorem beq_iff {a b : Scalar} : (a == b) = true ↔ a.denotation = b.denotation :=
  decide_eq_true_iff

instance : EquivBEq Scalar where
  rfl := beq_iff.2 rfl
  symm h := beq_iff.2 (beq_iff.1 h).symm
  trans h₁ h₂ := beq_iff.2 ((beq_iff.1 h₁).trans (beq_iff.1 h₂))

end Scalar

/-- A value of a request or document. -/
inductive Datum
  | scalar (s : Scalar)
  | date (d : Date)
  | instant (t : Instant)
  | bytes (bs : List UInt8)
  | list (items : List Datum)
  | pair (first second : Datum)
  | set (members : List Datum)
  | map (entries : List (Datum × Datum))
  /-- A place where a structure contains itself, and whether it is a map. -/
  | cycle (isMap : Bool)
deriving Repr, Inhabited

namespace Datum

/-! ### Equality -/

mutual

/-- Whether two values are equal: scalars by what they denote, structures part by part. -/
def same : Datum → Datum → Bool
  | scalar a, scalar b => a == b
  | date a, date b => a == b
  | instant a, instant b => a == b
  | bytes a, bytes b => a == b
  | list a, list b => sameItems a b
  | pair a b, pair c d => same a c && same b d
  | set a, set b => sameItems a b
  | map a, map b => sameEntries a b
  | cycle a, cycle b => a == b
  | _, _ => false

/-- Whether two rows of values are equal item by item. -/
def sameItems : List Datum → List Datum → Bool
  | [], [] => true
  | a :: as, b :: bs => same a b && sameItems as bs
  | _, _ => false

/-- Whether two rows of entries are equal entry by entry. -/
def sameEntries : List (Datum × Datum) → List (Datum × Datum) → Bool
  | [], [] => true
  | (k, v) :: as, (l, w) :: bs => same k l && same v w && sameEntries as bs
  | _, _ => false

end

instance : BEq Datum := ⟨same⟩

/-! ### Values of each kind -/

/-- The absent value. -/
abbrev null : Datum := scalar .null

/-- A truth value. -/
abbrev bool (b : Bool) : Datum := scalar (.bool b)

/-- An integer. -/
abbrev int (n : Int) : Datum := scalar (.int n)

/-- A binary number. -/
abbrev float (x : Binary64) : Datum := scalar (.float x)

/-- A text. -/
abbrev text (s : String) : Datum := scalar (.text s)

/-- A map whose keys are texts. -/
def record (entries : List (String × Datum)) : Datum :=
  map (entries.map fun (key, value) => (text key, value))

/-- The name of the kind of a value, as messages show it. -/
def kind : Datum → String
  | scalar .null => "NoneType"
  | scalar (.bool _) => "bool"
  | scalar (.int _) => "int"
  | scalar (.float _) => "float"
  | scalar (.text _) => "str"
  | date _ => "datetime.date"
  | instant _ => "datetime.datetime"
  | bytes _ => "bytes"
  | list _ => "list"
  | pair _ _ => "tuple"
  | set _ => "set"
  | map _ => "dict"
  | cycle isMap => if isMap then "dict" else "list"

/-- Whether a value counts as absent where a default may stand in for it: the absent value, `false`,
the zeros, and whatever is empty. -/
def isEmpty : Datum → Bool
  | scalar s => s == .null || s == .int 0 || s == .text ""
  | date _ | instant _ | pair _ _ | cycle _ => false
  | bytes bs => bs.isEmpty
  | list items => items.isEmpty
  | set members => members.isEmpty
  | map entries => entries.isEmpty

/-- The text, if the value is one. -/
def text? : Datum → Option String
  | scalar (.text s) => some s
  | _ => none

/-- The value under a key of a map that is a text; none if there is no such key or no map. -/
def field? (key : String) : Datum → Option Datum
  | map entries => (entries.find? fun entry => entry.1.text? == some key).map (·.2)
  | _ => none

end Datum

end MetricQuery
