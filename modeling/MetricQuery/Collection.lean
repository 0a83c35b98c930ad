import MetricQuery.Fault

/-!
# Collections of requests

A request gives a collection as a list of objects or as a loose value.  An empty loose value may
stand for an empty collection; one that cannot be looked through is a fault.

## Main definitions

* `distinct` : the first occurrences in a list.
* `Datum.elements`, `Datum.key` : the elements of a loose value, and a loose value as a key.
* `Given` : a collection as a request gives it.
* `Given.elements`, `Given.elementsOrNone` : its elements, without and with the default.
* `Given.elementsWith` : its elements where each of them is asked for a member.
-/

namespace MetricQuery

/-! ### Lists without repeats -/

/-- The first occurrences in a list, in their order. -/
def distinct {α : Type} [BEq α] : List α → List α
  | [] => []
  | x :: rest => x :: (distinct rest).filter fun y => !(x == y)

/-! ### Loose values -/

namespace Datum

/-- The elements of a loose value: the items of a list, the characters of a text, the numbers of a
row of bytes, the keys of a map. -/
def elements : Datum → Except Fault (List Datum)
  | list items => .ok items
  | set members => .ok members
  | pair first second => .ok [first, second]
  | map entries => .ok (entries.map (·.1))
  | bytes bs => .ok (bs.map fun b => int b.toNat)
  | scalar (.text s) => .ok (s.toList.map fun c => text (String.singleton c))
  | d => .error (.notIterable d.kind)

/-- The text that a value is.  Another value lacks the member that the text is wanted for. -/
def readTextFor (member : String) (d : Datum) : Except Fault String :=
  match d.text? with
  | some s => .ok s
  | none => .error (.noAttribute d.kind member)

/-- The text that a value is where a name is wanted. -/
def readText (d : Datum) : Except Fault String :=
  d.readTextFor "lower"

/-- The scalar that a value is as a key.  A structure is no key. -/
def key : Datum → Except Fault Scalar
  | scalar s => .ok s
  | d => .error (.unhashable d.kind)

/-- The scalars of a loose collection without repeats; none for an empty value. -/
def distinctScalars (d : Datum) : Except Fault (List Scalar) :=
  if d.isEmpty then .ok []
  else do
    let items ← d.elements
    let keys ← items.mapM key
    return distinct keys

end Datum

/-! ### Given collections -/

/-- Loose values without elements: those that are empty and those that cannot be looked through. -/
def Datum.Barren (d : Datum) : Prop :=
  ∀ first rest, d.elements ≠ .ok (first :: rest)

instance (d : Datum) : Decidable d.Barren :=
  match h : d.elements with
  | .ok [] => isTrue fun _ _ hcons => nomatch h.symm.trans hcons
  | .ok (first :: rest) => isFalse fun hbarren => hbarren first rest h
  | .error _ => isTrue fun _ _ hcons => nomatch h.symm.trans hcons

/-- Loose values without entries: all but the maps that hold something. -/
def Datum.Entryless (d : Datum) : Prop :=
  ∀ first rest, d ≠ .map (first :: rest)

instance (d : Datum) : Decidable d.Entryless :=
  match d with
  | .map (first :: rest) => isFalse fun hentryless => hentryless first rest rfl
  | .map [] => isTrue nofun
  | .scalar _ | .date _ | .instant _ | .bytes _ | .list _ | .pair _ _ | .set _ | .cycle _ =>
    isTrue nofun

/-- A collection as a request gives it: a list of objects, or a loose value of those that may stand
in for one.  What is kept of a collection are objects, so a loose value has none unless it is only
looked through. -/
inductive Given (α : Type) (Loose : Datum → Prop := Datum.Barren)
  | items (xs : List α)
  | loose (d : Datum) (h : Loose d)

namespace Given

variable {α : Type} {Loose : Datum → Prop}

/-- The elements of a given collection. -/
def elements : Given α → Except Fault (List α)
  | items xs => .ok xs
  | loose d _ => d.elements.map fun _ => []

/-- The elements of a given collection, none for an empty loose value. -/
def elementsOrNone : Given α → Except Fault (List α)
  | items xs => .ok xs
  | loose d h => if d.isEmpty then .ok [] else (loose d h).elements

/-- The entries of a given map, none for an empty loose value. -/
def entriesOrNone : Given α Datum.Entryless → Except Fault (List α)
  | items xs => .ok xs
  | loose d _ => if d.isEmpty then .ok [] else .error (.noAttribute d.kind "items")

/-- The elements of a given collection that are asked for a member, which the elements of a loose
value lack. -/
def elementsWith (member : String) : Given α Loose → Except Fault (List α)
  | items xs => .ok xs
  | loose d _ => do
    match ← d.elements with
    | [] => return []
    | first :: _ => throw (.noAttribute first.kind member)

/-- The elements of a given collection that are asked for a member, none for an empty loose
value. -/
def elementsWithOrNone (member : String) : Given α Loose → Except Fault (List α)
  | items xs => .ok xs
  | loose d h => if d.isEmpty then .ok [] else (loose d h).elementsWith member

end Given

end MetricQuery
