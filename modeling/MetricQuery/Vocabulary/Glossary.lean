import MetricQuery.Keyed
import MetricQuery.Vocabulary.Term

/-!
# Glossaries

A glossary holds dimensions or metrics under their names, which are compared without regard to
letter case.  It is written once: the first item with a name stays, and a later one is refused.

## Main definitions

* `Named` : things that a glossary can hold.
* `Glossary` : things under their names, in the order in which they were added.
* `Glossary.members` : the things, of which equal ones count once.
* `Glossary.get?`, `Glossary.find`, `Glossary.contains` : look-up by name.
* `Glossary.add`, `Glossary.addAll` : addition of one thing and of several.
* `Glossary.ofItems` : the glossary of several things.
* `Glossary.register?` : addition of a dimension whose name must not be taken.
-/

namespace MetricQuery

/-- Things with a name. -/
class Named (α : Type) where
  name : α → Scalar

instance : Named Dimension where
  name d := .text d.apiName

instance : Named Metric where
  name m := m.name

/-- Things under their names in lower case, in the order in which they were added. -/
structure Glossary (α : Type) where
  entries : Keyed String α
deriving Repr, Inhabited

namespace Glossary

variable {α : Type}

/-- The glossary without entries. -/
def empty : Glossary α := ⟨[]⟩

/-- The items in their order. -/
def items (g : Glossary α) : List α :=
  g.entries.map (·.2)

/-- The number of items. -/
def size (g : Glossary α) : Nat :=
  g.entries.length

/-- The items, of which equal ones count once. -/
def members [BEq α] (g : Glossary α) : List α :=
  distinct g.items

/-! ### Look-up -/

/-- The item with a name. -/
def get? (g : Glossary α) (name : String) : Option α :=
  g.entries.get? name.lowerCase

/-- The item with a name that is a loose value; a fault if the value is no text. -/
def find (g : Glossary α) (name : Datum) : Except Fault (Option α) := do
  return g.get? (← name.readText)

/-- Whether a value is the name of an item. -/
def contains (g : Glossary α) (name : Datum) : Bool :=
  name.text?.any fun name => (g.get? name).isSome

/-! ### Addition -/

/-- The glossary with an item offered under a name, and whether it was taken. -/
def offer (g : Glossary α) (name : String) (item : α) : Glossary α × Bool :=
  if g.entries.has name.lowerCase then (g, false)
  else (⟨g.entries ++ [(name.lowerCase, item)]⟩, true)

variable [Named α]

/-- The names of the items, as they are spelled. -/
def names (g : Glossary α) : List Scalar :=
  g.items.map Named.name

/-- The glossary with an item added, and whether its name was free.  A name that is no text is a
fault. -/
def add (g : Glossary α) (item : α) : Except Fault (Glossary α × Bool) := do
  return g.offer (← (Datum.scalar (Named.name item)).readText) item

/-- The glossary with several items added one after another, and whether it grew.  Items in front of
a faulty one stay. -/
def addAll (g : Glossary α) : List α → Glossary α × Except Fault Bool
  | [] => (g, .ok false)
  | item :: rest =>
    match g.add item with
    | .error fault => (g, .error fault)
    | .ok (g, added) =>
      let (g, changed) := g.addAll rest
      (g, changed.map (added || ·))

/-- The glossary of several items.  There is none if the name of one is no text. -/
def ofItems (items : List α) : Except Fault (Glossary α) :=
  match empty.addAll items with
  | (g, .ok _) => .ok g
  | (_, .error fault) => .error fault

/-- How a glossary with a title is shown: its names in a list. -/
def shown (title : String) (g : Glossary α) : String :=
  title ++ "(" ++ (Datum.list (g.names.map Datum.scalar)).literal ++ ")"

end Glossary

/-- The glossary with a dimension registered, none if its name is taken. -/
def Glossary.register? (g : Glossary Dimension) (d : Dimension) : Option (Glossary Dimension) :=
  match g.offer d.apiName d with
  | (g, true) => some g
  | (_, false) => none

end MetricQuery
