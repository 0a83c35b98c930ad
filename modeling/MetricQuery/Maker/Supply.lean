import MetricQuery.Maker.Module

/-!
# Shared glossaries

Makers do not own the glossaries in which they look dependencies up.  A glossary stands at a place
of a library, and a maker is given two places when it is built.  Several makers share a place, and
what is added there is seen by all of them.

## Main definitions

* `Shelf` : glossaries of one kind, each at its place.
* `Library` : glossaries of metrics and of dimensions.
* `Supply`, `Library.supply` : the two glossaries that makers are given.
* `SuppliedMaker`, `Template.buildFor` : a maker with its glossaries.
* `SuppliedMaker.make` : the metric for given dependencies, as the glossaries are at the time.
-/

namespace MetricQuery

/-! ### Glossaries at places -/

/-- Glossaries of one kind, each at its place. -/
abbrev Shelf (α : Type) := List (Glossary α)

namespace Shelf

variable {α : Type}

/-- The glossary at a place, as it is at the time. -/
def glossary (s : Shelf α) (place : Nat) : Glossary α :=
  s[place]?.getD .empty

/-- The place of the glossary that is given, be it empty or not.  If none is given, a new one is
put at the end. -/
def given (s : Shelf α) : Option Nat → Shelf α × Nat
  | some place => (s, place)
  | none => (s ++ [.empty], s.length)

/-- An item is added to the glossary at a place. -/
def add [Named α] (s : Shelf α) (place : Nat) (item : α) : Except Fault (Shelf α × Bool) := do
  let (g, added) ← (s.glossary place).add item
  return (s.set place g, added)

end Shelf

/-- Glossaries of metrics and of dimensions. -/
structure Library where
  metrics : Shelf Metric
  dimensions : Shelf Dimension
deriving Repr, Inhabited

/-- The places of the two glossaries that makers are given. -/
structure Supply where
  metrics : Nat
  dimensions : Nat
deriving DecidableEq, Repr

namespace Library

/-- The glossaries that makers are given.  New ones stand in for those that are not named. -/
def supply (l : Library) (metrics dimensions : Option Nat) : Library × Supply :=
  let (metricShelf, metrics) := l.metrics.given metrics
  let (dimensionShelf, dimensions) := l.dimensions.given dimensions
  (⟨metricShelf, dimensionShelf⟩, ⟨metrics, dimensions⟩)

/-- What a supply holds at the time. -/
def terms (l : Library) (s : Supply) : Terms :=
  ⟨l.metrics.glossary s.metrics, l.dimensions.glossary s.dimensions⟩

/-- A metric is added to the glossary of a supply. -/
def addMetric (l : Library) (s : Supply) (metric : Metric) : Except Fault (Library × Bool) := do
  let (metrics, added) ← l.metrics.add s.metrics metric
  return ({ l with metrics }, added)

/-- A dimension is added to the glossary of a supply. -/
def addDimension (l : Library) (s : Supply) (dimension : Dimension) :
    Except Fault (Library × Bool) := do
  let (dimensions, added) ← l.dimensions.add s.dimensions dimension
  return ({ l with dimensions }, added)

end Library

/-! ### Makers with glossaries -/

/-- A maker with the glossaries that it was given. -/
structure SuppliedMaker where
  maker : AnyMaker
  supply : Supply
deriving Repr

/-- The maker that a template describes, with the glossaries that it is given. -/
def Template.buildFor (outside : List Module) (t : Template) (s : Supply) :
    Except BuildFault SuppliedMaker := do
  return ⟨← t.build outside, s⟩

/-- The metric with a name for given dependencies, which are looked up as the glossaries are at the
time. -/
def SuppliedMaker.make (m : SuppliedMaker) (l : Library) (name : Scalar) (deps : List Datum) :
    Except Fault Metric :=
  m.maker.make (l.terms m.supply) name deps

end MetricQuery
