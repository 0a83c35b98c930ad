import MetricQuery.Fault

/-!
# Intervals of time

An interval runs from a first instant up to, and without, a last one.

## Main definitions

* `Interval.make` : the interval between two instants.
* `Interval.contains`, `Interval.overlaps` : membership, and a common stretch with another interval.
-/

namespace MetricQuery

/-- The stretch of time from `start` up to, and without, `finish`. -/
structure Interval where
  start : Instant
  finish : Instant
deriving BEq, Repr, Inhabited

namespace Interval

/-- Whether one instant comes before another; a fault if they have no order. -/
def before (s t : Instant) : Except Fault Bool :=
  match s.order? t with
  | some order => .ok (order == .lt)
  | none => .error .clocksMixed

/-- The interval between two instants, of which the second does not come before the first. -/
def make (start finish : Instant) : Except Fault Interval := do
  if ← before finish start then throw (.intervalReversed start finish)
  return ⟨start, finish⟩

/-- Whether an instant lies in the interval.  The last instant is looked at only if the first one
does not settle the answer. -/
def contains (i : Interval) (t : Instant) : Except Fault Bool := do
  if ← before t i.start then return false
  before t i.finish

/-- Whether each of two intervals starts before the other one finishes. -/
def overlaps (i j : Interval) : Except Fault Bool := do
  if ← before i.start j.finish then before j.start i.finish else return false

end Interval

end MetricQuery
