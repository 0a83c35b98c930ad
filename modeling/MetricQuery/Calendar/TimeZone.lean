/-!
# Time zones as rules

The clocks of a place are ahead of universal time by an offset, which changes now and then.  Where
the clocks are put back, readings come twice, and where they are put forward, readings are skipped;
such a reading alone does not say which offset holds, so it is taken for the first or for the second
one of two.

All lengths of time are counted in microseconds.

## Main definitions

* `ClockChange` : a change of the clocks.
* `TimeZone` : the offsets of a place, one after the other.
* `TimeZone.offsetAt` : the offset that holds at a reading of the clock.
* `TimeZone.universal` : the moment of universal time that a reading stands for.
-/

namespace MetricQuery

/-- A change of clocks: the moment of universal time at which it happens, and how far the clocks are
ahead of universal time from then on. -/
structure ClockChange where
  moment : Int
  offset : Int
deriving DecidableEq, Repr, Inhabited

namespace ClockChange

/-- The reading from which on a change counts, if the clocks were ahead by `previous` before.  The
readings that it skips or repeats belong to the time behind it if they are taken for the second ones
of two, and else to the time before it. -/
def reading (change : ClockChange) (previous : Int) (second : Bool) : Int :=
  change.moment + if second then min previous change.offset else max previous change.offset

/-- The offset behind the changes that count at a reading of the clock. -/
def offsetBehind (previous : Int) : List ClockChange → Int → Bool → Int
  | [], _, _ => previous
  | change :: rest, clock, second =>
    if clock < change.reading previous second then previous
    else offsetBehind change.offset rest clock second

/-- Changes are far enough apart if none skips or repeats a reading that the next one skips or
repeats. -/
def Spaced (previous : Int) : List ClockChange → Prop
  | change :: next :: rest =>
    change.reading previous false ≤ next.reading change.offset true ∧
      Spaced change.offset (next :: rest)
  | _ => True

instance decidableSpaced (previous : Int) : (changes : List ClockChange) →
    Decidable (Spaced previous changes)
  | [] => isTrue trivial
  | [_] => isTrue trivial
  | change :: next :: rest =>
    have := decidableSpaced change.offset (next :: rest)
    inferInstanceAs (Decidable (_ ∧ _))

end ClockChange

/-- How far the clocks of a place are ahead of universal time: an offset to begin with and the
changes of it, in their order.  Zones of the same rule under different names are not the same. -/
structure TimeZone where
  name : String
  offset : Int
  changes : List ClockChange
  spaced : ClockChange.Spaced offset changes
deriving DecidableEq, Repr

namespace TimeZone

/-- The zone whose clocks are always ahead by an offset. -/
def fixed (offset : Int) : TimeZone where
  name := ""
  offset := offset
  changes := []
  spaced := trivial

instance : Inhabited TimeZone := ⟨fixed 0⟩

/-- How far the clocks are ahead at a reading, which is taken for the second one of two or not. -/
def offsetAt (zone : TimeZone) (clock : Int) (second : Bool) : Int :=
  ClockChange.offsetBehind zone.offset zone.changes clock second

/-- The moment of universal time that a reading of the clock stands for. -/
def universal (zone : TimeZone) (clock : Int) (second : Bool) : Int :=
  clock - zone.offsetAt clock second

/-- Whether a reading is neither skipped nor repeated by a change. -/
def isSettled (zone : TimeZone) (clock : Int) : Bool :=
  zone.offsetAt clock false == zone.offsetAt clock true

end TimeZone

end MetricQuery
