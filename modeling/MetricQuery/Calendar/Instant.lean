import MetricQuery.Calendar.Date
import MetricQuery.Calendar.TimeZone
import MetricQuery.Number.Literal
import MetricQuery.Text.Quoted

/-!
# Instants

An instant is a date and a time of day, as the clock of a zone shows them or a clock that is not
known.  Two instants of one zone are ordered by the clock, without regard to changes of its offset;
instants of different zones are ordered by universal time.  An instant of a zone and one without are
never equal and have no order.

## Main definitions

* `Instant` : a date and a time of day, perhaps in a zone.
* `Instant.clock`, `Instant.universal?` : the reading of the clock and the moment it stands for.
* `Instant.order?` : the order of two instants, if they have one.
* `Instant.read` : the instant written in a text.
* `Instant.text` : the text of an instant.
-/

namespace MetricQuery

/-- A date and a time of day. -/
structure Instant where
  date : Date
  hour : Nat
  minute : Nat
  second : Nat
  microsecond : Nat
  /-- Whether this is the second one of two equal readings of the clock. -/
  fold : Bool
  zone : Option TimeZone
deriving Repr, Inhabited

namespace Instant

/-- The instant with given parts, in a zone with an offset in minutes or in none.  The offset is
checked first, then the date, then the time. -/
def make (year month day hour minute second microsecond : Nat) (offset : Option Int) :
    Except CalendarFault Instant := do
  if let some minutes := offset then
    if 1440 ≤ minutes.natAbs then throw (.offset minutes)
  let date ← Date.make year month day
  if 23 < hour then throw .hour
  if 59 < minute then throw .minute
  if 59 < second then throw .second
  let zone := offset.map fun minutes => TimeZone.fixed (minutes * 60000000)
  return ⟨date, hour, minute, second, microsecond, false, zone⟩

/-! ### Order and equality -/

/-- The count of microseconds of the clock that the instant is read from. -/
def clock (t : Instant) : Int :=
  (((t.date.dayNumber * 24 + t.hour) * 60 + t.minute) * 60 + t.second) * 1000000 + t.microsecond

/-- How far the clock of the instant is ahead of universal time, for an instant of a zone. -/
def offset? (t : Instant) : Option Int :=
  t.zone.map fun zone => zone.offsetAt t.clock t.fold

/-- The count of microseconds in universal time, for an instant of a zone. -/
def universal? (t : Instant) : Option Int :=
  t.zone.map fun zone => zone.universal t.clock t.fold

/-- The order of two instants; none if just one of them is in a zone. -/
def order? (s t : Instant) : Option Ordering :=
  if s.zone = t.zone then some (compare s.clock t.clock)
  else
    match s.universal?, t.universal? with
    | some m, some n => some (compare m n)
    | _, _ => none

/-- Whether the clock shows the reading of the instant just once. -/
def isSettled (t : Instant) : Bool :=
  t.zone.all fun zone => zone.isSettled t.clock

/-- Instants of one zone are equal if the clock reads the same, those of different zones if both
stand for one moment and neither reading is skipped or repeated. -/
instance : BEq Instant where
  beq s t :=
    if s.zone = t.zone then s.clock == t.clock
    else
      match s.universal?, t.universal? with
      | some m, some n => s.isSettled && t.isSettled && m == n
      | _, _ => false

/-! ### Text -/

/-- An offset as a sign, hours and minutes, and what there is beyond them. -/
def offsetText (offset : Int) : String :=
  let sign := if offset < 0 then "-" else "+"
  let microseconds := offset.natAbs % 1000000
  let seconds := offset.natAbs / 1000000
  let rest :=
    if microseconds ≠ 0 then s!":{padded 2 (seconds % 60)}.{padded 6 microseconds}"
    else if seconds % 60 ≠ 0 then s!":{padded 2 (seconds % 60)}"
    else ""
  s!"{sign}{padded 2 (seconds / 3600)}:{padded 2 (seconds / 60 % 60)}{rest}"

/-- An instant with a separator between date and time.  Microseconds are written if there are any,
the offset in a zone. -/
def textWith (separator : String) (t : Instant) : String :=
  let fraction := if t.microsecond = 0 then "" else s!".{padded 6 t.microsecond}"
  let offset := (t.offset?.map offsetText).getD ""
  let time := s!"{padded 2 t.hour}:{padded 2 t.minute}:{padded 2 t.second}"
  t.date.text ++ separator ++ time ++ fraction ++ offset

/-- An instant as it is exchanged. -/
def text : Instant → String :=
  textWith "T"

/-- An instant as it is shown in a message. -/
def spoken : Instant → String :=
  textWith " "

/-! ### Reading -/

/-- The number made of exactly `width` digits at the front of a text, and what follows. -/
def takeNumber? (width : Nat) (s : List Char) : Option (Nat × List Char) :=
  let digits := s.take width
  if digits.length = width ∧ digits.all Text.isAsciiDigit then
    some (Literal.digitsValue digits, s.drop width)
  else none

/-- The text behind a character that has to come first. -/
def expect? (c : Char) : List Char → Option (List Char)
  | [] => none
  | d :: rest => if d = c then some rest else none

/-- The microseconds after a point: up to six digits that count from the left. -/
def takeFraction? : List Char → Option (Nat × List Char)
  | '.' :: rest =>
    let digits := rest.takeWhile Text.isAsciiDigit
    if digits.isEmpty ∨ 6 < digits.length then none
    else
      some (Literal.digitsValue digits * Nat.pow 10 (6 - digits.length), rest.drop digits.length)
  | s => some (0, s)

/-- The offset that ends a text, or its absence. -/
def readOffset? : List Char → Option (Option Int)
  | [] => some none
  | ['Z'] => some (some 0)
  | sign :: rest => do
    let (hours, rest) ← takeNumber? 2 rest
    let (minutes, rest) ← takeNumber? 2 (← expect? ':' rest)
    guard rest.isEmpty
    let span : Int := hours * 60 + minutes
    match sign with
    | '+' => return some span
    | '-' => return some (-span)
    | _ => none

/-- The parts of an instant that is written as date, `T`, time and offset. -/
def readParts? (s : List Char) : Option (Except CalendarFault Instant) := do
  let (year, rest) ← takeNumber? 4 s
  let (month, rest) ← takeNumber? 2 (← expect? '-' rest)
  let (day, rest) ← takeNumber? 2 (← expect? '-' rest)
  let (hour, rest) ← takeNumber? 2 (← expect? 'T' rest)
  let (minute, rest) ← takeNumber? 2 (← expect? ':' rest)
  let (second, rest) ← takeNumber? 2 (← expect? ':' rest)
  let (microsecond, rest) ← takeFraction? rest
  let offset ← readOffset? rest
  return make year month day hour minute second microsecond offset

/-- The instant written in a text. -/
def read (s : String) : Except CalendarFault Instant :=
  (readParts? s.toList).getD (.error (.form s.quotedLiteral))

end Instant

end MetricQuery
