/-!
# Calendar dates

Dates of the Gregorian calendar, extended to all years from 1 to 9999.

## Main definitions

* `Date` : a year, a month and a day.
* `Date.make` : the date with given parts, or the first part that is out of range.
* `Date.dayNumber` : the count of days from the first day of year 1.
* `CalendarFault` : why given parts make no date or time.
-/

namespace MetricQuery

/-- Why given parts make no date or time. -/
inductive CalendarFault
  | year (n : Nat)
  | month
  | day
  | hour
  | minute
  | second
  /-- The offset from universal time reaches a whole day; it is given in minutes. -/
  | offset (minutes : Int)
  /-- The text does not have the form of an instant. -/
  | form (text : String)
deriving DecidableEq, Repr

/-- A length of time in microseconds, as whole days and the seconds and microseconds beyond them. -/
def spanText (span : Int) : String :=
  let days := span.fdiv 86400000000
  let rest := (span - days * 86400000000).toNat
  let part (name : String) (n : Int) : List String := if n = 0 then [] else [s!"{name}={n}"]
  let parts := part "days" days ++ part "seconds" (rest / 1000000 : Nat) ++
    part "microseconds" (rest % 1000000 : Nat)
  let inner := if parts.isEmpty then "0" else ", ".intercalate parts
  s!"datetime.timedelta({inner})"

/-- The wording of a fault. -/
def CalendarFault.message : CalendarFault → String
  | year n => s!"year {n} is out of range"
  | month => "month must be in 1..12"
  | day => "day is out of range for month"
  | hour => "hour must be in 0..23"
  | minute => "minute must be in 0..59"
  | second => "second must be in 0..59"
  | offset minutes =>
    "offset must be a timedelta strictly between -timedelta(hours=24) and timedelta(hours=24), not "
      ++ spanText (minutes * 60000000) ++ "."
  | form text => "Invalid isoformat string: " ++ text

/-- A calendar date. -/
structure Date where
  year : Nat
  month : Nat
  day : Nat
deriving DecidableEq, Repr, Inhabited

namespace Date

/-- Whether a year has a leap day. -/
def isLeap (year : Nat) : Bool :=
  year % 4 = 0 && (year % 100 != 0 || year % 400 = 0)

/-- The count of days in a month of a year. -/
def monthLength (year month : Nat) : Nat :=
  match month with
  | 2 => if isLeap year then 29 else 28
  | 4 | 6 | 9 | 11 => 30
  | _ => 31

/-- The date with given parts.  The year is checked first, then the month, then the day. -/
def make (year month day : Nat) : Except CalendarFault Date :=
  if year < 1 ∨ 9999 < year then .error (.year year)
  else if month < 1 ∨ 12 < month then .error .month
  else if day < 1 ∨ monthLength year month < day then .error .day
  else .ok ⟨year, month, day⟩

/-- The count of days from the first day of year 1 to a date. -/
def dayNumber (d : Date) : Nat :=
  let past := d.year - 1
  past * 365 + past / 4 - past / 100 + past / 400 +
    ((List.range (d.month - 1)).map fun m => monthLength d.year (m + 1)).foldr (· + ·) 0 +
      (d.day - 1)

end Date

/-- The decimal text of a number with zeros in front up to a width. -/
def padded (width n : Nat) : String :=
  let digits := Nat.toDigits 10 n
  String.ofList (List.replicate (width - digits.length) '0' ++ digits)

/-- A date as year, month and day with dashes between. -/
def Date.text (d : Date) : String :=
  s!"{padded 4 d.year}-{padded 2 d.month}-{padded 2 d.day}"

end MetricQuery
