import MetricQuery.Datum.Basic
import MetricQuery.Number.Layout

/-!
# Written form of data

A value inside a message or a parameter is written in a fixed notation: the absent value is `None`,
texts inside structures are quoted literals, lists stand in brackets and maps in braces.  A text on
its own is written as it is.

## Main definitions

* `Datum.literal` : a value inside a structure.
* `Datum.written` : a value on its own.
-/

namespace MetricQuery

/-- A scalar inside a structure. -/
def Scalar.literal : Scalar → String
  | null => "None"
  | bool b => if b then "True" else "False"
  | int n => toString n
  | float x => String.ofList x.text
  | text s => s.quotedLiteral

/-- A scalar on its own. -/
def Scalar.written : Scalar → String
  | text s => s
  | s => s.literal

/-- A date inside a structure. -/
def Date.literal (d : Date) : String :=
  s!"datetime.date({d.year}, {d.month}, {d.day})"

/-- A zone inside a structure: by its name, or by its offset if it has none. -/
def TimeZone.literal (zone : TimeZone) : String :=
  if zone.name ≠ "" then s!"zoneinfo.ZoneInfo(key={zone.name.quotedLiteral})"
  else if zone.offset = 0 then "datetime.timezone.utc"
  else s!"datetime.timezone({spanText zone.offset})"

/-- An instant inside a structure.  Seconds and microseconds are left out where both are zero, the
microseconds where they are zero. -/
def Instant.literal (t : Instant) : String :=
  let parts := [t.date.year, t.date.month, t.date.day, t.hour, t.minute] ++
    (if t.second = 0 ∧ t.microsecond = 0 then [] else [t.second]) ++
    (if t.microsecond = 0 then [] else [t.microsecond])
  let zone := (t.zone.map fun zone => s!", tzinfo={zone.literal}").getD ""
  let fold := if t.fold then ", fold=1" else ""
  "datetime.datetime(" ++ ", ".intercalate (parts.map toString) ++ zone ++ fold ++ ")"

/-- A byte inside a literal enclosed by `quote`. -/
def byteLiteral (quote : Char) (b : UInt8) : List Char :=
  let c := Char.ofNat b.toNat
  if c = '\\' ∨ c = quote then ['\\', c]
  else if c = '\n' then ['\\', 'n']
  else if c = '\r' then ['\\', 'r']
  else if c = '\t' then ['\\', 't']
  else if 0x20 ≤ b.toNat ∧ b.toNat < 0x7F then [c]
  else '\\' :: 'x' :: Text.hexDigits 2 b.toNat

/-- Bytes as a quoted literal with a mark in front. -/
def bytesLiteral (bs : List UInt8) : String :=
  let quote := Text.Quoted.mark (bs.map fun b => Char.ofNat b.toNat)
  String.ofList ('b' :: quote :: bs.flatMap (byteLiteral quote) ++ [quote])

/-- Texts with a separator between, enclosed. -/
def enclosed (left right : String) (parts : List String) : String :=
  left ++ ", ".intercalate parts ++ right

namespace Datum

mutual

/-- A value inside a structure. -/
def literal : Datum → String
  | scalar s => s.literal
  | date d => d.literal
  | instant t => t.literal
  | bytes bs => bytesLiteral bs
  | list items => enclosed "[" "]" (literals items)
  | pair first second => enclosed "(" ")" [first.literal, second.literal]
  | set members =>
    if members.isEmpty then "set()" else enclosed "\x7b" "\x7d" (literals members)
  | map entries => enclosed "\x7b" "\x7d" (entryLiterals entries)
  | cycle isMap => if isMap then "\x7b...\x7d" else "[...]"

/-- The members of a structure. -/
def literals : List Datum → List String
  | [] => []
  | d :: rest => d.literal :: literals rest

/-- The entries of a map. -/
def entryLiterals : List (Datum × Datum) → List String
  | [] => []
  | (key, value) :: rest => (key.literal ++ ": " ++ value.literal) :: entryLiterals rest

end

/-- A value on its own. -/
def written : Datum → String
  | scalar s => s.written
  | date d => d.text
  | instant t => t.spoken
  | d => d.literal

end Datum

end MetricQuery
