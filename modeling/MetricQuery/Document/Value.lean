import MetricQuery.Datum.Basic
import MetricQuery.Document.Tag
import MetricQuery.Document.Token
import MetricQuery.Text.Case

/-!
# Values of scalars

The text of a scalar stands for a value of the kind of the scalar.  The kind may have been given by
a tag, so the text need not have the form that shows the kind.

## Main definitions

* `Tag.read` : the value of a text of a kind.
-/

namespace MetricQuery.Document

open Text (isAsciiDigit)

/-- The text without underscores. -/
def dropSeams (s : List Char) : List Char :=
  s.filter (· != '_')

/-! ### Truth values -/

/-- The words for truth values in lower case. -/
def truthValues : List (String × Bool) :=
  [("yes", true), ("no", false), ("true", true), ("false", false), ("on", true), ("off", false)]

/-- The truth value of a text, in any letter case. -/
def readTruth (s : String) : Except DocumentFault Bool :=
  match truthValues.find? (·.1 == s.lowerCase) with
  | some (_, b) => .ok b
  | none => .error (.notTruth s.lowerCase)

/-! ### Integers -/

/-- A decimal integer. -/
def readDecimal (s : List Char) : Except DocumentFault Int :=
  match Literal.readInteger s with
  | .ok n => .ok n
  | .error .malformed => .error (.notInteger 10 (String.ofList s))
  | .error (.tooLong digits) => .error (.integerTooLong digits)

/-- The letter that marks a base. -/
def baseMark (base : Nat) : Char :=
  if base = 2 then 'b' else if base = 8 then 'o' else 'x'

/-- The text behind the mark of a base, if it starts with one. -/
def dropBaseMark (base : Nat) : List Char → List Char
  | '0' :: mark :: rest => if mark.toLower = baseMark base then rest else '0' :: mark :: rest
  | s => s

/-- An integer in a base that is a power of two, with or without the mark of the base. -/
def readInBase (base : Nat) (s : List Char) : Except DocumentFault Int :=
  let (negative, body) := Literal.splitSign (Literal.plainForm s)
  let digits := dropBaseMark base body
  let value? (c : Char) : Option Nat := (Text.hexValue? c).filter (· < base)
  match digits, digits.mapM value? with
  | _ :: _, some values =>
    let n := values.foldl (fun n digit => base * n + digit) 0
    .ok (if negative then -(n : Int) else n)
  | _, _ => .error (.notInteger base (String.ofList s))

/-- The value of numbers that count sixtieths of the one before. -/
def readSixtieths (parts : List (List Char)) : Except DocumentFault Int := do
  return (← parts.mapM readDecimal).foldl (fun n part => 60 * n + part) 0

/-- The integer of a text without a sign: binary, octal, decimal or hexadecimal, or in sixtieths. -/
def readMagnitude : List Char → Except DocumentFault Int
  | [] => .error .noDigits
  | ['0'] => .ok 0
  | '0' :: 'b' :: digits => readInBase 2 digits
  | '0' :: 'x' :: digits => readInBase 16 digits
  | '0' :: digits => readInBase 8 ('0' :: digits)
  | s => if s.contains ':' then readSixtieths (s.splitOn ':') else readDecimal s

/-- The integer of a text. -/
def readInteger (s : List Char) : Except DocumentFault Int := do
  let (negative, body) := Literal.splitSign (dropSeams s)
  let magnitude ← readMagnitude body
  return if negative then -magnitude else magnitude

/-! ### Binary numbers -/

/-- A decimal fraction. -/
def readFraction (s : List Char) : Except DocumentFault Binary64 :=
  match Literal.readBinary64? s with
  | some x => .ok x
  | none => .error (.notNumber (String.ofList s))

/-- The sum of numbers of which the first counts `base` times, and each sixty times as much as the
one before.  What it counts is an integer, which has to be in the range of binary numbers. -/
def sumScaled (base : Nat) (sum : Binary64) : List Binary64 → Except DocumentFault Binary64
  | [] => .ok sum
  | x :: rest =>
    match Binary64.ofRatio false base 1 with
    | .infinite _ => .error .factorTooLarge
    | factor => sumScaled (60 * base) (sum.add (x.scaleBy factor)) rest

/-- The binary number of a text in lower case and without a sign: a word, a fraction in sixtieths,
or a decimal fraction. -/
def readFloatMagnitude (s : List Char) : Except DocumentFault Binary64 :=
  if s = ".inf".toList then .ok (.infinite false)
  else if s = ".nan".toList then .ok .nan
  else if s.contains ':' then do
    let parts ← (s.splitOn ':').mapM readFraction
    sumScaled 1 (.zero false) parts.reverse
  else readFraction s

/-- The binary number of a text. -/
def readFloat (s : String) : Except DocumentFault Binary64 := do
  let s := Text.lower (dropSeams s.toList)
  if s.isEmpty then throw .noDigits
  let (negative, body) := Literal.splitSign s
  let magnitude ← readFloatMagnitude body
  return if negative then magnitude.neg else magnitude

/-! ### Dates and times -/

/-- The microseconds that the digits of a fraction stand for, of which the first six count. -/
def microseconds (fraction : List Char) : Nat :=
  let digits := fraction.take 6
  Literal.digitsValue digits * Nat.pow 10 (6 - digits.length)

/-- The date or the instant of a text. -/
def readTime (s : String) : Except DocumentFault Datum :=
  let chars := s.toList
  match readStamp? (if chars.getLast? = some '\n' then chars.dropLast else chars) with
  | none => .error .notInstant
  | some stamp =>
    let month := Literal.digitsValue stamp.month
    let day := Literal.digitsValue stamp.day
    match stamp.time with
    | none => ((Date.make stamp.year month day).map Datum.date).mapError .calendar
    | some (hour, minute, second, fraction) =>
      let t := Instant.make stamp.year month day hour minute second (microseconds fraction)
        stamp.offset
      (t.map Datum.instant).mapError .calendar

/-! ### Bytes -/

/-- The value of a letter in a text of bytes. -/
def sextet? (c : Char) : Option Nat :=
  if 'A' ≤ c ∧ c ≤ 'Z' then some (c.toNat - 'A'.toNat)
  else if 'a' ≤ c ∧ c ≤ 'z' then some (c.toNat - 'a'.toNat + 26)
  else if '0' ≤ c ∧ c ≤ '9' then some (c.toNat - '0'.toNat + 52)
  else if c = '+' then some 62
  else if c = '/' then some 63
  else none

/-- The bytes of a text in which each letter stands for six bits.  `place` is the place of the next
letter among four, `left` the bits left over, and `padding` the count of padding marks since the
last letter.  Other characters count for nothing; the text ends where the padding is full. -/
def readBytes? (place left padding : Nat) : List Char → Option (List UInt8)
  | [] => if place = 0 then some [] else none
  | c :: rest =>
    if c = '=' then
      if 2 ≤ place then
        if 4 ≤ place + padding + 1 then some [] else readBytes? place left (padding + 1) rest
      else readBytes? place left padding rest
    else
      match sextet? c with
      | none => readBytes? place left padding rest
      | some six =>
        let byte (n : Nat) (tail : Option (List UInt8)) : Option (List UInt8) :=
          tail.map (UInt8.ofNat n :: ·)
        match place with
        | 0 => readBytes? 1 six 0 rest
        | 1 => byte (left * 4 + six / 16) (readBytes? 2 (six % 16) 0 rest)
        | 2 => byte (left * 16 + six / 4) (readBytes? 3 (six % 4) 0 rest)
        | _ => byte (left * 64 + six) (readBytes? 0 0 0 rest)

/-- The bytes of a text. -/
def readBytes (s : String) : Except DocumentFault (List UInt8) :=
  if s.toList.all (·.toNat < 0x80) then
    match readBytes? 0 0 0 s.toList with
    | some bytes => .ok bytes
    | none => .error .malformed
  else .error .malformed

/-! ### All kinds -/

/-- Whether a kind is one of structures. -/
def Tag.isStructure : Tag → Bool
  | omap | pairs | set | seq | map => true
  | _ => false

/-- The value of a text of a kind.  A text is no structure. -/
def Tag.read (tag : Tag) (s : String) : Except DocumentFault Datum :=
  match tag with
  | null => .ok .null
  | bool => (readTruth s).map Datum.bool
  | int => (readInteger s.toList).map Datum.int
  | float => (readFloat s).map Datum.float
  | binary => (readBytes s).map Datum.bytes
  | timestamp => readTime s
  | str => .ok (.text s)
  | _ => .error .malformed

end MetricQuery.Document
