import MetricQuery.Number.Binary64
import MetricQuery.Text.Blank
import MetricQuery.Text.Digit

/-!
# Number literals

Parameters are literal texts that are read as integers or as binary numbers.  Both readings take the
decimal digits of any script, single underscores between digits, a sign, and blanks around the
number.

## Main definitions

* `readInteger` : an integer of at most 4300 digits, or the reason why there is none.
* `readBinary64?` : a decimal fraction with an optional exponent, an infinity, or the undefined
  value.
-/

namespace MetricQuery.Literal

open Text

/-- The spacing of the basic character set that may stand around a number. -/
def isSpacing (c : Char) : Bool :=
  c == ' ' || ('\t' ≤ c && c ≤ '\r')

/-- The form of a literal in the basic character set.  A digit of another script becomes its
counterpart and a blank a space; any other character becomes one that no number holds. -/
def plainChar (c : Char) : Char :=
  if c.toNat < 0x7F then c
  else if isBlank c then ' '
  else
    match digitValue? c with
    | some value => Char.ofNat ('0'.toNat + value)
    | none => '?'

/-- The plain form of a literal without the spacing around it. -/
def plainForm (s : List Char) : List Char :=
  trimBy isSpacing (s.map plainChar)

/-- The sign of a literal, negative or not, and what follows it. -/
def splitSign : List Char → Bool × List Char
  | '-' :: rest => (true, rest)
  | '+' :: rest => (false, rest)
  | s => (false, s)

/-- The number that a row of digits denotes. -/
def digitsValue (digits : List Char) : Nat :=
  digits.foldl (fun n c => 10 * n + (c.toNat - '0'.toNat)) 0

/-! ### Integers -/

/-- Why a literal is no integer. -/
inductive IntegerFault
  | malformed
  | tooLong (digits : Nat)
deriving DecidableEq, Repr

/-- The longest row of digits that is read as an integer. -/
def maxIntegerDigits : Nat := 4300

/-- The digits of a row in which single underscores separate groups. -/
def ungrouped? (row : List Char) : Option (List Char) :=
  let groups := row.splitOn '_'
  if groups.all (!·.isEmpty) then some groups.flatten else none

/-- Reads an integer.  The length of its row of digits is checked before what follows the row. -/
def readInteger (s : List Char) : Except IntegerFault Int :=
  let (negative, body) := splitSign (plainForm s)
  let inRow (c : Char) : Bool := isAsciiDigit c || c == '_'
  match ungrouped? (body.takeWhile inRow) with
  | none => .error .malformed
  | some digits =>
    if maxIntegerDigits < digits.length then .error (.tooLong digits.length)
    else if !(body.dropWhile inRow).isEmpty then .error .malformed
    else
      let n : Int := digitsValue digits
      .ok (if negative then -n else n)

/-! ### Binary numbers -/

/-- Drops the underscores of a literal, each of which has to stand between two digits. -/
def dropSeparators? : (afterDigit : Bool) → List Char → Option (List Char)
  | _, [] => some []
  | afterDigit, c :: rest =>
    if c = '_' then
      if afterDigit && rest.head?.any isAsciiDigit then dropSeparators? false rest else none
    else (dropSeparators? (isAsciiDigit c) rest).map (c :: ·)

/-- Reads the exponent of a decimal fraction, which may be missing. -/
def readExponent? : List Char → Option Int
  | [] => some 0
  | mark :: rest =>
    let (negative, digits) := splitSign rest
    if (mark = 'e' ∨ mark = 'E') ∧ !digits.isEmpty ∧ digits.all isAsciiDigit then
      let n : Int := digitsValue digits
      some (if negative then -n else n)
    else none

/-- Reads a decimal fraction without its sign: digits before or after the point, and an optional
exponent. -/
def readDecimal? (negative : Bool) (s : List Char) : Option Binary64 :=
  let whole := s.takeWhile isAsciiDigit
  let (fraction, rest) :=
    match s.dropWhile isAsciiDigit with
    | '.' :: rest => (rest.takeWhile isAsciiDigit, rest.dropWhile isAsciiDigit)
    | rest => ([], rest)
  if whole.isEmpty && fraction.isEmpty then none
  else
    (readExponent? rest).map fun exponent =>
      Binary64.ofDecimal negative (digitsValue (whole ++ fraction)) (exponent - fraction.length)

/-- Reads a binary number. -/
def readBinary64? (s : List Char) : Option Binary64 := do
  let (negative, body) := splitSign (← dropSeparators? false (plainForm s))
  let word := String.ofList (body.map Char.toLower)
  if word == "inf" || word == "infinity" then return .infinite negative
  else if word == "nan" then return .nan
  else readDecimal? negative body

end MetricQuery.Literal
