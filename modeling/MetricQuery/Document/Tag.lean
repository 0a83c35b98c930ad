import MetricQuery.Calendar.Instant

/-!
# Kinds of scalars

A scalar without quotes and tags shows its kind by its form: a word for a truth value, digits for a
number, a date for an instant, and a text otherwise.

## Main definitions

* `Tag` : the kinds of values in documents.
* `Tag.ofPlain` : the kind that a form shows.
* `Tag.ofName` : the kind with a full name.
* `Stamp`, `readStamp?` : a date with or without a time, as documents write it.
-/

namespace MetricQuery.Document

open Text (isAsciiDigit)

/-- The kinds of values in documents. -/
inductive Tag
  | null
  | bool
  | int
  | float
  | binary
  | timestamp
  | omap
  | pairs
  | set
  | str
  | seq
  | map
  /-- A key under which the entries of another map are taken over. -/
  | merge
  /-- A key under which the text of a map stands. -/
  | value
  | other
deriving DecidableEq, Repr

/-! ### Numbers -/

/-- The text without a sign in front. -/
def dropSign (s : List Char) : List Char :=
  (Literal.splitSign s).2

/-- Whether there is a first character and all are of a kind. -/
def isRowOf (p : Char → Bool) (s : List Char) : Bool :=
  !s.isEmpty && s.all p

/-- Whether a character is a decimal digit or an underscore. -/
def isDigitOrSeam (c : Char) : Bool :=
  isAsciiDigit c || c == '_'

/-- Whether the first of several digits is there and is no zero. -/
def startsNonzero (s : List Char) : Bool :=
  s.head?.any fun c => isAsciiDigit c && c != '0'

/-- Whether a text is a number of minutes or seconds, below sixty. -/
def isSixtieth (s : List Char) : Bool :=
  match s with
  | [c] => isAsciiDigit c
  | [c, d] => '0' ≤ c && c ≤ '5' && isAsciiDigit d
  | _ => false

/-- Whether a text without a sign is an integer in one of the bases. -/
def isInteger (s : List Char) : Bool :=
  match s with
  | ['0'] => true
  | '0' :: 'b' :: digits => isRowOf (fun c => c == '0' || c == '1' || c == '_') digits
  | '0' :: 'x' :: digits => isRowOf (fun c => (Text.hexValue? c).isSome || c == '_') digits
  | '0' :: digits => isRowOf (fun c => ('0' ≤ c && c ≤ '7') || c == '_') digits
  | _ =>
    match s.splitOn ':' with
    | [digits] => startsNonzero digits && digits.all isDigitOrSeam
    | hours :: parts =>
      startsNonzero hours && hours.all isDigitOrSeam && parts.all isSixtieth
    | [] => false

/-- Whether a text is an exponent with a sign, or nothing. -/
def isExponent (s : List Char) : Bool :=
  match s with
  | [] => true
  | mark :: sign :: digits =>
    (mark == 'e' || mark == 'E') && (sign == '+' || sign == '-') && isRowOf isAsciiDigit digits
  | _ => false

/-- Whether a row starts with a digit and has digits and underscores only. -/
def isWhole (s : List Char) : Bool :=
  s.head?.any isAsciiDigit && s.all isDigitOrSeam

/-- Whether a text without a sign is a number with a point behind digits. -/
def isPointed (s : List Char) : Bool :=
  let whole := s.takeWhile (· != '.')
  match s.dropWhile (· != '.') with
  | _ :: rest =>
    let tail := rest.dropWhile isDigitOrSeam
    match whole.splitOn ':' with
    | [digits] => isWhole digits && isExponent tail
    | hours :: parts => isWhole hours && parts.all isSixtieth && tail.isEmpty
    | [] => false
  | [] => false

/-- Whether a text is a number with a fraction, or one of the words for what no digits express. -/
def isFloat (s : List Char) : Bool :=
  let word := String.ofList (dropSign s)
  isPointed (dropSign s) || [".inf", ".Inf", ".INF"].contains word ||
    [".nan", ".NaN", ".NAN"].contains (String.ofList s) ||
    match s with
    | '.' :: c :: rest => isAsciiDigit c && isExponent (rest.dropWhile isDigitOrSeam)
    | _ => false

/-! ### Dates and times -/

/-- A date with or without a time, as a document writes it. -/
structure Stamp where
  year : Nat
  month : List Char
  day : List Char
  /-- The hour, the minute, the second and the digits of its fraction. -/
  time : Option (Nat × Nat × Nat × List Char)
  /-- The offset from universal time in minutes. -/
  offset : Option Int
deriving Repr

/-- A row of one or two digits at the front of a text, and what follows. -/
def shortRow? (s : List Char) : Option (List Char × List Char) :=
  match s with
  | c :: d :: rest =>
    if isAsciiDigit c then
      if isAsciiDigit d then some ([c, d], rest) else some ([c], d :: rest)
    else none
  | [c] => if isAsciiDigit c then some ([c], []) else none
  | [] => none

/-- The offset that ends a text, or its absence. -/
def stampOffset? (s : List Char) : Option (Option Int) := do
  match s.dropWhile fun c => c == ' ' || c == '\t' with
  | [] => if s.isEmpty then some none else none
  | ['Z'] => some (some 0)
  | sign :: rest =>
    let negative ← if sign = '-' then some true else if sign = '+' then some false else none
    let (hours, rest) ← shortRow? rest
    let minutes ←
      if rest.isEmpty then some 0
      else do
        let (minutes, rest) ← Instant.takeNumber? 2 (← Instant.expect? ':' rest)
        guard rest.isEmpty
        some minutes
    let span : Int := Literal.digitsValue hours * 60 + minutes
    some (some (if negative then -span else span))

/-- The time that follows a date, and the offset behind it. -/
def stampTime? (s : List Char) : Option ((Nat × Nat × Nat × List Char) × Option Int) := do
  let rest ←
    match s with
    | 'T' :: rest | 't' :: rest => some rest
    | c :: _ =>
      if c = ' ' ∨ c = '\t' then some (s.dropWhile fun c => c == ' ' || c == '\t') else none
    | [] => none
  let (hour, rest) ← shortRow? rest
  let (minute, rest) ← Instant.takeNumber? 2 (← Instant.expect? ':' rest)
  let (second, rest) ← Instant.takeNumber? 2 (← Instant.expect? ':' rest)
  let (fraction, rest) :=
    match rest with
    | '.' :: rest => (rest.takeWhile isAsciiDigit, rest.dropWhile isAsciiDigit)
    | rest => ([], rest)
  let offset ← stampOffset? rest
  return ((Literal.digitsValue hour, minute, second, fraction), offset)

/-- The date with or without a time that a text is. -/
def readStamp? (s : List Char) : Option Stamp := do
  let (year, rest) ← Instant.takeNumber? 4 s
  let (month, rest) ← shortRow? (← Instant.expect? '-' rest)
  let (day, rest) ← shortRow? (← Instant.expect? '-' rest)
  if rest.isEmpty then return ⟨year, month, day, none, none⟩
  else
    let (time, offset) ← stampTime? rest
    return ⟨year, month, day, some time, offset⟩

/-- Whether a text is a date of eight digits, or a date with a time. -/
def isStamp (s : List Char) : Bool :=
  (readStamp? s).any fun stamp =>
    stamp.time.isSome || (stamp.month.length = 2 && stamp.day.length = 2)

/-! ### Forms -/

namespace Tag

/-- The words for truth values. -/
def truthWords : List String :=
  ["yes", "Yes", "YES", "no", "No", "NO", "true", "True", "TRUE", "false", "False", "FALSE",
   "on", "On", "ON", "off", "Off", "OFF"]

/-- The words for the absent value. -/
def nullWords : List String := ["~", "null", "Null", "NULL"]

/-- The kind that a form shows.  A line end behind the form does not matter. -/
def ofPlain (s : String) : Tag :=
  let chars := s.toList
  let form := if chars.getLast? = some '\n' then chars.dropLast else chars
  let word := String.ofList form
  if s = "" ∨ nullWords.contains word then .null
  else if truthWords.contains word then .bool
  else if isFloat form then .float
  else if isInteger (dropSign form) then .int
  else if isStamp form then .timestamp
  else if word = "<<" then .merge
  else if word = "=" then .value
  else if word = "!" ∨ word = "&" ∨ word = "*" then .other
  else .str

/-- The start of the full names of the kinds. -/
def family : String := "tag:yaml.org,2002:"

/-- The kinds by the ends of their full names. -/
def named : List (String × Tag) :=
  [("null", .null), ("bool", .bool), ("int", .int), ("float", .float), ("binary", .binary),
   ("timestamp", .timestamp), ("omap", .omap), ("pairs", .pairs), ("set", .set), ("str", .str),
   ("seq", .seq), ("map", .map), ("merge", .merge), ("value", .value)]

/-- The kind with a full name. -/
def ofName (name : String) : Tag :=
  match named.find? fun entry => family ++ entry.1 == name with
  | some (_, tag) => tag
  | none => .other

end Tag

end MetricQuery.Document
