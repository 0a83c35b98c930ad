import MetricQuery.Datum.Written

/-!
# Exchange form of data

Values travel as texts of nested lists and maps in the usual exchange notation.  A number with a
fraction or an exponent is a binary number, any other an integer; maps keep the order of their
entries.

## Main definitions

* `Datum.ofExchange?` : the value written in a text.
* `Datum.exchanged` : the text of a value, in the characters of the basic set.
-/

namespace MetricQuery

namespace Exchange

/-! ### Reading -/

/-- Whether `c` may stand between the parts of a text. -/
def isGap (c : Char) : Bool :=
  c == ' ' || c == '\t' || c == '\n' || c == '\r'

/-- The value of four hexadecimal digits. -/
def unit? (a b c d : Char) : Option Nat :=
  [a, b, c, d].foldlM (fun n digit => (Text.hexValue? digit).map (16 * n + ·)) 0

/-- The character of a short escape. -/
def shortEscape? : Char → Option Char
  | '"' => some '"'
  | '\\' => some '\\'
  | '/' => some '/'
  | 'b' => some '\x08'
  | 'f' => some '\x0c'
  | 'n' => some '\n'
  | 'r' => some '\r'
  | 't' => some '\t'
  | _ => none

/-- The code units of a text up to its closing quote, and what follows the quote. -/
def units? : List Char → Option (List Nat × List Char)
  | [] => none
  | '"' :: rest => some ([], rest)
  | '\\' :: 'u' :: a :: b :: c :: d :: rest => do
    let unit ← unit? a b c d
    let (units, rest) ← units? rest
    return (unit :: units, rest)
  | '\\' :: c :: rest => do
    let plain ← shortEscape? c
    let (units, rest) ← units? rest
    return (plain.toNat :: units, rest)
  | c :: rest => do
    let (units, rest) ← units? rest
    return (c.toNat :: units, rest)

/-- The characters of code units: two units of a pair make one character. -/
def joinUnits : List Nat → List Char
  | [] => []
  | [unit] => [Char.ofNat unit]
  | high :: low :: rest =>
    if 0xD800 ≤ high ∧ high < 0xDC00 ∧ 0xDC00 ≤ low ∧ low < 0xE000 then
      Char.ofNat (0x10000 + (high - 0xD800) * 0x400 + (low - 0xDC00)) :: joinUnits rest
    else Char.ofNat high :: joinUnits (low :: rest)

/-- A number, which is binary if it has a fraction or an exponent. -/
def number? (s : List Char) : Option Datum :=
  if s.any fun c => c == '.' || c == 'e' || c == 'E' then
    (Literal.readBinary64? s).map Datum.float
  else
    let (negative, digits) := Literal.splitSign s
    if digits.isEmpty || !digits.all Text.isAsciiDigit then none
    else
      let n : Int := Literal.digitsValue digits
      some (.int (if negative then -n else n))

/-- Whether `c` may be part of a number. -/
def inNumber (c : Char) : Bool :=
  Text.isAsciiDigit c || c == '-' || c == '+' || c == '.' || c == 'e' || c == 'E'

mutual

/-- The value at the front of a text, and what follows it. -/
def value? : (fuel : Nat) → List Char → Option (Datum × List Char)
  | 0, _ => none
  | fuel + 1, s =>
    match s.dropWhile isGap with
    | 'n' :: 'u' :: 'l' :: 'l' :: rest => some (.null, rest)
    | 't' :: 'r' :: 'u' :: 'e' :: rest => some (.bool true, rest)
    | 'f' :: 'a' :: 'l' :: 's' :: 'e' :: rest => some (.bool false, rest)
    | '"' :: rest => (units? rest).map fun (units, rest) =>
        (.text (String.ofList (joinUnits units)), rest)
    | '[' :: rest =>
      match rest.dropWhile isGap with
      | ']' :: rest => some (.list [], rest)
      | _ => (items? fuel rest).map fun (items, rest) => (.list items, rest)
    | '\x7b' :: rest =>
      match rest.dropWhile isGap with
      | '\x7d' :: rest => some (.map [], rest)
      | _ => (entries? fuel rest).map fun (entries, rest) => (.map entries, rest)
    | s => (number? (s.takeWhile inNumber)).map fun d => (d, s.dropWhile inNumber)

/-- The items of a list up to its closing bracket. -/
def items? : (fuel : Nat) → List Char → Option (List Datum × List Char)
  | 0, _ => none
  | fuel + 1, s => do
    let (item, rest) ← value? fuel s
    match rest.dropWhile isGap with
    | ',' :: rest =>
      let (items, rest) ← items? fuel rest
      return (item :: items, rest)
    | ']' :: rest => return ([item], rest)
    | _ => none

/-- The entries of a map up to its closing brace. -/
def entries? : (fuel : Nat) → List Char → Option (List (Datum × Datum) × List Char)
  | 0, _ => none
  | fuel + 1, s => do
    let (key, rest) ← value? fuel s
    let rest ← Instant.expect? ':' (rest.dropWhile isGap)
    let (value, rest) ← value? fuel rest
    match rest.dropWhile isGap with
    | ',' :: rest =>
      let (entries, rest) ← entries? fuel rest
      return ((key, value) :: entries, rest)
    | '\x7d' :: rest => return ([(key, value)], rest)
    | _ => none

end

/-! ### Writing -/

/-- The escape of one code unit. -/
def unitEscape (unit : Nat) : List Char :=
  '\\' :: 'u' :: Text.hexDigits 4 unit

/-- A character inside a quoted text. -/
def escape (c : Char) : List Char :=
  match c with
  | '"' => ['\\', '"']
  | '\\' => ['\\', '\\']
  | '\n' => ['\\', 'n']
  | '\r' => ['\\', 'r']
  | '\t' => ['\\', 't']
  | '\x08' => ['\\', 'b']
  | '\x0c' => ['\\', 'f']
  | c =>
    if 0x20 ≤ c.toNat ∧ c.toNat < 0x7F then [c]
    else if c.toNat < 0x10000 then unitEscape c.toNat
    else
      let n := c.toNat - 0x10000
      unitEscape (0xD800 + n / 0x400) ++ unitEscape (0xDC00 + n % 0x400)

/-- A text between quotes. -/
def quoted (s : String) : String :=
  String.ofList ('"' :: s.toList.flatMap escape ++ ['"'])

/-- The text of a binary number. -/
def numberText : Binary64 → String
  | .nan => "NaN"
  | .infinite negative => if negative then "-Infinity" else "Infinity"
  | x => String.ofList x.text

end Exchange

/-- The value written in a text, if the text is well formed and holds nothing else. -/
def Datum.ofExchange? (s : String) : Option Datum := do
  let chars := s.toList
  let (d, rest) ← Exchange.value? (chars.length + 1) chars
  guard (rest.all Exchange.isGap)
  return d

namespace Datum

mutual

/-- The text of a value.  With `sorted`, the entries of maps stand in the order of their keys. -/
def exchangedBy (sorted : Bool) : Datum → String
  | scalar .null => "null"
  | scalar (.bool b) => if b then "true" else "false"
  | scalar (.int n) => toString n
  | scalar (.float x) => Exchange.numberText x
  | scalar (.text s) => Exchange.quoted s
  | list items => enclosed "[" "]" (exchangedItems sorted items)
  | map entries =>
    let parts := exchangedEntries sorted entries
    let ordered := if sorted then parts.mergeSort fun p q => p.1 ≤ q.1 else parts
    enclosed "\x7b" "\x7d" (ordered.map fun part => part.1 ++ ": " ++ part.2)
  | d => Exchange.quoted d.written

/-- The texts of the items of a list. -/
def exchangedItems (sorted : Bool) : List Datum → List String
  | [] => []
  | d :: rest => d.exchangedBy sorted :: exchangedItems sorted rest

/-- The texts of the keys and values of a map. -/
def exchangedEntries (sorted : Bool) : List (Datum × Datum) → List (String × String)
  | [] => []
  | (key, value) :: rest =>
    (Exchange.quoted key.written, value.exchangedBy sorted) :: exchangedEntries sorted rest

end

/-- The text of a value, with the entries of maps in their own order. -/
def exchanged (d : Datum) : String :=
  d.exchangedBy false

end Datum

end MetricQuery
