import MetricQuery.Keyed
import MetricQuery.Text.Blank
import MetricQuery.Text.Lines

/-!
# Assignment files

Settings may come from a file of assignments, one to a line: a name, an equals sign and a value.
A value may be quoted and then run over several lines; references of the form `$` and braces around
a name are replaced by what the name stands for.  A line of another form is skipped.

## Main definitions

* `EnvFile.assignments` : the assignments of a file in their order.
* `EnvFile.expand` : a value with its references replaced.
* `EnvFile.read` : the values of a file by name.
-/

namespace MetricQuery.EnvFile

open Text

/-- An assignment; a name may stand without a value. -/
abbrev Assignment := List Char × Option (List Char)

/-- Whether `c` is blank and does not end a line. -/
def isInlineBlank (c : Char) : Bool :=
  isBlank c && c != '\n'

/-- The rest of the text behind the end of the line. -/
def nextLine (s : List Char) : List Char :=
  (s.dropWhile (· != '\n')).drop 1

/-! ### Names -/

/-- The text without the word that marks an assignment for other programs. -/
def dropExport : List Char → List Char
  | 'e' :: 'x' :: 'p' :: 'o' :: 'r' :: 't' :: c :: rest =>
    if isInlineBlank c then rest.dropWhile isInlineBlank
    else 'e' :: 'x' :: 'p' :: 'o' :: 'r' :: 't' :: c :: rest
  | s => s

/-- The name at the front of a text, and what follows: none in a comment, quoted or bare
otherwise. -/
def readName? (s : List Char) : Option (Option (List Char) × List Char) :=
  match s with
  | '#' :: _ => some (none, s)
  | '\'' :: rest =>
    match rest.takeWhile (· != '\''), rest.dropWhile (· != '\'') with
    | _ :: _, '\'' :: rest' => some (some (rest.takeWhile (· != '\'')), rest')
    | _, _ => none
  | _ =>
    let inName (c : Char) : Bool := c != '=' && c != '#' && !isBlank c
    match s.takeWhile inName with
    | [] => none
    | name => some (some name, s.dropWhile inName)

/-! ### Values -/

/-- The text up to a closing quote and the text behind it.  A quote after a backslash closes only
if no other one does; then the last such quote closes. -/
def splitQuoted? (quote : Char) (afterSlash : Bool) :
    List Char → Option (List Char × List Char)
  | [] => none
  | c :: rest =>
    if c = quote ∧ !afterSlash then some ([], rest)
    else
      match splitQuoted? quote (c == '\\') rest with
      | some (value, after) => some (c :: value, after)
      | none => if c = quote then some ([], rest) else none

/-- A quoted value with the escapes of `unescape?` replaced. -/
def unescape (unescape? : Char → Option Char) : List Char → List Char
  | '\\' :: c :: rest =>
    match unescape? c with
    | some d => d :: unescape unescape? rest
    | none => '\\' :: unescape unescape? (c :: rest)
  | c :: rest => c :: unescape unescape? rest
  | [] => []

/-- The escapes between single quotes. -/
def singleEscape? (c : Char) : Option Char :=
  if c = '\\' ∨ c = '\'' then some c else none

/-- The escapes between double quotes. -/
def doubleEscape? : Char → Option Char
  | '\\' => some '\\'
  | '\'' => some '\''
  | '"' => some '"'
  | 'a' => some '\x07'
  | 'b' => some '\x08'
  | 'f' => some '\x0c'
  | 'n' => some '\n'
  | 'r' => some '\r'
  | 't' => some '\t'
  | 'v' => some '\x0b'
  | _ => none

/-- The part of a bare value in front of a comment, which starts with blanks and a number sign. -/
def dropComment (s : List Char) : List Char :=
  match s with
  | [] => []
  | c :: rest =>
    if isBlank c && (s.dropWhile isBlank).head? == some '#' then [] else c :: dropComment rest

/-- The value behind the equals sign, and what follows. -/
def readValue? (s : List Char) : Option (List Char × List Char) :=
  match s with
  | '\'' :: rest => (splitQuoted? '\'' false rest).map fun (value, after) =>
      (unescape singleEscape? value, after)
  | '"' :: rest => (splitQuoted? '"' false rest).map fun (value, after) =>
      (unescape doubleEscape? value, after)
  | _ =>
    let bare := s.takeWhile (· != '\n')
    some (((dropComment bare).reverse.dropWhile isBlank).reverse, s.drop bare.length)

/-! ### Lines -/

/-- The rest of the text behind a comment and the end of the line, if nothing else comes before. -/
def endOfLine? (s : List Char) : Option (List Char) :=
  let s := s.dropWhile isInlineBlank
  let s := if s.head? == some '#' then s.dropWhile (· != '\n') else s
  match s with
  | [] => some []
  | '\n' :: rest => some rest
  | _ => none

/-- The assignment at the front of a text, none in a comment or a line of another form, and the
text behind its line. -/
def readLine (s : List Char) : Option Assignment × List Char :=
  match readName? (dropExport s) with
  | none => (none, nextLine (dropExport s))
  | some (name, rest) =>
    let rest := rest.dropWhile isInlineBlank
    let value :=
      match rest with
      | '=' :: rest =>
        (readValue? (rest.dropWhile isInlineBlank)).map fun (value, after) => (some value, after)
      | _ => some (none, rest)
    match value with
    | none => (none, nextLine rest)
    | some (value, after) =>
      match endOfLine? after with
      | none => (none, nextLine after)
      | some following => (name.map fun name => (name, value), following)

/-- The assignments of a text.  Each line takes at least one character, so the length of the text
bounds their number. -/
def assignmentsWithin : (fuel : Nat) → List Char → List Assignment
  | 0, _ => []
  | fuel + 1, s =>
    match s.dropWhile isBlank with
    | [] => []
    | s =>
      let (assignment, rest) := readLine s
      assignment.toList ++ assignmentsWithin fuel rest

/-- The assignments of a file in their order. -/
def assignments (content : String) : List Assignment :=
  let lines := normalLines content.toList
  assignmentsWithin lines.length lines

/-! ### References -/

/-- A reference at the front of a text, without its opening: the name, the default if there is one,
and what follows. -/
def readReference? (s : List Char) : Option (List Char × List Char × List Char) :=
  let inName (c : Char) : Bool := c != '\x7d' && c != ':'
  let name := s.takeWhile inName
  match s.dropWhile inName with
  | '\x7d' :: rest => some (name, [], rest)
  | ':' :: '-' :: rest =>
    match rest.dropWhile (· != '\x7d') with
    | '\x7d' :: after => some (name, rest.takeWhile (· != '\x7d'), after)
    | _ => none
  | _ => none

/-- A value with its references replaced by what `lookup` gives, else by their defaults. -/
def expandWithin (lookup : List Char → Option (List Char)) :
    (fuel : Nat) → List Char → List Char
  | 0, s => s
  | _, [] => []
  | fuel + 1, '$' :: '\x7b' :: rest =>
    match readReference? rest with
    | some (name, default, after) =>
      (lookup name).getD default ++ expandWithin lookup fuel after
    | none => '$' :: expandWithin lookup fuel ('\x7b' :: rest)
  | fuel + 1, c :: rest => c :: expandWithin lookup fuel rest

/-- A value with its references replaced by what `lookup` gives, else by their defaults. -/
def expand (lookup : List Char → Option (List Char)) (s : List Char) : List Char :=
  expandWithin lookup s.length s

/-- The values of a file by name, none for a name without a value.  A reference stands for a value
that the file assigns before, else for the value in the environment. -/
def read (environment : Keyed String String) (content : String) :
    Keyed String (Option String) :=
  (assignments content).foldl (fun values (name, value) =>
    let lookup (name : List Char) : Option (List Char) :=
      match values.get? (String.ofList name) with
      | some assigned => some ((assigned.getD "").toList)
      | none => (environment.get? (String.ofList name)).map String.toList
    values.put (String.ofList name) (value.map fun value => String.ofList (expand lookup value))) []

end MetricQuery.EnvFile
