/-!
# Text of documents

A configuration document is read character by character.  A cursor stands in front of the rest of
the text and knows in which line and column it stands.

## Main definitions

* `isReadable` : the characters that a document may hold.
* `Cursor` : a place in a text.
* `Cursor.advance` : the place behind the next character.
* `Cursor.lineBreak` : the place behind a line end, and the line end as text.
-/

namespace MetricQuery.Document

/-! ### Characters -/

/-- Whether a character ends a line. -/
def isBreak (c : Char) : Bool :=
  c == '\n' || c == '\x85' || c == '\u2028' || c == '\u2029'

/-- Whether a character is a space, a tabulator or the end of a line. -/
def isGap (c : Char) : Bool :=
  c == ' ' || c == '\t' || isBreak c

/-- Whether a line or the text ends here. -/
def endsLine (next : Option Char) : Bool :=
  next.all isBreak

/-- Whether a space, a line end or the end of the text comes next. -/
def endsWord (next : Option Char) : Bool :=
  next.all fun c => c == ' ' || isBreak c

/-- Whether a gap or the end of the text comes next. -/
def endsMark (next : Option Char) : Bool :=
  next.all isGap

/-- Whether a character may be part of a name. -/
def isNameChar (c : Char) : Bool :=
  ('0' ≤ c && c ≤ '9') || ('A' ≤ c && c ≤ 'Z') || ('a' ≤ c && c ≤ 'z') || c == '-' || c == '_'

/-- Whether a document may hold a character. -/
def isReadable (c : Char) : Bool :=
  let n := c.toNat
  n = 0x09 || n = 0x0A || n = 0x0D || (0x20 ≤ n && n ≤ 0x7E) || n = 0x85 ||
    (0xA0 ≤ n && n ≤ 0xD7FF) || (0xE000 ≤ n && n ≤ 0xFFFD) || 0x10000 ≤ n

/-! ### Cursors -/

/-- A place in a text: what follows, and where it stands. -/
structure Cursor where
  rest : List Char
  column : Nat
  line : Nat
  index : Nat
deriving Repr, Inhabited

namespace Cursor

/-- The place in front of a text. -/
def start (text : List Char) : Cursor :=
  ⟨text, 0, 0, 0⟩

/-- The next character. -/
def peek (c : Cursor) : Option Char :=
  c.rest.head?

/-- The character behind the next `n` ones. -/
def peekAt (c : Cursor) (n : Nat) : Option Char :=
  c.rest[n]?

/-- The place behind the next character.  A byte order mark takes no column. -/
def advance (c : Cursor) : Cursor :=
  match c.rest with
  | [] => c
  | next :: rest =>
    if isBreak next then ⟨rest, 0, c.line + 1, c.index + 1⟩
    else ⟨rest, if next = '\ufeff' then c.column else c.column + 1, c.line, c.index + 1⟩

/-- The place behind the next `n` characters. -/
def advanceBy (c : Cursor) : Nat → Cursor
  | 0 => c
  | n + 1 => c.advance.advanceBy n

/-- The characters up to the first one that fails a test. -/
def run (c : Cursor) (p : Char → Bool) : List Char :=
  c.rest.takeWhile p

/-- The place in front of the first character that fails a test. -/
def skip (c : Cursor) (p : Char → Bool) : Cursor :=
  c.advanceBy (c.run p).length

/-- The place behind spaces. -/
def skipSpaces (c : Cursor) : Cursor :=
  c.skip (· == ' ')

/-- The place at the end of the line. -/
def skipLine (c : Cursor) : Cursor :=
  c.skip fun next => !isBreak next

/-- The place at the end of the line, if a comment starts here. -/
def skipComment (c : Cursor) : Cursor :=
  if c.peek == some '#' then c.skipLine else c

/-- A line end as text, empty if the line does not end here, and the place behind it. -/
def lineBreak (c : Cursor) : List Char × Cursor :=
  match c.peek with
  | some next =>
    if isBreak next then
      (if next = '\n' ∨ next = '\x85' then ['\n'] else [next], c.advance)
    else ([], c)
  | none => ([], c)

/-- Whether a document ends or starts here: three equal marks and a gap. -/
def atMarks (c : Cursor) (mark : Char) : Bool :=
  c.rest.take 3 == [mark, mark, mark] && endsMark (c.peekAt 3)

/-- Whether a document ends or starts here, with dashes or with points. -/
def atSeparator (c : Cursor) : Bool :=
  c.atMarks '-' || c.atMarks '.'

/-- The place behind spaces, up to a column. -/
def skipIndent (column : Nat) (c : Cursor) : Cursor :=
  c.advanceBy (min (c.run (· == ' ')).length (column - c.column))

end Cursor

end MetricQuery.Document
