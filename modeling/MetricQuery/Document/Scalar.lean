import MetricQuery.Document.Token
import MetricQuery.Text.Digit

/-!
# Scalars of documents

The text of a scalar stands in a block of its own, between quotes, or plainly between the marks of
its surroundings.  In all three forms line ends inside a scalar may be folded into spaces.

## Main definitions

* `blockScalar?` : a scalar in a block, behind its mark.
* `quotedScalar` : a scalar between quotes.
* `plainScalar` : a scalar without quotes.
-/

namespace MetricQuery.Document

/-! ### Blocks -/

/-- What the sign in a header says about the line ends behind a block: keep them or drop them. -/
def keepMark? : Option Char → Option Bool
  | some '+' => some true
  | some '-' => some false
  | _ => none

/-- The digit of a header. -/
def indentMark? (next : Option Char) : Option Nat :=
  next.bind fun c => if Text.isAsciiDigit c then some (c.toNat - '0'.toNat) else none

/-- The header of a block: whether line ends behind it are kept or dropped, its indentation, and the
place behind. -/
def blockHeader (c : Cursor) : Option Bool × Option Nat × Cursor :=
  match keepMark? c.peek with
  | some keep =>
    match indentMark? c.advance.peek with
    | some n => (some keep, some n, c.advance.advance)
    | none => (some keep, none, c.advance)
  | none =>
    match indentMark? c.peek with
    | some n =>
      match keepMark? c.advance.peek with
      | some keep => (some keep, some n, c.advance.advance)
      | none => (none, some n, c.advance)
    | none => (none, none, c)

/-- The line ends among the leading gap of a block, the widest column in it, and the place behind
it. -/
def leadingGap : (gap : List Char) → Cursor → List Char × Nat × Cursor
  | [], c => ([], 0, c)
  | ' ' :: rest, c =>
    let (breaks, width, after) := leadingGap rest c.advance
    (breaks, max c.advance.column width, after)
  | _ :: rest, c =>
    let (ending, c) := c.lineBreak
    let (breaks, width, after) := leadingGap rest c
    (ending ++ breaks, width, after)

/-- The line ends in front of the next line of a block, and the place at its indentation. -/
def blockBreaks (indent : Nat) : (fuel : Nat) → Cursor → List Char × Cursor
  | 0, c => ([], c)
  | fuel + 1, c =>
    let c := c.skipIndent indent
    match c.lineBreak with
    | ([], c) => ([], c)
    | (ending, c) =>
      let (breaks, c) := blockBreaks indent fuel c
      (ending ++ breaks, c)

/-- Whether a line of a block starts here. -/
def startsLine (indent : Nat) (c : Cursor) : Bool :=
  c.column = indent && c.peek.isSome

/-- Whether a space or a tabulator comes next. -/
def startsBlank (c : Cursor) : Bool :=
  c.peek.any fun next => next == ' ' || next == '\t'

/-- The lines of a block: their text, the end of the last one, the line ends behind it, and the
place behind them.  In a folded block a single line end between lines of text becomes a space. -/
def blockLines (folded : Bool) (indent : Nat) :
    (fuel : Nat) → Cursor → (breaks : List Char) → List Char × List Char × List Char × Cursor
  | 0, c, breaks => ([], [], breaks, c)
  | fuel + 1, c, breaks =>
    if !startsLine indent c then ([], [], breaks, c)
    else
      let line := c.run fun next => !isBreak next
      let (ending, after) := (c.advanceBy line.length).lineBreak
      let (breaks', after) := blockBreaks indent (after.rest.length + 1) after
      if startsLine indent after then
        let folds := folded && ending == ['\n'] && !startsBlank c && !startsBlank after
        let joint := if !folds then ending else if breaks'.isEmpty then [' '] else []
        let (text, rest) := blockLines folded indent fuel after breaks'
        (breaks ++ line ++ joint ++ text, rest)
      else (breaks ++ line, ending, breaks', after)

/-- A scalar in a block, behind its mark, for the indentation of the surrounding block. -/
def blockScalar? (folded : Bool) (outer : Int) (c : Cursor) : Option (List Char × Cursor) := do
  let (keep, increment, c) := blockHeader c
  guard (increment ≠ some 0 ∧ endsWord c.peek)
  let c := c.skipSpaces.skipComment
  guard (endsLine c.peek)
  let c := c.lineBreak.2
  let least := max 1 (outer + 1).toNat
  let (indent, breaks, c) :=
    match increment with
    | some n =>
      let indent := least + n - 1
      (indent, blockBreaks indent (c.rest.length + 1) c)
    | none =>
      let (breaks, width, c) := leadingGap (c.run fun next => next == ' ' || isBreak next) c
      (max least width, breaks, c)
  let (text, ending, breaks, c) := blockLines folded indent (c.rest.length + 1) c breaks
  let text := if keep = some false then text else text ++ ending
  return (if keep = some true then text ++ breaks else text, c)

/-! ### Quotes -/

/-- The character of a short escape. -/
def shortEscape? : Char → Option Char
  | '0' => some '\x00'
  | 'a' => some '\x07'
  | 'b' => some '\x08'
  | 't' => some '\t'
  | '\t' => some '\t'
  | 'n' => some '\n'
  | 'v' => some '\x0b'
  | 'f' => some '\x0c'
  | 'r' => some '\r'
  | 'e' => some '\x1b'
  | ' ' => some ' '
  | '"' => some '"'
  | '\\' => some '\\'
  | '/' => some '/'
  | 'N' => some '\x85'
  | '_' => some '\xa0'
  | 'L' => some '\u2028'
  | 'P' => some '\u2029'
  | _ => none

/-- The count of hexadecimal digits behind the mark of a long escape. -/
def escapeWidth? : Char → Option Nat
  | 'x' => some 2
  | 'u' => some 4
  | 'U' => some 8
  | _ => none

/-- The number made of exactly `width` hexadecimal digits at the front of a text. -/
def hexNumber? (width : Nat) (s : List Char) : Option Nat := do
  let digits ← (s.take width).mapM Text.hexValue?
  guard (digits.length = width)
  return digits.foldl (fun n digit => 16 * n + digit) 0

/-- The character of a long escape, and the place behind it.  Two escapes of halves are not joined
to one character. -/
def longEscape (width : Nat) (c : Cursor) : Except DocumentFault (List Char × Cursor) :=
  match hexNumber? width c.rest with
  | none => .error .malformed
  | some code =>
    if 0x10FFFF < code then .error (.characterCode code)
    else if 0xD800 ≤ code ∧ code < 0xE000 then .error (.halfCharacter code)
    else .ok ([Char.ofNat code], c.advanceBy width)

/-- The line ends and the gaps behind a line end inside quotes.  A document must not end there. -/
def quotedBreaks : (fuel : Nat) → Cursor → Except DocumentFault (List Char × Cursor)
  | 0, c => .ok ([], c)
  | fuel + 1, c => do
    if c.atSeparator then throw .malformed
    let c := c.skip fun next => next == ' ' || next == '\t'
    match c.lineBreak with
    | ([], c) => return ([], c)
    | (ending, c) =>
      let (breaks, c) ← quotedBreaks fuel c
      return (ending ++ breaks, c)

/-- An escape behind its backslash, and the place behind it.  An escaped line end counts for
nothing. -/
def escape (c : Cursor) : Except DocumentFault (List Char × Cursor) :=
  match c.peek with
  | none => .error .malformed
  | some next =>
    match shortEscape? next, escapeWidth? next with
    | some plain, _ => .ok ([plain], c.advance)
    | none, some width => longEscape width c.advance
    | none, none =>
      if isBreak next then quotedBreaks (c.rest.length + 1) c.lineBreak.2
      else .error .malformed

/-- Whether a character may stand for itself between quotes. -/
def isQuotedPlain (c : Char) : Bool :=
  !(c == '\'' || c == '"' || c == '\\' || isGap c)

/-- The characters of a quoted scalar up to a gap, the end of the text or the closing quote. -/
def quotedRun (double : Bool) : (fuel : Nat) → Cursor → Except DocumentFault (List Char × Cursor)
  | 0, c => .ok ([], c)
  | fuel + 1, c => do
    let word := c.run isQuotedPlain
    let c := c.advanceBy word.length
    let more (part : List Char) (c : Cursor) : Except DocumentFault (List Char × Cursor) := do
      let (text, c) ← quotedRun double fuel c
      return (word ++ part ++ text, c)
    match c.peek with
    | some '\'' =>
      if double then more ['\''] c.advance
      else if c.peekAt 1 == some '\'' then more ['\''] (c.advanceBy 2)
      else return (word, c)
    | some '"' => if double then return (word, c) else more ['"'] c.advance
    | some '\\' =>
      if double then
        let (part, c) ← escape c.advance
        more part c
      else more ['\\'] c.advance
    | _ => return (word, c)

/-- A gap inside quotes: spaces as they are, a single line end as a space. -/
def quotedGap (c : Cursor) : Except DocumentFault (List Char × Cursor) := do
  let gap := c.run fun next => next == ' ' || next == '\t'
  let c := c.advanceBy gap.length
  match c.peek with
  | none => throw .malformed
  | some next =>
    if !isBreak next then return (gap, c)
    let (ending, c) := c.lineBreak
    let (breaks, c) ← quotedBreaks (c.rest.length + 1) c
    let joint := if ending ≠ ['\n'] then ending else if breaks.isEmpty then [' '] else []
    return (joint ++ breaks, c)

/-- The parts of a quoted scalar up to the closing quote. -/
def quotedParts (double : Bool) : (fuel : Nat) → Cursor → Except DocumentFault (List Char × Cursor)
  | 0, _ => .error .malformed
  | fuel + 1, c => do
    let (text, c) ← quotedRun double (c.rest.length + 1) c
    if c.peek == some (if double then '"' else '\'') then return (text, c.advance)
    let (gap, c) ← quotedGap c
    let (more, c) ← quotedParts double fuel c
    return (text ++ gap ++ more, c)

/-- A scalar between quotes, and the place behind it. -/
def quotedScalar (double : Bool) (c : Cursor) : Except DocumentFault (List Char × Cursor) :=
  quotedParts double (c.rest.length + 1) c.advance

/-! ### Plain scalars -/

/-- Whether a character is a mark of structures in brackets. -/
def isFlowMark (c : Char) : Bool :=
  c == ',' || c == '[' || c == ']' || c == '\x7b' || c == '\x7d'

/-- The characters of a plain scalar up to a gap or a mark. -/
def plainRun (inFlow : Bool) : List Char → List Char
  | [] => []
  | c :: rest =>
    let endsKey := c == ':' &&
      (endsMark rest.head? || (inFlow && rest.head?.any isFlowMark))
    if isGap c || endsKey || (inFlow && (isFlowMark c || c == '?')) then []
    else c :: plainRun inFlow rest

/-- The line ends behind a line end in a plain scalar, none if a document ends there, and the place
behind. -/
def plainBreaks : (fuel : Nat) → Cursor → Option (List Char) × Cursor
  | 0, c => (some [], c)
  | fuel + 1, c =>
    if c.atSeparator then (none, c)
    else
      let c := c.skipSpaces
      match c.lineBreak with
      | ([], c) => (some [], c)
      | (ending, c) =>
        let (breaks, c) := plainBreaks fuel c
        (breaks.map (ending ++ ·), c)

/-- A gap in a plain scalar as text, empty if the scalar ends, the place behind it, and whether it
holds a line end. -/
def plainGap (c : Cursor) : List Char × Cursor × Bool :=
  let gap := c.run (· == ' ')
  match (c.advanceBy gap.length).lineBreak with
  | ([], c) => (gap, c, false)
  | (ending, c) =>
    match plainBreaks (c.rest.length + 1) c with
    | (none, c) => ([], c, true)
    | (some breaks, c) =>
      let joint := if ending ≠ ['\n'] then ending else if breaks.isEmpty then [' '] else []
      (joint ++ breaks, c, true)

/-- The parts of a plain scalar behind a gap, the place behind it, and whether that place follows a
line end. -/
def plainParts (inFlow : Bool) (indent : Int) :
    (fuel : Nat) → Cursor → (gap : List Char) → (crossed : Bool) → List Char × Cursor × Bool
  | 0, c, _, crossed => ([], c, crossed)
  | fuel + 1, c, gap, crossed =>
    match if c.peek == some '#' then [] else plainRun inFlow c.rest with
    | [] => ([], c, crossed)
    | word =>
      let (gap', c, crossed) := plainGap (c.advanceBy word.length)
      if gap'.isEmpty || c.peek == some '#' || (!inFlow && (c.column : Int) < indent) then
        (gap ++ word, c, crossed)
      else
        let (text, rest) := plainParts inFlow indent fuel c gap' crossed
        (gap ++ word ++ text, rest)

/-- A scalar without quotes, the place behind it, and whether that place follows a line end. -/
def plainScalar (inFlow : Bool) (indent : Int) (c : Cursor) : List Char × Cursor × Bool :=
  plainParts inFlow indent (c.rest.length + 1) c [] false

end MetricQuery.Document
