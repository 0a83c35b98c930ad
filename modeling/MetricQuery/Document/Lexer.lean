import MetricQuery.Document.Scalar

/-!
# Tokens of a text

The tokens of a text depend on columns: an indented line opens a structure and a line further to the
left closes it.  Whether a scalar is a key is known only when a colon follows it, so its place among
the tokens is remembered until then.

## Main definitions

* `SimpleKey` : the place of a token that may turn out to start a key.
* `Lexer` : the tokens read so far, and what the rest of the text is read with.
* `Lexer.step` : the next token with the marks that its column calls for.
* `tokens` : the tokens of a text.
-/

namespace MetricQuery.Document

/-- The place of a token that may turn out to start a key. -/
structure SimpleKey where
  /-- The count of tokens in front of it. -/
  position : Nat
  /-- Whether it has to be a key, since it stands where the keys of a structure do. -/
  isRequired : Bool
  index : Nat
  line : Nat
  column : Nat
deriving Repr

/-- The tokens read so far, and what the rest of the text is read with. -/
structure Lexer where
  cursor : Cursor
  /-- The count of open brackets. -/
  flowDepth : Nat
  /-- The column of the innermost structure in block form, `-1` outside all. -/
  indent : Int
  /-- The columns of the structures around it. -/
  outerIndents : List Int
  /-- Whether a key may start at the next token. -/
  allowsKey : Bool
  /-- The possible keys at each depth of brackets, the innermost first. -/
  keys : List (Nat × SimpleKey)
  /-- The tokens, the last one first. -/
  reversed : List Token
  /-- The count of tokens. -/
  count : Nat
  isDone : Bool

namespace Lexer

/-- A lexer in front of a text. -/
def start (text : List Char) : Lexer :=
  ⟨Cursor.start text, 0, -1, [], true, [], [], 0, false⟩

/-- Whether the text is read in block form. -/
def inBlock (l : Lexer) : Bool :=
  l.flowDepth = 0

/-- The column of the next character. -/
def column (l : Lexer) : Int :=
  l.cursor.column

/-- A token is added behind the others. -/
def push (l : Lexer) (t : Token) : Lexer :=
  { l with reversed := t :: l.reversed, count := l.count + 1 }

/-- A token is added behind the first `position` ones. -/
def insert (l : Lexer) (position : Nat) (t : Token) : Lexer :=
  let behind := l.count - position
  { l with
    reversed := l.reversed.take behind ++ t :: l.reversed.drop behind
    count := l.count + 1 }

/-- The lexer at another place. -/
def moveTo (l : Lexer) (c : Cursor) : Lexer :=
  { l with cursor := c }

/-! ### Possible keys -/

/-- The possible key at the current depth of brackets. -/
def key? (l : Lexer) : Option SimpleKey :=
  (l.keys.find? (·.1 == l.flowDepth)).map (·.2)

/-- The possible key at the current depth of brackets is given up; a required one must not be. -/
def dropKey (l : Lexer) : Except DocumentFault Lexer :=
  match l.key? with
  | none => .ok l
  | some key =>
    if key.isRequired then .error .malformed
    else .ok { l with keys := l.keys.filter (·.1 != l.flowDepth) }

/-- The next token is remembered as a possible key, if one may start. -/
def saveKey (l : Lexer) : Except DocumentFault Lexer :=
  if !l.allowsKey then .ok l
  else do
    let l ← l.dropKey
    let required := l.inBlock && l.indent = l.column
    let key : SimpleKey := ⟨l.count, required, l.cursor.index, l.cursor.line, l.cursor.column⟩
    return { l with keys := (l.flowDepth, key) :: l.keys }

/-- The longest text that a key without a mark of its own may have. -/
def maxKeyLength : Nat := 1024

/-- Whether a possible key stands in an earlier line, or too far back. -/
def isStale (l : Lexer) (key : SimpleKey) : Bool :=
  key.line != l.cursor.line || maxKeyLength < l.cursor.index - key.index

/-- Possible keys in an earlier line, or too far back, are given up. -/
def dropStaleKeys (l : Lexer) : Except DocumentFault Lexer :=
  if l.keys.any fun (_, key) => l.isStale key && key.isRequired then .error .malformed
  else .ok { l with keys := l.keys.filter fun (_, key) => !l.isStale key }

/-- The count of tokens in front of the first possible key.  No later token comes in between. -/
def settledCount (l : Lexer) : Nat :=
  let fresh := l.keys.filter fun (_, key) => !l.isStale key
  fresh.foldl (fun n (_, key) => min n key.position) l.count

/-! ### Columns -/

/-- Structures in block form further to the right than a column are closed. -/
def closeTo (l : Lexer) (column : Int) : List Int → Lexer
  | [] => l
  | outer :: rest =>
    if l.inBlock && column < l.indent then
      closeTo { l.push .blockEnd with indent := outer, outerIndents := rest } column rest
    else l

/-- Structures in block form further to the right than a column are closed. -/
def unwind (l : Lexer) (column : Int) : Lexer :=
  l.closeTo column l.outerIndents

/-- A structure in block form is opened at a column behind the first `position` tokens, unless one
is open there. -/
def openAt (l : Lexer) (column : Int) (position : Nat) (t : Token) : Lexer :=
  if l.inBlock && l.indent < column then
    { l.insert position t with indent := column, outerIndents := l.indent :: l.outerIndents }
  else l

/-! ### Gaps -/

/-- The place of the next token, behind spaces, comments and line ends, and whether a line end was
crossed. -/
def nextPlace : (fuel : Nat) → Cursor → (crossed : Bool) → Cursor × Bool
  | 0, c, crossed => (c, crossed)
  | fuel + 1, c, crossed =>
    match c.skipSpaces.skipComment.lineBreak with
    | ([], c) => (c, crossed)
    | (_, c) => nextPlace fuel c true

/-- The lexer at the next token. -/
def skipGap (l : Lexer) : Lexer :=
  let c := l.cursor
  let c := if c.index = 0 ∧ c.peek = some '\ufeff' then c.advance else c
  let (c, crossed) := nextPlace (c.rest.length + 1) c false
  { l with cursor := c, allowsKey := l.allowsKey || (crossed && l.inBlock) }

/-! ### Marks -/

/-- The end of the text. -/
def atEnd (l : Lexer) : Except DocumentFault Lexer := do
  let l ← (l.unwind (-1)).dropKey
  return { l.push .streamEnd with allowsKey := false, keys := [], isDone := true }

/-- A mark at which a document starts or ends. -/
def atDocumentMark (l : Lexer) (t : Token) : Except DocumentFault Lexer := do
  let l ← (l.unwind (-1)).dropKey
  return { (l.moveTo (l.cursor.advanceBy 3)).push t with allowsKey := false }

/-- An opening bracket. -/
def atOpening (l : Lexer) (t : Token) : Except DocumentFault Lexer := do
  let l ← l.saveKey
  return { (l.moveTo l.cursor.advance).push t with flowDepth := l.flowDepth + 1, allowsKey := true }

/-- A closing bracket.  The depth of brackets does not fall below zero, since the row of tokens is
faulty then. -/
def atClosing (l : Lexer) (t : Token) : Except DocumentFault Lexer := do
  let l ← l.dropKey
  let l := (l.moveTo l.cursor.advance).push t
  return { l with flowDepth := l.flowDepth - 1, allowsKey := false }

/-- A comma between brackets. -/
def atFlowEntry (l : Lexer) : Except DocumentFault Lexer := do
  let l ← l.dropKey
  return { (l.moveTo l.cursor.advance).push .flowEntry with allowsKey := true }

/-- A dash in front of an item. -/
def atBlockEntry (l : Lexer) : Except DocumentFault Lexer := do
  if l.inBlock && !l.allowsKey then throw .malformed
  let l ← (l.openAt l.column l.count .blockSequenceStart).dropKey
  return { (l.moveTo l.cursor.advance).push .blockEntry with allowsKey := true }

/-- A question mark in front of a key. -/
def atKey (l : Lexer) : Except DocumentFault Lexer := do
  if l.inBlock && !l.allowsKey then throw .malformed
  let l ← (l.openAt l.column l.count .blockMappingStart).dropKey
  return { (l.moveTo l.cursor.advance).push .key with allowsKey := l.inBlock }

/-- A colon in front of a value.  It makes a key of the possible key in front of it. -/
def atValue (l : Lexer) : Except DocumentFault Lexer := do
  match l.key? with
  | some key =>
    let l := { l with keys := l.keys.filter (·.1 != l.flowDepth) }
    let l := (l.insert key.position .key).openAt key.column key.position .blockMappingStart
    return { (l.moveTo l.cursor.advance).push .value with allowsKey := false }
  | none =>
    if l.inBlock && !l.allowsKey then throw .malformed
    let l ← (l.openAt l.column l.count .blockMappingStart).dropKey
    return { (l.moveTo l.cursor.advance).push .value with allowsKey := l.inBlock }

/-! ### Names -/

/-- A name behind its mark. -/
def atName (l : Lexer) (token : String → Token) : Except DocumentFault Lexer := do
  let l ← l.saveKey
  let c := l.cursor.advance
  let name := c.run isNameChar
  let c := c.advanceBy name.length
  let follows (next : Char) : Bool := isGap next || "?:,]\x7d%@`".toList.contains next
  if name.isEmpty || !c.peek.all follows then throw .malformed
  return { (l.moveTo c).push (token (String.ofList name)) with allowsKey := false }

/-- Whether a character may be part of a tag. -/
def isTagChar (c : Char) : Bool :=
  isNameChar c || ";/?:@&=+$,_.!~*'()[]".toList.contains c

/-- The number of a byte that is written as a percent sign and two hexadecimal digits. -/
def escapedByte? : List Char → Option UInt8
  | '%' :: a :: b :: _ => do return UInt8.ofNat (16 * (← Text.hexValue? a) + (← Text.hexValue? b))
  | _ => none

/-- The bytes at the front of a text that are written with percent signs. -/
def escapedBytes? : (fuel : Nat) → List Char → Option (List UInt8)
  | 0, _ => some []
  | fuel + 1, s =>
    if s.head? = some '%' then do
      let byte ← escapedByte? s
      return byte :: (← escapedBytes? fuel (s.drop 3))
    else some []

/-- The text of a tag at the front of a text, and the place behind it. -/
def tagText? : (fuel : Nat) → Cursor → Option (List Char × Cursor)
  | 0, c => some ([], c)
  | fuel + 1, c =>
    match c.peek with
    | none => some ([], c)
    | some next =>
      if next = '%' then do
        let bytes ← escapedBytes? (c.rest.length + 1) c.rest
        let part ← String.fromUTF8? ⟨bytes.toArray⟩
        let (text, c) ← tagText? fuel (c.advanceBy (3 * bytes.length))
        return (part.toList ++ text, c)
      else if isTagChar next then do
        let (text, c) ← tagText? fuel c.advance
        return (next :: text, c)
      else some ([], c)

/-- The text of a tag, which is not empty. -/
def tagName (c : Cursor) : Except DocumentFault (String × Cursor) :=
  match tagText? (c.rest.length + 1) c with
  | none => .error .malformed
  | some (text, after) =>
    if after.index = c.index then .error .malformed else .ok (String.ofList text, after)

/-- The handle of a tag: a name between exclamation marks, or one such mark. -/
def tagHandle (c : Cursor) : Except DocumentFault (String × Cursor) :=
  if c.peek ≠ some '!' then .error .malformed
  else if c.peekAt 1 = some ' ' then .ok ("!", c.advance)
  else
    let name := c.advance.run isNameChar
    if c.peekAt (name.length + 1) = some '!' then
      .ok (String.ofList ('!' :: name ++ ['!']), c.advanceBy (name.length + 2))
    else .error .malformed

/-- The handle and the name of a tag, and the place behind it. -/
def readTag (c : Cursor) : Except DocumentFault (Token × Cursor) := do
  if c.peekAt 1 == some '<' then
    let (name, c) ← tagName (c.advanceBy 2)
    if c.peek ≠ some '>' then throw .malformed
    return (.tag none name, c.advance)
  else if endsMark (c.peekAt 1) then return (.tag none "!", c.advance)
  else
    let word := c.advance.run fun next => !(next == ' ' || isBreak next || next == '!')
    let hasHandle := c.peekAt (word.length + 1) == some '!'
    let (handle, c) ← if hasHandle then tagHandle c else pure ("!", c.advance)
    let (name, c) ← tagName c
    return (.tag (some handle) name, c)

/-- A tag. -/
def atTag (l : Lexer) : Except DocumentFault Lexer := do
  let l ← l.saveKey
  let (t, c) ← readTag l.cursor
  if !endsWord c.peek then throw .malformed
  return { (l.moveTo c).push t with allowsKey := false }

/-! ### Directives -/

/-- The digits of a version, of which there is at least one. -/
def versionNumber (c : Cursor) : Except DocumentFault (Nat × Cursor) :=
  let digits := c.run Text.isAsciiDigit
  if digits.isEmpty then .error .malformed
  else .ok (digits.foldl (fun n d => 10 * n + (d.toNat - '0'.toNat)) 0, c.advanceBy digits.length)

/-- The version that a document is written in. -/
def versionDirective (c : Cursor) : Except DocumentFault (Directive × Cursor) := do
  let (major, c) ← versionNumber c.skipSpaces
  if c.peek ≠ some '.' then throw .malformed
  let (_, c) ← versionNumber c.advance
  if !endsWord c.peek then throw .malformed
  return (.version major, c)

/-- What a handle stands for. -/
def handleDirective (c : Cursor) : Except DocumentFault (Directive × Cursor) := do
  let (name, c) ← tagHandle c.skipSpaces
  if c.peek ≠ some ' ' then throw .malformed
  let (start, c) ← tagName c.skipSpaces
  if !endsWord c.peek then throw .malformed
  return (.handle name start, c)

/-- A directive behind its mark, and the place behind its line. -/
def readDirective (c : Cursor) : Except DocumentFault (Directive × Cursor) := do
  let name := c.run isNameChar
  let c := c.advanceBy name.length
  if name.isEmpty || !endsWord c.peek then throw .malformed
  let (d, c) ←
    match String.ofList name with
    | "YAML" => versionDirective c
    | "TAG" => handleDirective c
    | _ => pure (Directive.other, c.skipLine)
  let c := c.skipSpaces.skipComment
  if !endsLine c.peek then throw .malformed
  return (d, c.lineBreak.2)

/-- A directive. -/
def atDirective (l : Lexer) : Except DocumentFault Lexer := do
  let l ← (l.unwind (-1)).dropKey
  let (d, c) ← readDirective l.cursor.advance
  return { (l.moveTo c).push (.directive d) with allowsKey := false }

/-! ### Scalars -/

/-- A scalar in a block.  A key may follow it. -/
def atBlockScalar (l : Lexer) (folded : Bool) : Except DocumentFault Lexer := do
  let l ← l.dropKey
  match blockScalar? folded l.indent l.cursor.advance with
  | none => throw .malformed
  | some (text, c) =>
    return { (l.moveTo c).push (.scalar false (String.ofList text)) with allowsKey := true }

/-- A scalar between quotes. -/
def atQuotedScalar (l : Lexer) (double : Bool) : Except DocumentFault Lexer := do
  let l ← l.saveKey
  let (text, c) ← quotedScalar double l.cursor
  return { (l.moveTo c).push (.scalar false (String.ofList text)) with allowsKey := false }

/-- A scalar without quotes.  A key may follow it in a new line. -/
def atPlainScalar (l : Lexer) : Except DocumentFault Lexer := do
  let l ← l.saveKey
  let (text, c, crossed) := plainScalar (!l.inBlock) (l.indent + 1) l.cursor
  return { (l.moveTo c).push (.scalar true (String.ofList text)) with allowsKey := crossed }

/-! ### Tokens -/

/-- The characters that start no plain scalar, or only in front of certain others. -/
def indicators : List Char := "-?:,[]\x7b\x7d#&*!|>'\"%@`".toList

/-- Whether a plain scalar starts here. -/
def startsPlain (l : Lexer) : Bool :=
  match l.cursor.peek with
  | none => false
  | some c =>
    (!isGap c && !indicators.contains c) ||
      (!endsMark (l.cursor.peekAt 1) && (c == '-' || (l.inBlock && (c == '?' || c == ':'))))

/-- The token that starts with a character. -/
def dispatch (l : Lexer) (next : Char) : Except DocumentFault Lexer :=
  let atMargin := l.cursor.column = 0
  let alone := endsMark (l.cursor.peekAt 1)
  if next = '%' ∧ atMargin then l.atDirective
  else if atMargin ∧ l.cursor.atMarks '-' then l.atDocumentMark .documentStart
  else if atMargin ∧ l.cursor.atMarks '.' then l.atDocumentMark .documentEnd
  else
    match next with
    | '[' => l.atOpening .flowSequenceStart
    | '\x7b' => l.atOpening .flowMappingStart
    | ']' => l.atClosing .flowSequenceEnd
    | '\x7d' => l.atClosing .flowMappingEnd
    | ',' => l.atFlowEntry
    | _ =>
      if next = '-' ∧ alone then l.atBlockEntry
      else if next = '?' ∧ (!l.inBlock ∨ alone) then l.atKey
      else if next = ':' ∧ (!l.inBlock ∨ alone) then l.atValue
      else if next = '*' then l.atName .alias
      else if next = '&' then l.atName .anchor
      else if next = '!' then l.atTag
      else if next = '|' ∧ l.inBlock then l.atBlockScalar false
      else if next = '>' ∧ l.inBlock then l.atBlockScalar true
      else if next = '\'' then l.atQuotedScalar false
      else if next = '"' then l.atQuotedScalar true
      else if l.startsPlain then l.atPlainScalar
      else .error .malformed

/-- The next token with the marks that its column calls for. -/
def step (l : Lexer) : Except DocumentFault Lexer := do
  let l ← l.skipGap.dropStaleKeys
  let l := l.unwind l.column
  match l.cursor.peek with
  | none => l.atEnd
  | some next => l.dispatch next

/-- The tokens of the rest of a text.  A text that cannot be read any further ends in a faulty
token, which stands behind the settled ones: the others are held back until the next one is read. -/
def run : (fuel : Nat) → Lexer → List Token
  | 0, l => l.reversed.reverse
  | fuel + 1, l =>
    if l.isDone then l.reversed.reverse
    else
      match l.step with
      | .ok l => run fuel l
      | .error fault =>
        (Token.faulty fault :: l.reversed.drop (l.count - l.settledCount)).reverse

end Lexer

/-- The tokens of a text.  Every token but the last one takes at least one character. -/
def tokens (text : List Char) : List Token :=
  Lexer.run (text.length + 2) (Lexer.start text)

end MetricQuery.Document
