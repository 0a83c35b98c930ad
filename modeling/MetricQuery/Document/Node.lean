import MetricQuery.Document.Tag
import MetricQuery.Document.Token
import MetricQuery.Keyed

/-!
# Nodes of documents

The tokens of a document make a tree: scalars with the kinds of their values, sequences, and
mappings from nodes to nodes.  A node may be given a name and be repeated by it.

## Main definitions

* `Node` : a part of the tree.
* `Composer` : the tokens that are left, and the named nodes.
* `Composer.node` : the node at the front of the tokens.
* `Node.ofTokens` : the tree of the tokens of a text.
-/

namespace MetricQuery.Document

/-- A part of a document. -/
inductive Node
  | scalar (tag : Tag) (text : String)
  | sequence (tag : Tag) (items : List Node)
  | mapping (tag : Tag) (entries : List (Node × Node))
  /-- A structure that is repeated inside itself. -/
  | cycle (isMapping : Bool)
deriving Repr, Inhabited

/-- What a name stands for: a complete node, or a structure whose parts are being read. -/
inductive Named
  | complete (n : Node)
  | partly (isMapping : Bool)
deriving Repr

/-- The tokens that are left, and the named nodes. -/
structure Composer where
  tokens : List Token
  names : Keyed String Named
deriving Repr

/-- The name and the tag in front of a node. -/
structure Properties where
  anchor : Option String
  tag : Option String

/-- Where a node stands, which settles the forms that it may have. -/
inductive Position
  /-- Between brackets. -/
  | flow
  /-- In a structure in block form. -/
  | block
  /-- In a mapping in block form, where the items of a sequence need no indentation. -/
  | mappingPart
deriving DecidableEq

/-- What a handle in front of a tag stands for. -/
abbrev Handles := Keyed String String

/-- The handles that every document has. -/
def usualHandles : Handles := [("!", "!"), ("!!", Tag.family)]

namespace Composer

/-- The next token. -/
def peek (c : Composer) : Token :=
  c.tokens.head?.getD .streamEnd

/-- The rest behind the next token. -/
def next (c : Composer) : Composer :=
  { c with tokens := c.tokens.drop 1 }

/-- The fault for a token that must not stand here. -/
def misplaced (c : Composer) : DocumentFault :=
  match c.peek with
  | .faulty fault => fault
  | _ => .malformed

/-! ### Properties -/

/-- The full name of a tag; none if its handle is not defined. -/
def fullTag? (handles : Handles) (handle : Option String) (name : String) : Option String :=
  match handle with
  | none => some name
  | some handle => (handles.get? handle).map (· ++ name)

/-- The name at the front of the tokens, if there is one. -/
def anchor (c : Composer) : Option String × Composer :=
  match c.peek with
  | .anchor name => (some name, c.next)
  | _ => (none, c)

/-- The name and the tag in front of a node, in either order.  Whether a name stands behind a tag is
looked at before the handle of the tag is. -/
def properties (handles : Handles) (c : Composer) :
    Except DocumentFault (Properties × Composer) :=
  match c.anchor with
  | (some name, c) =>
    match c.peek with
    | .tag handle suffix =>
      match fullTag? handles handle suffix with
      | some tag => .ok (⟨some name, some tag⟩, c.next)
      | none => .error .malformed
    | _ => .ok (⟨some name, none⟩, c)
  | (none, c) =>
    match c.peek with
    | .tag handle suffix =>
      match fullTag? handles handle suffix with
      | some tag => .ok (⟨c.next.anchor.1, some tag⟩, c.next.anchor.2)
      | none => .error c.next.misplaced
    | _ => .ok (⟨none, none⟩, c)

/-- The kind of a structure with a tag, or with the usual one. -/
def structureTag (tag : Option String) (usual : Tag) : Tag :=
  match tag with
  | none => usual
  | some "!" => usual
  | some name => Tag.ofName name

/-- The kind of a scalar.  The form shows it where there is no tag or an empty one. -/
def scalarTag (tag : Option String) (isPlain : Bool) (text : String) : Tag :=
  match tag with
  | none => if isPlain then Tag.ofPlain text else .str
  | some "!" => Tag.ofPlain text
  | some name => Tag.ofName name

/-- A meaning is given to a name, if there is one. -/
def define (c : Composer) (name : Option String) (meaning : Named) : Composer :=
  match name with
  | none => c
  | some name => { c with names := c.names.put name meaning }

/-- The node of an absent part. -/
def absent : Node := .scalar .null ""

/-- A node of which there is nothing but a name or a tag. -/
def bare (p : Properties) (c : Composer) : Except DocumentFault (Node × Composer) :=
  if p.anchor.isNone && p.tag.isNone then .error c.misplaced
  else
    let n := Node.scalar (scalarTag p.tag true "") ""
    .ok (n, c.define p.anchor (.complete n))

/-! ### Structures -/

mutual

/-- The node at the front of the tokens. -/
def node (handles : Handles) (position : Position) :
    (fuel : Nat) → Composer → Except DocumentFault (Node × Composer)
  | 0, _ => .error .malformed
  | fuel + 1, c => do
    match c.peek with
    | .alias name =>
      match c.names.get? name with
      | none => throw .malformed
      | some (.complete n) => return (n, c.next)
      | some (.partly isMapping) => return (.cycle isMapping, c.next)
    | _ =>
      let (p, c) ← c.properties handles
      if p.anchor.any fun name => c.names.has name then throw c.misplaced
      let inBlock := position != .flow
      match c.peek with
      | .scalar isPlain text =>
        let n := Node.scalar (scalarTag p.tag isPlain text) text
        return (n, c.next.define p.anchor (.complete n))
      | .flowSequenceStart =>
        let c := c.next.define p.anchor (.partly false)
        let (items, c) ← flowItems handles true fuel c
        let n := Node.sequence (structureTag p.tag .seq) items
        return (n, c.define p.anchor (.complete n))
      | .flowMappingStart =>
        let c := c.next.define p.anchor (.partly true)
        let (entries, c) ← flowEntries handles true fuel c
        let n := Node.mapping (structureTag p.tag .map) entries
        return (n, c.define p.anchor (.complete n))
      | .blockEntry =>
        if position != .mappingPart then bare p c
        else
          let c := c.define p.anchor (.partly false)
          let (items, c) ← looseItems handles fuel c
          let n := Node.sequence (structureTag p.tag .seq) items
          return (n, c.define p.anchor (.complete n))
      | .blockSequenceStart =>
        if !inBlock then bare p c
        else
          let c := c.next.define p.anchor (.partly false)
          let (items, c) ← blockItems handles fuel c
          let n := Node.sequence (structureTag p.tag .seq) items
          return (n, c.define p.anchor (.complete n))
      | .blockMappingStart =>
        if !inBlock then bare p c
        else
          let c := c.next.define p.anchor (.partly true)
          let (entries, c) ← blockEntries handles fuel c
          let n := Node.mapping (structureTag p.tag .map) entries
          return (n, c.define p.anchor (.complete n))
      | _ => bare p c

/-- A part of a structure in block form, absent in front of one of the given tokens. -/
def part (handles : Handles) (position : Position) (closing : List Token) :
    (fuel : Nat) → Composer → Except DocumentFault (Node × Composer)
  | 0, _ => .error .malformed
  | fuel + 1, c =>
    if closing.contains c.peek then .ok (absent, c) else node handles position fuel c

/-- The items of a sequence in block form, up to its end. -/
def blockItems (handles : Handles) :
    (fuel : Nat) → Composer → Except DocumentFault (List Node × Composer)
  | 0, _ => .error .malformed
  | fuel + 1, c => do
    match c.peek with
    | .blockEntry =>
      let (item, c) ← part handles .block [.blockEntry, .blockEnd] fuel c.next
      let (items, c) ← blockItems handles fuel c
      return (item :: items, c)
    | .blockEnd => return ([], c.next)
    | _ => throw c.misplaced

/-- The items of a sequence in block form that has no indentation of its own. -/
def looseItems (handles : Handles) :
    (fuel : Nat) → Composer → Except DocumentFault (List Node × Composer)
  | 0, _ => .error .malformed
  | fuel + 1, c => do
    match c.peek with
    | .blockEntry =>
      let (item, c) ← part handles .block [.blockEntry, .key, .value, .blockEnd] fuel c.next
      let (items, c) ← looseItems handles fuel c
      return (item :: items, c)
    | _ => return ([], c)

/-- The entries of a mapping in block form, up to its end. -/
def blockEntries (handles : Handles) :
    (fuel : Nat) → Composer → Except DocumentFault (List (Node × Node) × Composer)
  | 0, _ => .error .malformed
  | fuel + 1, c => do
    match c.peek with
    | .key =>
      let closing : List Token := [.key, .value, .blockEnd]
      let (key, c) ← part handles .mappingPart closing fuel c.next
      let (value, c) ←
        match c.peek with
        | .value => part handles .mappingPart closing fuel c.next
        | _ => pure (absent, c)
      let (entries, c) ← blockEntries handles fuel c
      return ((key, value) :: entries, c)
    | .blockEnd => return ([], c.next)
    | _ => throw c.misplaced

/-- The items of a sequence in brackets, up to its closing bracket. -/
def flowItems (handles : Handles) (isFirst : Bool) :
    (fuel : Nat) → Composer → Except DocumentFault (List Node × Composer)
  | 0, _ => .error .malformed
  | fuel + 1, c => do
    if c.peek == .flowSequenceEnd then return ([], c.next)
    if !isFirst && c.peek != .flowEntry then throw c.misplaced
    let c := if isFirst then c else c.next
    match c.peek with
    | .flowSequenceEnd => return ([], c.next)
    | .key =>
      let (key, c) ← part handles .flow [.value, .flowEntry, .flowSequenceEnd] fuel c.next
      let (value, c) ←
        match c.peek with
        | .value => part handles .flow [.flowEntry, .flowSequenceEnd] fuel c.next
        | _ => pure (absent, c)
      let (items, c) ← flowItems handles false fuel c
      return (.mapping .map [(key, value)] :: items, c)
    | _ =>
      let (item, c) ← node handles .flow fuel c
      let (items, c) ← flowItems handles false fuel c
      return (item :: items, c)

/-- The entries of a mapping in brackets, up to its closing bracket. -/
def flowEntries (handles : Handles) (isFirst : Bool) :
    (fuel : Nat) → Composer → Except DocumentFault (List (Node × Node) × Composer)
  | 0, _ => .error .malformed
  | fuel + 1, c => do
    if c.peek == .flowMappingEnd then return ([], c.next)
    if !isFirst && c.peek != .flowEntry then throw c.misplaced
    let c := if isFirst then c else c.next
    match c.peek with
    | .flowMappingEnd => return ([], c.next)
    | .key =>
      let (key, c) ← part handles .flow [.value, .flowEntry, .flowMappingEnd] fuel c.next
      let (value, c) ←
        match c.peek with
        | .value => part handles .flow [.flowEntry, .flowMappingEnd] fuel c.next
        | _ => pure (absent, c)
      let (entries, c) ← flowEntries handles false fuel c
      return ((key, value) :: entries, c)
    | _ =>
      let (key, c) ← node handles .flow fuel c
      let (entries, c) ← flowEntries handles false fuel c
      return ((key, absent) :: entries, c)

end

/-! ### Documents -/

/-- The handles that the directives in front of a document define, and the rest behind them.  There
is at most one version, and a handle is defined once. -/
def directives (version : Option Nat) (handles : Handles) :
    List Token → Except DocumentFault (Handles × List Token)
  | .directive (.version major) :: rest =>
    if version.isSome ∨ major ≠ 1 then .error .malformed
    else directives (some major) handles rest
  | .directive (.handle name start) :: rest =>
    if handles.has name then .error .malformed
    else directives version (handles.put name start) rest
  | .directive .other :: rest => directives version handles rest
  | rest => .ok (handles, rest)

/-- Succeeds if nothing but the end follows a document.  The directives of a further one are looked
at before it is refused. -/
def finish (c : Composer) : Except DocumentFault Unit :=
  match c.tokens.dropWhile (· == .documentEnd) with
  | [.streamEnd] => .ok ()
  | rest => do
    let (_, rest) ← directives none [] rest
    throw { c with tokens := rest }.misplaced

/-- The node of a document with a start mark, which may be absent. -/
def content (handles : Handles) (c : Composer) : Except DocumentFault (Node × Composer) :=
  match c.peek with
  | .directive _ | .documentStart | .documentEnd | .streamEnd => .ok (absent, c)
  | _ => node handles .block (4 * c.tokens.length + 4) c

end Composer

/-- The tree of the tokens of a text, which must hold at most one document. -/
def Node.ofTokens (tokens : List Token) : Except DocumentFault Node := do
  match tokens with
  | [.streamEnd] => return Composer.absent
  | .directive _ :: _ | .documentStart :: _ =>
    let (handles, rest) ← Composer.directives none [] tokens
    let c : Composer := ⟨rest, []⟩
    if c.peek != .documentStart then throw c.misplaced
    let given := usualHandles.filter fun (name, _) => !handles.has name
    let (n, c) ← c.next.content (handles ++ given)
    c.finish
    return n
  | tokens =>
    let c : Composer := ⟨tokens, []⟩
    let (n, c) ← Composer.node usualHandles .block (4 * tokens.length + 4) c
    c.finish
    return n

end MetricQuery.Document
