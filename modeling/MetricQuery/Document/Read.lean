import MetricQuery.Collection
import MetricQuery.Document.Lexer
import MetricQuery.Document.Node
import MetricQuery.Document.Value
import MetricQuery.Keyed
import MetricQuery.Text.Lines

/-!
# Data of documents

The tree of a document stands for data.  Entries of a mapping may be taken over from another one, a
later entry replaces an earlier one with the same key, and no structure is a key.  If several parts
are faulty, the fault of the outermost one counts, and among parts of one depth that of the first.

## Main definitions

* `Node.entries` : the entries of a mapping with those that it takes over.
* `Node.check` : the first fault of a tree, level by level.
* `Node.datum` : the data of a tree without faults.
* `Datum.ofDocument` : the data of a text.
-/

namespace MetricQuery.Document

namespace Node

/-! ### Entries -/

/-- The kind of a node as a key. -/
def keyTag : Node → Option Tag
  | scalar tag _ | sequence tag _ | mapping tag _ => some tag
  | cycle _ => none

mutual

/-- The entries of a mapping: first those that it takes over, then its own.  The sign for the text
of a map is an ordinary key. -/
def entries : Node → Except DocumentFault (List (Node × Node))
  | mapping _ own => do
    let (taken, kept) ← splitEntries own
    return taken ++ kept
  | cycle true => .ok []
  | _ => .error .malformed

/-- The entries that a list of entries takes over, and the others. -/
def splitEntries :
    List (Node × Node) → Except DocumentFault (List (Node × Node) × List (Node × Node))
  | [] => .ok ([], [])
  | (key, value) :: rest => do
    if key.keyTag == some .merge then
      let first ← takenFrom value
      let (taken, kept) ← splitEntries rest
      return (first ++ taken, kept)
    else
      let key :=
        match key with
        | scalar .value text => scalar .str text
        | key => key
      let (taken, kept) ← splitEntries rest
      return (taken, (key, value) :: kept)

/-- The entries that are taken over from a mapping, or from those of a sequence, where earlier ones
count more. -/
def takenFrom : Node → Except DocumentFault (List (Node × Node))
  | mapping _ own => do
    let (taken, kept) ← splitEntries own
    return taken ++ kept
  | sequence _ items => do return (← takenFromEach items).reverse.flatten
  | cycle true => .ok []
  | _ => .error .malformed

/-- The entries of each mapping of a list. -/
def takenFromEach : List Node → Except DocumentFault (List (List (Node × Node)))
  | [] => .ok []
  | n :: rest => do
    let first ← n.entries
    return first :: (← takenFromEach rest)

end

/-! ### Scalars -/

mutual

/-- The text of a node: of a scalar itself, of a mapping the text under the sign for it. -/
def text? : Node → Option String
  | scalar _ text => some text
  | mapping _ own => textAmong? own
  | _ => none

/-- The text under the sign for the text of a mapping. -/
def textAmong? : List (Node × Node) → Option String
  | [] => none
  | (key, value) :: rest =>
    if key.keyTag == some .value then value.text? else textAmong? rest

end

/-- The value of a node whose kind is one of scalars. -/
def single (tag : Tag) (n : Node) : Except DocumentFault Datum :=
  match n.text? with
  | none => .error .malformed
  | some text =>
    match tag, n with
    | .timestamp, mapping .. => .error .instantStructure
    | _, _ => tag.read text

/-! ### Faults -/

/-- A part of a structure: a key, another part, or one of a form that the structure does not
allow. -/
inductive Part
  | key (n : Node)
  | item (n : Node)
  | unfit

/-- The parts of an item of a list of pairs. -/
def pairParts : Node → List Part
  | mapping _ [(first, second)] => [.item first, .item second]
  | _ => [.unfit]

/-- The parts of a structure in the order in which they are looked at. -/
def parts : Node → Except DocumentFault (List Part)
  | sequence .seq items => .ok (items.map .item)
  | mapping .map own => do
    return (← entries (.mapping .map own)).flatMap fun (key, value) => [.key key, .item value]
  | mapping .set own => do
    return (← entries (.mapping .set own)).flatMap fun (key, value) => [.key key, .item value]
  | sequence .omap items => .ok (items.flatMap pairParts)
  | sequence .pairs items => .ok (items.flatMap pairParts)
  | cycle _ => .ok []
  | _ => .error .malformed

/-- Succeeds if a part has no fault of its own, with the structures whose parts are still to be
looked at. -/
def checkPart : Part → Except DocumentFault (List Node)
  | .unfit => .error .malformed
  | .key n =>
    match n.keyTag with
    | none => .error .malformed
    | some tag => if tag.isStructure then .error .malformed else (single tag n).map fun _ => []
  | .item n =>
    match n.keyTag with
    | none => .ok []
    | some tag => if tag.isStructure then .ok [n] else (single tag n).map fun _ => []

/-- Succeeds if no part of given structures has a fault, level by level. -/
def checkLevels : (fuel : Nat) → List Node → Except DocumentFault Unit
  | 0, _ => .ok ()
  | _, [] => .ok ()
  | fuel + 1, level => do
    let inner ← level.mapM fun n => do
      return (← (← n.parts).mapM checkPart).flatten
    checkLevels fuel inner.flatten

mutual

/-- The greatest number of nodes one inside the other. -/
def depth : Node → Nat
  | sequence _ items => depthItems items + 1
  | mapping _ own => depthEntries own + 1
  | _ => 1

/-- The greatest depth of several nodes. -/
def depthItems : List Node → Nat
  | [] => 0
  | n :: rest => max n.depth (depthItems rest)

/-- The greatest depth of several entries. -/
def depthEntries : List (Node × Node) → Nat
  | [] => 0
  | (key, value) :: rest => max (max key.depth value.depth) (depthEntries rest)

end

/-- Succeeds if no part of a tree has a fault. -/
def check (n : Node) : Except DocumentFault Unit := do
  checkLevels (n.depth + 1) (← checkPart (.item n))

/-! ### Data -/

/-- The data of the two nodes of a pair. -/
def pairDatum (read : Node → Datum) : Node → Datum
  | mapping _ [(first, second)] => .pair (read first) (read second)
  | _ => .null

/-- The data of a tree without faults. -/
def datumWithin : (fuel : Nat) → Node → Datum
  | 0, _ => .null
  | _, cycle isMapping => .cycle isMapping
  | fuel + 1, n =>
    let read := datumWithin fuel
    let pairs : List (Datum × Datum) :=
      match n.entries with
      | .ok entries => Keyed.ofList (entries.map fun (key, value) => (read key, read value))
      | .error _ => []
    match n with
    | sequence .seq items => .list (items.map read)
    | mapping .map _ => .map pairs
    | mapping .set _ => .set (pairs.map (·.1))
    | sequence .omap items => .list (items.map (pairDatum read))
    | sequence .pairs items => .list (items.map (pairDatum read))
    | n =>
      match n.keyTag with
      | none => .null
      | some tag =>
        match single tag n with
        | .ok d => d
        | .error _ => .null

/-- The data of a tree without faults. -/
def datum (n : Node) : Datum :=
  n.datumWithin (n.depth + 1)

end Node

/-! ### Blocks -/

/-- The count of characters in a block of a text. -/
def blockLength : Nat := 4096

/-- How many characters of a text can make tokens before the one at a place is looked at.  A text is
looked at block by block, the first two at once, and a block when the last character of the one
before is reached. -/
def seenBefore (place : Nat) : Nat :=
  if place < 2 * blockLength then 0 else place / blockLength * blockLength - 1

/-- The tree of a text. -/
def Node.ofText (text : List Char) : Except DocumentFault Node :=
  Node.ofTokens (tokens text)

end MetricQuery.Document

namespace MetricQuery

/-- The data of a document.  A character that no document may hold counts when its block is looked
at, so that only a fault in the blocks before comes first. -/
def Datum.ofDocument (content : String) : Except DocumentFault Datum := do
  let text := Text.normalLines content.toList
  match text.findIdx? fun c => !Document.isReadable c with
  | some place =>
    let _ ← Document.Node.ofText (text.take (Document.seenBefore place))
    throw .malformed
  | none =>
    let n ← Document.Node.ofText text
    n.check
    return n.datum

end MetricQuery
