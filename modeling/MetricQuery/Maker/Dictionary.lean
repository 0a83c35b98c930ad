import MetricQuery.Maker.Module
import MetricQuery.Notice

/-!
# Dictionaries of makers

A dictionary holds makers under their names, which are compared without regard to letter case.  It
is written once, like a glossary.  Templates that describe no maker are skipped, and the reason is
kept; two makers with one name end the build.

## Main definitions

* `MakerInstance` : a maker that has been built.
* `MakerDictionary` : makers under their names, and the templates that were skipped.
* `MakerDictionary.buildAll` : the dictionary with the makers of several templates.
-/

namespace MetricQuery

/-- A maker that has been built.  Makers that are built apart have different serial numbers, even if
they are alike. -/
structure MakerInstance where
  serial : Nat
  maker : AnyMaker
deriving Repr

instance : BEq MakerInstance where
  beq a b := a.serial == b.serial

/-- Makers under their names in lower case, in the order in which they were added, and the reasons
for which templates were skipped, by the names of the templates. -/
structure MakerDictionary where
  entries : Keyed String MakerInstance
  skipped : Keyed String String
deriving Repr, Inhabited

/-- Why a build ends before the last template. -/
inductive BuildStop
  | relativePath (moduleName : String)
  | nameTaken (name : String)
deriving Repr, DecidableEq

/-- The wording of the reason. -/
def BuildStop.message : BuildStop → String
  | relativePath moduleName => (BuildFault.relativePath moduleName).message
  | nameTaken name => (Notice.makerTaken name).text

namespace MakerDictionary

/-- The dictionary without entries. -/
def empty : MakerDictionary := ⟨[], []⟩

/-- The names of the makers in lower case. -/
def names (d : MakerDictionary) : List String :=
  d.entries.keys

/-- The maker with a name. -/
def get? (d : MakerDictionary) (name : String) : Option MakerInstance :=
  d.entries.get? name.lowerCase

/-- Whether a value is the name of a maker. -/
def contains (d : MakerDictionary) (name : Datum) : Bool :=
  name.text?.any fun name => (d.get? name).isSome

/-- The makers without repeats. -/
def makers (d : MakerDictionary) : List MakerInstance :=
  distinct (d.entries.map (·.2))

/-- The dictionary with a maker offered under a name, and whether it was taken. -/
def add (d : MakerDictionary) (name : String) (m : MakerInstance) : MakerDictionary × Bool :=
  if d.entries.has name.lowerCase then (d, false)
  else ({ d with entries := d.entries ++ [(name.lowerCase, m)] }, true)

/-- The dictionary with makers offered under the names of their classes, and whether it grew. -/
def addAll (d : MakerDictionary) : List MakerInstance → MakerDictionary × Bool
  | [] => (d, false)
  | m :: rest =>
    let (d, added) := d.add m.maker.className m
    let (d, changed) := d.addAll rest
    (d, added || changed)

/-- The dictionary with the makers of several templates, the notices of the build, and why it ended
early.  The makers get serial numbers in the order of the templates. -/
def buildAll (outside : List Module) (d : MakerDictionary) (serial : Nat) :
    List Template → MakerDictionary × List Notice × Option BuildStop
  | [] => (d, [.makersBuilt d.entries.length d.skipped.length], none)
  | t :: rest =>
    match t.build outside with
    | .error (.relativePath moduleName) => (d, [], some (.relativePath moduleName))
    | .error (.rejected reason) =>
      let (d, notices, stop) :=
        buildAll outside { d with skipped := d.skipped.put t.name reason.text } (serial + 1) rest
      (d, .templateSkipped t.name reason.text :: notices, stop)
    | .ok maker =>
      match d.add t.name ⟨serial, maker⟩ with
      | (d, false) => (d, [.makerTaken t.name], some (.nameTaken t.name))
      | (d, true) => buildAll outside d (serial + 1) rest

/-- Whether two dictionaries hold the same makers under the same names, in any order. -/
def same (a b : MakerDictionary) : Bool :=
  a.entries.same (· == ·) b.entries

/-- How a dictionary is shown. -/
def shown (d : MakerDictionary) : String :=
  "MetricMaker Dictionary: " ++ enclosed "\x7b" "\x7d"
    (d.entries.map fun (name, m) => name.quotedLiteral ++ ": " ++ m.maker.shown)

end MakerDictionary

end MetricQuery
