import MetricQuery.Setup.Settings

/-!
# Logging

Loggers have dotted names that form a tree.  A record is written once for every output on the way
from its own logger to the root; whether it is written at all is decided by the level of the nearest
logger on that way that has one.  The verdict is kept for the next record of that level, until a
logger is given a level.

## Main definitions

* `Logger` : the level, the outputs and the verdicts of a logger.
* `LogTree` : the loggers by name.
* `LogTree.resolveLevel` : the level that a name stands for.
* `LogTree.chain` : the loggers from one up to the root.
* `LogTree.get` : a logger is given an output and a level.
* `LogTree.log` : the lines that a record is written as.
-/

namespace MetricQuery

/-- What a logger holds: its level, zero for none, the count of its outputs, and for the levels of
its records so far whether such a record is written. -/
structure Logger where
  level : Int
  outputs : Nat
  verdicts : Keyed Int Bool
deriving DecidableEq, Repr, Inhabited

namespace Logger

/-- A logger that has not been set up. -/
def bare : Logger := ⟨0, 0, []⟩

/-- Whether a logger has an output. -/
def hasOutput (logger : Logger) : Bool :=
  0 < logger.outputs

/-- The logger with an output: its own ones, else a new one. -/
def opened (logger : Logger) : Logger :=
  if logger.hasOutput then logger else { logger with outputs := logger.outputs + 1 }

/-- The logger without its verdicts. -/
def cleared (logger : Logger) : Logger :=
  { logger with verdicts := [] }

/-- The logger with an output and a level. -/
def setUp (logger : Logger) (level : Int) : Logger :=
  { logger.opened with level }

end Logger

/-- The loggers by name, in the order in which they were first asked for; the root has the empty
name. -/
abbrev LogTree := Keyed String Logger

/-- Why a logger cannot be set up. -/
inductive LogFault
  | settings (fault : Settings.LoadFault)
  /-- The name stands for a text that names no level. -/
  | unknownLevel (text : String)
  /-- The name stands for something that is no level. -/
  | notLevel (shown : String)
  /-- A level of the given kind is neither a name nor a number. -/
  | noName (kind : String)
deriving Repr

/-- The wording of a fault. -/
def LogFault.message : LogFault → String
  | settings fault => fault.message
  | unknownLevel text => s!"Unknown level: {text.quotedLiteral}"
  | notLevel shown => s!"Level not an integer or a valid string: {shown}"
  | noName kind => (Fault.noAttribute kind "upper").message

namespace LogTree

/-- The name under which the root is shown. -/
def rootName : String := "root"

/-! ### Levels -/

/-- The levels by name.  Two of them have two names. -/
def levels : Keyed String Int :=
  [("CRITICAL", 50), ("FATAL", 50), ("ERROR", 40), ("WARNING", 30), ("WARN", 30), ("INFO", 20),
   ("DEBUG", 10), ("NOTSET", 0)]

/-- The level of a logger that is given an unknown name. -/
def usualLevel : Int := 20

/-- The text of a record in the layout that the name of a layout stands for. -/
def basicLayout : String := "%(levelname)s:%(name)s:%(message)s"

/-- How the table of layout styles is shown. -/
def styleTable : String :=
  "\x7b'%': (<class 'logging.PercentStyle'>, '%(levelname)s:%(name)s:%(message)s'), " ++
  "'\x7b': (<class 'logging.StrFormatStyle'>, " ++
  "'\x7blevelname\x7d:\x7bname\x7d:\x7bmessage\x7d'), " ++
  "'$': (<class 'logging.StringTemplateStyle'>, " ++
  "'$\x7blevelname\x7d:$\x7bname\x7d:$\x7bmessage\x7d')\x7d"

/-- The level that a name stands for, in any letter case; the usual one for an unknown name.  Two
reserved names stand for something that is no level. -/
def resolveName (name : String) : Except LogFault Int :=
  let key := name.upperCase
  match levels.get? key with
  | some level => .ok level
  | none =>
    if key == "BASIC_FORMAT" then .error (.unknownLevel basicLayout)
    else if key == "_STYLES" then .error (.notLevel styleTable)
    else .ok usualLevel

/-- The level that a value stands for: a number itself, a name its level, and an empty value the
level of the settings. -/
def resolveLevel (settings : Except Settings.LoadFault Settings) (level : Datum) :
    Except LogFault Int :=
  match level with
  | .scalar (.int n) => .ok n
  | .scalar (.bool b) => .ok (if b then 1 else 0)
  | level =>
    if level.isEmpty then
      match settings with
      | .ok settings => resolveName settings.logLevel
      | .error fault => .error (.settings fault)
    else
      match level.text? with
      | some name => resolveName name
      | none => .error (.noName level.kind)

/-- The name of a level in a record, with blanks behind up to eight characters. -/
def levelLabel (level : Int) : String :=
  let name :=
    if level = 50 then "CRITICAL" else if level = 40 then "ERROR" else if level = 30 then "WARNING"
    else if level = 20 then "INFO" else if level = 10 then "DEBUG" else if level = 0 then "NOTSET"
    else s!"Level {level}"
  String.ofList (name.toList ++ List.replicate (8 - name.length) ' ')

/-! ### The tree -/

/-- The name under which a logger is kept. -/
def canonical (name : String) : String :=
  if name == rootName then "" else name

/-- The name under which a logger is shown. -/
def shown (name : String) : String :=
  if name == "" then rootName else name

/-- The tree in which no logger but the root has a level. -/
def initial : LogTree := [("", ⟨30, 0, []⟩)]

/-- The logger with a name; without level and output if it has not been set up. -/
def logger (tree : LogTree) (name : String) : Logger :=
  (tree.get? name).getD .bare

/-- A logger is asked for. -/
def ask (tree : LogTree) (name : String) : LogTree :=
  if tree.has name then tree else tree ++ [(name, .bare)]

/-- The loggers without their verdicts. -/
def forget (tree : LogTree) : LogTree :=
  tree.map fun (name, logger) => (name, logger.cleared)

/-- The parts of a text in front of its dots, the longest first, all of them back to front.  The
first character is no such dot, nor is the earlier one of two dots side by side. -/
def partsBeforeDots : (afterDot : Bool) → (reversed : List Char) → List (List Char)
  | _, [] => []
  | afterDot, c :: rest =>
    if c = '.' ∧ !afterDot ∧ rest ≠ [] then rest :: partsBeforeDots true rest
    else partsBeforeDots false rest

/-- The names above a dotted name, the nearest first. -/
def above (name : String) : List String :=
  (partsBeforeDots false name.toList.reverse).map fun part => String.ofList part.reverse

/-- Whether the first of two loggers came before the second one. -/
def isOlder (tree : LogTree) (first second : String) : Bool :=
  (tree.keys.takeWhile (· != second)).contains first

/-- Whether a logger belongs to one above it.  Loggers of the root whose names came up earlier are
taken over by the new logger, unless its name is the beginning of that of the root. -/
def belongsTo (tree : LogTree) (name upper : String) : Bool :=
  tree.has upper &&
    !(upper.toList.isPrefixOf rootName.toList && tree.isOlder name upper)

/-- The logger that a logger belongs to: the nearest one above it, else the root. -/
def parent (tree : LogTree) (name : String) : String :=
  ((above name).find? (tree.belongsTo name)).getD ""

/-- The names from a logger up to the root.  Each parent has a shorter name, so the length of the
name bounds their number. -/
def chainWithin (tree : LogTree) : (fuel : Nat) → String → List String
  | 0, name => [name]
  | fuel + 1, name => if name == "" then [""] else name :: chainWithin tree fuel (tree.parent name)

/-- The names from a logger up to the root. -/
def chain (tree : LogTree) (name : String) : List String :=
  tree.chainWithin name.length name

/-- Gives a logger an output and a level, and drops all verdicts.  If the level is a fault, the
logger has its output all the same, and the verdicts stay. -/
def get (tree : LogTree) (settings : Except Settings.LoadFault Settings) (name : String)
    (level : Datum) : LogTree × Except LogFault Logger :=
  let name := canonical name
  let logger := tree.logger name
  match resolveLevel settings level with
  | .error fault => (tree.put name logger.opened, .error fault)
  | .ok level => (forget (tree.put name (logger.setUp level)), .ok (logger.setUp level).cleared)

/-- The level of the first of some loggers that has one, zero if none has. -/
def nearestLevel (tree : LogTree) (names : List String) : Int :=
  ((names.map fun name => (tree.logger name).level).find? (· ≠ 0)).getD 0

/-- The count of the outputs of some loggers. -/
def outputs (tree : LogTree) (names : List String) : Nat :=
  names.foldr (fun name count => (tree.logger name).outputs + count) 0

/-- Whether a record of a logger is written: as the logger's verdict on its level says, else if it
has a positive level that reaches that of the nearest logger up to the root that has one. -/
def writes (tree : LogTree) (name : String) (level : Int) : Bool :=
  ((tree.logger name).verdicts.get? level).getD
    (0 < level ∧ tree.nearestLevel (tree.chain name) ≤ level)

/-- The line that a record of a logger is written as. -/
def line (name : String) (level : Int) (text : String) : String :=
  s!"{levelLabel level} | {shown name} | {text}"

/-- A record of a logger, which is asked for and keeps the verdict, and the lines that the record is
written as: one for each output up to the root. -/
def log (tree : LogTree) (name : String) (level : Int) (text : String) :
    LogTree × List String :=
  let name := canonical name
  let tree := tree.ask name
  let logger := tree.logger name
  let written := tree.writes name level
  (tree.put name { logger with verdicts := logger.verdicts.put level written },
    if written then List.replicate (tree.outputs (tree.chain name)) (line name level text)
    else [])

end LogTree

end MetricQuery
