import MetricQuery.Keyed
import MetricQuery.Number.Literal
import MetricQuery.Text.Spelling
import MetricQuery.Vocabulary.Granularity

/-!
# Templates of makers

A template describes a maker: the name it is registered under, the path of its class, and literal
texts for parameters.  A parameter is named by words joined with underscores; a template may spell
the name otherwise.

## Main definitions

* `Template` : the description of a maker.
* `Template.literal?` : the literal for a parameter.
* `Param` : the kinds of values that literals are read as.
* `Rejection` : why a template describes no maker.
* `Template.given` : the value that a template gives for a parameter.
-/

namespace MetricQuery

/-- The description of a maker. -/
structure Template where
  name : String
  classPath : String
  params : Keyed String String
deriving Repr, Inhabited, DecidableEq

namespace Template

/-- The literal under a key. -/
def param? (t : Template) (key : String) : Option String :=
  t.params.get? key

/-- The literal for a parameter: under its name, else under its joined spelling, else under the
first key that spells it with seams. -/
def literal? (t : Template) (parameter : String) : Option String :=
  let camelKey := String.ofList (Text.camel parameter.toList)
  (t.param? parameter).or <| (t.param? camelKey).or <|
    (t.params.find? fun entry => Text.snake entry.1.toList == parameter.toList).map (·.2)

end Template

/-! ### Values of parameters -/

namespace Param

/-- A grain of time. -/
def grain (literal : String) : Except Fault Grain :=
  Grain.read literal

/-- An integer. -/
def int (literal : String) : Except Fault Int :=
  match Literal.readInteger literal.toList with
  | .ok n => .ok n
  | .error .malformed => .error (.notInteger literal)
  | .error (.tooLong digits) => .error (.integerTooLong digits)

/-- A binary number. -/
def float (literal : String) : Except Fault Binary64 :=
  match Literal.readBinary64? literal.toList with
  | some x => .ok x
  | none => .error (.notNumber literal)

/-- The words for a truth value, in lower case. -/
def truthWords : List (String × Bool) :=
  [("true", true), ("yes", true), ("1", true), ("false", false), ("no", false), ("0", false)]

/-- A truth value: one of a few words, in any letter case and with blanks around it. -/
def bool (literal : String) : Except Fault Bool :=
  let word := String.ofList (Text.lower (Text.trim literal.toList))
  match truthWords.find? (·.1 == word) with
  | some (_, b) => .ok b
  | none => .error .notTruth

/-- A text. -/
def text (literal : String) : Except Fault String :=
  .ok literal

end Param

/-! ### Rejection -/

/-- Why a template describes no maker. -/
inductive Rejection
  /-- The class path is a single name and no built-in maker has it. -/
  | unknownMaker (path : String) (known : List String)
  /-- No module has the name. -/
  | noModule (path moduleName : String)
  /-- A module that holds no modules has no module of the name. -/
  | noSubmodule (path moduleName parent : String)
  /-- A module does not define the name. -/
  | noMember (path moduleName member : String)
  /-- The class path leads to something else. -/
  | notMaker (path : String)
  /-- The kinds of the parameters of the maker cannot be told. -/
  | unresolvable (wording : String)
  | parameterMissing (parameter maker : String)
  | literalUnfit (literal parameter : String) (fault : Fault)
  /-- The maker knows no such arithmetic function. -/
  | unknownFunction (maker function : String) (known : List String)
  /-- The maker refuses to be built from its arguments. -/
  | raised (maker wording : String)
deriving Repr

/-- The wording of a rejection. -/
def Rejection.text : Rejection → String
  | unknownMaker path known =>
    s!"Unknown maker '{path}'. Built-in makers: " ++ ", ".intercalate known
  | noModule path moduleName =>
    s!"Cannot import maker class '{path}': No module named {moduleName.quotedLiteral}"
  | noSubmodule path moduleName parent =>
    s!"Cannot import maker class '{path}': No module named {moduleName.quotedLiteral}; " ++
      s!"{parent.quotedLiteral} is not a package"
  | noMember path moduleName member =>
    s!"Cannot import maker class '{path}': module '{moduleName}' has no attribute '{member}'"
  | notMaker path => s!"'{path}' is not a MetricMaker subclass"
  | unresolvable wording => s!"unresolvable annotations: {wording}"
  | parameterMissing parameter maker =>
    s!"no value for required parameter '{parameter}' of {maker}"
  | literalUnfit literal parameter fault =>
    s!"bad value {literal.quotedLiteral} for parameter '{parameter}': {fault.message}"
  | unknownFunction maker function known =>
    s!"{maker}(...) raised ValueError: Unknown arithmetic function '{function}'. Allowed: " ++
      ", ".intercalate known
  | raised maker wording => s!"{maker}(...) raised {wording}"

/-! ### Parameters of a template -/

namespace Template

/-- The value that a template gives for a parameter, if it gives one. -/
def given {α : Type} (t : Template) (parameter : String) (read : String → Except Fault α) :
    Except Rejection (Option α) :=
  match t.literal? parameter with
  | none => .ok none
  | some literal =>
    match read literal with
    | .ok value => .ok (some value)
    | .error fault => .error (.literalUnfit literal parameter fault)

end Template

end MetricQuery
