import MetricQuery.Maker.Template

/-!
# Signatures of makers

A class of makers declares the parameters that it is built with.  A parameter for a glossary stands
for the one that all makers share.  For a parameter of any other kind a template gives a value of
the kind, or none where the class has a default.

## Main definitions

* `ParameterKind`, `Parameter` : the kinds of parameters, and a parameter as it is declared.
* `Parameter.Arguments` : what stands for the parameters of a signature.
* `Template.argument`, `Template.arguments` : what a template gives for parameters.
-/

namespace MetricQuery

/-! ### Parameters and arguments -/

/-- The kinds of values that a parameter is declared to take. -/
inductive ParameterKind
  /-- The glossary of metrics. -/
  | metrics
  /-- The glossary of dimensions. -/
  | dimensions
  | grain
  | int
  | float
  | bool
  | text
  /-- A kind that no literal is read as. -/
  | other

/-- The values of a kind.  There is one glossary of metrics and one of dimensions. -/
abbrev ParameterKind.Value : ParameterKind → Type
  | metrics | dimensions => Unit
  | grain => Grain
  | int => Int
  | float => Binary64
  | bool => Bool
  | text => String
  | other => Empty

/-- A parameter as a class declares it. -/
structure Parameter where
  name : String
  kind : ParameterKind
  /-- Whether the parameter has no default. -/
  isRequired : Bool

namespace Parameter

/-- What stands for a parameter: a value, or none for a parameter with a default. -/
abbrev Argument : Parameter → Type
  | ⟨_, kind, true⟩ => kind.Value
  | ⟨_, kind, false⟩ => Option kind.Value

/-- A value as what stands for a parameter. -/
def argument : (p : Parameter) → p.kind.Value → p.Argument
  | ⟨_, _, true⟩, value => value
  | ⟨_, _, false⟩, value => some value

/-- What stands for the parameters of a signature, one after the other. -/
inductive Arguments : List Parameter → Type
  | nil : Arguments []
  | cons {p : Parameter} {ps : List Parameter} (argument : p.Argument) (rest : Arguments ps) :
      Arguments (p :: ps)

end Parameter

/-! ### What a template gives -/

namespace Template

/-- The value of a kind that a template gives for a parameter, if it gives one. -/
def value? (t : Template) (parameter : String) :
    (kind : ParameterKind) → Except Rejection (Option kind.Value)
  | .metrics | .dimensions => .ok (some ())
  | .grain => t.given parameter Param.grain
  | .int => t.given parameter Param.int
  | .float => t.given parameter Param.float
  | .bool => t.given parameter Param.bool
  | .text => t.given parameter Param.text
  | .other => .ok none

/-- What a template gives for a parameter of a maker. -/
def argument (t : Template) (maker : String) : (p : Parameter) → Except Rejection p.Argument
  | ⟨name, kind, true⟩ => do
    match ← t.value? name kind with
    | some value => return value
    | none => throw (.parameterMissing name maker)
  | ⟨name, kind, false⟩ => t.value? name kind

/-- What a template gives for the parameters of a maker.  The first one that is missing or does not
fit is the reason for a rejection. -/
def arguments (t : Template) (maker : String) :
    (ps : List Parameter) → Except Rejection (Parameter.Arguments ps)
  | [] => return .nil
  | p :: ps => return .cons (← t.argument maker p) (← t.arguments maker ps)

end Template

end MetricQuery
