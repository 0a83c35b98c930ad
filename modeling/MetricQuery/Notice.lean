import MetricQuery.Fault

/-!
# Notices

Loading a catalog leaves a trail of notices: what was loaded, what was skipped and why, and what
made the load fail.

## Main definitions

* `Notice` : what happened.
* `Notice.severity`, `Notice.source`, `Notice.text` : how it is logged.
-/

namespace MetricQuery

/-- How grave a notice is. -/
inductive Severity
  | info
  | warning
  | error
deriving DecidableEq, Repr

/-- The name of a severity. -/
def Severity.name : Severity → String
  | info => "INFO"
  | warning => "WARNING"
  | error => "ERROR"

/-- What happened during a load. -/
inductive Notice
  | dimensionsLoaded (count : Nat)
  /-- A dimension is defined twice in one document. -/
  | dimensionRepeated (name : String)
  /-- A dimension is registered whose name is taken. -/
  | dimensionTaken (name : String)
  | templatesRead (count : Nat) (path : String)
  | templateSkipped (name reason : String)
  | makersBuilt (built skipped : Nat)
  /-- A maker is registered whose name is taken. -/
  | makerTaken (name : String)
  | catalogReady (dimensions metrics makers : Nat)
deriving DecidableEq, Repr

namespace Notice

/-- The refusal of a template. -/
def refusalText (name reason : String) : String :=
  s!"Cannot build maker '{name}': {reason}"

/-- How grave a notice is. -/
def severity : Notice → Severity
  | dimensionRepeated _ | dimensionTaken _ | makerTaken _ => .error
  | templateSkipped .. => .warning
  | _ => .info

/-- The logger of a notice. -/
def source : Notice → String
  | dimensionsLoaded _ | dimensionRepeated _ => "src.catalog.dimension_loader"
  | dimensionTaken _ => "src.catalog.dictionaries"
  | templatesRead .. => "src.makers.template"
  | templateSkipped .. | makersBuilt .. | makerTaken _ => "src.makers.dictionary"
  | catalogReady .. => "src.catalog.configuration"

/-- The wording of a notice.  The time that a build took is left open. -/
def text : Notice → String
  | dimensionsLoaded count => s!"Loaded {count} dimension definitions"
  | dimensionRepeated name =>
    s!"Dimension '{name}' is defined more than once in the dimension configuration"
  | dimensionTaken name =>
    s!"Dimension '{name}' is already registered; " ++
      "multiple loaders updating the dimension dictionary"
  | templatesRead count path => s!"Read {count} maker templates from {path}"
  | templateSkipped name reason =>
    "Skipping maker template: " ++ refusalText name reason
  | makersBuilt built skipped => s!"Built {built} metric makers ({skipped} skipped) in N ms"
  | makerTaken name =>
    s!"Maker name '{name}' is already registered; " ++
      "multiple loaders updating the metric maker dictionary"
  | catalogReady dimensions metrics makers =>
    s!"Catalog ready: {dimensions} dimensions, {metrics} metrics, {makers} makers"

end Notice

end MetricQuery
