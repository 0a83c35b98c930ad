import MetricQuery.Number.Layout
import MetricQuery.Vocabulary.Glossary

/-!
# Makers

A maker makes metrics.  It is given the name of the new metric and what the metric depends on, and
writes an expression from them.  Some makers look their dependencies up in glossaries.

## Main definitions

* `Maker` : a maker with its parameters.
* `Terms` : the glossaries in which dependencies are looked up.
* `Maker.expression` : the expression for given dependencies.
* `Maker.make` : the metric for given dependencies.
* `ForeignMaker`, `AnyMaker` : a maker from outside the package, and a maker of either kind.
-/

namespace MetricQuery

/-! ### The makers -/

/-- The functions of the arithmetic maker. -/
inductive Arithmetic
  | plus
  | minus
  | multiply
  | divide
deriving DecidableEq, Repr, Inhabited

namespace Arithmetic

/-- All functions. -/
def all : List Arithmetic := [plus, minus, multiply, divide]

/-- The name of a function. -/
def name : Arithmetic → String
  | plus => "PLUS"
  | minus => "MINUS"
  | multiply => "MULTIPLY"
  | divide => "DIVIDE"

/-- The sign of a function inside expressions. -/
def sign : Arithmetic → String
  | plus => "+"
  | minus => "-"
  | multiply => "*"
  | divide => "/"

/-- The function with a name, in any letter case. -/
def named? (s : String) : Option Arithmetic :=
  all.find? (·.name == s.upperCase)

end Arithmetic

/-- A maker with its parameters. -/
inductive Maker
  /-- The maker that the others are made from; it has no expression. -/
  | base
  /-- The maker of a metric, without an expression. -/
  | metricBacked
  /-- The maker on dimensions, without an expression. -/
  | dimensionBacked
  | longSum
  | doubleSum
  | count
  | constant
  | arithmetic (function : Arithmetic)
  | ratio (scale : Binary64)
  | aggregationAverage (innerGrain : Grain)
  | thetaSketch (sketchSize : Int)
  | cardinality (byRow : Bool)
  | rowNum
  | filteredAggregation
deriving DecidableEq, Repr

namespace Maker

/-- The name of the class of a maker. -/
def className : Maker → String
  | base => "MetricMaker"
  | metricBacked => "_DictionaryBackedMaker"
  | dimensionBacked => "_DimensionBackedMaker"
  | longSum => "LongSumMaker"
  | doubleSum => "DoubleSumMaker"
  | count => "CountMaker"
  | constant => "ConstantMaker"
  | arithmetic _ => "ArithmeticMaker"
  | ratio _ => "RatioMaker"
  | aggregationAverage _ => "AggregationAverageMaker"
  | thetaSketch _ => "ThetaSketchMaker"
  | cardinality _ => "CardinalityMaker"
  | rowNum => "RowNumMaker"
  | filteredAggregation => "FilteredAggregationMaker"

/-- The category of the metrics that a maker makes. -/
def category : Maker → String
  | thetaSketch _ => "Sketch"
  | _ => "General"

/-- How a maker is shown: its class, with the parameter that sets it apart. -/
def shown : Maker → String
  | arithmetic function => "ArithmeticMaker(function=" ++ function.name.quotedLiteral ++ ")"
  | ratio scale => "RatioMaker(scale=" ++ (Scalar.float scale).literal ++ ")"
  | aggregationAverage grain => s!"AggregationAverageMaker(inner_grain={grain.name})"
  | thetaSketch size => s!"ThetaSketchMaker(sketch_size={size})"
  | m => m.className ++ "()"

/-! ### Parts of a maker -/

/-- A part of a maker: one of the two glossaries that makers share, or a value. -/
inductive Part
  | metrics
  | dimensions
  | value (d : Datum)
deriving Repr

/-- The parts of a maker by name. -/
def parts : Maker → List (String × Part)
  | base => []
  | metricBacked | longSum | doubleSum | count | constant => [("metric_dictionary", .metrics)]
  | dimensionBacked | rowNum => [("dimension_dictionary", .dimensions)]
  | arithmetic function =>
    [("metric_dictionary", .metrics), ("function", .value (.text function.name))]
  | ratio scale => [("metric_dictionary", .metrics), ("scale", .value (.float scale))]
  | aggregationAverage grain =>
    [("metric_dictionary", .metrics), ("inner_grain", .value (.text grain.name))]
  | thetaSketch size => [("metric_dictionary", .metrics), ("sketch_size", .value (.int size))]
  | cardinality byRow => [("dimension_dictionary", .dimensions), ("by_row", .value (.bool byRow))]
  | filteredAggregation =>
    [("metric_dictionary", .metrics), ("dimension_dictionary", .dimensions)]

end Maker

/-! ### Dependencies -/

/-- The glossaries in which dependencies are looked up. -/
structure Terms where
  metrics : Glossary Metric
  dimensions : Glossary Dimension
deriving Repr, Inhabited

namespace Terms

/-- The metric with a name. -/
def metric (terms : Terms) (name : Datum) : Except Fault Metric := do
  let name ← name.readText
  match terms.metrics.get? name with
  | some metric => return metric
  | none => throw (.metricUnknown name)

/-- The dimension with a name. -/
def dimension (terms : Terms) (name : Datum) : Except Fault Dimension := do
  let name ← name.readText
  match terms.dimensions.get? name with
  | some dimension => return dimension
  | none => throw (.dimensionUnknown name)

end Terms

/-- The binary number that a value stands for: a number itself, and a text that spells one. -/
def Datum.readNumber (d : Datum) : Except Fault Binary64 :=
  match d with
  | .scalar (.float x) => .ok x
  | .scalar (.bool b) => .ok (.ofRat (if b then 1 else 0))
  | .scalar (.int n) =>
    match Binary64.ofRat n with
    | .infinite _ => .error .numberTooLarge
    | x => .ok x
  | .scalar (.text s) =>
    match Literal.readBinary64? s.toList with
    | some x => .ok x
    | none => .error (.notNumber s)
  | d => .error (.noNumber d.kind)

namespace Maker

/-! ### Making metrics -/

/-- How many dependencies a maker takes. -/
inductive Arity
  | exactly (n : Nat)
  | atLeastOne
deriving DecidableEq, Repr

/-- How many dependencies a maker takes. -/
def arity : Maker → Arity
  | count | rowNum => .exactly 0
  | ratio _ => .exactly 2
  | filteredAggregation => .exactly 3
  | arithmetic _ | cardinality _ => .atLeastOne
  | _ => .exactly 1

/-- Succeeds if a maker takes the given count of dependencies. -/
def checkCount (m : Maker) (name : Scalar) (given : Nat) : Except Fault Unit :=
  match m.arity with
  | .atLeastOne =>
    if given = 0 then .error (.dependenciesMissing m.className name) else .ok ()
  | .exactly required =>
    if given = required then .ok ()
    else .error (.dependencyCount m.className required name given)

/-- The expression of a ratio.  A scale of one is left out. -/
def ratioExpression (scale : Binary64) (terms : Terms) (numerator denominator : Datum) :
    Except Fault String := do
  let numerator ← terms.metric numerator
  let denominator ← terms.metric denominator
  let ratio := s!"({numerator.name.written} / {denominator.name.written})"
  return if Scalar.float scale == .int 1 then ratio
    else ratio ++ " * " ++ String.ofList scale.brief

/-- The expression for given dependencies. -/
def expression (m : Maker) (terms : Terms) (deps : List Datum) : Except Fault String :=
  match m, deps with
  | longSum, [d] => .ok s!"longSum({d.written})"
  | doubleSum, [d] => .ok s!"doubleSum({d.written})"
  | count, [] => .ok "count(*)"
  | constant, [d] => do return "constant(" ++ String.ofList (← d.readNumber).brief ++ ")"
  | arithmetic function, deps => do
    let _ ← deps.mapM terms.metric
    return "(" ++ s!" {function.sign} ".intercalate (deps.map Datum.written) ++ ")"
  | ratio scale, [numerator, denominator] => ratioExpression scale terms numerator denominator
  | aggregationAverage grain, [d] => do
    let metric ← terms.metric d
    return s!"avg({metric.name.written} by {grain.apiName})"
  | thetaSketch size, [d] => .ok s!"thetaSketch({d.written}, size={size})"
  | cardinality byRow, deps => do
    let dimensions ← deps.mapM terms.dimension
    return "cardinality(" ++ ", ".intercalate (dimensions.map (·.apiName)) ++ ", byRow=" ++
      (if byRow then "true" else "false") ++ ")"
  | rowNum, [] => .ok "rowNum()"
  | filteredAggregation, [metric, dimension, value] => do
    let metric ← terms.metric metric
    let dimension ← terms.dimension dimension
    let aggregate := if metric.expression = "" then metric.name.written else metric.expression
    return s!"filtered({aggregate}, {dimension.apiName} == {value.literal})"
  | _, _ => .error .notImplemented

/-- The metric with a name for given dependencies. -/
def make (m : Maker) (terms : Terms) (name : Scalar) (deps : List Datum) :
    Except Fault Metric := do
  m.checkCount name deps.length
  let expression ← m.expression terms deps
  let dependencies ← (Datum.list deps).distinctScalars
  return Metric.make name expression "" m.category dependencies

end Maker

/-! ### Makers from outside -/

/-- What is seen of a maker whose class is defined outside the package. -/
structure ForeignMaker where
  className : String
  shown : String
  parts : List (String × Maker.Part)
  make : Terms → Scalar → List Datum → Except Fault Metric

instance : Repr ForeignMaker where
  reprPrec m _ := m.shown

/-- A maker of the package, or one from outside. -/
inductive AnyMaker
  | own (m : Maker)
  | foreign (m : ForeignMaker)
deriving Repr

namespace AnyMaker

/-- The name of the class of a maker. -/
def className : AnyMaker → String
  | own m => m.className
  | foreign m => m.className

/-- How a maker is shown. -/
def shown : AnyMaker → String
  | own m => m.shown
  | foreign m => m.shown

/-- The parts of a maker by name. -/
def parts : AnyMaker → List (String × Maker.Part)
  | own m => m.parts
  | foreign m => m.parts

/-- The metric with a name for given dependencies. -/
def make : AnyMaker → Terms → Scalar → List Datum → Except Fault Metric
  | own m => m.make
  | foreign m => m.make

end AnyMaker

end MetricQuery
