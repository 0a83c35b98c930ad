import MetricQuery.Maker.Basic
import MetricQuery.Maker.Signature

/-!
# Classes of makers

A class declares parameters, and builds a maker from what a template gives for them.  A class that
is defined outside the package is known by its signature and by the makers that it builds.

## Main definitions

* `MakerClass` : the classes of makers of the package.
* `MakerClass.builtIn` : the classes that are known by their names.
* `MakerClass.parameters`, `MakerClass.construct` : the signature of a class, and the maker that it
  builds from arguments.
* `ForeignClass`, `AnyClass` : a class from outside the package, and a class of either kind.
* `AnyClass.build` : the maker that a template describes.
-/

namespace MetricQuery

/-- The classes of makers of the package. -/
inductive MakerClass
  | base
  | metricBacked
  | dimensionBacked
  | longSum
  | doubleSum
  | count
  | constant
  | arithmetic
  | ratio
  | aggregationAverage
  | thetaSketch
  | cardinality
  | rowNum
  | filteredAggregation
deriving DecidableEq, Repr

namespace MakerClass

/-- The name of a class. -/
def name : MakerClass → String
  | base => "MetricMaker"
  | metricBacked => "_DictionaryBackedMaker"
  | dimensionBacked => "_DimensionBackedMaker"
  | longSum => "LongSumMaker"
  | doubleSum => "DoubleSumMaker"
  | count => "CountMaker"
  | constant => "ConstantMaker"
  | arithmetic => "ArithmeticMaker"
  | ratio => "RatioMaker"
  | aggregationAverage => "AggregationAverageMaker"
  | thetaSketch => "ThetaSketchMaker"
  | cardinality => "CardinalityMaker"
  | rowNum => "RowNumMaker"
  | filteredAggregation => "FilteredAggregationMaker"

/-- The classes that a template can name without a path. -/
def builtIn : List MakerClass :=
  [longSum, doubleSum, count, constant, arithmetic, ratio, aggregationAverage, thetaSketch,
   cardinality, rowNum, filteredAggregation]

/-- All classes. -/
def all : List MakerClass := [base, metricBacked, dimensionBacked] ++ builtIn

/-- The parameters that a class declares. -/
abbrev parameters : MakerClass → List Parameter
  | base => []
  | metricBacked | longSum | doubleSum | count | constant => [⟨"metric_dictionary", .metrics, true⟩]
  | dimensionBacked | rowNum => [⟨"dimension_dictionary", .dimensions, true⟩]
  | arithmetic => [⟨"metric_dictionary", .metrics, true⟩, ⟨"function", .text, true⟩]
  | ratio => [⟨"metric_dictionary", .metrics, true⟩, ⟨"scale", .float, false⟩]
  | aggregationAverage => [⟨"metric_dictionary", .metrics, true⟩, ⟨"inner_grain", .grain, true⟩]
  | thetaSketch => [⟨"metric_dictionary", .metrics, true⟩, ⟨"sketch_size", .int, true⟩]
  | cardinality => [⟨"dimension_dictionary", .dimensions, true⟩, ⟨"by_row", .bool, false⟩]
  | filteredAggregation =>
    [⟨"metric_dictionary", .metrics, true⟩, ⟨"dimension_dictionary", .dimensions, true⟩]

/-- The maker that a class builds from arguments. -/
def construct : (c : MakerClass) → Parameter.Arguments c.parameters → Except Rejection Maker
  | base, .nil => return .base
  | metricBacked, .cons _ .nil => return .metricBacked
  | dimensionBacked, .cons _ .nil => return .dimensionBacked
  | longSum, .cons _ .nil => return .longSum
  | doubleSum, .cons _ .nil => return .doubleSum
  | count, .cons _ .nil => return .count
  | constant, .cons _ .nil => return .constant
  | arithmetic, .cons _ (.cons function .nil) =>
    match Arithmetic.named? function with
    | some f => return .arithmetic f
    | none => throw (.unknownFunction arithmetic.name function (Arithmetic.all.map (·.name)))
  | ratio, .cons _ (.cons scale .nil) => return .ratio (scale.getD (.ofRat 1))
  | aggregationAverage, .cons _ (.cons innerGrain .nil) => return .aggregationAverage innerGrain
  | thetaSketch, .cons _ (.cons size .nil) => return .thetaSketch size
  | cardinality, .cons _ (.cons byRow .nil) => return .cardinality (byRow.getD false)
  | rowNum, .cons _ .nil => return .rowNum
  | filteredAggregation, .cons _ (.cons _ .nil) => return .filteredAggregation

/-- The maker that a template describes. -/
def build (c : MakerClass) (t : Template) : Except Rejection Maker := do
  c.construct (← t.arguments c.name c.parameters)

end MakerClass

/-! ### Classes from outside -/

/-- A class of makers that is defined outside the package. -/
structure ForeignClass where
  name : String
  /-- Why the kinds of the parameters cannot be told, if they cannot. -/
  unresolvable : Option String
  /-- The parameters, without those that take any further arguments. -/
  parameters : List Parameter
  /-- The maker that the class builds from arguments, or the wording of what it raises. -/
  construct : Parameter.Arguments parameters → Except String ForeignMaker

/-- A class of makers of the package, or one from outside. -/
inductive AnyClass
  | own (c : MakerClass)
  | foreign (c : ForeignClass)

namespace AnyClass

/-- The name of a class. -/
def name : AnyClass → String
  | own c => c.name
  | foreign c => c.name

/-- The parameters that a class declares. -/
def parameters : AnyClass → List Parameter
  | own c => c.parameters
  | foreign c => c.parameters

/-- Succeeds if the kinds of the parameters of a class can be told. -/
def resolveKinds : AnyClass → Except Rejection Unit
  | own _ => .ok ()
  | foreign c =>
    match c.unresolvable with
    | some wording => .error (.unresolvable wording)
    | none => .ok ()

/-- The maker that a class builds from arguments. -/
def construct : (c : AnyClass) → Parameter.Arguments c.parameters → Except Rejection AnyMaker
  | own c, args => (c.construct args).map .own
  | foreign c, args =>
    match c.construct args with
    | .ok m => .ok (.foreign m)
    | .error wording => .error (.raised c.name wording)

/-- The maker that a template describes. -/
def build (c : AnyClass) (t : Template) : Except Rejection AnyMaker := do
  c.resolveKinds
  c.construct (← t.arguments c.name c.parameters)

end AnyClass

end MetricQuery
