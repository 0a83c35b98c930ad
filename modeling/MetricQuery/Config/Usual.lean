import MetricQuery.Config.File

/-!
# Usual configuration

The configuration that is used where no other file is named.

## Main definitions

* `ConfigFile.usualDimensions` : the usual dimensions.
* `ConfigFile.usualMakers` : the usual templates of makers.
-/

namespace MetricQuery.ConfigFile

/-- The lines of the usual configuration of dimensions. -/
def dimensionLines : List String :=
  ["fieldSets:",
   "  default:",
   "    - name: id",
   "      description: Dimension ID",
   "    - name: desc",
   "      description: Dimension Description",
   "  idOnly:",
   "    - name: id",
   "      description: Dimension ID",
   "dimensions:",
   "  - apiName: page",
   "    description: Page is a document that is suitable for the World Wide Web and web browsers",
   "    longName: wiki page",
   "    category: General",
   "    fields: default",
   "  - apiName: user",
   "    description: User is a person who uses a computer or network service",
   "    longName: wiki user",
   "    category: General",
   "  - apiName: isNew",
   "    description: Whether the page was newly created",
   "    longName: wiki isNew",
   "    category: General",
   "    fields: idOnly",
   "  - apiName: countryIsoCode",
   "    description: ISO code of the country the edit was made from",
   "    longName: wiki countryIsoCode",
   "    category: Geography",
   "    fields:",
   "      - id",
   "      - name: desc",
   "        description: Country name",
   "  - apiName: cityName",
   "    description: Name of the city the edit was made from",
   "    longName: wiki cityName",
   "    category: Geography"]

/-- The lines of the usual configuration of makers. -/
def makerLines : List String :=
  ["makers:",
   "  - name: longSum",
   "    classPath: LongSumMaker",
   "  - name: doubleSum",
   "    classPath: DoubleSumMaker",
   "  - name: count",
   "    classPath: CountMaker",
   "  - name: constant",
   "    classPath: ConstantMaker",
   "  - name: sum",
   "    classPath: ArithmeticMaker",
   "    params:",
   "      function: PLUS",
   "  - name: difference",
   "    classPath: ArithmeticMaker",
   "    params:",
   "      function: MINUS",
   "  - name: ratio",
   "    classPath: RatioMaker",
   "  - name: percentage",
   "    classPath: RatioMaker",
   "    params:",
   "      scale: 100",
   "  - name: dayAvg",
   "    classPath: AggregationAverageMaker",
   "    params:",
   "      innerGrain: DAY",
   "  - name: hourAvg",
   "    classPath: AggregationAverageMaker",
   "    params:",
   "      innerGrain: HOUR",
   "  - name: thetaSketch",
   "    classPath: ThetaSketchMaker",
   "    params:",
   "      sketchSize: 16384",
   "  - name: cardinality",
   "    classPath: CardinalityMaker",
   "  - name: rowNum",
   "    classPath: RowNumMaker",
   "  - name: filtered",
   "    classPath: FilteredAggregationMaker"]

/-- The text of lines. -/
def textOfLines (lines : List String) : String :=
  String.join (lines.map (· ++ "\n"))

/-- The usual dimensions, in a file below a root directory. -/
def usualDimensions (root : String) : ConfigFile :=
  ⟨root ++ "/config/dimensions.yml", .content (textOfLines dimensionLines)⟩

/-- The usual templates of makers, in a file below a root directory. -/
def usualMakers (root : String) : ConfigFile :=
  ⟨root ++ "/config/metric_makers.yml", .content (textOfLines makerLines)⟩

end MetricQuery.ConfigFile
