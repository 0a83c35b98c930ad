import MetricQuery.Query.Spec
import MetricQuery.Setup.EnvFile

/-!
# Settings

Settings come from the environment, else from a file of assignments, else from defaults.  Names are
compared without regard to letter case.

## Main definitions

* `Settings` : the settings of a process.
* `Settings.load` : the settings under an environment and a file of assignments.
* `Spec.build` : a specification with a missing format, zone or threshold taken from the settings.
-/

namespace MetricQuery

/-- The settings of a process. -/
structure Settings where
  makerConfigPath : String
  dimensionConfigPath : String
  defaultTimeZone : String
  /-- The count of milliseconds after which a query is answered later; never, if negative. -/
  defaultAsyncAfter : Int
  defaultFormat : String
  logLevel : String
deriving Repr, Inhabited

namespace Settings

/-- Why settings cannot be loaded: some of them have values of the wrong form. -/
inductive LoadFault
  | invalid (count : Nat)
deriving DecidableEq, Repr

/-- A count of faults in what has a name. -/
def countText (count : Nat) (owner : String) : String :=
  if count = 1 then s!"1 validation error for {owner}"
  else s!"{count} validation errors for {owner}"

/-- The wording of a fault. -/
def LoadFault.message : LoadFault → String
  | invalid count => countText count "Settings"

/-! ### Reading values -/

/-- Whether `c` is white space at the ends of an integer setting. -/
def isSpace (c : Char) : Bool :=
  Text.isBlank c && !(0x1C ≤ c.toNat && c.toNat ≤ 0x1F)

/-- The digits of a row without the zeros in front, of which the last one stays.  Single
underscores between digits are dropped. -/
def digitsOf? (row : List Char) : Option (List Char) :=
  (Literal.ungrouped? row).bind fun digits =>
    if digits.all Text.isAsciiDigit then some digits else none

/-- Reads an integer setting: an optional sign, digits with single underscores between, and an
optional fraction of zeros. -/
def readCount? (s : String) : Option Int := do
  let (negative, body) := Literal.splitSign (Text.trimBy isSpace s.toList)
  let whole := body.takeWhile (· != '.')
  let fraction := (body.dropWhile (· != '.')).drop 1
  guard (fraction.all (· == '0'))
  let digits ← digitsOf? whole
  guard (digits.length ≤ Literal.maxIntegerDigits)
  let n : Int := Literal.digitsValue digits
  return if negative then -n else n

/-- A path without empty parts and parts that stay in place; an empty path is the place itself. -/
def normalPath (path : String) : String :=
  let chars := path.toList
  let root :=
    match chars with
    | '/' :: '/' :: '/' :: _ => "/"
    | '/' :: '/' :: _ => "//"
    | '/' :: _ => "/"
    | _ => ""
  let parts := (chars.splitOn '/').filter fun part => part ≠ [] ∧ part ≠ ['.']
  let joined := root ++ "/".intercalate (parts.map String.ofList)
  if joined = "" then "." else joined

/-! ### Loading -/

/-- The last value under a name, compared without regard to letter case. -/
def lookup {ν : Type} (values : Keyed String ν) (name : String) : Option ν :=
  (values.reverse.find? fun entry => entry.1.lowerCase == name).map (·.2)

/-- The settings under an environment and a file of assignments, with defaults below a root
directory. -/
def load (root : String) (environment : Keyed String String) (file : Option String) :
    Except LoadFault Settings := do
  let assigned := (file.map (EnvFile.read environment)).getD []
  let value? (name : String) : Option String :=
    match lookup environment name with
    | some value => some value
    | none => (lookup assigned name).bind id
  let path (name default : String) : String :=
    ((value? name).map normalPath).getD (root ++ default)
  let asyncAfter ←
    match value? "default_async_after_ms" with
    | none => pure (-1)
    | some s =>
      match readCount? s with
      | some n => pure n
      | none => throw (.invalid 1)
  return {
    makerConfigPath := path "maker_config_path" "/config/metric_makers.yml"
    dimensionConfigPath := path "dimension_config_path" "/config/dimensions.yml"
    defaultTimeZone := (value? "default_time_zone").getD "UTC"
    defaultAsyncAfter := asyncAfter
    defaultFormat := (value? "default_format").getD "json"
    logLevel := (value? "log_level").getD "INFO" }

end Settings

/-! ### Specifications with defaults -/

/-- The specification with given parts, in which format, zone and threshold are those of the
settings where they are missing.  A setting is read only where it is needed, the format before the
zone, which has to be installed. -/
def Spec.build (zones : ZoneDatabase) (settings : Settings) (table : Table)
    (granularity : Granularity) (format : Option ResponseFormat) (timeZone : Option Zone)
    (asyncAfter : Datum) (choices : Choices) : Except Fault Spec := do
  let format ← format.elim (ResponseFormat.read settings.defaultFormat) .ok
  let timeZone ← timeZone.elim (Zone.read zones settings.defaultTimeZone) .ok
  let asyncAfter :=
    if asyncAfter == .null then .int settings.defaultAsyncAfter else asyncAfter
  make { choices with table, granularity, format, timeZone, asyncAfter }

end MetricQuery
