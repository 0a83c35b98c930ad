import MetricQuery.Config.Dimensions
import MetricQuery.Config.Templates
import MetricQuery.Document.Token
import MetricQuery.Setup.Settings

/-!
# Configuration files

The configuration of dimensions and that of makers are documents in files.  What data a document
stands for is up to the reader of documents.

## Main definitions

* `DocumentReader` : what the texts of documents stand for.
* `ConfigFile` : a file with what its path leads to.
* `ConfigFault`, `ConfigFault.message` : why a file holds no configuration.
* `ConfigFile.dimensions`, `ConfigFile.templates` : the configuration in a file.
-/

namespace MetricQuery

/-- A reader of documents: the data that a text stands for, or why it stands for none. -/
abbrev DocumentReader := String → Except DocumentFault Datum

/-- What a path leads to. -/
inductive FileState
  | missing
  | directory
  | content (text : String)
deriving DecidableEq, Repr

/-- A file with what its path leads to. -/
structure ConfigFile where
  path : String
  state : FileState
deriving DecidableEq, Repr

/-- Why a file holds no configuration. -/
inductive ConfigFault
  | missing (path : String)
  | directory (path : String)
  | malformed (path : String)
  /-- The reader of documents ends in a fault other than that the text is malformed. -/
  | scalar (fault : DocumentFault)
  | dimensions (count : Nat)
  | templates (fault : TemplateFault)
  /-- A dimension names a field set that is not defined. -/
  | unknownFieldSet (dimension set : String) (known : List String)
deriving DecidableEq, Repr

/-- The wording of a fault. -/
def ConfigFault.message : ConfigFault → String
  | missing path =>
    s!"Cannot read configuration file '{path}': [Errno 2] No such file or directory: " ++
      path.quotedLiteral
  | directory path =>
    s!"Cannot read configuration file '{path}': [Errno 21] Is a directory: {path.quotedLiteral}"
  | malformed path => s!"Malformed YAML in '{path}'"
  | scalar fault => fault.message
  | dimensions count =>
    "Invalid dimension configuration: " ++ Settings.countText count "DimensionConfigTemplate"
  | templates .noList => "Maker configuration must be a mapping with a 'makers' list"
  | templates (.invalid count) =>
    "Invalid maker template: " ++ Settings.countText count "MakerTemplate"
  | unknownFieldSet dimension set known =>
    let list := if known.isEmpty then "(none)" else ", ".intercalate known
    s!"Dimension '{dimension}' references unknown field set '{set}'. Known: {list}"

/-- The configuration of dimensions that a value describes. -/
def Datum.dimensionConfig (d : Datum) : Except ConfigFault DimensionConfig :=
  (DimensionConfig.check d).mapError .dimensions

/-- The templates that a value describes. -/
def Datum.templates (d : Datum) : Except ConfigFault (List Template) :=
  (Template.checkAll d).mapError .templates

namespace ConfigFile

/-- The data of a file. -/
def read (file : ConfigFile) (reader : DocumentReader) : Except ConfigFault Datum :=
  match file.state with
  | .missing => .error (.missing file.path)
  | .directory => .error (.directory file.path)
  | .content text =>
    match reader text with
    | .ok d => .ok d
    | .error .malformed => .error (.malformed file.path)
    | .error fault => .error (.scalar fault)

/-- The configuration of dimensions in a file. -/
def dimensions (file : ConfigFile) (reader : DocumentReader) :
    Except ConfigFault DimensionConfig := do
  (← file.read reader).dimensionConfig

/-- The templates in a file. -/
def templates (file : ConfigFile) (reader : DocumentReader) :
    Except ConfigFault (List Template) := do
  (← file.read reader).templates

end ConfigFile

end MetricQuery
