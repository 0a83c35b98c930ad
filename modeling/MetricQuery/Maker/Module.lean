import MetricQuery.Maker.Class

/-!
# Paths of maker classes

A class path is the name of a built-in maker or leads through modules to a class: the part before
the last dot names a module and the part behind it a member of the module.  The modules of the
package form a tree; some hold modules only, the others define members.  Which modules there are
besides, and what they define, is given from outside.

## Main definitions

* `Module` : a module with its members.
* `Module.all` : the modules of the package.
* `MakerClass.resolve` : the class at a path.
-/

namespace MetricQuery

/-- A module: its full name, whether it holds modules, the classes of makers that it defines or
takes over, and its other members. -/
structure Module where
  name : String
  isPackage : Bool
  classes : List AnyClass
  others : List String

namespace Module

/-! ### Members -/

/-- The members that every module has. -/
def commonMembers : List String :=
  ["__annotations__", "__class__", "__delattr__", "__dict__", "__dir__", "__doc__", "__eq__",
   "__file__", "__format__", "__ge__", "__getattribute__", "__getstate__", "__gt__", "__hash__",
   "__init__", "__init_subclass__", "__le__", "__loader__", "__lt__", "__name__", "__ne__",
   "__new__", "__package__", "__reduce__", "__reduce_ex__", "__repr__", "__setattr__",
   "__sizeof__", "__spec__", "__str__", "__subclasshook__"]

/-- A module that holds modules. -/
def package (name : String) (modules : List String) : Module :=
  ⟨name, true, [], modules ++ "__path__" :: commonMembers⟩

/-- A module that defines members. -/
def leaf (name : String) (classes : List AnyClass) (others : List String) : Module :=
  ⟨name, false, classes, others ++ "__builtins__" :: "__cached__" :: "annotations" :: commonMembers⟩

/-- The members of a module by the name of the member. -/
def member? (m : Module) (name : String) : Option (Option AnyClass) :=
  match m.classes.find? (·.name == name) with
  | some c => some (some c)
  | none => if m.others.contains name then some none else none

/-! ### The tree -/

/-- The modules with settings, faults and small tools. -/
def core : List Module :=
  [package "src.core" ["config", "errors", "logging", "utils"],
   leaf "src.core.config" []
     ["Path", "lru_cache", "BaseSettings", "SettingsConfigDict", "load_dotenv", "_PROJECT_ROOT",
      "Settings", "get_settings"],
   leaf "src.core.errors" []
     ["ConfigLoadError", "MakerTemplateError", "DuplicateMakerError", "DuplicateDimensionError"],
   leaf "src.core.logging" []
     ["logging", "sys", "get_settings", "LOG_FORMAT", "DATE_FORMAT", "_resolve_level",
      "get_logger"],
   leaf "src.core.utils" []
     ["time", "contextmanager", "Path", "Any", "Generator", "Hashable", "Iterable", "TypeVar",
      "yaml", "ConfigLoadError", "T", "timer", "ordered_unique", "read_yaml"]]

/-- The modules of requests. -/
def request : List Module :=
  [package "src.request" ["model", "sorts", "spec", "time_grain"],
   leaf "src.request.model" []
     ["dataclass", "field", "datetime", "Enum", "Any", "ordered_unique", "Granularity",
      "DATE_TIME", "_freeze", "LogicalTable", "DimensionField", "Dimension", "LogicalMetric",
      "Interval", "SortDirection", "OrderByColumn", "FilterOperation", "ApiFilter",
      "HavingOperation", "ApiHaving", "ResponseFormatType", "PaginationParameters"],
   leaf "src.request.sorts" []
     ["Iterable", "OrderByColumn", "extract_time_sort", "extract_standard_sorts",
      "combine_sorts"],
   leaf "src.request.spec" []
     ["dataclass", "field", "replace", "tzinfo", "MappingProxyType", "Iterable", "Mapping",
      "Union", "ZoneInfo", "get_settings", "ordered_unique", "ApiFilter", "ApiHaving",
      "Dimension", "DimensionField", "Interval", "LogicalMetric", "LogicalTable",
      "OrderByColumn", "PaginationParameters", "ResponseFormatType", "combine_sorts",
      "extract_standard_sorts", "extract_time_sort", "Granularity", "FilterInput",
      "_freeze_dimension_fields", "_freeze_filters", "_freeze_havings", "DataQuerySpec"],
   leaf "src.request.time_grain" []
     ["Enum", "Union", "TimeGrain", "AllGranularity", "Granularity"]]

/-- The modules of the catalog. -/
def catalog : List Module :=
  [package "src.catalog" ["configuration", "dictionaries", "dimension_loader", "stores"],
   leaf "src.catalog.configuration" []
     ["dataclass", "field", "Path", "DimensionDictionary", "MetricDictionary",
      "DimensionsLoader", "SearchProviderRegistry", "StoreRegistry", "get_settings",
      "get_logger", "MetricMakerDictionary", "load_maker_templates", "logger", "Catalog",
      "load_catalog"],
   leaf "src.catalog.dictionaries" []
     ["Generic", "Iterable", "Iterator", "TypeVar", "DuplicateDimensionError", "get_logger",
      "Dimension", "LogicalMetric", "logger", "T", "_key", "_NamedDictionary",
      "MetricDictionary", "DimensionDictionary"],
   leaf "src.catalog.dimension_loader" []
     ["Path", "Any", "Iterable", "Union", "BaseModel", "ConfigDict", "Field",
      "ValidationError", "DimensionDictionary", "SearchProviderRegistry", "StoreRegistry",
      "get_settings", "ConfigLoadError", "DuplicateDimensionError", "get_logger", "read_yaml",
      "Dimension", "DimensionField", "logger", "DEFAULT_FIELD_SET", "FieldTemplate",
      "DimensionTemplate", "DimensionConfigTemplate", "parse_dimension_config",
      "DimensionsLoader"],
   leaf "src.catalog.stores" []
     ["threading", "Callable", "Generic", "TypeVar", "T", "KeyValueStore",
      "ScanSearchProvider", "_Registry", "StoreRegistry", "SearchProviderRegistry"]]

/-- The modules of makers. -/
def makers : List Module :=
  [package "src.makers" ["dictionary", "makers", "template"],
   leaf "src.makers.dictionary" [.own .base]
     ["importlib", "inspect", "re", "types", "Any", "Iterable", "Union", "get_args",
      "get_origin", "get_type_hints", "DimensionDictionary", "MetricDictionary",
      "DuplicateMakerError", "MakerTemplateError", "get_logger", "timer", "BUILTIN_MAKERS",
      "MakerTemplate", "TimeGrain", "logger", "_TRUE", "_FALSE", "_NO_VALUE", "_camel",
      "_snake", "_unwrap_optional", "resolve_maker_class", "MetricMakerDictionary",
      "_parse_bool"],
   leaf "src.makers.makers" (MakerClass.all.map .own)
     ["Sequence", "DimensionDictionary", "MetricDictionary", "LogicalMetric", "TimeGrain",
      "VARIABLE_DEPENDENCIES", "BUILTIN_MAKERS"],
   leaf "src.makers.template" []
     ["Path", "Any", "BaseModel", "ConfigDict", "Field", "ValidationError", "field_validator",
      "get_settings", "ConfigLoadError", "get_logger", "read_yaml", "logger", "MakerTemplate",
      "_as_literal", "parse_maker_templates", "load_maker_templates"]]

/-- The modules of the package. -/
def all : List Module :=
  package "src" ["core", "request", "catalog", "makers"] :: (core ++ request ++ catalog ++ makers)

/-- The module with a full name, in the package or outside. -/
def named? (outside : List Module) (name : String) : Option Module :=
  (all ++ outside).find? (·.name == name)

end Module

/-! ### Resolution -/

/-- Why no maker can be built: the template is rejected, or its path starts at no module. -/
inductive BuildFault
  | rejected (reason : Rejection)
  /-- The name of the module starts with a dot. -/
  | relativePath (moduleName : String)
deriving Repr

/-- The wording of a fault. -/
def BuildFault.message : BuildFault → String
  | rejected reason => reason.text
  | relativePath moduleName =>
    "the 'package' argument is required to perform a relative import for " ++
      moduleName.quotedLiteral

namespace MakerClass

/-- The part of a path before its last dot, empty if there is none, and the part behind it. -/
def splitPath (path : List Char) : List Char × List Char :=
  let member := (path.reverse.takeWhile (· != '.')).reverse
  (path.take (path.length - member.length - 1), member)

/-- The dotted names from the root of a tree down to a module. -/
def ancestry (name : List Char) : List (List Char) :=
  ((List.range name.length).filter fun i => name[i]? == some '.').map name.take ++ [name]

section Paths

variable (outside : List Module)

/-- The module with a full name, found from the root down; the path is the one asked for. -/
def findModule (path : String) : Option Module → List (List Char) → Except Rejection (Option Module)
  | found, [] => .ok found
  | found, name :: rest =>
    let name := String.ofList name
    match Module.named? outside name with
    | some m => findModule path (some m) rest
    | none =>
      match found with
      | some parent =>
        if parent.isPackage then .error (.noModule path name)
        else .error (.noSubmodule path name parent.name)
      | none => .error (.noModule path name)

/-- The class that a member of a module is. -/
def findMember (path moduleName member : String) : Except Rejection AnyClass := do
  match ← findModule outside path none (ancestry moduleName.toList) with
  | none => throw (.noModule path moduleName)
  | some m =>
    match m.member? member with
    | none => throw (.noMember path moduleName member)
    | some none => throw (.notMaker path)
    | some (some c) => return c

/-- The class at a path. -/
def resolve (path : String) : Except BuildFault AnyClass :=
  match builtIn.find? (·.name == path) with
  | some c => .ok (.own c)
  | none =>
    let (moduleName, member) := splitPath path.toList
    match moduleName with
    | [] => .error (.rejected (.unknownMaker path (builtIn.map name)))
    | '.' :: _ => .error (.relativePath (String.ofList moduleName))
    | _ =>
      (findMember outside path (String.ofList moduleName) (String.ofList member)).mapError .rejected

end Paths

end MakerClass

/-- The maker that a template describes. -/
def Template.build (outside : List Module) (t : Template) : Except BuildFault AnyMaker := do
  let c ← MakerClass.resolve outside t.classPath
  (c.build t).mapError .rejected

end MetricQuery
