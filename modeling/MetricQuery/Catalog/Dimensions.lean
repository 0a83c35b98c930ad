import MetricQuery.Config.File
import MetricQuery.Maker.Dictionary
import MetricQuery.Rows.Store

/-!
# Loading of dimensions

The dimensions of a configuration are loaded in the order of the document.  Each one is bound to the
row store and the search provider of its name, and its provider to its store.  The first description
that repeats a name or names an unknown set of fields ends the load; what was bound before it stays.

## Main definitions

* `CatalogFault`, `CatalogFault.message` : why a catalog is not loaded.
* `DimensionConfig.load` : the dimensions of a configuration with the stores and providers.
* `Glossary.registerAll` : the registration of several dimensions.
* `Dimension.namedIn` : the dimensions with given names.
-/

namespace MetricQuery

/-- Why a catalog is not loaded. -/
inductive CatalogFault
  | config (fault : ConfigFault)
  /-- A dimension is described twice in one document. -/
  | dimensionRepeated (name : String)
  /-- A dimension is registered whose name is taken. -/
  | dimensionTaken (name : String)
  | build (stop : BuildStop)
deriving DecidableEq, Repr

/-- The wording of a fault. -/
def CatalogFault.message : CatalogFault → String
  | config fault => fault.message
  | dimensionRepeated name => (Notice.dimensionRepeated name).text
  | dimensionTaken name => (Notice.dimensionTaken name).text
  | build stop => stop.message

/-- The notices of a fault of the dimensions. -/
def CatalogFault.notices : CatalogFault → List Notice
  | dimensionRepeated name => [.dimensionRepeated name]
  | dimensionTaken name => [.dimensionTaken name]
  | _ => []

/-- The stores and providers with those of a dimension, which are bound to each other. -/
def Rows.attach (rows : Rows) (name : String) : Rows :=
  ((rows.openStore name).openProvider name).bind name (some name)

/-- What a load of dimensions leads to. -/
structure DimensionLoad where
  rows : Rows
  notices : List Notice
  outcome : Except CatalogFault (List Dimension)

namespace DimensionConfig

/-- The fields of a described dimension. -/
def fieldsOf (config : DimensionConfig) (t : DimensionTemplate) :
    Except ConfigFault (List DimensionField) :=
  match t.fields with
  | .usual => .ok ((config.fieldSets.get? "default").getD [])
  | .listed fields => .ok fields
  | .named set =>
    match config.fieldSets.get? set with
    | some fields => .ok fields
    | none => .error (.unknownFieldSet t.apiName set config.fieldSets.keys)

/-- The dimension of a description, bound to the store and provider of its name.  The description
may not repeat one of the names `seen`, and has to name a known set of fields. -/
def dimension (config : DimensionConfig) (seen : List String) (t : DimensionTemplate) :
    Except CatalogFault Dimension :=
  if seen.contains t.apiName.lowerCase then .error (.dimensionRepeated t.apiName)
  else
    match config.fieldsOf t with
    | .error fault => .error (.config fault)
    | .ok fields =>
      .ok { Dimension.make t.apiName t.description t.longName t.category fields fields with
        store := some t.apiName, provider := some t.apiName }

/-- The dimensions of several descriptions after those with the names `seen`. -/
def loadAll (config : DimensionConfig) (seen : List String) (rows : Rows) :
    List DimensionTemplate → Rows × Except CatalogFault (List Dimension)
  | [] => (rows, .ok [])
  | t :: rest =>
    match config.dimension seen t with
    | .error fault => (rows, .error fault)
    | .ok d =>
      let (rows, loaded) :=
        loadAll config (t.apiName.lowerCase :: seen) (rows.attach t.apiName) rest
      (rows, loaded.map (d :: ·))

/-- The dimensions of a configuration. -/
def load (config : DimensionConfig) (rows : Rows) : DimensionLoad :=
  let (rows, outcome) := config.loadAll [] rows config.dimensions
  match outcome with
  | .ok dimensions => ⟨rows, [.dimensionsLoaded dimensions.length], .ok dimensions⟩
  | .error fault => ⟨rows, fault.notices, .error fault⟩

end DimensionConfig

/-- The glossary with several dimensions registered one after another, and the first name that was
taken.  Dimensions in front of it stay registered. -/
def Glossary.registerAll (g : Glossary Dimension) :
    List Dimension → Glossary Dimension × Option String
  | [] => (g, none)
  | d :: rest =>
    match g.register? d with
    | none => (g, some d.apiName)
    | some g => g.registerAll rest

/-- The dimensions with given names, in the order of the names.  Names of no dimension are left
out. -/
def Dimension.namedIn (ds : List Dimension) (names : List String) : List Dimension :=
  names.filterMap fun name => ds.find? (·.apiName == name)

end MetricQuery
