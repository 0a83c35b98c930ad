import MetricQuery.Catalog.Dimensions

/-!
# Catalogs

A catalog holds dimensions, metrics and makers.  It is loaded from a file that describes dimensions
and one that lists templates of makers, as a reader of documents reads them; the templates may name
classes in modules from outside.

## Main definitions

* `Catalog` : dimensions, metrics, makers, and the rows of the dimensions.
* `Catalog.load` : the catalog that two files describe.
-/

namespace MetricQuery

/-- Dimensions, metrics and makers, with the stores and search providers of the dimensions. -/
structure Catalog where
  dimensions : Glossary Dimension
  metrics : Glossary Metric
  makers : MakerDictionary
  rows : Rows
deriving Repr, Inhabited

namespace Catalog

variable (reader : DocumentReader) (outside : List Module)

/-- The glossary of the dimensions in a file, with their stores and providers. -/
def loadDimensions (file : ConfigFile) :
    List Notice × Except CatalogFault (Glossary Dimension × Rows) :=
  match file.dimensions reader with
  | .error fault => ([], .error (.config fault))
  | .ok config =>
    let load := config.load .empty
    match load.outcome with
    | .error fault => (load.notices, .error fault)
    | .ok dimensions =>
      match Glossary.empty.registerAll dimensions with
      | (_, some name) =>
        (load.notices ++ [.dimensionTaken name], .error (.dimensionTaken name))
      | (glossary, none) => (load.notices, .ok (glossary, load.rows))

/-- The dictionary of the makers in a file. -/
def loadMakers (file : ConfigFile) : List Notice × Except CatalogFault MakerDictionary :=
  match file.templates reader with
  | .error fault => ([], .error (.config fault))
  | .ok templates =>
    let (makers, notices, stop) := MakerDictionary.empty.buildAll outside 0 templates
    let notices := .templatesRead templates.length file.path :: notices
    match stop with
    | some stop => (notices, .error (.build stop))
    | none => (notices, .ok makers)

/-- The catalog that two files describe, around given metrics. -/
def load (dimensionFile makerFile : ConfigFile) (metrics : Glossary Metric) :
    List Notice × Except CatalogFault Catalog :=
  match loadDimensions reader dimensionFile with
  | (notices, .error fault) => (notices, .error fault)
  | (notices, .ok (dimensions, rows)) =>
    match loadMakers reader outside makerFile with
    | (more, .error fault) => (notices ++ more, .error fault)
    | (more, .ok makers) =>
      (notices ++ more ++ [.catalogReady dimensions.size metrics.size makers.entries.length],
        .ok ⟨dimensions, metrics, makers, rows⟩)

end Catalog

end MetricQuery
