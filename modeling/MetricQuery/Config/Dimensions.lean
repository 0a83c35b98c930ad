import MetricQuery.Config.Check
import MetricQuery.Keyed
import MetricQuery.Vocabulary.Term

/-!
# Configuration of dimensions

A document describes dimensions and named sets of fields.  The fields of a dimension are a named
set, a list of their own, or the usual set.

## Main definitions

* `FieldChoice`, `DimensionTemplate` : the description of a dimension.
* `DimensionConfig` : the dimensions and field sets of a document.
* `DimensionConfig.check` : the configuration that a value describes, or the number of its faults.
-/

namespace MetricQuery

/-- Where the fields of a dimension come from. -/
inductive FieldChoice
  /-- The set that a document defines for dimensions without a choice. -/
  | usual
  | named (set : String)
  | listed (fields : List DimensionField)
deriving DecidableEq, Repr

/-- The description of a dimension. -/
structure DimensionTemplate where
  apiName : String
  description : String
  longName : String
  category : String
  fields : FieldChoice
deriving DecidableEq, Repr

/-- The field sets and the dimensions of a document. -/
structure DimensionConfig where
  fieldSets : Keyed String (List DimensionField)
  dimensions : List DimensionTemplate
deriving DecidableEq, Repr, Inhabited

/-- The field that a map with a name and perhaps a description describes. -/
def DimensionField.check (d : Datum) : Checked DimensionField :=
  match d with
  | .map _ =>
    Checked.map₂ DimensionField.mk
      (Checked.required Datum.checkText (d.field? "name"))
      (Checked.optional Datum.checkText "" (d.field? "description"))
  | _ => .error 1

namespace FieldChoice

/-- The field that an item of a list names or describes.  An item that fits neither form has the
faults of both. -/
def checkItem (d : Datum) : Checked DimensionField :=
  match d.asText? with
  | some name => .ok ⟨name, ""⟩
  | none =>
    match DimensionField.check d with
    | .ok field => .ok field
    | .error n => .error (1 + n)

/-- The choice that a value describes: none, the name of a set, or a list of fields. -/
def check (d : Datum) : Checked FieldChoice :=
  match d with
  | .scalar .null => .ok usual
  | d =>
    match d.asText?, d.sequence? with
    | some set, _ => .ok (named set)
    | none, none => .error 2
    | none, some items =>
      match Checked.each checkItem items with
      | .ok fields => .ok (listed fields)
      | .error n => .error (1 + n)

end FieldChoice

/-- The dimension that a map describes. -/
def DimensionTemplate.check (d : Datum) : Checked DimensionTemplate :=
  match d with
  | .map _ =>
    let apiName := Checked.required Datum.checkText (d.fieldOr? "apiName" "api_name")
    let description := Checked.optional Datum.checkText "" (d.field? "description")
    let longName := Checked.optional Datum.checkText "" (d.fieldOr? "longName" "long_name")
    let category := Checked.optional Datum.checkText "General" (d.field? "category")
    let fields := Checked.optional FieldChoice.check .usual (d.field? "fields")
    let names := Checked.map₂ Prod.mk apiName description
    let labels := Checked.map₂ Prod.mk longName category
    let texts := Checked.map₂ Prod.mk names labels
    Checked.map₂ (fun (texts : (String × String) × (String × String)) fields =>
      ⟨texts.1.1, texts.1.2, texts.2.1, texts.2.2, fields⟩) texts fields
  | _ => .error 1

namespace DimensionConfig

/-- A list of values that are checked one by one. -/
def checkList {α : Type} (check : Datum → Checked α) (d : Datum) : Checked (List α) :=
  match d.sequence? with
  | some items => Checked.each check items
  | none => .error 1

/-- A field set with its name. -/
def checkFieldSet (entry : Datum × Datum) : Checked (String × List DimensionField) :=
  Checked.map₂ Prod.mk entry.1.checkText (checkList DimensionField.check entry.2)

/-- The field sets that a map describes. -/
def checkFieldSets (d : Datum) : Checked (Keyed String (List DimensionField)) :=
  match d with
  | .map entries => (Checked.each checkFieldSet entries).map Keyed.ofList
  | _ => .error 1

/-- The configuration that a value describes.  An empty value describes no dimensions. -/
def check (d : Datum) : Checked DimensionConfig :=
  if d.isEmpty then .ok ⟨[], []⟩
  else
    match d with
    | .map _ =>
      Checked.map₂ DimensionConfig.mk
        (Checked.optional checkFieldSets [] (d.fieldOr? "fieldSets" "field_sets"))
        (Checked.optional (checkList DimensionTemplate.check) [] (d.field? "dimensions"))
    | _ => .error 1

end DimensionConfig

end MetricQuery
