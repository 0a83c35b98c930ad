import MetricQuery.Config.Check
import MetricQuery.Datum.Written
import MetricQuery.Maker.Template

/-!
# Configuration of makers

A document lists templates of makers.  The parameters of a template may be of any kind; they are
kept as literal texts.

## Main definitions

* `Datum.literalText?` : the literal text of a parameter.
* `Template.check` : the template that a value describes, or the number of its faults.
* `Template.checkAll` : the templates of a document.
-/

namespace MetricQuery

/-! ### Literal texts -/

/-- The least integer whose text is too long to be written. -/
def integerBound : Nat := Nat.pow 10 Literal.maxIntegerDigits

namespace Datum

mutual

/-- Whether every integer in a value is short enough to be written. -/
def isWritable : Datum → Bool
  | scalar (.int n) => n.natAbs < integerBound
  | list items => areWritable items
  | set members => areWritable members
  | pair first second => first.isWritable && second.isWritable
  | map entries => haveWritable entries
  | _ => true

/-- Whether every integer in a list of values is short enough to be written. -/
def areWritable : List Datum → Bool
  | [] => true
  | d :: rest => d.isWritable && areWritable rest

/-- Whether every integer in a list of entries is short enough to be written. -/
def haveWritable : List (Datum × Datum) → Bool
  | [] => true
  | (key, value) :: rest => key.isWritable && value.isWritable && haveWritable rest

end

/-- The literal text of a value: a truth value as a word in lower case, any other value as it is
written. -/
def literalText (d : Datum) : String :=
  match d with
  | .scalar (.bool b) => if b then "true" else "false"
  | d => d.written

/-- The literal texts of the entries of a map, if all can be written. -/
def literalEntries? (entries : List (Datum × Datum)) : Option (Keyed String String) :=
  if haveWritable entries then
    some (Keyed.ofList (entries.map fun (key, value) => (key.written, value.literalText)))
  else none

end Datum

/-! ### Templates -/

/-- Why a document holds no templates. -/
inductive TemplateFault
  /-- The document is no map, or the templates are not in a list. -/
  | noList
  /-- The first template with faults has so many. -/
  | invalid (count : Nat)
deriving DecidableEq, Repr

namespace Template

/-- A text of at least one character. -/
def checkName (d : Datum) : Checked String :=
  match d.asText? with
  | some s => if s = "" then .error 1 else .ok s
  | none => .error 1

/-- The parameters that a map describes; none for the absent value. -/
def checkParams (d : Datum) : Checked (Keyed String String) :=
  match d with
  | .scalar .null => .ok []
  | .map entries =>
    match Datum.literalEntries? entries with
    | some params => .ok params
    | none => .error 1
  | _ => .error 1

/-- The template that a map describes. -/
def check (d : Datum) : Checked Template :=
  match d with
  | .map _ =>
    let name := Checked.required checkName (d.field? "name")
    let classPath := Checked.required checkName (d.fieldOr? "classPath" "class_path")
    let params := Checked.optional checkParams [] (d.field? "params")
    Checked.map₂ (fun (texts : String × String) params => ⟨texts.1, texts.2, params⟩)
      (Checked.map₂ Prod.mk name classPath) params
  | _ => .error 1

/-- The templates of a list.  The first one with faults ends the check. -/
def checkList (ds : List Datum) : Except TemplateFault (List Template) :=
  ds.mapM fun d => (check d).mapError .invalid

/-- The templates of a document; an absent document has none. -/
def checkAll (d : Datum) : Except TemplateFault (List Template) :=
  match d with
  | .scalar .null => .ok []
  | .map _ =>
    match d.field? "makers" with
    | none => .ok []
    | some (.list entries) => checkList entries
    | some _ => .error .noList
  | _ => .error .noList

end Template

end MetricQuery
