import ApiModel.Api.Basic
import ApiModel.Document.RequestBody
import ApiModel.Document.Responses

/-!
# The operations of a document

An operation is a map under a method in the item of a path. Its parameters are those of the path
that it does not replace, then its own, and last its body. A parameter replaces one of the path
with the same name and location.

* `own_subset_combined`: no parameter of an operation is lost to one of its path.
-/

namespace ApiModel.Document

/-! ## Parameters -/

/-- The name and the location of a parameter. -/
def identity (a : Argument) : String × Location := (a.parameter.name, a.parameter.location)

/-- The parameters of a path that an operation does not replace, and then its own. -/
def combined (ofPath own : List Argument) : List Argument :=
  ofPath.filter (fun a => !(own.map identity).contains (identity a)) ++ own

theorem own_subset_combined (ofPath own : List Argument) : own ⊆ combined ofPath own :=
  List.subset_append_right ..

/-- Whether a parameter is a body. -/
def isBody (a : Argument) : Bool := a.parameter.location == .body

/-- The parameter that the body of an operation becomes, the other parameters being given. -/
def requestBody (settings : Settings) (version : Version) (document operation : Value)
    (parameters : List Argument) : Traced (Option Parameter) :=
  match version with
  | .swagger2 =>
    lastBody settings document operation ((parameters.filter isBody).map (·.parameter))
  | .openApi3 => keyedBody settings document operation

/-- The parameters that are listed with an operation. In Swagger 2 bodies are not, since the last of
them becomes the request body. -/
def listed (version : Version) (parameters : List Argument) : List Argument :=
  match version with
  | .swagger2 => parameters.filter (!isBody ·)
  | .openApi3 => parameters

/-- The parameters of an operation, those of its path being given. -/
def allParameters (settings : Settings) (version : Version) (document operation : Value)
    (table : Table) (ofPath : List Argument) : Traced (List Argument) := do
  let own ← arguments version table operation
  let parameters := combined ofPath own
  let body ← requestBody settings version document operation parameters
  return listed version parameters ++ (body.map .own).toList

/-! ## Operations -/

/-- The texts of an operation. -/
def checkTexts (path : Scalar) (operation : Value) (tags : List Value) :
    Checked (((String × String) × (Option String × Option String)) × List String) :=
  Checked.both
    (Checked.both
      (Checked.both
        ((operation.getD "operationId").checkText.within [.name "operation_id"])
        ((Value.checkText (.scalar path)).within [.name "path"]))
      (Checked.both
        ((operation.getD "description").checkTextOrNull.within [.name "description"])
        ((operation.getD "summary").checkTextOrNull.within [.name "summary"])))
    ((Checked.all 0 (tags.map Value.checkText)).within [.name "tags"])

/-- The operation of a method at a path. -/
def operation (settings : Settings) (version : Version) (document : Value) (table : Table)
    (path : Scalar) (method : Method) (ofPath : List Argument) (v : Value) :
    Traced Operation := do
  if !(v.getD "operationId").isTruthy then
    .fail (.missingOperationId (.scalar path) method.word)
  else
    let parameters ← allParameters settings version document v table ofPath
    let rs ← responses version document v
    let tags ← (v.getD "tags").items
    let (((id, path), description, summary), tags) ←
      Value.checkedAs .operation (checkTexts path v tags)
    return {
      id, method, path, parameters, description, summary, tags,
      deprecated := (v.getD "deprecated").isTruthy
      responses := rs }

/-- The method that an entry of the item of a path gives an operation for. -/
def methodOf? (e : Scalar × Value) : Option (Method × Value) :=
  match e with
  | (.text key, v) => if v.isMap then (Method.ofWord? key).map fun m => (m, v) else none
  | _ => none

/-- The operations of the item of a path. -/
def itemOperations (settings : Settings) (version : Version) (document : Value) (table : Table)
    (path : Scalar) (item : Value) : Traced (List Operation) := do
  match ← Reference.follow document item with
  | .map entries =>
    let ofPath ← arguments version table (.map entries)
    (entries.filterMap methodOf?).mapM fun e =>
      operation settings version document table path e.1 ofPath e.2
  | _ => return []

/-- The operations of a document, in the order of its paths and their methods. -/
def operations (settings : Settings) (version : Version) (document : Value) (table : Table) :
    Traced (List Operation) := do
  let items ← (← document.under "paths").entries
  let os ← items.mapM fun e => itemOperations settings version document table e.1 e.2
  return os.flatten

end ApiModel.Document
