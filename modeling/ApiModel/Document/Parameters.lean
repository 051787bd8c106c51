import ApiModel.Api.Parameter
import ApiModel.Document.Container
import ApiModel.Reference.Pointer
import ApiModel.Schema.Type

/-!
# The parameters of a document

A parameter is described by a map with its name, the place where it travels and its type. OpenAPI 3
keeps the schema of the type under a key of its own; Swagger 2 does so for bodies only and mixes it
with the other keys elsewhere. The shared parameters of a document form a table by their references,
and an operation refers to them only through that table.

* `argument_of_no_reference`: what refers to nothing is read as it stands.
* `argument_shared`: a reference of the table is the parameter that stands there.
-/

namespace ApiModel.Document

open Reference (Layout)

/-! ## Types -/

/-- The keywords of a schema that is mixed with other keys. -/
def inlineKeywords : List String := ["type", "format", "items", "enum"]

/-- The schema that is mixed with other keys of a map. -/
def inlineSchema (v : Value) : Value :=
  .record (inlineKeywords.filterMap fun key => (v.get? key).map fun w => (key, w))

/-- The type of a value whose schema is mixed with its other keys; files and what has no type may
be anything. -/
def inlineType (layout : Layout) (v : Value) : Traced Ty := do
  let type ← v.under "type"
  if type.isNull || type.isText "file" then return .unknown
  else Schema.toType layout (inlineSchema v)

/-- The first schema among the media types of a content. -/
def firstSchema? (content : Entries) : Option Value := content.findSome? fun e => e.2.get? "schema"

/-- The type of a map that keeps its schema under a key or under the media types of its content. -/
def keyedType (layout : Layout) (v : Value) : Traced Ty := do
  match v.get? "schema" with
  | some schema => Schema.toType layout schema
  | none =>
    match firstSchema? (← (v.getD "content").entries) with
    | some schema => Schema.toType layout schema
    | none => return .unknown

/-- The type of a parameter. -/
def parameterType (version : Version) (location : Location) (v : Value) : Traced Ty :=
  match version, location with
  | .openApi3, _ => keyedType (Layout.of version) v
  | .swagger2, .body => Schema.toType (Layout.of version) (v.getD "schema")
  | .swagger2, _ => inlineType (Layout.of version) v

/-! ## Parameters -/

/-- The location of a parameter with a name. -/
def locationOf (name : String) (v : Value) : Except Failure Location :=
  match (v.text?).bind Location.ofWord? with
  | some l => .ok l
  | none => .error (.badLocation v name)

/-- The parameter that a value describes, to be checked as a form. -/
def parameter (form : Form) (version : Version) (v : Value) : Traced Parameter := do
  match v.getD "name" with
  | .text name =>
    let location ← locationOf name (v.getD "in")
    let type ← parameterType version location v
    let description ← Value.checkedAs form
      ((v.getD "description").checkTextOrNull.within [.name "description"])
    let required := (v.getD "required").isTruthy || location == .path
    return ⟨name, location, required, type, description⟩
  | _ => .fail (.namelessParameter v)

/-! ## The shared table -/

/-- The shared parameters, each under its own reference. -/
abbrev Table := List SharedParameter

/-- The parameter of a table under a reference. -/
def Table.find? (table : Table) (ref : String) : Option SharedParameter :=
  List.find? (·.ref == ref) table

/-- The shared parameter under a key of the container. -/
def sharedParameter (version : Version) (document : Value) (key : Scalar) (v : Value) :
    Traced SharedParameter := do
  let ref ← referenceTo (Layout.of version).parameters key
  let description ← Reference.follow document v
  return ⟨← parameter .sharedParameter version description, ref⟩

/-- The shared parameters of a document, in its order. -/
def sharedParameters (version : Version) (document : Value) : Traced Table := do
  let ps ← (container document (Layout.of version).parameters).mapM fun e =>
    sharedParameter version document e.1 e.2
  return Keyed.ofList (·.ref) ps

/-! ## Arguments -/

/-- The parameter of a table to which a value refers; what cannot be looked up is a fault. -/
def resolve (table : Table) (ref : Value) : Except Failure SharedParameter :=
  match ref.text?.bind table.find? with
  | some p => .ok p
  | none => if ref.isKey then .error (.unresolvedParameter ref) else .error (.fault .wrongKind)

/-- A parameter as an operation takes it: one of the table, or one that is described in place. -/
def argument (version : Version) (table : Table) (v : Value) : Traced Argument := do
  match v.get? "$ref" with
  | some ref => return .shared (← resolve table ref)
  | none => return .own (← parameter .parameter version v)

/-- The parameters under the key of a map, as an operation takes them. -/
def arguments (version : Version) (table : Table) (v : Value) : Traced (List Argument) := do
  let vs ← (v.getD "parameters").items
  vs.mapM (argument version table)

theorem argument_of_no_reference {version : Version} {table : Table} {v : Value}
    (h : v.get? "$ref" = none) :
    argument version table v = parameter .parameter version v >>= fun p => pure (.own p) := by
  simp [argument, h]

theorem argument_shared {version : Version} {table : Table} {v : Value} {ref : String}
    {p : SharedParameter} (h : v.get? "$ref" = some (.text ref)) (hp : table.find? ref = some p) :
    argument version table v = pure (.shared p) := by
  simp [argument, h, resolve, Value.text?, hp]
  rfl

end ApiModel.Document
