import ApiModel.Check.Basic
import ApiModel.Reference.Name
import ApiModel.Schema.Shape
import ApiModel.Trace
import ApiModel.Type.Basic

/-!
# The type of a schema

`Schema.toType` goes through a schema once and gives the type it describes. References are not
followed: each becomes a link by name. Objects become records of their properties, or maps if they
have none; enumerated texts become unions of literals; of a composition the fields of all parts
that are records are put together, and the other parts are dropped, which is noted.

* `toType_reference`: a reference becomes a link, whatever stands beside it.
-/

namespace ApiModel.Schema

open Reference (Layout)

/-! ## Enumerations -/

/-- The type of one enumerated value. Days and timestamps stand for their text. -/
def memberType (v : Value) : Except Failure Ty :=
  match v with
  | .null => .ok (.primitive .null)
  | .bool b => .ok (.literal (.bool b))
  | .int n => .ok (.literal (.int n))
  | .float x => .ok (.literal (.float x))
  | .text s => .ok (.literal (.text s))
  | .scalar (.date d) => .ok (.literal (.text d.iso))
  | .scalar (.timestamp t) => .ok (.literal (.text t.iso))
  | v => .error (.unsupportedShape (.text v.kind))

/-- The elements of a value that is gone through. -/
def elements (v : Value) : Except Failure (List Value) :=
  match v.elements? with
  | some vs => .ok vs
  | none => .error (.fault .wrongKind)

/-- The type of a text schema: a union if it is enumerated. -/
def stringType (node : Value) : Except Failure Ty := do
  let values := node.getD "enum"
  if values.isNull then return .primitive .string
  else return .union (← (← elements values).mapM memberType)

/-! ## Properties -/

/-- The scalar that a value is. -/
def scalar? : Value → Option Scalar
  | .scalar s => some s
  | _ => none

/-- The names that a schema requires. What is not a scalar requires nothing, but must be something
that can be looked up. -/
def required (node : Value) : Except Failure (List Scalar) := do
  let names ← (node.getD "required").items
  if names.all Value.isKey then return names.filterMap scalar? else throw (.fault .wrongKind)

/-- The name of a field. -/
def fieldName (key : Scalar) : Except Failure String :=
  Value.checkedAs .field ((Value.checkText (.scalar key)).within [.name "name"])

/-- The field of a property with a type, the required names being given. -/
def field (requiredNames : List Scalar) (key : Scalar) (property : Value) (type : Ty) :
    Except Failure Field := do
  let name ← fieldName key
  return ⟨name, type, !requiredNames.any (·.same key), (property.getD "readOnly").isTruthy⟩

/-! ## Types -/

mutual

/-- The type that a schema describes. -/
def toType (layout : Layout) (node : Value) : Traced Ty := do
  match ← classify node with
  | .reference => return .named (← Reference.nameOf layout.schemas (node.getD "$ref"))
  | .number => return .primitive .number
  | .boolean => return .primitive .boolean
  | .string => stringType node
  | .array =>
    match h : node.get? "items" with
    | none => .fail .missingItems
    | some items =>
      have := Value.sizeOf_get?_lt h
      if items.isNull then .fail .missingItems
      else return .array (← toType layout items) false
  | .object =>
    match h : node.get? "properties" with
    | some (.map properties) =>
      have := Value.sizeOf_get?_map_lt h
      if properties.isEmpty then return .dictionary .unknown
      else
        let names ← required node
        return .record (Field.merge (← propertyFields layout names properties))
    | some other =>
      if other.isTruthy then
        let _ ← required node
        .fail (.fault .noMember)
      else return .dictionary .unknown
    | none => return .dictionary .unknown
  | .allOf =>
    match h : node.get? "allOf" with
    | some (.list parts) =>
      have := Value.sizeOf_get?_list_lt h
      return .record (Field.merge (← partFields layout 0 parts))
    | some (.pair a b) =>
      have := (Value.sizeOf_get?_pair_lt h).1
      have := (Value.sizeOf_get?_pair_lt h).2
      let first ← partFields layout 0 [a]
      let second ← partFields layout 1 [b]
      return .record (Field.merge (first ++ second))
    | some other =>
      if (← elements other).isEmpty then return .record [] else .fail shapeless
    | none => return .record []
  | .numericFormat =>
    .note (.guessedNumber ((node.getD "format").text?.getD ""))
    return .primitive .number
termination_by sizeOf node

/-- The fields of properties. -/
def propertyFields (layout : Layout) (names : List Scalar) (properties : Entries) :
    Traced (List Field) :=
  match properties with
  | [] => return []
  | (key, property) :: rest => do
    let type ← toType layout property
    let f ← field names key property type
    let fs ← propertyFields layout names rest
    return f :: fs
termination_by sizeOf properties

/-- The fields of the parts of a composition that are records, the first part having an index. -/
def partFields (layout : Layout) (index : Nat) (parts : List Value) : Traced (List Field) :=
  match parts with
  | [] => return []
  | part :: rest => do
    let type ← toType layout part
    let own ← match type with
      | .record fs => pure fs
      | type => do
        Traced.note (.droppedBranch index type.kind)
        pure []
    let others ← partFields layout (index + 1) rest
    return own ++ others
termination_by sizeOf parts

end

theorem toType_reference {layout : Layout} {node ref : Value} (h : node.get? "$ref" = some ref) :
    toType layout node = Traced.ofExcept ((Reference.nameOf layout.schemas ref).map .named) := by
  rw [toType, classify_reference h]
  simp only [Value.getD, h, Option.getD_some]
  cases Reference.nameOf layout.schemas ref <;> rfl

end ApiModel.Schema
