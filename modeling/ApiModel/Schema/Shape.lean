import ApiModel.Value.Access

/-!
# Shapes of schemas

A schema has one of eight shapes, decided by its keywords in a fixed order: a reference, whatever
else it holds; else by its type; without a type, a composition or a number by its format.

* `classify_reference`: a map with a reference has the shape of one.
* `classify_eq_error_of_not_map`: what is no map has no shape.
-/

namespace ApiModel.Schema

/-- The shape of a schema. -/
inductive Shape where
  /-- A link to a named schema. -/
  | reference
  /-- A number. -/
  | number
  /-- A truth value. -/
  | boolean
  /-- A text. -/
  | string
  /-- A list. -/
  | array
  /-- An object with properties or any keys. -/
  | object
  /-- All of several schemas. -/
  | allOf
  /-- A number, going by its format. -/
  | numericFormat
  deriving DecidableEq, Repr

/-- The formats that mean a number where there is no type. -/
def numericFormats : List String := ["float", "int32", "int64"]

/-- Whether there is a value under a key that is not empty. -/
def present (node : Value) (key : String) : Bool := !(node.getD key).isNull

/-- Whether the format of a schema means a number. Lists and maps cannot be looked up. -/
def hasNumericFormat (node : Value) : Except Failure Bool :=
  match node.getD "format" with
  | .text s => .ok (numericFormats.contains s)
  | .set _ => .ok false
  | v => if v.isKey then .ok false else .error (.fault .wrongKind)

/-- The failure of a schema without a known shape or type. -/
def shapeless : Failure := .unsupportedShape (.text "undefined")

/-- The shape of a schema. A schema inside itself has no end. -/
def classify (node : Value) : Except Failure Shape :=
  if !node.isMap then .error shapeless
  else if node.isEnclosing then .error (.fault .tooDeep)
  else if node.has "$ref" then .ok .reference
  else match node.getD "type" with
    | .text "integer" => .ok .number
    | .text "number" => .ok .number
    | .text "boolean" => .ok .boolean
    | .text "string" => .ok .string
    | .text "array" => .ok .array
    | .text "object" => .ok (if present node "allOf" then .allOf else .object)
    | .null =>
      if present node "allOf" then .ok .allOf
      else do
        if ← hasNumericFormat node then return .numericFormat else throw shapeless
    | type => .error (.unsupportedShape type)

theorem classify_reference {node ref : Value} (h : node.get? "$ref" = some ref) :
    classify node = .ok .reference := by
  obtain ⟨entries, rfl, _⟩ := Value.mem_of_get? h
  simp [classify, Value.isMap, Value.isEnclosing, Value.has, h]

theorem classify_eq_error_of_not_map {node : Value} (h : node.isMap = false) :
    classify node = .error shapeless := by
  simp [classify, h]

end ApiModel.Schema
