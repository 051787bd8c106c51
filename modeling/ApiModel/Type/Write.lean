import ApiModel.Failure
import ApiModel.Type.Basic

/-!
# Types as plain values

A type is written as a map: its form under the key `kind`, and its parts under keys of their own.
Any type has such a map, but only types that are not too high are handed out: a type by itself may
be one higher than `Ty.maxHeight`, the types in a larger thing may not.

* `Ty.guarded_eq_ok_iff`: what holds types is handed out exactly when none of them is too high.
-/

namespace ApiModel

/-- The value of a literal type. -/
def Literal.toValue : Literal → Value
  | .bool b => .bool b
  | .int n => .int n
  | .float x => .float x
  | .text s => .text s

namespace Ty

mutual

/-- A type as a map. -/
def toValue : Ty → Value
  | .primitive p => .record [("kind", .text p.word)]
  | .literal l => .record [("kind", .text "literal"), ("value", l.toValue)]
  | .array t readonly =>
    .record [("kind", .text "array"), ("element_type", toValue t), ("readonly", .bool readonly)]
  | .dictionary t => .record [("kind", .text "dictionary"), ("value_type", toValue t)]
  | .union ts => .record [("kind", .text "union"), ("members", .list (toValues ts))]
  | .intersect ts => .record [("kind", .text "intersect"), ("members", .list (toValues ts))]
  | .named n => .record [("kind", .text "named"), ("name", .text n)]
  | .record fs => .record [("kind", .text "record"), ("fields", .list (fieldValues fs))]
  | .function => .record [("kind", .text "function")]

/-- Types as maps. -/
def toValues : List Ty → List Value
  | [] => []
  | t :: ts => toValue t :: toValues ts

/-- Fields as maps. -/
def fieldValues : List (FieldOf Ty) → List Value
  | [] => []
  | ⟨name, type, nullable, readonly⟩ :: fs =>
    .record [("name", .text name), ("type", toValue type), ("nullable", .bool nullable),
      ("readonly", .bool readonly)] :: fieldValues fs

end

end Ty

/-- A field as a map. -/
def Field.toValue (f : Field) : Value :=
  .record [("name", .text f.name), ("type", f.type.toValue), ("nullable", .bool f.nullable),
    ("readonly", .bool f.readonly)]

/-! ## Handing out -/

namespace Ty

/-- Why a type of a height is not handed out. -/
def heightFault (height : Nat) : Fault := if height < outOfReach then .badValue else .tooDeep

/-- A type as a map, unless it is too high. -/
def written (t : Ty) : Except Failure Value :=
  if t.height ≤ maxHeight + 1 then .ok t.toValue else .error (.fault (heightFault t.height))

/-- The value of a thing that holds types, unless one of them is too high. -/
def guarded (types : List Ty) (v : Value) : Except Failure Value :=
  if greatestHeight types ≤ maxHeight then .ok v
  else .error (.fault (heightFault (greatestHeight types)))

theorem guarded_eq_ok_iff {types : List Ty} {v w : Value} :
    guarded types v = .ok w ↔ v = w ∧ ∀ t ∈ types, t.height ≤ maxHeight := by
  unfold guarded
  split
  · rename_i low
    exact ⟨fun h => ⟨Except.ok.inj h, greatestHeight_le_iff.1 low⟩, fun h => congrArg _ h.1⟩
  · rename_i high
    exact ⟨nofun, fun h => absurd (greatestHeight_le_iff.2 h.2) high⟩

end Ty

end ApiModel
