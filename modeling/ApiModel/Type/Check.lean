import ApiModel.Check.Basic
import ApiModel.Type.Basic

/-!
# Reading types from plain values

A map is read as a type by the word under its key `kind`. Keys that the form of the type does not
have are passed over, and the issues of a type are found below the word of its kind. There may be
as many types within each other as there is room for.
-/

namespace ApiModel

/-- The types without parts. -/
def Primitive.all : List Primitive :=
  [.boolean, .number, .string, .null, .undefined, .unknown, .never, .symbol]

/-- The type without parts that a word stands for. -/
def Primitive.ofWord? (s : String) : Option Primitive := Primitive.all.find? (·.word == s)

/-- The words for the types that have parts. -/
def Ty.compoundWords : List String :=
  ["literal", "array", "dictionary", "union", "intersect", "named", "record", "function"]

/-- Whether a word stands for a form of types. -/
def Ty.isKind (word : String) : Bool :=
  (Primitive.ofWord? word).isSome || word ∈ Ty.compoundWords

/-- The value of a literal type: a truth value, a number or a text. -/
def Literal.check (v : Value) : Checked Literal :=
  match v with
  | .bool b => .ok (.bool b)
  | .int n => .ok (.int n)
  | .float x => .ok (.float x)
  | .text s => .ok (.text s)
  | _ => .error [⟨[.name "bool"], .notTruth⟩, ⟨[.name "int"], .notWhole⟩,
      ⟨[.name "float"], .notNumber⟩, ⟨[.name "str"], .notText⟩]

mutual

/-- The type that a value describes, with room for a number of types within each other. -/
def Ty.check (room : Nat) (v : Value) : Checked Ty :=
  if !v.isMap then .fail .notTagged
  else match v.get? "kind" with
    | none => .fail .tagMissing
    | some (.text word) =>
      if !Ty.isKind word then .fail .tagUnknown
      else Checked.within [.name word] <| match room with
        | 0 => .fail .tooDeep
        | room + 1 => match word with
          | "literal" =>
            (v.part "value" (Value.missing "value") fun w _ => Literal.check w).map .literal
          | "array" =>
            (Checked.both
              (v.part "element_type" (Value.missing "element_type") fun w _ => Ty.check room w)
              (v.part "readonly" (.ok false) fun w _ => w.checkTruth)).map
              fun p => .array p.1 p.2
          | "dictionary" =>
            (v.part "value_type" (Value.missing "value_type") fun w _ => Ty.check room w).map
              .dictionary
          | "union" =>
            (v.part "members" (Value.missing "members") fun w _ =>
              w.sequence .notSequence fun t _ => Ty.check room t).map .union
          | "intersect" =>
            (v.part "members" (Value.missing "members") fun w _ =>
              w.sequence .notSequence fun t _ => Ty.check room t).map .intersect
          | "named" => (v.part "name" (Value.missing "name") fun w _ => w.checkText).map .named
          | "record" =>
            (v.part "fields" (.ok []) fun w _ =>
              w.sequence .notSequence fun f _ => Field.check room f).map .record
          | "function" => .ok .function
          | word => match Primitive.ofWord? word with
            | some p => .ok (.primitive p)
            | none => .fail .tagUnknown
    | some _ => .fail .tagUnknown
termination_by sizeOf v

/-- The field that a value describes, with room for a number of types within each other. -/
def Field.check (room : Nat) (v : Value) : Checked Field :=
  if !v.isMap then .fail .notRecord
  else
    (Checked.both
      (Checked.both
        (v.part "name" (Value.missing "name") fun w _ => w.checkText)
        (v.part "type" (Value.missing "type") fun w _ => Ty.check room w))
      (Checked.both
        (v.part "nullable" (Value.missing "nullable") fun w _ => w.checkTruth)
        (v.part "readonly" (.ok false) fun w _ => w.checkTruth))).map
      fun p => ⟨p.1.1, p.1.2, p.2.1, p.2.2⟩
termination_by sizeOf v

end

/-- The fields that the items of a list describe. -/
def Field.checkList (v : Value) : Checked (List Field) :=
  v.sequence .notList fun w _ => Field.check Ty.maxHeight w

end ApiModel
