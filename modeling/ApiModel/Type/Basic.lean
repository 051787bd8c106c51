import ApiModel.Keyed
import ApiModel.Number.Double

/-!
# Types

The types that schemas become: a closed set of forms, of which records and unions are made of
others. A named type is a link to a declaration and holds nothing of it, so types are finite
however the declarations refer to each other.

`Ty.namedTypes` lists the links in a type, each once. `Field.merge` makes the names of fields
distinct: of fields with one name the last counts, at the place of the first.

* `Ty.greatestHeight_le_iff`: the greatest height is the least bound of the heights.
* `Ty.collect_eq_append`: going through a type adds links after those found before.
-/

namespace ApiModel

/-! ## Types -/

/-- A type without parts. -/
inductive Primitive where
  /-- Truth values. -/
  | boolean
  /-- Numbers. -/
  | number
  /-- Texts. -/
  | string
  /-- The empty value. -/
  | null
  /-- What is not there. -/
  | undefined
  /-- Anything. -/
  | unknown
  /-- Nothing. -/
  | never
  /-- Symbols. -/
  | symbol
  deriving DecidableEq, Repr

/-- The one value of a literal type. -/
inductive Literal where
  /-- A truth value. -/
  | bool (b : Bool)
  /-- A whole number. -/
  | int (n : Int)
  /-- A floating point number. -/
  | float (x : Double)
  /-- A text. -/
  | text (s : String)
  deriving DecidableEq, Repr

/-- A field of a record whose types are of some kind. -/
structure FieldOf (τ : Type) where
  /-- The name. -/
  name : String
  /-- The type. -/
  type : τ
  /-- Whether the field may be absent. -/
  nullable : Bool
  /-- Whether the field is only read. -/
  readonly : Bool
  deriving Repr

/-- A type. -/
inductive Ty where
  /-- A type without parts. -/
  | primitive (p : Primitive)
  /-- The type of one value. -/
  | literal (l : Literal)
  /-- Lists of a type. -/
  | array (element : Ty) (readonly : Bool)
  /-- Maps from texts to a type. -/
  | dictionary (value : Ty)
  /-- Any one of several types. -/
  | union (members : List Ty)
  /-- All of several types at once. -/
  | intersect (members : List Ty)
  /-- The type declared under a name. -/
  | named (name : String)
  /-- Objects with fields. -/
  | record (fields : List (FieldOf Ty))
  /-- Something that can be called. -/
  | function
  deriving Repr

/-- A field of a record. -/
abbrev Field := FieldOf Ty

namespace Ty

instance : Inhabited Ty := ⟨.primitive .unknown⟩

/-- The type of anything. -/
abbrev unknown : Ty := .primitive .unknown

/-- Whether a type is a record. -/
def isRecord : Ty → Bool
  | .record _ => true
  | _ => false

end Ty

/-- The word for a type without parts. -/
def Primitive.word : Primitive → String
  | .boolean => "boolean"
  | .number => "number"
  | .string => "string"
  | .null => "null"
  | .undefined => "undefined"
  | .unknown => "unknown"
  | .never => "never"
  | .symbol => "symbol"

/-- The word for the form of a type. -/
def Ty.kind : Ty → String
  | .primitive p => p.word
  | .literal _ => "literal"
  | .array _ _ => "array"
  | .dictionary _ => "dictionary"
  | .union _ => "union"
  | .intersect _ => "intersect"
  | .named _ => "named"
  | .record _ => "record"
  | .function => "function"

/-! ## Height -/

namespace Ty

mutual

/-- The number of types within each other, the outermost included. -/
def height : Ty → Nat
  | .array t _ => height t + 1
  | .dictionary t => height t + 1
  | .union ts => greatestHeight ts + 1
  | .intersect ts => greatestHeight ts + 1
  | .record fs => greatestFieldHeight fs + 1
  | .primitive _ => 1
  | .literal _ => 1
  | .named _ => 1
  | .function => 1

/-- The height of the highest of several types. -/
def greatestHeight : List Ty → Nat
  | [] => 0
  | t :: ts => Nat.max (height t) (greatestHeight ts)

/-- The height of the highest type of several fields. -/
def greatestFieldHeight : List (FieldOf Ty) → Nat
  | [] => 0
  | ⟨_, t, _, _⟩ :: fs => Nat.max (height t) (greatestFieldHeight fs)

end

theorem greatestHeight_le_iff {types : List Ty} {n : Nat} :
    greatestHeight types ≤ n ↔ ∀ t ∈ types, t.height ≤ n := by
  induction types with
  | nil => exact ⟨nofun, fun _ => Nat.zero_le _⟩
  | cons t ts ih =>
    rw [greatestHeight, Nat.max_le, ih, List.forall_mem_cons]

/-- The greatest height of a type that is read, or written as part of something. -/
def maxHeight : Nat := 254

/-- The height from which on the parts of a type are too deep to be gone through. -/
def outOfReach : Nat := 490

end Ty

/-! ## Links -/

namespace Ty

/-- The names found so far with one more, unless it is among them. -/
def addName (found : List String) (name : String) : List String :=
  if name ∈ found then found else found ++ [name]

mutual

/-- The names found so far with those of the links in a type. -/
def collect (found : List String) : Ty → List String
  | .named n => addName found n
  | .array t _ => collect found t
  | .dictionary t => collect found t
  | .union ts => collectAll found ts
  | .intersect ts => collectAll found ts
  | .record fs => collectFields found fs
  | .primitive _ => found
  | .literal _ => found
  | .function => found

/-- The names found so far with those of the links in several types. -/
def collectAll (found : List String) : List Ty → List String
  | [] => found
  | t :: ts => collectAll (collect found t) ts

/-- The names found so far with those of the links in several fields. -/
def collectFields (found : List String) : List (FieldOf Ty) → List String
  | [] => found
  | ⟨_, t, _, _⟩ :: fs => collectFields (collect found t) fs

end

/-- The names of the links in a type, each once, in the order in which they first occur. -/
def namedTypes (t : Ty) : List String := collect [] t

mutual

theorem collect_eq_append (found : List String) (t : Ty) :
    ∃ more, collect found t = found ++ more := by
  match t with
  | .named n =>
    unfold collect addName
    split
    · exact ⟨[], by simp⟩
    · exact ⟨[n], rfl⟩
  | .array t _ => exact collect_eq_append found t
  | .dictionary t => exact collect_eq_append found t
  | .union ts => exact collectAll_eq_append found ts
  | .intersect ts => exact collectAll_eq_append found ts
  | .record fs => exact collectFields_eq_append found fs
  | .primitive _ | .literal _ | .function => exact ⟨[], by simp [collect]⟩

theorem collectAll_eq_append (found : List String) (ts : List Ty) :
    ∃ more, collectAll found ts = found ++ more := by
  match ts with
  | [] => exact ⟨[], by simp [collectAll]⟩
  | t :: ts =>
    obtain ⟨m, hm⟩ := collect_eq_append found t
    obtain ⟨m', hm'⟩ := collectAll_eq_append (collect found t) ts
    exact ⟨m ++ m', by rw [collectAll, hm', hm, List.append_assoc]⟩

theorem collectFields_eq_append (found : List String) (fs : List (FieldOf Ty)) :
    ∃ more, collectFields found fs = found ++ more := by
  match fs with
  | [] => exact ⟨[], by simp [collectFields]⟩
  | ⟨_, t, _, _⟩ :: fs =>
    obtain ⟨m, hm⟩ := collect_eq_append found t
    obtain ⟨m', hm'⟩ := collectFields_eq_append (collect found t) fs
    exact ⟨m ++ m', by rw [collectFields, hm', hm, List.append_assoc]⟩

end

end Ty

/-! ## Merging fields -/

namespace Field

/-- The fields with distinct names: of those with one name the last, at the place of the first. -/
def merge (fields : List Field) : List Field := Keyed.ofList (·.name) fields

end Field

end ApiModel
