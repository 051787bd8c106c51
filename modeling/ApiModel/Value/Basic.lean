import ApiModel.Number.Decimal
import ApiModel.Calendar
import ApiModel.Text.Pieces

/-!
# Plain values

A document is a tree of plain values: scalars, lists, maps, and the pairs and sets that YAML adds.
Maps keep the order of their entries. Keys and the members of sets are scalars, since nothing else
can be looked up. A part of a list or map may be the list or map itself, or one further out; such a
part only says how many levels out it leads.

* `Value.sizeOf_get?_lt`: what a map holds is smaller than the map, the reason why recursion
  through keys ends.
* `Value.get?_eq_some_iff`: a value is found under a key exactly when the first entry with that key
  holds it.
-/

namespace ApiModel

/-! ## Scalars -/

/-- A value without parts. -/
inductive Scalar where
  /-- The empty value. -/
  | null
  /-- A truth value. -/
  | bool (b : Bool)
  /-- A whole number of any size. -/
  | int (n : Int)
  /-- A floating point number. -/
  | float (x : Double)
  /-- A text. -/
  | text (s : String)
  /-- A sequence of bytes. -/
  | bytes (bs : List UInt8)
  /-- A day. -/
  | date (d : Date)
  /-- A day with a time. -/
  | timestamp (t : Timestamp)
  deriving DecidableEq

namespace Scalar

instance : Inhabited Scalar := ⟨.null⟩

/-- The number that a truth value or a whole number counts as. -/
def toInt? : Scalar → Option Int
  | .bool b => some (if b then 1 else 0)
  | .int n => some n
  | _ => none

/-- Whether two scalars are the same key. Numbers are compared by value, so that `1`, `1.0` and
`true` are one key. -/
def same (a b : Scalar) : Bool :=
  match a, b with
  | .float x, .float y => x.same y
  | .float x, b => b.toInt?.any fun n => x.toInt? == some n
  | a, .float y => a.toInt?.any fun n => y.toInt? == some n
  | .timestamp s, .timestamp t => s.same t
  | a, b =>
    match a.toInt?, b.toInt? with
    | some m, some n => m == n
    | none, none => a == b
    | _, _ => false

/-- Whether a scalar counts as true: all do but the empty value, `false`, zero, and empty text. -/
def isTruthy : Scalar → Bool
  | .null => false
  | .bool b => b
  | .int n => n != 0
  | .float x => !x.isZero
  | .text s => s != ""
  | .bytes bs => !bs.isEmpty
  | .date _ | .timestamp _ => true

/-- The word for the kind of a scalar. -/
def kind : Scalar → String
  | .null => "NoneType"
  | .bool _ => "bool"
  | .int _ => "int"
  | .float _ => "float"
  | .text _ => "str"
  | .bytes _ => "bytes"
  | .date _ => "date"
  | .timestamp _ => "datetime"

end Scalar

/-! ## Values -/

/-- A plain value. -/
inductive Value where
  /-- A value without parts. -/
  | scalar (s : Scalar)
  /-- Values in order. -/
  | list (items : List Value)
  /-- Two values that belong together. -/
  | pair (first second : Value)
  /-- Entries in order, each under its key. -/
  | map (entries : List (Scalar × Value))
  /-- Distinct scalars. -/
  | set (members : List Scalar)
  /-- The map or list around this place, the innermost one having level zero. -/
  | enclosing (isMap : Bool) (level : Nat)

/-- The entries of a map. -/
abbrev Entries := List (Scalar × Value)

namespace Value

instance : Inhabited Value := ⟨.scalar .null⟩

/-- The empty value. -/
@[match_pattern] abbrev null : Value := .scalar .null

/-- A truth value. -/
@[match_pattern] abbrev bool (b : Bool) : Value := .scalar (.bool b)

/-- A whole number. -/
@[match_pattern] abbrev int (n : Int) : Value := .scalar (.int n)

/-- A floating point number. -/
@[match_pattern] abbrev float (x : Double) : Value := .scalar (.float x)

/-- A text. -/
@[match_pattern] abbrev text (s : String) : Value := .scalar (.text s)

/-- A map whose keys are texts. -/
def record (fields : List (String × Value)) : Value :=
  .map (fields.map fun (k, v) => (.text k, v))

/-- A text, or the empty value in its place. -/
def ofText? : Option String → Value
  | some s => .text s
  | none => .null

/-! ## Looking things up -/

/-- The value under a text key, if the value is a map that has it. -/
def get? (v : Value) (key : String) : Option Value :=
  match v with
  | .map entries => entries.lookup (.text key)
  | _ => none

/-- The value under a text key, empty when there is none. -/
def getD (v : Value) (key : String) : Value := (v.get? key).getD .null

/-- Whether the value is a map with the text key. -/
def has (v : Value) (key : String) : Bool := (v.get? key).isSome

/-- Whether the value is a map. -/
def isMap : Value → Bool
  | .map _ | .enclosing true _ => true
  | _ => false

/-- Whether the value is a list or map around its place. -/
def isEnclosing : Value → Bool
  | .enclosing _ _ => true
  | _ => false

/-- Whether the value is the empty value. -/
def isNull : Value → Bool
  | .null => true
  | _ => false

/-- The text, if the value is one. -/
def text? : Value → Option String
  | .text s => some s
  | _ => none

/-- Whether the value is the given text. -/
def isText (v : Value) (s : String) : Bool := v.text? == some s

/-- Whether a value counts as true: scalars by their own rule, others unless they are empty. -/
def isTruthy : Value → Bool
  | .scalar s => s.isTruthy
  | .list items => !items.isEmpty
  | .pair _ _ => true
  | .map entries => !entries.isEmpty
  | .set members => !members.isEmpty
  | .enclosing _ _ => true

/-- The word for the kind of a value. -/
def kind : Value → String
  | .scalar s => s.kind
  | .list _ => "list"
  | .pair _ _ => "tuple"
  | .map _ => "dict"
  | .set _ => "set"
  | .enclosing isMap _ => if isMap then "dict" else "list"

/-- The values met in going through a value: the items of a list or pair, the keys of a map, the
members of a set, the characters of a text, the numbers of bytes. Other scalars have none. -/
def elements? : Value → Option (List Value)
  | .list items => some items
  | .pair a b => some [a, b]
  | .map entries => some (entries.map fun e => .scalar e.1)
  | .set members => some (members.map .scalar)
  | .text s => some (s.toList.map fun c => .text c.toString)
  | .scalar (.bytes bs) => some (bs.map fun b => .int b.toNat)
  | .scalar _ | .enclosing _ _ => none

/-- Whether a value can be a key or the member of a set: scalars can, and pairs of such. -/
def isKey : Value → Bool
  | .scalar _ => true
  | .pair a b => a.isKey && b.isKey
  | _ => false

/-! ## Lemmas -/

theorem get?_map (entries : Entries) (key : String) :
    (Value.map entries).get? key = entries.lookup (.text key) := rfl

theorem get?_eq_some_iff {v w : Value} {key : String} :
    v.get? key = some w ↔
      ∃ before after, v = .map (before ++ (.text key, w) :: after) ∧
        ∀ e ∈ before, e.1 ≠ .text key := by
  cases v with
  | map entries =>
    simp only [get?, List.lookup_eq_some_iff, Value.map.injEq]
    constructor
    · rintro ⟨l₁, l₂, h, hn⟩
      exact ⟨l₁, l₂, h, fun e he => (bne_iff_ne.1 (hn e he)).symm⟩
    · rintro ⟨l₁, l₂, h, hn⟩
      exact ⟨l₁, l₂, h, fun e he => bne_iff_ne.2 (hn e he).symm⟩
  | _ => simp [get?]

theorem mem_of_get? {v w : Value} {key : String} (h : v.get? key = some w) :
    ∃ entries, v = .map entries ∧ (.text key, w) ∈ entries := by
  obtain ⟨l₁, l₂, rfl, _⟩ := get?_eq_some_iff.1 h
  exact ⟨_, rfl, by simp⟩

theorem sizeOf_lt_of_mem_entries {entries : Entries} {k : Scalar} {w : Value}
    (h : (k, w) ∈ entries) : sizeOf w < sizeOf entries := by
  induction entries with
  | nil => cases h
  | cons e r ih =>
    rcases List.mem_cons.1 h with rfl | h
    · simp +arith
    · have := ih h
      simp only [List.cons.sizeOf_spec]
      omega

theorem sizeOf_get?_lt {v w : Value} {key : String} (h : v.get? key = some w) :
    sizeOf w < sizeOf v := by
  obtain ⟨entries, rfl, hm⟩ := mem_of_get? h
  have := sizeOf_lt_of_mem_entries hm
  simp only [Value.map.sizeOf_spec]
  omega

theorem sizeOf_get?_map_lt {v : Value} {key : String} {entries : Entries}
    (h : v.get? key = some (.map entries)) : sizeOf entries < sizeOf v := by
  have := sizeOf_get?_lt h
  simp only [Value.map.sizeOf_spec] at this
  omega

theorem sizeOf_get?_list_lt {v : Value} {key : String} {items : List Value}
    (h : v.get? key = some (.list items)) : sizeOf items < sizeOf v := by
  have := sizeOf_get?_lt h
  simp only [Value.list.sizeOf_spec] at this
  omega

theorem sizeOf_pos (v : Value) : 0 < sizeOf v := by
  cases v <;> simp +arith

theorem sizeOf_get?_pair_lt {v a b : Value} {key : String} (h : v.get? key = some (.pair a b)) :
    sizeOf [a] < sizeOf v ∧ sizeOf [b] < sizeOf v := by
  have := sizeOf_get?_lt h
  have := sizeOf_pos a
  have := sizeOf_pos b
  simp only [Value.pair.sizeOf_spec, List.cons.sizeOf_spec, List.nil.sizeOf_spec] at *
  omega

end Value

end ApiModel
