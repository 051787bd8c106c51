import ApiModel.Failure

/-!
# Getting at the parts of a value

A document need not have the kinds of values that its keywords ask for. These operations get at a
part of a value and run into a fault if the value has a kind that has no such parts. A value that
counts as false is taken for one that is not there where a collection is asked for.

* `entries_map`, `items_list`: maps give their entries and lists their items.
* `sayable_text`: every text has a written form.
-/

namespace ApiModel.Value

/-- What a value that is no map runs into when it is asked for the value under a key or for its
entries. -/
def notAMap {α : Type} : Except Failure α := .error (.fault .noMember)

/-- The value under a key, empty when there is none. -/
def under (v : Value) (key : String) : Except Failure Value :=
  if v.isMap then .ok (v.getD key) else notAMap

/-- The entries of a map. -/
def entries (v : Value) : Except Failure Entries :=
  match v with
  | .map entries => .ok entries
  | v => if v.isTruthy then notAMap else .ok []

/-- The values met in going through a value; none if it counts as false. -/
def items (v : Value) : Except Failure (List Value) :=
  if !v.isTruthy then .ok []
  else match v.elements? with
    | some vs => .ok vs
    | none => .error (.fault .wrongKind)

theorem entries_map (es : Entries) : (Value.map es).entries = .ok es := rfl

theorem items_list (vs : List Value) : (Value.list vs).items = .ok vs := by
  cases vs <;> simp [items, isTruthy, elements?]

/-- Whether a value holds a text: as a key, as an item, or as a part of a text. -/
def holds (v : Value) (s : String) : Except Failure Bool :=
  match v with
  | .map entries => .ok (entries.lookup (.text s)).isSome
  | .list vs => .ok (vs.any (·.isText s))
  | .pair a b => .ok (a.isText s || b.isText s)
  | .set members => .ok (members.contains (.text s))
  | .text t => .ok (Text.occursIn s.toList t.toList)
  | .scalar _ => .error (.fault .wrongKind)
  | .enclosing _ _ => .ok false

/-- The value under a key that a value holds; only a map has values under keys. -/
def taken (v : Value) (key : String) : Except Failure Value :=
  match v.get? key with
  | some w => .ok w
  | none => .error (.fault .wrongKind)

/-- The value under a key, if the value holds it. -/
def optional (v : Value) (key : String) : Except Failure (Option Value) := do
  if ← v.holds key then return some (← v.taken key) else return none

/-- The texts with a separator between them; all must be texts. -/
def joined (sep : String) (vs : List Value) : Except Failure String :=
  match vs.mapM text? with
  | some ss => .ok (sep.intercalate ss)
  | none => .error (.fault .wrongKind)

/-- The value, if it has a written form. -/
def sayable (v : Value) : Except Failure Value :=
  if v.isSayable then .ok v else .error (.fault .badValue)

theorem sayable_text (s : String) : (Value.text s).sayable = .ok (.text s) := rfl

/-- The content that passed a check of a form, or the failure of that form. -/
def checkedAs {α : Type} (form : Form) (r : Except (List Issue) α) : Except Failure α :=
  r.mapError (.invalid form)

end ApiModel.Value
