import ApiModel.Reference.Name
import ApiModel.Text.Pieces

/-!
# Containers

A document keeps its named schemas and its shared parameters in maps at fixed places. A place that
is missing, or that leads through something other than maps, counts as an empty map.

* `entriesAt_nil`, `entriesAt_cons`: going along a place, one key at a time.
-/

namespace ApiModel.Document

/-- The entries of the map at a place below a value; none if there is no map there. -/
def entriesAt (v : Value) : List String → Entries
  | [] =>
    match v with
    | .map entries => entries
    | _ => []
  | key :: place => entriesAt (v.getD key) place

theorem entriesAt_nil (entries : Entries) : entriesAt (.map entries) [] = entries := rfl

theorem entriesAt_cons {v w : Value} {key : String} {place : List String}
    (h : v.get? key = some w) : entriesAt v (key :: place) = entriesAt w place := by
  simp [entriesAt, Value.getD, h]

/-- The entries of a container of a document. -/
def container (document : Value) (place : String) : Entries :=
  entriesAt document (Text.cut '/' place)

/-- The reference to what stands under a key in a container. Only texts can be escaped. -/
def referenceTo (place : String) (key : Scalar) : Except Failure String :=
  match key with
  | .text name => .ok (Reference.reference place name)
  | .bytes _ | .date _ | .timestamp _ => .error (.fault .wrongKind)
  | _ => .error (.fault .noMember)

end ApiModel.Document
