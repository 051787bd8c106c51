import ApiModel.Reference.Pointer

/-!
# References that stay inside a document

Before a document is read every reference in it is checked: it must be a text that starts with
`#/`. What stands under `example` or `examples` is data and is passed over, and the keys of a map
under `properties` are names, so a property called `$ref` is no reference. The parts of a value are
checked from the last to the first.

* `checkMap_ok_iff`: the reference of a map passes exactly when there is none or it is a text that
  starts with `#/`.
-/

namespace ApiModel.Reference

/-- Checks the reference of a map, if it has one. -/
def checkMap (entries : Entries) : Except Failure Unit :=
  match entries.lookup (.text "$ref") with
  | none => .ok ()
  | some (.text ref) =>
    if inside.isPrefixOf ref.toList then .ok () else .error (.externalReference ref)
  | some ref => .error (.malformedReference ref none)

theorem checkMap_ok_iff {entries : Entries} :
    checkMap entries = .ok () ↔
      ∀ v, entries.lookup (.text "$ref") = some v →
        ∃ s, v = .text s ∧ inside.isPrefixOf s.toList = true := by
  unfold checkMap
  split
  · rename_i h
    simp [h]
  · rename_i ref h
    simp [h]
  · rename_i ref hne h
    simp only [h, Option.some.injEq, reduceCtorEq, false_iff]
    intro hall
    obtain ⟨s, hs, _⟩ := hall _ rfl
    exact hne s hs

/-- Whether what stands under a key is data. -/
def isExample (key : Scalar) : Bool := key == .text "example" || key == .text "examples"

mutual

/-- Checks every reference in a value; the flag says that the keys of the value are names. -/
def checkInside (keysAreNames : Bool) : Value → Except Failure Unit
  | .map entries => do
    if !keysAreNames then checkMap entries
    checkEntries keysAreNames entries
  | .list items => checkItems items
  | .scalar _ => .ok ()
  | .pair _ _ => .ok ()
  | .set _ => .ok ()
  | .enclosing _ _ => .ok ()

/-- Checks every reference in the values of entries, the last entry first. -/
def checkEntries (keysAreNames : Bool) : Entries → Except Failure Unit
  | [] => .ok ()
  | (k, v) :: es => do
    checkEntries keysAreNames es
    if keysAreNames then checkInside false v
    else if isExample k then .ok ()
    else checkInside (k == .text "properties") v

/-- Checks every reference in items, the last item first. -/
def checkItems : List Value → Except Failure Unit
  | [] => .ok ()
  | v :: vs => do
    checkItems vs
    checkInside false v

end

/-- Checks every reference in a document. -/
def checkDocument (document : Value) : Except Failure Unit := checkInside false document

end ApiModel.Reference
