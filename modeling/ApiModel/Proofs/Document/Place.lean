import ApiModel.Document.Container
import ApiModel.Proofs.Reference.Pointer
import ApiModel.Proofs.Value.Lookup

/-!
# References into containers

A container is read by going along its place, one key at a time, and a reference is followed by
cutting it into segments. Where the keys of the place are plain words the two ways meet: a
reference into the container leads to what stands there under the name that the reference gives.

* `walk_place_iff`: going along the segments of a place leads to the value at the place.
* `find_eq_ok_iff`: a reference into a container leads to the entry of its name.
-/

namespace ApiModel

namespace Document

open Reference (step walk find unescape)

/-! ## Places -/

/-- The value at a place below a value, empty if something on the way is missing. -/
def valueAt (v : Value) : List String → Value
  | [] => v
  | key :: place => valueAt (v.getD key) place

theorem entriesAt_eq (v : Value) (place : List String) :
    entriesAt v place = match valueAt v place with
      | .map es => es
      | _ => [] := by
  induction place generalizing v with
  | nil => rfl
  | cons key place ih => exact ih _

theorem valueAt_null (place : List String) : valueAt .null place = .null := by
  induction place with
  | nil => rfl
  | cons key place ih => exact ih

/-- A key that is written in a reference as it is, and that is no index. -/
structure PlainKey (key : String) : Prop where
  /-- Nothing in the key is read as an escape. -/
  unescaped : unescape key.toList = key.toList
  /-- The key is no number. -/
  notIndex : Text.readInteger? 10 key.toList = none

theorem step_plain_iff {ref key : String} {v w : Value} (h : PlainKey key) :
    step ref v key.toList = .ok w ↔ v.get? key = some w := by
  cases v with
  | map es => rw [Reference.step_map_eq_ok_iff, h.unescaped, String.ofList_toList, Value.get?_map]
  | list vs =>
    rw [Reference.step_list_eq_ok_iff, h.unescaped, h.notIndex]
    simp [Value.get?]
  | _ => simp [step, Value.get?]

/-- Going along the segments of a place and one more leads through the value at the place. -/
theorem walk_place_iff {ref : String} {v w : Value} {place : List String} {segment : List Char}
    (h : ∀ key ∈ place, PlainKey key) :
    walk ref v (place.map String.toList ++ [segment]) = .ok w ↔
      step ref (valueAt v place) segment = .ok w := by
  induction place generalizing v with
  | nil =>
    rw [List.map_nil, List.nil_append, valueAt, walk]
    cases step ref v segment <;> simp [walk]
  | cons key place ih =>
    obtain ⟨hkey, hplace⟩ := List.forall_mem_cons.1 h
    rw [List.map_cons, List.cons_append, walk, valueAt]
    cases hu : v.get? key with
    | some u =>
      rw [(step_plain_iff hkey).2 hu, Value.getD_of_get? hu]
      exact ih hplace
    | none =>
      -- a missing key stops the walk, and the empty value in its place leads nowhere
      have hstop : ∀ u, step ref v key.toList ≠ .ok u := by
        intro u hs
        rw [step_plain_iff hkey, hu] at hs
        cases hs
      rw [Value.getD_of_get?_eq_none hu, valueAt_null]
      cases hs : step ref v key.toList with
      | ok u => exact absurd hs (hstop u)
      | error e => simp [step]

/-! ## References into a container -/

/-- What stands at the place of a container is no list. In a list the last segment of a reference
would be an index. -/
def NotList (document : Value) (place : String) : Prop :=
  ∀ items, valueAt document (Text.cut '/' place) ≠ .list items

theorem step_container_iff {ref : String} {document w : Value} {place : String}
    {segment : List Char} (h : NotList document place) :
    step ref (valueAt document (Text.cut '/' place)) segment = .ok w ↔
      (container document place).lookup (.text (String.ofList (unescape segment))) = some w := by
  unfold container
  rw [entriesAt_eq]
  cases hv : valueAt document (Text.cut '/' place) with
  | map es => exact Reference.step_map_eq_ok_iff
  | list vs => exact absurd hv (h vs)
  | _ => simp [step]

/-- A reference into a container leads to what stands there under its last segment. -/
theorem find_eq_ok_iff {document w : Value} {place : String} {segment : List Char}
    (hplain : ∀ key ∈ Text.cut '/' place, PlainKey key) (hlist : NotList document place)
    (hseg : '/' ∉ segment) :
    find document (String.ofList (Reference.start place ++ segment)) = .ok w ↔
      (container document place).lookup (.text (String.ofList (unescape segment))) = some w := by
  have hafter : Text.after? Reference.inside (Reference.start place ++ segment) =
      some (place.toList ++ '/' :: segment) := by
    rw [Text.after?_eq_some_iff]
    simp [Reference.start, Reference.inside]
  unfold find
  rw [String.toList_ofList, hafter]
  simp only
  rw [Text.pieces_append, Text.pieces_of_not_mem hseg, ← Text.map_toList_cut,
    walk_place_iff hplain, step_container_iff hlist]

theorem plainKey_of_layout (version : Version) :
    ∀ key ∈ Text.cut '/' (Reference.Layout.of version).schemas, PlainKey key := by
  cases version with
  | swagger2 =>
    intro key hkey
    have : key ∈ ["definitions"] := hkey
    rw [List.mem_singleton.1 this]
    exact ⟨by decide, by decide⟩
  | openApi3 =>
    intro key hkey
    have : key ∈ ["components", "schemas"] := hkey
    rcases List.mem_cons.1 this with rfl | h
    · exact ⟨by decide, by decide⟩
    · rw [List.mem_singleton.1 h]
      exact ⟨by decide, by decide⟩

theorem plainKey_of_parameters (version : Version) :
    ∀ key ∈ Text.cut '/' (Reference.Layout.of version).parameters, PlainKey key := by
  cases version with
  | swagger2 =>
    intro key hkey
    have : key ∈ ["parameters"] := hkey
    rw [List.mem_singleton.1 this]
    exact ⟨by decide, by decide⟩
  | openApi3 =>
    intro key hkey
    have : key ∈ ["components", "parameters"] := hkey
    rcases List.mem_cons.1 this with rfl | h
    · exact ⟨by decide, by decide⟩
    · rw [List.mem_singleton.1 h]
      exact ⟨by decide, by decide⟩

/-- A container with an entry is a map. -/
theorem notList_of_mem_container {document : Value} {place : String} {e : Scalar × Value}
    (h : e ∈ container document place) : NotList document place := by
  intro items hlist
  unfold container at h
  rw [entriesAt_eq, hlist] at h
  cases h

end Document

end ApiModel
