import ApiModel.Reference.Name
import ApiModel.Text.Integer

/-!
# Following references

A reference `#/a/b` leads from the document to the value under `a` and on to the value under `b`.
In a list a segment is an index, which may count from the end. References may lead to further
references; `follow` goes on until it meets something else. It never meets a reference twice, and a
document holds finitely many, so it ends.

* `references_step_subset`: what a segment leads to holds no references that were not there before.
* `find_eq_error`: a reference that does not start with `#/` leads out of the document.
-/

namespace ApiModel

/-! ## References in a value -/

namespace Value

mutual

/-- The texts under the key `$ref` anywhere in a value. -/
def references : Value → List String
  | .scalar _ => []
  | .set _ => []
  | .enclosing _ _ => []
  | .pair a b => references a ++ references b
  | .list vs => referencesOfItems vs
  | .map es => referencesOfEntries es

/-- The texts under the key `$ref` anywhere in several values. -/
def referencesOfItems : List Value → List String
  | [] => []
  | v :: vs => references v ++ referencesOfItems vs

/-- The texts under the key `$ref` anywhere in entries. -/
def referencesOfEntries : Entries → List String
  | [] => []
  | (k, v) :: es =>
    (if k = .text "$ref" then v.text?.toList else []) ++ references v ++ referencesOfEntries es

end

theorem references_subset_of_mem_items {v : Value} {vs : List Value} (h : v ∈ vs) :
    v.references ⊆ referencesOfItems vs := by
  induction vs with
  | nil => cases h
  | cons w ws ih =>
    simp only [referencesOfItems]
    rcases List.mem_cons.1 h with rfl | h
    · exact List.subset_append_left ..
    · exact List.subset_append_of_subset_right _ (ih h)

theorem references_subset_of_mem_entries {k : Scalar} {v : Value} {es : Entries}
    (h : (k, v) ∈ es) : v.references ⊆ referencesOfEntries es := by
  induction es with
  | nil => cases h
  | cons e es ih =>
    obtain ⟨k', w⟩ := e
    simp only [referencesOfEntries]
    rcases List.mem_cons.1 h with h | h
    · cases h
      intro r hr
      simp [hr]
    · intro r hr
      have := ih h hr
      simp [this]

theorem mem_references_of_get? {v : Value} {s : String} (h : v.get? "$ref" = some (.text s)) :
    s ∈ v.references := by
  obtain ⟨es, rfl, hm⟩ := mem_of_get? h
  simp only [references]
  clear h
  induction es with
  | nil => cases hm
  | cons e es ih =>
    obtain ⟨k, w⟩ := e
    simp only [referencesOfEntries]
    rcases List.mem_cons.1 hm with hm | hm
    · cases hm
      simp [text?]
    · have := ih hm
      simp [this]

end Value

namespace Reference

/-! ## One reference -/

/-- The item at an index, which counts from the end if it is negative. -/
def itemAt? (items : List Value) (index : Int) : Option Value :=
  if 0 ≤ index then items[index.toNat]?
  else if index.natAbs ≤ items.length then items[items.length - index.natAbs]?
  else none

theorem mem_of_itemAt? {vs : List Value} {i : Int} {w : Value} (h : itemAt? vs i = some w) :
    w ∈ vs := by
  unfold itemAt? at h
  split at h
  · exact List.mem_of_getElem? h
  · split at h
    · exact List.mem_of_getElem? h
    · cases h

/-- The value to which a segment of a reference leads. -/
def step (ref : String) (v : Value) (segment : List Char) : Except Failure Value :=
  let key := unescape segment
  match v with
  | .map entries =>
    match entries.lookup (.text (String.ofList key)) with
    | some w => .ok w
    | none => .error (.referenceKey ref (String.ofList key))
  | .list items =>
    match (Text.readInteger? 10 key).bind (itemAt? items) with
    | some w => .ok w
    | none => .error (.referenceIndex ref (String.ofList key))
  | v => .error (.referenceInto ref v.kind)

/-- The value to which segments lead one after another. -/
def walk (ref : String) (v : Value) : List (List Char) → Except Failure Value
  | [] => .ok v
  | s :: ss =>
    match step ref v s with
    | .ok w => walk ref w ss
    | .error e => .error e

/-- What every reference into a document starts with. -/
def inside : List Char := ['#', '/']

/-- The value to which a reference leads in a document. -/
def find (document : Value) (ref : String) : Except Failure Value :=
  match Text.after? inside ref.toList with
  | some path => walk ref document (Text.pieces '/' path)
  | none => .error (.externalReference ref)

/-- The value to which a value leads; only a text leads anywhere. -/
def findValue (document ref : Value) : Except Failure Value :=
  match ref with
  | .text s => find document s
  | _ => .error (.fault .noMember)

theorem find_eq_error {document : Value} {ref : String}
    (h : Text.after? inside ref.toList = none) :
    find document ref = .error (.externalReference ref) := by
  simp [find, h]

theorem references_step_subset {ref : String} {v w : Value} {segment : List Char}
    (h : step ref v segment = .ok w) : w.references ⊆ v.references := by
  unfold step at h
  match v with
  | .map entries =>
    simp only at h
    split at h
    · rename_i u hu
      cases h
      obtain ⟨l₁, l₂, rfl, _⟩ := List.lookup_eq_some_iff.1 hu
      simp only [Value.references]
      exact Value.references_subset_of_mem_entries (List.mem_append_right l₁ List.mem_cons_self)
    · cases h
  | .list items =>
    simp only at h
    split at h
    · rename_i u hu
      cases h
      obtain ⟨i, _, hi⟩ := Option.bind_eq_some_iff.1 hu
      simp only [Value.references]
      exact Value.references_subset_of_mem_items (mem_of_itemAt? hi)
    · cases h
  | .scalar _ => cases h
  | .pair _ _ => cases h
  | .set _ => cases h
  | .enclosing _ _ => cases h

theorem references_walk_subset {ref : String} {v w : Value} {segments : List (List Char)}
    (h : walk ref v segments = .ok w) : w.references ⊆ v.references := by
  induction segments generalizing v with
  | nil => cases h; exact List.Subset.refl _
  | cons s ss ih =>
    simp only [walk] at h
    split at h
    · rename_i u hu
      exact List.Subset.trans (ih h) (references_step_subset hu)
    · cases h

theorem references_find_subset {document w : Value} {ref : String}
    (h : find document ref = .ok w) : w.references ⊆ document.references := by
  unfold find at h
  split at h
  · exact references_walk_subset h
  · cases h

/-! ## Chains of references -/

/-- What a reference that is no text runs into. -/
def notText (ref : Value) : Failure :=
  match ref with
  | .scalar (.bytes _) => .fault .wrongKind
  | _ => .fault (if ref.isKey then .noMember else .wrongKind)

theorem length_filter_lt {seen : List String} {ref : String} {refs : List String}
    (hm : ref ∈ refs) (hs : ref ∉ seen) :
    (refs.filter (· ∉ ref :: seen)).length < (refs.filter (· ∉ seen)).length := by
  have h : refs.filter (· ∉ ref :: seen) = (refs.filter (· ∉ seen)).filter (· ≠ ref) := by
    rw [List.filter_filter]
    apply List.filter_congr
    intro x _
    simp
  rw [h]
  apply List.length_filter_lt_length_iff_exists.2
  exact ⟨ref, by simp [hm, hs], by simp⟩

/-- The end of a chain of references that starts at a value of the document, some references having
been met already. -/
def followFrom (document node : Value) (seen : List String)
    (inDocument : node.references ⊆ document.references) : Except Failure Value :=
  match hr : node.get? "$ref" with
  | none => .ok node
  | some (.text ref) =>
    if hs : ref ∈ seen then .error (.circularReference ref)
    else match hf : find document ref with
      | .ok next =>
        have := length_filter_lt (inDocument (Value.mem_references_of_get? hr)) hs
        followFrom document next (ref :: seen) (references_find_subset hf)
      | .error e => .error e
  | some ref => .error (notText ref)
termination_by (document.references.filter (· ∉ seen)).length
decreasing_by assumption

/-- The value itself, or the end of the chain of references that starts at it. -/
def follow (document node : Value) : Except Failure Value :=
  match node.get? "$ref" with
  | none => .ok node
  | some (.text ref) =>
    match hf : find document ref with
    | .ok next => followFrom document next [ref] (references_find_subset hf)
    | .error e => .error e
  | some ref => .error (notText ref)

end Reference

end ApiModel
