import ApiModel.Proofs.Reference.Inherited
import ApiModel.Proofs.Reference.Name

/-!
# Documents that agree apart from a key

A reference sees of a document what stands under its first segment and nothing else. So in two
documents that have the same value under every key but one, references lead to the same values, as
long as none of them, and none that is met on the way, starts with that key.

* `LeadsInto`: a reference starts with a key.
* `find_congr`: a reference that does not start with the key leads to the same value in both.
* `follow_congr`: so does a chain of such references.
-/

namespace ApiModel

variable {key ref : String} {document document' v w : Value}

/-! ## References and keys -/

namespace Reference

/-- A reference leads to the value under a key of the document, or on from there. -/
def LeadsInto (key ref : String) : Prop :=
  ref.toList = inside ++ key.toList ∨ start key <+: ref.toList

instance (key ref : String) : Decidable (LeadsInto key ref) := inferInstanceAs (Decidable (_ ∨ _))

/-- A reference whose first segment is read as a key starts with that key. -/
theorem leadsInto_of_segment {path segment : List Char} {segments : List (List Char)}
    (hslash : '/' ∉ key.toList) (htilde : '~' ∉ key.toList)
    (hpath : Text.after? inside ref.toList = some path)
    (hpieces : Text.pieces '/' path = segment :: segments)
    (hkey : String.ofList (unescape segment) = key) : LeadsInto key ref := by
  have hsegment : segment = key.toList :=
    eq_of_unescape_eq hslash htilde (by rw [← hkey, String.toList_ofList])
  have hjoin := Text.join_pieces '/' path
  rw [hpieces, hsegment] at hjoin
  rw [Text.after?_eq_some_iff] at hpath
  cases segments with
  | nil => exact Or.inl (by rw [hpath, ← hjoin, Text.join])
  | cons next rest =>
    refine Or.inr ⟨Text.join '/' (next :: rest), ?_⟩
    rw [hpath, ← hjoin, Text.join, start, inside]
    simp

end Reference

/-! ## Agreement -/

namespace Value

/-- Two maps have the same value under every key but one. -/
def AgreeApart (key : String) (v w : Value) : Prop :=
  ∃ es es', v = .map es ∧ w = .map es' ∧
    ∀ k, k ≠ key → es.lookup (.text k) = es'.lookup (.text k)

/-- No reference in a value starts with a key. -/
def StaysOut (key : String) (v : Value) : Prop :=
  ∀ ref ∈ v.references, ¬ Reference.LeadsInto key ref

end Value

theorem isInherited_staysOut (key : String) : IsInherited (Value.StaysOut key) where
  entry _ h _ he := fun ref href => h ref (Value.references_subset_of_mem_entries he href)
  item _ h _ hv := fun ref href => h ref (Value.references_subset_of_mem_items hv href)

namespace Reference

open Value (AgreeApart StaysOut)

/-! ## One step of a chain -/

section Step

variable {seen : List String} (hin : v.references ⊆ document.references)

theorem followFrom_of_none (hr : v.get? "$ref" = none) :
    followFrom document v seen hin = .ok v := by
  unfold followFrom
  split
  · rfl
  all_goals cases hr.symm.trans ‹_›

theorem followFrom_of_text (hr : v.get? "$ref" = some (.text ref)) :
    followFrom document v seen hin =
      if ref ∈ seen then .error (.circularReference ref)
      else match hf : find document ref with
        | .ok next => followFrom document next (ref :: seen) (references_find_subset hf)
        | .error e => .error e := by
  rw [followFrom]
  split
  · cases hr.symm.trans ‹_›
  · rename_i ref' hr'
    cases hr.symm.trans hr'
    rfl
  · rename_i ref' hne hr'
    cases hr.symm.trans hr'
    exact absurd rfl (hne _)

theorem followFrom_of_found (hr : v.get? "$ref" = some (.text ref)) (hs : ref ∉ seen)
    (hf : find document ref = .ok w) :
    followFrom document v seen hin =
      followFrom document w (ref :: seen) (references_find_subset hf) := by
  rw [followFrom_of_text hin hr, if_neg hs]
  split
  · rename_i u hu
    cases hf.symm.trans hu
    rfl
  · cases hf.symm.trans ‹_›

theorem followFrom_of_lost {e : Failure} (hr : v.get? "$ref" = some (.text ref)) (hs : ref ∉ seen)
    (hf : find document ref = .error e) : followFrom document v seen hin = .error e := by
  rw [followFrom_of_text hin hr, if_neg hs]
  split
  · cases hf.symm.trans ‹_›
  · cases hf.symm.trans ‹_›
    rfl

theorem followFrom_of_not_text {r : Value} (hr : v.get? "$ref" = some r) (hne : ∀ s, r ≠ .text s) :
    followFrom document v seen hin = .error (notText r) := by
  unfold followFrom
  split
  · cases hr.symm.trans ‹_›
  · cases hr.symm.trans ‹_›
    exact absurd rfl (hne _)
  · cases hr.symm.trans ‹_›
    rfl

end Step

/-! ## The same chains -/

theorem step_congr {segment : List Char} (h : AgreeApart key document document')
    (hkey : String.ofList (unescape segment) ≠ key) :
    step ref document segment = step ref document' segment := by
  obtain ⟨es, es', rfl, rfl, hsame⟩ := h
  simp only [step, hsame _ hkey]

section Plain

variable (hslash : '/' ∉ key.toList) (htilde : '~' ∉ key.toList)
  (h : AgreeApart key document document')

include hslash htilde h

theorem find_congr (href : ¬ LeadsInto key ref) : find document ref = find document' ref := by
  unfold find
  split
  · rename_i path hpath
    cases hpieces : Text.pieces '/' path with
    | nil => exact absurd hpieces (Text.pieces_ne_nil '/' path)
    | cons segment segments =>
      have hkey : String.ofList (unescape segment) ≠ key :=
        fun hkey => href (leadsInto_of_segment hslash htilde hpath hpieces hkey)
      rw [walk, walk, step_congr h hkey]
  · rfl

theorem followFrom_congr (hd : StaysOut key document) {seen : List String}
    (hin : v.references ⊆ document.references) (hin' : v.references ⊆ document'.references)
    (hv : StaysOut key v) :
    followFrom document v seen hin = followFrom document' v seen hin' := by
  fun_induction followFrom document v seen hin with
  | case1 v seen hin hr => rw [followFrom_of_none hin' hr]
  | case2 v seen hin ref hr hs => rw [followFrom_of_text hin' hr, if_pos hs]
  | case3 v seen hin ref hr hs u hf _ ih =>
    have hf' : find document' ref = .ok u := by
      rw [← find_congr hslash htilde h (hv ref (Value.mem_references_of_get? hr)), hf]
    rw [followFrom_of_found hin' hr hs hf']
    exact ih _ ((isInherited_staysOut key).find hd hf)
  | case4 v seen hin ref hr hs e hf =>
    rw [find_congr hslash htilde h (hv ref (Value.mem_references_of_get? hr))] at hf
    rw [followFrom_of_lost hin' hr hs hf]
  | case5 v seen hin ref hne hr => rw [followFrom_of_not_text hin' hr hne]

/-- References lead through both documents in the same way, if none starts with the key. -/
theorem follow_congr (hd : StaysOut key document) (hv : StaysOut key v) :
    follow document v = follow document' v := by
  unfold follow
  split
  · rfl
  · rename_i ref hr
    have hfind := find_congr hslash htilde h (hv ref (Value.mem_references_of_get? hr))
    split
    · rename_i u hf
      split
      · rename_i u' hf'
        rw [hfind, hf'] at hf
        cases hf
        exact followFrom_congr hslash htilde h hd _ _
          ((isInherited_staysOut key).find hd (hfind.trans hf'))
      · rename_i e hf'
        cases (hf.symm.trans hfind).trans hf'
    · rename_i e hf
      split
      · rename_i u hf'
        cases (hf.symm.trans hfind).trans hf'
      · rename_i e' hf'
        exact (hf.symm.trans hfind).trans hf'
  · rfl

end Plain

end Reference

end ApiModel
