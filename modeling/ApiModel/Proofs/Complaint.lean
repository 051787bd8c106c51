import ApiModel.Proofs.Reference.Failing
import ApiModel.Proofs.Value.Sayable

/-!
# Complaints

A complaint says what is wrong with a document, and can be put into words: a value that it quotes
has a written form. Faults are no complaints, nor is it one that a value lacks its declared form.

* `IsComplaint.surfaced`, `IsComplaint.exitCode`: a complaint comes to light as it is, and exits
  with the code for documents or for schemas.
* `complains_find`: a reference that leads nowhere is complained of.
* `complains_checkInside`: the check of references ends in complaints only.
-/

namespace ApiModel

namespace Failure

/-- A failure says what is wrong with a document, and can be put into words. -/
def IsComplaint : Failure → Prop
  | .swaggerVersion _ | .openApiVersion _ | .noVersion | .externalReference _ | .referenceKey ..
  | .referenceIndex .. | .referenceInto .. | .circularReference _ | .missingItems => True
  | .malformedReference v _ | .unsupportedShape v | .missingOperationId v _
  | .unresolvedParameter v | .namelessParameter v | .badLocation v _ => v.isSayable = true
  | _ => False

variable {e : Failure}

theorem IsComplaint.isDocument (h : e.IsComplaint) : e.isDocument = true := by
  cases e <;> first | rfl | cases h

/-- A complaint comes to light as it is. -/
theorem IsComplaint.surfaced (h : e.IsComplaint) : e.surfaced = e := by
  unfold Failure.surfaced
  split
  · rename_i v hv
    have hsayable : v.isSayable = true := by
      cases e <;> cases hv <;> exact h
    rw [if_pos hsayable]
  · rfl

theorem IsComplaint.exitCode (h : e.IsComplaint) : e.exitCode = 7 ∨ e.exitCode = 8 := by
  cases e <;> first | exact Or.inl rfl | exact Or.inr rfl | cases h

theorem IsDeadEnd.isComplaint (h : e.IsDeadEnd) : e.IsComplaint := by
  cases e <;> trivial

end Failure

open Failure (IsComplaint)

/-- A first step that succeeds leaves the second. -/
theorem FailsOnly.bind_ok {ε α β : Type} {P : ε → Prop} {x : Except ε α} {f : α → Except ε β}
    {a : α} (h : x = .ok a) (hf : FailsOnly P (f a)) : FailsOnly P (x >>= f) := by
  rw [h]
  exact hf

/-- A check that passes does not fail. -/
theorem failsOnly_checkedAs_ok {α : Type} {P : Failure → Prop} {form : Form}
    {r : Except (List Issue) α} (h : ∃ a, r = .ok a) : FailsOnly P (Value.checkedAs form r) := by
  obtain ⟨a, rfl⟩ := h
  exact .ok a

namespace Reference

variable {document : Value}

/-- A reference that is a text may lead nowhere, which is complained of. -/
theorem complains_find {ref : String} : FailsOnly IsComplaint (find document ref) := by
  unfold find
  split
  · exact failsOnly_walk.imp fun _ => Failure.IsDeadEnd.isComplaint
  · exact .error trivial

theorem complains_checkMap {es : Entries} (h : (Value.map es).isSayable = true) :
    FailsOnly IsComplaint (checkMap es) := by
  unfold checkMap
  split
  · exact .ok _
  · split
    · exact .ok _
    · exact .error trivial
  · rename_i ref hne hr
    have href : (Value.map es).get? "$ref" = some ref := hr
    exact .error (Value.isInherited_sayable.get? h href)

/-- The check of all references in a value complains of one that does not stay inside. -/
theorem complains_checkInside (keysAreNames : Bool) {v : Value} (h : v.isSayable = true) :
    FailsOnly IsComplaint (checkInside keysAreNames v) :=
  failsOnly_checkInside ⟨Value.isInherited_sayable, fun _ => complains_checkMap⟩ keysAreNames v h

end Reference

end ApiModel
