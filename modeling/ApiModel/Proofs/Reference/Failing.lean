import ApiModel.Proofs.Reference.Inherited
import ApiModel.Proofs.Reference.Internal
import ApiModel.Proofs.Value.Access

/-!
# How following references fails

A reference that starts with `#/` may still lead to nothing, or back to itself. It does not lead out
of the document, and it is a text. So a chain of such references that has no end value is a dead
end, and no fault.

* `failsOnly_find`: how one reference fails.
* `failsOnly_follow_of_find`: how a chain of references fails, given how each of them does.
* `failsOnly_follow`: how a chain of inner references fails.
* `failsOnly_checkInside`: how the check of references fails, given how it does in each map.
-/

namespace ApiModel

open Reference (IsInner)

/-! ## Failures that stay inside -/

namespace Failure

/-- A failure does not say of a reference that is not inner that it leads out or is malformed. -/
def StaysInside : Failure → Prop
  | .externalReference _ => False
  | .malformedReference ref _ => IsInner ref
  | _ => True

/-- A reference has no end: it leads to nothing, or back to itself. -/
def IsDeadEnd : Failure → Prop
  | .referenceKey .. | .referenceIndex .. | .referenceInto .. | .circularReference .. => True
  | _ => False

/-- A failure says of no reference that it leads out or is malformed, and is not stated in words of
its own. -/
def IsOrdinary : Failure → Prop
  | .stated .. | .externalReference _ | .malformedReference .. => False
  | _ => True

variable {e : Failure}

theorem IsFault.isOrdinary (h : e.IsFault) : e.IsOrdinary := by
  obtain ⟨f, rfl⟩ := h
  trivial

theorem IsDeadEnd.isOrdinary (h : e.IsDeadEnd) : e.IsOrdinary := by
  cases e <;> trivial

theorem IsOrdinary.staysInside (h : e.IsOrdinary) : e.StaysInside := by
  cases e <;> trivial

end Failure

open Failure (IsDeadEnd IsFault IsOrdinary)

theorem FailsOnly.ofFault {α : Type} {x : Except Failure α} (h : FailsOnly IsFault x) :
    FailsOnly IsOrdinary x :=
  h.imp fun _ => IsFault.isOrdinary

theorem failsOnly_checkedAs {α : Type} {form : Form} {r : Except (List Issue) α} :
    FailsOnly IsOrdinary (Value.checkedAs form r) := by
  intro e h
  obtain ⟨issues, -, rfl⟩ := mapError_eq_error_iff.1 h
  trivial

/-! ## References -/

namespace Reference

variable {document v : Value} {ref : String}

theorem failsOnly_step {segment : List Char} : FailsOnly IsDeadEnd (step ref v segment) := by
  unfold step
  dsimp only
  split
  · split
    · exact .ok _
    · exact .error trivial
  · split
    · exact .ok _
    · exact .error trivial
  · exact .error trivial

theorem failsOnly_walk {segments : List (List Char)} :
    FailsOnly IsDeadEnd (walk ref v segments) := by
  induction segments generalizing v with
  | nil => exact .ok v
  | cons s ss ih =>
    unfold walk
    split
    · exact ih
    · rename_i e he
      exact .error (failsOnly_step e he)

theorem failsOnly_find (h : inside.isPrefixOf ref.toList = true) :
    FailsOnly IsDeadEnd (find document ref) := by
  obtain ⟨rest, hrest⟩ := List.isPrefixOf_iff_prefix.1 h
  unfold find
  rw [Text.after?_eq_some_iff.2 hrest.symm]
  exact failsOnly_walk

section Chains

-- what is met in going along references from a value
variable {P : Value → Prop} {Q : Failure → Prop} (hcircle : ∀ ref, Q (.circularReference ref))
  (htext : ∀ v, P v → ∀ s, v.get? "$ref" = some (.text s) →
    FailsOnly Q (find document s) ∧ ∀ w, find document s = .ok w → P w)
  (hother : ∀ v, P v → ∀ r, v.get? "$ref" = some r → (∀ s, r ≠ .text s) → Q (notText r))

include hcircle htext hother

theorem failsOnly_followFrom {seen : List String} (hin : v.references ⊆ document.references)
    (hv : P v) : FailsOnly Q (followFrom document v seen hin) := by
  fun_induction followFrom document v seen hin with
  | case1 v seen hin hr => exact .ok v
  | case2 v seen hin ref hr hs => exact .error (hcircle ref)
  | case3 v seen hin ref hr hs u hf _ ih => exact ih ((htext v hv ref hr).2 u hf)
  | case4 v seen hin ref hr hs e hf => exact .error ((htext v hv ref hr).1 e hf)
  | case5 v seen hin ref hne hr => exact .error (hother v hv ref hr hne)

/-- Following references fails as each of them does, in a circle, or at what is no text. -/
theorem failsOnly_follow_of_find (hv : P v) : FailsOnly Q (follow document v) := by
  unfold follow
  split
  · exact .ok v
  · rename_i ref hr
    obtain ⟨hfind, hnext⟩ := htext v hv ref hr
    split
    · rename_i u hf
      exact failsOnly_followFrom hcircle htext hother _ (hnext u hf)
    · rename_i e hf
      exact .error (hfind e hf)
  · rename_i ref hne hr
    exact .error (hother v hv ref hr hne)

end Chains

/-- Where all references are inner, following them comes to a dead end if to no end. -/
theorem failsOnly_follow {P : Value → Prop} (hP : ∀ v, P v → ∀ r, v.get? "$ref" = some r →
    IsInner r ∧ ∀ s w, r = .text s → find document s = .ok w → P w) (hv : P v) :
    FailsOnly IsDeadEnd (follow document v) := by
  refine failsOnly_follow_of_find (fun _ => trivial) (fun v hv s hr => ?_) (fun v hv r hr hne => ?_)
    hv
  · obtain ⟨⟨s, hs, hinner⟩, hnext⟩ := hP v hv _ hr
    cases hs
    exact ⟨failsOnly_find hinner, fun w => hnext s w rfl⟩
  · obtain ⟨⟨s, rfl, -⟩, -⟩ := hP v hv r hr
    exact absurd rfl (hne s)

/-! ## The check of references -/

/-- What holds of a map, and is passed on to its parts, decides how the check of its reference
fails. -/
structure MapsFail (P : Value → Prop) (Q : Failure → Prop) : Prop where
  /-- It is passed on. -/
  inherited : IsInherited P
  /-- The check of the reference of a map fails in a way. -/
  map : ∀ es, P (.map es) → FailsOnly Q (checkMap es)

section Check

variable {P : Value → Prop} {Q : Failure → Prop}

mutual

/-- The check of all references in a value fails as it does in one of its maps. -/
theorem failsOnly_checkInside (hP : MapsFail P Q) (keysAreNames : Bool) (v : Value) (h : P v) :
    FailsOnly Q (checkInside keysAreNames v) := by
  match v with
  | .map es =>
    rw [checkInside]
    have hentries : FailsOnly Q (checkEntries keysAreNames es) :=
      failsOnly_checkEntries hP keysAreNames es (hP.inherited.entry es h)
    split
    · exact (hP.map es h).bind fun _ _ => hentries
    · exact hentries
  | .list vs =>
    rw [checkInside]
    exact failsOnly_checkItems hP vs (hP.inherited.item vs h)
  | .scalar _ | .pair _ _ | .set _ | .enclosing _ _ =>
    rw [checkInside]
    exact .ok _

theorem failsOnly_checkEntries (hP : MapsFail P Q) (keysAreNames : Bool) (es : Entries)
    (h : ∀ e ∈ es, P e.2) : FailsOnly Q (checkEntries keysAreNames es) := by
  match es with
  | [] =>
    rw [checkEntries]
    exact .ok _
  | (k, v) :: es =>
    obtain ⟨hv, hes⟩ := List.forall_mem_cons.1 h
    rw [checkEntries]
    refine (failsOnly_checkEntries hP keysAreNames es hes).bind fun _ _ => ?_
    split
    · exact failsOnly_checkInside hP false v hv
    · split
      · exact .ok _
      · exact failsOnly_checkInside hP (k == .text "properties") v hv

theorem failsOnly_checkItems (hP : MapsFail P Q) (vs : List Value) (h : ∀ v ∈ vs, P v) :
    FailsOnly Q (checkItems vs) := by
  match vs with
  | [] =>
    rw [checkItems]
    exact .ok _
  | v :: vs =>
    obtain ⟨hv, hvs⟩ := List.forall_mem_cons.1 h
    rw [checkItems]
    exact (failsOnly_checkItems hP vs hvs).bind fun _ _ => failsOnly_checkInside hP false v hv

end

end Check

end Reference

end ApiModel
