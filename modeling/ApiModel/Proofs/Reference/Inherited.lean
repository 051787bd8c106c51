import ApiModel.Proofs.Reference.Chain
import ApiModel.Proofs.Reference.Pointer
import ApiModel.Proofs.Value.WellFormed

/-!
# What references cannot lead away from

A reference leads from the document into its parts and nowhere else. So what holds of a document
and passes from a map to what it holds, and from a list to its items, holds wherever references
lead.

* `IsInherited.find`, `IsInherited.follow`: it holds of what a reference, or a chain of them, leads
  to.
* `isInherited_wellFormed`: being well-formed is passed on.
-/

namespace ApiModel

/-- A property that passes from a value to its parts. -/
structure IsInherited (P : Value → Prop) : Prop where
  /-- It passes to what a map holds. -/
  entry : ∀ es, P (.map es) → ∀ e ∈ es, P e.2
  /-- It passes to the items of a list. -/
  item : ∀ vs, P (.list vs) → ∀ v ∈ vs, P v

theorem isInherited_wellFormed : IsInherited Value.WellFormed where
  entry _ h := (Value.wellFormed_map_iff.1 h).2
  item _ h := Value.wellFormed_list_iff.1 h

namespace IsInherited

variable {P : Value → Prop} {document v w : Value} {ref : String} {key : String}

theorem get? (hP : IsInherited P) (h : P v) (hw : v.get? key = some w) : P w := by
  obtain ⟨es, rfl, hm⟩ := Value.mem_of_get? hw
  exact hP.entry es h _ hm

theorem step (hP : IsInherited P) (h : P v) {segment : List Char}
    (hs : Reference.step ref v segment = .ok w) : P w := by
  cases v with
  | map es =>
    obtain ⟨before, after, rfl, -⟩ :=
      List.lookup_eq_some_iff.1 (Reference.step_map_eq_ok_iff.1 hs)
    exact hP.entry _ h _ (List.mem_append_right _ List.mem_cons_self)
  | list vs =>
    obtain ⟨i, -, hw⟩ := Option.bind_eq_some_iff.1 (Reference.step_list_eq_ok_iff.1 hs)
    exact hP.item vs h w (Reference.mem_of_itemAt? hw)
  | _ => cases hs

theorem walk (hP : IsInherited P) {segments : List (List Char)} (h : P v)
    (hw : Reference.walk ref v segments = .ok w) : P w := by
  induction segments generalizing v with
  | nil =>
    cases hw
    exact h
  | cons s ss ih =>
    unfold Reference.walk at hw
    split at hw
    · rename_i u hu
      exact ih (hP.step h hu) hw
    · cases hw

theorem find (hP : IsInherited P) (h : P document)
    (hf : Reference.find document ref = .ok w) : P w := by
  unfold Reference.find at hf
  split at hf
  · exact hP.walk h hf
  · cases hf

theorem follow (hP : IsInherited P) (h : P document) (hv : P v)
    (hf : Reference.follow document v = .ok w) : P w := by
  obtain ⟨refs, hleads⟩ := Reference.follow_eq_ok_iff.1 hf
  clear hf
  induction hleads with
  | here _ => exact hv
  | next _ hfind _ ih => exact ih (hP.find h hfind)

end IsInherited

end ApiModel
