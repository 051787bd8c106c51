import ApiModel.Reference.Name

/-!
# Which references give a name

A reference gives a name in a container exactly when it is a text of the container's start and one
segment that is not empty.

* `nameOf_eq_ok_iff`: when a reference gives a name, and which.
* `nameOf_eq_error_iff`: every other value is refused, and the refusal quotes it.
* `reference_injective`: different names have different references.
-/

namespace ApiModel.Reference

variable {container name : String} {ref : Value}

/-- What is read as a text without slashes and tildes was written as that text. -/
theorem eq_of_unescape_eq {cs plain : List Char} (hslash : '/' ∉ plain) (htilde : '~' ∉ plain)
    (h : unescape cs = plain) : cs = plain := by
  fun_induction unescape cs generalizing plain with
  | case1 => exact h
  | case2 r _ => exact absurd (h ▸ List.mem_cons_self) hslash
  | case3 r _ => exact absurd (h ▸ List.mem_cons_self) htilde
  | case4 c r _ _ ih =>
    subst h
    have hr : r = unescape r := ih (fun hr => hslash (List.mem_cons_of_mem _ hr))
      (fun hr => htilde (List.mem_cons_of_mem _ hr)) rfl
    rw [← hr]

/-- Different names have different references, the empty name included. -/
theorem reference_injective (container : String) : Function.Injective (reference container) := by
  intro m n h
  unfold reference at h
  have hchars := List.append_cancel_left (String.ofList_injective h)
  have hread := congrArg unescape hchars
  rw [unescape_escape, unescape_escape] at hread
  exact String.toList_inj.1 hread

/-- A value is a reference to a segment in a container. -/
def LeadsTo (container : String) (segment : List Char) (ref : Value) : Prop :=
  ref = .text (String.ofList (start container ++ segment)) ∧ segment ≠ [] ∧ '/' ∉ segment

theorem name?_eq_some_iff {s : String} :
    name? container s = some name ↔
      ∃ segment, LeadsTo container segment (.text s) ∧ name = String.ofList (unescape segment) := by
  unfold name? LeadsTo
  constructor
  · intro h
    split at h
    · rename_i segment hs
      split at h
      · cases h
      · rename_i hseg
        rw [not_or, List.isEmpty_iff] at hseg
        rw [Text.after?_eq_some_iff] at hs
        exact ⟨segment, ⟨by rw [← hs, String.ofList_toList], hseg⟩, (Option.some.inj h).symm⟩
    · cases h
  · rintro ⟨segment, ⟨hs, hne, hslash⟩, rfl⟩
    rw [Value.scalar.injEq, Scalar.text.injEq] at hs
    rw [hs, String.toList_ofList, Text.after?_eq_some_iff.2 rfl]
    simp [hne, hslash]

theorem nameOf_eq_ok_iff :
    nameOf container ref = .ok name ↔
      ∃ segment, LeadsTo container segment ref ∧ name = String.ofList (unescape segment) := by
  unfold nameOf
  split
  · rename_i s
    rw [← name?_eq_some_iff]
    cases name? container s <;> simp
  · rename_i hne
    constructor
    · nofun
    · rintro ⟨segment, ⟨rfl, -⟩, -⟩
      exact absurd rfl (hne _)

theorem nameOf_eq_error_iff {e : Failure} :
    nameOf container ref = .error e ↔
      (∀ segment, ¬ LeadsTo container segment ref) ∧
        e = .malformedReference ref (some container) := by
  have hdet : ∀ e', nameOf container ref = .error e' →
      e' = .malformedReference ref (some container) := by
    intro e' h
    unfold nameOf at h
    split at h
    · split at h
      · cases h
      · exact (Except.error.inj h).symm
    · exact (Except.error.inj h).symm
  constructor
  · intro h
    refine ⟨fun segment hlead => ?_, hdet e h⟩
    have hok := nameOf_eq_ok_iff.2 ⟨segment, hlead, rfl⟩
    cases h.symm.trans hok
  · rintro ⟨hnot, rfl⟩
    cases hr : nameOf container ref with
    | ok n =>
      obtain ⟨segment, hlead, -⟩ := nameOf_eq_ok_iff.1 hr
      exact absurd hlead (hnot segment)
    | error e' => rw [hdet e' hr]

end ApiModel.Reference
