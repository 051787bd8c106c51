import ApiModel.Proofs.Trace
import ApiModel.Value.Access

/-!
# How getting at parts of a value fails

Getting at a part of a value runs into a fault if the value has the wrong kind, and fails in no
other way. A part that is got is the one under its key.

* `failsOnly_under`, `failsOnly_items`, `failsOnly_optional`: access fails with faults only.
* `get?_of_optional`: what is got under a key stands there.
* `mem_elements_cases`: what can be met in going through a value.
-/

namespace ApiModel

variable {v w : Value} {key : String}

/-- A failure is a fault. -/
def Failure.IsFault (e : Failure) : Prop := ∃ f, e = .fault f

open Failure (IsFault)

theorem failsOnly_fault {α : Type} (f : Fault) :
    FailsOnly IsFault (.error (.fault f) : Except Failure α) :=
  .error ⟨f, rfl⟩

namespace Value

theorem failsOnly_under : FailsOnly IsFault (v.under key) := by
  unfold under
  split
  · exact .ok _
  · exact failsOnly_fault _

theorem failsOnly_entries : FailsOnly IsFault v.entries := by
  unfold entries
  split
  · exact .ok _
  · split
    · exact failsOnly_fault _
    · exact .ok _

theorem failsOnly_items : FailsOnly IsFault v.items := by
  unfold items
  split
  · exact .ok _
  · split
    · exact .ok _
    · exact failsOnly_fault _

theorem failsOnly_holds : FailsOnly IsFault (v.holds key) := by
  unfold holds
  split
  case h_6 => exact failsOnly_fault _
  all_goals exact .ok _

theorem failsOnly_taken : FailsOnly IsFault (v.taken key) := by
  unfold taken
  split
  · exact .ok _
  · exact failsOnly_fault _

theorem failsOnly_optional : FailsOnly IsFault (v.optional key) := by
  unfold optional
  refine failsOnly_holds.bind fun b _ => ?_
  split
  · exact failsOnly_taken.bind fun _ _ => .ok _
  · exact .ok _

theorem failsOnly_joined {sep : String} {vs : List Value} : FailsOnly IsFault (joined sep vs) := by
  unfold joined
  split
  · exact .ok _
  · exact failsOnly_fault _

theorem failsOnly_sayable : FailsOnly IsFault v.sayable := by
  unfold sayable
  split
  · exact .ok _
  · exact failsOnly_fault _

/-! ## What is got -/

theorem taken_eq_ok_iff : v.taken key = .ok w ↔ v.get? key = some w := by
  unfold taken
  cases v.get? key <;> simp

theorem get?_of_optional (h : v.optional key = .ok (some w)) : v.get? key = some w := by
  unfold optional at h
  obtain ⟨b, -, h⟩ := bind_eq_ok_iff.1 h
  split at h
  · obtain ⟨u, hu, h⟩ := bind_eq_ok_iff.1 h
    cases h
    exact taken_eq_ok_iff.1 hu
  · cases h

theorem under_of_isMap (h : v.isMap = true) : v.under key = .ok (v.getD key) := if_pos h

theorem optional_of_isMap (h : v.isMap = true) : v.optional key = .ok (v.get? key) := by
  cases v with
  | map es =>
    have hheld : (Value.map es).holds key = .ok ((Value.map es).get? key).isSome := rfl
    unfold optional taken
    rw [hheld]
    cases (Value.map es).get? key <;> rfl
  | enclosing isMap level => rfl
  | _ => cases h

theorem sayable_of_isSayable (h : v.isSayable = true) : v.sayable = .ok v := if_pos h

theorem eq_getD_of_under (h : v.under key = .ok w) : w = v.getD key := by
  unfold under at h
  split at h
  · exact (Except.ok.inj h).symm
  · cases h

theorem eq_map_of_entries {es : Entries} {e : Scalar × Value} (h : v.entries = .ok es)
    (he : e ∈ es) : v = .map es := by
  unfold entries at h
  split at h
  · rw [Except.ok.inj h]
  · split at h
    · cases h
    · obtain rfl := Except.ok.inj h
      cases he

/-- What is met in going through a value is an item of a list or of a pair, or has no parts. -/
theorem mem_elements_cases {ws : List Value} (h : v.elements? = some ws) (hw : w ∈ ws) :
    v = .list ws ∨ (∃ a b, v = .pair a b ∧ ws = [a, b]) ∨ ∃ k, w = .scalar k := by
  cases v with
  | list items => exact Or.inl (congrArg _ (Option.some.inj h))
  | pair a b => exact Or.inr (Or.inl ⟨a, b, rfl, (Option.some.inj h).symm⟩)
  | map es =>
    obtain rfl := Option.some.inj h
    obtain ⟨e, -, rfl⟩ := List.mem_map.1 hw
    exact Or.inr (Or.inr ⟨_, rfl⟩)
  | set members =>
    obtain rfl := Option.some.inj h
    obtain ⟨m, -, rfl⟩ := List.mem_map.1 hw
    exact Or.inr (Or.inr ⟨_, rfl⟩)
  | scalar k =>
    cases k with
    | text t =>
      obtain rfl := Option.some.inj h
      obtain ⟨c, -, rfl⟩ := List.mem_map.1 hw
      exact Or.inr (Or.inr ⟨_, rfl⟩)
    | bytes bs =>
      obtain rfl := Option.some.inj h
      obtain ⟨b, -, rfl⟩ := List.mem_map.1 hw
      exact Or.inr (Or.inr ⟨_, rfl⟩)
    | _ => cases h
  | enclosing isMap level => cases h

/-- Nothing is met exactly in what counts as false. -/
theorem eq_nil_iff_of_items {ws : List Value} (h : v.items = .ok ws) :
    ws = [] ↔ v.isTruthy = false := by
  unfold items at h
  split at h
  · rename_i hfalse
    exact iff_of_true (Except.ok.inj h).symm (by simpa using hfalse)
  · rename_i htrue
    refine iff_of_false ?_ (by simpa using htrue)
    rintro rfl
    split at h
    · rename_i vs hvs
      obtain rfl := Except.ok.inj h
      -- what has no elements counts as false
      cases v with
      | scalar k => cases k <;> simp_all [elements?, isTruthy, Scalar.isTruthy]
      | _ => simp_all [elements?, isTruthy]
    · cases h

theorem elements?_of_items {ws : List Value} (h : v.items = .ok ws) (hw : w ∈ ws) :
    v.elements? = some ws := by
  unfold items at h
  split at h
  · obtain rfl := Except.ok.inj h
    cases hw
  · split at h
    · rename_i vs hvs
      rw [hvs, Except.ok.inj h]
    · cases h

end Value

end ApiModel
