import ApiModel.Proofs.Reference.Inherited
import ApiModel.Proofs.Value.Lookup
import ApiModel.Value.Display

/-!
# Values with a written form

Only whole numbers with too many digits are not written down. So what stands in a value with a
written form, wherever it stands, has a written form itself.

* `isInherited_sayable`: a written form is passed on to what maps and lists hold.
* `isSayable_of_mem_elements`: it is passed on to what is met in going through a value.
-/

namespace ApiModel.Value

variable {v : Value}

theorem isSayable_map_iff {es : Entries} :
    (Value.map es).isSayable = true ↔ ∀ e ∈ es, e.1.isSayable = true ∧ e.2.isSayable = true := by
  rw [isSayable]
  induction es with
  | nil => exact ⟨fun _ => List.forall_mem_nil _, fun _ => rfl⟩
  | cons e es ih =>
    obtain ⟨k, w⟩ := e
    rw [entriesSayable, Bool.and_eq_true, Bool.and_eq_true, ih, List.forall_mem_cons]

theorem isInherited_sayable : IsInherited fun v => v.isSayable = true where
  entry _ h e he := (isSayable_map_iff.1 h e he).2
  item _ h := isSayable_list_iff.1 h

theorem isSayable_int_iff {n : Int} :
    (Value.int n).isSayable = true ↔ n.natAbs < Nat.pow 10 Text.maxDigits := by
  rw [isSayable, Scalar.isSayable, decide_eq_true_iff]

theorem isSayable_byte (b : UInt8) : (Value.int b.toNat).isSayable = true := by
  have hpow : ∀ d, 3 ≤ d → b.toNat < Nat.pow 10 d := by
    intro d hd
    have hbyte : b.toNat < Nat.pow 10 3 := Nat.lt_trans b.toNat_lt (by decide)
    exact Nat.lt_of_lt_of_le hbyte (Nat.pow_le_pow_right (by decide) hd)
  rw [isSayable_int_iff, Int.natAbs_natCast]
  exact hpow Text.maxDigits (by decide)

/-- What is met in going through a value with a written form has one too. -/
theorem isSayable_of_mem_elements {w : Value} {ws : List Value} (h : v.isSayable = true)
    (hws : v.elements? = some ws) (hw : w ∈ ws) : w.isSayable = true := by
  cases v with
  | list items =>
    obtain rfl := Option.some.inj hws
    exact isSayable_list_iff.1 h w hw
  | pair a b =>
    obtain rfl := Option.some.inj hws
    rw [isSayable, Bool.and_eq_true] at h
    rcases List.mem_cons.1 hw with rfl | hw
    · exact h.1
    · rw [List.mem_singleton.1 hw]
      exact h.2
  | map es =>
    obtain rfl := Option.some.inj hws
    obtain ⟨e, he, rfl⟩ := List.mem_map.1 hw
    exact (isSayable_map_iff.1 h e he).1
  | set ks =>
    obtain rfl := Option.some.inj hws
    obtain ⟨k, hk, rfl⟩ := List.mem_map.1 hw
    exact List.all_eq_true.1 h k hk
  | scalar k =>
    cases k with
    | text t =>
      obtain rfl := Option.some.inj hws
      obtain ⟨c, -, rfl⟩ := List.mem_map.1 hw
      rfl
    | bytes bs =>
      obtain rfl := Option.some.inj hws
      obtain ⟨b, -, rfl⟩ := List.mem_map.1 hw
      exact isSayable_byte b
    | _ => cases hws
  | enclosing isMap level => cases hws

theorem isSayable_getD {key : String} (h : v.isSayable = true) :
    (v.getD key).isSayable = true := by
  cases hw : v.get? key with
  | none => rw [getD_of_get?_eq_none hw]; rfl
  | some w => rw [getD_of_get? hw]; exact isInherited_sayable.get? h hw

end ApiModel.Value
