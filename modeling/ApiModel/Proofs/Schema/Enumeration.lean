import ApiModel.Proofs.Schema.Flaw
import ApiModel.Type.Check
import ApiModel.Type.Write

/-!
# Enumerated values and back

A text schema that is enumerated becomes a union of single values. Each member leads back to the
value it stands for: the kinds of scalars, of which some count as the same key, are told apart, and
only days and timestamps come back as the text they are written as.

* `value?_of_memberType`: a member leads back to its value.
* `literal_of_memberType`: a literal is what the check of literals makes of the value.
* `enumeration_undone`: the members of the union, one for each value and in the same order.
-/

namespace ApiModel

/-- The one value that a type stands for. -/
def Ty.value? : Ty → Option Value
  | .primitive .null => some .null
  | .literal l => some l.toValue
  | _ => none

namespace Schema

open Reference (Layout)

variable {layout : Layout} {s v : Value} {t : Ty}

/-- A value, in which days and timestamps stand as their text. -/
def restated : Value → Value
  | .scalar (.date d) => .text d.iso
  | .scalar (.timestamp t) => .text t.iso
  | v => v

/-! ## One value -/

theorem value?_of_memberType (h : memberType v = .ok t) : t.value? = some (restated v) := by
  unfold memberType at h
  split at h <;> cases h <;> rfl

/-- A type is the member of a union that stands for a value: the empty type for the empty value,
and else the literal that is read from the value. -/
def StandsFor (v : Value) (t : Ty) : Prop :=
  v = .null ∧ t = .primitive .null ∨ ∃ l, t = .literal l ∧ Literal.check (restated v) = .ok l

theorem literal_of_memberType (h : memberType v = .ok t) : StandsFor v t := by
  unfold memberType at h
  split at h <;> cases h
  · exact Or.inl ⟨rfl, rfl⟩
  all_goals exact Or.inr ⟨_, rfl, rfl⟩

/-! ## All values -/

theorem values_of_memberTypes {vs : List Value} {members : List Ty}
    (h : List.Forall₂ (fun v t => memberType v = .ok t) vs members) :
    members.map Ty.value? = vs.map fun v => some (restated v) := by
  induction h with
  | nil => rfl
  | cons hv _ ih => rw [List.map_cons, List.map_cons, value?_of_memberType hv, ih]

/-- **Enumerations are undone.** A text that is enumerated by values without parts, bytes apart,
becomes a union with one member for each, in the same order. A member stands for its value and leads
back to it, with days and timestamps as their text. -/
theorem enumeration_undone {vs : List Value} (htype : hasType s "string" = true)
    (henum : s.getD "enum" = .list vs) (hvs : ∀ v ∈ vs, isEnumerable v = true) :
    ∃ members, (toType layout s).result = .ok (.union members) ∧
      List.Forall₂ StandsFor vs members ∧
      members.map Ty.value? = vs.map fun v => some (restated v) := by
  obtain ⟨members, hmembers⟩ : ∃ members, vs.mapM memberType = .ok members :=
    exists_mapM_eq_ok_iff.2 fun v hv => memberType_of_enumerable (hvs v hv)
  have hall := mapM_eq_ok_iff.1 hmembers
  refine ⟨members, ?_, hall.imp fun v t => literal_of_memberType, values_of_memberTypes hall⟩
  rw [result_toType_enumerated (classify_eq_string_iff.2 htype) henum, hmembers]
  rfl

/-- A day. -/
def leapDay : Date := ⟨2024, 2, 29, by decide⟩

/-- A time of that day. -/
def leapMorning : Timestamp := ⟨leapDay, 9, 30, 0, 0, some 60, by decide⟩

/-- Values of every kind that can be enumerated, one of them twice. -/
def assorted : List Value :=
  [.null, .bool true, .int 1, .float (.ofInt 1), .text "1", .int 1, .scalar (.date leapDay),
    .scalar (.timestamp leapMorning)]

/-- A text that is one of these. -/
def assortment : Value := .record [("type", .text "string"), ("enum", .list assorted)]

theorem enumeration_undone_assortment :
    (∀ v ∈ assorted, isEnumerable v = true) ∧
    ∃ members, (toType (Layout.of .openApi3) assortment).result = .ok (.union members) ∧
      members.map Ty.value? =
        [some .null, some (.bool true), some (.int 1), some (.float (.ofInt 1)), some (.text "1"),
          some (.int 1), some (.text "2024-02-29"), some (.text "2024-02-29T09:30:00+01:00")] := by
  have hall : ∀ v ∈ assorted, isEnumerable v = true := by
    simp only [assorted, List.forall_mem_cons]
    exact ⟨rfl, rfl, rfl, rfl, rfl, rfl, rfl, rfl, List.forall_mem_nil _⟩
  have hday : leapDay.iso = "2024-02-29" := by decide
  have hmorning : leapMorning.iso = "2024-02-29T09:30:00+01:00" := by decide
  obtain ⟨members, hresult, -, hback⟩ :=
    @enumeration_undone (Layout.of .openApi3) assortment assorted rfl rfl hall
  refine ⟨hall, members, hresult, ?_⟩
  rw [hback, ← hday, ← hmorning]
  rfl

end Schema

end ApiModel
