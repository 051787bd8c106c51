import ApiModel.Proofs.Reference.Failing
import ApiModel.Proofs.Reference.Name
import ApiModel.Proofs.Schema.Type

/-!
# How schemas fail

Going through a schema fails at a step within it or within a schema that it holds. So what is known
of the failures of each step, in all schemas inside one, is known of how the schema fails. All
steps but one fail in ordinary ways. The reference of a schema is not followed, but it has to name
another schema, and is malformed otherwise.

* `failsOnly_toType`: how a schema fails, given how the steps fail in all schemas inside.
* `stepsFail_of_nameOf`: how the steps fail, given how a reference fails to name a schema.
-/

namespace ApiModel.Schema

open Failure (StaysInside IsFault IsOrdinary)
open Reference (IsInner Layout)

variable {layout : Layout} {s v : Value}

/-! ## Steps -/

/-- The steps of going through a schema fail only in a way, but for the schemas that it holds. -/
structure StepsFail (Q : Failure → Prop) (s : Value) : Prop where
  /-- It has a shape. -/
  shape : FailsOnly Q (classify s)
  /-- What it refers to has a name. -/
  name : ∀ container, ∀ r, s.get? "$ref" = some r → FailsOnly Q (Reference.nameOf container r)
  /-- What a text is enumerated by is gone through. -/
  enum : hasType s "string" = true → present s "enum" = true →
    FailsOnly Q (elements (s.getD "enum"))
  /-- A value stands for a type. -/
  member : ∀ w, FailsOnly Q (memberType w)
  /-- The items of a list are described. -/
  items : Q .missingItems
  /-- The properties of an object are a map. -/
  properties : isObject s = true → (s.getD "properties").isTruthy = true →
    (∀ es, s.getD "properties" ≠ .map es) → Q (.fault .noMember)
  /-- Some of them are required. -/
  required : isObject s = true → (s.getD "properties").isTruthy = true → FailsOnly Q (required s)
  /-- Each has a name. -/
  field : isObject s = true → ∀ es, s.getD "properties" = .map es → ∀ e ∈ es,
    FailsOnly Q (fieldName e.1)
  /-- The branches of a composition are gone through. -/
  branches : isComposition s = true → FailsOnly Q (elements (s.getD "allOf"))
  /-- What is no map has no shape. -/
  shapeless : Q shapeless

theorem has_of_classify (h : classify s = .ok .reference) : s.has "$ref" = true := by
  cases classify_eq_ok_iff.1 h with
  | reference h => exact h

/-! ## Schemas that hold others -/

section Shapes

variable {Q : Failure → Prop} (h : StepsFail Q s)
  (hchildren : ∀ c ∈ children s, FailsOnly Q (toType layout c).result)

include h

theorem failsOnly_string (hs : classify s = .ok .string) :
    FailsOnly Q (toType layout s).result := by
  rw [result_toType_string hs]
  split
  · exact .ok _
  · rename_i hnull
    have hpresent : present s "enum" = true := by simpa [present] using hnull
    refine ((h.enum (classify_eq_string_iff.1 hs) hpresent).bind fun vs _ => ?_).map
    exact .mapM fun w _ => h.member w

include hchildren

theorem failsOnly_array (hs : classify s = .ok .array) :
    FailsOnly Q (toType layout s).result := by
  rw [result_toType_array hs]
  split
  · exact .error h.items
  · rename_i hnull
    refine (hchildren _ ?_).map
    rw [children_array (classify_eq_array_iff.1 hs), items, if_neg hnull]
    exact List.mem_singleton_self _

theorem failsOnly_object (hs : classify s = .ok .object) :
    FailsOnly Q (toType layout s).result := by
  have hobject := classify_eq_object_iff.1 hs
  rw [result_toType_object hs]
  split
  · rename_i htruthy
    refine (h.required hobject htruthy).bind fun names _ => ?_
    split
    · rename_i es hes
      refine (FailsOnly.mapM fun e he => ?_).map
      have hmem : e.2 ∈ children s := by
        rw [children_object hobject, properties, hes]
        exact List.mem_map_of_mem he
      refine (hchildren e.2 hmem).bind fun t _ => ?_
      exact (h.field hobject es hes e he).bind fun _ _ => .ok _
    · exact .error (h.properties hobject htruthy ‹_›)
  · exact .ok _

theorem failsOnly_composition (hs : classify s = .ok .allOf) :
    FailsOnly Q (toType layout s).result := by
  have hcomposition := classify_eq_allOf_iff.1 hs
  rw [result_toType_allOf hs]
  refine (h.branches hcomposition).bind fun ws hws => (FailsOnly.mapM fun w hw => ?_).map
  rcases mem_branches_of_elements hws hw with hbranch | hmap
  · exact hchildren w (by rwa [children_composition hcomposition])
  · rw [result_toType_of_not_map hmap]
    exact .error h.shapeless

end Shapes

/-! ## All levels -/

/-- A schema fails within itself or within a schema that it holds. The induction is on the schemas
that it holds. -/
theorem failsOnly_toType {Q : Failure → Prop} {P : Value → Prop}
    (hP : ∀ s, P s → StepsFail Q s ∧ ∀ c ∈ children s, P c) (s : Value) :
    P s → FailsOnly Q (toType layout s).result := by
  induction s using induction_children with
  | step s ih =>
    intro hs
    obtain ⟨hsteps, hchildren⟩ := hP s hs
    have hchild : ∀ c ∈ children s, FailsOnly Q (toType layout c).result :=
      fun c hc => ih c hc (hchildren c hc)
    cases hclass : classify s with
    | error e =>
      rw [result_toType_of_error hclass]
      exact .error (hsteps.shape e hclass)
    | ok shape =>
      cases shape with
      | reference =>
        obtain ⟨r, hr⟩ := Option.isSome_iff_exists.1 (has_of_classify hclass)
        rw [result_toType_reference hr]
        exact (hsteps.name _ r hr).map
      | number => rw [result_toType_number hclass]; exact .ok _
      | boolean => rw [result_toType_boolean hclass]; exact .ok _
      | numericFormat => rw [result_toType_numericFormat hclass]; exact .ok _
      | string => exact failsOnly_string hsteps hclass
      | array => exact failsOnly_array hsteps hchild hclass
      | object => exact failsOnly_object hsteps hchild hclass
      | allOf => exact failsOnly_composition hsteps hchild hclass

/-! ## Ordinary failures -/

theorem failsOnly_elements : FailsOnly IsFault (elements v) := by
  unfold elements
  split
  · exact .ok _
  · exact failsOnly_fault _

theorem failsOnly_required : FailsOnly IsFault (required s) := by
  refine Value.failsOnly_items.bind fun names _ => ?_
  split
  · exact .ok _
  · exact failsOnly_fault _

theorem failsOnly_memberType : FailsOnly IsOrdinary (memberType v) := by
  unfold memberType
  split
  case h_8 => exact .error trivial
  all_goals exact .ok _

theorem failsOnly_hasNumericFormat : FailsOnly IsFault (hasNumericFormat s) := by
  unfold hasNumericFormat
  split
  · exact .ok _
  · exact .ok _
  · split
    · exact .ok _
    · exact failsOnly_fault _

theorem failsOnly_classify : FailsOnly IsOrdinary (classify s) := by
  unfold classify
  split
  · exact .error trivial
  split
  · exact .error trivial
  split
  · exact .ok _
  split
  case h_7 =>
    split
    · exact .ok _
    · refine failsOnly_hasNumericFormat.ofFault.bind fun b _ => ?_
      split
      · exact .ok _
      · exact .error trivial
  case h_8 => exact .error trivial
  all_goals exact .ok _

/-- The steps of going through a schema fail in ordinary ways, or at naming what it refers to. -/
theorem stepsFail_of_nameOf {Q : Failure → Prop} (hQ : ∀ e, IsOrdinary e → Q e)
    (h : ∀ container, ∀ r, s.get? "$ref" = some r → FailsOnly Q (Reference.nameOf container r)) :
    StepsFail Q s where
  shape := failsOnly_classify.imp hQ
  name := h
  enum _ _ := failsOnly_elements.ofFault.imp hQ
  member _ := failsOnly_memberType.imp hQ
  items := hQ _ trivial
  properties _ _ _ := hQ _ trivial
  required _ _ := failsOnly_required.ofFault.imp hQ
  field _ _ _ _ _ := failsOnly_checkedAs.imp hQ
  branches _ := failsOnly_elements.ofFault.imp hQ
  shapeless := hQ _ trivial

/-! ## Inner references -/

/-- If the reference of a schema is inner, so is every reference that is called malformed. -/
theorem failsOnly_nameOf {container : String} (h : IsInner v) :
    FailsOnly StaysInside (Reference.nameOf container v) := by
  intro e he
  rw [(Reference.nameOf_eq_error_iff.1 he).2]
  exact h

end ApiModel.Schema
