import ApiModel.Proofs.Complaint
import ApiModel.Proofs.Schema.Failing
import ApiModel.Proofs.Value.Kind

/-!
# Schemas that fit

Going through a schema can run into a fault only at those keywords that its shape makes it look at,
and only if they hold values of kinds that cannot be used in that way. A schema fits if none of them
does. Then all that can be wrong with it is complained of.

* `complains_classify`: a schema that fits and has no shape is complained of.
* `stepsFail_of_fits`: all that is wrong with a schema that fits is complained of.
-/

namespace ApiModel.Schema

open Failure (IsComplaint)

variable {s v : Value}

/-- The keywords that a schema is read by hold values that can be used in that way. -/
structure Fits (s : Value) : Prop where
  /-- The schema is written out. -/
  plain : s.isEnclosing = false
  /-- Where only the format can tell the shape, it can be looked up. -/
  format : isUntyped s = true → present s "allOf" = false →
    (s.getD "format").isKey = true ∨ ∃ ks, s.getD "format" = .set ks
  /-- What a text is enumerated by can be gone through. -/
  enum : hasType s "string" = true →
    s.getD "enum" = .null ∨ ∃ ws, (s.getD "enum").elements? = some ws
  /-- The properties of an object are a map from texts. -/
  properties : isObject s = true →
    (s.getD "properties").Maps fun key _ => (Value.scalar key).IsTextual
  /-- The names that an object with properties requires can be looked up. -/
  required : isObject s = true → (s.getD "properties").isTruthy = true →
    (s.getD "required").Lists fun name => name.isKey = true
  /-- The branches of a composition can be gone through. -/
  branches : isComposition s = true → ∃ ws, (s.getD "allOf").elements? = some ws

/-- Nothing is asked of a schema that is a reference. -/
theorem fits_of_reference {r : Value} (h : s.get? "$ref" = some r) : Fits s := by
  have hhas : s.has "$ref" = true := by rw [Value.has, h]; rfl
  obtain ⟨es, rfl, -⟩ := Value.mem_of_get? h
  constructor <;>
    simp [isUntyped, hasType, isObject, isComposition, hhas,
      Value.isEnclosing]

/-- The schemas that a schema with a written form holds have one too. -/
theorem isSayable_of_mem_children {c : Value} (h : s.isSayable = true) (hc : c ∈ children s) :
    c.isSayable = true := by
  unfold children at hc
  split at hc
  · unfold items at hc
    split at hc
    · cases hc
    · rw [List.mem_singleton.1 hc]
      exact Value.isSayable_getD h
  split at hc
  · obtain ⟨e, he, rfl⟩ := List.mem_map.1 hc
    unfold properties at he
    split at he
    · rename_i es hes
      have hmap : (s.getD "properties").isSayable = true := Value.isSayable_getD h
      rw [hes] at hmap
      exact Value.isInherited_sayable.entry es hmap e he
    · cases he
  split at hc
  · obtain ⟨ws, hws, hmem⟩ := mem_elements_of_mem_branches hc
    unfold elements at hws
    split at hws
    · rename_i vs hvs
      cases hws
      exact Value.isSayable_of_mem_elements (Value.isSayable_getD h) hvs hmem
    · cases hws
  · cases hc

theorem complains_memberType : FailsOnly IsComplaint (memberType v) := by
  unfold memberType
  split
  case h_8 => exact .error rfl
  all_goals exact .ok _

theorem complains_nameOf {container : String} (h : v.isSayable = true) :
    FailsOnly IsComplaint (Reference.nameOf container v) := by
  intro e he
  rw [(Reference.nameOf_eq_error_iff.1 he).2]
  exact h

theorem exists_hasNumericFormat
    (h : (s.getD "format").isKey = true ∨ ∃ ks, s.getD "format" = .set ks) :
    ∃ b, hasNumericFormat s = .ok b := by
  unfold hasNumericFormat
  split
  · exact ⟨_, rfl⟩
  · exact ⟨_, rfl⟩
  · rename_i hset
    rcases h with hkey | ⟨ks, hks⟩
    · exact ⟨false, by rw [if_pos hkey]⟩
    · exact absurd hks (hset ks)

/-- A schema that fits and has no shape is complained of. -/
theorem complains_classify (hs : s.isSayable = true) (h : Fits s) :
    FailsOnly IsComplaint (classify s) := by
  have htype : (s.getD "type").isSayable = true := Value.isSayable_getD hs
  unfold classify
  split
  · exact .error rfl
  split
  · rename_i henclosing
    cases h.plain.symm.trans henclosing
  split
  · exact .ok _
  rename_i href
  split
  case h_7 htype =>
    have huntyped : isUntyped s = true := isUntyped_iff.2 ⟨eq_false_of_ne_true href, htype⟩
    split
    · exact .ok _
    · rename_i hallOf
      obtain ⟨b, hb⟩ := exists_hasNumericFormat (h.format huntyped (eq_false_of_ne_true hallOf))
      refine .bind_ok hb ?_
      cases b with
      | true => exact .ok _
      | false => exact .error rfl
  case h_8 => exact .error htype
  all_goals exact .ok _

theorem complains_required (h : (s.getD "required").Lists fun name => name.isKey = true) :
    FailsOnly IsComplaint (required s) := by
  obtain ⟨names, hnames, hkeys⟩ := h.items
  refine .bind_ok hnames ?_
  rw [if_pos (List.all_eq_true.2 hkeys)]
  exact .ok _

theorem complains_elements (h : ∃ ws, v.elements? = some ws) :
    FailsOnly IsComplaint (elements v) := by
  obtain ⟨ws, hws⟩ := h
  rw [elements, hws]
  exact .ok _

theorem complains_fieldName {key : Scalar} (h : (Value.scalar key).IsTextual) :
    FailsOnly IsComplaint (fieldName key) := by
  obtain ⟨name, hname⟩ := h.checkText
  exact failsOnly_checkedAs_ok ⟨name, Checked.within_eq_ok_iff.2 hname⟩

/-- Whatever is wrong with a schema that fits and has a written form is complained of. -/
theorem stepsFail_of_fits (hs : s.isSayable = true) (h : Fits s) : StepsFail IsComplaint s where
  shape := complains_classify hs h
  name _ r hr := complains_nameOf (Value.isInherited_sayable.get? hs hr)
  enum hstring hpresent := by
    rcases h.enum hstring with hnull | hws
    · rw [present, hnull] at hpresent
      cases hpresent
    · exact complains_elements hws
  member _ := complains_memberType
  items := trivial
  properties hobject htruthy hne := by
    rcases h.properties hobject with hfalse | ⟨es, hes, -⟩
    · cases hfalse.symm.trans htruthy
    · exact absurd hes (hne es)
  required hobject htruthy := complains_required (h.required hobject htruthy)
  field hobject es hes e he := by
    rcases h.properties hobject with hfalse | ⟨es', hes', htextual⟩
    · have hnil : es = [] := by simpa [hes, Value.isTruthy] using hfalse
      rw [hnil] at he
      cases he
    · cases hes.symm.trans hes'
      exact complains_fieldName (htextual e he)
  branches hcomposition := complains_elements (h.branches hcomposition)
  shapeless := rfl

end ApiModel.Schema
