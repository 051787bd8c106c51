import ApiModel.Proofs.Schema.Shape

/-!
# The schemas inside a schema

A schema holds others: a list its items, an object its properties, a composition its branches. What
stands under these keywords in a schema of another shape is not looked at.

* `subschemas`: all schemas that are met in going through one, each before those inside it.
* `induction_children`: what holds of a schema if it holds of the ones it holds, holds of all.
-/

namespace ApiModel.Schema

variable {s : Value}

/-! ## Children -/

/-- The properties of an object. -/
def properties (s : Value) : Entries :=
  match s.getD "properties" with
  | .map es => es
  | _ => []

/-- The branches of a composition. -/
def branches (s : Value) : List Value :=
  match s.getD "allOf" with
  | .list parts => parts
  | .pair a b => [a, b]
  | _ => []

/-- The items of a list, unless they are empty. -/
def items (s : Value) : List Value :=
  if (s.getD "items").isNull then [] else [s.getD "items"]

/-- The schemas that a schema holds, in order. -/
def children (s : Value) : List Value :=
  if hasType s "array" then items s
  else if isObject s then (properties s).map Prod.snd
  else if isComposition s then branches s
  else []

theorem hasType_array_eq_false_of_isObject (h : isObject s = true) :
    hasType s "array" = false := by
  rw [Bool.eq_false_iff, ne_eq, ← classify_eq_array_iff, classify_eq_object_iff.2 h]
  nofun

theorem hasType_array_eq_false_of_isComposition (h : isComposition s = true) :
    hasType s "array" = false := by
  rw [Bool.eq_false_iff, ne_eq, ← classify_eq_array_iff, classify_eq_allOf_iff.2 h]
  nofun

theorem isObject_eq_false_of_isComposition (h : isComposition s = true) : isObject s = false := by
  rw [Bool.eq_false_iff, ne_eq, ← classify_eq_object_iff, classify_eq_allOf_iff.2 h]
  nofun

theorem children_array (h : hasType s "array" = true) : children s = items s := by
  rw [children, if_pos h]

theorem children_object (h : isObject s = true) :
    children s = (properties s).map Prod.snd := by
  rw [children, hasType_array_eq_false_of_isObject h, if_neg (by simp), if_pos h]

theorem children_composition (h : isComposition s = true) : children s = branches s := by
  rw [children, hasType_array_eq_false_of_isComposition h, if_neg (by simp),
    isObject_eq_false_of_isComposition h, if_neg (by simp), if_pos h]

theorem children_leaf {shape : Shape} (h : classify s = .ok shape) (ha : shape ≠ .array)
    (ho : shape ≠ .object) (hc : shape ≠ .allOf) : children s = [] := by
  have harray : hasType s "array" ≠ true := by
    rw [ne_eq, ← classify_eq_array_iff, h, Except.ok.injEq]
    exact ha
  have hobject : isObject s ≠ true := by
    rw [ne_eq, ← classify_eq_object_iff, h, Except.ok.injEq]
    exact ho
  have hcomposition : isComposition s ≠ true := by
    rw [ne_eq, ← classify_eq_allOf_iff, h, Except.ok.injEq]
    exact hc
  rw [children, if_neg harray, if_neg hobject, if_neg hcomposition]

theorem sizeOf_lt_of_mem_properties {e : Scalar × Value} (h : e ∈ properties s) :
    sizeOf e.2 < sizeOf s := by
  unfold properties at h
  split at h
  · rename_i es hes
    have := Value.sizeOf_get?_map_lt (Value.get?_of_getD hes nofun)
    have := Value.sizeOf_lt_of_mem_entries (k := e.1) (w := e.2) h
    omega
  · cases h

theorem sizeOf_lt_of_mem_branches {b : Value} (h : b ∈ branches s) : sizeOf b < sizeOf s := by
  unfold branches at h
  split at h
  · rename_i parts hp
    have := Value.sizeOf_get?_list_lt (Value.get?_of_getD hp nofun)
    have := List.sizeOf_lt_of_mem h
    omega
  · rename_i a c hp
    have := Value.sizeOf_get?_lt (Value.get?_of_getD hp nofun)
    simp only [Value.pair.sizeOf_spec] at this
    simp only [List.mem_cons, List.not_mem_nil, or_false] at h
    rcases h with rfl | rfl <;> omega
  · cases h

theorem sizeOf_lt_of_mem_children {c : Value} (h : c ∈ children s) : sizeOf c < sizeOf s := by
  unfold children at h
  split at h
  · unfold items at h
    split at h
    · cases h
    · rename_i hn
      rw [List.mem_singleton.1 h]
      exact Value.sizeOf_get?_lt (Value.get?_of_getD rfl fun hnull => hn (Value.isNull_iff.2 hnull))
  · split at h
    · obtain ⟨e, he, rfl⟩ := List.mem_map.1 h
      exact sizeOf_lt_of_mem_properties he
    · split at h
      · exact sizeOf_lt_of_mem_branches h
      · cases h

/-- What holds of a schema whenever it holds of the schemas it holds, holds of every schema. -/
theorem induction_children {P : Value → Prop} (step : ∀ s, (∀ c ∈ children s, P c) → P s)
    (s : Value) : P s := by
  induction hn : sizeOf s using Nat.strongRecOn generalizing s with
  | _ n ih =>
    refine step s fun c hc => ih (sizeOf c) ?_ c rfl
    rw [← hn]
    exact sizeOf_lt_of_mem_children hc

/-! ## Everything inside -/

/-- A schema and all schemas inside it, each before those it holds. -/
def subschemas (s : Value) : List Value :=
  s :: (children s).attach.flatMap fun c => subschemas c.1
termination_by sizeOf s
decreasing_by exact sizeOf_lt_of_mem_children c.2

theorem subschemas_eq (s : Value) : subschemas s = s :: (children s).flatMap subschemas := by
  rw [subschemas, List.flatMap_subtype fun c _ => rfl, List.unattach_attach]

end ApiModel.Schema
