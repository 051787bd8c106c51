import ApiModel.Proofs.Keyed
import ApiModel.Proofs.Schema.Type
import ApiModel.Proofs.Type.Merging
import Mathlib

/-!
# Records and their properties

Fields are merged wherever a composition stands, at every level of compositions within each other.
What comes out is the record of one flat list: the properties of all objects that are reached
through compositions alone, in order, each name once at the place of its first property, with what
its last property says.

* `FieldFrom`: the field that one property makes.
* `fields_of_flattened`: the fields of a schema are those of its flat list, merged once.
* `record_of_flattened`: which fields a record has, in which order, and what each is made of.
-/

namespace ApiModel.Schema

open Reference (Layout)

variable {layout : Layout} {s : Value}

/-! ## The flat list -/

/-- A property together with the object that holds it. -/
structure Property where
  /-- The key of the property. -/
  key : Scalar
  /-- The schema of the property. -/
  schema : Value
  /-- The object that holds the property. -/
  holder : Value

/-- The properties that are reached through compositions alone. -/
def flattened (s : Value) : List Property :=
  if isObject s then (properties s).map fun e => ⟨e.1, e.2, s⟩
  else if isComposition s then (branches s).attach.flatMap fun b => flattened b.1
  else []
termination_by sizeOf s
decreasing_by exact sizeOf_lt_of_mem_branches b.2

theorem flattened_object (h : isObject s = true) :
    flattened s = (properties s).map fun e => ⟨e.1, e.2, s⟩ := by
  rw [flattened, if_pos h]

theorem flattened_composition (h : isComposition s = true) :
    flattened s = (branches s).flatMap flattened := by
  rw [flattened, isObject_eq_false_of_isComposition h, if_neg (by simp), if_pos h,
    List.flatMap_subtype fun b _ => rfl, List.unattach_attach]

theorem flattened_other (ho : isObject s = false) (hc : isComposition s = false) :
    flattened s = [] := by
  rw [flattened, ho, hc]
  simp

/-- A field is the one that a property makes. -/
structure FieldFrom (layout : Layout) (p : Property) (f : Field) : Prop where
  /-- The name is the key, as a text. -/
  name : fieldName p.key = .ok f.name
  /-- The type is that of the schema. -/
  type : (toType layout p.schema).result = .ok f.type
  /-- The field may be absent unless the object that holds the property requires it. -/
  nullable : f.nullable = !requires p.holder p.key
  /-- The field is only read if the schema says so. -/
  readonly : f.readonly = (p.schema.getD "readOnly").isTruthy

/-! ## One level -/

theorem fields_of_object {t : Ty} (ho : isObject s = true)
    (h : (toType layout s).result = .ok t) :
    (∃ fs, t = .record (Field.merge fs) ∧ List.Forall₂ (FieldFrom layout) (flattened s) fs) ∨
      t = .dictionary .unknown ∧ flattened s = [] := by
  rw [result_toType_object (classify_eq_object_iff.2 ho)] at h
  rw [flattened_object ho]
  split at h
  · obtain ⟨names, hnames, h⟩ := bind_eq_ok_iff.1 h
    split at h
    · rename_i es hes
      obtain ⟨fs, hfs, rfl⟩ := map_eq_ok_iff.1 h
      refine Or.inl ⟨fs, rfl, ?_⟩
      rw [properties, hes, List.forall₂_map_left_iff]
      refine (mapM_eq_ok_iff.1 hfs).imp fun e f hf => ?_
      obtain ⟨hname, htype, hnull, hread⟩ := fieldOf_eq_ok_iff.1 hf
      rw [any_of_required hnames] at hnull
      exact ⟨hname, htype, hnull, hread⟩
    · cases h
  · rename_i htruthy
    cases h
    refine Or.inr ⟨rfl, ?_⟩
    unfold properties
    split
    · rename_i es hes
      rw [hes] at htruthy
      simpa [Value.isTruthy] using htruthy
    · rfl

/-- The branches of a composition that has a type are all that is met in going through it. -/
theorem branches_of_composition {t : Ty} (hc : isComposition s = true)
    (h : (toType layout s).result = .ok t) :
    ∃ types, List.Forall₂ (fun b t => (toType layout b).result = .ok t) (branches s) types ∧
      t = composed types := by
  rw [result_toType_allOf (classify_eq_allOf_iff.2 hc)] at h
  obtain ⟨parts, hparts, h⟩ := bind_eq_ok_iff.1 h
  obtain ⟨types, htypes, rfl⟩ := map_eq_ok_iff.1 h
  have hall := mapM_eq_ok_iff.1 htypes
  refine ⟨types, ?_, rfl⟩
  unfold elements at hparts
  split at hparts
  · rename_i vs hvs
    cases hparts
    unfold branches
    split
    · rename_i ps hps
      rw [hps] at hvs
      cases hvs
      exact hall
    · rename_i a b hab
      rw [hab] at hvs
      cases hvs
      exact hall
    · rename_i hlist hpair
      -- anything else has a type only if nothing is met in it
      cases hall with
      | nil => exact .nil
      | cons hw _ =>
        rw [result_toType_of_not_map
          (not_map_of_mem_elements hlist hpair hvs List.mem_cons_self)] at hw
        cases hw
  · cases hparts

/-- Of the schemas only objects and compositions are records. -/
theorem not_isRecord_of_other {t : Ty} (ho : isObject s = false) (hc : isComposition s = false)
    (h : (toType layout s).result = .ok t) : t.isRecord = false := by
  cases hshape : classify s with
  | error e =>
    rw [result_toType_of_error hshape] at h
    cases h
  | ok shape =>
    cases shape with
    | reference =>
      have href : s.has "$ref" = true := by
        cases classify_eq_ok_iff.1 hshape with
        | reference h => exact h
      obtain ⟨ref, href⟩ := Option.isSome_iff_exists.1 href
      rw [result_toType_reference href] at h
      obtain ⟨name, -, rfl⟩ := map_eq_ok_iff.1 h
      rfl
    | number => rw [result_toType_number hshape] at h; cases h; rfl
    | boolean => rw [result_toType_boolean hshape] at h; cases h; rfl
    | string =>
      rw [result_toType_string hshape] at h
      split at h
      · cases h; rfl
      · obtain ⟨members, -, rfl⟩ := map_eq_ok_iff.1 h
        rfl
    | array =>
      rw [result_toType_array hshape] at h
      split at h
      · cases h
      · obtain ⟨u, -, rfl⟩ := map_eq_ok_iff.1 h
        rfl
    | object => rw [classify_eq_object_iff.1 hshape] at ho; cases ho
    | allOf => rw [classify_eq_allOf_iff.1 hshape] at hc; cases hc
    | numericFormat => rw [result_toType_numericFormat hshape] at h; cases h; rfl

/-! ## All levels -/

theorem merge_branches {bs : List Value} {types : List Ty}
    (hall : List.Forall₂ (fun b t => (toType layout b).result = .ok t) bs types)
    (ih : ∀ b ∈ bs, ∀ t, (toType layout b).result = .ok t →
      ∃ raw, List.Forall₂ (FieldFrom layout) (flattened b) raw ∧
        recordFields t = Field.merge raw) :
    ∃ raw, List.Forall₂ (FieldFrom layout) (bs.flatMap flattened) raw ∧
      Field.merge (types.flatMap recordFields) = Field.merge raw := by
  induction hall with
  | nil => exact ⟨[], .nil, rfl⟩
  | @cons b t bs types hb _ ihs =>
    obtain ⟨hhead, htail⟩ := List.forall_mem_cons.1 ih
    obtain ⟨own, hown, howneq⟩ := hhead t hb
    obtain ⟨others, hothers, hotherseq⟩ := ihs htail
    refine ⟨own ++ others, List.rel_append hown hothers, ?_⟩
    rw [List.flatMap_cons]
    refine Field.merge_append_congr ?_ hotherseq
    rw [howneq]
    exact Field.merge_merge own

/-- The fields of a schema are those of its flat list, merged once. A schema that is no record
contributes nothing to it. -/
theorem fields_of_flattened (s : Value) : ∀ t, (toType layout s).result = .ok t →
    (∃ raw, List.Forall₂ (FieldFrom layout) (flattened s) raw ∧
      recordFields t = Field.merge raw) ∧
    (t.isRecord = false → flattened s = []) := by
  induction s using induction_children with
  | step s ih =>
    intro t h
    by_cases ho : isObject s = true
    · rcases fields_of_object ho h with ⟨fs, rfl, hfs⟩ | ⟨rfl, hnil⟩
      · exact ⟨⟨fs, hfs, rfl⟩, nofun⟩
      · rw [hnil]
        exact ⟨⟨[], .nil, rfl⟩, fun _ => rfl⟩
    · by_cases hc : isComposition s = true
      · obtain ⟨types, htypes, rfl⟩ := branches_of_composition hc h
        rw [children_composition hc] at ih
        rw [flattened_composition hc]
        exact ⟨merge_branches htypes fun b hb t ht => (ih b hb t ht).1, nofun⟩
      · rw [Bool.not_eq_true] at ho hc
        have hrec := not_isRecord_of_other ho hc h
        rw [flattened_other ho hc, recordFields_eq_nil hrec]
        exact ⟨⟨[], .nil, rfl⟩, fun _ => rfl⟩

/-! ## Records -/

/-- **Records are flat.** A schema that is no record contributes no property. The fields of one that
is have distinct names, in the order in which these first occur among its properties, and each is
the field of the last property with its name. -/
theorem record_of_flattened {fs : List Field} (h : (toType layout s).result = .ok (.record fs)) :
    (∀ b t, (toType layout b).result = .ok t → t.isRecord = false → flattened b = []) ∧
    (fs.map (·.name)).Nodup ∧
    (∃ names, List.Forall₂ (fun p name => fieldName p.key = .ok name) (flattened s) names ∧
      fs.map (·.name) = names.eraseDups) ∧
    ∀ f ∈ fs, ∃ before p after, flattened s = before ++ p :: after ∧
      (∀ q ∈ after, fieldName q.key ≠ .ok f.name) ∧ FieldFrom layout p f := by
  obtain ⟨⟨raw, hraw, hmerge⟩, -⟩ := fields_of_flattened s _ h
  obtain rfl : fs = Field.merge raw := hmerge
  refine ⟨fun b t hb ht => (fields_of_flattened b t hb).2 ht, Keyed.nodup_keys_ofList _ raw,
    ⟨raw.map (·.name), ?_, Keyed.keys_ofList _ raw⟩, fun f hf => ?_⟩
  · rw [List.forall₂_map_right_iff]
    exact hraw.imp fun p f hpf => hpf.name
  · obtain ⟨rawBefore, rawAfter, rfl, hlast⟩ := Keyed.mem_ofList_iff.1 hf
    -- the flat list is cut where the list of fields is
    have hrest := List.forall₂_drop_append _ _ _ hraw
    obtain ⟨p, after, hp, hafter, heq⟩ := List.forall₂_cons_right_iff.1 hrest
    refine ⟨(flattened s).take rawBefore.length, p, after, ?_, fun q hq hname => ?_, hp⟩
    · rw [← heq, List.take_append_drop]
    · obtain ⟨g, hg, hqg⟩ := exists_right_of_forall₂ hafter hq
      rw [hqg.name] at hname
      exact hlast g hg (Except.ok.inj hname)

/-- A schema that is all of an object, a link, and a composition within, in which a property of the
object is described anew. -/
def pet : Value :=
  .record [("allOf", .list [
    .record [("type", .text "object"), ("required", .list [.text "id"]), ("properties", .record
      [("id", .record [("type", .text "string")]), ("tag", .record [("type", .text "integer")])])],
    .record [("$ref", .text "#/definitions/animal")],
    .record [("allOf", .list [
      .record [("type", .text "object"), ("required", .list [.text "tag"]), ("properties", .record
        [("name", .record [("type", .text "string")]),
          ("tag", .record [("type", .text "string"), ("readOnly", .bool true)])])]])]])]

/-- The fields of that schema. -/
def petFields : List Field :=
  [⟨"id", .primitive .string, false, false⟩, ⟨"tag", .primitive .string, false, true⟩,
    ⟨"name", .primitive .string, true, false⟩]

theorem record_of_pet :
    (toType (Layout.of .swagger2) pet).result = .ok (.record petFields) ∧
    (petFields.map (·.name)).Nodup ∧
    ∃ p ∈ flattened pet,
      FieldFrom (Layout.of .swagger2) p ⟨"tag", .primitive .string, false, true⟩ := by
  have h : (toType (Layout.of .swagger2) pet).result = .ok (.record petFields) := by cbv
  obtain ⟨-, hnd, -, hlast⟩ := record_of_flattened h
  obtain ⟨before, p, after, hflat, -, hp⟩ := hlast ⟨"tag", .primitive .string, false, true⟩
    (List.mem_cons_of_mem _ List.mem_cons_self)
  exact ⟨h, hnd, p, by rw [hflat]; simp, hp⟩

end ApiModel.Schema
