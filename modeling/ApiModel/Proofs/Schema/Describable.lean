import ApiModel.Proofs.Schema.Flattening

/-!
# The types that schemas describe

Of all types only some come from a schema. They are given by a grammar, which says at once what a
type is made of and what may stand where: a union holds nothing but single values, a map anything,
and a record has each name once.

* `describable_of_toType`: the type of a schema is one of the grammar.
* `Ty.standing_of_occurs`: what stands where inside such a type.
-/

namespace ApiModel

namespace Ty

/-! ## The grammar -/

/-- A type that may be a member of a union: the type of one value. -/
def IsMember (t : Ty) : Prop := t = .primitive .null ∨ ∃ l, t = .literal l

/-- A type that a schema can describe. -/
inductive Describable : Ty → Prop where
  | number : Describable (.primitive .number)
  | boolean : Describable (.primitive .boolean)
  | string : Describable (.primitive .string)
  | named (name : String) : Describable (.named name)
  | array {t : Ty} (h : Describable t) : Describable (.array t false)
  | dictionary : Describable (.dictionary .unknown)
  | union {ts : List Ty} (h : ∀ t ∈ ts, IsMember t) : Describable (.union ts)
  | record {fs : List Field} (hnames : (fs.map (·.name)).Nodup)
      (h : ∀ f ∈ fs, Describable f.type) : Describable (.record fs)

/-- A type that stands for a part of a document: one that a schema describes, or anything. -/
def Expressible (t : Ty) : Prop := t = .unknown ∨ Describable t

/-! ## Occurrences -/

/-- Where a type stands. -/
inductive Position where
  /-- By itself. -/
  | whole
  /-- As the element of a list. -/
  | element
  /-- As the value of a map. -/
  | value
  /-- As the member of a union. -/
  | member
  /-- As one of several types that hold at once. -/
  | part
  /-- As the field of a record. -/
  | field
  deriving DecidableEq, Repr

/-- A type occurs in another, at some depth, in a position. -/
inductive Occurs (t : Ty) : Position → Ty → Prop where
  | whole : Occurs t .whole t
  | element {pos : Position} {u : Ty} {readonly : Bool} (h : Occurs t pos (.array u readonly)) :
      Occurs t .element u
  | value {pos : Position} {u : Ty} (h : Occurs t pos (.dictionary u)) : Occurs t .value u
  | member {pos : Position} {us : List Ty} {u : Ty} (h : Occurs t pos (.union us)) (hu : u ∈ us) :
      Occurs t .member u
  | part {pos : Position} {us : List Ty} {u : Ty} (h : Occurs t pos (.intersect us))
      (hu : u ∈ us) : Occurs t .part u
  | field {pos : Position} {fs : List Field} {f : Field} (h : Occurs t pos (.record fs))
      (hf : f ∈ fs) : Occurs t .field f.type

/-- What may stand in a position. -/
def MayStand : Position → Ty → Prop
  | .whole, t => Expressible t
  | .element, t => Describable t
  | .value, t => t = .unknown
  | .member, t => IsMember t
  | .part, _ => False
  | .field, t => Describable t

/-- What may stand anywhere and has parts is made by the rule of the grammar for its form. -/
theorem describable_of_mayStand {pos : Position} {t : Ty} (h : MayStand pos t)
    (hunknown : t ≠ .unknown) (hmember : ¬ IsMember t) : Describable t := by
  cases pos with
  | whole => exact h.resolve_left hunknown
  | element => exact h
  | value => exact absurd h hunknown
  | member => exact absurd h hmember
  | part => exact absurd h id
  | field => exact h

theorem not_isMember_of_ne {t : Ty} (hnull : t ≠ .primitive .null)
    (hliteral : ∀ l, t ≠ .literal l) :
    ¬ IsMember t := by
  rintro (h | ⟨l, h⟩)
  · exact hnull h
  · exact hliteral l h

theorem mayStand_of_occurs {t u : Ty} {pos : Position} (ht : Expressible t) (h : Occurs t pos u) :
    MayStand pos u := by
  induction h with
  | whole => exact ht
  | element _ ih =>
    cases describable_of_mayStand ih nofun (not_isMember_of_ne nofun nofun) with
    | array h => exact h
  | value _ ih =>
    cases describable_of_mayStand ih nofun (not_isMember_of_ne nofun nofun) with
    | dictionary => rfl
  | member _ hu ih =>
    cases describable_of_mayStand ih nofun (not_isMember_of_ne nofun nofun) with
    | union h => exact h _ hu
  | part _ _ ih =>
    cases describable_of_mayStand ih nofun (not_isMember_of_ne nofun nofun)
  | field _ hf ih =>
    cases describable_of_mayStand ih nofun (not_isMember_of_ne nofun nofun) with
    | record _ h => exact h _ hf

/-- What is true of a type in a position, whatever type it occurs in. -/
structure Standing (pos : Position) (t : Ty) : Prop where
  /-- It is not several types at once. -/
  notIntersect : ∀ ts, t ≠ .intersect ts
  /-- It is not something that can be called. -/
  notFunction : t ≠ .function
  /-- Of the types without parts some do not occur. -/
  notPrimitive : ∀ p ∈ [Primitive.undefined, .never, .symbol], t ≠ .primitive p
  /-- The type of one value is a member of a union. -/
  inUnion : IsMember t → pos = .member
  /-- A record has each name once. -/
  distinct : ∀ fs, t = .record fs → (fs.map (·.name)).Nodup

theorem Describable.not_isMember {t : Ty} (h : Describable t) : ¬ IsMember t := by
  cases h <;> exact not_isMember_of_ne nofun nofun

theorem standing_of_describable {pos : Position} {t : Ty} (h : Describable t) : Standing pos t where
  notIntersect := by cases h <;> nofun
  notFunction := by cases h <;> nofun
  notPrimitive := by cases h <;> simp
  inUnion hm := absurd hm h.not_isMember
  distinct fs hfs := by
    rw [hfs] at h
    cases h with
    | record hnames _ => exact hnames

theorem standing_unknown (pos : Position) : Standing pos .unknown where
  notIntersect := nofun
  notFunction := nofun
  notPrimitive := by simp
  inUnion hm := absurd hm (not_isMember_of_ne nofun nofun)
  distinct := nofun

theorem standing_member {t : Ty} (h : IsMember t) : Standing .member t := by
  rcases h with rfl | ⟨l, rfl⟩
  · exact ⟨nofun, nofun, by simp, fun _ => rfl, nofun⟩
  · exact ⟨nofun, nofun, by simp, fun _ => rfl, nofun⟩

theorem standing_of_mayStand {pos : Position} {t : Ty} (h : MayStand pos t) : Standing pos t := by
  cases pos with
  | whole =>
    rcases h with rfl | h
    · exact standing_unknown _
    · exact standing_of_describable h
  | element => exact standing_of_describable h
  | value =>
    obtain rfl : t = .unknown := h
    exact standing_unknown _
  | member => exact standing_member h
  | part => exact absurd h id
  | field => exact standing_of_describable h

/-- Whatever occurs in a type of the grammar stands there as the grammar has it. -/
theorem standing_of_occurs {t u : Ty} {pos : Position} (ht : Expressible t) (h : Occurs t pos u) :
    Standing pos u :=
  standing_of_mayStand (mayStand_of_occurs ht h)

end Ty

/-! ## Schemas -/

namespace Schema

open Reference (Layout)

variable {layout : Layout} {s : Value}

theorem isMember_of_memberType {v : Value} {t : Ty} (h : memberType v = .ok t) : t.IsMember := by
  unfold memberType at h
  split at h <;> cases h
  · exact Or.inl rfl
  all_goals exact Or.inr ⟨_, rfl⟩

/-- Fields of types of the grammar, merged, make a record of the grammar. -/
theorem describable_merge {fs : List Field} (h : ∀ f ∈ fs, f.type.Describable) :
    (Ty.record (Field.merge fs)).Describable :=
  .record (Field.nodup_names_merge fs) fun f hf => h f (Field.mem_of_mem_merge hf)

theorem describable_of_mem_recordFields {t : Ty} (h : t.Describable) {f : Field}
    (hf : f ∈ recordFields t) : f.type.Describable := by
  cases h with
  | record _ h => exact h f hf
  | _ => cases hf

/-! ### One level -/

theorem describable_of_reference {t : Ty} (hs : classify s = .ok .reference)
    (h : (toType layout s).result = .ok t) : t.Describable := by
  have href : s.has "$ref" = true := by
    cases classify_eq_ok_iff.1 hs with
    | reference h => exact h
  obtain ⟨ref, href⟩ := Option.isSome_iff_exists.1 href
  rw [result_toType_reference href] at h
  obtain ⟨name, -, rfl⟩ := map_eq_ok_iff.1 h
  exact .named name

/-- The type of a text is without parts, or a union of single values. -/
theorem string_or_union {t : Ty} (hs : classify s = .ok .string)
    (h : (toType layout s).result = .ok t) :
    t = .primitive .string ∨ ∃ ts, t = .union ts ∧ ∀ m ∈ ts, m.IsMember := by
  rw [result_toType_string hs] at h
  split at h
  · cases h
    exact Or.inl rfl
  · obtain ⟨members, hmembers, rfl⟩ := map_eq_ok_iff.1 h
    obtain ⟨vs, -, hvs⟩ := bind_eq_ok_iff.1 hmembers
    refine Or.inr ⟨members, rfl, fun m hm => ?_⟩
    obtain ⟨v, -, hv⟩ := exists_left_of_forall₂ (mapM_eq_ok_iff.1 hvs) hm
    exact isMember_of_memberType hv

theorem describable_of_string {t : Ty} (hs : classify s = .ok .string)
    (h : (toType layout s).result = .ok t) : t.Describable := by
  rcases string_or_union hs h with rfl | ⟨ts, rfl, hmembers⟩
  · exact .string
  · exact .union hmembers

theorem describable_of_array {t : Ty} (hs : classify s = .ok .array)
    (ih : ∀ c ∈ children s, ∀ u, (toType layout c).result = .ok u → u.Describable)
    (h : (toType layout s).result = .ok t) : t.Describable := by
  have hchildren := children_array (classify_eq_array_iff.1 hs)
  rw [result_toType_array hs] at h
  split at h
  · cases h
  · rename_i hnull
    obtain ⟨u, hu, rfl⟩ := map_eq_ok_iff.1 h
    rw [items, if_neg hnull] at hchildren
    rw [hchildren] at ih
    exact .array (ih _ List.mem_cons_self u hu)

theorem describable_of_object {t : Ty} (ho : isObject s = true)
    (ih : ∀ c ∈ children s, ∀ u, (toType layout c).result = .ok u → u.Describable)
    (h : (toType layout s).result = .ok t) : t.Describable := by
  rw [children_object ho] at ih
  rcases fields_of_object ho h with ⟨fs, rfl, hfs⟩ | ⟨rfl, -⟩
  · refine describable_merge fun f hf => ?_
    rw [flattened_object ho, List.forall₂_map_left_iff] at hfs
    obtain ⟨e, he, hfrom⟩ := exists_left_of_forall₂ hfs hf
    exact ih e.2 (List.mem_map_of_mem he) f.type hfrom.type
  · exact .dictionary

theorem describable_of_composition {t : Ty} (hc : isComposition s = true)
    (ih : ∀ c ∈ children s, ∀ u, (toType layout c).result = .ok u → u.Describable)
    (h : (toType layout s).result = .ok t) : t.Describable := by
  rw [children_composition hc] at ih
  obtain ⟨types, htypes, rfl⟩ := branches_of_composition hc h
  refine describable_merge fun f hf => ?_
  obtain ⟨u, hu, hf⟩ := List.mem_flatMap.1 hf
  obtain ⟨b, hb, hbu⟩ := exists_left_of_forall₂ htypes hu
  exact describable_of_mem_recordFields (ih b hb u hbu) hf

/-! ### All levels -/

/-- The type of a schema is one of the grammar. The induction is on the schemas that a schema
holds. -/
theorem describable_of_toType (s : Value) : ∀ t, (toType layout s).result = .ok t →
    t.Describable := by
  induction s using induction_children with
  | step s ih =>
    intro t h
    cases hs : classify s with
    | error e =>
      rw [result_toType_of_error hs] at h
      cases h
    | ok shape =>
      cases shape with
      | reference => exact describable_of_reference hs h
      | number => rw [result_toType_number hs] at h; cases h; exact .number
      | boolean => rw [result_toType_boolean hs] at h; cases h; exact .boolean
      | string => exact describable_of_string hs h
      | array => exact describable_of_array hs ih h
      | object => exact describable_of_object (classify_eq_object_iff.1 hs) ih h
      | allOf => exact describable_of_composition (classify_eq_allOf_iff.1 hs) ih h
      | numericFormat => rw [result_toType_numericFormat hs] at h; cases h; exact .number

end Schema

end ApiModel
