import ApiModel.Proofs.Reference.Name
import ApiModel.Proofs.Schema.Type

/-!
# Good and flawed schemas

A schema is good if nothing is wrong with its own keywords; what is wrong with a bad one is its
flaw. What stands in the schemas that it holds is left to these.

* `good_or_flaw`, `not_flaw_of_good`: a schema has a flaw exactly when it is not good.
* `result_of_flaw`: a flaw is the failure of its schema.
* `madeOfChildren_of_good`: a good schema fails only by the schemas it holds.
-/

namespace ApiModel.Schema

open Reference (Layout LeadsTo)

variable {layout : Layout} {s : Value}

/-! ## Good schemas -/

/-- The keywords of a schema hold values of the kinds that they ask for, where they hold anything.
The schema itself is written out, and no mention of a map that it lies in. -/
structure Conventional (s : Value) : Prop where
  /-- The schema is written out. -/
  plain : s.isEnclosing = false
  /-- The properties are a map from texts. -/
  properties : s.getD "properties" = .null ∨
    ∃ es, s.getD "properties" = .map es ∧ ∀ e ∈ es, ∃ key, e.1 = .text key
  /-- The required names are a list of texts. -/
  required : s.getD "required" = .null ∨
    ∃ names, s.getD "required" = .list names ∧ ∀ n ∈ names, ∃ name, n = .text name
  /-- The branches are a list. -/
  allOf : s.getD "allOf" = .null ∨ ∃ parts, s.getD "allOf" = .list parts
  /-- The enumerated values are a list. -/
  enum : s.getD "enum" = .null ∨ ∃ vs, s.getD "enum" = .list vs
  /-- The format is a text. -/
  format : s.getD "format" = .null ∨ ∃ format, s.getD "format" = .text format

/-- Whether a value can be enumerated: scalars can, apart from bytes. -/
def isEnumerable : Value → Bool
  | .scalar (.bytes _) => false
  | .scalar _ => true
  | _ => false

/-- Nothing is wrong with the keywords of a schema. -/
structure Good (layout : Layout) (s : Value) : Prop where
  /-- The schema is a map. -/
  isMap : s.isMap = true
  /-- A reference is one to a named schema. -/
  reference : ∀ ref, s.get? "$ref" = some ref → ∃ segment, LeadsTo layout.schemas segment ref
  /-- The schema has a shape. -/
  shape : ∃ shape, HasShape s shape
  /-- A list says what its items are. -/
  items : hasType s "array" = true → s.getD "items" ≠ .null
  /-- What a text is enumerated by can be enumerated. -/
  members : hasType s "string" = true → ∀ vs, s.getD "enum" = .list vs →
    ∀ v ∈ vs, isEnumerable v = true

/-- The types that a schema can have. -/
def knownTypes : List String := ["integer", "number", "boolean", "string", "array", "object"]

/-- Something is wrong with the keywords of a schema, and leads to a failure. -/
inductive Flaw (layout : Layout) (s : Value) : Failure → Prop where
  /-- The schema is no map. -/
  | notMap (h : s.isMap = false) : Flaw layout s (.unsupportedShape (.text "undefined"))
  /-- The reference is none to a named schema. -/
  | reference {ref : Value} (h : s.get? "$ref" = some ref)
      (hr : ∀ segment, ¬ LeadsTo layout.schemas segment ref) :
      Flaw layout s (.malformedReference ref (some layout.schemas))
  /-- The type is not known. -/
  | unknownType (h : s.has "$ref" = false) (ht : s.getD "type" ≠ .null)
      (hk : ∀ type ∈ knownTypes, s.getD "type" ≠ .text type) :
      Flaw layout s (.unsupportedShape (s.getD "type"))
  /-- There is neither a type nor a composition nor the format of a number. -/
  | untyped (h : isUntyped s = true) (hp : present s "allOf" = false)
      (hf : ∀ format ∈ numericFormats, s.getD "format" ≠ .text format) :
      Flaw layout s (.unsupportedShape (.text "undefined"))
  /-- A list does not say what its items are. -/
  | items (h : hasType s "array" = true) (hi : s.getD "items" = .null) : Flaw layout s .missingItems
  /-- A text is enumerated by something that cannot be; the first such thing counts. -/
  | member {before after : List Value} {v : Value} (h : hasType s "string" = true)
      (he : s.getD "enum" = .list (before ++ v :: after))
      (hb : ∀ b ∈ before, isEnumerable b = true) (hv : isEnumerable v = false) :
      Flaw layout s (.unsupportedShape (.text v.kind))

/-! ## Good or flawed -/

/-- The first element of a list that does not pass, or all pass. -/
theorem all_or_first {α : Type} (p : α → Bool) (xs : List α) :
    (∀ x ∈ xs, p x = true) ∨
      ∃ before x after, xs = before ++ x :: after ∧ (∀ b ∈ before, p b = true) ∧ p x = false := by
  cases h : xs.find? (! p ·) with
  | none =>
    left
    simpa using h
  | some x =>
    obtain ⟨hx, before, after, rfl, hb⟩ := List.find?_eq_some_iff_append.1 h
    exact Or.inr ⟨before, x, after, rfl, by simpa using hb, by simpa using hx⟩

theorem shape_or_flaw (layout : Layout) (s : Value) :
    (∃ shape, HasShape s shape) ∨ ∃ e, Flaw layout s e := by
  by_cases href : s.has "$ref" = true
  · exact Or.inl ⟨_, .reference href⟩
  rw [Bool.not_eq_true] at href
  by_cases hnull : s.getD "type" = .null
  · have hu := isUntyped_iff.2 ⟨href, hnull⟩
    cases hp : present s "allOf" with
    | true => exact Or.inl ⟨_, .allOf (isComposition_iff.2 ⟨href, Or.inr hnull, hp⟩)⟩
    | false =>
      by_cases hf : ∃ format ∈ numericFormats, s.getD "format" = .text format
      · obtain ⟨format, hn, hf⟩ := hf
        exact Or.inl ⟨_, .numericFormat hu hp hf hn⟩
      · exact Or.inr ⟨_, .untyped hu hp fun format hn h => hf ⟨format, hn, h⟩⟩
  · by_cases hk : ∃ type ∈ knownTypes, s.getD "type" = .text type
    · obtain ⟨type, hmem, htype⟩ := hk
      have ht := hasType_iff.2 ⟨href, htype⟩
      left
      simp only [knownTypes, List.mem_cons, List.not_mem_nil, or_false] at hmem
      rcases hmem with rfl | rfl | rfl | rfl | rfl | rfl
      · exact ⟨_, .number (by simp) ht⟩
      · exact ⟨_, .number (by simp) ht⟩
      · exact ⟨_, .boolean ht⟩
      · exact ⟨_, .string ht⟩
      · exact ⟨_, .array ht⟩
      · cases hp : present s "allOf" with
        | true => exact ⟨_, .allOf (isComposition_iff.2 ⟨href, Or.inl htype, hp⟩)⟩
        | false => exact ⟨_, .object (isObject_iff.2 ⟨href, htype, hp⟩)⟩
    · exact Or.inr ⟨_, .unknownType href hnull fun type hm h => hk ⟨type, hm, h⟩⟩

/-- A schema that is not good has a flaw. -/
theorem good_or_flaw (layout : Layout) (s : Value) : Good layout s ∨ ∃ e, Flaw layout s e := by
  by_cases hmap : s.isMap = true
  swap
  · exact Or.inr ⟨_, .notMap (eq_false_of_ne_true hmap)⟩
  rcases shape_or_flaw layout s with hshape | hflaw
  swap
  · exact Or.inr hflaw
  by_cases href : ∀ ref, s.get? "$ref" = some ref → ∃ segment, LeadsTo layout.schemas segment ref
  swap
  · simp only [not_forall, not_exists] at href
    obtain ⟨ref, h, hr⟩ := href
    exact Or.inr ⟨_, .reference h hr⟩
  by_cases hitems : hasType s "array" = true ∧ s.getD "items" = .null
  · exact Or.inr ⟨_, .items hitems.1 hitems.2⟩
  by_cases hmembers : hasType s "string" = true → ∀ vs, s.getD "enum" = .list vs →
      ∀ v ∈ vs, isEnumerable v = true
  · exact Or.inl ⟨hmap, href, hshape, fun h hi => hitems ⟨h, hi⟩, hmembers⟩
  · simp only [Classical.not_imp, not_forall] at hmembers
    obtain ⟨htype, vs, hvs, v, hv, hne⟩ := hmembers
    rcases all_or_first isEnumerable vs with hall | ⟨before, w, after, rfl, hb, hw⟩
    · exact absurd (hall v hv) hne
    · exact Or.inr ⟨_, .member htype hvs hb hw⟩

/-! ## One schema -/

theorem memberType_of_enumerable {v : Value} (h : isEnumerable v = true) :
    ∃ t, memberType v = .ok t := by
  cases v with
  | scalar k =>
    cases k with
    | bytes bs => cases h
    | _ => exact ⟨_, rfl⟩
  | _ => cases h

theorem memberType_of_not_enumerable {v : Value} (h : isEnumerable v = false) :
    memberType v = .error (.unsupportedShape (.text v.kind)) := by
  cases v with
  | scalar k =>
    cases k with
    | bytes bs => rfl
    | _ => cases h
  | _ => rfl

theorem classify_of_unknownType (h : s.has "$ref" = false) (ht : s.getD "type" ≠ .null)
    (hk : ∀ type ∈ knownTypes, s.getD "type" ≠ .text type) :
    classify s = .error (.unsupportedShape (s.getD "type")) := by
  obtain ⟨hmap, henc⟩ := Value.isMap_of_getD "type" ht
  simp only [knownTypes, List.forall_mem_cons] at hk
  obtain ⟨hint, hnum, hbool, hstr, harr, hobj, -⟩ := hk
  -- the hypotheses exclude every type that is known, so only the last case is left
  simp only [classify, hmap, henc, h, Bool.not_true, Bool.false_eq_true, if_false]

theorem classify_of_untyped (hc : Conventional s) (h : isUntyped s = true)
    (hp : present s "allOf" = false)
    (hf : ∀ format ∈ numericFormats, s.getD "format" ≠ .text format) :
    classify s = .error shapeless := by
  obtain ⟨href, htype⟩ := isUntyped_iff.1 h
  have hnum : hasNumericFormat s = .ok false := by
    unfold hasNumericFormat
    rcases hc.format with hnull | ⟨format, hformat⟩
    · rw [hnull]
      rfl
    · rw [hformat]
      have : format ∉ numericFormats := fun hm => hf format hm hformat
      simp [this]
  cases hmap : s.isMap with
  | false => exact classify_eq_error_of_not_map hmap
  | true =>
    simp only [classify, hmap, hc.plain, href, htype, hp, hnum]
    rfl

/-- A flaw is the failure of its schema. -/
theorem result_of_flaw (hc : Conventional s) {e : Failure} (h : Flaw layout s e) :
    (toType layout s).result = .error e := by
  cases h with
  | notMap h => exact result_toType_of_not_map h
  | reference h hr =>
    rw [result_toType_reference h, Reference.nameOf_eq_error_iff.2 ⟨hr, rfl⟩]
    rfl
  | unknownType h ht hk => exact result_toType_of_error (classify_of_unknownType h ht hk)
  | untyped h hp hf => exact result_toType_of_error (classify_of_untyped hc h hp hf)
  | items h hi => rw [result_toType_array (classify_eq_array_iff.2 h), hi]; rfl
  | @member before after v h he hb hv =>
    have hfirst : (before ++ v :: after).mapM memberType =
        .error (.unsupportedShape (.text v.kind)) :=
      mapM_eq_error_iff.2 ⟨before, v, after, rfl, fun b hm => memberType_of_enumerable (hb b hm),
        memberType_of_not_enumerable hv⟩
    rw [result_toType_enumerated (classify_eq_string_iff.2 h) he, hfirst]
    rfl

/-- The type of a schema is made of the types of the schemas it holds, and fails only with them. -/
def MadeOfChildren (layout : Layout) (s : Value) : Prop :=
  ∃ make : List Ty → Ty,
    (toType layout s).result = make <$> (children s).mapM fun c => (toType layout c).result

theorem madeOfChildren_of_leaf (hchildren : children s = [])
    (h : ∃ t, (toType layout s).result = .ok t) : MadeOfChildren layout s := by
  obtain ⟨t, ht⟩ := h
  refine ⟨fun _ => t, ?_⟩
  rw [hchildren, ht]
  rfl

/-- A text whose enumerated values can be enumerated has a type. -/
theorem exists_result_string (hc : Conventional s) (hg : Good layout s)
    (h : hasType s "string" = true) : ∃ t, (toType layout s).result = .ok t := by
  have hclass := classify_eq_string_iff.2 h
  rcases hc.enum with hnull | ⟨vs, hvs⟩
  · rw [result_toType_string hclass, hnull]
    exact ⟨_, rfl⟩
  · have hmembers : ∃ ts, vs.mapM memberType = .ok ts :=
      exists_mapM_eq_ok_iff.2 fun v hv => memberType_of_enumerable (hg.members h vs hvs v hv)
    obtain ⟨ts, hts⟩ := hmembers
    rw [result_toType_enumerated hclass hvs, hts]
    exact ⟨_, rfl⟩

theorem exists_required (hc : Conventional s) : ∃ names, required s = .ok names := by
  unfold required
  rcases hc.required with hnull | ⟨names, hnames, htext⟩
  · rw [hnull]
    exact ⟨_, rfl⟩
  · have hkeys : names.all Value.isKey = true := by
      rw [List.all_eq_true]
      intro n hn
      obtain ⟨name, rfl⟩ := htext n hn
      rfl
    rw [hnames, Value.items_list]
    simp only [bind, Except.bind, hkeys, if_true]
    exact ⟨_, rfl⟩

/-- The fields of properties with texts for keys are made of the types of their schemas. -/
theorem mapM_fieldOf {es : Entries} (names : List Scalar)
    (hkeys : ∀ e ∈ es, ∃ key, e.1 = .text key) :
    ∃ make : List Ty → List Field, es.mapM (fieldOf layout names) =
      make <$> (es.map Prod.snd).mapM fun c => (toType layout c).result := by
  induction es with
  | nil => exact ⟨fun _ => [], rfl⟩
  | cons e es ih =>
    obtain ⟨⟨key, hkey⟩, hrest⟩ := List.forall_mem_cons.1 hkeys
    obtain ⟨make, hmake⟩ := ih hrest
    obtain ⟨k, v⟩ := e
    obtain rfl : k = .text key := hkey
    have hfield : ∀ t, ∃ f, field names (.text key) v t = .ok f := fun t => ⟨_, rfl⟩
    choose own hown using hfield
    refine ⟨fun ts => ts.head?.toList.map own ++ make ts.tail, ?_⟩
    rw [List.mapM_cons, List.map_cons, List.mapM_cons, hmake, fieldOf]
    cases (toType layout v).result with
    | error e => rfl
    | ok t =>
      change (field names (.text key) v t >>= _) = _
      rw [hown]
      cases (es.map Prod.snd).mapM fun c => (toType layout c).result <;> rfl

theorem madeOfChildren_of_array (h : hasType s "array" = true) (hi : s.getD "items" ≠ .null) :
    MadeOfChildren layout s := by
  have hnull : (s.getD "items").isNull = false := by
    rw [Bool.eq_false_iff, ne_eq, Value.isNull_iff]
    exact hi
  refine ⟨fun ts => .array (ts.headD default) false, ?_⟩
  rw [result_toType_array (classify_eq_array_iff.2 h), children_array h, items, hnull]
  simp only [Bool.false_eq_true, if_false, List.mapM_cons, List.mapM_nil]
  cases (toType layout (s.getD "items")).result <;> rfl

theorem madeOfChildren_of_object (hc : Conventional s) (h : isObject s = true) :
    MadeOfChildren layout s := by
  unfold MadeOfChildren
  rw [result_toType_object (classify_eq_object_iff.2 h), children_object h, properties]
  rcases hc.properties with hnull | ⟨es, hes, hkeys⟩
  · rw [hnull]
    exact ⟨fun _ => .dictionary .unknown, rfl⟩
  · rw [hes]
    cases es with
    | nil => exact ⟨fun _ => .dictionary .unknown, rfl⟩
    | cons e es =>
      obtain ⟨names, hnames⟩ := exists_required hc
      obtain ⟨make, hmake⟩ := mapM_fieldOf names hkeys
      refine ⟨fun ts => .record (Field.merge (make ts)), ?_⟩
      rw [hnames]
      change (fun fs => Ty.record (Field.merge fs)) <$> (e :: es).mapM (fieldOf layout names) = _
      rw [hmake, ← comp_map]
      rfl

theorem madeOfChildren_of_composition (hc : Conventional s) (h : isComposition s = true) :
    MadeOfChildren layout s := by
  have hpresent := (isComposition_iff.1 h).2.2
  rcases hc.allOf with hnull | ⟨parts, hparts⟩
  · rw [present, hnull] at hpresent
    cases hpresent
  · refine ⟨composed, ?_⟩
    rw [result_toType_allOf (classify_eq_allOf_iff.2 h), children_composition h, branches, hparts]
    rfl

/-- A good schema fails only by the schemas it holds, and has a type made of theirs. -/
theorem madeOfChildren_of_good (hc : Conventional s) (hg : Good layout s) :
    MadeOfChildren layout s := by
  obtain ⟨shape, hshape⟩ := hg.shape
  have hclass := classify_eq_ok_iff.2 hshape
  have hleaf : shape ≠ .array → shape ≠ .object → shape ≠ .allOf →
      (∃ t, (toType layout s).result = .ok t) → MadeOfChildren layout s :=
    fun ha ho hall => madeOfChildren_of_leaf (children_leaf hclass ha ho hall)
  cases hshape with
  | reference h =>
    obtain ⟨ref, href⟩ := Option.isSome_iff_exists.1 h
    obtain ⟨segment, hlead⟩ := hg.reference ref href
    have hname := Reference.nameOf_eq_ok_iff.2 ⟨segment, hlead, rfl⟩
    refine hleaf nofun nofun nofun ?_
    rw [result_toType_reference href, hname]
    exact ⟨_, rfl⟩
  | number _ h => exact hleaf nofun nofun nofun ⟨_, result_toType_number hclass⟩
  | boolean h => exact hleaf nofun nofun nofun ⟨_, result_toType_boolean hclass⟩
  | string h => exact hleaf nofun nofun nofun (exists_result_string hc hg h)
  | array h => exact madeOfChildren_of_array h (hg.items h)
  | object h => exact madeOfChildren_of_object hc h
  | allOf h => exact madeOfChildren_of_composition hc h
  | numericFormat h hp hf hn =>
    exact hleaf nofun nofun nofun ⟨_, result_toType_numericFormat hclass⟩

theorem not_flaw_of_good (hc : Conventional s) (hg : Good layout s) {e : Failure} :
    ¬ Flaw layout s e := by
  obtain ⟨shape, hshape⟩ := hg.shape
  have hclass := classify_eq_ok_iff.2 hshape
  intro hf
  cases hf with
  | notMap h => rw [hg.isMap] at h; cases h
  | reference h hr =>
    obtain ⟨segment, hlead⟩ := hg.reference _ h
    exact hr segment hlead
  | unknownType h ht hk => cases hclass.symm.trans (classify_of_unknownType h ht hk)
  | untyped h hp hf => cases hclass.symm.trans (classify_of_untyped hc h hp hf)
  | items h hi => exact hg.items h hi
  | member h he hb hv =>
    have := hg.members h _ he _ (List.mem_append_right _ List.mem_cons_self)
    rw [hv] at this
    cases this

end ApiModel.Schema
