import ApiModel.Schema.Type
import ApiModel.Value.Entries
import ApiModel.Proofs.Value.Access
import ApiModel.Proofs.Schema.Parts

/-!
# What the type of a schema is made of

`Schema.toType` goes through a schema with everything it notes on the way. Here are its results
alone, one equation for each shape that holds other schemas: the type of a list from that of its
items, a record from the types of its properties, a composition from the types of its branches.

* `result_toType_array`, `result_toType_object`, `result_toType_allOf`: the equations.
* `fieldOf_eq_ok_iff`: what the field of a property consists of.
* `exists_result_of_mem_subschemas`: a schema that describes a type holds only such schemas.
-/

namespace ApiModel.Schema

open Reference (Layout)

variable {layout : Layout} {s : Value}

/-! ## Parts -/

/-- The field of a property. -/
def fieldOf (layout : Layout) (names : List Scalar) (e : Scalar × Value) : Except Failure Field :=
  (toType layout e.2).result >>= field names e.1 e.2

/-- The fields of a type that is a record. -/
def recordFields : Ty → List Field
  | .record fs => fs
  | _ => []

/-- The record of the fields of several types, those that are no records left out. -/
def composed (types : List Ty) : Ty := .record (Field.merge (types.flatMap recordFields))

theorem recordFields_eq_nil {t : Ty} (h : t.isRecord = false) : recordFields t = [] := by
  cases t with
  | record fs => cases h
  | _ => rfl

theorem result_propertyFields (layout : Layout) (names : List Scalar) (es : Entries) :
    (propertyFields layout names es).result = es.mapM (fieldOf layout names) := by
  induction es with
  | nil => rw [propertyFields]; rfl
  | cons e es ih =>
    obtain ⟨k, v⟩ := e
    rw [propertyFields, List.mapM_cons, fieldOf]
    simp only [Traced.result_bind, Traced.result_lift, ih, bind_assoc]
    rfl

theorem result_partFields (layout : Layout) (index : Nat) (parts : List Value) :
    (partFields layout index parts).result =
      (·.flatMap recordFields) <$> parts.mapM fun p => (toType layout p).result := by
  induction parts generalizing index with
  | nil => rw [partFields]; rfl
  | cons p ps ih =>
    rw [partFields, List.mapM_cons]
    rw [Traced.result_bind]
    have hrest : ∀ own : List Field,
        (do let others ← partFields layout (index + 1) ps
            return own ++ others : Traced (List Field)).result =
          (fun types => own ++ types.flatMap recordFields) <$>
            ps.mapM fun p => (toType layout p).result := by
      intro own
      rw [Traced.result_bind, ih]
      cases ps.mapM fun p => (toType layout p).result <;> rfl
    cases (toType layout p).result with
    | error e => rfl
    | ok t =>
      cases t with
      | record fs =>
        refine (hrest fs).trans ?_
        cases ps.mapM fun p => (toType layout p).result <;> rfl
      | _ =>
        refine (hrest []).trans ?_
        cases ps.mapM fun p => (toType layout p).result <;> rfl

/-! ## Fields -/

/-- Whether a schema requires a property. -/
def requires (s : Value) (key : Scalar) : Bool :=
  match (s.getD "required").items with
  | .ok names => (names.filterMap scalar?).any (·.same key)
  | .error _ => false

/-- A list of texts requires the properties that it names. -/
theorem requires_text_iff {names : List Value} {name : String}
    (h : s.getD "required" = .list names) :
    requires s (.text name) = true ↔ .text name ∈ names := by
  have hscalar : ∀ v : Value, (∃ k, scalar? v = some k ∧ k.same (.text name) = true) ↔
      v = .text name := by
    intro v
    cases v with
    | scalar k => simp [scalar?, Entries.same_text]
    | _ => simp [scalar?]
  unfold requires
  rw [h, Value.items_list, List.any_eq_true]
  simp only [List.mem_filterMap]
  constructor
  · rintro ⟨k, ⟨v, hv, hk⟩, hs⟩
    rw [← (hscalar v).1 ⟨k, hk, hs⟩]
    exact hv
  · intro hm
    obtain ⟨k, hk, hs⟩ := (hscalar _).2 rfl
    exact ⟨k, ⟨_, hm, hk⟩, hs⟩

theorem any_of_required {names : List Scalar} (h : required s = .ok names) (key : Scalar) :
    (names.any (·.same key)) = requires s key := by
  unfold required at h
  obtain ⟨vs, hvs, h⟩ := bind_eq_ok_iff.1 h
  split at h
  · cases h
    rw [requires, hvs]
  · cases h

theorem fieldOf_eq_ok_iff {names : List Scalar} {e : Scalar × Value} {f : Field} :
    fieldOf layout names e = .ok f ↔
      fieldName e.1 = .ok f.name ∧ (toType layout e.2).result = .ok f.type ∧
        f.nullable = !names.any (·.same e.1) ∧ f.readonly = (e.2.getD "readOnly").isTruthy := by
  unfold fieldOf field
  simp only [bind_eq_ok_iff]
  constructor
  · rintro ⟨t, ht, name, hname, hf⟩
    cases hf
    exact ⟨hname, ht, rfl, rfl⟩
  · rintro ⟨hname, ht, hnull, hread⟩
    refine ⟨f.type, ht, f.name, hname, ?_⟩
    rw [← hnull, ← hread]
    rfl

/-! ## References and scalars -/

theorem result_toType_reference {ref : Value} (h : s.get? "$ref" = some ref) :
    (toType layout s).result = .named <$> Reference.nameOf layout.schemas ref := by
  rw [toType_reference h]
  cases Reference.nameOf layout.schemas ref <;> rfl

theorem result_toType_number (h : classify s = .ok .number) :
    (toType layout s).result = .ok (.primitive .number) := by
  rw [toType, h]
  rfl

theorem result_toType_boolean (h : classify s = .ok .boolean) :
    (toType layout s).result = .ok (.primitive .boolean) := by
  rw [toType, h]
  rfl

theorem result_toType_string (h : classify s = .ok .string) :
    (toType layout s).result =
      if (s.getD "enum").isNull then .ok (.primitive .string)
      else Ty.union <$> (elements (s.getD "enum") >>= fun vs => vs.mapM memberType) := by
  rw [toType, h, Traced.lift_ok_bind]
  dsimp only
  rw [Traced.result_lift, stringType]
  simp only [map_bind, bind_pure_comp]
  rfl

theorem result_toType_enumerated {vs : List Value} (h : classify s = .ok .string)
    (he : s.getD "enum" = .list vs) :
    (toType layout s).result = Ty.union <$> vs.mapM memberType := by
  rw [result_toType_string h, he]
  rfl

theorem result_toType_numericFormat (h : classify s = .ok .numericFormat) :
    (toType layout s).result = .ok (.primitive .number) := by
  rw [toType, h]
  rfl

/-! ## Lists -/

theorem result_toType_array (h : classify s = .ok .array) :
    (toType layout s).result =
      if (s.getD "items").isNull then .error .missingItems
      else (fun t => .array t false) <$> (toType layout (s.getD "items")).result := by
  rw [toType, h, Traced.lift_ok_bind]
  dsimp only
  split
  · rename_i hi
    rw [Value.getD_of_get?_eq_none hi]
    rfl
  · rename_i items hi
    rw [Value.getD_of_get? hi]
    split
    · rfl
    · rw [Traced.result_bind]
      cases (toType layout items).result <;> rfl

/-! ## Objects -/

/-- The type of an object, the fields of its properties being read by the required names. -/
theorem result_toType_object (h : classify s = .ok .object) :
    (toType layout s).result =
      if (s.getD "properties").isTruthy then do
        let names ← required s
        match s.getD "properties" with
        | .map es => (fun fs => .record (Field.merge fs)) <$> es.mapM (fieldOf layout names)
        | _ => .error (.fault .noMember)
      else .ok (.dictionary .unknown) := by
  rw [toType, h, Traced.lift_ok_bind]
  dsimp only
  split
  · rename_i es hi
    rw [Value.getD_of_get? hi]
    cases es with
    | nil => rfl
    | cons e es =>
      simp only [Value.isTruthy, List.isEmpty_cons, Bool.false_eq_true, if_false, Bool.not_false,
        if_true, Traced.result_bind, Traced.result_lift, result_propertyFields]
      rfl
  · rename_i other hne hi
    rw [Value.getD_of_get? hi]
    split
    · rw [Traced.result_bind, Traced.result_lift]
      congr 1
      funext names
      split
      · exact absurd rfl (hne _)
      · rfl
    · rfl
  · rename_i hi
    rw [Value.getD_of_get?_eq_none hi]
    rfl

/-! ## Compositions -/

/-- What is met in going through a value that is no list and no pair is no schema. -/
theorem not_map_of_mem_elements {v w : Value} {vs : List Value} (hlist : ∀ parts, v ≠ .list parts)
    (hpair : ∀ a b, v ≠ .pair a b) (h : v.elements? = some vs) (hw : w ∈ vs) :
    w.isMap = false := by
  rcases Value.mem_elements_cases h hw with rfl | ⟨a, b, rfl, -⟩ | ⟨k, rfl⟩
  · exact absurd rfl (hlist vs)
  · exact absurd rfl (hpair a b)
  · rfl

theorem result_toType_of_error {e : Failure} (h : classify s = .error e) :
    (toType layout s).result = .error e := by
  rw [toType, h]
  rfl

theorem result_toType_of_not_map (h : s.isMap = false) :
    (toType layout s).result = .error shapeless :=
  result_toType_of_error (classify_eq_error_of_not_map h)

/-- The type of a composition, whatever it is that stands for the list of its branches. -/
theorem result_toType_allOf (h : classify s = .ok .allOf) :
    (toType layout s).result =
      elements (s.getD "allOf") >>= fun parts =>
        composed <$> parts.mapM fun p => (toType layout p).result := by
  have hp := (isComposition_iff.1 (classify_eq_allOf_iff.1 h)).2.2
  rw [toType, h, Traced.lift_ok_bind]
  dsimp only
  split
  · rename_i parts hi
    rw [Value.getD_of_get? hi, Traced.result_bind, result_partFields]
    change _ = composed <$> parts.mapM fun p => (toType layout p).result
    cases parts.mapM fun p => (toType layout p).result <;> rfl
  · rename_i a b hi
    rw [Value.getD_of_get? hi]
    change _ = composed <$> [a, b].mapM fun p => (toType layout p).result
    simp only [Traced.result_bind, result_partFields, List.mapM_cons, List.mapM_nil]
    cases (toType layout a).result with
    | error e => rfl
    | ok t =>
      cases (toType layout b).result with
      | error e => rfl
      | ok u => simp [composed, bind, Except.bind, Functor.map, Except.map, pure, Except.pure]
  · rename_i other hlist hpair hi
    rw [Value.getD_of_get? hi, Traced.result_bind, Traced.result_lift]
    cases he : elements other with
    | error e => rfl
    | ok vs =>
      cases vs with
      | nil => rfl
      | cons w ws =>
        have hw : w.isMap = false := by
          unfold elements at he
          split at he
          · cases he
            exact not_map_of_mem_elements hlist hpair ‹_› List.mem_cons_self
          · cases he
        change _ = composed <$> (w :: ws).mapM fun p => (toType layout p).result
        rw [List.mapM_cons, result_toType_of_not_map hw]
        rfl
  · rename_i hi
    simp [present, Value.getD, hi, Value.isNull] at hp

/-! ## Schemas that describe types -/

/-- What is met in going through the branches of a composition is one of them, or no map. -/
theorem mem_branches_of_elements {vs : List Value} (h : elements (s.getD "allOf") = .ok vs)
    {w : Value} (hw : w ∈ vs) : w ∈ branches s ∨ w.isMap = false := by
  unfold elements at h
  split at h
  · rename_i ws hws
    cases h
    unfold branches
    split
    · rename_i parts hparts
      rw [hparts] at hws
      cases hws
      exact Or.inl hw
    · rename_i a b hpair
      rw [hpair] at hws
      cases hws
      exact Or.inl hw
    · rename_i hlist hpair
      exact Or.inr (not_map_of_mem_elements hlist hpair hws hw)
  · cases h

theorem mem_elements_of_mem_branches (h : v ∈ branches s) :
    ∃ vs, elements (s.getD "allOf") = .ok vs ∧ v ∈ vs := by
  unfold branches at h
  split at h
  · rename_i parts hparts
    exact ⟨parts, by rw [hparts]; rfl, h⟩
  · rename_i a b hpair
    exact ⟨[a, b], by rw [hpair]; rfl, h⟩
  · cases h

/-- A schema that describes a type holds only schemas that do. -/
theorem exists_result_of_mem_children {t : Ty} (h : (toType layout s).result = .ok t) {c : Value}
    (hc : c ∈ children s) : ∃ u, (toType layout c).result = .ok u := by
  unfold children at hc
  split at hc
  · rename_i harray
    unfold items at hc
    split at hc
    · cases hc
    · rename_i hnull
      rw [result_toType_array (classify_eq_array_iff.2 harray), if_neg hnull, map_eq_ok_iff] at h
      obtain ⟨u, hu, -⟩ := h
      rw [List.mem_singleton.1 hc]
      exact ⟨u, hu⟩
  split at hc
  · rename_i hobject
    obtain ⟨e, he, rfl⟩ := List.mem_map.1 hc
    unfold properties at he
    split at he
    · rename_i es hes
      have htruthy : (s.getD "properties").isTruthy = true := by
        rw [hes]
        cases es with
        | nil => cases he
        | cons e es => rfl
      rw [result_toType_object (classify_eq_object_iff.2 hobject), if_pos htruthy, hes] at h
      obtain ⟨names, -, h⟩ := bind_eq_ok_iff.1 h
      obtain ⟨fs, hfs, -⟩ := map_eq_ok_iff.1 h
      obtain ⟨f, -, hf⟩ := exists_right_of_forall₂ (mapM_eq_ok_iff.1 hfs) he
      exact ⟨f.type, (fieldOf_eq_ok_iff.1 hf).2.1⟩
    · cases he
  split at hc
  · rename_i hcomposition
    obtain ⟨vs, hvs, hmem⟩ := mem_elements_of_mem_branches hc
    rw [result_toType_allOf (classify_eq_allOf_iff.2 hcomposition), hvs] at h
    obtain ⟨types, htypes, -⟩ := map_eq_ok_iff.1 h
    obtain ⟨u, -, hu⟩ := exists_right_of_forall₂ (mapM_eq_ok_iff.1 htypes) hmem
    exact ⟨u, hu⟩
  · cases hc

theorem exists_result_of_mem_subschemas {s : Value} {t : Ty}
    (h : (toType layout s).result = .ok t) {u : Value} (hu : u ∈ subschemas s) :
    ∃ t', (toType layout u).result = .ok t' := by
  induction s using induction_children generalizing t with
  | step s ih =>
    rw [subschemas_eq] at hu
    rcases List.mem_cons.1 hu with rfl | hu
    · exact ⟨t, h⟩
    · obtain ⟨c, hc, hu⟩ := List.mem_flatMap.1 hu
      obtain ⟨t', ht'⟩ := exists_result_of_mem_children h hc
      exact ih c hc ht' hu

end ApiModel.Schema
