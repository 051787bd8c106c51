import ApiModel.Proofs.Schema.Type

/-!
# Changing schemas from inside

A change to the entries of a map can be made in a whole schema: in every map that is met as a schema
in going through it, and nowhere else. What stands under the properties of an object are names and
schemas, so the map of properties itself is left as it is. If a change keeps to references and to
keys that schemas do not look at, what a schema describes depends on its references alone.

* `classify_rewrite`: the shape is kept.
* `getD_properties_rewrite`, `getD_allOf_rewrite`: the schemas inside are changed.
* `result_toType_rewrite`: the type is kept if the references inside keep their names.
-/

namespace ApiModel.Schema

open Reference (Layout)

variable {layout : Layout} {s v : Value}

/-! ## What is met -/

/-- What a value inside a schema is read as. -/
inductive Reading where
  /-- A schema. -/
  | schema
  /-- The properties of an object. -/
  | properties
  /-- The branches of a composition. -/
  | branches
  /-- Anything that holds no schemas. -/
  | data
  deriving DecidableEq

/-- What stands under a key of a schema is read as. -/
def readingUnder (s : Value) (key : Scalar) : Reading :=
  if hasType s "array" && key == .text "items" then .schema
  else if isObject s && key == .text "properties" then .properties
  else if isComposition s && key == .text "allOf" then .branches
  else .data

mutual

/-- A value in which a change is made to the entries of every schema that is a map. -/
def rewrite (change : Entries → Entries) (reading : Reading) : Value → Value
  | .map es =>
    match reading with
    | .schema => .map (change (rewriteEntries change (readingUnder (.map es)) es))
    | .properties => .map (rewriteEntries change (fun _ => .schema) es)
    | .branches | .data => .map es
  | .list vs =>
    match reading with
    | .branches => .list (rewriteItems change vs)
    | .schema | .properties | .data => .list vs
  | .pair a b =>
    match reading with
    | .branches => .pair (rewrite change .schema a) (rewrite change .schema b)
    | .schema | .properties | .data => .pair a b
  | .scalar k => .scalar k
  | .set ks => .set ks
  | .enclosing isMap level => .enclosing isMap level

/-- The same for what stands under keys, which say what it is read as. -/
def rewriteEntries (change : Entries → Entries) (under : Scalar → Reading) : Entries → Entries
  | [] => []
  | (k, v) :: es => (k, rewrite change (under k) v) :: rewriteEntries change under es

/-- The same for schemas in order. -/
def rewriteItems (change : Entries → Entries) : List Value → List Value
  | [] => []
  | v :: vs => rewrite change .schema v :: rewriteItems change vs

end

variable {change : Entries → Entries} {reading : Reading}

theorem rewriteEntries_eq_map {under : Scalar → Reading} (es : Entries) :
    rewriteEntries change under es = es.map fun e => (e.1, rewrite change (under e.1) e.2) := by
  induction es with
  | nil => rw [rewriteEntries, List.map_nil]
  | cons e es ih => rw [rewriteEntries, ih, List.map_cons]

theorem rewriteItems_eq_map (vs : List Value) :
    rewriteItems change vs = vs.map (rewrite change .schema) := by
  induction vs with
  | nil => rw [rewriteItems, List.map_nil]
  | cons v vs ih => rw [rewriteItems, ih, List.map_cons]

theorem lookup_rewriteEntries {under : Scalar → Reading} (es : Entries) (key : Scalar) :
    (rewriteEntries change under es).lookup key =
      (es.lookup key).map (rewrite change (under key)) := by
  rw [rewriteEntries_eq_map, Entries.lookup_map_snd fun k => rewrite change (under k)]

theorem rewrite_data (v : Value) : rewrite change .data v = v := by
  cases v <;> rw [rewrite]

theorem rewrite_schema_of_not_map (h : ∀ es, v ≠ .map es) : rewrite change .schema v = v := by
  cases v with
  | map es => exact absurd rfl (h es)
  | _ => rw [rewrite]

theorem isMap_rewrite : (rewrite change reading v).isMap = v.isMap := by
  cases v <;> cases reading <;> rw [rewrite] <;> rfl

theorem isEnclosing_rewrite : (rewrite change reading v).isEnclosing = v.isEnclosing := by
  cases v <;> cases reading <;> rw [rewrite] <;> rfl

theorem isNull_rewrite : (rewrite change reading v).isNull = v.isNull := by
  cases v <;> cases reading <;> rw [rewrite] <;> rfl

/-! ## Changes that keep the keywords -/

/-- The keywords of schemas, apart from references. -/
def keywords : List String :=
  ["type", "format", "allOf", "items", "properties", "required", "enum", "readOnly"]

/-- A change keeps what stands under the keywords, and does one thing to references. -/
structure Keeps (change : Entries → Entries) (toRef : Value → Value) : Prop where
  /-- What it does to a reference. -/
  reference : ∀ es, (change es).lookup (.text "$ref") = (es.lookup (.text "$ref")).map toRef
  /-- What stands under another keyword is kept. -/
  keyword : ∀ key ∈ keywords, ∀ es, (change es).lookup (.text key) = es.lookup (.text key)

variable {toRef : Value → Value}

theorem get?_rewrite {key : String}
    (hkey : ∀ es, (change es).lookup (.text key) = es.lookup (.text key)) :
    (rewrite change .schema s).get? key =
      (s.get? key).map (rewrite change (readingUnder s (.text key))) := by
  cases s with
  | map es => rw [rewrite, Value.get?_map, hkey, lookup_rewriteEntries, Value.get?_map]
  | _ => rw [rewrite]; rfl

theorem getD_rewrite {key : String}
    (hkey : ∀ es, (change es).lookup (.text key) = es.lookup (.text key)) :
    (rewrite change .schema s).getD key =
      rewrite change (readingUnder s (.text key)) (s.getD key) := by
  unfold Value.getD
  rw [get?_rewrite hkey]
  cases s.get? key with
  | none =>
    show Value.null = rewrite change _ Value.null
    rw [rewrite]
  | some v => rfl

/-- A schema with a reference holds no other schemas. -/
theorem readingUnder_of_reference (h : s.has "$ref" = true) (key : Scalar) :
    readingUnder s key = .data := by
  simp [readingUnder, hasType, isObject, isComposition, isUntyped, h]

theorem reference_rewrite (h : Keeps change toRef) :
    (rewrite change .schema s).get? "$ref" = (s.get? "$ref").map toRef := by
  cases s with
  | map es =>
    rw [rewrite, Value.get?_map, h.reference, lookup_rewriteEntries, Value.get?_map]
    cases hr : es.lookup (.text "$ref") with
    | none => rfl
    | some ref =>
      have hhas : (Value.map es).has "$ref" = true := by
        rw [Value.has, Value.get?_map, hr]
        rfl
      rw [readingUnder_of_reference hhas, Option.map_some, rewrite_data]
  | _ => rw [rewrite]; rfl

theorem has_rewrite (h : Keeps change toRef) :
    (rewrite change .schema s).has "$ref" = s.has "$ref" := by
  rw [Value.has, reference_rewrite h, Option.isSome_map, Value.has]

/-- What stands under a key that holds no schemas is kept, if the change keeps it. -/
theorem getD_rewrite_data {key : String}
    (hkey : ∀ es, (change es).lookup (.text key) = es.lookup (.text key))
    (hplain : key ∉ ["items", "properties", "allOf"]) :
    (rewrite change .schema s).getD key = s.getD key := by
  have hdata : readingUnder s (.text key) = .data := by
    simp only [List.mem_cons, List.not_mem_nil, or_false, not_or] at hplain
    obtain ⟨hitems, hproperties, hallOf⟩ := hplain
    simp [readingUnder, hitems, hproperties, hallOf]
  rw [getD_rewrite hkey, hdata, rewrite_data]

/-- A change that keeps the keywords keeps the shape. -/
theorem classify_rewrite (h : Keeps change toRef) :
    classify (rewrite change .schema s) = classify s := by
  have hallOf : present (rewrite change .schema s) "allOf" = present s "allOf" := by
    rw [present, getD_rewrite (h.keyword _ (by decide)), isNull_rewrite, present]
  unfold classify hasNumericFormat
  simp only [isMap_rewrite, isEnclosing_rewrite, has_rewrite h, hallOf,
    getD_rewrite_data (h.keyword "type" (by decide)) (by decide),
    getD_rewrite_data (h.keyword "format" (by decide)) (by decide)]

/-! ## What a changed schema holds -/

theorem getD_items_rewrite (h : Keeps change toRef) (hs : classify s = .ok .array) :
    (rewrite change .schema s).getD "items" = rewrite change .schema (s.getD "items") := by
  rw [getD_rewrite (h.keyword _ (by decide)), readingUnder, classify_eq_array_iff.1 hs]
  rfl

theorem getD_properties_rewrite (h : Keeps change toRef) (hs : classify s = .ok .object) :
    (rewrite change .schema s).getD "properties" =
      rewrite change .properties (s.getD "properties") := by
  have hobject := classify_eq_object_iff.1 hs
  rw [getD_rewrite (h.keyword _ (by decide)), readingUnder,
    hasType_array_eq_false_of_isObject hobject, hobject]
  rfl

theorem getD_allOf_rewrite (h : Keeps change toRef) (hs : classify s = .ok .allOf) :
    (rewrite change .schema s).getD "allOf" = rewrite change .branches (s.getD "allOf") := by
  have hcomposition := classify_eq_allOf_iff.1 hs
  rw [getD_rewrite (h.keyword _ (by decide)), readingUnder,
    hasType_array_eq_false_of_isComposition hcomposition,
    isObject_eq_false_of_isComposition hcomposition, hcomposition]
  rfl

/-- The field of a property is kept if its type is. -/
theorem fieldOf_rewrite {layout' : Layout} (h : Keeps change toRef) {names : List Scalar}
    {e : Scalar × Value}
    (htype : (toType layout' (rewrite change .schema e.2)).result = (toType layout e.2).result) :
    fieldOf layout' names (e.1, rewrite change .schema e.2) = fieldOf layout names e := by
  unfold fieldOf
  rw [htype]
  unfold field
  rw [getD_rewrite_data (h.keyword _ (by decide)) (by decide)]

theorem map_rewrite_of_not_map {ws : List Value} (h : ∀ w ∈ ws, w.isMap = false) :
    ws.map (rewrite change .schema) = ws := by
  conv_rhs => rw [← List.map_id ws]
  refine List.map_congr_left fun w hw => rewrite_schema_of_not_map ?_
  rintro es rfl
  cases h _ hw

theorem elements_rewrite :
    elements (rewrite change .branches v) =
      (fun vs => vs.map (rewrite change .schema)) <$> elements v := by
  have hother : (∀ parts, v ≠ .list parts) → (∀ a b, v ≠ .pair a b) →
      rewrite change .branches v = v →
      elements (rewrite change .branches v) =
        (fun vs => vs.map (rewrite change .schema)) <$> elements v := by
    intro hlist hpair hsame
    rw [hsame, elements]
    split
    · rename_i ws hws
      show Except.ok ws = .ok (ws.map (rewrite change .schema))
      rw [map_rewrite_of_not_map fun w hw => not_map_of_mem_elements hlist hpair hws hw]
    · rfl
  cases v with
  | list vs => rw [rewrite, rewriteItems_eq_map]; rfl
  | pair a b => rw [rewrite]; rfl
  | _ => exact hother nofun nofun (by rw [rewrite])

/-! ## The types of changed schemas -/

section Types

variable {layout' : Layout} (h : Keeps change toRef)
  (hchildren : ∀ c ∈ children s,
    (toType layout' (rewrite change .schema c)).result = (toType layout c).result)

include h hchildren

theorem result_toType_rewrite_array (hs : classify s = .ok .array) :
    (toType layout' (rewrite change .schema s)).result = (toType layout s).result := by
  rw [result_toType_array hs, result_toType_array ((classify_rewrite h).trans hs),
    getD_items_rewrite h hs, isNull_rewrite]
  split
  · rfl
  · rename_i hnull
    have hmem : s.getD "items" ∈ children s := by
      rw [children_array (classify_eq_array_iff.1 hs), items, if_neg hnull]
      exact List.mem_cons_self
    rw [hchildren _ hmem]

theorem result_toType_rewrite_object (hs : classify s = .ok .object) :
    (toType layout' (rewrite change .schema s)).result = (toType layout s).result := by
  have hrequired : required (rewrite change .schema s) = required s := by
    unfold required
    rw [getD_rewrite_data (h.keyword _ (by decide)) (by decide)]
  rw [result_toType_object hs, result_toType_object ((classify_rewrite h).trans hs),
    getD_properties_rewrite h hs, hrequired]
  cases hp : s.getD "properties" with
  | map es =>
    have hmem : ∀ e ∈ es, e.2 ∈ children s := by
      intro e he
      rw [children_object (classify_eq_object_iff.1 hs), properties, hp]
      exact List.mem_map_of_mem he
    have hfields : ∀ names, (es.map fun e => (e.1, rewrite change .schema e.2)).mapM
        (fieldOf layout' names) = es.mapM (fieldOf layout names) := by
      intro names
      rw [List.mapM_map]
      exact mapM_congr fun e he => fieldOf_rewrite h (hchildren _ (hmem e he))
    rw [rewrite, rewriteEntries_eq_map]
    simp only [Value.isTruthy, List.isEmpty_map, hfields]
    rfl
  | _ => rw [rewrite]

theorem result_toType_rewrite_allOf (hs : classify s = .ok .allOf) :
    (toType layout' (rewrite change .schema s)).result = (toType layout s).result := by
  rw [result_toType_allOf hs, result_toType_allOf ((classify_rewrite h).trans hs),
    getD_allOf_rewrite h hs, elements_rewrite]
  cases hvs : elements (s.getD "allOf") with
  | error e => rfl
  | ok vs =>
    have hparts : ((vs.map (rewrite change .schema)).mapM fun p => (toType layout' p).result) =
        vs.mapM fun p => (toType layout p).result := by
      rw [List.mapM_map]
      refine mapM_congr fun w hw => ?_
      show (toType layout' (rewrite change .schema w)).result = _
      rcases mem_branches_of_elements hvs hw with hw | hmap
      · rw [hchildren w (by rwa [children_composition (classify_eq_allOf_iff.1 hs)])]
      · rw [result_toType_of_not_map hmap, result_toType_of_not_map (isMap_rewrite.trans hmap)]
    exact congrArg (fun types => composed <$> types) hparts

end Types

/-- A schema that is changed describes the same type if its references keep their names. -/
theorem result_toType_rewrite {layout' : Layout} (h : Keeps change toRef) (s : Value)
    (href : ∀ u ∈ subschemas s, ∀ ref, u.get? "$ref" = some ref →
      Reference.nameOf layout'.schemas (toRef ref) = Reference.nameOf layout.schemas ref) :
    (toType layout' (rewrite change .schema s)).result = (toType layout s).result := by
  induction s using induction_children with
  | step s ih =>
    have hchildren : ∀ c ∈ children s,
        (toType layout' (rewrite change .schema c)).result = (toType layout c).result := by
      intro c hc
      refine ih c hc fun u hu => href u ?_
      rw [subschemas_eq]
      exact List.mem_cons_of_mem _ (List.mem_flatMap.2 ⟨c, hc, hu⟩)
    have hclass := classify_rewrite (s := s) h
    cases hs : classify s with
    | error e => rw [result_toType_of_error hs, result_toType_of_error (hclass.trans hs)]
    | ok shape =>
      rw [hs] at hclass
      cases shape with
      | reference =>
        cases classify_eq_ok_iff.1 hs with
        | reference hhas =>
          obtain ⟨ref, hr⟩ := Option.isSome_iff_exists.1 hhas
          have hr' := reference_rewrite (s := s) h
          rw [hr] at hr'
          have hname := href s (by rw [subschemas_eq]; exact List.mem_cons_self) ref hr
          rw [result_toType_reference hr, result_toType_reference hr', hname]
      | number => rw [result_toType_number hs, result_toType_number hclass]
      | boolean => rw [result_toType_boolean hs, result_toType_boolean hclass]
      | string =>
        rw [result_toType_string hs, result_toType_string hclass,
          getD_rewrite_data (h.keyword _ (by decide)) (by decide)]
      | array => exact result_toType_rewrite_array h hchildren hs
      | object => exact result_toType_rewrite_object h hchildren hs
      | allOf => exact result_toType_rewrite_allOf h hchildren hs
      | numericFormat =>
        rw [result_toType_numericFormat hs, result_toType_numericFormat hclass]

end ApiModel.Schema
