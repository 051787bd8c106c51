import ApiModel.Proofs.Schema.Rewrite
import Mathlib.Logic.Relation

/-!
# What schemas do not look at

The type of a schema depends on nine keys. What stands under other keys, in the schema or in one
that is met in going through it, is a remark: the schema describes the same type, or fails in the
same way, if remarks are taken out, put in, changed or moved. The map of properties holds names and
no keys of a schema, so none of its entries is a remark.

Results:

* `children_rewrite`, `subschemas_stripped`: what is met in a schema without its remarks.
* `rewrite_eq_of_edited`: schemas that differ in remarks are the same without them.
* `type_by_keywords`: the type of a schema without its remarks, or with others.
-/

namespace ApiModel

theorem Entries.lookup_filter_key {α : Type} {p : Scalar → Bool} {key : Scalar} (h : p key = true)
    (es : List (Scalar × α)) : (es.filter fun e => p e.1).lookup key = es.lookup key := by
  induction es with
  | nil => rfl
  | cons e es ih =>
    by_cases hk : key = e.1
    · rw [List.filter_cons_of_pos (by rw [← hk]; exact h), List.lookup_cons, List.lookup_cons, ih]
    · have hne : (key == e.1) = false := beq_false_of_ne hk
      rw [List.lookup_cons, hne, ← ih, List.filter_cons]
      split
      · rw [List.lookup_cons, hne]
      · rfl

/-- Another value under another key changes nothing of what stands under a key. -/
theorem Entries.lookup_other {α : Type} {key k : Scalar} (h : key ≠ k)
    (before after : List (Scalar × α)) (v w : α) :
    (before ++ (k, v) :: after).lookup key = (before ++ (k, w) :: after).lookup key := by
  have hne : (key == k) = false := beq_false_of_ne h
  rw [List.lookup_append, List.lookup_append, List.lookup_cons, List.lookup_cons, hne]

namespace Schema

open Reference (Layout)

variable {layout : Layout} {s v w : Value} {change : Entries → Entries} {toRef : Value → Value}
  {reading : Reading}

/-! ## Taking remarks out -/

/-- Whether the type of a schema depends on what stands under a key. -/
def isKeyword (key : Scalar) : Bool := ("$ref" :: keywords).any fun k => key == .text k

/-- The entries under keys that the type of a schema depends on, in order. -/
def keywordEntries (es : Entries) : Entries := es.filter fun e => isKeyword e.1

/-- A schema without remarks: those of the schemas that are met in it are taken out too. -/
def stripped (s : Value) : Value := rewrite keywordEntries .schema s

theorem lookup_keywordEntries {key : String} (h : isKeyword (.text key) = true) (es : Entries) :
    (keywordEntries es).lookup (.text key) = es.lookup (.text key) :=
  Entries.lookup_filter_key h es

theorem isKeyword_of_mem {key : String} (h : key ∈ "$ref" :: keywords) :
    isKeyword (.text key) = true :=
  List.any_eq_true.2 ⟨key, h, beq_self_eq_true _⟩

theorem keeps_keywordEntries : Keeps keywordEntries id where
  reference es := by
    rw [lookup_keywordEntries (isKeyword_of_mem List.mem_cons_self), Option.map_id, id]
  keyword key hkey es := lookup_keywordEntries (isKeyword_of_mem (List.mem_cons_of_mem _ hkey)) es

/-- A schema without its remarks describes the same type, or fails in the same way. -/
theorem result_toType_stripped (layout : Layout) (s : Value) :
    (toType layout (stripped s)).result = (toType layout s).result :=
  result_toType_rewrite keeps_keywordEntries s fun _ _ _ _ => rfl

/-! ## What is met without remarks -/

section Children

variable (h : Keeps change toRef)

include h

theorem hasType_array_rewrite :
    hasType (rewrite change .schema s) "array" = hasType s "array" := by
  rw [Bool.eq_iff_iff, ← classify_eq_array_iff, ← classify_eq_array_iff, classify_rewrite h]

theorem isObject_rewrite : isObject (rewrite change .schema s) = isObject s := by
  rw [Bool.eq_iff_iff, ← classify_eq_object_iff, ← classify_eq_object_iff, classify_rewrite h]

theorem isComposition_rewrite : isComposition (rewrite change .schema s) = isComposition s := by
  rw [Bool.eq_iff_iff, ← classify_eq_allOf_iff, ← classify_eq_allOf_iff, classify_rewrite h]

theorem items_rewrite (hs : hasType s "array" = true) :
    items (rewrite change .schema s) = (items s).map (rewrite change .schema) := by
  unfold items
  rw [getD_items_rewrite h (classify_eq_array_iff.2 hs), isNull_rewrite]
  split
  · rfl
  · rfl

theorem properties_rewrite (hs : isObject s = true) :
    (properties (rewrite change .schema s)).map Prod.snd =
      ((properties s).map Prod.snd).map (rewrite change .schema) := by
  unfold properties
  rw [getD_properties_rewrite h (classify_eq_object_iff.2 hs)]
  cases s.getD "properties" with
  | map es => rw [rewrite, rewriteEntries_eq_map, List.map_map, List.map_map]; rfl
  | _ => rw [rewrite]; rfl

theorem branches_rewrite (hs : isComposition s = true) :
    branches (rewrite change .schema s) = (branches s).map (rewrite change .schema) := by
  unfold branches
  rw [getD_allOf_rewrite h (classify_eq_allOf_iff.2 hs)]
  cases s.getD "allOf" with
  | list vs => rw [rewrite, rewriteItems_eq_map]
  | pair a b => rw [rewrite]; rfl
  | _ => rw [rewrite]; rfl

/-- The schemas that a changed schema holds are the changed ones of those it held. -/
theorem children_rewrite :
    children (rewrite change .schema s) = (children s).map (rewrite change .schema) := by
  unfold children
  rw [hasType_array_rewrite h, isObject_rewrite h, isComposition_rewrite h]
  split
  · exact items_rewrite h ‹_›
  · split
    · exact properties_rewrite h ‹_›
    · split
      · exact branches_rewrite h ‹_›
      · rfl

theorem subschemas_rewrite (s : Value) :
    subschemas (rewrite change .schema s) = (subschemas s).map (rewrite change .schema) := by
  induction s using induction_children with
  | step s ih =>
    rw [subschemas_eq, subschemas_eq s, children_rewrite h, List.map_cons, List.map_flatMap,
      List.flatMap_map]
    congr 1
    exact List.flatMap_congr ih

end Children

/-- In a schema without its remarks the same schemas are met, without theirs. -/
theorem subschemas_stripped (s : Value) : subschemas (stripped s) = (subschemas s).map stripped :=
  subschemas_rewrite keeps_keywordEntries s

/-- A map without its remarks has keywords only. -/
theorem isKeyword_of_stripped {es : Entries} (hs : stripped s = .map es) {e : Scalar × Value}
    (he : e ∈ es) : isKeyword e.1 = true := by
  unfold stripped at hs
  cases s with
  | map es' =>
    rw [rewrite, Value.map.injEq] at hs
    rw [← hs] at he
    exact (List.mem_filter.1 he).2
  | _ => rw [rewrite] at hs; cases hs

/-! ## Other remarks -/

/-- A value differs from another, both being read in the same way, in the remarks of one schema that
is met: remarks are put in, taken out, changed or moved there. -/
inductive Edited : Reading → Value → Value → Prop where
  /-- The schema itself has other remarks. -/
  | here {es es' : Entries} (h : keywordEntries es = keywordEntries es') :
      Edited .schema (.map es) (.map es')
  /-- The remarks are in what stands under a key that holds schemas. -/
  | under {before after : Entries} {key : Scalar} {v w : Value}
      (h : Edited (readingUnder (.map (before ++ (key, v) :: after)) key) v w) :
      Edited .schema (.map (before ++ (key, v) :: after)) (.map (before ++ (key, w) :: after))
  /-- They are in a property, whatever its name. -/
  | property {before after : Entries} {key : Scalar} {v w : Value} (h : Edited .schema v w) :
      Edited .properties (.map (before ++ (key, v) :: after)) (.map (before ++ (key, w) :: after))
  /-- They are in one of several branches. -/
  | branch {before after : List Value} {v w : Value} (h : Edited .schema v w) :
      Edited .branches (.list (before ++ v :: after)) (.list (before ++ w :: after))
  /-- They are in the first of two branches. -/
  | first {v w b : Value} (h : Edited .schema v w) : Edited .branches (.pair v b) (.pair w b)
  /-- They are in the second of two branches. -/
  | second {a v w : Value} (h : Edited .schema v w) : Edited .branches (.pair a v) (.pair a w)

theorem Edited.isNull_eq (h : Edited reading v w) : v.isNull = w.isNull := by
  cases h <;> rfl

/-- What a key holds depends on the reference, the type and the presence of branches. -/
theorem readingUnder_congr {t : Value} (href : s.has "$ref" = t.has "$ref")
    (htype : s.getD "type" = t.getD "type") (hallOf : present s "allOf" = present t "allOf") :
    readingUnder s = readingUnder t := by
  funext key
  unfold readingUnder isComposition isObject isUntyped hasType
  rw [href, htype, hallOf]

theorem readingUnder_of_keywordEntries {es es' : Entries}
    (h : keywordEntries es = keywordEntries es') :
    readingUnder (.map es) = readingUnder (.map es') := by
  have hget : ∀ key ∈ "$ref" :: keywords, (Value.map es).get? key = (Value.map es').get? key := by
    intro key hkey
    have hk := isKeyword_of_mem hkey
    rw [Value.get?_map, Value.get?_map, ← lookup_keywordEntries hk, h, lookup_keywordEntries hk]
  apply readingUnder_congr
  · rw [Value.has, Value.has, hget _ (by decide)]
  · rw [Value.getD, Value.getD, hget _ (by decide)]
  · rw [present, present, Value.getD, Value.getD, hget _ (by decide)]

theorem present_other {before after : Entries} {k : Scalar} (key : String)
    (h : v.isNull = w.isNull) :
    present (.map (before ++ (k, v) :: after)) key =
      present (.map (before ++ (k, w) :: after)) key := by
  unfold present Value.getD
  rw [Value.get?_map, Value.get?_map]
  by_cases hk : Scalar.text key = k
  · rw [List.lookup_append, List.lookup_append, List.lookup_cons, List.lookup_cons, hk,
      beq_self_eq_true]
    cases before.lookup k with
    | none => simp [h]
    | some u => rfl
  · rw [Entries.lookup_other hk before after v w]

/-- Another value that is present in its place changes nothing of what the keys hold. -/
theorem readingUnder_other {before after : Entries} {k : Scalar}
    (hk : readingUnder (.map (before ++ (k, v) :: after)) k ≠ .data) (h : v.isNull = w.isNull) :
    readingUnder (.map (before ++ (k, v) :: after)) =
      readingUnder (.map (before ++ (k, w) :: after)) := by
  have hkey : ∀ key, key ∉ ["items", "properties", "allOf"] → Scalar.text key ≠ k := by
    rintro key hplain rfl
    simp only [List.mem_cons, List.not_mem_nil, or_false, not_or] at hplain
    simp [readingUnder, hplain] at hk
  apply readingUnder_congr
  · rw [Value.has, Value.has, Value.get?_map, Value.get?_map,
      Entries.lookup_other (hkey _ (by decide)) before after v w]
  · rw [Value.getD, Value.getD, Value.get?_map, Value.get?_map,
      Entries.lookup_other (hkey _ (by decide)) before after v w]
  · exact present_other "allOf" h

theorem keywordEntries_rewriteEntries {under : Scalar → Reading} (es : Entries) :
    keywordEntries (rewriteEntries change under es) =
      rewriteEntries change under (keywordEntries es) := by
  unfold keywordEntries
  rw [rewriteEntries_eq_map, rewriteEntries_eq_map, List.filter_map]
  rfl

/-- Values that differ in remarks are the same without them. -/
theorem rewrite_eq_of_edited (h : Edited reading v w) :
    rewrite keywordEntries reading v = rewrite keywordEntries reading w := by
  induction h with
  | @here es es' h =>
    rw [rewrite, rewrite, readingUnder_of_keywordEntries h, keywordEntries_rewriteEntries,
      keywordEntries_rewriteEntries, h]
  | @under before after key v w h ih =>
    have hdata : readingUnder (.map (before ++ (key, v) :: after)) key ≠ .data := by
      intro hdata
      rw [hdata] at h
      cases h
    rw [rewrite, rewrite, ← readingUnder_other hdata h.isNull_eq]
    simp only [rewriteEntries_eq_map, List.map_append, List.map_cons, ih]
  | property h ih =>
    rw [rewrite, rewrite]
    simp only [rewriteEntries_eq_map, List.map_append, List.map_cons, ih]
  | branch h ih =>
    rw [rewrite, rewrite]
    simp only [rewriteItems_eq_map, List.map_append, List.map_cons, ih]
  | first h ih => rw [rewrite, rewrite, ih]
  | second h ih => rw [rewrite, rewrite, ih]

/-- The type of a schema depends on its keywords alone. Without its remarks, of which there are none
left in any schema that is met, it describes the same type or fails in the same way, and so it does
with other remarks. -/
theorem type_by_keywords (layout : Layout) (s : Value) :
    (toType layout (stripped s)).result = (toType layout s).result ∧
      subschemas (stripped s) = (subschemas s).map stripped ∧
      (∀ u ∈ subschemas (stripped s), ∀ es, u = .map es → ∀ e ∈ es, isKeyword e.1 = true) ∧
      ∀ t, Relation.ReflTransGen (Edited .schema) s t →
        stripped t = stripped s ∧ (toType layout t).result = (toType layout s).result := by
  refine ⟨result_toType_stripped layout s, subschemas_stripped s, fun u hu es hes e he => ?_,
    fun t ht => ?_⟩
  · rw [subschemas_stripped] at hu
    obtain ⟨u', -, rfl⟩ := List.mem_map.1 hu
    exact isKeyword_of_stripped hes he
  · have hsame : stripped t = stripped s := by
      induction ht with
      | refl => rfl
      | tail _ hedit ih => exact (rewrite_eq_of_edited hedit).symm.trans ih
    refine ⟨hsame, ?_⟩
    rw [← result_toType_stripped layout t, hsame, result_toType_stripped]

/-- A schema with a remark of its own, and with a property that is named like a keyword and has a
remark. -/
def kettle (remark : String) : Value :=
  .record [
    ("title", .text "Kettle"), ("type", .text "object"),
    ("properties", .record [
      ("enum", .record [("description", .text remark), ("type", .text "number")]),
      ("title", .record [("type", .text "string")])]),
    ("required", .list [.text "enum"])]

/-- The kettle without its remarks keeps its properties, and another remark leaves its type. -/
theorem type_by_keywords_kettle :
    stripped (kettle "litres") =
        .record [
          ("type", .text "object"),
          ("properties", .record [
            ("enum", .record [("type", .text "number")]),
            ("title", .record [("type", .text "string")])]),
          ("required", .list [.text "enum"])] ∧
      (toType (.of .openApi3) (stripped (kettle "litres"))).result =
        (toType (.of .openApi3) (kettle "litres")).result ∧
      (toType (.of .openApi3) (kettle "pints")).result =
        (toType (.of .openApi3) (kettle "litres")).result := by
  have hremark : Edited .schema
      (.record [("description", .text "litres"), ("type", .text "number")])
      (.record [("description", .text "pints"), ("type", .text "number")]) := .here rfl
  have hedit : Edited .schema (kettle "litres") (kettle "pints") :=
    @Edited.under [(.text "title", .text "Kettle"), (.text "type", .text "object")]
      [(.text "required", .list [.text "enum"])] (.text "properties") _ _
      (@Edited.property [] _ (.text "enum") _ _ hremark)
  obtain ⟨hstripped, -, -, hother⟩ := type_by_keywords (.of .openApi3) (kettle "litres")
  exact ⟨rfl, hstripped, (hother (kettle "pints") (.single hedit)).2⟩

end Schema

end ApiModel
