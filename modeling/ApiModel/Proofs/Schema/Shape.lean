import ApiModel.Schema.Shape
import ApiModel.Proofs.Value.Lookup

/-!
# Keywords and shapes

The shape of a schema is found by going through its keywords in a fixed order. Here each shape is
described by the keywords themselves, apart from that order: a reference comes before everything
else, a composition before properties, and a type before a format.

* `classify_eq_ok_iff`: a schema has a shape exactly when its keywords are those of the shape.
-/

namespace ApiModel.Schema

variable {s : Value}

/-! ## Keywords -/

/-- Whether a schema is no reference and has a type. -/
def hasType (s : Value) (type : String) : Bool := !s.has "$ref" && (s.getD "type").isText type

/-- Whether a schema is no reference and has no type, or an empty one. -/
def isUntyped (s : Value) : Bool := !s.has "$ref" && (s.getD "type").isNull

/-- Whether a schema is all of several schemas. -/
def isComposition (s : Value) : Bool :=
  (hasType s "object" || isUntyped s) && present s "allOf"

/-- Whether a schema is an object, and no composition. -/
def isObject (s : Value) : Bool := hasType s "object" && !present s "allOf"

/-- The keywords of a schema are those of a shape. -/
inductive HasShape (s : Value) : Shape → Prop where
  | reference (h : s.has "$ref" = true) : HasShape s .reference
  | number {type : String} (ht : type ∈ ["integer", "number"]) (h : hasType s type = true) :
      HasShape s .number
  | boolean (h : hasType s "boolean" = true) : HasShape s .boolean
  | string (h : hasType s "string" = true) : HasShape s .string
  | array (h : hasType s "array" = true) : HasShape s .array
  | object (h : isObject s = true) : HasShape s .object
  | allOf (h : isComposition s = true) : HasShape s .allOf
  | numericFormat {format : String} (h : isUntyped s = true) (hp : present s "allOf" = false)
      (hf : s.getD "format" = .text format) (hn : format ∈ numericFormats) :
      HasShape s .numericFormat

theorem hasType_iff {type : String} :
    hasType s type = true ↔ s.has "$ref" = false ∧ s.getD "type" = .text type := by
  simp [hasType, Value.isText_iff]

theorem isUntyped_iff :
    isUntyped s = true ↔ s.has "$ref" = false ∧ s.getD "type" = .null := by
  simp [isUntyped, Value.isNull_iff]

theorem isObject_iff :
    isObject s = true ↔
      s.has "$ref" = false ∧ s.getD "type" = .text "object" ∧ present s "allOf" = false := by
  simp [isObject, hasType_iff, and_assoc]

theorem isComposition_iff :
    isComposition s = true ↔
      s.has "$ref" = false ∧ (s.getD "type" = .text "object" ∨ s.getD "type" = .null) ∧
        present s "allOf" = true := by
  simp [isComposition, hasType_iff, isUntyped_iff, and_assoc, ← and_or_left]

/-! ## Shapes -/

theorem isMap_of_hasShape {shape : Shape} (h : HasShape s shape) :
    s.isMap = true ∧ s.isEnclosing = false := by
  have htype : ∀ {type : String}, hasType s type = true → s.isMap = true ∧ s.isEnclosing = false :=
    fun h => Value.isMap_of_getD "type" (by rw [(hasType_iff.1 h).2]; nofun)
  have hparts : present s "allOf" = true → s.isMap = true ∧ s.isEnclosing = false := by
    intro hp
    refine Value.isMap_of_getD "allOf" fun hnull => ?_
    rw [present, hnull] at hp
    cases hp
  cases h with
  | reference h =>
    obtain ⟨ref, hr⟩ := Option.isSome_iff_exists.1 h
    obtain ⟨es, rfl, -⟩ := Value.mem_of_get? hr
    exact ⟨rfl, rfl⟩
  | number ht h => exact htype h
  | boolean h => exact htype h
  | string h => exact htype h
  | array h => exact htype h
  | object h => exact htype (hasType_iff.2 ⟨(isObject_iff.1 h).1, (isObject_iff.1 h).2.1⟩)
  | allOf h => exact hparts (isComposition_iff.1 h).2.2
  | numericFormat h hp hf hn => exact Value.isMap_of_getD "format" (by rw [hf]; nofun)

theorem hasNumericFormat_eq_true_iff :
    hasNumericFormat s = .ok true ↔
      ∃ format ∈ numericFormats, s.getD "format" = .text format := by
  unfold hasNumericFormat
  split
  · rename_i format hf
    simp [hf]
  · rename_i hf
    simp [hf]
  · rename_i hne _
    constructor
    · intro h
      split at h <;> cases h
    · rintro ⟨format, -, hf⟩
      exact absurd hf (hne format)

/-- A schema has a shape exactly when its keywords are those of the shape. -/
theorem classify_eq_ok_iff {shape : Shape} : classify s = .ok shape ↔ HasShape s shape := by
  constructor
  · intro h
    unfold classify at h
    split at h
    · cases h
    split at h
    · cases h
    split at h
    · cases h
      exact .reference ‹_›
    rename_i href
    have href := eq_false_of_ne_true href
    split at h
    case _ ht => cases h; exact .number (by simp) (hasType_iff.2 ⟨href, ht⟩)
    case _ ht => cases h; exact .number (by simp) (hasType_iff.2 ⟨href, ht⟩)
    case _ ht => cases h; exact .boolean (hasType_iff.2 ⟨href, ht⟩)
    case _ ht => cases h; exact .string (hasType_iff.2 ⟨href, ht⟩)
    case _ ht => cases h; exact .array (hasType_iff.2 ⟨href, ht⟩)
    case _ ht =>
      split at h
      · cases h
        exact .allOf (isComposition_iff.2 ⟨href, Or.inl ht, ‹_›⟩)
      · rename_i hp
        cases h
        exact .object (isObject_iff.2 ⟨href, ht, eq_false_of_ne_true hp⟩)
    case _ ht =>
      split at h
      · cases h
        exact .allOf (isComposition_iff.2 ⟨href, Or.inr ht, ‹_›⟩)
      · rename_i hp
        cases hn : hasNumericFormat s with
        | error e => rw [hn] at h; cases h
        | ok b =>
          rw [hn] at h
          cases b with
          | false => cases h
          | true =>
            cases h
            obtain ⟨format, hmem, hf⟩ := hasNumericFormat_eq_true_iff.1 hn
            exact .numericFormat (isUntyped_iff.2 ⟨href, ht⟩) (eq_false_of_ne_true hp) hf hmem
    case _ => cases h
  · intro h
    obtain ⟨hmap, henc⟩ := isMap_of_hasShape h
    cases h with
    | reference h => simp [classify, hmap, henc, h]
    | @number type ht h =>
      obtain ⟨href, htype⟩ := hasType_iff.1 h
      simp only [List.mem_cons, List.not_mem_nil, or_false] at ht
      rcases ht with rfl | rfl <;> simp [classify, hmap, henc, href, htype]
    | boolean h =>
      obtain ⟨href, htype⟩ := hasType_iff.1 h
      simp [classify, hmap, henc, href, htype]
    | string h =>
      obtain ⟨href, htype⟩ := hasType_iff.1 h
      simp [classify, hmap, henc, href, htype]
    | array h =>
      obtain ⟨href, htype⟩ := hasType_iff.1 h
      simp [classify, hmap, henc, href, htype]
    | object h =>
      obtain ⟨href, htype, hp⟩ := isObject_iff.1 h
      simp [classify, hmap, henc, href, htype, hp]
    | allOf h =>
      obtain ⟨href, htype, hp⟩ := isComposition_iff.1 h
      rcases htype with htype | htype <;> simp [classify, hmap, henc, href, htype, hp]
    | @numericFormat format h hp hf hn =>
      obtain ⟨href, htype⟩ := isUntyped_iff.1 h
      have hformat := hasNumericFormat_eq_true_iff.2 ⟨format, hn, hf⟩
      simp only [classify, hmap, henc, href, htype, hp, hformat]
      rfl

theorem classify_eq_string_iff : classify s = .ok .string ↔ hasType s "string" = true := by
  rw [classify_eq_ok_iff]
  exact ⟨fun | .string h => h, .string⟩

theorem classify_eq_array_iff : classify s = .ok .array ↔ hasType s "array" = true := by
  rw [classify_eq_ok_iff]
  exact ⟨fun | .array h => h, .array⟩

theorem classify_eq_object_iff : classify s = .ok .object ↔ isObject s = true := by
  rw [classify_eq_ok_iff]
  exact ⟨fun | .object h => h, .object⟩

theorem classify_eq_allOf_iff : classify s = .ok .allOf ↔ isComposition s = true := by
  rw [classify_eq_ok_iff]
  exact ⟨fun | .allOf h => h, .allOf⟩

end ApiModel.Schema
