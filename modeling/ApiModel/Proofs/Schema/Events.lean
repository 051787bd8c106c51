import ApiModel.Proofs.Schema.Flattening

/-!
# What is noted about a schema

Two things are noted in going through a schema: that a number was guessed from a format, and that a
branch of a composition was dropped. Here the schemas inside a schema are listed in the order in
which they are finished, each with its index if it is a branch, and what is noted is read off the
list: what each schema calls for, one after another, and nothing else.

* `finished`: the schemas inside a schema, each after those it holds.
* `events_of_held`: what is noted about a schema, given what is noted about those it holds.
* `everything_noted`: all that is noted, and that no branch is lost without a note.
-/

namespace ApiModel

namespace Schema

open Reference (Layout)

variable {layout : Layout} {s : Value} {t : Ty}

/-! ## Schemas in the order in which they are finished -/

/-- A schema that is gone through, as what it stands there. -/
structure Visit where
  /-- The index of the schema, if it is a branch of a composition. -/
  branch : Option Nat
  /-- The schema. -/
  schema : Value

/-- The schemas that a schema holds, in order. -/
def held (s : Value) : List Visit :=
  if isComposition s then (branches s).zipIdx.map fun b => ⟨some b.2, b.1⟩
  else (children s).map fun c => ⟨none, c⟩

theorem held_composition (h : isComposition s = true) :
    held s = (branches s).zipIdx.map fun b => ⟨some b.2, b.1⟩ := if_pos h

theorem held_other (h : isComposition s = false) : held s = (children s).map fun c => ⟨none, c⟩ :=
  if_neg (by rw [h]; exact Bool.false_ne_true)

theorem schema_held (s : Value) : (held s).map (·.schema) = children s := by
  cases h : isComposition s with
  | true =>
    rw [held_composition h, List.map_map, children_composition h]
    exact List.zipIdx_map_fst 0 (branches s)
  | false =>
    rw [held_other h, List.map_map]
    exact List.map_id _

theorem mem_children_of_mem_held {v : Visit} (h : v ∈ held s) : v.schema ∈ children s := by
  rw [← schema_held]
  exact List.mem_map_of_mem h

/-- A schema and all schemas inside it, each after those it holds. -/
def finished (v : Visit) : List Visit :=
  (held v.schema).attach.flatMap (fun w => finished w.1) ++ [v]
termination_by sizeOf v.schema
decreasing_by exact sizeOf_lt_of_mem_children (mem_children_of_mem_held w.2)

theorem finished_eq (v : Visit) : finished v = (held v.schema).flatMap finished ++ [v] := by
  rw [finished, List.flatMap_subtype fun w _ => rfl, List.unattach_attach]

/-- What holds of a visit whenever it holds of the schemas held there, holds of every visit. -/
theorem induction_held {P : Visit → Prop} (step : ∀ v, (∀ w ∈ held v.schema, P w) → P v)
    (v : Visit) : P v := by
  obtain ⟨branch, s⟩ := v
  induction s using induction_children generalizing branch with
  | step s ih => exact step _ fun w hw => ih w.schema (mem_children_of_mem_held hw) w.branch

/-- All schemas inside a schema are finished, each as often as it stands there. -/
theorem finished_perm (v : Visit) :
    ((finished v).map (·.schema)).Perm (subschemas v.schema) := by
  induction v using induction_held with
  | step v ih =>
    have hheld : ((held v.schema).flatMap fun w => (finished w).map (·.schema)).Perm
        ((children v.schema).flatMap subschemas) := by
      rw [← schema_held, List.flatMap_map]
      exact List.Perm.flatMap_left _ ih
    rw [finished_eq, subschemas_eq, List.map_append, List.map_flatMap]
    exact (hheld.append_right _).trans (List.perm_append_singleton _ _)

/-! ## Notes -/

/-- The note that a schema without a type or branches is taken for a number. -/
def guess (s : Value) : List Event :=
  match s.getD "format" with
  | .text format =>
    if isUntyped s ∧ present s "allOf" = false ∧ format ∈ numericFormats then
      [.guessedNumber format]
    else []
  | _ => []

/-- The note that a branch does not make a record. -/
def loss (layout : Layout) (v : Visit) : List Event :=
  match v.branch, (toType layout v.schema).result with
  | some index, .ok t => if t.isRecord then [] else [.droppedBranch index t.kind]
  | _, _ => []

/-- What is noted when a schema is finished. -/
def noted (layout : Layout) (v : Visit) : List Event := guess v.schema ++ loss layout v

theorem loss_of_branch {index : Nat} (h : (toType layout s).result = .ok t) :
    loss layout ⟨some index, s⟩ =
      if t.isRecord then [] else [.droppedBranch index t.kind] := by
  simp only [loss, h]

theorem guess_eq_nil (h : isUntyped s = false) : guess s = [] := by
  unfold guess
  split
  · simp [h]
  · rfl

theorem guess_of_composition (h : isComposition s = true) : guess s = [] := by
  unfold guess
  split
  · simp [(isComposition_iff.1 h).2.2]
  · rfl

theorem guess_of_hasType {type : String} (h : hasType s type = true) : guess s = [] := by
  refine guess_eq_nil (Bool.eq_false_iff.2 fun hu => ?_)
  cases (hasType_iff.1 h).2.symm.trans (isUntyped_iff.1 hu).2

theorem level_of_mem_guess {e : Event} (h : e ∈ guess s) : e.level = .warning := by
  unfold guess at h
  split at h
  · split at h
    · rw [List.mem_singleton.1 h]
      rfl
    · cases h
  · cases h

theorem level_of_mem_loss {v : Visit} {e : Event} (h : e ∈ loss layout v) : e.level = .debug := by
  unfold loss at h
  split at h
  · split at h
    · cases h
    · rw [List.mem_singleton.1 h]
      rfl
  · cases h

/-- Notes of one level are all of that level, and none of another. -/
theorem filter_level {es : List Event} {own level : Level} (h : ∀ e ∈ es, e.level = own) :
    es.filter (·.level = level) = if own = level then es else [] := by
  split
  · rename_i heq
    exact List.filter_eq_self.2 fun e he => decide_eq_true ((h e he).trans heq)
  · rename_i hne
    refine List.filter_eq_nil_iff.2 fun e he hlevel => hne ?_
    exact (h e he).symm.trans (of_decide_eq_true hlevel)

/-- The warnings are the guesses, and the notes below them are the losses. -/
theorem filter_noted (v : Visit) (level : Level) :
    (noted layout v).filter (·.level = level) =
      (if .warning = level then guess v.schema else []) ++
        if .debug = level then loss layout v else [] := by
  rw [noted, List.filter_append, filter_level fun e => level_of_mem_guess,
    filter_level fun e => level_of_mem_loss]

/-! ## Walks -/

theorem events_propertyFields {names : List Scalar} {es : Entries} {fs : List Field}
    (h : (propertyFields layout names es).result = .ok fs) :
    (propertyFields layout names es).events = es.flatMap fun e => (toType layout e.2).events := by
  induction es generalizing fs with
  | nil => rw [propertyFields]; rfl
  | cons e es ih =>
    obtain ⟨key, property⟩ := e
    rw [propertyFields] at h ⊢
    obtain ⟨type, htype, h⟩ := Traced.exists_of_bind_ok h
    obtain ⟨f, hf, h⟩ := Traced.exists_of_bind_ok h
    obtain ⟨rest, hrest, -⟩ := Traced.exists_of_bind_ok h
    rw [Traced.events_bind_of_ok htype, Traced.events_bind_of_ok hf,
      Traced.events_bind_of_ok hrest, ih hrest, List.flatMap_cons]
    exact congrArg _ (List.append_nil _)

/-- A branch that is dropped is noted after what is noted about it. -/
theorem events_partFields {index : Nat} {parts : List Value} {fs : List Field}
    (h : (partFields layout index parts).result = .ok fs) :
    (partFields layout index parts).events =
      (parts.zipIdx index).flatMap fun b =>
        (toType layout b.1).events ++ loss layout ⟨some b.2, b.1⟩ := by
  induction parts generalizing index fs with
  | nil => rw [partFields]; rfl
  | cons part parts ih =>
    rw [partFields] at h ⊢
    obtain ⟨type, htype, h⟩ := Traced.exists_of_bind_ok h
    rw [Traced.events_bind_of_ok htype, List.zipIdx_cons, List.flatMap_cons, loss_of_branch htype,
      List.append_assoc]
    congr 1
    have hrest : ∀ own : List Field,
        (do let others ← partFields layout (index + 1) parts
            return own ++ others : Traced (List Field)).result = .ok fs →
        (do let others ← partFields layout (index + 1) parts
            return own ++ others : Traced (List Field)).events =
          (parts.zipIdx (index + 1)).flatMap fun b =>
            (toType layout b.1).events ++ loss layout ⟨some b.2, b.1⟩ := by
      intro own h
      obtain ⟨others, hothers, -⟩ := Traced.exists_of_bind_ok h
      rw [Traced.events_bind_of_ok hothers, ih hothers]
      exact List.append_nil _
    cases type with
    | record own =>
      simp only [pure_bind] at h ⊢
      exact hrest own h
    | _ =>
      simp only [pure_bind] at h ⊢
      rw [Traced.events_bind_of_ok rfl]
      obtain ⟨-, -, h⟩ := Traced.exists_of_bind_ok h
      exact congrArg _ (hrest [] h)

/-! ## One schema -/

theorem events_toType_array (hs : classify s = .ok .array) :
    (toType layout s).events = (children s).flatMap fun c => (toType layout c).events := by
  rw [children_array (classify_eq_array_iff.1 hs), items, toType, hs, Traced.lift_ok_bind]
  dsimp only
  split
  · rename_i hi
    rw [Value.getD_of_get?_eq_none hi]
    rfl
  · rename_i item hi
    rw [Value.getD_of_get? hi]
    split
    · rfl
    · rw [Traced.events_bind, List.flatMap_singleton]
      cases (toType layout item).result <;> exact List.append_nil _

theorem events_toType_object (hs : classify s = .ok .object)
    (h : (toType layout s).result = .ok t) :
    (toType layout s).events = (children s).flatMap fun c => (toType layout c).events := by
  rw [children_object (classify_eq_object_iff.1 hs), List.flatMap_map, properties]
  rw [toType, hs, Traced.lift_ok_bind] at h ⊢
  dsimp only at h ⊢
  split at h
  · rename_i es hi
    rw [Value.getD_of_get? hi]
    split at h
    · rename_i hempty
      rw [if_pos hempty, List.isEmpty_iff.1 hempty]
      rfl
    · rename_i hempty
      obtain ⟨names, hnames, h⟩ := Traced.exists_of_bind_ok h
      obtain ⟨fs, hfs, -⟩ := Traced.exists_of_bind_ok h
      rw [if_neg hempty, Traced.events_bind_of_ok hnames, Traced.events_bind_of_ok hfs,
        events_propertyFields hfs]
      exact List.append_nil _
  · rename_i other hother hi
    rw [Value.getD_of_get? hi]
    split at h
    · obtain ⟨-, -, h⟩ := Traced.exists_of_bind_ok h
      cases h
    · rename_i hfalse
      rw [if_neg hfalse]
      split
      · exact absurd rfl (hother _)
      · rfl
  · rename_i hi
    rw [Value.getD_of_get?_eq_none hi]
    rfl

theorem events_toType_allOf (hs : classify s = .ok .allOf)
    (h : (toType layout s).result = .ok t) :
    (toType layout s).events =
      (branches s).zipIdx.flatMap fun b =>
        (toType layout b.1).events ++ loss layout ⟨some b.2, b.1⟩ := by
  rw [branches]
  rw [toType, hs, Traced.lift_ok_bind] at h ⊢
  dsimp only at h ⊢
  split at h
  · rename_i parts hi
    obtain ⟨fs, hfs, -⟩ := Traced.exists_of_bind_ok h
    rw [Value.getD_of_get? hi, Traced.events_bind_of_ok hfs, events_partFields hfs]
    exact List.append_nil _
  · rename_i a b hi
    obtain ⟨first, hfirst, h⟩ := Traced.exists_of_bind_ok h
    obtain ⟨second, hsecond, -⟩ := Traced.exists_of_bind_ok h
    rw [Value.getD_of_get? hi, Traced.events_bind_of_ok hfirst, Traced.events_bind_of_ok hsecond,
      events_partFields hfirst, events_partFields hsecond]
    simp [Traced.pure_def]
  · rename_i other hlist hpair hi
    obtain ⟨vs, hvs, h⟩ := Traced.exists_of_bind_ok h
    rw [Value.getD_of_get? hi, Traced.events_bind_of_ok hvs]
    split at h
    · rename_i hempty
      rw [if_pos hempty]
      split
      · exact absurd rfl (hlist _)
      · exact absurd rfl (hpair _ _)
      · rfl
    · cases h
  · rename_i hi
    rw [Value.getD_of_get?_eq_none hi]
    rfl

/-- A schema that holds no others is noted if it is guessed. -/
theorem events_toType_leaf {shape : Shape} (hs : classify s = .ok shape) (ha : shape ≠ .array)
    (ho : shape ≠ .object) (hc : shape ≠ .allOf) : (toType layout s).events = guess s := by
  have hplain : guess s = [] → (toType layout s).events = [] → (toType layout s).events = guess s :=
    fun h h' => h'.trans h.symm
  cases classify_eq_ok_iff.1 hs with
  | reference h =>
    obtain ⟨ref, href⟩ := Option.isSome_iff_exists.1 h
    refine hplain (guess_eq_nil (by simp [isUntyped, h])) ?_
    rw [toType_reference href]
    rfl
  | number _ h => exact hplain (guess_of_hasType h) (by rw [toType, hs]; rfl)
  | boolean h => exact hplain (guess_of_hasType h) (by rw [toType, hs]; rfl)
  | string h => exact hplain (guess_of_hasType h) (by rw [toType, hs]; rfl)
  | array h => exact absurd rfl ha
  | object h => exact absurd rfl ho
  | allOf h => exact absurd rfl hc
  | @numericFormat format h hp hf hn =>
    rw [toType, hs, guess, hf]
    simp only [h, hp, hn, and_self, if_true]
    rfl

/-- What is noted about a schema that is no composition. -/
theorem events_of_children (hc : isComposition s = false) (h : (toType layout s).result = .ok t) :
    (toType layout s).events =
      ((children s).flatMap fun c => (toType layout c).events) ++ guess s := by
  cases hs : classify s with
  | error e =>
    rw [result_toType_of_error hs] at h
    cases h
  | ok shape =>
    have hleaf : shape ≠ .array → shape ≠ .object → shape ≠ .allOf → (toType layout s).events =
        ((children s).flatMap fun c => (toType layout c).events) ++ guess s := by
      intro ha ho hall
      rw [events_toType_leaf hs ha ho hall, children_leaf hs ha ho hall]
      rfl
    cases shape with
    | array =>
      rw [events_toType_array hs, guess_of_hasType (classify_eq_array_iff.1 hs), List.append_nil]
    | object =>
      obtain ⟨href, htype, -⟩ := isObject_iff.1 (classify_eq_object_iff.1 hs)
      rw [events_toType_object hs h, guess_of_hasType (hasType_iff.2 ⟨href, htype⟩),
        List.append_nil]
    | allOf =>
      rw [classify_eq_allOf_iff.1 hs] at hc
      cases hc
    | reference => exact hleaf nofun nofun nofun
    | number => exact hleaf nofun nofun nofun
    | boolean => exact hleaf nofun nofun nofun
    | string => exact hleaf nofun nofun nofun
    | numericFormat => exact hleaf nofun nofun nofun

/-- What is noted about a schema: what is noted about those it holds, each with its loss if it is a
branch, and then its own guess. -/
theorem events_of_held (h : (toType layout s).result = .ok t) :
    (toType layout s).events =
      ((held s).flatMap fun v => (toType layout v.schema).events ++ loss layout v) ++ guess s := by
  cases hc : isComposition s with
  | true =>
    rw [events_toType_allOf (classify_eq_allOf_iff.2 hc) h, held_composition hc, List.flatMap_map,
      guess_of_composition hc, List.append_nil]
  | false =>
    rw [events_of_children hc h, held_other hc, List.flatMap_map]
    congr 1
    exact List.flatMap_congr fun c _ => (List.append_nil _).symm

/-! ## All schemas -/

/-- What is noted about a schema and its loss is what is noted as the schemas inside it are
finished. The induction is on the schemas that are held. -/
theorem events_of_finished (v : Visit) : ∀ t, (toType layout v.schema).result = .ok t →
    (toType layout v.schema).events ++ loss layout v = (finished v).flatMap (noted layout) := by
  induction v using induction_held with
  | step v ih =>
    intro t h
    have hheld : ((held v.schema).flatMap fun w =>
        (toType layout w.schema).events ++ loss layout w) =
        (held v.schema).flatMap fun w => (finished w).flatMap (noted layout) := by
      refine List.flatMap_congr fun w hw => ?_
      obtain ⟨u, hu⟩ := exists_result_of_mem_children h (mem_children_of_mem_held hw)
      exact ih w hw u hu
    rw [events_of_held h, hheld, finished_eq, List.flatMap_append, List.flatMap_assoc,
      List.flatMap_singleton, noted, List.append_assoc]

/-- **Nothing is lost or guessed without a note.** What is noted about a schema that has a type is
what the schemas inside it call for, in the order in which they are finished: a warning for each
that is taken for a number, and a note for whoever looks for a fault for each branch that makes no
record. So a branch without properties is noted or is a record without fields. -/
theorem everything_noted (h : (toType layout s).result = .ok t) :
    (toType layout s).events = (finished ⟨none, s⟩).flatMap (noted layout) ∧
    ((finished ⟨none, s⟩).map (·.schema)).Perm (subschemas s) ∧
    ((toType layout s).events.filter (·.level = .warning) =
      (finished ⟨none, s⟩).flatMap fun v => guess v.schema) ∧
    ((toType layout s).events.filter (·.level = .debug) =
      (finished ⟨none, s⟩).flatMap (loss layout)) ∧
    ∀ v ∈ finished ⟨none, s⟩, ∀ index, v.branch = some index →
      ∃ u, (toType layout v.schema).result = .ok u ∧
        (flattened v.schema = [] →
          u = .record [] ∨ .droppedBranch index u.kind ∈ (toType layout s).events) := by
  have hevents : (toType layout s).events = (finished ⟨none, s⟩).flatMap (noted layout) := by
    rw [← events_of_finished ⟨none, s⟩ t h]
    exact (List.append_nil _).symm
  have hperm := finished_perm ⟨none, s⟩
  refine ⟨hevents, hperm, ?_, ?_, fun v hv index hindex => ?_⟩
  · rw [hevents, List.filter_flatMap]
    exact List.flatMap_congr fun v _ => (filter_noted v .warning).trans (List.append_nil _)
  · rw [hevents, List.filter_flatMap]
    exact List.flatMap_congr fun v _ => filter_noted v .debug
  · obtain ⟨u, hu⟩ := exists_result_of_mem_subschemas h (hperm.mem_iff.1 (List.mem_map_of_mem hv))
    refine ⟨u, hu, fun hflat => ?_⟩
    cases hrecord : u.isRecord with
    | true =>
      obtain ⟨⟨raw, hraw, hfields⟩, -⟩ := fields_of_flattened v.schema u hu
      rw [hflat] at hraw
      cases hraw
      cases u with
      | record fs => exact Or.inl (congrArg _ hfields)
      | _ => cases hrecord
    | false =>
      have hloss : .droppedBranch index u.kind ∈ loss layout v := by
        simp only [loss, hindex, hu, hrecord]
        exact List.mem_cons_self
      rw [hevents]
      exact Or.inr (List.mem_flatMap.2 ⟨v, hv, List.mem_append_right _ hloss⟩)

/-- All of a link, a list of numbers without a type, a composition of a text and an object, and a
composition of nothing. -/
def parcel : Value :=
  .record [("allOf", .list [
    .record [("$ref", .text "#/definitions/box")],
    .record [("type", .text "array"), ("items", .record [("format", .text "int32")])],
    .record [("allOf", .list [
      .record [("type", .text "string")],
      .record [("type", .text "object"), ("properties", .record
        [("weight", .record [("format", .text "float")])])]])],
    .record [("allOf", .list [])]])]

theorem everything_noted_parcel :
    (toType (Layout.of .swagger2) parcel).result =
      .ok (.record [⟨"weight", .primitive .number, true, false⟩]) ∧
    (toType (Layout.of .swagger2) parcel).events =
      [.droppedBranch 0 "named", .guessedNumber "int32", .droppedBranch 1 "array",
        .droppedBranch 0 "string", .guessedNumber "float"] := by
  have h : (toType (Layout.of .swagger2) parcel).result =
      .ok (.record [⟨"weight", .primitive .number, true, false⟩]) := by cbv
  refine ⟨h, (everything_noted h).1.trans ?_⟩
  cbv

/-- A link beside the format of a number. -/
def label : Value :=
  .record [("$ref", .text "#/definitions/box"), ("format", .text "int32")]

/-- A link has neither a type nor branches and may have the format of a number, but nothing is
guessed of it. -/
theorem link_not_noted :
    (toType (Layout.of .swagger2) label).result = .ok (.named "box") ∧
    label.getD "type" = .null ∧ label.getD "allOf" = .null ∧
    label.getD "format" = .text "int32" ∧ "int32" ∈ numericFormats ∧
    (toType (Layout.of .swagger2) label).events = [] := by
  refine ⟨by cbv, rfl, rfl, rfl, by decide, ?_⟩
  cbv

end Schema

end ApiModel
