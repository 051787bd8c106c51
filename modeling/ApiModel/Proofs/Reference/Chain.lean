import ApiModel.Reference.Pointer
import Mathlib.Data.List.Nodup

/-!
# Where chains of references end

`Reference.follow` goes along references and remembers those it has met. The relation `Leads` goes
along them and remembers nothing. Both give the same: a chain that ends meets no reference twice,
since from the same reference it would go on in the same way for ever.

* `Leads.nodup`: a chain that ends holds each reference once.
* `follow_eq_ok_iff`: following gives a value exactly when a chain ends there.
* `follow_reference_eq_ok_iff`: a reference leads on to where the value it refers to leads.
-/

namespace ApiModel.Reference

variable {document v w : Value} {refs : List String}

/-- A value leads through references, one after another, to a value that is no reference. -/
inductive Leads (document : Value) : Value → List String → Value → Prop where
  | here {v : Value} (h : v.get? "$ref" = none) : Leads document v [] v
  | next {v u w : Value} {ref : String} {refs : List String}
      (h : v.get? "$ref" = some (.text ref)) (hf : find document ref = .ok u)
      (hu : Leads document u refs w) : Leads document v (ref :: refs) w

namespace Leads

theorem end_eq_none (h : Leads document v refs w) : w.get? "$ref" = none := by
  induction h with
  | here h => exact h
  | next _ _ _ ih => exact ih

/-! ## One step -/

theorem none_iff (h : v.get? "$ref" = none) : Leads document v refs w ↔ refs = [] ∧ w = v := by
  constructor
  · intro hleads
    cases hleads with
    | here _ => exact ⟨rfl, rfl⟩
    | next hv _ _ => cases h.symm.trans hv
  · rintro ⟨rfl, rfl⟩
    exact .here h

theorem text_iff {ref : String} (h : v.get? "$ref" = some (.text ref)) :
    Leads document v refs w ↔
      ∃ u rest, refs = ref :: rest ∧ find document ref = .ok u ∧ Leads document u rest w := by
  constructor
  · intro hleads
    cases hleads with
    | here hv => cases h.symm.trans hv
    | next hv hf hu =>
      cases h.symm.trans hv
      exact ⟨_, _, rfl, hf, hu⟩
  · rintro ⟨u, rest, rfl, hf, hu⟩
    exact .next h hf hu

theorem not_of_not_text {ref : Value} (h : v.get? "$ref" = some ref) (hne : ∀ s, ref ≠ .text s) :
    ¬ Leads document v refs w := by
  intro hleads
  cases hleads with
  | here hv => cases h.symm.trans hv
  | next hv _ _ =>
    rw [h, Option.some.injEq] at hv
    exact hne _ hv

/-! ## Whole chains -/

/-- There is one way to go, and one end. -/
theorem unique {refs' : List String} {w' : Value} (h : Leads document v refs w)
    (h' : Leads document v refs' w') : refs = refs' ∧ w = w' := by
  induction h generalizing refs' with
  | here hv =>
    obtain ⟨rfl, rfl⟩ := (none_iff hv).1 h'
    exact ⟨rfl, rfl⟩
  | next hv hf _ ih =>
    obtain ⟨u, rest, rfl, hf', hu'⟩ := (text_iff hv).1 h'
    cases hf.symm.trans hf'
    obtain ⟨hrefs, hw⟩ := ih hu'
    exact ⟨by rw [hrefs], hw⟩

/-- From each of its references a chain goes on to its end. -/
theorem of_mem {ref : String} (h : Leads document v refs w) (hm : ref ∈ refs) :
    ∃ u rest, find document ref = .ok u ∧ Leads document u rest w ∧ rest.length < refs.length := by
  induction h with
  | here _ => cases hm
  | @next v u w r refs hv hf hu ih =>
    rcases List.mem_cons.1 hm with rfl | hm
    · exact ⟨u, refs, hf, hu, Nat.lt_succ_self _⟩
    · obtain ⟨u', rest, hf', hu', hlen⟩ := ih hm
      exact ⟨u', rest, hf', hu', Nat.lt_succ_of_lt hlen⟩

theorem nodup (h : Leads document v refs w) : refs.Nodup := by
  induction h with
  | here _ => exact List.nodup_nil
  | next _ hf hu ih =>
    refine List.nodup_cons.2 ⟨fun hm => ?_, ih⟩
    obtain ⟨u', rest, hf', hu', hlen⟩ := hu.of_mem hm
    -- the reference leads to one value, whose chain would be shorter than itself
    cases hf.symm.trans hf'
    rw [(hu.unique hu').1] at hlen
    exact Nat.lt_irrefl _ hlen

end Leads

/-! ## Following -/

theorem followFrom_eq_ok_iff {seen : List String} (hin : v.references ⊆ document.references) :
    followFrom document v seen hin = .ok w ↔
      ∃ refs, Leads document v refs w ∧ refs.Disjoint seen := by
  fun_induction followFrom document v seen hin with
  | case1 v seen hin hr =>
    simp only [Leads.none_iff hr, Except.ok.injEq]
    constructor
    · rintro rfl
      exact ⟨[], ⟨rfl, rfl⟩, List.disjoint_nil_left _⟩
    · rintro ⟨refs, ⟨-, rfl⟩, -⟩
      rfl
  | case2 v seen hin ref hr hs =>
    constructor
    · intro h
      cases h
    · rintro ⟨refs, hleads, hdis⟩
      obtain ⟨u, rest, rfl, -, -⟩ := (Leads.text_iff hr).1 hleads
      exact absurd hs (hdis List.mem_cons_self)
  | case3 v seen hin ref hr hs u hf _ ih =>
    rw [ih]
    constructor
    · rintro ⟨refs, hleads, hdis⟩
      obtain ⟨-, hdis⟩ := List.disjoint_cons_right.1 hdis
      exact ⟨ref :: refs, .next hr hf hleads, List.disjoint_cons_left.2 ⟨hs, hdis⟩⟩
    · rintro ⟨refs, hleads, hdis⟩
      have hnodup := hleads.nodup
      obtain ⟨u', rest, rfl, hf', hu'⟩ := (Leads.text_iff hr).1 hleads
      cases hf.symm.trans hf'
      obtain ⟨hnew, -⟩ := List.nodup_cons.1 hnodup
      obtain ⟨-, hdis⟩ := List.disjoint_cons_left.1 hdis
      exact ⟨rest, hu', List.disjoint_cons_right.2 ⟨hnew, hdis⟩⟩
  | case4 v seen hin ref hr hs e hf =>
    constructor
    · intro h
      cases h
    · rintro ⟨refs, hleads, -⟩
      obtain ⟨u, rest, -, hf', -⟩ := (Leads.text_iff hr).1 hleads
      cases hf.symm.trans hf'
  | case5 v seen hin ref hne hr =>
    constructor
    · intro h
      cases h
    · rintro ⟨refs, hleads, -⟩
      exact absurd hleads (Leads.not_of_not_text hr hne)

/-- Following gives a value exactly when a chain of references ends there. -/
theorem follow_eq_ok_iff : follow document v = .ok w ↔ ∃ refs, Leads document v refs w := by
  unfold follow
  split
  · rename_i hr
    simp [Leads.none_iff hr, eq_comm]
  · rename_i ref hr
    simp only [Leads.text_iff hr]
    split
    · rename_i u hf
      rw [followFrom_eq_ok_iff]
      constructor
      · rintro ⟨refs, hleads, -⟩
        exact ⟨ref :: refs, u, refs, rfl, hf, hleads⟩
      · rintro ⟨refs, u', rest, rfl, hf', hu'⟩
        cases hf.symm.trans hf'
        obtain ⟨hnew, -⟩ := List.nodup_cons.1 (Leads.next hr hf hu').nodup
        exact ⟨rest, hu', List.disjoint_singleton.2 hnew⟩
    · rename_i e hf
      constructor
      · intro h
        cases h
      · rintro ⟨refs, u, rest, -, hf', -⟩
        cases hf.symm.trans hf'
  · rename_i ref hne hr
    constructor
    · intro h
      cases h
    · rintro ⟨refs, hleads⟩
      exact absurd hleads (Leads.not_of_not_text hr hne)

theorem get?_of_follow (h : follow document v = .ok w) : w.get? "$ref" = none := by
  obtain ⟨refs, hleads⟩ := follow_eq_ok_iff.1 h
  exact hleads.end_eq_none

/-- A reference leads on to where the value it refers to leads. -/
theorem follow_reference_eq_ok_iff {ref : String} (h : v.get? "$ref" = some (.text ref)) :
    follow document v = .ok w ↔ ∃ u, find document ref = .ok u ∧ follow document u = .ok w := by
  simp only [follow_eq_ok_iff, Leads.text_iff h]
  constructor
  · rintro ⟨refs, u, rest, -, hf, hu⟩
    exact ⟨u, hf, rest, hu⟩
  · rintro ⟨u, hf, rest, hu⟩
    exact ⟨ref :: rest, u, rest, rfl, hf, hu⟩

end ApiModel.Reference
