import ApiModel.Proofs.Reference.Agreement
import ApiModel.Proofs.Reference.Path

/-!
# How long following references goes on

Following references is a loop: each round goes along one reference, unless it was met before. A
document and a value hold finitely many references, and every round meets one of them, so the loop
comes to an end one round after the last of them at the latest. What it ends with is read off the
chain of references alone: the chain comes back to one of its references, or one of them leads
nowhere, or it comes to a value that is no reference.

Results:

* `followWithin_eq_follow`: how many rounds are enough.
* `follow_eq_error`, `cases_of_follow_eq_error`: where a chain of references fails, and why.
* `Reaches.linear`, `Reaches.nodup`: there is one chain, and where it ends it has not come back.
* `chain_ends`: how long following goes on, and what it ends with.
-/

namespace ApiModel

/-! ## References that are texts -/

namespace Value

mutual

/-- Every value under the key `$ref` anywhere in a value is a text. -/
def refersByText : Value → Bool
  | .scalar _ => true
  | .set _ => true
  | .enclosing _ _ => true
  | .pair a b => a.refersByText && b.refersByText
  | .list vs => itemsReferByText vs
  | .map es => entriesReferByText es

/-- The same for all items. -/
def itemsReferByText : List Value → Bool
  | [] => true
  | v :: vs => v.refersByText && itemsReferByText vs

/-- The same for all entries. -/
def entriesReferByText : Entries → Bool
  | [] => true
  | (k, v) :: es =>
    (k != .text "$ref" || v.text?.isSome) && v.refersByText && entriesReferByText es

end

variable {v : Value}

theorem refersByText_list_iff {vs : List Value} :
    (Value.list vs).refersByText = true ↔ ∀ v ∈ vs, v.refersByText = true := by
  rw [refersByText]
  induction vs with
  | nil => exact ⟨fun _ => List.forall_mem_nil _, fun _ => rfl⟩
  | cons v vs ih => rw [itemsReferByText, Bool.and_eq_true, ih, List.forall_mem_cons]

theorem refersByText_map_iff {es : Entries} :
    (Value.map es).refersByText = true ↔
      ∀ e ∈ es, (e.1 = .text "$ref" → e.2.text?.isSome = true) ∧ e.2.refersByText = true := by
  rw [refersByText]
  induction es with
  | nil => exact ⟨fun _ => List.forall_mem_nil _, fun _ => rfl⟩
  | cons e es ih =>
    obtain ⟨k, v⟩ := e
    have hown : (k != .text "$ref" || v.text?.isSome) = true ↔
        (k = .text "$ref" → v.text?.isSome = true) := by
      by_cases hk : k = .text "$ref" <;> simp [hk]
    rw [entriesReferByText, Bool.and_eq_true, Bool.and_eq_true, ih, hown, List.forall_mem_cons]

theorem isInherited_refersByText : IsInherited fun v => v.refersByText = true where
  entry _ h e he := (refersByText_map_iff.1 h e he).2
  item _ h := refersByText_list_iff.1 h

theorem text_of_refersByText {ref : Value} (h : v.refersByText = true)
    (hr : v.get? "$ref" = some ref) : ∃ s, ref = .text s := by
  obtain ⟨es, rfl, hm⟩ := mem_of_get? hr
  have htext := (refersByText_map_iff.1 h _ hm).1 rfl
  obtain ⟨s, hs⟩ := Option.isSome_iff_exists.1 htext
  exact ⟨s, isText_iff.1 (by rw [isText, hs, beq_self_eq_true])⟩

end Value

namespace Reference

variable {document v u w : Value} {ref : String} {refs refs' seen : List String}

/-! ## One step -/

theorem reference_cases (v : Value) :
    v.get? "$ref" = none ∨ (∃ s, v.get? "$ref" = some (.text s)) ∨
      ∃ r, v.get? "$ref" = some r ∧ ∀ s, r ≠ .text s := by
  cases hr : v.get? "$ref" with
  | none => exact Or.inl rfl
  | some r =>
    by_cases htext : ∃ s, r = .text s
    · obtain ⟨s, rfl⟩ := htext
      exact Or.inr (Or.inl ⟨s, rfl⟩)
    · exact Or.inr (Or.inr ⟨r, rfl, fun s hs => htext ⟨s, hs⟩⟩)

theorem follow_of_none (hr : v.get? "$ref" = none) : follow document v = .ok v := by
  unfold follow
  split
  · rfl
  all_goals cases hr.symm.trans ‹_›

theorem follow_of_found (hr : v.get? "$ref" = some (.text ref)) (hf : find document ref = .ok w) :
    follow document v = followFrom document w [ref] (references_find_subset hf) := by
  unfold follow
  split
  · cases hr.symm.trans ‹_›
  · cases hr.symm.trans ‹_›
    split
    · rename_i u hu
      cases hf.symm.trans hu
      rfl
    · cases hf.symm.trans ‹_›
  · rename_i r hne hr'
    cases hr.symm.trans hr'
    exact absurd rfl (hne ref)

theorem follow_of_lost {e : Failure} (hr : v.get? "$ref" = some (.text ref))
    (hf : find document ref = .error e) : follow document v = .error e := by
  unfold follow
  split
  · cases hr.symm.trans ‹_›
  · cases hr.symm.trans ‹_›
    split
    · cases hf.symm.trans ‹_›
    · cases hf.symm.trans ‹_›
      rfl
  · rename_i r hne hr'
    cases hr.symm.trans hr'
    exact absurd rfl (hne ref)

theorem follow_of_not_text {r : Value} (hr : v.get? "$ref" = some r) (hne : ∀ s, r ≠ .text s) :
    follow document v = .error (notText r) := by
  unfold follow
  split
  · cases hr.symm.trans ‹_›
  · cases hr.symm.trans ‹_›
    exact absurd rfl (hne _)
  · cases hr.symm.trans ‹_›
    rfl

/-! ## The loop in rounds -/

/-- What following gives within some rounds, the references met before being given; nothing if it
takes longer. -/
def followWithin (document : Value) : Nat → List String → Value → Option (Except Failure Value)
  | 0, _, _ => none
  | rounds + 1, seen, v =>
    match v.get? "$ref" with
    | none => some (.ok v)
    | some (.text ref) =>
      if ref ∈ seen then some (.error (.circularReference ref))
      else match find document ref with
        | .ok w => followWithin document rounds (ref :: seen) w
        | .error e => some (.error e)
    | some ref => some (.error (notText ref))

theorem followWithin_of_not_text {rounds : Nat} {r : Value} (hr : v.get? "$ref" = some r)
    (hne : ∀ s, r ≠ .text s) :
    followWithin document (rounds + 1) seen v = some (.error (notText r)) := by
  rw [followWithin, hr]
  split
  · cases ‹some r = none›
  · exact absurd (Option.some.inj ‹_›) (hne _)
  · rw [Option.some.inj ‹some r = _›]

/-- A value of the document is followed to the end in one round more than there are references that
were not met. -/
theorem followWithin_eq_followFrom (hrefs : document.references ⊆ refs) {rounds : Nat}
    (hin : v.references ⊆ document.references)
    (hrounds : (refs.filter (· ∉ seen)).length ≤ rounds) :
    followWithin document (rounds + 1) seen v = some (followFrom document v seen hin) := by
  fun_induction followFrom document v seen hin generalizing rounds with
  | case1 v seen hin hr => simp only [followWithin, hr]
  | case2 v seen hin ref hr hs => simp only [followWithin, hr, if_pos hs]
  | case3 v seen hin ref hr hs u hf _ ih =>
    -- the reference that is gone along was not met before, and counts as met from here on
    have hmem : ref ∈ refs := hrefs (hin (Value.mem_references_of_get? hr))
    have hless := length_filter_lt hmem hs
    obtain ⟨n, rfl⟩ : ∃ n, rounds = n + 1 := ⟨rounds - 1, by omega⟩
    rw [followWithin]
    simp only [hr, if_neg hs, hf]
    exact ih (by omega)
  | case4 v seen hin ref hr hs e hf => simp only [followWithin, hr, if_neg hs, hf]
  | case5 v seen hin ref hne hr => exact followWithin_of_not_text hr hne

/-- The references in a document and in a value, each of them once. -/
def referencesIn (document v : Value) : List String :=
  (document.references ++ v.references).eraseDups

/-- Every value is followed to the end in one round more than there are references in the document
and in the value. -/
theorem followWithin_eq_follow (document v : Value) :
    followWithin document ((referencesIn document v).length + 1) [] v =
      some (follow document v) := by
  have hdocument : document.references ⊆ referencesIn document v := by
    intro ref href
    exact List.mem_eraseDups.2 (List.mem_append_left _ href)
  rcases reference_cases v with hr | ⟨ref, hr⟩ | ⟨r, hr, hne⟩
  · simp only [followWithin, hr, follow_of_none hr]
  · have hmem : ref ∈ referencesIn document v :=
      List.mem_eraseDups.2 (List.mem_append_right _ (Value.mem_references_of_get? hr))
    have hless := length_filter_lt hmem (List.not_mem_nil (a := ref))
    have hall := List.length_filter_le (· ∉ ([] : List String)) (referencesIn document v)
    rw [followWithin]
    simp only [hr, if_neg List.not_mem_nil]
    cases hf : find document ref with
    | ok u =>
      obtain ⟨n, hn⟩ : ∃ n, (referencesIn document v).length = n + 1 :=
        ⟨(referencesIn document v).length - 1, by omega⟩
      rw [follow_of_found hr hf, hn]
      exact followWithin_eq_followFrom hdocument _ (by omega)
    | error e => rw [follow_of_lost hr hf]
  · rw [followWithin_of_not_text hr hne, follow_of_not_text hr hne]

/-! ## Chains -/

/-- A value leads through references, one after another, to a value. -/
inductive Reaches (document : Value) : Value → List String → Value → Prop where
  | here (v : Value) : Reaches document v [] v
  | next {v u w : Value} {ref : String} {refs : List String}
      (h : v.get? "$ref" = some (.text ref)) (hf : find document ref = .ok u)
      (hu : Reaches document u refs w) : Reaches document v (ref :: refs) w

/-- No reference leads on from a value. -/
def IsEnd (document v : Value) : Prop :=
  ∀ ref w, v.get? "$ref" = some (.text ref) → find document ref ≠ .ok w

theorem leads_iff : Leads document v refs w ↔ Reaches document v refs w ∧ w.get? "$ref" = none := by
  constructor
  · intro h
    induction h with
    | here h => exact ⟨.here _, h⟩
    | next h hf _ ih => exact ⟨.next h hf ih.1, ih.2⟩
  · rintro ⟨h, hw⟩
    induction h with
    | here v => exact .here hw
    | next h hf _ ih => exact .next h hf (ih hw)

namespace Reaches

theorem append (h : Reaches document v refs u) (h' : Reaches document u refs' w) :
    Reaches document v (refs ++ refs') w := by
  induction h with
  | here v => exact h'
  | next h hf _ ih => exact .next h hf (ih h')

/-- There is one chain: of two ways to go along it, one is the beginning of the other. -/
theorem linear (h : Reaches document v refs u) (h' : Reaches document v refs' w) :
    (∃ rest, refs' = refs ++ rest ∧ Reaches document u rest w) ∨
      ∃ rest, refs = refs' ++ rest ∧ Reaches document w rest u := by
  induction h generalizing refs' with
  | here v => exact Or.inl ⟨refs', rfl, h'⟩
  | @next v u₁ u ref refs hv hf hu ih =>
    cases h' with
    | here v => exact Or.inr ⟨ref :: refs, rfl, .next hv hf hu⟩
    | next hv' hf' hu' =>
      cases hv.symm.trans hv'
      cases hf.symm.trans hf'
      rcases ih hu' with ⟨rest, rfl, hrest⟩ | ⟨rest, rfl, hrest⟩
      · exact Or.inl ⟨rest, rfl, hrest⟩
      · exact Or.inr ⟨rest, rfl, hrest⟩

theorem eq_of_isEnd (h : Reaches document v refs w) (hv : IsEnd document v) :
    refs = [] ∧ w = v := by
  cases h with
  | here v => exact ⟨rfl, rfl⟩
  | next hr hf _ => exact absurd hf (hv _ _ hr)

/-- A chain to an end goes at least as far as any other. -/
theorem prefix_of_isEnd (h : Reaches document v refs u) (hu : IsEnd document u)
    (h' : Reaches document v refs' w) :
    ∃ rest, refs = refs' ++ rest ∧ Reaches document w rest u := by
  rcases h.linear h' with ⟨rest, rfl, hrest⟩ | hrest
  · obtain ⟨rfl, rfl⟩ := hrest.eq_of_isEnd hu
    exact ⟨[], by simp, .here _⟩
  · exact hrest

/-- A chain ends in one place only. -/
theorem end_unique (h : Reaches document v refs u) (hu : IsEnd document u)
    (h' : Reaches document v refs' w) (hw : IsEnd document w) : u = w := by
  obtain ⟨rest, -, hrest⟩ := h.prefix_of_isEnd hu h'
  exact (hrest.eq_of_isEnd hw).2

/-- From each of its references a chain goes on to where it comes. -/
theorem of_mem (h : Reaches document v refs w) (hm : ref ∈ refs) :
    ∃ u rest, find document ref = .ok u ∧ Reaches document u rest w ∧
      rest.length < refs.length := by
  induction h with
  | here v => cases hm
  | @next v u w r refs hv hf hu ih =>
    rcases List.mem_cons.1 hm with rfl | hm
    · exact ⟨u, refs, hf, hu, Nat.lt_succ_self _⟩
    · obtain ⟨u', rest, hf', hu', hlen⟩ := ih hm
      exact ⟨u', rest, hf', hu', Nat.lt_succ_of_lt hlen⟩

/-- A chain to an end holds each reference once. -/
theorem nodup (h : Reaches document v refs w) (hw : IsEnd document w) : refs.Nodup := by
  induction h with
  | here v => exact List.nodup_nil
  | @next v u w r refs hv hf hu ih =>
    refine List.nodup_cons.2 ⟨fun hm => ?_, ih hw⟩
    obtain ⟨u', rest, hf', hu', hlen⟩ := hu.of_mem hm
    -- the reference leads to one value, whose way to the end would be shorter than itself
    cases hf.symm.trans hf'
    obtain ⟨more, rfl, hmore⟩ := hu'.prefix_of_isEnd hw hu
    rw [List.length_append] at hlen
    omega

end Reaches

/-! ## Where chains fail -/

/-- Following fails at a value, the references met before being given: the value refers to one of
them, or to nothing, or by no text. -/
def FailsAt (document : Value) (met : List String) (v : Value) (e : Failure) : Prop :=
  (∃ ref ∈ met, v.get? "$ref" = some (.text ref) ∧ e = .circularReference ref) ∨
  (∃ ref, ref ∉ met ∧ v.get? "$ref" = some (.text ref) ∧ find document ref = .error e) ∨
  ∃ r, v.get? "$ref" = some r ∧ (∀ s, r ≠ .text s) ∧ e = notText r

theorem FailsAt.congr {met met' : List String} {e : Failure} (h : FailsAt document met v e)
    (hmet : ∀ ref, ref ∈ met ↔ ref ∈ met') : FailsAt document met' v e := by
  rcases h with ⟨ref, hm, hr, he⟩ | ⟨ref, hm, hr, he⟩ | hother
  · exact Or.inl ⟨ref, (hmet ref).1 hm, hr, he⟩
  · exact Or.inr (Or.inl ⟨ref, mt (hmet ref).2 hm, hr, he⟩)
  · exact Or.inr (Or.inr hother)

theorem followFrom_eq_error {e : Failure} (hin : v.references ⊆ document.references)
    (h : followFrom document v seen hin = .error e) :
    ∃ refs u, Reaches document v refs u ∧ refs.Nodup ∧ refs.Disjoint seen ∧
      FailsAt document (refs ++ seen) u e := by
  fun_induction followFrom document v seen hin with
  | case1 v seen hin hr => cases h
  | case2 v seen hin ref hr hs =>
    cases h
    exact ⟨[], v, .here v, List.nodup_nil, List.disjoint_nil_left _, Or.inl ⟨ref, hs, hr, rfl⟩⟩
  | case3 v seen hin ref hr hs u hf _ ih =>
    obtain ⟨refs, w, hreaches, hnodup, hdisjoint, hfails⟩ := ih h
    obtain ⟨hnew, hseen⟩ := List.disjoint_cons_right.1 hdisjoint
    refine ⟨ref :: refs, w, .next hr hf hreaches, List.nodup_cons.2 ⟨hnew, hnodup⟩,
      List.disjoint_cons_left.2 ⟨hs, hseen⟩, hfails.congr fun r => ?_⟩
    simp only [List.mem_append, List.mem_cons]
    tauto
  | case4 v seen hin ref hr hs e hf =>
    cases h
    exact ⟨[], v, .here v, List.nodup_nil, List.disjoint_nil_left _,
      Or.inr (Or.inl ⟨ref, hs, hr, hf⟩)⟩
  | case5 v seen hin r hne hr =>
    cases h
    exact ⟨[], v, .here v, List.nodup_nil, List.disjoint_nil_left _,
      Or.inr (Or.inr ⟨r, hr, hne, rfl⟩)⟩

/-- If following fails, it does so at a value that it comes to through distinct references. -/
theorem follow_eq_error {e : Failure} (h : follow document v = .error e) :
    ∃ refs u, Reaches document v refs u ∧ refs.Nodup ∧ FailsAt document refs u e := by
  rcases reference_cases v with hr | ⟨ref, hr⟩ | ⟨r, hr, hne⟩
  · rw [follow_of_none hr] at h
    cases h
  · cases hf : find document ref with
    | ok w =>
      rw [follow_of_found hr hf] at h
      obtain ⟨refs, u, hreaches, hnodup, hdisjoint, hfails⟩ := followFrom_eq_error _ h
      have hnew : ref ∉ refs := List.disjoint_singleton.1 hdisjoint
      refine ⟨ref :: refs, u, .next hr hf hreaches, List.nodup_cons.2 ⟨hnew, hnodup⟩,
        hfails.congr fun r => ?_⟩
      simp only [List.mem_append, List.mem_cons, List.not_mem_nil, or_false]
      exact or_comm
    | error e' =>
      rw [follow_of_lost hr hf] at h
      cases h
      exact ⟨[], v, .here v, List.nodup_nil, Or.inr (Or.inl ⟨ref, List.not_mem_nil, hr, hf⟩)⟩
  · rw [follow_of_not_text hr hne] at h
    cases h
    exact ⟨[], v, .here v, List.nodup_nil, Or.inr (Or.inr ⟨r, hr, hne, rfl⟩)⟩

/-! ## How chains end -/

/-- The chain from a value comes back to one of its references. -/
def ComesBack (document v : Value) : Prop :=
  ∃ refs u, Reaches document v refs u ∧ ¬ refs.Nodup

/-- The chain from a value comes to a reference that cannot be followed. -/
def BreaksWith (document v : Value) (e : Failure) : Prop :=
  ∃ refs u ref, Reaches document v refs u ∧ u.get? "$ref" = some (.text ref) ∧
    find document ref = .error e

/-- The chain from a value comes to one that is no reference. -/
def EndsAt (document v w : Value) : Prop :=
  ∃ refs, Reaches document v refs w ∧ w.get? "$ref" = none

theorem isEnd_of_none (h : v.get? "$ref" = none) : IsEnd document v := by
  intro ref w hr
  cases h.symm.trans hr

theorem isEnd_of_lost {e : Failure} (hr : v.get? "$ref" = some (.text ref))
    (hf : find document ref = .error e) : IsEnd document v := by
  intro ref' w hr' hf'
  cases hr.symm.trans hr'
  cases hf.symm.trans hf'

theorem isEnd_of_not_text {r : Value} (hr : v.get? "$ref" = some r) (hne : ∀ s, r ≠ .text s) :
    IsEnd document v := by
  intro ref w hr' _
  cases hr.symm.trans hr'
  exact hne ref rfl

theorem follow_eq_ok_iff_endsAt : follow document v = .ok w ↔ EndsAt document v w := by
  rw [follow_eq_ok_iff]
  exact exists_congr fun refs => leads_iff

/-- A chain that comes back does not come to an end. -/
theorem not_isEnd_of_comesBack (h : ComesBack document v) (hu : Reaches document v refs u) :
    ¬ IsEnd document u := by
  obtain ⟨refs', w, hw, hback⟩ := h
  intro hend
  obtain ⟨rest, rfl, -⟩ := hu.prefix_of_isEnd hend hw
  exact hback (List.nodup_append.1 (hu.nodup hend)).1

/-- A chain that meets one of its references again comes back. -/
theorem comesBack_of_mem (h : Reaches document v refs u) (hr : u.get? "$ref" = some (.text ref))
    (hm : ref ∈ refs) : ComesBack document v := by
  obtain ⟨w, -, hf, -, -⟩ := h.of_mem hm
  refine ⟨refs ++ [ref], w, h.append (.next hr hf (.here w)), fun hnodup => ?_⟩
  exact (List.nodup_append.1 hnodup).2.2 ref hm ref List.mem_cons_self rfl

/-- A chain fails because it comes back, because it breaks, or at a reference that is no text. -/
theorem cases_of_follow_eq_error {e : Failure} (h : follow document v = .error e) :
    (ComesBack document v ∧ ∃ ref, e = .circularReference ref) ∨ BreaksWith document v e ∨
      ∃ refs u r, Reaches document v refs u ∧ u.get? "$ref" = some r ∧ ∀ s, r ≠ .text s := by
  obtain ⟨refs, u, hu, -, ⟨ref, hm, hr, rfl⟩ | ⟨ref, -, hr, hlost⟩ | ⟨r, hr, hne, -⟩⟩ :=
    follow_eq_error h
  · exact Or.inl ⟨comesBack_of_mem hu hr hm, ref, rfl⟩
  · exact Or.inr (Or.inl ⟨refs, u, ref, hu, hr, hlost⟩)
  · exact Or.inr (Or.inr ⟨refs, u, r, hu, hr, hne⟩)

theorem follow_of_comesBack (h : ComesBack document v) :
    ∃ ref, follow document v = .error (.circularReference ref) := by
  cases hf : follow document v with
  | ok w =>
    obtain ⟨refs, hw, hnone⟩ := follow_eq_ok_iff_endsAt.1 hf
    exact absurd (isEnd_of_none hnone) (not_isEnd_of_comesBack h hw)
  | error e =>
    obtain ⟨-, ref, rfl⟩ | ⟨refs, u, ref, hu, hr, hlost⟩ | ⟨refs, u, r, hu, hr, hne⟩ :=
      cases_of_follow_eq_error hf
    · exact ⟨ref, rfl⟩
    · exact absurd (isEnd_of_lost hr hlost) (not_isEnd_of_comesBack h hu)
    · exact absurd (isEnd_of_not_text hr hne) (not_isEnd_of_comesBack h hu)

theorem follow_of_breaksWith {e : Failure} (h : BreaksWith document v e) :
    follow document v = .error e := by
  obtain ⟨refs, u, ref, hu, hr, hlost⟩ := h
  have hend : IsEnd document u := isEnd_of_lost hr hlost
  cases hf : follow document v with
  | ok w =>
    obtain ⟨refs', hw, hnone⟩ := follow_eq_ok_iff_endsAt.1 hf
    cases hu.end_unique hend hw (isEnd_of_none hnone)
    cases hr.symm.trans hnone
  | error e' =>
    obtain ⟨hback, -⟩ | ⟨refs', w, ref', hw, hr', hlost'⟩ | ⟨refs', w, r, hw, hr', hne⟩ :=
      cases_of_follow_eq_error hf
    · exact absurd hend (not_isEnd_of_comesBack hback hu)
    · cases hu.end_unique hend hw (isEnd_of_lost hr' hlost')
      cases hr.symm.trans hr'
      cases hlost.symm.trans hlost'
      rfl
    · cases hu.end_unique hend hw (isEnd_of_not_text hr' hne)
      cases hr.symm.trans hr'
      exact absurd rfl (hne ref)

theorem refersByText_of_reaches (hdocument : document.refersByText = true)
    (hv : v.refersByText = true) (h : Reaches document v refs w) : w.refersByText = true := by
  induction h with
  | here v => exact hv
  | next _ hf _ ih => exact ih (Value.isInherited_refersByText.find hdocument hf)

/-- Wherever a chain of references that are texts fails, it comes back or breaks. -/
theorem comesBack_or_breaksWith {e : Failure} (hdocument : document.refersByText = true)
    (hv : v.refersByText = true) (h : follow document v = .error e) :
    (ComesBack document v ∧ ∃ ref, e = .circularReference ref) ∨ BreaksWith document v e := by
  obtain hback | hbreak | ⟨refs, u, r, hu, hr, hne⟩ := cases_of_follow_eq_error h
  · exact Or.inl hback
  · exact Or.inr hbreak
  · have htext := refersByText_of_reaches hdocument hv hu
    obtain ⟨s, rfl⟩ := Value.text_of_refersByText htext hr
    exact absurd rfl (hne s)

/-- Following references in a document takes at most one round more than it and the value hold
different references. It fails if the chain comes back, with the failure of the reference at which
it breaks, or gives the first value on the way that is no reference. Such a value is its own end,
and the end of a reference is that of what it leads to. -/
theorem chain_ends {document v : Value} (hdocument : document.refersByText = true)
    (hv : v.refersByText = true) :
    followWithin document ((referencesIn document v).length + 1) [] v =
        some (follow document v) ∧
      (ComesBack document v → ∃ ref, follow document v = .error (.circularReference ref)) ∧
      (∀ e, BreaksWith document v e → follow document v = .error e) ∧
      (∀ w, EndsAt document v w → follow document v = .ok w) ∧
      (ComesBack document v ∨ (∃ e, BreaksWith document v e) ∨ ∃ w, EndsAt document v w) ∧
      (∀ e, follow document v = .error e → e.IsLost) ∧
      (∀ w, follow document v = .ok w → w.get? "$ref" = none ∧ follow document w = .ok w) ∧
      ∀ ref w, follow document (.record [("$ref", .text ref)]) = .ok w →
        ∃ u, find document ref = .ok u ∧ follow document u = .ok w := by
  refine ⟨followWithin_eq_follow document v, follow_of_comesBack, fun e => follow_of_breaksWith,
    fun w => follow_eq_ok_iff_endsAt.2, ?_, fun e he => ?_, fun w hw => ?_, fun ref w hw => ?_⟩
  · cases hf : follow document v with
    | ok w => exact Or.inr (Or.inr ⟨w, follow_eq_ok_iff_endsAt.1 hf⟩)
    | error e =>
      rcases comesBack_or_breaksWith hdocument hv hf with ⟨hback, -⟩ | hbreak
      · exact Or.inl hback
      · exact Or.inr (Or.inl ⟨e, hbreak⟩)
  · rcases comesBack_or_breaksWith hdocument hv he with ⟨-, ref, rfl⟩ | ⟨_, _, ref, _, _, hlost⟩
    · exact Failure.IsDeadEnd.isLost trivial
    · exact isLost_find e hlost
  · have hnone := get?_of_follow hw
    exact ⟨hnone, follow_of_none hnone⟩
  · exact (follow_reference_eq_ok_iff rfl).1 hw

/-- A reference as it stands in a document. -/
def linkTo (ref : String) : Value := .record [("$ref", .text ref)]

/-- A document with a chain that ends at a wheel, one that comes back, and one that breaks. -/
def carriage : Value :=
  .record [
    ("front", linkTo "#/wheels/-1"), ("rear", linkTo "#/front"),
    ("wheels", .list [linkTo "#/rear", .record [("spokes", .int 12)]]),
    ("left", linkTo "#/right"), ("right", linkTo "#/left"), ("lamp", linkTo "#/wheels/2")]

/-- The rear wheel is the front wheel, the sides lead to one another, and there is no lamp. -/
theorem chain_ends_carriage :
    carriage.refersByText = true ∧ (referencesIn carriage (linkTo "#/rear")).length = 6 ∧
      (followWithin carriage 7 [] (linkTo "#/rear")).isSome = true ∧
      follow carriage (linkTo "#/rear") = .ok (.record [("spokes", .int 12)]) ∧
      (∃ ref, follow carriage (linkTo "#/left") = .error (.circularReference ref)) ∧
      follow carriage (linkTo "#/lamp") = .error (.referenceIndex "#/wheels/2" "2") := by
  have hcarriage : carriage.refersByText = true := by decide
  have hcount : (referencesIn carriage (linkTo "#/rear")).length = 6 := by decide
  have hrear := chain_ends (v := linkTo "#/rear") hcarriage (by decide)
  have hleft := chain_ends (v := linkTo "#/left") hcarriage (by decide)
  have hlamp := chain_ends (v := linkTo "#/lamp") hcarriage (by decide)
  refine ⟨hcarriage, hcount, ?_, ?_, ?_, ?_⟩
  · have hrounds := hrear.1
    rw [hcount] at hrounds
    rw [hrounds]
    rfl
  · refine hrear.2.2.2.1 _ ⟨["#/rear", "#/front", "#/wheels/-1"], ?_, rfl⟩
    exact .next rfl rfl (.next rfl rfl (.next rfl rfl (.here _)))
  · refine hleft.2.1 ⟨["#/left", "#/right", "#/left"], linkTo "#/right", ?_, by decide⟩
    exact .next rfl rfl (.next rfl rfl (.next rfl rfl (.here _)))
  · refine hlamp.2.2.1 _ ⟨["#/lamp"], linkTo "#/wheels/2", "#/wheels/2", ?_, rfl, rfl⟩
    exact .next rfl rfl (.here _)

end Reference

end ApiModel
