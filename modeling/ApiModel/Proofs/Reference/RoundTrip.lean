import ApiModel.Failure
import ApiModel.Proofs.Reference.Name
import ApiModel.Proofs.Trace

/-!
# Names and references, to and fro

A name is written into a reference and read off it again. Writing loses nothing, so the name comes
back, and two names never share a reference. Reading is more generous: a tilde that stands before
neither a zero nor a one is read as itself, and comes back as `~0`. So a reference comes back
exactly if it has no such tilde.

Results:

* `unescape_eq_passes`, `escape_eq_passes`: reading and writing a segment in one pass is the same as
  replacing one kind of escape after the other.
* `escape_unescape_iff`: which segments come back when they are read and written again.
* `names_and_references`: how names and references are turned into each other.
-/

namespace ApiModel.Reference

variable {container : String} {segment cs : List Char} {c d : Char}

/-! ## Two passes -/

/-- A text in which each tilde with a mark after it is replaced by a character, from the left. -/
def unmark (mark c : Char) : List Char → List Char
  | [] => []
  | [d] => [d]
  | d :: d' :: r =>
    if d = '~' ∧ d' = mark then c :: unmark mark c r else d :: unmark mark c (d' :: r)

/-- A text in which each occurrence of a character is replaced by a tilde and a mark. -/
def remark (mark c : Char) (cs : List Char) : List Char :=
  cs.flatMap fun d => if d = c then ['~', mark] else [d]

theorem unmark_cons_of_ne {mark c d : Char} (h : d ≠ '~') (r : List Char) :
    unmark mark c (d :: r) = d :: unmark mark c r := by
  cases r with
  | nil => rfl
  | cons d' r => rw [unmark, if_neg fun hd => h hd.1]

/-- What the first pass leaves does not begin with a zero unless the text did. -/
theorem head_unmark_slash (h : cs.head? ≠ some '0') : (unmark '1' '/' cs).head? ≠ some '0' := by
  match cs with
  | [] => exact h
  | [d] => exact h
  | d :: d' :: r =>
    rw [unmark]
    split
    · simp
    · exact h

/-- A tilde is left alone by a pass if no mark follows. -/
theorem unmark_tilde {mark c : Char} (h : cs.head? ≠ some mark) :
    unmark mark c ('~' :: cs) = '~' :: unmark mark c cs := by
  cases cs with
  | nil => rfl
  | cons d r =>
    have hd : d ≠ mark := fun hd => h (by rw [hd, List.head?_cons])
    rw [unmark, if_neg fun hm => hd hm.2]

/-- Reading a segment is replacing each `~1` by a slash and then each `~0` by a tilde. -/
theorem unescape_eq_passes (cs : List Char) :
    unescape cs = unmark '0' '~' (unmark '1' '/' cs) := by
  fun_induction unescape cs with
  | case1 => rfl
  | case2 r ih =>
    rw [unmark, if_pos ⟨rfl, rfl⟩, unmark_cons_of_ne (by decide), ← ih]
  | case3 r ih =>
    -- the first pass steps over the tilde and its zero, the second takes them
    rw [unmark_tilde (by simp), unmark_cons_of_ne (d := '0') (by decide), unmark,
      if_pos ⟨rfl, rfl⟩, ← ih]
  | case4 c r hone hzero ih =>
    by_cases hc : c = '~'
    · have hone' : r.head? ≠ some '1' := fun h => by
        obtain ⟨r', rfl⟩ := List.head?_eq_some_iff.1 h
        exact hone r' hc rfl
      have hzero' : r.head? ≠ some '0' := fun h => by
        obtain ⟨r', rfl⟩ := List.head?_eq_some_iff.1 h
        exact hzero r' hc rfl
      rw [hc, unmark_tilde hone', unmark_tilde (head_unmark_slash hzero'), ih]
    · rw [unmark_cons_of_ne hc, unmark_cons_of_ne hc, ih]

/-- Writing a segment is replacing each tilde by `~0` and then each slash by `~1`. -/
theorem escape_eq_passes (cs : List Char) : escape cs = remark '1' '/' (remark '0' '~' cs) := by
  unfold remark escape
  rw [List.flatMap_assoc]
  congr 1
  funext c
  by_cases hc : c = '~'
  · subst hc
    rfl
  · simp [escapeChar, hc]

/-! ## Segments that come back -/

/-- Every tilde of a segment stands before a zero or a one. -/
def TildesMarked (segment : List Char) : Prop :=
  ∀ before after, segment = before ++ '~' :: after →
    after.head? = some '0' ∨ after.head? = some '1'

theorem tildesMarked_nil : TildesMarked [] := by
  intro before after h
  cases before <;> cases h

theorem tildesMarked_cons_iff :
    TildesMarked (c :: cs) ↔
      (c = '~' → cs.head? = some '0' ∨ cs.head? = some '1') ∧ TildesMarked cs := by
  constructor
  · intro h
    refine ⟨?_, fun before after hcs => ?_⟩
    · rintro rfl
      exact h [] cs rfl
    · exact h (c :: before) after (by rw [hcs, List.cons_append])
  · rintro ⟨hhead, hrest⟩ before after h
    cases before with
    | nil =>
      cases h
      exact hhead rfl
    | cons d before =>
      cases h
      exact hrest before after rfl

theorem tildesMarked_cons_of_ne (h : c ≠ '~') : TildesMarked (c :: cs) ↔ TildesMarked cs := by
  rw [tildesMarked_cons_iff]
  exact and_iff_right fun hc => absurd hc h

/-- A segment that is read and written again comes back exactly if its tildes are marked. -/
theorem escape_unescape_iff (h : '/' ∉ segment) :
    escape (unescape segment) = segment ↔ TildesMarked segment := by
  fun_induction unescape segment with
  | case1 => exact iff_of_true rfl tildesMarked_nil
  | case2 r ih =>
    simp only [List.mem_cons, not_or] at h
    have hwritten : escape ('/' :: unescape r) = '~' :: '1' :: escape (unescape r) := rfl
    rw [hwritten, List.cons.injEq, List.cons.injEq, ih h.2.2, tildesMarked_cons_iff,
      tildesMarked_cons_of_ne (by decide)]
    simp
  | case3 r ih =>
    simp only [List.mem_cons, not_or] at h
    have hwritten : escape ('~' :: unescape r) = '~' :: '0' :: escape (unescape r) := rfl
    rw [hwritten, List.cons.injEq, List.cons.injEq, ih h.2.2, tildesMarked_cons_iff,
      tildesMarked_cons_of_ne (by decide)]
    simp
  | case4 c r hone hzero ih =>
    simp only [List.mem_cons, not_or] at h
    by_cases hc : c = '~'
    · -- the tilde comes back as `~0`, and no zero follows it
      have hwritten : escape (c :: unescape r) = '~' :: '0' :: escape (unescape r) := by
        rw [hc]
        rfl
      refine iff_of_false (fun heq => ?_) fun hmarked => ?_
      · rw [hwritten, List.cons.injEq] at heq
        exact hzero _ hc heq.2.symm
      · rcases (tildesMarked_cons_iff.1 hmarked).1 hc with hhead | hhead
        · obtain ⟨r', rfl⟩ := List.head?_eq_some_iff.1 hhead
          exact hzero r' hc rfl
        · obtain ⟨r', rfl⟩ := List.head?_eq_some_iff.1 hhead
          exact hone r' hc rfl
    · have hwritten : escape (c :: unescape r) = c :: escape (unescape r) := by
        simp [escape, escapeChar, hc, Ne.symm h.1]
      rw [hwritten, List.cons.injEq, ih h.2, tildesMarked_cons_of_ne hc]
      simp

/-! ## References -/

/-- A reference leads to one segment only. -/
theorem LeadsTo.unique {ref : Value} {segment' : List Char} (h : LeadsTo container segment ref)
    (h' : LeadsTo container segment' ref) : segment = segment' := by
  have heq := h.1.symm.trans h'.1
  rw [Value.scalar.injEq, Scalar.text.injEq] at heq
  exact List.append_cancel_left (String.ofList_injective heq)

/-- The reference to the name that a segment gives is the one with the segment, if that comes back
when it is read and written again. -/
theorem reference_unescape_iff :
    reference container (String.ofList (unescape segment)) =
        String.ofList (start container ++ segment) ↔
      escape (unescape segment) = segment := by
  unfold reference
  rw [String.toList_ofList, String.ofList_inj, List.append_right_inj]

/-- What does not lead to a segment is refused; the refusal quotes it, which comes to light as a bad
value if it has no written form. -/
theorem nameOf_surfaced_eq_error_iff {ref : Value} {e : Failure} :
    (nameOf container ref).mapError Failure.surfaced = .error e ↔
      (∀ segment, ¬ LeadsTo container segment ref) ∧
        (ref.isSayable = true ∧ e = .malformedReference ref (some container) ∨
          ref.isSayable = false ∧ e = .fault .badValue) := by
  have hquoted : (Failure.malformedReference ref (some container)).quoted? = some ref := rfl
  rw [mapError_eq_error_iff]
  simp only [nameOf_eq_error_iff, and_assoc, exists_and_left, exists_eq_left,
    Failure.surfaced_eq_iff, hquoted, Option.some.injEq, forall_eq', exists_eq_left']

/-- **Names and references.** In every container a name that is not empty is read off the reference
to it, and different names have different references. Exactly the references that lead to a segment
in the container give a name; any other value is refused as a malformed reference, or as a bad value
if it cannot be written into the refusal. And the reference to the name that a reference gives is
that reference itself exactly if the tildes of its segment are marked. -/
theorem names_and_references (container : String) :
    (∀ name, name ≠ "" → nameOf container (.text (reference container name)) = .ok name) ∧
    Function.Injective (reference container) ∧
    (∀ ref, (∃ name, nameOf container ref = .ok name) ↔ ∃ segment, LeadsTo container segment ref) ∧
    (∀ ref e, (nameOf container ref).mapError Failure.surfaced = .error e ↔
      (∀ segment, ¬ LeadsTo container segment ref) ∧
        (ref.isSayable = true ∧ e = .malformedReference ref (some container) ∨
          ref.isSayable = false ∧ e = .fault .badValue)) ∧
    ∀ ref segment name, LeadsTo container segment ref → nameOf container ref = .ok name →
      (Value.text (reference container name) = ref ↔ TildesMarked segment) := by
  refine ⟨fun name hname => ?_, reference_injective container, fun ref => ?_,
    fun ref e => nameOf_surfaced_eq_error_iff, fun ref segment name hlead hname => ?_⟩
  · rw [nameOf, name_reference hname]
  · simp only [nameOf_eq_ok_iff]
    exact ⟨fun ⟨_, segment, hlead, _⟩ => ⟨segment, hlead⟩,
      fun ⟨segment, hlead⟩ => ⟨_, segment, hlead, rfl⟩⟩
  · obtain ⟨segment', hlead', rfl⟩ := nameOf_eq_ok_iff.1 hname
    obtain rfl := hlead.unique hlead'
    rw [hlead.1, Value.scalar.injEq, Scalar.text.injEq, reference_unescape_iff]
    exact escape_unescape_iff hlead.2.2

/-- A name with both kinds of escapes comes back, and so does its reference. A reference with a
stray tilde gives a name that is written differently. A number that is too long is no reference,
and cannot be complained of. -/
theorem names_and_references_crossing :
    nameOf (Layout.of .openApi3).schemas (.text "#/components/schemas/rail~1road~01") =
        .ok "rail/road~1" ∧
      nameOf (Layout.of .swagger2).parameters (.text "#/parameters/~2") = .ok "~2" ∧
      reference (Layout.of .swagger2).parameters "~2" ≠ "#/parameters/~2" ∧
      (nameOf (Layout.of .swagger2).parameters (.int (Nat.pow 10 Text.maxDigits))).mapError
        Failure.surfaced = .error (.fault .badValue) := by
  have hcrossing : reference (Layout.of .openApi3).schemas "rail/road~1" =
      "#/components/schemas/rail~1road~01" := by decide
  have hlead : LeadsTo (Layout.of .swagger2).parameters ['~', '2'] (.text "#/parameters/~2") :=
    ⟨congrArg Value.text (by decide), by decide, by decide⟩
  have hstray : nameOf (Layout.of .swagger2).parameters (.text "#/parameters/~2") = .ok "~2" := by
    cbv
  obtain ⟨hname, -⟩ := names_and_references (Layout.of .openApi3).schemas
  obtain ⟨-, -, -, herror, hback⟩ := names_and_references (Layout.of .swagger2).parameters
  refine ⟨?_, hstray, fun heq => ?_, ?_⟩
  · rw [← hcrossing]
    exact hname _ (by decide)
  · have hmarked := (hback _ _ _ hlead hstray).1 (by rw [heq])
    rcases hmarked [] ['2'] rfl with h | h <;> cases h
  · refine (herror _ _).2 ⟨?_, Or.inr ⟨by decide +kernel, rfl⟩⟩
    rintro segment ⟨h, -⟩
    cases h

end ApiModel.Reference
