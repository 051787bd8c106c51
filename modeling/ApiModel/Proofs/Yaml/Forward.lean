import ApiModel.Yaml.Literal
import ApiModel.Proofs.Trace

/-!
# Reading scalars and names goes forward

Whatever is read at a place of a YAML text, reading goes on from a later place: what is to come
there is an end of what was to come before. So the place of a fault can be told: the only one that
scalars and names run into is an escape in the text with a code that is none of a character.

Results:

* `reads_quoted`, `reads_block`, `reads_tag`, `reads_directive`: each reader goes forward, and fails
  for a flaw of what is to come.
-/

namespace ApiModel.Yaml

namespace Cursor

/-! ## Places -/

variable {cs : List Char} {c next : Cursor}

/-- A place is in a text: what is to come there is an end of the text. -/
def In (c : Cursor) (cs : List Char) : Prop := c.rest <:+ cs

theorem rest_forward {ch : Char} {r : List Char} (h : c.rest = ch :: r) : c.forward.rest = r := by
  unfold Cursor.forward
  rw [h]
  dsimp only
  split <;> rfl

/-- Before the end of a text stands the next character. -/
theorem rest_eq_of_peek (h : c.peek ≠ theEnd) : c.rest = c.peek :: c.forward.rest := by
  cases hrest : c.rest with
  | nil => exact absurd (by rw [Cursor.peek, hrest]; rfl) h
  | cons ch r =>
    rw [rest_forward hrest, Cursor.peek, hrest]
    rfl

theorem In.forward (h : c.In cs) : c.forward.In cs := by
  unfold Cursor.forward
  split
  · exact h
  · rename_i ch r hr
    have hrest : r <:+ cs := (List.suffix_cons ch r).trans (hr ▸ h)
    split
    · exact hrest
    · exact hrest

theorem In.forwardBy (h : c.In cs) (n : Nat) : (c.forwardBy n).In cs := by
  induction n generalizing c with
  | zero => exact h
  | succ n ih => exact ih h.forward

theorem In.takeWhile (h : c.In cs) (p : Char → Bool) : (c.takeWhile p).2.In cs := h.forwardBy _

theorem In.of_takeWhile {p : Char → Bool} {text : List Char} (h : c.In cs)
    (ht : c.takeWhile p = (text, next)) : next.In cs := by
  have hnext := h.takeWhile p
  rw [ht] at hnext
  exact hnext

theorem In.skipWhile (h : c.In cs) (p : Char → Bool) : (c.skipWhile p).In cs := h.takeWhile p

theorem In.skipSpaces (h : c.In cs) : c.skipSpaces.In cs := h.skipWhile _

theorem In.skipComment (h : c.In cs) : c.skipComment.In cs := by
  unfold Cursor.skipComment
  split
  · exact h.skipWhile _
  · exact h

theorem In.lineBreak? (h : c.In cs) {b : Char} (hb : c.lineBreak? = some (b, next)) :
    next.In cs := by
  unfold Cursor.lineBreak? at hb
  split at hb
  · cases hb
    exact h.forwardBy 2
  · split_ifs at hb <;> cases hb <;> exact h.forward
  · cases hb

theorem In.skipBreak (h : c.In cs) : c.skipBreak.In cs := by
  unfold Cursor.skipBreak
  cases hb : c.lineBreak? with
  | none => exact h
  | some p => exact h.lineBreak? hb

/-! ## Plain scalars -/

theorem In.plainBreaks (h : c.In cs) (done : List Char) : (c.plainBreaks done).2.In cs := by
  fun_induction Cursor.plainBreaks done c with
  | case1 done c start hb => exact h.skipSpaces
  | case2 done c start b next hb hsep => exact h.skipSpaces.lineBreak? hb
  | case3 done c start b next hb hsep hlt ih => exact ih (h.skipSpaces.lineBreak? hb)
  | case4 done c start b next hb hsep hlt => exact h.skipSpaces.lineBreak? hb

theorem In.plainGap (h : c.In cs) : c.plainGap.2.1.In cs := by
  unfold Cursor.plainGap
  split
  rename_i spaces after hspaces
  have hafter := h.of_takeWhile hspaces
  split
  · exact hafter
  · rename_i b next hb
    have hnext := hafter.lineBreak? hb
    split
    · exact hnext
    · have hstop := hnext.plainBreaks []
      split
      all_goals
        rename_i hbreaks
        rw [hbreaks] at hstop
        exact hstop

theorem In.of_plainGap {gap : List Char} {broke : Bool} (h : c.In cs)
    (hgap : c.plainGap = (gap, next, broke)) : next.In cs := by
  have hnext := h.plainGap
  rw [hgap] at hnext
  exact hnext

theorem In.plain (h : c.In cs) (inFlow : Bool) (indent : Int) (done gap : List Char)
    (afterBreak : Bool) : (c.plain inFlow indent done gap afterBreak).2.1.In cs := by
  fun_induction Cursor.plain inFlow indent done gap afterBreak c with
  | case1 => exact h
  | case2 _ _ _ c _ _ _ _ _ _ hgap _ => exact (h.forwardBy _).of_plainGap hgap
  | case3 _ _ _ c _ _ _ _ _ _ hgap _ _ ih => exact ih ((h.forwardBy _).of_plainGap hgap)
  | case4 _ _ _ c _ _ _ _ _ _ hgap _ _ => exact (h.forwardBy _).of_plainGap hgap

end Cursor

/-! ## Flaws -/

/-- A text has an escape that writes a code. -/
def HasCode (cs : List Char) (code : Nat) : Prop :=
  ∃ mark digits values, '\\' :: mark :: digits <:+: cs ∧
    Cursor.codeWidth? mark = some values.length ∧ digits.mapM Cursor.hexDigit? = some values ∧
    Text.ofDigits 16 values = code

/-- What may be wrong with the scalars and names in a text: they are no YAML, or an escape writes a
code that is none of a character. -/
inductive Flaw (cs : List Char) : Refusal → Prop where
  /-- They are no YAML. -/
  | malformed : Flaw cs .malformed
  /-- An escape writes a code beyond those of characters. -/
  | beyond {code : Nat} (h : HasCode cs code) (hcode : 0x110000 ≤ code)
      (hword : code < 0x80000000) : Flaw cs (.fault .badValue)
  /-- An escape writes a code that is larger still. -/
  | overflow {code : Nat} (h : HasCode cs code) (hcode : 0x80000000 ≤ code) :
      Flaw cs (.fault .overflow)

/-- A flaw of a part is one of the whole. -/
theorem Flaw.mono {cs cs' : List Char} {e : Refusal} (h : Flaw cs e) (hcs : cs <:+: cs') :
    Flaw cs' e := by
  have hcode : ∀ {code : Nat}, HasCode cs code → HasCode cs' code := by
    rintro code ⟨mark, digits, values, hescape, hrest⟩
    exact ⟨mark, digits, values, hescape.trans hcs, hrest⟩
  cases h with
  | malformed => exact .malformed
  | beyond h hbeyond hword => exact .beyond (hcode h) hbeyond hword
  | overflow h hword => exact .overflow (hcode h) hword

namespace Cursor

variable {cs : List Char} {c next : Cursor} {α : Type}

/-- Something is read in a text: reading goes on at a place in it, or fails for a flaw. -/
def Reads (cs : List Char) (x : Except Refusal (α × Cursor)) : Prop :=
  Yields (fun p => p.2.In cs) (Flaw cs) x

/-! ## Scalars between marks -/

theorem reads_quotedBreaks (h : c.In cs) (done : List Char) : Reads cs (c.quotedBreaks done) := by
  fun_induction Cursor.quotedBreaks done c with
  | case1 => exact .error .malformed
  | case2 done c hsep start hb => exact .ok (h.skipWhile _)
  | case3 done c hsep start b next hb hlt ih => exact ih ((h.skipWhile _).lineBreak? hb)
  | case4 => exact .error .malformed

theorem reads_quotedGap (h : c.In cs) : Reads cs c.quotedGap := by
  unfold Cursor.quotedGap
  split
  rename_i blanks after hafter
  have hin := h.of_takeWhile hafter
  split
  · rename_i b next hb
    exact (reads_quotedBreaks (hin.lineBreak? hb) []).bind fun p hp => .ok hp
  · split
    · exact .error .malformed
    · exact .ok hin

theorem escapedCode?_eq_some {code : Nat} (h : c.escapedCode? = some (code, next)) :
    ∃ width values, codeWidth? c.peek = some width ∧
      (c.forward.rest.take width).mapM hexDigit? = some values ∧ values.length = width ∧
      Text.ofDigits 16 values = code ∧ c.forward.forwardBy width = next := by
  unfold Cursor.escapedCode? at h
  obtain ⟨width, hwidth, h⟩ := Option.bind_eq_some_iff.1 h
  obtain ⟨values, hvalues, h⟩ := Option.bind_eq_some_iff.1 h
  split at h
  · rename_i hlength
    cases h
    exact ⟨width, values, hwidth, hvalues, hlength, rfl, rfl⟩
  · cases h

/-- A code that is written after a backslash. -/
theorem hasCode_of_escapedCode? {code : Nat} (h : '\\' :: c.rest <:+ cs)
    (hc : c.escapedCode? = some (code, next)) : HasCode cs code := by
  obtain ⟨width, values, hwidth, hvalues, rfl, rfl, -⟩ := escapedCode?_eq_some hc
  refine ⟨c.peek, _, values, List.IsInfix.trans ?_ h.isInfix, hwidth, hvalues, rfl⟩
  have hpeek : c.peek ≠ theEnd := by
    intro he
    rw [he] at hwidth
    cases hwidth
  rw [rest_eq_of_peek hpeek]
  exact List.IsPrefix.isInfix (by simp [List.take_prefix])

theorem In.escapedCode? {code : Nat} (h : c.In cs) (hc : c.escapedCode? = some (code, next)) :
    next.In cs := by
  obtain ⟨width, values, -, -, -, -, rfl⟩ := escapedCode?_eq_some hc
  exact h.forward.forwardBy width

theorem yields_charOfCode {code : Nat} (h : HasCode cs code) :
    Yields (fun _ => True) (Flaw cs) (charOfCode code) := by
  unfold charOfCode
  split
  · exact .error (.overflow h ‹_›)
  · split
    · exact .error (.beyond h ‹_› (Nat.lt_of_not_le ‹_›))
    · split <;> exact .ok trivial

theorem reads_charAt {code : Nat} (h : next.In cs) (hcode : HasCode cs code) :
    Reads cs (charAt code next) := by
  unfold charAt
  split
  · rename_i low stop hlow
    split at hlow
    · unfold Cursor.escapedLowHalf? at hlow
      split at hlow
      · exact .ok (h.forward.escapedCode? (Option.filter_eq_some_iff.1 hlow).1)
      · cases hlow
    · cases hlow
  · exact (yields_charOfCode hcode).bind fun ch _ => .ok h

/-- What is escaped after a backslash. -/
theorem reads_escaped (h : '\\' :: c.rest <:+ cs) : Reads cs c.escaped := by
  have hin : c.In cs := (List.suffix_cons _ _).trans h
  unfold Cursor.escaped
  split
  · exact .ok hin.forward
  · split
    · rename_i code after hcode
      exact reads_charAt (hin.escapedCode? hcode) (hasCode_of_escapedCode? h hcode)
    · exact .error .malformed
  · rename_i hb
    exact reads_quotedBreaks (hin.lineBreak? hb) []
  · exact .error .malformed

theorem reads_quotedPiece (h : c.In cs) {ch : Char} {r : List Char} (hrest : c.rest = ch :: r)
    (double : Bool) (mark : Char) (p : Char → Bool) :
    Reads cs (if ch = mark then .ok ([mark], c.forwardBy 2)
      else if double ∧ ch = '\\' then c.forward.escaped
      else if isGapOrEnd ch then c.quotedGap
      else .ok (c.takeWhile p)) := by
  split
  · exact .ok (h.forwardBy 2)
  · split
    · rename_i hescape
      -- the backslash stands before what is escaped
      have hsuffix : '\\' :: r <:+ cs := by
        rw [← hescape.2, ← hrest]
        exact h
      exact reads_escaped (rest_forward hrest ▸ hsuffix)
    · split
      · exact reads_quotedGap h
      · exact .ok (h.takeWhile p)

/-- A scalar between marks goes forward, and fails only for a flaw. -/
theorem reads_quoted (h : c.In cs) (double : Bool) (done : List Char) :
    Reads cs (c.quoted double done) := by
  fun_induction Cursor.quoted double done c with
  | case1 => exact .error .malformed
  | case2 => exact .ok h.forward
  | case3 done c mark ch r hrest hmark piece e hpiece =>
    exact (reads_quotedPiece h hrest double mark _).of_error hpiece
  | case4 done c mark ch r hrest hmark piece text next hpiece hlt ih =>
    exact ih ((reads_quotedPiece h hrest double mark _).of_ok hpiece)
  | case5 => exact .error .malformed

/-! ## Blocks of lines -/

theorem reads_blockIndicators (h : c.In cs) :
    Yields (fun p => p.2.2.In cs) (Flaw cs) c.blockIndicators := by
  unfold Cursor.blockIndicators
  extract_lets chomping?
  split
  rename_i chomping increment stop hstop
  have hin : stop.In cs := by
    split at hstop
    · split at hstop
      · cases hstop
        exact h.forward.forward
      · cases hstop
        exact h.forward
    · split at hstop
      · cases hstop
        exact h.forward.forward
      · cases hstop
        exact h.forward
    · cases hstop
      exact h
  split
  · exact .error .malformed
  · exact .ok hin

theorem yields_finishLine (h : c.In cs) :
    Yields (fun next => next.In cs) (Flaw cs) c.finishLine := by
  unfold Cursor.finishLine
  dsimp only
  split
  · exact .ok h.skipSpaces.skipComment.skipBreak
  · exact .error .malformed

theorem In.blockStart (h : c.In cs) (done : List Char) (deepest : Nat) :
    (c.blockStart done deepest).2.2.In cs := by
  fun_induction Cursor.blockStart done deepest c with
  | case1 => exact h.skipSpaces
  | case2 done deepest c start deepest' b next hb hlt ih => exact ih (h.skipSpaces.lineBreak? hb)
  | case3 done deepest c start deepest' b next hb hlt => exact h.skipSpaces.lineBreak? hb

theorem In.skipIndent (h : c.In cs) (indent : Nat) : (c.skipIndent indent).In cs := h.forwardBy _

theorem In.blockBreaks (h : c.In cs) (indent : Nat) (done : List Char) :
    (c.blockBreaks indent done).2.In cs := by
  fun_induction Cursor.blockBreaks indent done c with
  | case1 => exact h.skipIndent indent
  | case2 done c start b next hb hlt ih => exact ih ((h.skipIndent indent).lineBreak? hb)
  | case3 done c start b next hb hlt => exact (h.skipIndent indent).lineBreak? hb

theorem In.of_blockBreaks {indent : Nat} {p : Char → Bool} {line breaks : List Char}
    {lineEnd : Cursor} (h : c.In cs) (hline : c.takeWhile p = (line, lineEnd))
    (hbreaks : lineEnd.skipBreak.blockBreaks indent [] = (breaks, next)) : next.In cs := by
  have hnext := (h.of_takeWhile hline).skipBreak.blockBreaks indent []
  rw [hbreaks] at hnext
  exact hnext

theorem In.blockLines (h : c.In cs) (fold : Bool) (indent : Nat) (done breaks : List Char) :
    (c.blockLines fold indent done breaks).2.2.2.In cs := by
  fun_induction Cursor.blockLines fold indent done breaks c with
  | case1 => exact h
  | case2 _ _ c _ _ _ hline _ _ _ _ hbreaks _ _ _ _ ih => exact ih (h.of_blockBreaks hline hbreaks)
  | case3 _ _ c _ _ _ hline _ _ _ _ hbreaks => exact h.of_blockBreaks hline hbreaks
  | case4 _ _ c _ _ _ hline _ _ _ _ hbreaks => exact h.of_blockBreaks hline hbreaks

theorem reads_block (h : c.In cs) (fold : Bool) (parent : Int) :
    Reads cs (c.block fold parent) := by
  unfold Cursor.block
  refine (reads_blockIndicators h).bind fun p hp => ?_
  refine (yields_finishLine hp).bind fun c hc => ?_
  extract_lets least
  split
  rename_i indent breaks c' hstart
  have hc' : c'.In cs := by
    split at hstart
    · cases hstart
      exact hc.blockStart [] 0
    · cases hstart
      exact hc.blockBreaks _ []
  have hlines := hc'.blockLines fold indent [] breaks
  generalize blockLines fold indent [] breaks c' = lines at hlines
  obtain ⟨text, ending, breaks', stop⟩ := lines
  dsimp only
  split <;> exact .ok hlines

/-! ## Names, handles and tags -/

theorem reads_name (h : c.In cs) : Reads cs c.name := by
  unfold Cursor.name
  dsimp only
  split_ifs
  · exact .error .malformed
  · exact .ok (h.takeWhile _)
  · exact .error .malformed

theorem reads_tagHandle (h : c.In cs) : Reads cs c.tagHandle := by
  unfold Cursor.tagHandle
  dsimp only
  split_ifs
  · exact .error .malformed
  · exact .ok h.forward
  · exact .ok (h.forward.takeWhile _).forward
  · exact .error .malformed

theorem reads_percentBytes (h : c.In cs) (done : List UInt8) : Reads cs (c.percentBytes done) := by
  fun_induction Cursor.percentBytes done c with
  | case1 => exact .ok h
  | case2 done c hpercent a b ha hb next hlt ih => exact ih (h.forwardBy 3)
  | case3 => exact .error .malformed
  | case4 => exact .error .malformed

theorem reads_tagPiece (h : c.In cs) (p : Char → Bool) :
    Reads cs (if c.peek = '%' then do
        let (bytes, stop) ← c.percentBytes []
        match Text.decode? bytes with
        | some s => .ok (s.toList, stop)
        | none => .error .malformed
      else .ok (c.takeWhile p)) := by
  split
  · refine (reads_percentBytes h []).bind fun q hq => ?_
    dsimp only
    split
    · exact .ok hq
    · exact .error .malformed
  · exact .ok (h.takeWhile p)

theorem reads_tagText (h : c.In cs) (done : List Char) : Reads cs (c.tagText done) := by
  fun_induction Cursor.tagText done c with
  | case1 => exact .ok h
  | case2 done c htag piece e hpiece =>
    exact (reads_tagPiece h _).of_error hpiece
  | case3 done c htag piece text next hpiece hlt ih =>
    exact ih ((reads_tagPiece h _).of_ok hpiece)
  | case4 done c htag piece text next hpiece hlt =>
    have hin := (reads_tagPiece h _).of_ok hpiece
    exact .ok hin

theorem reads_tagSuffix (h : c.In cs) : Reads cs c.tagSuffix := by
  unfold Cursor.tagSuffix
  refine (reads_tagText h []).bind fun p hp => ?_
  dsimp only
  split
  · exact .error .malformed
  · exact .ok hp

theorem reads_tag (h : c.In cs) : Yields (fun p => p.2.2.In cs) (Flaw cs) c.tag := by
  unfold Cursor.tag
  extract_lets finish word suffix
  have hfinish : ∀ handle text stop, stop.In cs →
      Yields (fun p => p.2.2.In cs) (Flaw cs) (finish (handle, text, stop)) := by
    intro handle text stop hstop
    change Yields _ _ (if _ then _ else _)
    split
    · exact .ok hstop
    · exact .error .malformed
  have hsuffix : ∀ p, p.2.In cs → Yields (fun p => p.2.2.In cs) (Flaw cs) (suffix p) :=
    fun p hp => (reads_tagSuffix hp).bind fun q hq => hfinish _ _ _ hq
  split
  · refine (reads_tagSuffix (h.forwardBy 2)).bind fun q hq => ?_
    dsimp only
    split
    · exact hfinish _ _ _ hq.forward
    · exact .error .malformed
  · split
    · exact hfinish _ _ _ h.forward
    · split
      · exact (reads_tagHandle h).bind hsuffix
      · exact hsuffix ("!", c.forward) h.forward

/-! ## Directives -/

theorem reads_decimal (h : c.In cs) : Reads cs c.decimal := by
  unfold Cursor.decimal
  dsimp only
  split
  · exact .error .malformed
  · exact .ok (h.takeWhile _)

theorem reads_directive (h : c.In cs) : Reads cs c.directive := by
  unfold Cursor.directive
  split
  rename_i word stop hword
  have hstop := h.forward.of_takeWhile hword
  split
  · exact .error .malformed
  · extract_lets finish
    have hfinish : ∀ d stop, stop.In cs → Reads cs (finish (d, stop)) := fun d stop hstop =>
      (yields_finishLine hstop).bind fun next hnext => .ok hnext
    split
    · refine (reads_decimal hstop.skipSpaces).bind fun q hq => ?_
      split
      split
      · exact .error .malformed
      · refine (reads_decimal hq.forward).bind fun r hr => ?_
        split
        split
        · exact hfinish _ _ hr
        · exact .error .malformed
    · split
      · refine (reads_tagHandle hstop.skipSpaces).bind fun q hq => ?_
        split
        split
        · exact .error .malformed
        · refine (reads_tagSuffix hq.skipSpaces).bind fun r hr => ?_
          split
          split
          · exact hfinish _ _ hr
          · exact .error .malformed
      · exact hfinish .other (stop.skipWhile _) (hstop.skipWhile _)

end Cursor

end ApiModel.Yaml
