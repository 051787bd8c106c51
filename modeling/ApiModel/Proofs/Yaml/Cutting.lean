import Mathlib.Data.List.Perm.Basic
import ApiModel.Yaml.Lexer
import ApiModel.Proofs.Yaml.Forward

/-!
# Cutting goes forward

The lexer goes forward in the text, and every token that starts a collection costs it a character
that can. So a text has at least as many of those characters as its tokens start collections, and
what stands in the way of more tokens is a flaw of the text.

Results:

* `steps_token`: one step of the lexer.
* `fits_tokens`: what stands in the way is a flaw of the text, and the characters that can start
  collections are as many as those that are started.
-/

namespace ApiModel.Yaml

/-! ## Counting -/

/-- Whether a token starts a collection. -/
def Token.starts : Token → Bool
  | .flowListStart | .flowMapStart | .blockListStart | .blockMapStart => true
  | _ => false

/-- The number of collections that tokens start. -/
def starts (ts : Array Token) : Nat := ts.toList.countP Token.starts

/-- Whether a character can start a collection: a bracket or brace, or the mark of an item, a key or
a value. -/
def isMark (c : Char) : Bool := c == '[' || c == '\x7b' || c == '-' || c == '?' || c == ':'

/-- The number of characters of a text that can start a collection. -/
def marks (cs : List Char) : Nat := cs.countP isMark

theorem starts_push (ts : Array Token) (t : Token) :
    starts (ts.push t) = starts ts + if t.starts then 1 else 0 := by
  simp [starts, List.countP_append, List.countP_singleton]

theorem starts_push_le (ts : Array Token) (t : Token) : starts (ts.push t) ≤ starts ts + 1 := by
  rw [starts_push]
  split <;> omega

theorem starts_push_of_not {t : Token} (ht : t.starts = false) (ts : Array Token) :
    starts (ts.push t) = starts ts := by
  rw [starts_push, ht]
  rfl

theorem starts_insert_le (ts : Array Token) (i : Nat) (t : Token) :
    starts (ts.insertIdxIfInBounds i t) ≤ starts (ts.push t) := by
  rw [starts_push]
  unfold Array.insertIdxIfInBounds
  split
  · rename_i h
    rw [starts, Array.toList_insertIdx, (List.perm_insertIdx t ts.toList h).countP_eq,
      List.countP_cons]
    exact Nat.le_refl _
  · exact Nat.le_add_right _ _

theorem starts_extract_le (ts : Array Token) (i j : Nat) : starts (ts.extract i j) ≤ starts ts := by
  rw [starts, Array.toList_extract]
  exact ((List.take_sublist _ _).trans (List.drop_sublist _ _)).countP_le

namespace Lexer

variable {cs : List Char} {l l' l'' : Lexer} {t : Token}

/-! ## One state after another -/

/-- A state comes after another: its place does, and each collection that was started in between
took a character that can. -/
structure Follows (l l' : Lexer) : Prop where
  /-- The place comes after the other. -/
  place : l'.cursor.In l.cursor.rest
  /-- Characters were taken for the collections. -/
  starts : starts l'.tokens + marks l'.cursor.rest ≤ starts l.tokens + marks l.cursor.rest

theorem Follows.trans (h : Follows l l') (h' : Follows l' l'') : Follows l l'' :=
  ⟨h'.place.trans h.place, Nat.le_trans h'.starts h.starts⟩

/-- A state that starts no collection comes after one whose place it is at or after. -/
theorem follows_of_in (hplace : l'.cursor.In l.cursor.rest)
    (hstarts : Yaml.starts l'.tokens ≤ Yaml.starts l.tokens) : Follows l l' :=
  ⟨hplace, Nat.add_le_add hstarts hplace.sublist.countP_le⟩

/-- A state that starts one collection comes after one at a character that can. -/
theorem follows_of_mark (hmark : isMark l.cursor.peek = true)
    (hcursor : l'.cursor = l.cursor.forward)
    (hstarts : Yaml.starts l'.tokens ≤ Yaml.starts l.tokens + 1) : Follows l l' := by
  have hpeek : l.cursor.peek ≠ theEnd := by
    intro he
    rw [he] at hmark
    cases hmark
  have hrest := Cursor.rest_eq_of_peek hpeek
  have hmarks : marks l.cursor.rest = marks l.cursor.forward.rest + 1 := by
    rw [hrest, marks, List.countP_cons_of_pos hmark]
    rfl
  refine ⟨hcursor ▸ Cursor.In.forward (List.suffix_refl _), ?_⟩
  rw [hcursor, hmarks]
  omega

/-- A step of the lexer: the state after it comes after the one before, or the text has a flaw. -/
def Steps (l : Lexer) (x : Except Refusal Lexer) : Prop :=
  Yields (Follows l) (Flaw l.cursor.rest) x

/-! ## Keys and indentation -/

/-- A state has the place and the tokens of another. -/
def Same (l l' : Lexer) : Prop := l'.cursor = l.cursor ∧ l'.tokens = l.tokens

theorem Same.next (h : Same l l') : l'.cursor.forward.In l.cursor.rest := by
  rw [h.1]
  exact Cursor.In.forward (List.suffix_refl _)

/-- One more token that starts nothing, the place being at or after that of the state. -/
theorem Same.follows_push (h : Same l l') (ht : t.starts = false)
    (hplace : l''.cursor.In l.cursor.rest) (htokens : l''.tokens = l'.tokens.push t) :
    Follows l l'' :=
  follows_of_in hplace (Nat.le_of_eq (by rw [htokens, h.2, starts_push_of_not ht]))

theorem same_dropKey (l : Lexer) : Yields (Same l) (Flaw cs) l.dropKey := by
  unfold dropKey
  split
  · exact .error .malformed
  · exact .ok ⟨rfl, rfl⟩

theorem same_dropStaleKeys (l : Lexer) : Yields (Same l) (Flaw cs) l.dropStaleKeys := by
  unfold dropStaleKeys
  split
  · exact .error .malformed
  · exact .ok ⟨rfl, rfl⟩

theorem same_saveKey (l : Lexer) : Yields (Same l) (Flaw cs) l.saveKey := by
  unfold saveKey
  dsimp only
  split
  · exact (same_dropKey l).bind fun l' hl' => .ok hl'
  · exact .ok ⟨rfl, rfl⟩

theorem unwindTo_keeps (column : Int) (tokens : Array Token) (indent : Int) (outer : List Int)
    (l : Lexer) : (unwindTo column tokens indent outer l).cursor = l.cursor ∧
      Yaml.starts (unwindTo column tokens indent outer l).tokens = Yaml.starts tokens := by
  fun_induction unwindTo column tokens indent outer l with
  | case1 => exact ⟨rfl, rfl⟩
  | case2 tokens indent o outer l hlt ih => exact ⟨ih.1, ih.2.trans (starts_push _ _)⟩
  | case3 => exact ⟨rfl, rfl⟩

theorem unwind_keeps (l : Lexer) (column : Int) :
    (l.unwind column).cursor = l.cursor ∧
      Yaml.starts (l.unwind column).tokens = Yaml.starts l.tokens := by
  unfold unwind
  split
  · exact unwindTo_keeps ..
  · exact ⟨rfl, rfl⟩

theorem beginBlock_keeps (l : Lexer) (column : Int) (place : Nat) (t : Token) :
    (l.beginBlock column place t).cursor = l.cursor ∧
      Yaml.starts (l.beginBlock column place t).tokens ≤ Yaml.starts l.tokens + 1 := by
  unfold beginBlock
  split
  · exact ⟨rfl, Nat.le_trans (starts_insert_le _ _ _) (starts_push_le _ _)⟩
  · exact ⟨rfl, Nat.le_succ _⟩

/-! ## Tokens -/

theorem In.gap {c : Cursor} (h : c.In cs) (inFlow keyAllowed : Bool) :
    (gap inFlow keyAllowed c).2.In cs := by
  fun_induction Lexer.gap inFlow keyAllowed c with
  | case1 => exact h.skipSpaces.skipComment
  | case2 keyAllowed c b next hb hlt ih => exact ih (h.skipSpaces.skipComment.lineBreak? hb)
  | case3 keyAllowed c b next hb hlt => exact h.skipSpaces.skipComment.lineBreak? hb

theorem steps_settle (l : Lexer) : Steps l l.settle := by
  have hgap := In.gap (List.suffix_refl l.cursor.rest) (l.flow != 0) l.keyAllowed
  unfold settle
  split
  rename_i allowed cursor hcursor
  rw [hcursor] at hgap
  refine (same_dropStaleKeys _).bind fun l' hl' => ?_
  obtain ⟨hplace, hstarts⟩ := unwind_keeps l' l'.cursor.column
  refine .ok (follows_of_in ?_ (Nat.le_of_eq (hstarts.trans (congrArg _ hl'.2))))
  rw [hplace, hl'.1]
  exact hgap

theorem steps_documentToken (ht : t.starts = false) {next : Cursor}
    (hnext : next.In l.cursor.rest) : Steps l (l.documentToken t next) := by
  unfold documentToken
  refine (same_dropKey _).bind fun l' hl' => .ok (follows_of_in hnext ?_)
  refine Nat.le_of_eq ((starts_push_of_not ht l'.tokens).trans ?_)
  rw [hl'.2, (unwind_keeps l (-1)).2]

theorem steps_openFlow (hmark : isMark l.cursor.peek = true) : Steps l (l.openFlow t) := by
  unfold openFlow
  refine (same_saveKey l).bind fun l' hl' => .ok (follows_of_mark hmark ?_ ?_)
  · exact congrArg Cursor.forward hl'.1
  · exact Nat.le_trans (starts_push_le l'.tokens t) (Nat.le_of_eq (by rw [hl'.2]))

theorem steps_closeFlow (ht : t.starts = false) : Steps l (l.closeFlow t) := by
  unfold closeFlow
  refine (same_dropKey l).bind fun l' hl' => ?_
  split
  · exact .error .malformed
  · exact .ok (hl'.follows_push ht hl'.next rfl)

theorem steps_commaToken (l : Lexer) : Steps l l.commaToken := by
  unfold commaToken
  refine (same_dropKey _).bind fun l' (hl' : Same l l') => .ok ?_
  exact hl'.follows_push (t := .comma) rfl hl'.next rfl

/-- A mark that may begin a block collection. -/
theorem steps_mark (hmark : isMark l.cursor.peek = true) (allowed : Bool) (ht : t.starts = false)
    {l' : Lexer} (hcursor : l'.cursor = l.cursor)
    (hstarts : Yaml.starts l'.tokens ≤ Yaml.starts l.tokens + 1) :
    Steps l (do
      let l ← { l' with keyAllowed := allowed }.dropKey
      return (l.push t).skip 1) := by
  refine (same_dropKey _).bind fun l'' hl'' => .ok (follows_of_mark hmark ?_ ?_)
  · exact congrArg Cursor.forward (hl''.1.trans hcursor)
  · change Yaml.starts (l''.tokens.push t) ≤ _
    rw [starts_push_of_not ht, hl''.2]
    exact hstarts

theorem beginBlock_keeps_if (l : Lexer) (column : Int) (place : Nat) (t : Token) :
    (if l.flow = 0 then l.beginBlock column place t else l).cursor = l.cursor ∧
      Yaml.starts (if l.flow = 0 then l.beginBlock column place t else l).tokens ≤
        Yaml.starts l.tokens + 1 := by
  split
  · exact beginBlock_keeps ..
  · exact ⟨rfl, Nat.le_succ _⟩

theorem steps_itemToken (hmark : isMark l.cursor.peek = true) : Steps l l.itemToken := by
  obtain ⟨hcursor, hstarts⟩ :=
    beginBlock_keeps_if l l.cursor.column l.tokens.size .blockListStart
  unfold itemToken
  split
  · exact .error .malformed
  · exact steps_mark hmark _ rfl hcursor hstarts

theorem steps_keyToken (hmark : isMark l.cursor.peek = true) : Steps l l.keyToken := by
  obtain ⟨hcursor, hstarts⟩ := beginBlock_keeps_if l l.cursor.column l.tokens.size .blockMapStart
  unfold keyToken
  split
  · exact .error .malformed
  · exact steps_mark hmark _ rfl hcursor hstarts

theorem steps_valueToken (hmark : isMark l.cursor.peek = true) : Steps l l.valueToken := by
  unfold valueToken
  split
  · rename_i k hk
    obtain ⟨hcursor, hstarts⟩ := beginBlock_keeps_if
      { l with keys := l.keys.filter (·.flow != l.flow), keyAllowed := false,
               tokens := l.tokens.insertIdxIfInBounds k.tokens .key }
      k.place.column k.tokens .blockMapStart
    have hkey := starts_insert_le l.tokens k.tokens .key
    rw [starts_push_of_not rfl] at hkey
    refine .ok (follows_of_mark hmark (congrArg Cursor.forward hcursor) ?_)
    refine Nat.le_trans (Nat.le_of_eq (starts_push_of_not rfl _)) ?_
    exact Nat.le_trans hstarts (Nat.add_le_add_right hkey 1)
  · obtain ⟨hcursor, hstarts⟩ := beginBlock_keeps_if l l.cursor.column l.tokens.size .blockMapStart
    split
    · exact .error .malformed
    · exact steps_mark hmark _ rfl hcursor hstarts

theorem steps_inlineToken {read : Cursor → Except Refusal (Token × Cursor)}
    (hread : ∀ cs c, c.In cs →
      Yields (fun p => p.1.starts = false ∧ p.2.In cs) (Flaw cs) (read c)) :
    Steps l (l.inlineToken read) := by
  unfold inlineToken
  refine (same_saveKey l).bind fun l' hl' => ?_
  refine (hread l.cursor.rest l'.cursor ?_).bind fun p hp => .ok ?_
  · rw [hl'.1]
    exact List.suffix_refl _
  · exact hl'.follows_push hp.1 hp.2 rfl

theorem steps_plainToken (l : Lexer) : Steps l l.plainToken := by
  unfold plainToken
  refine (same_saveKey l).bind fun l' hl' => .ok ?_
  refine hl'.follows_push (t := .scalar _ true) rfl ?_ rfl
  refine Cursor.In.plain ?_ _ _ _ _ _
  rw [hl'.1]
  exact List.suffix_refl _

theorem steps_blockToken (l : Lexer) (fold : Bool) : Steps l (l.blockToken fold) := by
  unfold blockToken
  refine (same_dropKey _).bind fun l' (hl' : Same l l') => ?_
  refine (Cursor.reads_block hl'.next fold l'.indent).bind fun p hp => .ok ?_
  exact hl'.follows_push (t := .scalar _ false) rfl hp rfl

theorem isMark_of_peek {ch : Char} (h : l.cursor.peek = ch) (hch : isMark ch = true) :
    isMark l.cursor.peek = true := by
  rw [h]
  exact hch

/-- One step of the lexer. -/
theorem steps_token (l : Lexer) : Steps l l.token := by
  have hin : l.cursor.In l.cursor.rest := List.suffix_refl _
  unfold token
  refine .ite (fun _ => ?directive) fun _ => ?_
  case directive => exact (Cursor.reads_directive hin).bind fun p hp => steps_documentToken rfl hp
  refine .ite (fun _ => steps_documentToken rfl (hin.forwardBy 3)) fun _ => ?_
  refine .ite (fun _ => steps_documentToken rfl (hin.forwardBy 3)) fun _ => ?_
  refine .ite (fun h => steps_openFlow (isMark_of_peek h rfl)) fun _ => ?_
  refine .ite (fun h => steps_openFlow (isMark_of_peek h rfl)) fun _ => ?_
  refine .ite (fun _ => steps_closeFlow rfl) fun _ => ?_
  refine .ite (fun _ => steps_closeFlow rfl) fun _ => ?_
  refine .ite (fun _ => steps_commaToken l) fun _ => ?_
  refine .ite (fun h => steps_itemToken (isMark_of_peek h.1 rfl)) fun _ => ?_
  refine .ite (fun h => steps_keyToken (isMark_of_peek h.1 rfl)) fun _ => ?_
  refine .ite (fun h => steps_valueToken (isMark_of_peek h.1 rfl)) fun _ => ?_
  refine .ite (fun _ => steps_inlineToken fun cs c hc => ?mention) fun _ => ?_
  case mention => exact (Cursor.reads_name hc.forward).bind fun p hp => .ok ⟨rfl, hp⟩
  refine .ite (fun _ => steps_inlineToken fun cs c hc => ?anchor) fun _ => ?_
  case anchor => exact (Cursor.reads_name hc.forward).bind fun p hp => .ok ⟨rfl, hp⟩
  refine .ite (fun _ => steps_inlineToken fun cs c hc => ?tag) fun _ => ?_
  case tag => exact (Cursor.reads_tag hc).bind fun p hp => .ok ⟨rfl, hp⟩
  refine .ite (fun _ => steps_blockToken l false) fun _ => ?_
  refine .ite (fun _ => steps_blockToken l true) fun _ => ?_
  refine .ite (fun _ => steps_inlineToken fun cs c hc => ?quoted) fun _ => ?_
  case quoted => exact (Cursor.reads_quoted hc.forward _ []).bind fun p hp => .ok ⟨rfl, hp⟩
  exact .ite (fun _ => steps_plainToken l) fun _ => .error .malformed

/-! ## Whole texts -/

/-- Tokens fit a text from a state on: what stands in the way is a flaw of the text, and the
collections they start took characters of it. -/
structure Fits (l : Lexer) (ts : Tokens) : Prop where
  /-- What stands in the way. -/
  obstacle : ∀ e, ts.obstacle = some e → Flaw l.cursor.rest e
  /-- The collections. -/
  starts : Yaml.starts ts.found ≤ Yaml.starts l.tokens + marks l.cursor.rest

theorem Fits.before {ts : Tokens} (h : Follows l l') (h' : Fits l' ts) : Fits l ts where
  obstacle e he := (h'.obstacle e he).mono h.place.isInfix
  starts := Nat.le_trans h'.starts h.starts

theorem fits_blocked {r : Refusal} (h : Flaw l.cursor.rest r) : Fits l (l.blocked r) where
  obstacle e he := by
    cases he
    exact h
  starts := Nat.le_trans (starts_extract_le _ _ _) (Nat.le_add_right _ _)

theorem fits_run (l : Lexer) : Fits l l.run := by
  fun_induction run l with
  | case1 l e hsettle => exact fits_blocked ((steps_settle l).of_error hsettle)
  | case2 l s hsettle hend e hdrop => exact fits_blocked ((same_dropKey _).of_error hdrop)
  | case3 l s hsettle hend s' hdrop =>
    have hfollows := (steps_settle l).of_ok hsettle
    have hsame := (@same_dropKey l.cursor.rest (s.unwind (-1))).of_ok hdrop
    refine ⟨nofun, ?_⟩
    dsimp only
    rw [starts_push_of_not rfl, hsame.2, (unwind_keeps s (-1)).2]
    exact Nat.le_trans (Nat.le_add_right _ _) hfollows.starts
  | case4 l s hsettle hend e htoken =>
    have hfollows := (steps_settle l).of_ok hsettle
    exact fits_blocked (((steps_token s).of_error htoken).mono hfollows.place.isInfix)
  | case5 l s hsettle hend s' htoken hlt ih =>
    exact ih.before (((steps_settle l).of_ok hsettle).trans ((steps_token s).of_ok htoken))
  | case6 l => exact fits_blocked .malformed

end Lexer

/-- The tokens of a text fit it. -/
theorem fits_tokens (cs : List Char) :
    (∀ e, (tokens cs).obstacle = some e → Flaw cs e) ∧ starts (tokens cs).found ≤ marks cs := by
  have hstart : ∀ rest, rest <:+ cs →
      (∀ e, (Lexer.start rest).run.obstacle = some e → Flaw cs e) ∧
        starts (Lexer.start rest).run.found ≤ marks cs := by
    intro rest hsuffix
    have hfits := Lexer.fits_run (.start rest)
    refine ⟨fun e he => (hfits.obstacle e he).mono hsuffix.isInfix, ?_⟩
    refine Nat.le_trans hfits.starts ?_
    exact Nat.le_trans (Nat.le_of_eq (Nat.zero_add _)) hsuffix.sublist.countP_le
  unfold tokens
  split
  · refine hstart _ ?_
    split
    · exact List.suffix_cons _ _
    · exact List.suffix_refl _
  · refine ⟨fun e he => ?_, Nat.zero_le _⟩
    cases he
    exact .malformed

end ApiModel.Yaml
