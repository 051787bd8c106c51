import ApiModel.Json.Read
import ApiModel.Proofs.Text.Newline
import ApiModel.Proofs.Trace
import ApiModel.Text.Blank
import Mathlib.Data.List.Find

/-!
# JSON and line ends

A carriage return stands between the tokens of a JSON text or is an error: numbers and words do not
hold one, and a text literal that holds one is broken off. So making the line ends of a text one
changes the places of its tokens, but not what they are, and places matter to complaints alone.

Results:

* `number?_translate`, `literal_translate`, `tokenAt_translate`: each reader reads the same, and
  takes no carriage return.
* `map_token_translate`: so the tokens are the same.
* `read_translateText`: what is JSON has the same value once its line ends are made one.
* `isBlankText_of_read`: what is JSON is not blank.
-/

namespace ApiModel.Json

open Text.Newline

variable {c : Char} {cs r : List Char} {n : Nat}

/-! ## Numbers -/

theorem wholeDigits_translate (cs : List Char) : wholeDigits (translate cs) = wholeDigits cs := by
  rcases start_cases cs with rfl | ⟨c, r, hc, rfl⟩ | ⟨r, s, rfl, h⟩
  · rfl
  · by_cases h0 : c = '0'
    · rw [translate_cons_of_ne hc, h0]
      rfl
    · have hne : ∀ x, wholeDigits (c :: x) = (c :: x).takeWhile isDigit := by
        intro x
        unfold wholeDigits
        split
        · rename_i heq
          exact absurd (List.cons.inj heq).1 h0
        · rfl
      rw [translate_cons_of_ne hc, hne, hne, ← translate_cons_of_ne hc,
        takeWhile_translate (by decide) (by decide)]
  · rw [h]
    rfl

theorem passes_wholeDigits (cs : List Char) : Passes (wholeDigits cs).length cs := by
  unfold wholeDigits
  split
  · exact passes_one (by decide) _
  · exact passes_takeWhile (by decide) cs

theorem fractionDigits_translate (cs : List Char) :
    fractionDigits (translate cs) = fractionDigits cs := by
  rcases start_cases cs with rfl | ⟨c, r, hc, rfl⟩ | ⟨r, s, rfl, h⟩
  · rfl
  · rw [translate_cons_of_ne hc]
    by_cases hp : c = '.'
    · subst hp
      exact takeWhile_translate (by decide) (by decide) r
    · simp [fractionDigits, hp]
  · rw [h]
    rfl

theorem passes_fractionDigits (cs : List Char) :
    Passes (if (fractionDigits cs).isEmpty then 0 else (fractionDigits cs).length + 1) cs := by
  split
  · exact .zero cs
  · rename_i hne
    unfold fractionDigits at hne
    split at hne
    · exact (passes_cons (by decide)).2 (passes_takeWhile (by decide) _)
    · exact absurd rfl hne

/-- A sign is a character that is no line end. -/
theorem takeSign_cases (cs : List Char) :
    (∃ negative c r, c ≠ '\r' ∧ cs = c :: r ∧ ∀ x, Text.takeSign (c :: x) = (negative, x)) ∨
      Text.takeSign cs = (false, cs) ∧ Text.takeSign (translate cs) = (false, translate cs) := by
  rcases start_cases cs with rfl | ⟨c, r, hc, rfl⟩ | ⟨r, s, rfl, h⟩
  · exact Or.inr ⟨rfl, rfl⟩
  · by_cases hm : c = '-'
    · exact Or.inl ⟨true, c, r, hc, rfl, fun x => by rw [hm]; rfl⟩
    · by_cases hp : c = '+'
      · exact Or.inl ⟨false, c, r, hc, rfl, fun x => by rw [hp]; rfl⟩
      · refine Or.inr ⟨?_, ?_⟩
        · simp [Text.takeSign, hm, hp]
        · rw [translate_cons_of_ne hc]
          simp [Text.takeSign, hm, hp]
  · refine Or.inr ⟨rfl, ?_⟩
    rw [h]
    rfl

theorem exponentPart?_translate (cs : List Char) :
    exponentPart? (translate cs) = exponentPart? cs := by
  rcases start_cases cs with rfl | ⟨c, r, hc, rfl⟩ | ⟨r, s, rfl, h⟩
  · rfl
  · rw [translate_cons_of_ne hc]
    rcases takeSign_cases r with ⟨negative, d, t, hd, rfl, hsign⟩ | ⟨hsign, hsign'⟩
    · rw [translate_cons_of_ne hd]
      simp only [exponentPart?, hsign, takeWhile_translate (p := isDigit) rfl rfl,
        List.length_cons, Nat.add_sub_cancel_left]
    · simp only [exponentPart?, hsign, hsign', takeWhile_translate (p := isDigit) rfl rfl,
        Nat.sub_self]
  · rw [h]
    rfl

/-- The characters that a sign takes are passed. -/
theorem passes_takeSign (cs : List Char) :
    Passes (cs.length - (Text.takeSign cs).2.length) cs ∧
      cs.drop (cs.length - (Text.takeSign cs).2.length) = (Text.takeSign cs).2 := by
  rcases takeSign_cases cs with ⟨negative, c, r, hc, rfl, h⟩ | ⟨h, -⟩
  · rw [h, List.length_cons, Nat.add_sub_cancel_left]
    exact ⟨passes_one hc r, rfl⟩
  · rw [h, Nat.sub_self]
    exact ⟨.zero cs, rfl⟩

theorem passes_exponentPart? {e : Int} (h : exponentPart? cs = some (e, n)) : Passes n cs := by
  unfold exponentPart? at h
  split at h
  · rename_i c r
    split at h
    · rename_i hc
      have hc : c ≠ '\r' := by rcases hc with rfl | rfl <;> decide
      obtain ⟨hsign, hrest⟩ := passes_takeSign r
      dsimp only at h
      split at h
      · cases h
      · cases h
        have hdigits := passes_takeWhile (p := isDigit) rfl (Text.takeSign r).2
        rw [← hrest] at hdigits
        have hpass := (passes_cons hc).2 (hsign.add hdigits)
        rw [hrest] at hpass
        rwa [Nat.add_assoc, Nat.add_comm 1]
    · cases h
  · cases h

theorem number?_translate (cs : List Char) : number? (translate cs) = number? cs := by
  have hwhole (rest : List Char) :
      (translate rest).drop (wholeDigits rest).length =
        translate (rest.drop (wholeDigits rest).length) := passes_wholeDigits rest
  have hfraction (rest : List Char) := passes_fractionDigits rest
  unfold Passes at hfraction
  by_cases hminus : ∃ r, cs = '-' :: r
  · obtain ⟨r, rfl⟩ := hminus
    rw [translate_cons_of_ne (by decide)]
    simp only [number?, wholeDigits_translate, hwhole, fractionDigits_translate, hfraction,
      exponentPart?_translate]
  · -- neither text starts with a minus, which decides how the sign is read off each
    have hcs : ∀ r, cs ≠ '-' :: r := fun r h => hminus ⟨r, h⟩
    have htranslate : ∀ r, translate cs ≠ '-' :: r := by
      intro r h
      obtain ⟨s, rfl, -⟩ := eq_cons_of_translate h (by decide)
      exact hcs s rfl
    simp only [number?, wholeDigits_translate, hwhole, fractionDigits_translate, hfraction,
      exponentPart?_translate]

theorem passes_number? {t : Token} (h : number? cs = some (t, n)) : Passes n cs := by
  unfold number? at h
  split at h
  rename_i minus rest hrest
  have hsign : Passes (if minus then 1 else 0) cs ∧ cs.drop (if minus then 1 else 0) = rest := by
    split at hrest
    · cases hrest
      exact ⟨passes_one (by decide) _, rfl⟩
    · cases hrest
      exact ⟨.zero _, rfl⟩
  dsimp only at h
  split at h
  · cases h
  · -- what is taken before the exponent, and with it
    have hwhole := hsign.1.add (hsign.2 ▸ passes_wholeDigits rest)
    have hfraction := hwhole.add (by
      rw [← List.drop_drop, hsign.2]
      exact passes_fractionDigits _)
    have hpower : ∀ ds, Passes (((exponentPart? ds).map (·.2)).getD 0) ds := by
      intro ds
      cases hds : exponentPart? ds with
      | none => exact .zero ds
      | some p => exact passes_exponentPart? hds
    have hall := hfraction.add (by
      rw [← List.drop_drop, ← List.drop_drop, hsign.2]
      exact hpower _)
    rw [hsign.2] at hall
    -- whatever the number is, its width is the same
    have hwidth : ∀ {p q : Prop} [Decidable p] [Decidable q] {x y z : Token} {w : Nat},
        (if p then if q then some (x, w) else some (y, w) else some (z, w)) = some (t, n) →
          w = n := by
      intro p q _ _ x y z w h
      split_ifs at h <;> cases h <;> rfl
    exact hwidth h ▸ hall

/-! ## Text literals -/

/-- A code is four characters, none of them a carriage return. -/
theorem eq_append_of_code? {code : Nat} (h : code? cs = some code) :
    ∃ w r, cs = w ++ r ∧ w.length = 4 ∧ '\r' ∉ w ∧ ∀ x, code? (w ++ x) = some code := by
  rcases cs with _ | ⟨a, _ | ⟨b, _ | ⟨c, _ | ⟨d, r⟩⟩⟩⟩
  case cons.cons.cons.cons =>
    refine ⟨[a, b, c, d], r, rfl, rfl, fun hmem => ?_, fun x => h⟩
    have hnone : Text.digitOf? 16 '\r' = none := by decide
    simp only [List.mem_cons, List.not_mem_nil, or_false] at hmem
    rcases hmem with rfl | rfl | rfl | rfl <;> simp [code?, hnone] at h
  all_goals cases h

/-- More follows a code just when more follows it once line ends are made one. -/
theorem four_lt_length_translate {w : List Char} (hw : w.length = 4) (hr : '\r' ∉ w) :
    4 < (translate (w ++ r)).length ↔ 4 < (w ++ r).length := by
  rw [translate_append_of_not_mem hr, List.length_append, List.length_append, hw]
  cases r with
  | nil => rfl
  | cons c r =>
    rcases start_cases (c :: r) with h | ⟨d, s, hd, h⟩ | ⟨_, s, -, h⟩
    · cases h
    · rw [h, translate_cons_of_ne hd]
      simp
    · rw [h]
      simp

section Codes

variable {w t : List Char} {high low : Nat}

/-- A code that no other follows. -/
theorem escape_single (hw : w.length = 4) (hcode : ∀ x, code? (w ++ x) = some high)
    (hlong : 4 < (w ++ r).length) (hr : ∀ t, r ≠ '\\' :: 'u' :: t) :
    escape ('u' :: (w ++ r)) = .ok (charOfCode high, 5) := by
  simp only [escape, if_neg (Nat.not_le.2 hlong), hcode, List.drop_left' hw]

theorem not_length_le_four (hw : w.length = 4) : ¬(w ++ '\\' :: 'u' :: t).length ≤ 4 := by
  simp only [List.length_append, List.length_cons]
  omega

/-- A code that is not the first half of a pair, or is the last thing in the text. -/
theorem escape_whole (hw : w.length = 4) (hcode : ∀ x, code? (w ++ x) = some high)
    (hhalf : ¬(0xD800 ≤ high ∧ high ≤ 0xDBFF ∧ 4 < t.length)) :
    escape ('u' :: (w ++ '\\' :: 'u' :: t)) = .ok (charOfCode high, 5) := by
  simp only [escape, if_neg (not_length_le_four hw), hcode, List.drop_left' hw, if_neg hhalf]

/-- The first half of a pair, before a code that is broken. -/
theorem escape_broken (hw : w.length = 4) (hcode : ∀ x, code? (w ++ x) = some high)
    (hhalf : 0xD800 ≤ high ∧ high ≤ 0xDBFF ∧ 4 < t.length) (hlow : code? t = none) :
    escape ('u' :: (w ++ '\\' :: 'u' :: t)) = .error .brokenCode := by
  simp only [escape, if_neg (not_length_le_four hw), hcode, List.drop_left' hw, if_pos hhalf, hlow]

/-- The first half of a pair, before a code that may be the second. -/
theorem escape_halves (hw : w.length = 4) (hcode : ∀ x, code? (w ++ x) = some high)
    (hhalf : 0xD800 ≤ high ∧ high ≤ 0xDBFF ∧ 4 < t.length) (hlow : code? t = some low) :
    escape ('u' :: (w ++ '\\' :: 'u' :: t)) =
      if 0xDC00 ≤ low ∧ low ≤ 0xDFFF then
        .ok (Char.ofNat (0x10000 + (high - 0xD800) * 0x400 + (low - 0xDC00)), 11)
      else .ok (charOfCode high, 5) := by
  simp only [escape, if_neg (not_length_le_four hw), hcode, List.drop_left' hw, if_pos hhalf, hlow]

/-- A code and the one after it are read alike. -/
theorem escape_pair_translate {n : Nat} (hw : w.length = 4) (hr : '\r' ∉ w)
    (hcode : ∀ x, code? (w ++ x) = some high)
    (h : escape ('u' :: (w ++ '\\' :: 'u' :: t)) = .ok (c, n)) :
    escape ('u' :: (w ++ '\\' :: 'u' :: translate t)) = .ok (c, n) ∧
      Passes n ('u' :: (w ++ '\\' :: 'u' :: t)) := by
  have hfive : Passes 5 ('u' :: (w ++ '\\' :: 'u' :: t)) := by
    rw [passes_cons (by decide), ← hw]
    exact passes_append hr _
  by_cases hhalf : 0xD800 ≤ high ∧ high ≤ 0xDBFF ∧ 4 < t.length
  · cases hlow : code? t with
    | none =>
      rw [escape_broken hw hcode hhalf hlow] at h
      cases h
    | some low =>
      rw [escape_halves hw hcode hhalf hlow] at h
      obtain ⟨w', t', rfl, hw', hr', hcode'⟩ := eq_append_of_code? hlow
      have hhalf' : 0xD800 ≤ high ∧ high ≤ 0xDBFF ∧ 4 < (translate (w' ++ t')).length :=
        ⟨hhalf.1, hhalf.2.1, (four_lt_length_translate hw' hr').2 hhalf.2.2⟩
      have hlow' : code? (translate (w' ++ t')) = some low := by
        rw [translate_append_of_not_mem hr', hcode']
      rw [escape_halves hw hcode hhalf' hlow']
      refine ⟨h, ?_⟩
      split at h
      · have heleven : Passes 11 ('u' :: (w ++ '\\' :: 'u' :: (w' ++ t'))) := by
          have hword : '\r' ∉ 'u' :: (w ++ '\\' :: 'u' :: w') := by simp [hr, hr']
          have hpass := passes_append hword t'
          simpa [hw, hw'] using hpass
        have hn : 11 = n := (Prod.mk.inj (Except.ok.inj h)).2
        exact hn ▸ heleven
      · have hn : 5 = n := (Prod.mk.inj (Except.ok.inj h)).2
        exact hn ▸ hfive
  · have hhalf' : ¬(0xD800 ≤ high ∧ high ≤ 0xDBFF ∧ 4 < (translate t).length) :=
      fun hx => hhalf ⟨hx.1, hx.2.1, Nat.lt_of_lt_of_le hx.2.2 (length_translate_le t)⟩
    rw [escape_whole hw hcode hhalf] at h
    rw [escape_whole hw hcode hhalf']
    have hn : 5 = n := (Prod.mk.inj (Except.ok.inj h)).2
    exact ⟨h, hn ▸ hfive⟩

end Codes

/-- An escape stands for the same character, and takes no carriage return. -/
theorem escape_translate {n : Nat} (h : escape r = .ok (c, n)) :
    escape (translate r) = .ok (c, n) ∧ Passes n r := by
  have horig := h
  unfold escape at h
  split at h
  case h_1 r =>
    split at h
    · cases h
    rename_i hlong
    split at h
    · cases h
    rename_i high hhigh
    clear h
    obtain ⟨w, s, rfl, hw, hr, hcode⟩ := eq_append_of_code? hhigh
    rw [translate_cons_of_ne (by decide), translate_append_of_not_mem hr]
    by_cases hpair : ∃ t, s = '\\' :: 'u' :: t
    · obtain ⟨t, rfl⟩ := hpair
      rw [translate_cons_of_ne (by decide), translate_cons_of_ne (by decide)]
      exact escape_pair_translate hw hr hcode horig
    · have hs : ∀ t, s ≠ '\\' :: 'u' :: t := fun t ht => hpair ⟨t, ht⟩
      have hs' : ∀ t, translate s ≠ '\\' :: 'u' :: t := by
        intro t ht
        obtain ⟨s', rfl, hs'⟩ := eq_cons_of_translate ht (by decide)
        obtain ⟨t', rfl, -⟩ := eq_cons_of_translate hs'.symm (by decide)
        exact hs t' rfl
      have hlong := Nat.not_le.1 hlong
      have hlong' := (four_lt_length_translate hw hr).2 hlong
      rw [translate_append_of_not_mem hr] at hlong'
      rw [escape_single hw hcode hlong hs] at horig
      rw [escape_single hw hcode hlong' hs']
      cases horig
      refine ⟨rfl, ?_⟩
      rw [passes_cons (by decide), ← hw]
      exact passes_append hr s
  case h_10 => cases h
  case h_11 => cases h
  all_goals
    cases h
    exact ⟨rfl, passes_one (by decide) _⟩

/-- A text literal that is closed holds the same text, and no carriage return. -/
theorem literal_translate {width n : Nat} {done x : List Char}
    (h : literal width done cs = .ok (x, n)) :
    literal width done (translate cs) = .ok (x, n) ∧ ∃ k, n = width + k ∧ Passes k cs := by
  induction width, done, cs using literal.induct with
  | case1 width done =>
    rw [literal] at h
    cases h
  | case2 width done r =>
    rw [translate_cons_of_ne (by decide)]
    rw [literal] at h ⊢
    cases h
    exact ⟨rfl, 1, rfl, passes_one (by decide) r⟩
  | case3 width done r p hp =>
    rw [literal, hp] at h
    cases h
  | case4 width done r c k hc ih =>
    obtain ⟨hescape, hpass⟩ := escape_translate hc
    rw [translate_cons_of_ne (by decide)]
    rw [literal, hc] at h
    rw [literal, hescape]
    obtain ⟨hrest, m, hm, hrest'⟩ := ih h
    refine ⟨by rw [← hpass] at hrest; exact hrest, k + 1 + m, by omega, ?_⟩
    exact ((passes_cons (by decide)).2 hpass).add hrest'
  | case5 width done c r hq hb hc =>
    rw [literal.eq_4 _ _ _ _ hq hb, if_pos hc] at h
    cases h
  | case6 width done c r hq hb hc ih =>
    have hne : c ≠ '\r' := by
      rintro rfl
      exact hc (by decide)
    rw [literal.eq_4 _ _ _ _ hq hb, if_neg hc] at h
    rw [translate_cons_of_ne hne, literal.eq_4 _ _ _ _ hq hb, if_neg hc]
    obtain ⟨hrest, m, hm, hrest'⟩ := ih h
    exact ⟨hrest, m + 1, by omega, (passes_cons hne).2 hrest'⟩

/-! ## Tokens -/

/-- A text literal that is broken off. -/
def Token.IsBroken (t : Token) : Prop := ∃ p offset, t = .broken p offset

theorem not_mem_words {w : String × Scalar} (hw : w ∈ words) :
    '\r' ∉ w.1.toList ∧ '\n' ∉ w.1.toList := by
  revert w
  decide

/-- The words begin a text just when they do once its line ends are made one. -/
theorem find?_words_translate (cs : List Char) :
    words.find? (fun w => w.1.toList.isPrefixOf (translate cs)) =
      words.find? fun w => w.1.toList.isPrefixOf cs := by
  refine List.find?_congr fun w hw => ?_
  obtain ⟨hr, hn⟩ := not_mem_words hw
  exact isPrefixOf_translate hr hn cs

/-- A token that is not broken off is the same, and takes no carriage return. -/
theorem tokenAt_translate (hc : isGap c = false) (h : ¬(tokenAt c r).1.IsBroken) :
    tokenAt c (translate r) = tokenAt c r ∧ Passes (tokenAt c r).2 r := by
  have hne : c ≠ '\r' := by
    rintro rfl
    cases hc
  unfold tokenAt at h ⊢
  split
  case h_7 =>
    cases hl : literal 0 [] r with
    | error e =>
      rw [hl] at h
      exact absurd ⟨_, _, rfl⟩ h
    | ok x =>
      obtain ⟨htext, k, hk, hpass⟩ := literal_translate hl
      rw [htext]
      exact ⟨rfl, by rw [show x.2 = k by omega]; exact hpass⟩
  case h_8 =>
    rw [← translate_cons_of_ne hne, find?_words_translate, number?_translate]
    refine ⟨rfl, ?_⟩
    cases hw : words.find? fun w => w.1.toList.isPrefixOf (c :: r) with
    | some w =>
      obtain ⟨hr, -⟩ := not_mem_words (List.mem_of_find?_eq_some hw)
      have hprefix : w.1.toList.isPrefixOf (c :: r) = true := by
        simpa using List.find?_some hw
      obtain ⟨t, ht⟩ := List.isPrefixOf_iff_prefix.1 hprefix
      have hpass := passes_append hr t
      rw [ht, String.length_toList] at hpass
      exact hpass.tail hne
    | none =>
      cases hn : number? (c :: r) with
      | none => exact .zero r
      | some x => exact (passes_number? hn).tail hne
  all_goals exact ⟨rfl, .zero r⟩

/-- The tokens of a text, if none is broken off, are the same once its line ends are made one. -/
theorem map_token_translate {i j : Nat} (h : ∀ t ∈ tokensFrom j cs, ¬t.token.IsBroken) :
    (tokensFrom i (translate cs)).map (·.token) = (tokensFrom j cs).map (·.token) := by
  induction j, cs using tokensFrom.induct generalizing i with
  | case1 j =>
    have hnil : translate [] = [] := rfl
    rw [hnil, tokensFrom, tokensFrom]
  | case2 j c r hgap ih =>
    rw [tokensFrom, if_pos hgap] at h ⊢
    by_cases hc : c = '\r'
    · subst hc
      rcases translate_return r with ht | ⟨-, ht⟩
      · rw [ht, tokensFrom, if_pos (by decide)]
        exact ih h
      · rw [ht]
        exact ih h
    · rw [translate_cons_of_ne hc, tokensFrom, if_pos hgap]
      exact ih h
  | case3 j c r hgap t n hat ih =>
    have hne : c ≠ '\r' := by
      rintro rfl
      exact hgap (by decide)
    rw [tokensFrom, if_neg hgap, hat] at h ⊢
    obtain ⟨hbroken, hrest⟩ := List.forall_mem_cons.1 h
    obtain ⟨hsame, hpass⟩ := tokenAt_translate (Bool.eq_false_iff.2 hgap) (by rwa [hat])
    rw [hat] at hsame hpass
    rw [translate_cons_of_ne hne, tokensFrom, if_neg hgap, hsame]
    simp only [List.map_cons]
    rw [hpass, ih hrest]

/-! ## The machine -/

namespace State

variable {s s' : State} {k : Token} {i j : Nat} {ts ts' : List Placed}

/-- The place of a token matters to complaints alone. -/
theorem beginValue_moved (h : s.beginValue ⟨k, i⟩ = .ok s') : s.beginValue ⟨k, j⟩ = .ok s' := by
  cases k with
  | openObject | openArray | text | scalar => exact h
  | closeObject | closeArray | comma | colon | tooLong | broken | stray => cases h

theorem beginMember_moved (h : s.beginMember ⟨k, i⟩ = .ok s') : s.beginMember ⟨k, j⟩ = .ok s' := by
  unfold beginMember at h ⊢
  split at h
  · rename_i hk hs
    rw [hs]
    obtain rfl : k = _ := hk
    exact h
  · cases h
  · cases h

theorem step_moved (h : s.step ⟨k, i⟩ = .ok s') : s.step ⟨k, j⟩ = .ok s' := by
  unfold step at h ⊢
  split at h
  case h_1 | h_3 =>
    simp only [*]
    exact beginValue_moved h
  case h_5 | h_6 =>
    simp only [*]
    exact beginMember_moved h
  case h_12 => cases h
  all_goals simp_all only

theorem not_isBroken_of_step (h : s.step ⟨k, i⟩ = .ok s') : ¬k.IsBroken := by
  rintro ⟨p, offset, rfl⟩
  unfold step at h
  split at h
  case h_5 | h_6 =>
    unfold beginMember at h
    split at h <;> simp_all
  all_goals simp_all [beginValue]

/-- Tokens that are accepted are accepted at other places too. -/
theorem run_moved (h : s.run ts = .ok s') (hts : ts'.map (·.token) = ts.map (·.token)) :
    s.run ts' = .ok s' := by
  induction ts generalizing s ts' with
  | nil =>
    obtain rfl := List.map_eq_nil_iff.1 hts
    exact h
  | cons t ts ih =>
    obtain ⟨t', us, rfl, ht, hus⟩ := List.map_eq_cons_iff.1 hts
    obtain ⟨k, i⟩ := t
    obtain ⟨k', j⟩ := t'
    obtain rfl : k' = k := ht
    obtain ⟨u, hu, hrest⟩ := bind_eq_ok_iff.1 h
    exact bind_eq_ok_iff.2 ⟨u, step_moved hu, ih hrest hus⟩

/-- No token that is accepted is broken off. -/
theorem not_isBroken_of_run (h : s.run ts = .ok s') : ∀ t ∈ ts, ¬t.token.IsBroken := by
  induction ts generalizing s with
  | nil => exact fun _ ht => absurd ht List.not_mem_nil
  | cons t ts ih =>
    obtain ⟨u, hu, h⟩ := bind_eq_ok_iff.1 h
    exact List.forall_mem_cons.2 ⟨not_isBroken_of_step hu, ih h⟩

end State

/-! ## Whole texts -/

/-- A text is accepted if it starts with no byte order mark and its tokens make up a value. -/
theorem readChars_eq_ok_iff {v : Value} :
    readChars cs = .ok v ↔
      (∀ r, cs ≠ '\ufeff' :: r) ∧
        ∃ s, State.start.run (tokens cs) = .ok s ∧ s.next = .nothing v := by
  unfold readChars
  split
  · rename_i r
    exact ⟨nofun, fun h => absurd rfl (h.1 r)⟩
  · rename_i hmark
    rw [bind_eq_ok_iff]
    refine ⟨fun ⟨s, hs, h⟩ => ⟨hmark, s, hs, ?_⟩, fun ⟨_, s, hs, h⟩ => ⟨s, hs, ?_⟩⟩
    · split at h
      · rename_i hv
        cases h
        exact hv
      · cases h
    · rw [h]

/-- What is JSON is the same once its line ends are made one. -/
theorem read_translateText {text : String} {v : Value} (h : read text = .ok v) :
    read (translateText text) = .ok v := by
  unfold read at h ⊢
  obtain ⟨hmark, s, hs, hv⟩ := readChars_eq_ok_iff.1 h
  rw [translateText, String.toList_ofList]
  refine readChars_eq_ok_iff.2 ⟨fun r hr => ?_, s, ?_, hv⟩
  · obtain ⟨r', hr', -⟩ := eq_cons_of_translate hr (by decide)
    exact hmark r' hr'
  · exact State.run_moved hs (map_token_translate (State.not_isBroken_of_run hs))

/-! ## Blank texts -/

theorem number?_of_isBlank (hc : Text.isBlank c = true) (r : List Char) :
    number? (c :: r) = none := by
  have hminus : c ≠ '-' := by
    rintro rfl
    cases hc
  have hzero : c ≠ '0' := by
    rintro rfl
    cases hc
  have hdigit : isDigit c = false := by
    simp only [isDigit, Text.isBlank, Char.le_def, UInt32.le_iff_toNat_le, Bool.and_eq_false_iff,
      Bool.or_eq_true, Bool.and_eq_true, decide_eq_true_eq, decide_eq_false_iff_not,
      beq_iff_eq] at hc ⊢
    have h0 : '0'.val.toNat = 48 := rfl
    have h9 : '9'.val.toNat = 57 := rfl
    have hval : c.val.toNat = c.toNat := rfl
    omega
  simp [number?, wholeDigits, hminus, hzero, hdigit]

/-- A blank begins no token. -/
theorem tokenAt_of_isBlank (hc : Text.isBlank c = true) (r : List Char) :
    tokenAt c r = (.stray, 0) := by
  have hhead : ∀ w ∈ words, w.1.toList.head? ∈ ['n', 't', 'f', 'N', 'I', '-'].map some := by decide
  have hword : (words.find? fun w => w.1.toList.isPrefixOf (c :: r)) = none := by
    refine List.find?_eq_none.2 fun w hw hprefix => ?_
    have hstart := hhead w hw
    obtain ⟨t, ht⟩ := List.isPrefixOf_iff_prefix.1 hprefix
    cases hchars : w.1.toList with
    | nil => simp [hchars] at hstart
    | cons d ds =>
      rw [hchars, List.cons_append] at ht
      obtain rfl := (List.cons.inj ht).1
      simp only [hchars, List.head?_cons, List.map_cons, List.map_nil, List.mem_cons,
        Option.some.injEq, List.not_mem_nil, or_false] at hstart
      rcases hstart with rfl | rfl | rfl | rfl | rfl | rfl <;> cases hc
  unfold tokenAt
  split
  case h_8 => rw [hword, number?_of_isBlank hc]
  all_goals cases hc

theorem token_of_isBlank {i : Nat} (h : ∀ c ∈ cs, Text.isBlank c = true) :
    ∀ t ∈ tokensFrom i cs, t.token = .stray := by
  induction i, cs using tokensFrom.induct with
  | case1 i =>
    rw [tokensFrom]
    exact fun _ ht => absurd ht List.not_mem_nil
  | case2 i c r hgap ih =>
    rw [tokensFrom, if_pos hgap]
    exact ih (List.forall_mem_cons.1 h).2
  | case3 i c r hgap t n hat ih =>
    obtain ⟨hc, hr⟩ := List.forall_mem_cons.1 h
    rw [tokensFrom, if_neg hgap, hat]
    rw [tokenAt_of_isBlank hc] at hat
    cases hat
    exact List.forall_mem_cons.2 ⟨rfl, ih hr⟩

/-- What is JSON is not blank. -/
theorem isBlankText_of_read {text : String} {v : Value} (h : read text = .ok v) :
    Text.isBlankText text = false := by
  obtain ⟨-, s, hs, hv⟩ := readChars_eq_ok_iff.1 h
  refine Bool.eq_false_iff.2 fun hblank => ?_
  have hstray := token_of_isBlank (i := 0) (List.all_eq_true.1 hblank)
  unfold tokens at hs
  cases ht : tokensFrom 0 text.toList with
  | nil =>
    rw [ht] at hs
    cases hs
    cases hv
  | cons t ts =>
    rw [ht] at hs hstray
    obtain ⟨u, hu, -⟩ := bind_eq_ok_iff.1 hs
    have htoken := hstray t List.mem_cons_self
    simp [State.start, State.step, State.beginValue, htoken] at hu

end ApiModel.Json
