import ApiModel.Text.Newline
import Mathlib.Data.List.Basic

/-!
# Reading past line ends

A reader that takes characters from the start of a text, none of them a carriage return, does the
same where the line ends are made one: what is left is the rest of the text with its line ends made
one. `Passes n cs` says so of the first `n` characters; readers one after another pass by
`Passes.add`.

Results:

* `takeWhile_translate`: a run of characters that ends at every line end is the same.
* `passes_append`, `passes_takeWhile`: a word without carriage returns is passed, and so is a run of
  other characters.
-/

namespace ApiModel.Text.Newline

variable {c : Char} {cs r w : List Char} {m n : Nat} {p : Char → Bool}

/-! ## The start of a text -/

theorem translate_cons_of_ne (h : c ≠ '\r') (r : List Char) :
    translate (c :: r) = c :: translate r := by
  rw [translate.eq_3 c r fun _ hc => absurd hc h, if_neg h]

/-- A carriage return becomes a newline, or goes if one follows it. -/
theorem translate_return (r : List Char) :
    translate ('\r' :: r) = '\n' :: translate r ∨
      (∃ s, r = '\n' :: s) ∧ translate ('\r' :: r) = translate r := by
  by_cases h : ∃ s, r = '\n' :: s
  · obtain ⟨s, rfl⟩ := h
    refine Or.inr ⟨⟨s, rfl⟩, ?_⟩
    rw [translate.eq_2, translate_cons_of_ne (by decide)]
  · refine Or.inl ?_
    rw [translate.eq_3 '\r' r fun s _ hs => h ⟨s, hs⟩, if_pos rfl]

/-- How a text starts: a carriage return at its start makes a newline. -/
theorem start_cases (cs : List Char) :
    cs = [] ∨ (∃ c r, c ≠ '\r' ∧ cs = c :: r) ∨
      ∃ r s, cs = '\r' :: r ∧ translate cs = '\n' :: s := by
  rcases cs with _ | ⟨c, r⟩
  · exact Or.inl rfl
  · by_cases hc : c = '\r'
    · subst hc
      rcases translate_return r with h | ⟨⟨s, rfl⟩, h⟩
      · exact Or.inr (Or.inr ⟨r, _, rfl, h⟩)
      · exact Or.inr (Or.inr ⟨_, _, rfl, h.trans (translate_cons_of_ne (by decide) s)⟩)
    · exact Or.inr (Or.inl ⟨c, r, hc, rfl⟩)

/-- A text that starts with no line end once its line ends are made one starts so before. -/
theorem eq_cons_of_translate (h : translate cs = c :: r) (hc : c ≠ '\n') :
    ∃ s, cs = c :: s ∧ r = translate s := by
  rcases start_cases cs with rfl | ⟨d, s, hd, rfl⟩ | ⟨s, t, rfl, ht⟩
  · cases h
  · rw [translate_cons_of_ne hd] at h
    obtain ⟨rfl, rfl⟩ := List.cons.inj h
    exact ⟨s, rfl, rfl⟩
  · exact absurd (List.cons.inj (h.symm.trans ht)).1 hc

theorem length_translate_le (cs : List Char) : (translate cs).length ≤ cs.length := by
  fun_induction translate cs with
  | case1 => exact Nat.le_refl _
  | case2 r ih =>
    simp only [List.length_cons]
    omega
  | case3 c r _ ih =>
    simp only [List.length_cons]
    omega

theorem translate_append_of_not_mem (h : '\r' ∉ w) (cs : List Char) :
    translate (w ++ cs) = w ++ translate cs := by
  induction w with
  | nil => rfl
  | cons c w ih =>
    obtain ⟨hc, hw⟩ := not_or.1 (mt List.mem_cons.2 h)
    rw [List.cons_append, translate_cons_of_ne (Ne.symm hc), ih hw, List.cons_append]

/-- A text starts with a word just when it does once its line ends are made one. -/
theorem isPrefixOf_translate (hr : '\r' ∉ w) (hn : '\n' ∉ w) (cs : List Char) :
    w.isPrefixOf (translate cs) = w.isPrefixOf cs := by
  induction w generalizing cs with
  | nil => simp
  | cons d w ih =>
    obtain ⟨hdr, hr⟩ := not_or.1 (mt List.mem_cons.2 hr)
    obtain ⟨hdn, hn⟩ := not_or.1 (mt List.mem_cons.2 hn)
    rcases start_cases cs with rfl | ⟨c, r, hc, rfl⟩ | ⟨r, s, rfl, h⟩
    · rfl
    · simp only [translate_cons_of_ne hc, List.isPrefixOf, ih hr hn]
    · simp only [h, List.isPrefixOf, beq_eq_false_iff_ne.2 (Ne.symm hdr),
        beq_eq_false_iff_ne.2 (Ne.symm hdn), Bool.false_and]

/-- A run of characters that ends at every line end is the same. -/
theorem takeWhile_translate (hr : p '\r' = false) (hn : p '\n' = false) (cs : List Char) :
    (translate cs).takeWhile p = cs.takeWhile p := by
  induction cs with
  | nil => rfl
  | cons c cs ih =>
    rcases start_cases (c :: cs) with h | ⟨c, r, hc, h⟩ | ⟨r, s, h, ht⟩
    · cases h
    · cases h
      rw [translate_cons_of_ne hc, List.takeWhile_cons, List.takeWhile_cons, ih]
    · cases h
      rw [ht, List.takeWhile_cons_of_neg (by simp [hn]), List.takeWhile_cons_of_neg (by simp [hr])]

/-! ## What is taken -/

/-- After the first characters of a text, what is left is the same, but that its line ends are made
one too. -/
def Passes (n : Nat) (cs : List Char) : Prop := (translate cs).drop n = translate (cs.drop n)

theorem Passes.zero (cs : List Char) : Passes 0 cs := rfl

/-- One reader after another. -/
theorem Passes.add (hm : Passes m cs) (hn : Passes n (cs.drop m)) : Passes (m + n) cs := by
  unfold Passes at *
  rw [← List.drop_drop, hm, hn, List.drop_drop]

/-- A word without carriage returns is passed. -/
theorem passes_append (h : '\r' ∉ w) (cs : List Char) : Passes w.length (w ++ cs) := by
  unfold Passes
  rw [translate_append_of_not_mem h, List.drop_left, List.drop_left]

theorem passes_one (hc : c ≠ '\r') (r : List Char) : Passes 1 (c :: r) :=
  passes_append (w := [c]) (by simpa using Ne.symm hc) r

theorem passes_cons (hc : c ≠ '\r') : Passes (n + 1) (c :: r) ↔ Passes n r := by
  unfold Passes
  rw [translate_cons_of_ne hc, List.drop_succ_cons, List.drop_succ_cons]

/-- What is passed from the second character on. -/
theorem Passes.tail (h : Passes n (c :: r)) (hc : c ≠ '\r') : Passes (n - 1) r := by
  cases n with
  | zero => exact .zero r
  | succ n => exact (passes_cons hc).1 h

/-- A run of characters without carriage returns is passed. -/
theorem passes_takeWhile (hr : p '\r' = false) (cs : List Char) :
    Passes (cs.takeWhile p).length cs := by
  have hmem : '\r' ∉ cs.takeWhile p := fun h =>
    absurd (List.all_eq_true.1 List.all_takeWhile _ h) (by simp [hr])
  have hpass := passes_append hmem (cs.dropWhile p)
  rwa [List.takeWhile_append_dropWhile] at hpass

end ApiModel.Text.Newline
