/-!
# Blank characters and trimming

Blank are the spaces, line ends and separators of all scripts, among them the tab, the four
information separators, the no-break space and the line and paragraph separators.

* `isBlank_of_isWhitespace`: the blanks of the core library are among them.
* `strip_eq_nil_iff`: nothing is left of a text exactly when all of it is blank.
-/

namespace ApiModel.Text

/-- Whether a character is a space, a line end or a separator of any script. -/
def isBlank (c : Char) : Bool :=
  let n := c.toNat
  (9 ≤ n && n ≤ 13) || (28 ≤ n && n ≤ 32) || n == 0x85 || n == 0xA0 || n == 0x1680
    || (0x2000 ≤ n && n ≤ 0x200A) || n == 0x2028 || n == 0x2029 || n == 0x202F || n == 0x205F
    || n == 0x3000

theorem isBlank_of_isWhitespace {c : Char} (h : c.isWhitespace = true) : isBlank c = true := by
  simp only [Char.isWhitespace, Bool.or_eq_true, decide_eq_true_eq] at h
  rcases h with ((rfl | rfl) | rfl) | rfl <;> rfl

/-- Whether a character can stand around a number: a blank other than the four information
separators. -/
def isMargin (c : Char) : Bool := isBlank c && !(28 ≤ c.toNat && c.toNat ≤ 31)

/-- The text without the characters of a class at both ends. -/
def trim (p : Char → Bool) (cs : List Char) : List Char :=
  ((cs.dropWhile p).reverse.dropWhile p).reverse

/-- The text without the blanks at both ends. -/
def strip (cs : List Char) : List Char := trim isBlank cs

/-- Whether nothing but blanks is in the text. -/
def isBlankText (s : String) : Bool := s.toList.all isBlank

theorem dropWhile_eq_nil_iff {p : Char → Bool} {cs : List Char} :
    cs.dropWhile p = [] ↔ ∀ c ∈ cs, p c = true := by
  induction cs with
  | nil => simp
  | cons c r ih => by_cases h : p c <;> simp [h, ih]

theorem trim_eq_nil_iff {p : Char → Bool} {cs : List Char} :
    trim p cs = [] ↔ ∀ c ∈ cs, p c = true := by
  constructor
  · intro h c hc
    have hs : ∀ c ∈ cs.dropWhile p, p c = true := by
      simpa [trim, dropWhile_eq_nil_iff] using h
    rw [← List.takeWhile_append_dropWhile (p := p) (l := cs)] at hc
    rcases List.mem_append.1 hc with h1 | h1
    · exact List.all_eq_true.1 List.all_takeWhile c h1
    · exact hs c h1
  · intro h
    simp [trim, dropWhile_eq_nil_iff.2 h]

theorem strip_eq_nil_iff {cs : List Char} : strip cs = [] ↔ ∀ c ∈ cs, isBlank c = true :=
  trim_eq_nil_iff

end ApiModel.Text
