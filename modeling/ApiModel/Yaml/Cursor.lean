/-!
# A place in YAML text

A `Cursor` is a place in a text: the characters to come, how many they are, and the line and the
column. The line ends of YAML are the newline, the carriage return, the next-line character and the
line and paragraph separators.

* `left_forward`: going forward leaves one character fewer.
-/

namespace ApiModel.Yaml

/-! ## Classes of characters -/

/-- The character that stands for the end of the text; it occurs in no text that is read. -/
def theEnd : Char := '\x00'

/-- Whether a character ends a line. -/
def isBreak (c : Char) : Bool :=
  c == '\n' || c == '\r' || c == '\x85' || c == '\u2028' || c == '\u2029'

/-- Whether a line or the text ends at a character. -/
def isBreakOrEnd (c : Char) : Bool := isBreak c || c == theEnd

/-- Whether a character is a space, a line end or the end of the text. -/
def isSpaceOrEnd (c : Char) : Bool := c == ' ' || isBreakOrEnd c

/-- Whether a character is a space, a tab, a line end or the end of the text. -/
def isGapOrEnd (c : Char) : Bool := c == '\t' || isSpaceOrEnd c

/-- Whether a character may occur in a name: ASCII letters, digits, hyphen and underscore. -/
def isNameChar (c : Char) : Bool := c.isAlphanum || c == '-' || c == '_'

/-- Whether a character may occur in a YAML text at all. -/
def isAllowed (c : Char) : Bool :=
  let n := c.toNat
  n == 9 || n == 10 || n == 13 || (0x20 ≤ n && n ≤ 0x7E) || n == 0x85
    || (0xA0 ≤ n && n ≤ 0xD7FF) || (0xE000 ≤ n && n ≤ 0xFFFD) || 0x10000 ≤ n

/-! ## Cursors -/

/-- A place in a text. -/
structure Cursor where
  /-- The characters to come. -/
  rest : List Char
  /-- How many characters are to come. -/
  left : Nat
  /-- The number of lines before this one. -/
  line : Nat
  /-- The number of characters before this one on the line. -/
  column : Nat

namespace Cursor

/-- The start of a text. -/
def start (cs : List Char) : Cursor := ⟨cs, cs.length, 0, 0⟩

/-- The next character. -/
def peek (c : Cursor) : Char := c.rest.headD theEnd

/-- The character after the next `n`. -/
def peekAt (c : Cursor) (n : Nat) : Char := (c.rest.drop n).headD theEnd

/-- The place after the next character. -/
def forward (c : Cursor) : Cursor :=
  match c.rest with
  | [] => c
  | ch :: r =>
    if isBreak ch && !(ch == '\r' && r.head? == some '\n') then ⟨r, c.left - 1, c.line + 1, 0⟩
    else ⟨r, c.left - 1, c.line, if ch = '\ufeff' then c.column else c.column + 1⟩

theorem left_forward {c : Cursor} (h : c.rest ≠ []) : c.forward.left = c.left - 1 := by
  unfold forward
  split
  · contradiction
  · split <;> rfl

/-- The place after the next `n` characters. -/
def forwardBy (c : Cursor) : Nat → Cursor
  | 0 => c
  | n + 1 => c.forward.forwardBy n

/-- The next characters of a class, and the place after them. -/
def takeWhile (p : Char → Bool) (c : Cursor) : List Char × Cursor :=
  let taken := c.rest.takeWhile p
  (taken, c.forwardBy taken.length)

/-- The place after the next characters of a class. -/
def skipWhile (p : Char → Bool) (c : Cursor) : Cursor := (c.takeWhile p).2

/-- The place after the next spaces. -/
def skipSpaces (c : Cursor) : Cursor := c.skipWhile (· == ' ')

/-- The place after a comment, if one begins here. -/
def skipComment (c : Cursor) : Cursor := if c.peek = '#' then c.skipWhile (!isBreak ·) else c

/-- The line end that begins here, and the place after it. All but the separators count as a
newline. -/
def lineBreak? (c : Cursor) : Option (Char × Cursor) :=
  match c.rest with
  | '\r' :: '\n' :: _ => some ('\n', c.forwardBy 2)
  | ch :: _ =>
    if ch = '\u2028' ∨ ch = '\u2029' then some (ch, c.forward)
    else if isBreak ch then some ('\n', c.forward)
    else none
  | [] => none

/-- The place after a line end, if one begins here. -/
def skipBreak (c : Cursor) : Cursor := (c.lineBreak?.map (·.2)).getD c

/-- Whether three of a character begin here and a gap follows. -/
def atMark (mark : Char) (c : Cursor) : Bool :=
  [mark, mark, mark].isPrefixOf c.rest && isGapOrEnd (c.peekAt 3)

/-- Whether a mark that separates documents begins here. -/
def atSeparator (c : Cursor) : Bool := c.atMark '-' || c.atMark '.'

end Cursor

end ApiModel.Yaml
