import ApiModel.Text.Digit
import ApiModel.Text.Quoted
import ApiModel.Yaml.Token

/-!
# Scalars and names in YAML text

Reads the scalars of a YAML text (plain, between marks, or as a block of lines), and the names,
handles and tags in front of them. Within a scalar a single line end becomes a space and of several
all but the first are kept. Every loop goes on only while characters are used up.
-/

namespace ApiModel.Yaml

namespace Cursor

/-! ## Plain scalars -/

/-- The number of characters that a plain scalar takes before a gap or an indicator. -/
def plainWidth (inFlow : Bool) : List Char → Nat
  | [] => 0
  | ch :: r =>
    let next := r.headD theEnd
    if isGapOrEnd ch then 0
    else if ch = ':' ∧ (isGapOrEnd next ∨ (inFlow ∧ next ∈ [',', '[', ']', '\x7b', '\x7d'])) then 0
    else if inFlow ∧ ch ∈ [',', '?', '[', ']', '\x7b', '\x7d'] then 0
    else 1 + plainWidth inFlow r

/-- The line ends after the first in a gap of a plain scalar; none if the document ends there. -/
def plainBreaks (done : List Char) (c : Cursor) : Option (List Char) × Cursor :=
  let start := c.skipSpaces
  match start.lineBreak? with
  | none => (some done, start)
  | some (b, next) =>
    if next.atSeparator then (none, next)
    else if next.left < c.left then plainBreaks (done ++ [b]) next
    else (none, next)
termination_by c.left

/-- What a line end and the line ends after it stand for. -/
def folded (first : Char) (others : List Char) : List Char :=
  if first ≠ '\n' then first :: others
  else if others.isEmpty then [' ']
  else others

/-- The gap between two parts of a plain scalar as it counts in the scalar, empty if the scalar
ends; the place after it; and whether it holds a line end. -/
def plainGap (c : Cursor) : List Char × Cursor × Bool :=
  let (spaces, after) := c.takeWhile (· == ' ')
  match after.lineBreak? with
  | none => (spaces, after, false)
  | some (b, next) =>
    if next.atSeparator then ([], next, true)
    else match plainBreaks [] next with
      | (none, stop) => ([], stop, true)
      | (some others, stop) => (folded b others, stop, true)

/-- A plain scalar of which a part is read and a gap stands before the cursor; the place after it;
and whether a line end stands in the gap at its end. -/
def plain (inFlow : Bool) (indent : Int) (done gap : List Char) (afterBreak : Bool) (c : Cursor) :
    List Char × Cursor × Bool :=
  let width := plainWidth inFlow c.rest
  if c.peek = '#' ∨ width = 0 then (done, c, afterBreak)
  else
    let done := done ++ gap ++ c.rest.take width
    match (c.forwardBy width).plainGap with
    | (gap, next, broke) =>
      if gap.isEmpty ∨ next.peek = '#' ∨ (¬inFlow ∧ (next.column : Int) < indent) then
        (done, next, broke)
      else if next.left < c.left then plain inFlow indent done gap broke next
      else (done, next, broke)
termination_by c.left

/-! ## Scalars between marks -/

/-- The line ends after the first in a gap of a scalar between marks. -/
def quotedBreaks (done : List Char) (c : Cursor) : Except Refusal (List Char × Cursor) :=
  if c.atSeparator then .error .malformed
  else
    let start := c.skipWhile fun ch => ch == ' ' || ch == '\t'
    match start.lineBreak? with
    | none => .ok (done, start)
    | some (b, next) =>
      if next.left < c.left then quotedBreaks (done ++ [b]) next else .error .malformed
termination_by c.left

/-- A gap in a scalar between marks as it counts in the scalar. -/
def quotedGap (c : Cursor) : Except Refusal (List Char × Cursor) :=
  let (blanks, after) := c.takeWhile fun ch => ch == ' ' || ch == '\t'
  match after.lineBreak? with
  | some (b, next) => do
    let (others, stop) ← quotedBreaks [] next
    .ok (folded b others, stop)
  | none => if after.rest.isEmpty then .error .malformed else .ok (blanks, after)

/-- The characters that a backslash and a letter stand for. -/
def escapes : List (Char × Char) :=
  [('0', '\x00'), ('a', '\x07'), ('b', '\x08'), ('t', '\t'), ('\t', '\t'), ('n', '\n'),
    ('v', '\x0b'), ('f', '\x0c'), ('r', '\r'), ('e', '\x1b'), (' ', ' '), ('"', '"'), ('\\', '\\'),
    ('/', '/'), ('N', '\x85'), ('_', '\u00a0'), ('L', '\u2028'), ('P', '\u2029')]

/-- The number of hexadecimal digits after a backslash and a letter. -/
def codeWidth? (ch : Char) : Option Nat :=
  if ch = 'x' then some 2 else if ch = 'u' then some 4 else if ch = 'U' then some 8 else none

/-- The value of a hexadecimal digit of ASCII. -/
def hexDigit? (ch : Char) : Option Nat := if ch.toNat < 0x80 then Text.digitOf? 16 ch else none

/-- The character with a code. The codes of halves of pairs are no characters. -/
def charOfCode (code : Nat) : Except Refusal Char :=
  if 0x80000000 ≤ code then .error (.fault .overflow)
  else if 0x110000 ≤ code then .error (.fault .badValue)
  else if 0xD800 ≤ code ∧ code ≤ 0xDFFF then .ok '\ufffd'
  else .ok (Char.ofNat code)

/-- The code after a backslash and a letter, the cursor being at the letter, and the place after. -/
def escapedCode? (c : Cursor) : Option (Nat × Cursor) := do
  let width ← codeWidth? c.peek
  let ds ← (c.forward.rest.take width).mapM hexDigit?
  if ds.length = width then some (Text.ofDigits 16 ds, c.forward.forwardBy width) else none

/-- The second half of a pair that is escaped at the cursor, and the place after. -/
def escapedLowHalf? (c : Cursor) : Option (Nat × Cursor) :=
  if c.peek = '\\' then
    c.forward.escapedCode?.filter fun p => 0xDC00 ≤ p.1 && p.1 ≤ 0xDFFF
  else none

/-- The character with a code and the place after it. Two codes in a row that are the halves of a
pair stand for one character. -/
def charAt (code : Nat) (after : Cursor) : Except Refusal (List Char × Cursor) :=
  match if 0xD800 ≤ code ∧ code ≤ 0xDBFF then after.escapedLowHalf? else none with
  | some (low, stop) =>
    .ok ([Char.ofNat (0x10000 + (code - 0xD800) * 0x400 + (low - 0xDC00))], stop)
  | none => do return ([← charOfCode code], after)

/-- What an escape stands for, the cursor being after the backslash. -/
def escaped (c : Cursor) : Except Refusal (List Char × Cursor) :=
  match escapes.lookup c.peek, codeWidth? c.peek, c.lineBreak? with
  | some ch, _, _ => .ok ([ch], c.forward)
  | none, some _, _ =>
    match c.escapedCode? with
    | some (code, after) => charAt code after
    | none => .error .malformed
  | none, none, some (_, next) => quotedBreaks [] next
  | none, none, none => .error .malformed

/-- A scalar between marks of which a part is read, and the place after the closing mark. In
apostrophes a doubled mark stands for one; in quotation marks a backslash begins an escape. -/
def quoted (double : Bool) (done : List Char) (c : Cursor) : Except Refusal (List Char × Cursor) :=
  let mark := if double then '"' else '\''
  match c.rest with
  | [] => .error .malformed
  | ch :: r =>
    if ch = mark ∧ (double ∨ r.head? ≠ some mark) then .ok (done, c.forward)
    else
      let piece : Except Refusal (List Char × Cursor) :=
        if ch = mark then .ok ([mark], c.forwardBy 2)
        else if double ∧ ch = '\\' then c.forward.escaped
        else if isGapOrEnd ch then c.quotedGap
        else .ok (c.takeWhile fun x => !isGapOrEnd x && x != mark && !(double && x == '\\'))
      match piece with
      | .error e => .error e
      | .ok (text, next) =>
        if next.left < c.left then quoted double (done ++ text) next
        else .error .malformed
termination_by c.left

/-! ## Blocks of lines -/

/-- How a block scalar treats the line ends at its end. -/
inductive Chomping where
  /-- They are left out. -/
  | strip
  /-- The first is kept. -/
  | clip
  /-- All are kept. -/
  | keep

/-- The indicators of a block scalar: its chomping and its indentation, in either order. -/
def blockIndicators (c : Cursor) : Except Refusal (Chomping × Option Nat × Cursor) := do
  let chomping? (c : Cursor) : Option Chomping :=
    if c.peek = '+' then some .keep else if c.peek = '-' then some .strip else none
  let (chomping, increment, stop) := match chomping? c, Text.asciiDigit? c.peek with
    | some ch, _ =>
      match Text.asciiDigit? c.forward.peek with
      | some d => (ch, some d, c.forward.forward)
      | none => (ch, none, c.forward)
    | none, some d =>
      match chomping? c.forward with
      | some ch => (ch, some d, c.forward.forward)
      | none => (.clip, some d, c.forward)
    | none, none => (.clip, none, c)
  if increment = some 0 ∨ !isSpaceOrEnd stop.peek then .error .malformed
  else .ok (chomping, increment, stop)

/-- The place on the next line after spaces and a comment. -/
def finishLine (c : Cursor) : Except Refusal Cursor :=
  let stop := c.skipSpaces.skipComment
  if isBreakOrEnd stop.peek then .ok stop.skipBreak else .error .malformed

/-- The empty lines at the start of a block, the greatest indentation met, and the place after. -/
def blockStart (done : List Char) (deepest : Nat) (c : Cursor) : List Char × Nat × Cursor :=
  let start := c.skipSpaces
  let deepest := max deepest start.column
  match start.lineBreak? with
  | none => (done, deepest, start)
  | some (b, next) =>
    if next.left < c.left then blockStart (done ++ [b]) deepest next else (done, deepest, next)
termination_by c.left

/-- The place after spaces, but not beyond a column. -/
def skipIndent (indent : Nat) (c : Cursor) : Cursor :=
  c.forwardBy (min (c.rest.takeWhile (· == ' ')).length (indent - c.column))

/-- The empty lines before a line of a block, and the place after the indentation of that line. -/
def blockBreaks (indent : Nat) (done : List Char) (c : Cursor) : List Char × Cursor :=
  let start := c.skipIndent indent
  match start.lineBreak? with
  | none => (done, start)
  | some (b, next) =>
    if next.left < c.left then blockBreaks indent (done ++ [b]) next else (done, next)
termination_by c.left

/-- The lines of a block, of which some are read and whose empty lines before the next are at hand.
Gives the text, the last line end, the empty lines after it, and the place after them. -/
def blockLines (fold : Bool) (indent : Nat) (done breaks : List Char) (c : Cursor) :
    List Char × List Char × List Char × Cursor :=
  if c.column ≠ indent ∨ c.rest.isEmpty then (done, [], breaks, c)
  else
    let (line, lineEnd) := c.takeWhile (!isBreak ·)
    let done := done ++ breaks ++ line
    let ending := (lineEnd.lineBreak?.map (·.1)).toList
    match lineEnd.skipBreak.blockBreaks indent [] with
    | (breaks, next) =>
      if next.column = indent ∧ !next.rest.isEmpty then
        let flush := !(c.peek == ' ' || c.peek == '\t' || next.peek == ' ' || next.peek == '\t')
        let gap :=
          if fold ∧ ending = ['\n'] ∧ flush then (if breaks.isEmpty then [' '] else [])
          else ending
        if next.left < c.left then blockLines fold indent (done ++ gap) breaks next
        else (done, ending, breaks, next)
      else (done, ending, breaks, next)
termination_by c.left

/-- A block scalar, the cursor being after its mark, inside a collection of some indentation. -/
def block (fold : Bool) (parent : Int) (c : Cursor) : Except Refusal (List Char × Cursor) := do
  let (chomping, increment, c) ← c.blockIndicators
  let c ← c.finishLine
  let least := (max (parent + 1) 1).toNat
  let (indent, breaks, c) := match increment with
    | none =>
      let (breaks, deepest, c) := blockStart [] 0 c
      (max least deepest, breaks, c)
    | some n =>
      let indent := least + n - 1
      let (breaks, c) := c.blockBreaks indent []
      (indent, breaks, c)
  let (text, ending, breaks, c) := blockLines fold indent [] breaks c
  .ok (match chomping with
    | .strip => (text, c)
    | .clip => (text ++ ending, c)
    | .keep => (text ++ ending ++ breaks, c))

/-! ## Names, handles and tags -/

/-- The name after the mark of an anchor or alias. -/
def name (c : Cursor) : Except Refusal (String × Cursor) :=
  let (name, stop) := c.takeWhile isNameChar
  if name.isEmpty then .error .malformed
  else if isGapOrEnd stop.peek ∨ stop.peek ∈ ['?', ':', ',', ']', '\x7d', '%', '@', '\x60'] then
    .ok (String.ofList name, stop)
  else .error .malformed

/-- A handle of tags: an exclamation mark, and possibly a name and a second one. -/
def tagHandle (c : Cursor) : Except Refusal (String × Cursor) :=
  if c.peek ≠ '!' then .error .malformed
  else if c.peekAt 1 = ' ' then .ok ("!", c.forward)
  else
    let (name, stop) := c.forward.takeWhile isNameChar
    if stop.peek = '!' then .ok (String.ofList ('!' :: name ++ ['!']), stop.forward)
    else .error .malformed

/-- Whether a character may occur in a tag. -/
def isTagChar (ch : Char) : Bool :=
  ch.isAlphanum || "-;/?:@&=+$,_.!~*'()[]%".toList.contains ch

/-- The bytes of percent signs with two hexadecimal digits each. -/
def percentBytes (done : List UInt8) (c : Cursor) : Except Refusal (List UInt8 × Cursor) :=
  if c.peek ≠ '%' then .ok (done, c)
  else match hexDigit? (c.peekAt 1), hexDigit? (c.peekAt 2) with
    | some a, some b =>
      let next := c.forwardBy 3
      if next.left < c.left then percentBytes (done ++ [UInt8.ofNat (16 * a + b)]) next
      else .error .malformed
    | _, _ => .error .malformed
termination_by c.left

/-- The text of a tag, with percent signs decoded. -/
def tagText (done : List Char) (c : Cursor) : Except Refusal (List Char × Cursor) :=
  if !isTagChar c.peek then .ok (done, c)
  else
    let piece : Except Refusal (List Char × Cursor) :=
      if c.peek = '%' then do
        let (bytes, stop) ← c.percentBytes []
        match Text.decode? bytes with
        | some s => .ok (s.toList, stop)
        | none => .error .malformed
      else .ok (c.takeWhile fun ch => isTagChar ch && ch != '%')
    match piece with
    | .error e => .error e
    | .ok (text, next) =>
      if next.left < c.left then tagText (done ++ text) next else .ok (done ++ text, next)
termination_by c.left

/-- The text of a tag, which must not be empty. -/
def tagSuffix (c : Cursor) : Except Refusal (String × Cursor) := do
  let (text, stop) ← c.tagText []
  if stop.left = c.left then .error .malformed else .ok (String.ofList text, stop)

/-- A tag: written out between angle brackets, or with a handle, or an exclamation mark alone. -/
def tag (c : Cursor) : Except Refusal (Option String × String × Cursor) := do
  let (handle, suffix, stop) ←
    if c.peekAt 1 = '<' then do
      let (suffix, stop) ← (c.forwardBy 2).tagSuffix
      if stop.peek = '>' then Except.ok (none, suffix, stop.forward) else .error .malformed
    else if isGapOrEnd (c.peekAt 1) then Except.ok (none, "!", c.forward)
    else do
      let word := (c.rest.drop 1).takeWhile (!isSpaceOrEnd ·)
      let (handle, stop) ← if word.contains '!' then c.tagHandle else .ok ("!", c.forward)
      let (suffix, stop) ← stop.tagSuffix
      .ok (some handle, suffix, stop)
  if isSpaceOrEnd stop.peek then .ok (handle, suffix, stop) else .error .malformed

/-! ## Directives -/

/-- A whole number in decimal digits. -/
def decimal (c : Cursor) : Except Refusal (Nat × Cursor) :=
  let (ds, stop) := c.takeWhile Char.isDigit
  if ds.isEmpty then .error .malformed
  else .ok (Text.ofDigits 10 (ds.filterMap Text.asciiDigit?), stop)

/-- A directive and the place on the next line, the cursor being at the percent sign. -/
def directive (c : Cursor) : Except Refusal (Directive × Cursor) := do
  let (word, stop) := c.forward.takeWhile isNameChar
  if word.isEmpty ∨ !isSpaceOrEnd stop.peek then .error .malformed
  else
    let (d, stop) ←
      if word = "YAML".toList then do
        let (major, stop) ← stop.skipSpaces.decimal
        if stop.peek ≠ '.' then Except.error .malformed
        else
          let (_, stop) ← stop.forward.decimal
          if isSpaceOrEnd stop.peek then Except.ok (.version major, stop) else .error .malformed
      else if word = "TAG".toList then do
        let (handle, stop) ← stop.skipSpaces.tagHandle
        if stop.peek ≠ ' ' then Except.error .malformed
        else
          let (beginning, stop) ← stop.skipSpaces.tagSuffix
          if isSpaceOrEnd stop.peek then Except.ok (.handle handle beginning, stop)
          else .error .malformed
      else Except.ok (.other, stop.skipWhile (!isBreak ·))
    .ok (d, ← stop.finishLine)

end Cursor

end ApiModel.Yaml
