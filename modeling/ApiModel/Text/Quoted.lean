import ApiModel.Text.Printable

/-!
# Quoted text

Text in a message stands between apostrophes, or between quotation marks when it holds an
apostrophe and no quotation mark. A backslash stands before the mark in use and before another
backslash; tab, newline and carriage return are written with their letters, other characters
without a visible form by their code in two, four or eight hexadecimal digits. Bytes are written
the same way after a `b`, all but the visible ASCII characters by their code.
-/

namespace ApiModel.Text

/-- The hexadecimal digits of a number, with zeros in front up to a width. -/
def hex (width n : Nat) : String :=
  let ds := Nat.toDigits 16 n
  String.ofList (List.replicate (width - ds.length) '0' ++ ds)

/-- The mark around a text. -/
def quoteMark (cs : List Char) : Char :=
  if cs.contains '\'' && !cs.contains '"' then '"' else '\''

/-- One character between the given marks. -/
def quoteChar (mark c : Char) : String :=
  if c = mark ∨ c = '\\' then String.ofList ['\\', c]
  else if c = '\t' then "\\t"
  else if c = '\n' then "\\n"
  else if c = '\r' then "\\r"
  else if isPrintable c then c.toString
  else if c.toNat ≤ 0xFF then "\\x" ++ hex 2 c.toNat
  else if c.toNat ≤ 0xFFFF then "\\u" ++ hex 4 c.toNat
  else "\\U" ++ hex 8 c.toNat

/-- A text between its marks. -/
def quote (s : String) : String :=
  let mark := quoteMark s.toList
  mark.toString ++ String.join (s.toList.map (quoteChar mark)) ++ mark.toString

/-- One byte between the given marks. -/
def quoteByte (mark : Char) (b : UInt8) : String :=
  if b.toNat < 0x7F then quoteChar mark (Char.ofNat b.toNat) else "\\x" ++ hex 2 b.toNat

/-- Bytes between their marks. -/
def quoteBytes (bs : List UInt8) : String :=
  let mark := quoteMark (bs.map fun b => Char.ofNat b.toNat)
  "b" ++ mark.toString ++ String.join (bs.map (quoteByte mark)) ++ mark.toString

/-- The text that bytes encode, unless they encode none. -/
def decode? (bs : List UInt8) : Option String := String.fromUTF8? ⟨bs.toArray⟩

/-- The bytes that encode a text. -/
def encode (s : String) : List UInt8 := s.toUTF8.toList

end ApiModel.Text
