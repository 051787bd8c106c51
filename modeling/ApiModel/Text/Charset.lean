import ApiModel.Fault
import ApiModel.Text.SingleBytes

/-!
# Encodings of texts

A `Charset` says how bytes encode a text. Decoding never stops: bytes that encode nothing become the
replacement character, the longest beginning of a character together as one. Only where the order of
bytes is left to a mark at their start, the mark must be there.

* `decode_ascii`: the bytes of ASCII text are its characters, in ASCII and in UTF-8.
-/

namespace ApiModel.Text

/-- The character that stands for bytes that encode nothing. -/
def replacement : Char := '\ufffd'

/-! ## Units of one byte -/

/-- The character of a byte in an encoding with some further characters. -/
def singleByteChar (upper : Array Char) (b : UInt8) : Char :=
  let n := b.toNat
  let controls := if upper.size = 96 then 32 else 0
  if n < 0x80 + controls then Char.ofNat n else upper.getD (n - 0x80 - controls) replacement

/-- What the first byte of a character in UTF-8 says: how many bytes follow, the bounds of the next
one, and the bits of the code so far. -/
def utf8Lead? (n : Nat) : Option (Nat × Nat × Nat × Nat) :=
  if 0xC2 ≤ n ∧ n ≤ 0xDF then some (1, 0x80, 0xBF, n % 32)
  else if n = 0xE0 then some (2, 0xA0, 0xBF, 0)
  else if n = 0xED then some (2, 0x80, 0x9F, 13)
  else if 0xE1 ≤ n ∧ n ≤ 0xEF then some (2, 0x80, 0xBF, n % 16)
  else if n = 0xF0 then some (3, 0x90, 0xBF, 0)
  else if 0xF1 ≤ n ∧ n ≤ 0xF3 then some (3, 0x80, 0xBF, n % 8)
  else if n = 0xF4 then some (3, 0x80, 0x8F, 4)
  else none

/-- The characters of bytes in UTF-8. Of a character that has begun, `owed` bytes are missing, the
next between two bounds, and `code` holds its bits so far. -/
def ofUtf8 (owed low high code : Nat) : List UInt8 → List Char
  | [] => if owed = 0 then [] else [replacement]
  | b :: rest =>
    let n := b.toNat
    if owed ≠ 0 ∧ low ≤ n ∧ n ≤ high then
      let code := 64 * code + n % 64
      if owed = 1 then Char.ofNat code :: ofUtf8 0 0 0 0 rest
      else ofUtf8 (owed - 1) 0x80 0xBF code rest
    else
      (if owed = 0 then [] else [replacement]) ++
        if n < 0x80 then Char.ofNat n :: ofUtf8 0 0 0 0 rest
        else match utf8Lead? n with
          | some (owed, low, high, code) => ofUtf8 owed low high code rest
          | none => replacement :: ofUtf8 0 0 0 0 rest

/-! ## Units of several bytes -/

/-- The order of the bytes of a unit. -/
inductive ByteOrder where
  /-- The least byte comes first. -/
  | little
  /-- The greatest byte comes first. -/
  | big
  deriving DecidableEq, Repr

/-- The number that a unit of bytes writes. -/
def ByteOrder.number (o : ByteOrder) (unit : List UInt8) : Nat :=
  (if o = .big then unit else unit.reverse).foldl (fun n b => 256 * n + b.toNat) 0

/-- The character with a code; halves of pairs and codes beyond the last are none. -/
def charOfUnit (code : Nat) : Char :=
  if (0xD800 ≤ code ∧ code ≤ 0xDFFF) ∨ 0x10FFFF < code then replacement else Char.ofNat code

/-- The characters of bytes in UTF-16. -/
def ofUtf16 (o : ByteOrder) (bs : List UInt8) : List Char :=
  match bs with
  | [] => []
  | [_] => [replacement]
  | a :: b :: rest =>
    let unit := o.number [a, b]
    if 0xD800 ≤ unit ∧ unit ≤ 0xDBFF then
      match rest with
      | c :: d :: after =>
        let second := o.number [c, d]
        if 0xDC00 ≤ second ∧ second ≤ 0xDFFF then
          Char.ofNat (0x10000 + 1024 * (unit - 0xD800) + (second - 0xDC00)) :: ofUtf16 o after
        else replacement :: ofUtf16 o (c :: d :: after)
      | _ => [replacement]
    else charOfUnit unit :: ofUtf16 o rest
termination_by bs.length

/-- The characters of bytes in UTF-32. -/
def ofUtf32 (o : ByteOrder) : List UInt8 → List Char
  | [] => []
  | a :: b :: c :: d :: rest => charOfUnit (o.number [a, b, c, d]) :: ofUtf32 o rest
  | _ => [replacement]

/-! ## Encodings -/

/-- How bytes encode a text. -/
inductive Charset where
  /-- A byte for each character; these are the characters beyond ASCII. -/
  | singleByte (upper : String)
  /-- UTF-8; a mark at the start may be left out of the text. -/
  | utf8 (dropsMark : Bool)
  /-- UTF-16; without an order a mark at the start must say it. -/
  | utf16 (order : Option ByteOrder)
  /-- UTF-32; without an order a mark at the start must say it. -/
  | utf32 (order : Option ByteOrder)
  deriving DecidableEq

namespace Charset

/-- The names of the encodings that need no table. -/
def named : List (String × Charset) := [
  ("ascii us_ascii us 646 ansi_x3.4_1968 ansi_x3_4_1968 ansi_x3.4_1986 cp367 csascii ibm367 " ++
    "iso646_us iso_646.irv_1991 iso_ir_6", .singleByte ""),
  ("utf_8 utf8 utf u8 cp65001 utf8_ucs2 utf8_ucs4", .utf8 false),
  ("utf_8_sig", .utf8 true),
  ("utf_16 utf16 u16", .utf16 none),
  ("utf_16_le utf_16le unicodelittleunmarked", .utf16 (some .little)),
  ("utf_16_be utf_16be unicodebigunmarked", .utf16 (some .big)),
  ("utf_32 utf32 u32", .utf32 none),
  ("utf_32_le utf_32le", .utf32 (some .little)),
  ("utf_32_be utf_32be", .utf32 (some .big))]

/-- The letters, digits and points of a name, with a line in place of whatever else stands between
them. The first flag says that something stands before, the second that there is a gap. -/
def plainName (begun gap : Bool) : List Char → List Char
  | [] => []
  | c :: rest =>
    if c.isAlphanum || c == '.' then
      (if begun && gap then ['_', c.toLower] else [c.toLower]) ++ plainName true false rest
    else plainName begun true rest

/-- The encoding with a name. -/
def ofName? (name : String) : Option Charset :=
  let plain := String.ofList (plainName false false name.toList)
  let known (names : String) : Bool := (names.splitOn " ").contains plain
  ((named.find? fun e => known e.1).map (·.2)) <|>
    ((singleByteTables.find? fun e => known e.1).map fun e => .singleByte e.2)

/-- The characters of bytes whose order a mark at the start says. A single unit may lack it if it is
not complete. -/
def byMark (width : Nat) (characters : ByteOrder → List UInt8 → List Char) (bs : List UInt8) :
    Except Fault (List Char) :=
  let unit := bs.take width
  if unit.length < width then .ok (characters .little bs)
  else if ByteOrder.little.number unit = 0xFEFF then .ok (characters .little (bs.drop width))
  else if ByteOrder.big.number unit = 0xFEFF then .ok (characters .big (bs.drop width))
  else .error .noByteOrder

/-- The characters that bytes encode. -/
def characters (c : Charset) (bs : List UInt8) : Except Fault (List Char) :=
  match c with
  | .singleByte upper => .ok (bs.map (singleByteChar upper.toList.toArray))
  | .utf8 false => .ok (ofUtf8 0 0 0 0 bs)
  | .utf8 true =>
    match ofUtf8 0 0 0 0 bs with
    | '\ufeff' :: cs => .ok cs
    | cs => .ok cs
  | .utf16 (some o) => .ok (ofUtf16 o bs)
  | .utf16 none => byMark 2 ofUtf16 bs
  | .utf32 (some o) => .ok (ofUtf32 o bs)
  | .utf32 none => byMark 4 ofUtf32 bs

/-- The text that bytes encode. -/
def decode (c : Charset) (bs : List UInt8) : Except Fault String :=
  (c.characters bs).map String.ofList

theorem decode_ascii {bs : List UInt8} (h : ∀ b ∈ bs, b.toNat < 0x80) :
    (utf8 false).decode bs = (singleByte "").decode bs := by
  have hc : ofUtf8 0 0 0 0 bs = bs.map (singleByteChar #[]) := by
    induction bs with
    | nil => rfl
    | cons b r ih =>
      have hb := h b List.mem_cons_self
      simp [ofUtf8, hb, singleByteChar, ih fun c hm => h c (List.mem_cons_of_mem b hm)]
  simp [decode, characters, hc, Except.map]

end Charset

end ApiModel.Text
