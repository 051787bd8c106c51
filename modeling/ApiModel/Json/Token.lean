import ApiModel.Number.Decimal
import ApiModel.Text.Integer
import ApiModel.Value.Basic

/-!
# JSON tokens

A JSON text is cut into tokens, each with the place where it starts. Between tokens stand spaces,
tabs, newlines and carriage returns. Cutting never fails: a text literal that is broken off becomes
a `broken` token, which ends the list, a character that begins no token becomes a `stray` one, and
the reader complains if it gets there. Besides the standard's numbers the words `NaN`, `Infinity`
and `-Infinity` are numbers.
-/

namespace ApiModel.Json

/-! ## What can be wrong -/

/-- What a reader of JSON text can complain about. -/
inductive Problem where
  /-- There is no value where one must stand. -/
  | expectingValue
  /-- There is no name where a member of an object must begin. -/
  | expectingName
  /-- There is no colon after the name of a member. -/
  | expectingColon
  /-- There is neither a comma nor the end of the array or object. -/
  | expectingComma
  /-- Something follows the value. -/
  | extraData
  /-- A text literal has no end. -/
  | unterminatedText
  /-- A control character stands in a text literal. -/
  | controlCharacter
  /-- A backslash stands before a character that it cannot stand before. -/
  | unknownEscape
  /-- A `\u` stands without four hexadecimal digits. -/
  | brokenCode
  /-- The text begins with a byte order mark. -/
  | byteOrderMark
  deriving DecidableEq, Repr

/-- The wording of a complaint. -/
def Problem.message : Problem → String
  | .expectingValue => "Expecting value"
  | .expectingName => "Expecting property name enclosed in double quotes"
  | .expectingColon => "Expecting ':' delimiter"
  | .expectingComma => "Expecting ',' delimiter"
  | .extraData => "Extra data"
  | .unterminatedText => "Unterminated string starting at"
  | .controlCharacter => "Invalid control character at"
  | .unknownEscape => "Invalid \\escape"
  | .brokenCode => "Invalid \\uXXXX escape"
  | .byteOrderMark => "Unexpected UTF-8 BOM (decode using utf-8-sig)"

/-! ## Tokens -/

/-- A token of JSON text. -/
inductive Token where
  /-- An opening brace. -/
  | openObject
  /-- A closing brace. -/
  | closeObject
  /-- An opening bracket. -/
  | openArray
  /-- A closing bracket. -/
  | closeArray
  /-- A comma. -/
  | comma
  /-- A colon. -/
  | colon
  /-- A text literal. -/
  | text (s : String)
  /-- A word or number. -/
  | scalar (s : Scalar)
  /-- A whole number with more digits than are read. -/
  | tooLong
  /-- A text literal that is broken off, with the place of the fault counted from its start. -/
  | broken (problem : Problem) (offset : Nat)
  /-- A character that begins no token. -/
  | stray
  deriving DecidableEq

/-- A token with the place where it starts. -/
structure Placed where
  /-- The token. -/
  token : Token
  /-- The number of characters before it. -/
  start : Nat

/-- Whether a character may stand between tokens. -/
def isGap (c : Char) : Bool := c == ' ' || c == '\t' || c == '\n' || c == '\r'

/-! ## Text literals -/

/-- The value of four hexadecimal digits at the start. -/
def code? : List Char → Option Nat
  | a :: b :: c :: d :: _ => do
    let ds ← [a, b, c, d].mapM fun x => if x.toNat < 0x80 then Text.digitOf? 16 x else none
    some (Text.ofDigits 16 ds)
  | _ => none

/-- The character with a code. The codes of halves of pairs are no characters. -/
def charOfCode (code : Nat) : Char :=
  if 0xD800 ≤ code ∧ code ≤ 0xDFFF then Char.ofNat 0xFFFD else Char.ofNat code

/-- The character that an escape stands for, and how many characters after the backslash it takes.
Two codes that are the halves of a pair stand for one character. -/
def escape : List Char → Except Problem (Char × Nat)
  | 'u' :: r =>
    if r.length ≤ 4 then .error .brokenCode
    else match code? r with
      | none => .error .brokenCode
      | some high =>
        match r.drop 4 with
        | '\\' :: 'u' :: s =>
          if 0xD800 ≤ high ∧ high ≤ 0xDBFF ∧ 4 < s.length then
            match code? s with
            | none => .error .brokenCode
            | some low =>
              if 0xDC00 ≤ low ∧ low ≤ 0xDFFF then
                .ok (Char.ofNat (0x10000 + (high - 0xD800) * 0x400 + (low - 0xDC00)), 11)
              else .ok (charOfCode high, 5)
          else .ok (charOfCode high, 5)
        | _ => .ok (charOfCode high, 5)
  | '"' :: _ => .ok ('"', 1)
  | '\\' :: _ => .ok ('\\', 1)
  | '/' :: _ => .ok ('/', 1)
  | 'b' :: _ => .ok ('\x08', 1)
  | 'f' :: _ => .ok ('\x0c', 1)
  | 'n' :: _ => .ok ('\n', 1)
  | 'r' :: _ => .ok ('\r', 1)
  | 't' :: _ => .ok ('\t', 1)
  | [] => .error .unterminatedText
  | _ => .error .unknownEscape

/-- The place of a fault in an escape, the backslash being at `slash`. The code that lacks a digit
may be the second of a pair. -/
def faultPlace (slash : Nat) (problem : Problem) (r : List Char) : Nat :=
  match problem with
  | .unterminatedText => 0
  | .brokenCode =>
    if r.length ≤ 5 ∨ (code? (r.drop 1)).isNone then slash + 1 else slash + 7
  | _ => slash

/-- The characters of a text literal after its opening mark, of which `width` are read already, and
the number of characters it takes without that mark. -/
def literal (width : Nat) (done : List Char) (cs : List Char) :
    Except (Problem × Nat) (List Char × Nat) :=
  match cs with
  | [] => .error (.unterminatedText, 0)
  | '"' :: _ => .ok (done.reverse, width + 1)
  | '\\' :: r =>
    match escape r with
    | .error p => .error (p, faultPlace (width + 1) p r)
    | .ok (c, n) => literal (width + 1 + n) (c :: done) (r.drop n)
  | c :: r =>
    if c.toNat ≤ 0x1F then .error (.controlCharacter, width + 1)
    else literal (width + 1) (c :: done) r
termination_by cs.length

/-! ## Numbers -/

/-- Whether a character is one of the digits `0` to `9`. -/
def isDigit (c : Char) : Bool := '0' ≤ c && c ≤ '9'

/-- The number that decimal digits write. -/
def natOfDigits (ds : List Char) : Nat := Text.ofDigits 10 (ds.map fun c => c.toNat - '0'.toNat)

/-- The digits before the point: a zero, or digits that do not start with one. -/
def wholeDigits : List Char → List Char
  | '0' :: _ => ['0']
  | cs => cs.takeWhile isDigit

/-- The digits after a point, if the text goes on with a point and a digit. -/
def fractionDigits : List Char → List Char
  | '.' :: r => r.takeWhile isDigit
  | _ => []

/-- The exponent, if the text goes on with one, and the characters it takes. -/
def exponentPart? : List Char → Option (Int × Nat)
  | e :: r =>
    if e = 'e' ∨ e = 'E' then
      let (negative, s) := Text.takeSign r
      let ds := s.takeWhile isDigit
      if ds.isEmpty then none
      else
        let n : Int := natOfDigits ds
        some (if negative then -n else n, 1 + (r.length - s.length) + ds.length)
    else none
  | [] => none

/-- The number at the start of a text, and the characters it takes. -/
def number? (cs : List Char) : Option (Token × Nat) :=
  let (negative, rest) : Bool × List Char := match cs with | '-' :: r => (true, r) | r => (false, r)
  let sign := if negative then 1 else 0
  let whole := wholeDigits rest
  if whole.isEmpty then none
  else
    let afterWhole := rest.drop whole.length
    let fraction := fractionDigits afterWhole
    let fractionWidth := if fraction.isEmpty then 0 else fraction.length + 1
    let power := exponentPart? (afterWhole.drop fractionWidth)
    let width := sign + whole.length + fractionWidth + (power.map (·.2)).getD 0
    if fraction.isEmpty ∧ power.isNone then
      if Text.maxDigits < whole.length then some (.tooLong, width)
      else
        let n : Int := natOfDigits whole
        some (.scalar (.int (if negative then -n else n)), width)
    else
      let e := (power.map (·.1)).getD 0 - fraction.length
      some (.scalar (.float (Decimal.toDouble negative (natOfDigits (whole ++ fraction)) e)), width)

/-! ## Cutting -/

/-- The words that are values. -/
def words : List (String × Scalar) :=
  [("null", .null), ("true", .bool true), ("false", .bool false), ("NaN", .float .nan),
    ("Infinity", .float (.infinity false)), ("-Infinity", .float (.infinity true))]

/-- The token that begins with the character, and the number of further characters it takes. -/
def tokenAt (c : Char) (r : List Char) : Token × Nat :=
  match c with
  | '\x7b' => (.openObject, 0)
  | '\x7d' => (.closeObject, 0)
  | '[' => (.openArray, 0)
  | ']' => (.closeArray, 0)
  | ',' => (.comma, 0)
  | ':' => (.colon, 0)
  | '"' =>
    match literal 0 [] r with
    | .ok (cs, n) => (.text (String.ofList cs), n)
    | .error (p, offset) => (.broken p offset, r.length)
  | _ =>
    match words.find? fun w => w.1.toList.isPrefixOf (c :: r) with
    | some (w, s) => (.scalar s, w.length - 1)
    | none =>
      match number? (c :: r) with
      | some (t, n) => (t, n - 1)
      | none => (.stray, 0)

/-- The tokens of a text of which `start` characters are cut already. -/
def tokensFrom (start : Nat) (cs : List Char) : List Placed :=
  match cs with
  | [] => []
  | c :: r =>
    if isGap c then tokensFrom (start + 1) r
    else
      let (t, n) := tokenAt c r
      ⟨t, start⟩ :: tokensFrom (start + 1 + n) (r.drop n)
termination_by cs.length

/-- The tokens of a text. -/
def tokens (cs : List Char) : List Placed := tokensFrom 0 cs

end ApiModel.Json
