import ApiModel.Text.Blank
import ApiModel.Text.Digit

/-!
# Whole numbers in text

A whole number may stand between blanks (`isMargin`), have a sign, and have single underscores
between its digits, which may come from any script. In the bases 2, 8 and 16 it may begin with a
zero and the letter of the base. Numbers in other bases have at most `maxDigits` digits.
-/

namespace ApiModel.Text

/-- The greatest count of digits in a number whose base is no power of two. -/
def maxDigits : Nat := 4300

/-- The values of digits, of which each but the last may have an underscore after it. -/
def groupedDigits? (base : Nat) : List Char → Option (List Nat)
  | [] => none
  | [c] => (digitOf? base c).map ([·])
  | c :: '_' :: r => do
    let d ← digitOf? base c
    let ds ← groupedDigits? base r
    some (d :: ds)
  | c :: r => do
    let d ← digitOf? base c
    let ds ← groupedDigits? base r
    some (d :: ds)

/-- A sign, if there is one, and what follows it: the flag says whether it is a minus. -/
def takeSign : List Char → Bool × List Char
  | '-' :: r => (true, r)
  | '+' :: r => (false, r)
  | r => (false, r)

/-- The digits after the mark of the base (`0b`, `0o`, `0x`), if it is there. -/
def dropMark (base : Nat) (cs : List Char) : List Char :=
  let letter : Option Char :=
    if base = 2 then some 'b' else if base = 8 then some 'o' else if base = 16 then some 'x'
    else none
  match cs, letter with
  | '0' :: c :: r, some l =>
    if c = l ∨ c = l.toUpper then (match r with | '_' :: r => r | r => r) else cs
  | _, _ => cs

/-- The whole number that a text writes in a base. -/
def readInteger? (base : Nat) (cs : List Char) : Option Int := do
  let (negative, rest) := takeSign (trim isMargin cs)
  let digits ← groupedDigits? base (dropMark base rest)
  if base ∉ [2, 4, 8, 16] ∧ maxDigits < digits.length then none
  else
    let n : Int := ofDigits base digits
    some (if negative then -n else n)

end ApiModel.Text
