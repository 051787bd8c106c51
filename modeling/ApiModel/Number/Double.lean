/-!
# Floating point numbers

A `Double` is a 64-bit binary floating point number, kept as its bit pattern, so that two of them
are equal exactly when they are the same number with the same sign. Its arithmetic is done on
natural numbers: a finite magnitude is `significand * 2 ^ scale / 2 ^ 1074`, and `nearest` rounds
a quotient of natural numbers to the closest magnitude, a tie going to the even significand.

* `Double.ofParts_isNegative`: the sign of a number is the one it is built with.
-/

namespace ApiModel

/-- A 64-bit binary floating point number, as its bit pattern. -/
structure Double where
  /-- Sign, eleven bits of exponent and fifty-two bits of fraction. -/
  bits : BitVec 64
  deriving DecidableEq, Repr, Inhabited

namespace Double

/-- A power of two. -/
def twoTo (n : Nat) : Nat := Nat.pow 2 n

/-! ## Parts of the bit pattern -/

/-- Whether the sign bit is set. -/
def isNegative (x : Double) : Bool := x.bits.msb

/-- The number without its sign. -/
def magnitudeBits (x : Double) : Nat := x.bits.toNat % twoTo 63

/-- The biased exponent. -/
def exponent (x : Double) : Nat := x.magnitudeBits / twoTo 52

/-- The trailing fifty-two bits. -/
def fraction (x : Double) : Nat := x.bits.toNat % twoTo 52

/-- Whether the pattern stands for no number. -/
def isNaN (x : Double) : Bool := x.exponent == 2047 && x.fraction != 0

/-- Whether the pattern stands for an infinity. -/
def isInfinite (x : Double) : Bool := x.exponent == 2047 && x.fraction == 0

/-- Whether the pattern stands for a real number. -/
def isFinite (x : Double) : Bool := x.exponent != 2047

/-- The whole-number factor of a finite magnitude. -/
def significand (x : Double) : Nat :=
  if x.exponent = 0 then x.fraction else twoTo 52 + x.fraction

/-- The power of two that goes with `significand`, counted from the least magnitude. -/
def scale (x : Double) : Nat := x.exponent - 1

/-- Whether the number is a zero of either sign. -/
def isZero (x : Double) : Bool := x.magnitudeBits == 0

/-! ## Building numbers -/

/-- The bits of the infinite magnitude. -/
def infinityBits : Nat := 2047 * twoTo 52

/-- A number from its sign and the bits of its magnitude. -/
def ofParts (negative : Bool) (magnitude : Nat) : Double :=
  ⟨BitVec.ofNat 64 (negative.toNat * twoTo 63 + magnitude % twoTo 63)⟩

theorem ofParts_isNegative (negative : Bool) (magnitude : Nat) :
    (ofParts negative magnitude).isNegative = negative := by
  cases negative <;> simp [ofParts, isNegative, twoTo, BitVec.msb_eq_decide] <;> omega

/-- Infinity of the given sign. -/
def infinity (negative : Bool) : Double := ofParts negative infinityBits

/-- The pattern used for "not a number". -/
def nan : Double := ofParts false (infinityBits + twoTo 51)

/-- Zero of the given sign. -/
def zero (negative : Bool) : Double := ofParts negative 0

/-- The quotient `num / den` rounded to the nearest whole number, a half going to the even one. -/
def roundQuotient (num den : Nat) : Nat :=
  let floor := num / den
  let twice := 2 * (num % den)
  if twice < den then floor
  else if twice > den then floor + 1
  else floor + floor % 2

/-- The number of the given sign nearest to `num / den`; beyond the largest it is infinite. -/
def nearest (negative : Bool) (num den : Nat) : Double :=
  let units := num * twoTo 1074
  let shift := (units / den).log2 - 52
  let bits := shift * twoTo 52 + roundQuotient units (den * twoTo shift)
  ofParts negative (min bits infinityBits)

/-- The number nearest to a whole number. -/
def ofInt (n : Int) : Double := nearest (n < 0) n.natAbs 1

/-! ## Comparing and calculating -/

/-- The magnitude in units of the least one. -/
def units (x : Double) : Nat := x.significand * twoTo x.scale

/-- The whole number the value is, when it is one. -/
def toInt? (x : Double) : Option Int :=
  if x.isFinite && x.units % twoTo 1074 == 0 then
    let n : Int := (x.units / twoTo 1074 : Nat)
    some (if x.isNegative then -n else n)
  else none

/-- Whether two patterns are the same number: they are one pattern, or zeros of both signs. The
patterns for "not a number" are told apart, and each is the same as itself. -/
def same (x y : Double) : Bool := x.bits == y.bits || (x.isZero && y.isZero)

/-- The number with the opposite sign. -/
def negate (x : Double) : Double := ofParts (!x.isNegative) x.magnitudeBits

/-- A finite number in units of the least magnitude. -/
def signedUnits (x : Double) : Int := if x.isNegative then -(x.units : Int) else x.units

/-- The sum of two numbers. Infinities of opposite signs have none. -/
def add (x y : Double) : Double :=
  if x.isNaN || y.isNaN then nan
  else if x.isInfinite then if y.isInfinite && x.isNegative != y.isNegative then nan else x
  else if y.isInfinite then y
  else
    let sum := x.signedUnits + y.signedUnits
    if sum = 0 then zero (x.isNegative && y.isNegative)
    else nearest (sum < 0) sum.natAbs (twoTo 1074)

/-- The product of two numbers. An infinity and zero have none. -/
def mul (x y : Double) : Double :=
  let negative := x.isNegative != y.isNegative
  if x.isNaN || y.isNaN then nan
  else if x.isInfinite || y.isInfinite then
    if x.isZero || y.isZero then nan else infinity negative
  else nearest negative (x.units * y.units) (twoTo 1074 * twoTo 1074)

/-- One of the patterns for "not a number", each with a label of its own; `nan` has the label
zero. -/
def nanLabelled (label : Nat) : Double := ofParts false (infinityBits + twoTo 51 + label)

end Double

end ApiModel
