import ApiModel.Number.Double

/-!
# Decimal text of floating point numbers

A finite number is written with the fewest decimal digits that read back as the same number, and
of those with the nearest. `Decimal.shortest` finds the digits: it walks through the grids of
1, 2, … 17 digits and tests the two neighbours of the number on each against the interval of reals
that round to it. `Decimal.Style` holds what a format adds to the digits, and `Decimal.read?`
goes from text to the nearest number.
-/

namespace ApiModel.Decimal

/-! ## Shortest digits -/

/-- The reals that round to a finite nonzero magnitude, in quarters of the least magnitude. -/
structure Interval where
  /-- The magnitude itself. -/
  value : Nat
  /-- The lower end. -/
  lower : Nat
  /-- The upper end. -/
  upper : Nat
  /-- Whether the ends belong to it, which they do for an even significand. -/
  closed : Bool

/-- The interval of a finite nonzero magnitude: half a step to each side, and only a quarter
downwards where the step changes. -/
def Interval.of (x : Double) : Interval :=
  let step := Double.twoTo x.scale
  let value := 4 * x.significand * step
  let below := if x.significand = Double.twoTo 52 ∧ 0 < x.scale then step else 2 * step
  ⟨value, value - below, value + 2 * step, x.significand % 2 == 0⟩

/-- Whether `num / den` quarters lie in the interval. -/
def Interval.holds (i : Interval) (num den : Nat) : Bool :=
  if i.closed then i.lower * den ≤ num && num ≤ i.upper * den
  else i.lower * den < num && num < i.upper * den

/-- The quarters in one whole. -/
def quarters : Nat := 4 * Double.twoTo 1074

/-- Ten to an integer power, as a quotient. -/
def tenTo (e : Int) : Nat × Nat :=
  if e < 0 then (1, Nat.pow 10 e.natAbs) else (Nat.pow 10 e.toNat, 1)

/-- The multiple of `10 ^ e` nearest to the value among those that lie in the interval, if one of
the value's two neighbours on that grid does. -/
def onGrid? (i : Interval) (e : Int) : Option Nat :=
  let (num, den) := tenTo e
  let step := num * quarters
  let low := i.value * den / step
  let hit (n : Nat) : Bool := i.holds (n * step) den
  match hit low, hit (low + 1) with
  | true, true =>
    let down := i.value * den - low * step
    let up := (low + 1) * step - i.value * den
    if down < up then some low
    else if up < down then some (low + 1)
    else some (low + low % 2)
  | true, false => some low
  | false, true => some (low + 1)
  | false, false => none

/-- The exponent `e` for which the magnitude lies between `10 ^ e` and `10 ^ (e + 1)`. -/
def magnitude (i : Interval) : Int :=
  let guess : Int := ((i.value.log2 : Int) - 1076) * 30103 / 100000
  let reaches (e : Int) : Bool :=
    let (num, den) := tenTo e
    num * quarters ≤ i.value * den
  if reaches (guess + 1) then guess + 1 else if reaches guess then guess else guess - 1

/-- The first grid with a hit, from `digits` digits up to seventeen. -/
def search (i : Interval) (top : Int) (digits : Nat) : Nat × Int :=
  let e := top - (digits : Int) + 1
  match onGrid? i e with
  | some n => (n, e)
  | none => if digits < 17 then search i top (digits + 1) else (i.value / quarters, 0)
termination_by 17 - digits

/-- The digits `n` and the exponent `e` of the shortest decimal `n * 10 ^ e` that reads back as the
finite nonzero magnitude. -/
def shortest (x : Double) : Nat × Int :=
  let i := Interval.of x
  search i (magnitude i) 1

/-! ## Written form -/

/-- What a format adds to the digits of a number. -/
structure Style where
  /-- Positional notation is used while the point stands after this many digits or fewer. -/
  maxPoint : Int
  /-- Positional notation is used while the point stands at this place or later. -/
  minPoint : Int
  /-- The text of infinity. -/
  infinity : String
  /-- The text of "not a number". -/
  nan : String

/-- The decimal digits of a number, without trailing zeros, and the place of its point counted from
the first digit. -/
def digitsAndPoint (x : Double) : List Char × Int :=
  let (n, e) := shortest x
  let ds := (toString n).toList
  ((ds.reverse.dropWhile (· == '0')).reverse, (ds.length : Int) + e)

/-- The exponent part: a sign and at least two digits. -/
def exponentText (e : Int) : String :=
  let digits := toString e.natAbs
  "e" ++ (if e < 0 then "-" else "+") ++ (if digits.length < 2 then "0" ++ digits else digits)

/-- A finite nonzero magnitude in the given style. -/
def magnitudeText (style : Style) (x : Double) : String :=
  let (ds, point) := digitsAndPoint x
  let count : Int := ds.length
  if style.minPoint ≤ point ∧ point ≤ style.maxPoint then
    if point ≤ 0 then
      "0." ++ String.ofList (List.replicate point.natAbs '0' ++ ds)
    else if count ≤ point then
      String.ofList (ds ++ List.replicate (point - count).toNat '0') ++ ".0"
    else
      String.ofList (ds.take point.toNat) ++ "." ++ String.ofList (ds.drop point.toNat)
  else
    let tail := ds.drop 1
    String.ofList (ds.take 1)
      ++ (if tail.isEmpty then "" else "." ++ String.ofList tail)
      ++ exponentText (point - 1)

/-- A number in the given style. -/
def text (style : Style) (x : Double) : String :=
  if x.isNaN then style.nan
  else
    (if x.isNegative then "-" else "") ++
      (if x.isInfinite then style.infinity
       else if x.isZero then "0.0"
       else magnitudeText style x)

/-- The style of messages and answers: positional from `0.0001` up to sixteen digits before the
point. -/
def plain : Style := ⟨16, -3, "inf", "nan"⟩

/-! ## Reading -/

/-- The number nearest to `digits * 10 ^ e`. Exponents so large that the result can only be
infinite or zero are answered without computing the power. -/
def toDouble (negative : Bool) (digits : Nat) (e : Int) : Double :=
  if digits = 0 then .zero negative
  else
    let top : Int := (toString digits).length + e
    if top > 310 then .infinity negative
    else if top < -330 then .zero negative
    else
      let (num, den) := tenTo e
      .nearest negative (digits * num) den

end ApiModel.Decimal
