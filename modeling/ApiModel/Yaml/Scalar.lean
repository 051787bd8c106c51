import ApiModel.Text.Case
import ApiModel.Yaml.Token
import ApiModel.Yaml.Tag
import ApiModel.Value.Basic

/-!
# What YAML scalars stand for

The value of a scalar with a tag of the standard. A scalar whose content does not have the form
that its tag asks for runs into a fault, one without such a tag is refused.
-/

namespace ApiModel.Yaml.Scalar

/-! ## Numbers -/

/-- A text without its underscores. -/
def dropLines (cs : List Char) : List Char := cs.filter (· != '_')

/-- A sign, if there is one, and what follows it; there must be a character. -/
def signed (cs : List Char) : Except Refusal (Bool × List Char) :=
  if cs.isEmpty then .error (.fault .noItem) else .ok (Text.takeSign cs)

/-- A whole number in a base. -/
def integer (base : Nat) (cs : List Char) : Except Refusal Int :=
  match Text.readInteger? base cs with
  | some n => .ok n
  | none => .error (.fault .badValue)

/-- A whole number without its sign, in the base that its start shows. -/
def wholeMagnitude (cs : List Char) : Except Refusal Int :=
  match cs with
  | ['0'] => .ok 0
  | '0' :: 'b' :: r => integer 2 r
  | '0' :: 'x' :: r => integer 16 r
  | '0' :: _ => integer 8 cs
  | [] => .error (.fault .noItem)
  | _ => do
    if cs.contains ':' then
      let parts ← (Text.pieces ':' cs).mapM (integer 10)
      return parts.foldl (fun n d => 60 * n + d) 0
    else integer 10 cs

/-- A whole number. -/
def whole (cs : List Char) : Except Refusal Int := do
  let (negative, rest) ← signed (dropLines cs)
  let n ← wholeMagnitude rest
  return if negative then -n else n

/-- The digits at the start, of any script, and what follows. -/
def takeDigits (cs : List Char) : List Nat × List Char :=
  let ds := cs.takeWhile fun c => (Text.digitValue? c).isSome
  (ds.filterMap Text.digitValue?, cs.drop ds.length)

/-- The exponent that a text consists of, zero if it is empty. -/
def exponent? : List Char → Option Int
  | [] => some 0
  | e :: r =>
    if e = 'e' ∨ e = 'E' then
      let (negative, r) := Text.takeSign r
      let (ds, rest) := takeDigits r
      if ds.isEmpty ∨ !rest.isEmpty then none
      else
        let n : Int := Text.ofDigits 10 ds
        some (if negative then -n else n)
    else none

/-- The floating point number that a text without a sign consists of. -/
def float? (negative : Bool) (cs : List Char) : Option Double :=
  let word := Text.lower (String.ofList cs)
  if word = "inf" ∨ word = "infinity" then some (.infinity negative)
  else if word = "nan" then some .nan
  else
    let (ds, r) := takeDigits cs
    let (fs, r) := match r with | '.' :: r => takeDigits r | r => ([], r)
    if ds.isEmpty ∧ fs.isEmpty then none
    else do
      let e ← exponent? r
      some (Decimal.toDouble negative (Text.ofDigits 10 (ds ++ fs)) (e - fs.length))

/-- A floating point number between blanks, with or without a sign. -/
def float (cs : List Char) : Except Refusal Double :=
  let (negative, r) := Text.takeSign (Text.trim Text.isMargin cs)
  match float? negative r with
  | some x => .ok x
  | none => .error (.fault .badValue)

/-- The sum of sixtieths: the last part counts once, the one before it sixty times, and so on. Each
step is rounded, and what a part counts for must be within the range of such numbers. -/
def sixtieths (base : Nat) (sum : Double) : List Double → Except Refusal Double
  | [] => .ok sum
  | d :: ds =>
    let factor := Double.ofInt base
    if factor.isInfinite then .error (.fault .overflow)
    else sixtieths (60 * base) (sum.add (d.mul factor)) ds

/-- A number with a point, in base 10 or 60. What is no number gets a label, unless it is written
like that. -/
def pointed (label : Nat) (cs : List Char) : Except Refusal Double := do
  let lowered := (Text.lower (String.ofList (dropLines cs))).toList
  let (negative, rest) ← signed lowered
  if rest = ".inf".toList then return .infinity negative
  else if rest = ".nan".toList then return .nan
  else
    let x ←
      if rest.contains ':' then
        sixtieths 1 (.zero false) (← (Text.pieces ':' rest).mapM float).reverse
      else float rest
    return if x.isNaN then .nanLabelled label else if negative then x.negate else x

/-! ## Bytes -/

/-- The value of a character in base 64. -/
def sixtyFourth? (c : Char) : Option Nat :=
  let n := c.toNat
  if 'A' ≤ c ∧ c ≤ 'Z' then some (n - 65)
  else if 'a' ≤ c ∧ c ≤ 'z' then some (n - 71)
  else if '0' ≤ c ∧ c ≤ '9' then some (n + 4)
  else if c = '+' then some 62
  else if c = '/' then some 63
  else none

/-- The bytes that characters in base 64 stand for. `group` is the number of characters of the
current group of four, `carry` what they leave over, `pads` the number of equals signs met in it.
Other characters are passed over, and enough equals signs end the bytes. -/
def bytesOf (group carry pads : Nat) : List Char → Option (List UInt8)
  | [] => if group = 0 then some [] else none
  | c :: r =>
    if c = '=' then
      if 2 ≤ group ∧ 4 ≤ group + pads + 1 then some [] else bytesOf group carry (pads + 1) r
    else match sixtyFourth? c with
      | none => bytesOf group carry pads r
      | some v =>
        match group with
        | 0 => bytesOf 1 v 0 r
        | 1 => (bytesOf 2 (v % 16) 0 r).map (UInt8.ofNat (carry * 4 + v / 16) :: ·)
        | 2 => (bytesOf 3 (v % 4) 0 r).map (UInt8.ofNat (carry * 16 + v / 4) :: ·)
        | _ => (bytesOf 0 0 0 r).map (UInt8.ofNat (carry * 64 + v) :: ·)

/-- Bytes written in base 64. -/
def bytes (cs : List Char) : Except Refusal (List UInt8) :=
  if cs.all fun c => c.toNat < 0x80 then
    match bytesOf 0 0 0 cs with
    | some bs => .ok bs
    | none => .error .malformed
  else .error .malformed

/-! ## Days, timestamps and truth values -/

/-- The millionths of a second that the digits of a fraction stand for. -/
def microsOf (digits : List Char) : Nat :=
  let ds := (digits.take 6).filterMap Text.asciiDigit?
  Text.ofDigits 10 (ds ++ List.replicate (6 - ds.length) 0)

/-- A day or a timestamp, possibly with one line feed after it. -/
def moment (cs : List Char) : Except Refusal Scalar :=
  match Tag.stamp? (Tag.withoutLineEnd cs) with
  | none => .error (.fault .noMember)
  | some s =>
    match Date.make? s.year s.month s.day with
    | none => .error (.fault .badValue)
    | some date =>
      match s.time with
      | none => .ok (.date date)
      | some (hour, minute, second, fraction) =>
        match Timestamp.make? date hour minute second (microsOf fraction) s.offset with
        | some t => .ok (.timestamp t)
        | none => .error (.fault .badValue)

/-- A truth value. -/
def truth (s : String) : Except Refusal Bool :=
  let word := Text.lower s
  if word ∈ ["yes", "true", "on"] then .ok true
  else if word ∈ ["no", "false", "off"] then .ok false
  else .error (.fault .noEntry)

/-! ## By tag -/

/-- The value of a scalar with a tag. -/
def ofTag (tag : String) (label : Nat) (content : String) : Except Refusal Scalar :=
  let cs := content.toList
  if tag = Tag.str then .ok (.text content)
  else if tag = Tag.null then .ok .null
  else if tag = Tag.bool then (truth content).map .bool
  else if tag = Tag.int then (whole cs).map .int
  else if tag = Tag.float then (pointed label cs).map .float
  else if tag = Tag.binary then (bytes cs).map .bytes
  else if tag = Tag.timestamp then moment cs
  else .error .malformed

end ApiModel.Yaml.Scalar
