import ApiModel.Text.Integer
import ApiModel.Text.Pieces
import ApiModel.Calendar

/-!
# Tags of plain scalars

A plain scalar without a tag gets one by its form: a truth value, a number, a day or timestamp, the
empty value, or a text when it has none of those forms. One line feed after the form does not count.
Numbers may be written in base 2, 8, 10, 16 or 60, with underscores between digits.
-/

namespace ApiModel.Yaml.Tag

/-! ## Tags -/

/-- The tag of the standard with a name. -/
def standard (name : String) : String := "tag:yaml.org,2002:" ++ name

/-- The tag of the empty value. -/
def null : String := standard "null"

/-- The tag of truth values. -/
def bool : String := standard "bool"

/-- The tag of whole numbers. -/
def int : String := standard "int"

/-- The tag of floating point numbers. -/
def float : String := standard "float"

/-- The tag of bytes. -/
def binary : String := standard "binary"

/-- The tag of days and timestamps. -/
def timestamp : String := standard "timestamp"

/-- The tag of texts. -/
def str : String := standard "str"

/-- The tags of scalars. -/
def ofScalars : List String := [null, bool, int, float, binary, timestamp, str]

/-- The tag of lists. -/
def seq : String := standard "seq"

/-- The tag of maps. -/
def map : String := standard "map"

/-- The tag of sets. -/
def set : String := standard "set"

/-- The tag of lists of entries with distinct keys. -/
def omap : String := standard "omap"

/-- The tag of lists of entries. -/
def pairs : String := standard "pairs"

/-- The tag of the key whose value is merged into its map. -/
def merge : String := standard "merge"

/-- The tag of the key that stands for the value of its map. -/
def value : String := standard "value"

/-- The tag of single indicators, which stand for nothing. -/
def indicator : String := standard "yaml"

/-! ## Forms -/

/-- A text without one line feed at its end; a line feed alone stays. -/
def withoutLineEnd (cs : List Char) : List Char :=
  if 1 < cs.length && cs.getLast? == some '\n' then cs.dropLast else cs

/-- Whether there are characters and all are of a class. -/
def isRun (p : Char → Bool) (cs : List Char) : Bool := !cs.isEmpty && cs.all p

/-- Whether a character is one of the digits `0` to `9`. -/
def isDigit (c : Char) : Bool := '0' ≤ c && c ≤ '9'

/-- Whether a character is a digit or an underscore. -/
def isDigitOrLine (c : Char) : Bool := isDigit c || c == '_'

/-- Whether the text is a digit with digits and underscores after it. -/
def isNumeral : List Char → Bool
  | c :: r => isDigit c && r.all isDigitOrLine
  | [] => false

/-- Whether the text is a number below sixty, in one or two digits. -/
def isSixtieth : List Char → Bool
  | [c] => isDigit c
  | [a, b] => '0' ≤ a && a ≤ '5' && isDigit b
  | _ => false

/-- Whether the text is empty or an exponent with a sign. -/
def isExponent : List Char → Bool
  | [] => true
  | e :: s :: ds => (e == 'e' || e == 'E') && (s == '-' || s == '+') && isRun isDigit ds
  | _ => false

/-- Whether the text, which has no sign, is a whole number. -/
def isWhole (cs : List Char) : Bool :=
  match cs with
  | '0' :: 'b' :: r => isRun (fun c => c == '0' || c == '1' || c == '_') r
  | '0' :: 'x' :: r => isRun (fun c => (Text.digitOf? 16 c).isSome && c.toNat < 0x80 || c == '_') r
  | '0' :: r => r.all fun c => ('0' ≤ c && c ≤ '7') || c == '_'
  | _ =>
    match Text.pieces ':' cs with
    | first :: others => isNumeral first && others.all isSixtieth
    | [] => false

/-- Whether the text, which has no sign, is a number with a point. -/
def isPointed (cs : List Char) : Bool :=
  let whole := cs.takeWhile (· != '.')
  match cs.drop whole.length with
  | '.' :: r =>
    let fraction := r.takeWhile isDigitOrLine
    let rest := r.drop fraction.length
    match Text.pieces ':' whole with
    | [numeral] => isNumeral numeral && isExponent rest
    | first :: others => isNumeral first && others.all isSixtieth && rest.isEmpty
    | [] => false
  | _ => false

/-- Whether the text is a point with digits after it. -/
def isFraction : List Char → Bool
  | '.' :: c :: r => isDigit c && isExponent (r.dropWhile isDigitOrLine)
  | _ => false

/-- Whether the text is a floating point number. -/
def isFloat (cs : List Char) : Bool :=
  let unsigned := (Text.takeSign cs).2
  isPointed unsigned || isFraction cs
    || [".inf", ".Inf", ".INF"].any (·.toList == unsigned)
    || [".nan", ".NaN", ".NAN"].any (·.toList == cs)

/-- Whether the text is a whole number. -/
def isInt (cs : List Char) : Bool := isWhole (Text.takeSign cs).2

/-! ## Days and timestamps -/

/-- The numbers of a timestamp as they are written. -/
structure Stamp where
  /-- The year. -/
  year : Nat
  /-- The month. -/
  month : Nat
  /-- The day. -/
  day : Nat
  /-- Hour, minute, second and the digits of the fraction, unless it is a day only. -/
  time : Option (Nat × Nat × Nat × List Char)
  /-- The minutes ahead of universal time, if an offset is written. -/
  offset : Option Int

/-- The number of exactly `n` digits at the start, and what follows. -/
def digits? (n : Nat) (cs : List Char) : Option (Nat × List Char) :=
  let ds := cs.take n
  if ds.length = n ∧ ds.all isDigit then
    some (Text.ofDigits 10 (ds.filterMap Text.asciiDigit?), cs.drop n)
  else none

/-- The number of two digits or one at the start, and what follows. -/
def digitOrTwo? (cs : List Char) : Option (Nat × List Char) := digits? 2 cs <|> digits? 1 cs

/-- What follows a character. -/
def after? (c : Char) : List Char → Option (List Char)
  | d :: r => if c = d then some r else none
  | [] => none

/-- Whether a character is a space or a tab. -/
def isSpaceOrTab (c : Char) : Bool := c == ' ' || c == '\t'

/-- The offset that a text consists of; the outer layer is empty if it is none. -/
def offset? (cs : List Char) : Option (Option Int) :=
  if cs.isEmpty then some none
  else match cs.dropWhile isSpaceOrTab with
    | ['Z'] => some (some 0)
    | sign :: r =>
      if sign = '+' ∨ sign = '-' then do
        let (hours, r) ← digitOrTwo? r
        let minutes ←
          if r.isEmpty then some 0
          else do
            let (minutes, r) ← digits? 2 (← after? ':' r)
            if r.isEmpty then some minutes else none
        let total : Int := 60 * hours + minutes
        some (some (if sign = '-' then -total else total))
      else none
    | [] => none

/-- What follows the gap between day and time. -/
def timeStart? : List Char → Option (List Char)
  | c :: r =>
    if c = 'T' ∨ c = 't' then some r
    else if isSpaceOrTab c then some (r.dropWhile isSpaceOrTab)
    else none
  | [] => none

/-- The numbers of a day or timestamp that a text consists of. -/
def stamp? (text : List Char) : Option Stamp := do
  let (year, r) ← digits? 4 text
  let (month, r) ← digitOrTwo? (← after? '-' r)
  let (day, r) ← digitOrTwo? (← after? '-' r)
  if r.isEmpty then some ⟨year, month, day, none, none⟩
  else
    let (hour, r) ← digitOrTwo? (← timeStart? r)
    let (minute, r) ← digits? 2 (← after? ':' r)
    let (second, r) ← digits? 2 (← after? ':' r)
    let fraction := match r with | '.' :: r => r.takeWhile isDigit | _ => []
    let r := match r with | '.' :: r => r.dropWhile isDigit | r => r
    let offset ← offset? r
    some ⟨year, month, day, some (hour, minute, second, fraction), offset⟩

/-- Whether a plain text is a day or timestamp. A day alone has two digits for month and day. -/
def isStamp (cs : List Char) : Bool :=
  match stamp? cs with
  | some s => s.time.isSome || cs.length == 10
  | none => false

/-! ## The tag of a form -/

/-- The words that are truth values. -/
def boolWords : List String :=
  ["yes", "Yes", "YES", "no", "No", "NO", "true", "True", "TRUE", "false", "False", "FALSE", "on",
    "On", "ON", "off", "Off", "OFF"]

/-- The words that stand for the empty value. -/
def nullWords : List String := ["", "~", "null", "Null", "NULL"]

/-- The tag of a plain scalar. A line feed at its end does not count. -/
def ofPlain (text : String) : String :=
  let cs := withoutLineEnd text.toList
  let s := String.ofList cs
  if s ∈ boolWords then bool
  else if isFloat cs then float
  else if isInt cs then int
  else if s = "<<" then merge
  else if s ∈ nullWords then null
  else if isStamp cs then timestamp
  else if s = "=" then value
  else if s ∈ ["!", "&", "*"] then indicator
  else str

end ApiModel.Yaml.Tag
