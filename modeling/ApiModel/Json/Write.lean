import ApiModel.Value.Basic
import ApiModel.Text.Quoted

/-!
# Writing JSON

A value is written over several lines, each level indented by two more spaces; an empty array or
map stays on its line. Characters beyond ASCII are written as they are. Floating point numbers have
the fewest digits that read back, and `NaN`, `Infinity` and `-Infinity` are written bare.
-/

namespace ApiModel.Json

/-- The style of numbers in JSON text: positional from `0.0001` up to sixteen digits before the
point. -/
def numberStyle : Decimal.Style := ⟨16, -3, "Infinity", "NaN"⟩

/-- One character of a text literal. -/
def writeChar (c : Char) : List Char :=
  if c = '"' then ['\\', '"']
  else if c = '\\' then ['\\', '\\']
  else if c = '\n' then ['\\', 'n']
  else if c = '\r' then ['\\', 'r']
  else if c = '\t' then ['\\', 't']
  else if c = '\x0c' then ['\\', 'f']
  else if c = '\x08' then ['\\', 'b']
  else if c.toNat < 0x20 then '\\' :: 'u' :: (Text.hex 4 c.toNat).toList
  else [c]

/-- A text literal. -/
def writeText (s : String) : String :=
  String.ofList ('"' :: s.toList.flatMap writeChar ++ ['"'])

/-- A scalar; days, timestamps and bytes, which JSON lacks, become texts. -/
def writeScalar : Scalar → String
  | .null => "null"
  | .bool b => if b then "true" else "false"
  | .int n => toString n
  | .float x => Decimal.text numberStyle x
  | .text s => writeText s
  | .bytes bs => writeText (Text.quoteBytes bs)
  | .date d => writeText d.iso
  | .timestamp t => writeText (t.isoWith " ")

/-- The name that a key becomes. -/
def nameOfKey : Scalar → String
  | .text s => s
  | k => writeScalar k

/-- A line break and the indentation of a level. -/
def newline (level : Nat) : String := String.ofList ('\n' :: List.replicate (2 * level) ' ')

/-- Parts between two brackets, each on a line of its own. -/
def block (level : Nat) (opening closing : String) (parts : List String) : String :=
  if parts.isEmpty then opening ++ closing
  else
    opening ++ newline (level + 1) ++ ("," ++ newline (level + 1)).intercalate parts
      ++ newline level ++ closing

mutual

/-- A value at a level of indentation. What encloses itself has no end, so nothing is written for
it. -/
def writeAt (level : Nat) : Value → String
  | .scalar s => writeScalar s
  | .list items => block level "[" "]" (writeItems (level + 1) items)
  | .pair a b => block level "[" "]" [writeAt (level + 1) a, writeAt (level + 1) b]
  | .map entries => block level "\x7b" "\x7d" (writeMembers (level + 1) entries)
  | .set members => block level "[" "]" (members.map writeScalar)
  | .enclosing _ _ => "null"

/-- The items of an array. -/
def writeItems (level : Nat) : List Value → List String
  | [] => []
  | v :: vs => writeAt level v :: writeItems level vs

/-- The members of an object. -/
def writeMembers (level : Nat) : Entries → List String
  | [] => []
  | (k, v) :: es => (writeText (nameOfKey k) ++ ": " ++ writeAt level v) :: writeMembers level es

end

/-- A value as JSON text. -/
def write (v : Value) : String := writeAt 0 v

end ApiModel.Json
