import ApiModel.Output.EmojiNames
import ApiModel.Text.Blank
import ApiModel.Text.Case
import ApiModel.Text.Pieces

/-!
# Emoji in texts

A name between two colons, without blanks, stands for an emoji. The name may end in `-emoji` or
`-text`, which picks the coloured or the plain form. Names that are not known are left as they are.

* `replace_of_not_mem`: a text without colons is left as it is.
-/

namespace ApiModel.Output.Emoji

/-- What a name stands for, looked up among entries. -/
def findEntry? (name : List Char) (entries : List (List Char)) : Option (List Char) :=
  entries.findSome? fun e => Text.after? (name ++ ['=']) e

/-- The emoji that a name stands for. -/
def find? (name : List Char) : Option (List Char) :=
  emojiTable.findSome? fun line => findEntry? name (Text.pieces ' ' line.toList)

/-- A name without a tail, if it ends in it. -/
def without? (tail : String) (name : List Char) : Option (List Char) :=
  if tail.toList.isSuffixOf name then some (name.take (name.length - tail.length)) else none

/-- A name without the form that it asks for, and the mark that picks the form. -/
def splitForm (name : List Char) : List Char × List Char :=
  match without? "-emoji" name, without? "-text" name with
  | some n, _ => (n, ['\ufe0f'])
  | none, some n => (n, ['\ufe0e'])
  | none, none => (name, [])

/-- What stands for a name between colons. -/
def ofName (name : List Char) : List Char :=
  let (plain, form) := splitForm name
  match find? (Text.lower (String.ofList plain)).toList with
  | some emoji => emoji ++ form
  | none => ':' :: name ++ [':']

/-- Whether a character can stand in a name. -/
def isInName (c : Char) : Bool := c ≠ ':' && !Text.isBlank c

/-- The text with emoji in place of their names. -/
def replace (cs : List Char) : List Char :=
  match cs with
  | [] => []
  | c :: rest =>
    if c = ':' then
      match h : rest.dropWhile isInName with
      | ':' :: after =>
        have : after.length < rest.length := by
          have hs : (rest.dropWhile isInName).length ≤ rest.length :=
            (List.dropWhile_sublist _).length_le
          rw [h] at hs
          exact hs
        ofName (rest.takeWhile isInName) ++ replace after
      | _ => c :: replace rest
    else c :: replace rest
termination_by cs.length

theorem replace_of_not_mem {cs : List Char} (h : ':' ∉ cs) : replace cs = cs := by
  induction cs with
  | nil => rw [replace]
  | cons c rest ih =>
    simp only [List.mem_cons, not_or] at h
    rw [replace]
    simp [Ne.symm h.1, ih h.2]

end ApiModel.Output.Emoji
