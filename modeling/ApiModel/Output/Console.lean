import ApiModel.Output.Cells
import ApiModel.Output.Markup

/-!
# Lines on a console

A message is written to a console without its control characters. A tab is a blank and as many more
as lead to the next multiple of eight cells.

* `display_nil`: nothing is one empty line.
* `expandTabs_single`: a line without tabs is left as it is.
-/

namespace ApiModel.Output.Console

/-- The number of cells from one stop of tabs to the next. -/
def tabSize : Nat := 8

/-- Whether a character controls the console rather than being shown. -/
def isControl (c : Char) : Bool := [7, 8, 11, 12, 13].contains c.toNat

/-- The number of cells from a place to the next stop of tabs, none if it is one. -/
def toStop (place : Nat) : Nat := (tabSize - place % tabSize) % tabSize

/-- The parts of a line between its tabs, with blanks in place of the tabs, from a place on. -/
def expandTabs (place : Nat) : List (List Char) → List Char
  | [] => []
  | [last] => last
  | part :: rest =>
    let spaced := part ++ [' ']
    let next := place + cells spaced
    spaced ++ List.replicate (toStop next) ' ' ++ expandTabs (next + toStop next) rest

theorem expandTabs_single (place : Nat) (line : List Char) : expandTabs place [line] = line := rfl

/-- A text as a console shows it. -/
def display (cs : List Char) : List Char :=
  let lines := Text.pieces '\n' (cs.filter fun c => !isControl c)
  Text.join '\n' (lines.map fun line => expandTabs 0 (Text.pieces '\t' line))

theorem display_nil : display [] = [] := rfl

/-- What a console shows of a text with markup. -/
def render (s : String) : String := String.ofList (display (Markup.shown s.toList))

/-- A text escaped for the use in markup. -/
def escape (s : String) : String := String.ofList (Markup.escape s.toList)

end ApiModel.Output.Console
