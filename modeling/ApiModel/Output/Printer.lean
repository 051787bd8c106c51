import ApiModel.Output.Console
import ApiModel.Output.Table
import ApiModel.Surroundings
import ApiModel.Text.Quoted

/-!
# Printers

A printer says how and where results are written: in which format, and to standard output or to a
file, whose content is replaced each time. Errors and remarks go to standard error, remarks only if
they are asked for.

* `print_standard`: without a file, printing adds a line to standard output.
* `error_keeps`: an error changes standard error only.
-/

namespace ApiModel.Output

/-- What has been written so far, and the files as they are now. -/
structure Streams where
  /-- Standard output. -/
  out : String
  /-- Standard error. -/
  err : String
  /-- The files. -/
  files : Files

/-- The streams at the start. -/
def Streams.start (files : Files) : Streams := ⟨"", "", files⟩

/-- How and where results are written. -/
structure Printer where
  /-- The format of tables. -/
  format : Format
  /-- Whether colours are turned off. -/
  noColor : Bool
  /-- Whether remarks are shown. -/
  verbose : Bool
  /-- The path of the file to write to; none or empty for standard output. -/
  target : Option String
  deriving DecidableEq

namespace Printer

/-- The printer for the given choices. The environment can turn colours off. -/
def make (s : Surroundings) (format : Format) (noColor verbose : Bool) (target : Option String) :
    Printer :=
  ⟨format, noColor || (s.lookup "NO_COLOR").isSome, verbose, target⟩

/-- The printer that is used where none was chosen. -/
def standard (s : Surroundings) : Printer := make s .plain false false none

/-- Writes a line of results. -/
def print (p : Printer) (text : String) (w : Streams) : Except Failure Streams :=
  match p.target.filter (· ≠ "") with
  | none => .ok { w with out := w.out ++ text ++ "\n" }
  | some path =>
    match w.files.write path (Text.encode (text ++ "\n")) with
    | .ok files => .ok { w with files }
    | .error f => .error (.fault f)

/-- Writes a table. -/
def printTable (p : Printer) (t : Table) (w : Streams) : Except Failure Streams := do
  p.print (← t.text p.format) w

/-- Writes a value as JSON, whatever the format of tables. -/
def printJson (p : Printer) (v : Value) (w : Streams) : Except Failure Streams := do
  p.print (Json.write (← v.sayable)) w

/-- Writes a line to standard error. -/
def complain (markup : String) (w : Streams) : Streams :=
  { w with err := w.err ++ Console.render markup ++ "\n" }

/-- Writes an error. -/
def error (message : String) (w : Streams) : Streams :=
  complain ("[bold red]Error:[/bold red] " ++ Console.escape message) w

/-- Writes a remark, if remarks are shown. -/
def debug (p : Printer) (message : String) (w : Streams) : Streams :=
  if p.verbose then complain ("[dim]debug: " ++ Console.escape message ++ "[/dim]") w else w

theorem print_standard {p : Printer} (h : p.target = none) (text : String) (w : Streams) :
    p.print text w = .ok { w with out := w.out ++ text ++ "\n" } := by
  simp [print, h]

theorem error_keeps (message : String) (w : Streams) :
    (error message w).out = w.out ∧ (error message w).files = w.files := ⟨rfl, rfl⟩

end Printer

end ApiModel.Output
