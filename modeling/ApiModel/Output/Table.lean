import ApiModel.Json.Write
import ApiModel.Value.Access
import ApiModel.Value.Entries

/-!
# Tables

A table has headers and rows of cells. As JSON it is a list of records, one for each row, in which
the cells stand under the headers. As lines it is a line for the headers and one for each row, with
tabs between the cells, which must all be texts.

* `Table.length_records`: there is a record for every row.
-/

namespace ApiModel.Output

/-- The form in which tables are written. -/
inductive Format where
  /-- As JSON. -/
  | json
  /-- As lines. -/
  | plain
  /-- As a drawing, where the output is a terminal; as lines otherwise. -/
  | rich
  deriving DecidableEq, Repr

namespace Format

/-- The word for a format. -/
def word : Format → String
  | .json => "json"
  | .plain => "plain"
  | .rich => "rich"

/-- The format that a word stands for. Where the output is no terminal, the format is plain unless
one is chosen. -/
def ofWord? : String → Option Format
  | "auto" => some .plain
  | "json" => some .json
  | "plain" => some .plain
  | "rich" => some .rich
  | _ => none

end Format

/-- A table. -/
structure Table where
  /-- The headers of the columns. -/
  headers : List Scalar
  /-- The rows of cells. -/
  rows : List (List Value)

namespace Table

/-- A table of texts. -/
def ofTexts (headers : List String) (rows : List (List String)) : Table :=
  ⟨headers.map .text, rows.map fun row => row.map .text⟩

/-- The record of a row: as many cells as there are headers, each under its header. -/
def record (headers : List Scalar) (row : List Value) : Value :=
  .map (Entries.ofList (headers.zip row))

/-- The table as a list of records. -/
def records (t : Table) : List Value := t.rows.map (record t.headers)

theorem length_records (t : Table) : t.records.length = t.rows.length := by
  simp [records]

/-- The table as lines. -/
def lines (t : Table) : Except Failure String := do
  let lines ← (t.headers.map Value.scalar :: t.rows).mapM (Value.joined "\t")
  return Text.between "\n" lines

/-- The text of a table in a format. -/
def text (format : Format) (t : Table) : Except Failure String :=
  match format with
  | .json => do return Json.write (← (Value.list t.records).sayable)
  | .plain | .rich => t.lines

end Table

end ApiModel.Output
