import ApiModel.CommandLine.Arguments
import ApiModel.Document.Read
import ApiModel.Output.Printer
import ApiModel.Settings.Layers
import ApiModel.Source.Load

/-!
# Running the program

A run reads a document and writes what its command asks for. What was noted on the way is reported
on standard error, as far as it is important enough, and so is the failure that ends a run. Results
are written last, so a failed run writes none. A failure without a wording is a crash.

* `failed_keeps`: the failure of a run leaves standard output and the files as they are.
-/

namespace ApiModel.CommandLine

open Output (Format Printer Streams Table)

/-! ## Outcomes -/

/-- How a run ended. -/
structure Outcome where
  /-- The exit code. -/
  exitCode : Int
  /-- What was written. -/
  streams : Streams
  /-- The failure to be recorded, if the run crashed. -/
  crash : Option Failure

/-- A run that ended well. -/
def finished (w : Streams) : Outcome := ⟨0, w, none⟩

/-- A run that ended with a failure. -/
def failed (s : Surroundings) (f : Failure) (w : Streams) : Outcome :=
  match f.surfaced.category? with
  | some _ => ⟨f.surfaced.exitCode, Printer.error f.surfaced.message w, none⟩
  | none =>
    ⟨f.surfaced.exitCode, Printer.error s!"Unexpected error. Debug log: {s.crashLog}" w,
      some f.surfaced⟩

theorem failed_keeps (s : Surroundings) (f : Failure) (w : Streams) :
    (failed s f w).streams.out = w.out ∧ (failed s f w).streams.files = w.files := by
  unfold failed
  split <;> exact Printer.error_keeps ..

/-! ## Texts -/

/-- The line that names the program and its version. -/
def versionLine : String := "specir 0.1.0\n"

/-- How the program is used. -/
def usage : String := "Usage: specir [OPTIONS] types|operations|dump SOURCE\n"

/-- A run that was asked for something the program cannot do. -/
def misused (w : Streams) : Outcome := ⟨2, { w with err := w.err ++ usage }, none⟩

/-- A run that writes a text to standard output. -/
def told (text : String) (w : Streams) : Outcome := finished { w with out := w.out ++ text }

/-! ## Reports -/

/-- The number that the importance of an event must reach to be reported. -/
def leastRank (options : Options) (settings : Settings) : Nat :=
  if options.verbose then Threshold.debug.rank
  else if options.quiet then Threshold.error.rank
  else settings.threshold.rank

/-- The line that reports an event. -/
def eventLine (e : Event) : String := s!"{e.level.name} {e.origin}: {e.message}\n"

/-- Reports the events that are important enough. -/
def report (rank : Nat) (events : List Event) (w : Streams) : Streams :=
  let lines := (events.filter fun e => rank ≤ e.level.rank).map eventLine
  { w with err := w.err ++ String.join lines }

/-! ## Results -/

/-- The declarations as a table. -/
def declarationTable (api : Api) : Table :=
  let graph := Declaration.graph api.declarations
  .ofTexts ["Name", "Kind", "Depends on"] <| api.declarations.map fun d =>
    [d.name, d.type.kind, Text.between ", " ((graph.lookup d.name).getD [])]

/-- The operations as a table. -/
def operationTable (api : Api) : Table :=
  .ofTexts ["Method", "Path", "Operation", "Params", "Deprecated"] <| api.operations.map fun o =>
    [Text.upper o.method.word, o.path, o.id,
      Text.between ", " (o.parameters.map (·.parameter.name)), if o.deprecated then "yes" else ""]

/-- Writes what a command asks for. -/
def write (printer : Printer) (command : Command) (api : Api) (w : Streams) :
    Except Failure Streams :=
  match command with
  | .types => printer.printTable (declarationTable api) w
  | .operations => printer.printTable (operationTable api) w
  | .dump => do printer.printJson (← api.written) w

/-- The remark about what was read. -/
def remark (api : Api) : String :=
  s!"Swagger/OpenAPI {api.version.number}: {api.declarations.length} declarations, " ++
    s!"{api.operations.length} operations"

/-! ## Runs -/

/-- The format of tables that the options ask for. -/
def formatOf (options : Options) : Format := if options.json then .json else .plain

/-- The interface that the document from a source describes. -/
def readFrom (s : Surroundings) (settings : Settings) (source : String) : Traced Api := do
  let document ← Source.load s source
  Document.read settings document

/-- Runs a command on the document from a source. -/
def runOn (s : Surroundings) (options : Options) (settings : Settings) (command : Command)
    (source : String) (w : Streams) : Outcome :=
  let printer :=
    Printer.make s (formatOf options) options.noColor options.verbose options.output
  let reading := readFrom s settings source
  let w := report (leastRank options settings) reading.events w
  match reading.result with
  | .error f => failed s f w
  | .ok api =>
    let w := printer.debug (remark api) w
    match write printer command api w with
    | .ok w => finished w
    | .error f => failed s f w

/-- Runs a command with its arguments. -/
def runCommand (s : Surroundings) (options : Options) (command : Command) (args : List String)
    (w : Streams) : Outcome :=
  if options.json && options.plain then failed s .exclusiveFormats w
  else match Settings.resolve s none options.logLevel with
    | .error f => failed s f w
    | .ok settings =>
      match errand [] false args with
      | .document source => runOn s options settings command source w
      | .help => told usage w
      | .misuse => misused w

/-- Runs the program. -/
def run (s : Surroundings) (args : List String) : Outcome :=
  let w := Streams.start s.files
  match invocation args with
  | .request .version => told versionLine w
  | .request .help => told usage w
  | .command options command args => runCommand s options command args w
  | .misuse => misused w

end ApiModel.CommandLine
