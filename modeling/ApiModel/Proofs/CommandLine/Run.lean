import ApiModel.CommandLine.Run
import ApiModel.Proofs.Trace

/-!
# The steps of a run

A run of a command goes through its steps until one fails: the formats it is given, its settings,
reading the document, and writing what the command asks for. One equation for each step at which it
may end.

* `runCommand_of_formats`, `runCommand_of_unsettled`, `runCommand_of_misuse`,
  `runCommand_of_document`: the steps up to the document.
* `runOn_of_unread`, `runOn_of_read`: the steps from the document on.
* `write_eq_resultText_bind`: the whole text is there before any of it is written.
-/

namespace ApiModel.CommandLine

open Output (Format Printer Streams)

variable {s : Surroundings} {options : Options} {settings : Settings} {command : Command}
  {source : String} {args : List String} {w : Streams} {api : Api} {f : Failure}

/-! ## Up to the document -/

theorem runCommand_of_formats (h : (options.json && options.plain) = true) :
    runCommand s options command args w = failed s .exclusiveFormats w := if_pos h

section Formats

variable (hformats : ¬ (options.json && options.plain) = true)

include hformats

theorem runCommand_of_unsettled (h : Settings.resolve s none options.logLevel = .error f) :
    runCommand s options command args w = failed s f w := by
  simp only [runCommand, if_neg hformats, h]

theorem runCommand_of_document (h : Settings.resolve s none options.logLevel = .ok settings)
    (herrand : errand [] false args = .document source) :
    runCommand s options command args w = runOn s options settings command source w := by
  simp only [runCommand, if_neg hformats, h, herrand]

theorem runCommand_of_misuse (h : Settings.resolve s none options.logLevel = .ok settings)
    (herrand : errand [] false args = .misuse) :
    runCommand s options command args w = misused w := by
  simp only [runCommand, if_neg hformats, h, herrand]

end Formats

/-! ## From the document on -/

/-- The printer that the options ask for. -/
def printerOf (s : Surroundings) (options : Options) : Printer :=
  Printer.make s (formatOf options) options.noColor options.verbose options.output

/-- What is written by the time the document from a source is read, or is not. -/
def reported (s : Surroundings) (options : Options) (settings : Settings) (source : String)
    (w : Streams) : Streams :=
  report (leastRank options settings) (readFrom s settings source).events w

/-- What is written by the time the result of a command is. -/
def remarked (s : Surroundings) (options : Options) (settings : Settings) (source : String)
    (api : Api) (w : Streams) : Streams :=
  (printerOf s options).debug (remark api) (reported s options settings source w)

/-- How a run ends with its last step. -/
def ended (s : Surroundings) (w : Streams) : Except Failure Streams → Outcome
  | .ok w => finished w
  | .error f => failed s f w

theorem runOn_of_unread (h : (readFrom s settings source).result = .error f) :
    runOn s options settings command source w =
      failed s f (reported s options settings source w) := by
  unfold runOn
  dsimp only
  rw [h]
  rfl

theorem runOn_of_read (h : (readFrom s settings source).result = .ok api) :
    runOn s options settings command source w =
      ended s (remarked s options settings source api w)
        (write (printerOf s options) command api
          (remarked s options settings source api w)) := by
  unfold runOn
  dsimp only
  rw [h]
  rfl

/-- Reports and remarks go to standard error. -/
theorem remarked_keeps :
    (remarked s options settings source api w).out = w.out ∧
      (remarked s options settings source api w).files = w.files := by
  unfold remarked Printer.debug
  split <;> exact ⟨rfl, rfl⟩

/-! ## The last step -/

/-- The text of what a command asks for. -/
def resultText (format : Format) (command : Command) (api : Api) : Except Failure String :=
  match command with
  | .types => (declarationTable api).text format
  | .operations => (operationTable api).text format
  | .dump => do return Json.write (← (← api.written).sayable)

/-- The whole text is there before any of it is written. -/
theorem write_eq_resultText_bind (printer : Printer) (command : Command) (api : Api)
    (w : Streams) :
    write printer command api w =
      resultText printer.format command api >>= fun text => printer.print text w := by
  cases command with
  | types => rfl
  | operations => rfl
  | dump =>
    show (do printer.printJson (← api.written) w) = _
    unfold resultText Printer.printJson
    simp only [bind_assoc, pure_bind]

end ApiModel.CommandLine
