import ApiModel.Proofs.CommandLine.Failing
import ApiModel.Proofs.CommandLine.Options
import ApiModel.Proofs.CommandLine.Run
import ApiModel.Proofs.Files
import Mathlib

/-!
# Writing to a file

A run that writes to a file does what it does without one, except that what it would have written to
standard output is in the file instead. Nothing is written before everything is read and the whole
text is there, so a run that fails leaves the file alone.

* `redirected_failed`: two runs that end with the same failure.
* `redirected_runOn`, `redirected_runCommand`: the runs of one command with and without a file.
* `output_redirected`: the runs of the program with and without the option that names the file.
-/

namespace ApiModel.CommandLine

open Output (Console.render Console.escape Printer Streams)

variable {s : Surroundings} {options : Options} {settings : Settings} {command : Command}
  {source path log log' : String} {w : Streams}

/-! ## Two runs -/

/-- The line that tells of a crash, and where it is recorded. -/
def crashLine (log : String) : String :=
  Console.render ("[bold red]Error:[/bold red] " ++
    Console.escape s!"Unexpected error. Debug log: {log}") ++ "\n"

/-- The outcome of a run that writes to standard output, and that of one that starts from the same
files and writes to a file. Crashes of the two are recorded at places of their own. -/
structure Redirected (fs : Files) (path log log' : String) (o o' : Outcome) : Prop where
  /-- They end with the same exit code. -/
  exitCode : o'.exitCode = o.exitCode
  /-- They crash for the same reason, if at all. -/
  crash : o'.crash = o.crash
  /-- Unless they crash they write the same to standard error. -/
  told : o.crash = none → o'.streams.err = o.streams.err
  /-- If they crash they do so as well, except for the place where the crash is recorded. -/
  crashTold : o.crash ≠ none → ∃ before,
    o.streams.err = before ++ crashLine log ∧ o'.streams.err = before ++ crashLine log'
  /-- If they end well, the file holds what the first wrote to standard output, and the second wrote
  nothing there. -/
  done : o.exitCode = 0 → o'.streams.out = "" ∧
    o'.streams.files.read? path = .ok (some (Text.encode o.streams.out))
  /-- If they fail, neither wrote anything to standard output, and no file has changed. -/
  failed : o.exitCode ≠ 0 → o.streams.out = "" ∧ o'.streams.out = "" ∧ o'.streams.files = fs

theorem error_crash_err (log : String) (w : Streams) :
    (Printer.error s!"Unexpected error. Debug log: {log}" w).err = w.err ++ crashLine log :=
  String.append_assoc ..

/-- Two runs that end with the same failure, after they wrote the same, differ in the place at most
where a crash is recorded. -/
theorem redirected_failed {f : Failure} (hf : f.ExitsByCategory) (hout : w.out = "") :
    Redirected w.files path s.crashLog log (failed s f w)
      (failed { s with crashLog := log } f w) := by
  have hkeeps := failed_keeps s f w
  have hkeeps' := failed_keeps { s with crashLog := log } f w
  have hcode : (failed s f w).exitCode ≠ 0 := by
    unfold failed
    split <;> exact hf.surfaced.exitCode_ne_zero
  constructor
  case exitCode =>
    unfold failed
    split <;> rfl
  case crash =>
    unfold failed
    split <;> rfl
  case told =>
    unfold failed
    split
    · exact fun _ => rfl
    · intro hnone
      cases hnone
  case crashTold =>
    unfold failed
    split
    · exact fun hsome => absurd rfl hsome
    · exact fun _ => ⟨w.err, error_crash_err _ w, error_crash_err _ w⟩
  case done => exact fun hzero => absurd hzero hcode
  case failed => exact fun _ => ⟨hkeeps.1.trans hout, hkeeps'.1.trans hout, hkeeps'.2⟩

theorem redirected_misused (hout : w.out = "") :
    Redirected w.files path log log' (misused w) (misused w) where
  exitCode := rfl
  crash := rfl
  told _ := rfl
  crashTold hcrash := absurd rfl hcrash
  done hzero := by cases hzero
  failed _ := ⟨hout, hout, rfl⟩

theorem redirected_finished {files : Files} {text : String} (hout : w.out = "")
    (hwrite : w.files.write path (Text.encode text) = .ok files) :
    Redirected w.files path log log' (finished { w with out := w.out ++ text })
      (finished { w with files }) where
  exitCode := rfl
  crash := rfl
  told _ := rfl
  crashTold hcrash := absurd rfl hcrash
  done _ := by
    refine ⟨hout, (Files.read?_of_write hwrite).trans ?_⟩
    show _ = Except.ok (some (Text.encode (w.out ++ text)))
    rw [hout, String.empty_append]
  failed hcode := absurd rfl hcode

/-! ## The last step -/

theorem print_file {p : Printer} {text : String} {files : Files} (htarget : p.target = some path)
    (hpath : path ≠ "") (hwrite : w.files.write path (Text.encode (text ++ "\n")) = .ok files) :
    p.print text w = .ok { w with files } := by
  have hfilter : p.target.filter (· ≠ "") = some path := by
    rw [htarget]
    exact Option.filter_eq_some_iff.2 ⟨rfl, decide_eq_true hpath⟩
  unfold Printer.print
  rw [hfilter]
  dsimp only
  rw [hwrite]

/-- What a command asks for is written as a whole, or not at all. -/
theorem redirected_write {p : Printer} {api : Api} (hp : p.target = none)
    (hwritable : w.files.IsWritable path) (hout : w.out = "") :
    Redirected w.files path s.crashLog log (ended s w (write p command api w))
      (ended { s with crashLog := log } w
        (write { p with target := some path } command api w)) := by
  rw [write_eq_resultText_bind, write_eq_resultText_bind]
  cases htext : resultText p.format command api with
  | error f => exact redirected_failed (failsOnly_resultText f htext) hout
  | ok text =>
    obtain ⟨files, hwrite⟩ := hwritable.write (Text.encode (text ++ "\n"))
    have hfirst : p.print text w = .ok { w with out := w.out ++ (text ++ "\n") } := by
      rw [Printer.print_standard hp, String.append_assoc]
    have hsecond : Printer.print { p with target := some path } text w = .ok { w with files } :=
      print_file rfl hwritable.path_ne hwrite
    show Redirected w.files path s.crashLog log (ended s w (p.print text w))
      (ended { s with crashLog := log } w (Printer.print { p with target := some path } text w))
    rw [hfirst, hsecond]
    exact redirected_finished hout hwrite

/-! ## The runs of a command -/

section Commands

variable (hnone : options.output = none) (hwritable : w.files.IsWritable path) (hout : w.out = "")

include hnone hwritable hout

theorem redirected_runOn :
    Redirected w.files path s.crashLog log (runOn s options settings command source w)
      (runOn { s with crashLog := log } (options.writeTo path) settings command source w) := by
  have hreading : readFrom { s with crashLog := log } settings source =
      readFrom s settings source := rfl
  cases hread : (readFrom s settings source).result with
  | error f =>
    rw [runOn_of_unread hread, runOn_of_unread ((congrArg Traced.result hreading).trans hread)]
    exact redirected_failed (w := reported s options settings source w)
      (failsOnly_readFrom f hread) hout
  | ok api =>
    rw [runOn_of_read hread, runOn_of_read ((congrArg Traced.result hreading).trans hread)]
    obtain ⟨hout', hfiles⟩ : _ ∧ (remarked s options settings source api w).files = w.files :=
      remarked_keeps
    rw [← hfiles] at hwritable ⊢
    exact redirected_write (p := printerOf s options) hnone hwritable (hout'.trans hout)

/-- Two runs of a command that differ in the file to write to. Asking how to use the command is not
running it. -/
theorem redirected_runCommand {args : List String} (hhelp : errand [] false args ≠ .help) :
    Redirected w.files path s.crashLog log (runCommand s options command args w)
      (runCommand { s with crashLog := log } (options.writeTo path) command args w) := by
  have hresolve : Settings.resolve { s with crashLog := log } none
      (options.writeTo path).logLevel = Settings.resolve s none options.logLevel := rfl
  have hsame : ((options.writeTo path).json && (options.writeTo path).plain) =
      (options.json && options.plain) := rfl
  by_cases hformats : (options.json && options.plain) = true
  · have hexclusive : Failure.exclusiveFormats.ExitsByCategory := trivial
    rw [runCommand_of_formats hformats, runCommand_of_formats (hsame.trans hformats)]
    exact redirected_failed hexclusive hout
  have hformats' : ¬ ((options.writeTo path).json && (options.writeTo path).plain) = true :=
    hformats
  cases hsettings : Settings.resolve s none options.logLevel with
  | error f =>
    rw [runCommand_of_unsettled hformats hsettings,
      runCommand_of_unsettled hformats' (hresolve.trans hsettings)]
    exact redirected_failed (Settings.failsOnly_resolve f hsettings) hout
  | ok settings =>
    cases herrand : errand [] false args with
    | document source =>
      rw [runCommand_of_document hformats hsettings herrand,
        runCommand_of_document hformats' (hresolve.trans hsettings) herrand]
      exact redirected_runOn hnone hwritable hout
    | help => exact absurd herrand hhelp
    | misuse =>
      rw [runCommand_of_misuse hformats hsettings herrand,
        runCommand_of_misuse hformats' (hresolve.trans hsettings) herrand]
      exact redirected_misused hout

end Commands

/-! ## The runs of the program -/

/-- **The option for the file to write to only redirects.** A run of a command that does not name
such a file is compared with the run in which the option, in any spelling, stands among the other
options and names a file that can be written. Both exit with the same code, and write the same to
standard error except for the place where a crash is recorded. If they end well, the file holds what
was written to standard output without it; if they fail, nothing is written to standard output, and
all files are as they were. -/
theorem output_redirected {before spelling after args : List String} (hbefore : AreOptions before)
    (hspelling : spelling ∈ spellings path)
    (hargs : invocation (before ++ after) = .command options command args)
    (hnone : options.output = none) (hhelp : errand [] false args ≠ .help)
    (hwritable : s.files.IsWritable path) :
    Redirected s.files path s.crashLog log (run s (before ++ after))
      (run { s with crashLog := log } (before ++ spelling ++ after)) := by
  have hargs' : invocation (before ++ spelling ++ after) =
      .command (options.writeTo path) command args :=
    invocation_spelling hbefore hwritable.path_ne hspelling hargs hnone
  unfold run
  rw [hargs, hargs']
  exact redirected_runCommand (w := Streams.start s.files) hnone hwritable rfl hhelp

/-- A document that describes nothing. -/
def bare : Value := .record [("swagger", .text "2.0"), ("paths", .record [])]

/-- That document comes in on standard input, and there is a file from before. -/
def harbour : Surroundings where
  files := ⟨[(["api.json"], [104, 105])], []⟩
  directory := "/"
  environment := []
  input := "\x7b\"swagger\":\"2.0\",\"paths\":\x7b\x7d\x7d"
  reply := .unreachable ""
  crashLog := "crash.log"

theorem resolve_harbour : Settings.resolve harbour none none = .ok {} := by
  have hmissing : harbour.files.read? (Path.within "." Settings.fileName) = .ok none := by
    decide +kernel
  have hproject : Settings.project? harbour none = .ok none := by
    unfold Settings.project?
    rw [Option.getD_none, hmissing]
  unfold Settings.resolve
  rw [hproject]
  rfl

set_option maxRecDepth 8000 in
theorem readFrom_harbour :
    (readFrom harbour {} "-").result = .ok ⟨.swagger2, [], [], []⟩ := by
  have hblank : Text.isBlankText harbour.input = false := by cbv
  have hjson : Json.read harbour.input = .ok bare := by cbv
  have hload : Source.loadFrom harbour "-" = .ok bare := by
    rw [Source.loadFrom, if_pos rfl, Source.loadInput, hblank]
    have hhint : Source.Hint.unknown ≠ .yaml := by decide
    exact Source.read_of_json hhint hjson
  unfold readFrom
  rw [Traced.result_bind, show (Source.load harbour "-").result = .ok bare from hload]
  show (Document.read {} bare).result = _
  cbv

theorem invocation_harbour :
    invocation (["--quiet"] ++ ["types", "-"]) = .command { quiet := true } .types ["-"] := by
  refine invocation_eq_command_iff.2 ⟨"types", ?_, rfl⟩
  exact (takeOptions_of_option (by decide) (by decide) rfl).trans
    (takeOptions_of_word (by decide) (by decide))

theorem run_harbour :
    ∃ w, run harbour (["--quiet"] ++ ["types", "-"]) = finished w ∧
      w.out = "Name\tKind\tDepends on\n" := by
  have htext : resultText .plain .types ⟨.swagger2, [], [], []⟩ = .ok "Name\tKind\tDepends on" :=
    rfl
  have hsettings : Settings.resolve harbour none ({ quiet := true } : Options).logLevel = .ok {} :=
    resolve_harbour
  have herrand : errand [] false ["-"] = .document "-" := by decide
  unfold run
  rw [invocation_harbour]
  dsimp only
  rw [runCommand_of_document (by decide) hsettings herrand, runOn_of_read readFrom_harbour,
    write_eq_resultText_bind]
  show ∃ w, ended _ _ (resultText .plain .types ⟨.swagger2, [], [], []⟩ >>= _) = finished w ∧ _
  rw [htext]
  exact ⟨_, rfl, rfl⟩

theorem output_redirected_harbour :
    AreOptions ["--quiet"] ∧ ["-o", "api.json"] ∈ spellings "api.json" ∧
    invocation (["--quiet"] ++ ["types", "-"]) = .command { quiet := true } .types ["-"] ∧
    errand [] false ["-"] ≠ .help ∧ harbour.files.IsWritable "api.json" ∧
    (run harbour (["--quiet"] ++ ["types", "-"])).exitCode = 0 ∧
    (run harbour (["--quiet"] ++ ["-o", "api.json"] ++ ["types", "-"])).streams.out = "" ∧
    (run harbour (["--quiet"] ++ ["-o", "api.json"] ++ ["types", "-"])).streams.files.read?
      "api.json" = .ok (some (Text.encode "Name\tKind\tDepends on\n")) := by
  have hquiet : AreOptions ["--quiet"] :=
    ⟨_, fun rest => takeOptions_of_option (by decide) (by decide) rfl⟩
  have hspelling : ["-o", "api.json"] ∈ spellings "api.json" := List.mem_cons_self
  have hhelp : errand [] false ["-"] ≠ .help := by decide
  have hwritable : harbour.files.IsWritable "api.json" := by
    have htarget : harbour.files.target "api.json" = .ok ["api.json"] := by decide +kernel
    exact Files.isWritable_iff.2 ⟨_, htarget, by decide⟩
  obtain ⟨w, hrun, hw⟩ := run_harbour
  have hredirected : Redirected harbour.files "api.json" harbour.crashLog harbour.crashLog
      (run harbour (["--quiet"] ++ ["types", "-"]))
      (run harbour (["--quiet"] ++ ["-o", "api.json"] ++ ["types", "-"])) :=
    output_redirected hquiet hspelling invocation_harbour rfl hhelp hwritable
  have hcode : (run harbour (["--quiet"] ++ ["types", "-"])).exitCode = 0 := by
    rw [hrun]
    rfl
  obtain ⟨hout, hfile⟩ := hredirected.done hcode
  rw [hrun] at hfile
  rw [← hw]
  exact ⟨hquiet, hspelling, invocation_harbour, hhelp, hwritable, hcode, hout, hfile⟩

end ApiModel.CommandLine
