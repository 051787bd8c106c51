/-!
# Arguments

The arguments of the program are options, the name of a command, and the arguments of the command.
Options may be given by a long name after two hyphens, or by a letter after one; letters without a
value may share a hyphen. A value may follow an equals sign after a long name, follow a letter
directly, or be the next argument, whatever it looks like. Options end at the first argument that
is none, or after two hyphens alone. Where no command follows them, what follows is read as options
once more, in case it asks for the version or the usage.

* `takeLetters_nil`: when no letters are left, the options are as they were.
-/

namespace ApiModel.CommandLine

/-! ## Options -/

/-- The options of the program. -/
structure Options where
  /-- Tables are written as JSON. -/
  json : Bool := false
  /-- Tables are written as lines. -/
  plain : Bool := false
  /-- Colours are turned off. -/
  noColor : Bool := false
  /-- Only errors are reported. -/
  quiet : Bool := false
  /-- Everything is reported. -/
  verbose : Bool := false
  /-- The name of the least importance that is reported. -/
  logLevel : Option String := none
  /-- The path of the file to write to. -/
  output : Option String := none
  deriving DecidableEq, Repr

/-- What is asked for instead of running a command. -/
inductive Request where
  /-- The version. -/
  | version
  /-- The usage. -/
  | help
  deriving DecidableEq, Repr

/-- The options so far and the first request. -/
structure Choices where
  /-- The options. -/
  options : Options
  /-- The first request. -/
  request : Option Request
  deriving DecidableEq, Repr

/-- What an option does. -/
inductive Effect where
  /-- It changes the choices. -/
  | flag (f : Choices → Choices)
  /-- It changes the choices and takes a value. -/
  | value (f : String → Choices → Choices)

/-- The effect of a change of options. -/
def change (f : Options → Options) : Effect := .flag fun c => { c with options := f c.options }

/-- The effect of a change of options by a value. -/
def changeBy (f : String → Options → Options) : Effect :=
  .value fun s c => { c with options := f s c.options }

/-- The effect of a request; the first one counts. -/
def ask (r : Request) : Effect := .flag fun c => { c with request := c.request <|> some r }

/-- The effect of the option with a long name. -/
def named? : String → Option Effect
  | "--version" => some (ask .version)
  | "--help" => some (ask .help)
  | "--json" => some (change fun o => { o with json := true })
  | "--plain" => some (change fun o => { o with plain := true })
  | "--no-color" => some (change fun o => { o with noColor := true })
  | "--quiet" => some (change fun o => { o with quiet := true })
  | "--verbose" => some (change fun o => { o with verbose := true })
  | "--log-level" => some (changeBy fun s o => { o with logLevel := some s })
  | "--output" => some (changeBy fun s o => { o with output := some s })
  | _ => none

/-- The effect of the option with a letter. -/
def lettered? : Char → Option Effect
  | 'q' => some (change fun o => { o with quiet := true })
  | 'v' => some (change fun o => { o with verbose := true })
  | 'o' => some (changeBy fun s o => { o with output := some s })
  | _ => none

/-! ## Reading options -/

/-- The choices after letters that share a hyphen, and the arguments that are left. -/
def takeLetters (c : Choices) (rest : List String) :
    List Char → Option (Choices × List String)
  | [] => some (c, rest)
  | l :: ls =>
    match lettered? l with
    | none => none
    | some (.flag f) => takeLetters (f c) rest ls
    | some (.value f) =>
      if ls.isEmpty then
        match rest with
        | [] => none
        | v :: rest => some (f v c, rest)
      else some (f (String.ofList ls) c, rest)

theorem takeLetters_nil (c : Choices) (rest : List String) :
    takeLetters c rest [] = some (c, rest) := rfl

/-- The choices after an option with a long name, and the arguments that are left. -/
def takeNamed (c : Choices) (rest : List String) (name : String) (value : Option String) :
    Option (Choices × List String) :=
  match named? name, value with
  | none, _ => none
  | some (.flag f), none => some (f c, rest)
  | some (.flag _), some _ => none
  | some (.value f), some v => some (f v c, rest)
  | some (.value f), none =>
    match rest with
    | [] => none
    | v :: rest => some (f v c, rest)

/-- A text before its first equals sign, and what comes after that. -/
def splitValue (cs : List Char) : String × Option String :=
  match cs.dropWhile (· ≠ '=') with
  | [] => (String.ofList cs, none)
  | _ :: value => (String.ofList (cs.takeWhile (· ≠ '=')), some (String.ofList value))

/-- The choices after an option, and the arguments that are left; none if there is no such option
or its value is missing. -/
def takeOption (c : Choices) (rest : List String) (option : List Char) :
    Option (Choices × List String) :=
  match option with
  | '-' :: '-' :: _ => takeNamed c rest (splitValue option).1 (splitValue option).2
  | _ :: letters => takeLetters c rest letters
  | [] => none

/-- Whether an argument is an option. -/
def isOption (arg : List Char) : Bool :=
  match arg with
  | '-' :: _ :: _ => true
  | _ => false

theorem length_takeLetters_le {c d : Choices} {rest left : List String} {ls : List Char}
    (h : takeLetters c rest ls = some (d, left)) : left.length ≤ rest.length := by
  induction ls generalizing c with
  | nil => cases h; exact Nat.le_refl _
  | cons l ls ih =>
    unfold takeLetters at h
    split at h
    · cases h
    · exact ih h
    · split at h
      · split at h
        · cases h
        · cases h; simp
      · cases h; exact Nat.le_refl _

theorem length_takeNamed_le {c d : Choices} {rest left : List String} {name : String}
    {value : Option String} (h : takeNamed c rest name value = some (d, left)) :
    left.length ≤ rest.length := by
  unfold takeNamed at h
  split at h
  · cases h
  · cases h; exact Nat.le_refl _
  · cases h
  · cases h; exact Nat.le_refl _
  · split at h
    · cases h
    · cases h; simp

theorem length_takeOption_le {c d : Choices} {rest left : List String} {option : List Char}
    (h : takeOption c rest option = some (d, left)) : left.length ≤ rest.length := by
  unfold takeOption at h
  split at h
  · exact length_takeNamed_le h
  · exact length_takeLetters_le h
  · cases h

/-- The choices after all options, and the arguments that are left. -/
def takeOptions (c : Choices) (args : List String) : Option (Choices × List String) :=
  match args with
  | [] => some (c, [])
  | arg :: rest =>
    if arg = "--" then some (c, rest)
    else if isOption arg.toList then
      match h : takeOption c rest arg.toList with
      | some (d, left) =>
        have := length_takeOption_le h
        takeOptions d left
      | none => none
    else some (c, arg :: rest)
termination_by args.length
decreasing_by simp only [List.length_cons]; omega

/-! ## Commands -/

/-- What the program can do with a document. -/
inductive Command where
  /-- List the declarations. -/
  | types
  /-- List the operations. -/
  | operations
  /-- Write everything. -/
  | dump
  deriving DecidableEq, Repr

/-- The command that a word stands for. -/
def Command.ofWord? : String → Option Command
  | "types" => some .types
  | "operations" => some .operations
  | "dump" => some .dump
  | _ => none

/-- What the arguments of a command ask for. -/
inductive Errand where
  /-- The command, for a document from a source. -/
  | document (source : String)
  /-- The usage of the command. -/
  | help
  /-- Nothing that the command can do. -/
  | misuse
  deriving DecidableEq, Repr

/-- What the arguments of a command ask for. Its only option is the one for its usage, which may
stand anywhere before two hyphens alone. -/
def errand (sources : List String) (helped : Bool) : List String → Errand
  | [] =>
    if helped then .help
    else match sources with
      | [source] => .document source
      | _ => .misuse
  | arg :: rest =>
    if arg = "--" then
      if helped then .help
      else match sources ++ rest with
        | [source] => .document source
        | _ => .misuse
    else if arg = "--help" then errand sources true rest
    else if isOption arg.toList then .misuse
    else errand (sources ++ [arg]) helped rest

/-- What the arguments of the program ask for. -/
inductive Invocation where
  /-- Something instead of running a command. -/
  | request (r : Request)
  /-- A command with its arguments. -/
  | command (options : Options) (command : Command) (args : List String)
  /-- Nothing that the program can do. -/
  | misuse
  deriving DecidableEq, Repr

/-- What arguments ask for that begin with no command: they may still hold a request. -/
def lateRequest (args : List String) : Invocation :=
  match takeOptions ⟨{}, none⟩ args with
  | some (⟨_, some r⟩, _) => .request r
  | _ => .misuse

/-- What the arguments of the program ask for. -/
def invocation (args : List String) : Invocation :=
  match takeOptions ⟨{}, none⟩ args with
  | none => .misuse
  | some (⟨_, some r⟩, _) => .request r
  | some (⟨options, none⟩, word :: args) =>
    match Command.ofWord? word with
    | some command => .command options command args
    | none => lateRequest (word :: args)
  | some (⟨_, none⟩, []) => .misuse

/-- The source of the document that a run with these arguments reads. -/
def source? (args : List String) : Option String :=
  match invocation args with
  | .command _ _ args =>
    match errand [] false args with
    | .document source => some source
    | _ => none
  | _ => none

/-- The path of the file that a run with these arguments writes to. -/
def target? (args : List String) : Option String :=
  match invocation args with
  | .command options _ _ => options.output.filter (· ≠ "")
  | _ => none

end ApiModel.CommandLine
