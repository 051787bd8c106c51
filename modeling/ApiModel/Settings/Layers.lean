import ApiModel.Json.Read
import ApiModel.Settings.Basic
import ApiModel.Source.Load

/-!
# Layers of settings

Settings come from four layers: the arguments of the program, the environment, the settings file,
and the defaults. What a layer says covers what those below it say about the same thing.

* `effective_command`: a level among the arguments covers all others.
-/

namespace ApiModel.Settings

/-! ## The settings file -/

/-- The name of the settings file. -/
def fileName : String := "specir.json"

/-- The entries of a settings file with a content; its path is for messages. -/
def readFile (path : String) (bytes : List UInt8) : Except Failure Entries := do
  let content ← Source.textOfBytes bytes
  match Json.read content with
  | .ok (.map entries) => return entries
  | .ok _ => throw (.settingsNotObject path)
  | .error .tooLong => throw (.fault .badValue)
  | .error .tooDeep => throw (.fault .tooDeep)
  | .error (.malformed problem place) =>
    throw (.settingsUnreadable path (Json.complaint content problem place))

/-- The entries of the settings file in a directory, if it is there. By default it is looked for in
the working directory. -/
def project? (s : Surroundings) (start : Option String) : Except Failure (Option Entries) :=
  match s.files.read? (Path.within (start.getD ".") fileName) with
  | .error f => .error (.fault f)
  | .ok none => .ok none
  | .ok (some bytes) => (readFile (Path.within (start.getD s.directory) fileName) bytes).map some

/-! ## Layers -/

/-- The layers above the defaults. -/
structure Layers where
  /-- The entries of the settings file. -/
  project : Entries
  /-- The level that the environment gives. -/
  environmentLevel : Option String
  /-- The media types that the environment gives. -/
  environmentMediaTypes : Option (List String)
  /-- The level among the arguments. -/
  commandLevel : Option String

/-- The items of a list with commas between them, without the blanks around them. -/
def commaItems (s : String) : List String :=
  ((Text.pieces ',' s.toList).map Text.strip).filterMap fun item =>
    if item.isEmpty then none else some (String.ofList item)

/-- The level that counts above the settings file. -/
def Layers.level? (l : Layers) : Option String := l.commandLevel <|> l.environmentLevel

/-- The entries that all layers give together. -/
def Layers.effective (l : Layers) : Entries :=
  let es := l.project
  let es := match l.level? with
    | some level => Entries.put es (.text "log_level") (.text level)
    | none => es
  match l.environmentMediaTypes with
  | some types => Entries.put es (.text "json_media_types") (.list (types.map .text))
  | none => es

/-- The settings that all layers give together. -/
def Layers.settings (l : Layers) : Except Failure Settings :=
  (ofEntries l.effective).mapError .settingsInvalid

/-- The settings of a run with a level among its arguments. -/
def resolve (s : Surroundings) (start commandLevel : Option String) : Except Failure Settings := do
  let project ← project? s start
  let layers : Layers := {
    project := project.getD []
    environmentLevel := s.filled "SPECIR_LOG_LEVEL"
    environmentMediaTypes := (s.filled "SPECIR_JSON_MEDIA_TYPES").map commaItems
    commandLevel }
  layers.settings

theorem effective_command {l : Layers} {level : String} (h : l.commandLevel = some level)
    (other : Option String) :
    { l with environmentLevel := other }.effective = l.effective := by
  simp [Layers.effective, Layers.level?, h]

end ApiModel.Settings
