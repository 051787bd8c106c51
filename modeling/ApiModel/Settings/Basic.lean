import ApiModel.Check.Basic
import ApiModel.Text.Blank
import ApiModel.Text.Pieces
import ApiModel.Value.Display

/-!
# Settings

Settings say which media types count as JSON, whether declarations are put into order, and how
important an event must be to be reported.

* `Threshold.ofWord?_word`: a threshold is read back from its word.
* `Threshold.check_eq_ok_iff`: a value names a threshold if it is the word for it in any case.
* `isJson_of_mem`: a media type of the list counts as JSON if it is written plainly.
-/

namespace ApiModel

/-! ## Thresholds -/

/-- How important an event must be to be reported. -/
inductive Threshold where
  /-- Only what ends the program. -/
  | critical
  /-- Another word for the same. -/
  | fatal
  /-- Errors. -/
  | error
  /-- Another word for warnings. -/
  | warn
  /-- Warnings. -/
  | warning
  /-- What goes on. -/
  | info
  /-- Whatever may help to find a fault. -/
  | debug
  /-- Everything. -/
  | everything
  deriving DecidableEq, Repr

namespace Threshold

/-- All thresholds. -/
def all : List Threshold := [.critical, .fatal, .error, .warn, .warning, .info, .debug, .everything]

/-- The word for a threshold. -/
def word : Threshold → String
  | .critical => "CRITICAL"
  | .fatal => "FATAL"
  | .error => "ERROR"
  | .warn => "WARN"
  | .warning => "WARNING"
  | .info => "INFO"
  | .debug => "DEBUG"
  | .everything => "NOTSET"

/-- The number by which a threshold is compared with the importance of an event. -/
def rank : Threshold → Nat
  | .critical | .fatal => 50
  | .error => 40
  | .warn | .warning => 30
  | .info => 20
  | .debug => 10
  | .everything => 0

/-- The threshold that a word stands for, in upper case. -/
def ofWord? (s : String) : Option Threshold := all.find? (·.word == s)

theorem ofWord?_word (t : Threshold) : ofWord? t.word = some t := by
  cases t <;> rfl

theorem ofWord?_eq_some_iff {t : Threshold} {s : String} : ofWord? s = some t ↔ t.word = s := by
  constructor
  · intro h
    simpa using List.find?_some h
  · rintro rfl
    exact ofWord?_word t

/-- The threshold that a value names, in any case. -/
def check (v : Value) : Checked Threshold :=
  match v.checkText with
  | .ok s =>
    match ofWord? (Text.upper s) with
    | some t => .ok t
    | none => .fail .levelUnknown
  | .error issues => .error issues

theorem check_eq_ok_iff {v : Value} {t : Threshold} :
    check v = .ok t ↔ ∃ level, v.checkText = .ok level ∧ t.word = Text.upper level := by
  unfold check
  cases v.checkText with
  | error issues => simp
  | ok level =>
    simp only [Except.ok.injEq, exists_eq_left', ← ofWord?_eq_some_iff]
    cases ofWord? (Text.upper level) <;> simp [Checked.fail]

end Threshold

/-! ## Settings -/

/-- The settings. -/
structure Settings where
  /-- The media types of bodies that count as JSON, the most welcome first. -/
  jsonMediaTypes : List String := ["application/json"]
  /-- Whether media types that end like those of JSON count as such too. -/
  acceptJsonSuffix : Bool := true
  /-- Whether declarations are put into order. -/
  sortDeclarations : Bool := true
  /-- How important an event must be to be reported. -/
  threshold : Threshold := .warning
  deriving DecidableEq, Repr

namespace Settings

instance : Inhabited Settings := ⟨{}⟩

/-- The names of the settings. -/
def names : List String :=
  ["json_media_types", "accept_json_suffix", "sort_declarations", "log_level"]

/-- The outcome for entries that are no settings. -/
def checkNames (entries : Entries) : Checked Unit :=
  match entries.filterMap fun e =>
      match e.1 with
      | .text s => if s ∈ names then none else some ⟨[.name s], .unexpected⟩
      | k => some ⟨[.name k.said], .unexpected⟩ with
  | [] => .ok ()
  | issues => .error issues

/-- The settings that entries give, by default those of the defaults. -/
def ofEntries (entries : Entries) : Checked Settings :=
  let v := Value.map entries
  let defaults : Settings := {}
  (Checked.both
    (Checked.both
      (Checked.both
        (v.part "json_media_types" (.ok defaults.jsonMediaTypes) fun w _ =>
          w.sequence .notSequence fun m _ => m.checkText)
        (v.part "accept_json_suffix" (.ok defaults.acceptJsonSuffix) fun w _ => w.checkTruth))
      (Checked.both
        (v.part "sort_declarations" (.ok defaults.sortDeclarations) fun w _ => w.checkTruth)
        (v.part "log_level" (.ok defaults.threshold) fun w _ => Threshold.check w)))
    (checkNames entries)).map
      fun p => ⟨p.1.1.1, p.1.1.2, p.1.2.1, p.1.2.2⟩

/-- The settings that a value gives. -/
def check (v : Value) : Checked Settings :=
  match v with
  | .map entries => ofEntries entries
  | _ => .fail .notRecord

/-- Settings as a map. -/
def toValue (s : Settings) : Value :=
  .record [("json_media_types", .list (s.jsonMediaTypes.map .text)),
    ("accept_json_suffix", .bool s.acceptJsonSuffix),
    ("sort_declarations", .bool s.sortDeclarations), ("log_level", .text s.threshold.word)]

/-! ## Media types -/

/-- A media type without its parameters and the blanks around it, in lower case. -/
def essence (mediaType : String) : String :=
  Text.lower (String.ofList (Text.strip (mediaType.toList.takeWhile (· ≠ ';'))))

/-- Whether a media type counts as JSON. -/
def isJson (s : Settings) (mediaType : String) : Bool :=
  let e := essence mediaType
  (s.jsonMediaTypes.map Text.lower).contains e
    || s.acceptJsonSuffix && (Text.endsWith "+json" e || Text.endsWith "/json" e)

theorem isJson_of_mem {s : Settings} {m : String} (h : m ∈ s.jsonMediaTypes)
    (hm : essence m = Text.lower m) : s.isJson m = true := by
  simp only [isJson, hm, Bool.or_eq_true, List.contains_iff_mem]
  exact .inl (List.mem_map_of_mem h)

end Settings

end ApiModel
