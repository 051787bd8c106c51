import ApiModel.Json.Read
import ApiModel.Yaml.Read
import ApiModel.Trace

/-!
# The content of a source

A document is written in JSON or in YAML. A hint may say in which; without one the content is read
as JSON and, if it is not, as YAML. What is read must be a map.

* `read_of_json`: what is JSON and a map is read as that, unless the hint says YAML.
-/

namespace ApiModel.Source

/-- What is known about the language of a content. -/
inductive Hint where
  /-- It is JSON. -/
  | json
  /-- It is YAML. -/
  | yaml
  /-- Nothing. -/
  | unknown
  deriving DecidableEq, Repr

/-- A document that was read; it must be a map. -/
def requireMap (v : Value) : Except Failure Value :=
  match v with
  | .map entries => .ok (.map entries)
  | .null => .error (.notObject "empty document")
  | v => .error (.notObject v.kind)

/-- The document that a content in YAML holds; the complaint of the reader of JSON is passed on. -/
def readYaml (jsonComplaint : Option String) (content : String) : Except Failure Value :=
  match Yaml.read content with
  | .ok v => requireMap v
  | .error .malformed => .error (.notYaml jsonComplaint)
  | .error (.fault f) => .error (.fault f)

/-- The document that a content holds. -/
def read (hint : Hint) (content : String) : Except Failure Value :=
  if hint = .yaml then readYaml none content
  else match Json.read content with
    | .ok v => requireMap v
    | .error .tooLong => .error (.fault .badValue)
    | .error .tooDeep => .error (.fault .tooDeep)
    | .error (.malformed problem place) =>
      let complaint := Json.complaint content problem place
      if hint = .json then .error (.notJson complaint) else readYaml (some complaint) content

theorem read_of_json {hint : Hint} {content : String} {entries : Entries} (hh : hint ≠ .yaml)
    (h : Json.read content = .ok (.map entries)) : read hint content = .ok (.map entries) := by
  simp [read, hh, h, requireMap]

end ApiModel.Source
