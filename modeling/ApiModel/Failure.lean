import ApiModel.Check.Issue
import ApiModel.Fault
import ApiModel.Text.Case
import ApiModel.Value.Display

/-!
# Failures

Everything that can go wrong, by its cause. Failures of usage, settings, documents and schemas have
a wording and an exit code. A value that does not have the form its model declares is `invalid`,
and a fault ends a run without a wording of its own.

* `Failure.isDocument_of_isSchema`: every failure of a schema is one of its document.
* `Failure.exitCode_of_isSchema`: failures of schemas exit with 8, whoever states them, unless a
  code is given.
* `Failure.surfaced_of_not_quotes`: a failure that quotes no value can be put into words.
* `Failure.surfaced_eq_iff`: as what a failure comes to light.
-/

namespace ApiModel

/-- The part of the work a failure belongs to. -/
inductive Category where
  /-- None in particular. -/
  | general
  /-- The arguments of the program. -/
  | usage
  /-- The settings. -/
  | settings
  /-- Finding and reading a document. -/
  | document
  /-- A schema, reference or operation in a document. -/
  | schema
  deriving DecidableEq, Repr

/-- The exit code of a failure of a category. -/
def Category.exitCode : Category → Int
  | .general | .settings => 1
  | .usage => 2
  | .document => 7
  | .schema => 8

/-- The declared forms that values are checked against. -/
inductive Form where
  /-- A type. -/
  | type
  /-- A field of a record type. -/
  | field
  /-- A declaration. -/
  | declaration
  /-- A parameter of an operation. -/
  | parameter
  /-- A parameter of the shared table. -/
  | sharedParameter
  /-- A header of a response. -/
  | header
  /-- A body of a response. -/
  | body
  /-- A response. -/
  | response
  /-- An operation. -/
  | operation
  /-- Everything read from a document. -/
  | api
  /-- Settings. -/
  | settings
  deriving DecidableEq, Repr

/-- What went wrong. -/
inductive Failure where
  /-- A failure stated in words, possibly with an exit code of its own. -/
  | stated (category : Category) (message : String) (exitCode : Option Int)
  /-- Two formats were asked for. -/
  | exclusiveFormats
  /-- The settings file is not JSON. -/
  | settingsUnreadable (path complaint : String)
  /-- The settings file is no object. -/
  | settingsNotObject (path : String)
  /-- Settings have wrong values. -/
  | settingsInvalid (issues : List Issue)
  /-- Standard input is blank. -/
  | noInput
  /-- There is no such file. -/
  | sourceMissing (path : String)
  /-- The file is blank. -/
  | sourceEmpty (path : String)
  /-- The server answered with a status outside the two hundreds. -/
  | sourceStatus (status : Int) (url : String)
  /-- The server could not be reached. -/
  | sourceUnreachable (url reason : String)
  /-- The source is not JSON and must be. -/
  | notJson (complaint : String)
  /-- The source is not YAML, and if it was tried, not JSON either. -/
  | notYaml (jsonComplaint : Option String)
  /-- The source holds something other than a map. -/
  | notObject (kind : String)
  /-- The version of Swagger is not supported. -/
  | swaggerVersion (version : String)
  /-- The version of OpenAPI is not supported. -/
  | openApiVersion (version : String)
  /-- The document names no version. -/
  | noVersion
  /-- A reference leads out of the document. -/
  | externalReference (ref : String)
  /-- A reference leads through a key that is not there. -/
  | referenceKey (ref key : String)
  /-- A reference leads through an index that is not there. -/
  | referenceIndex (ref index : String)
  /-- A reference leads into a value without parts. -/
  | referenceInto (ref kind : String)
  /-- References lead in a circle. -/
  | circularReference (ref : String)
  /-- A reference does not have the form of one into the given container. -/
  | malformedReference (ref : Value) (container : Option String)
  /-- A list schema does not say what its items are. -/
  | missingItems
  /-- A schema has none of the known shapes; its type is given. -/
  | unsupportedShape (type : Value)
  /-- An operation has no identifier. -/
  | missingOperationId (path : Value) (method : String)
  /-- A parameter refers to none of the shared ones. -/
  | unresolvedParameter (ref : Value)
  /-- A parameter has no name. -/
  | namelessParameter (raw : Value)
  /-- A parameter has an unknown location. -/
  | badLocation (location : Value) (name : String)
  /-- A value does not have its declared form. -/
  | invalid (form : Form) (issues : List Issue)
  /-- An operation cannot go on. -/
  | fault (f : Fault)

namespace Failure

/-- The part of the work a failure belongs to; none if it has no wording. -/
def category? : Failure → Option Category
  | .stated c _ _ => some c
  | .exclusiveFormats => some .usage
  | .settingsUnreadable .. | .settingsNotObject .. | .settingsInvalid .. => some .settings
  | .noInput | .sourceMissing .. | .sourceEmpty .. | .sourceStatus .. | .sourceUnreachable ..
  | .notJson .. | .notYaml .. | .notObject .. | .swaggerVersion .. | .openApiVersion ..
  | .noVersion | .externalReference .. | .referenceKey .. | .referenceIndex ..
  | .referenceInto .. | .circularReference .. => some .document
  | .malformedReference .. | .missingItems | .unsupportedShape .. | .missingOperationId ..
  | .unresolvedParameter .. | .namelessParameter .. | .badLocation .. => some .schema
  | .invalid .. | .fault .. => none

/-- Whether a failure concerns a document, its schemas included. -/
def isDocument (f : Failure) : Bool :=
  match f.category? with
  | some .document | some .schema => true
  | _ => false

/-- Whether a failure concerns a schema, reference or operation in a document. -/
def isSchema (f : Failure) : Bool :=
  match f.category? with
  | some .schema => true
  | _ => false

/-- The exit code of a failure: its own if it has one, or that of its category. A failure without a
category exits like one of no category in particular. -/
def exitCode : Failure → Int
  | .stated _ _ (some code) => code
  | f => (f.category?.getD .general).exitCode

theorem isDocument_of_isSchema {f : Failure} (h : f.isSchema = true) : f.isDocument = true := by
  unfold isSchema at h
  unfold isDocument
  split at h <;> simp_all

theorem exitCode_of_isSchema {f : Failure} (h : f.isSchema = true)
    (own : ∀ c m code, f ≠ .stated c m (some code)) : f.exitCode = 8 := by
  unfold isSchema at h
  unfold exitCode
  split at h
  · rename_i hc
    split
    · exact (own _ _ _ rfl).elim
    · simp [hc, Category.exitCode]
  · cases h

/-- The wording of a failure. What the reader of YAML had to complain about is not told. -/
def message : Failure → String
  | .stated _ m _ => m
  | .exclusiveFormats => "--json and --plain are mutually exclusive"
  | .settingsUnreadable path complaint => s!"Failed to read project config {path}: {complaint}"
  | .settingsNotObject path => s!"Project config {path} must be a JSON object"
  | .settingsInvalid issues =>
    "Invalid configuration: " ++ "; ".intercalate (issues.map Issue.text)
  | .noInput => "No input received from stdin"
  | .sourceMissing path => s!"Spec file not found: {path}"
  | .sourceEmpty path => s!"Spec file is empty: {path}"
  | .sourceStatus status url => s!"HTTP {status} fetching spec from {url}"
  | .sourceUnreachable url reason => s!"Failed to fetch spec from {url}: {reason}"
  | .notJson complaint => s!"Invalid JSON: {complaint}"
  | .notYaml complaint =>
    "Failed to parse spec as JSON or YAML"
      ++ (match complaint with | some c => s!"\n  JSON error: {c}" | none => "")
      ++ "\n  YAML error"
  | .notObject kind => s!"Spec must be a JSON/YAML object (got {kind})"
  | .swaggerVersion v => s!"Unsupported Swagger version: {v}. Only Swagger 2.0 is supported."
  | .openApiVersion v =>
    s!"Unsupported OpenAPI version: {v}. Only Swagger 2.0 and OpenAPI 3.x are supported."
  | .noVersion => "Missing 'openapi' or 'swagger' field. Is this an OpenAPI document?"
  | .externalReference ref =>
    s!"External $ref not supported: {ref}. Bundle the document into a single file first."
  | .referenceKey ref key => s!"Cannot resolve $ref '{ref}': key '{key}' not found at path"
  | .referenceIndex ref index => s!"Cannot resolve $ref '{ref}': invalid array index '{index}'"
  | .referenceInto ref kind => s!"Cannot resolve $ref '{ref}': cannot navigate into {kind}"
  | .circularReference ref => s!"Circular $ref chain through '{ref}'"
  | .malformedReference ref container =>
    let expected := match container.filter (· ≠ "") with
      | some c => s!"'#/{c}/<name>'"
      | none => "a '#/...' pointer string"
    s!"Malformed reference {ref.shown}: expected {expected}"
  | .missingItems => "Array schema is missing 'items'"
  | .unsupportedShape type => s!"Unable to lower schema of type {type.shown}"
  | .missingOperationId path method =>
    s!"Operation {Text.upper method} {path.said} has no operationId"
  | .unresolvedParameter ref =>
    s!"Parameter reference {ref.shown} does not match any shared parameter"
  | .namelessParameter raw => s!"Parameter object without a name: {raw.shown}"
  | .badLocation location name =>
    s!"Invalid parameter location {location.shown} for parameter {Text.quote name}"
  | .invalid _ _ => ""
  | .fault _ => ""

/-- The value that is quoted in the wording of a failure. -/
def quoted? : Failure → Option Value
  | .malformedReference v _ | .unsupportedShape v | .missingOperationId v _
  | .unresolvedParameter v | .namelessParameter v | .badLocation v _ => some v
  | _ => none

/-- A failure as it comes to light. One that quotes a value without a written form cannot be put
into words, and so is a fault. -/
def surfaced (f : Failure) : Failure :=
  match f.quoted? with
  | some v => if v.isSayable then f else .fault .badValue
  | none => f

theorem surfaced_of_not_quotes {f : Failure} (h : f.quoted? = none) : f.surfaced = f := by
  simp [surfaced, h]

/-- A failure comes to light as it is if all that it quotes can be written down, and as a bad value
otherwise. -/
theorem surfaced_eq_iff {f e : Failure} :
    f.surfaced = e ↔
      (∀ v, f.quoted? = some v → v.isSayable = true) ∧ e = f ∨
        (∃ v, f.quoted? = some v ∧ v.isSayable = false) ∧ e = .fault .badValue := by
  unfold surfaced
  rw [eq_comm]
  cases f.quoted? with
  | none => simp
  | some v => cases hv : v.isSayable <;> simp [hv]

end Failure

end ApiModel
