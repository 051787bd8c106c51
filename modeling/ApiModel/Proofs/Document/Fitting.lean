import ApiModel.Proofs.Document.Operations
import ApiModel.Proofs.Document.Part
import ApiModel.Proofs.Document.Place
import ApiModel.Proofs.Schema.Fitting

/-!
# Documents that fit

What a part of a document is read as decides which values are looked at in it, and what is done with
them. A part fits if these values have kinds for which that can be done: what is gone through can be
gone through, what becomes a text is one. Nothing is asked of other values, and nothing that is only
wrong is forbidden.

* `Fits`: what is asked of a part, going by what it is read as.
* `Fitting`: all parts of a document fit, and refer by values that can be looked up.
* `sayable_of_part`: in a document with a written form all parts have one.
-/

namespace ApiModel.Document

open Reference (Layout)

variable {version : Version} {document v : Value} {way : Way} {role : Role}

/-! ## Parts that fit -/

/-- A schema that is mixed with other keys can be gone through, if it is a text that is
enumerated. -/
def FitsInline (v : Value) : Prop :=
  v.getD "type" = .text "string" →
    v.getD "enum" = .null ∨ ∃ ws, (v.getD "enum").elements? = some ws

/-- What is asked of the description of a parameter. -/
structure FitsParameter (version : Version) (v : Value) : Prop where
  /-- What it is for is said by a text. -/
  description : (v.getD "description").IsTextualOrNull
  /-- Without a schema the media types are a map. -/
  content : version = .openApi3 → v.get? "schema" = none →
    (v.getD "content").Maps fun _ _ => True
  /-- In Swagger 2 the schema of what is no body is mixed with the other keys. -/
  inline : version = .swagger2 → v.getD "in" ≠ .text "body" → FitsInline v

/-- What is asked of the body of a request. -/
structure FitsBody (v : Value) : Prop where
  /-- It is a map. -/
  isMap : v.isMap = true
  /-- What it is for is said by a text. -/
  description : (v.getD "description").IsTextualOrNull
  /-- The media types are texts, each with a map. -/
  content : (v.getD "content").Maps fun key media =>
    (∃ s, key = .text s) ∧ (media.isTruthy = true → media.isMap = true)

/-- What is asked of a response. -/
structure FitsResponse (version : Version) (v : Value) : Prop where
  /-- What it is for is said by a text. -/
  description : (v.getD "description").IsTextualOrNull
  /-- The headers have names. -/
  headers : (v.getD "headers").Maps fun key _ => (Value.scalar key).IsTextual
  /-- In OpenAPI 3 the media types are texts. -/
  content : version = .openApi3 →
    (v.getD "content").Maps fun key _ => (Value.scalar key).IsTextual

/-- What is asked of a header. -/
structure FitsHeader (version : Version) (v : Value) : Prop where
  /-- It is a map. -/
  isMap : v.isMap = true
  /-- In Swagger 2 the schema is mixed with the other keys. -/
  inline : version = .swagger2 → FitsInline v

/-- What is asked of an operation. -/
structure FitsOperation (version : Version) (document v : Value) : Prop where
  /-- The parameters can be gone through. -/
  parameters : (v.getD "parameters").Lists fun _ => True
  /-- The identifier is a text, if there is one. -/
  id : (v.getD "operationId").isTruthy = true → (v.getD "operationId").IsTextual
  /-- What it is for is said by a text. -/
  description : (v.getD "description").IsTextualOrNull
  /-- And so is what it is for in short. -/
  summary : (v.getD "summary").IsTextualOrNull
  /-- The tags are texts. -/
  tags : (v.getD "tags").Lists Value.IsTextual
  /-- The responses are a map, and a key that is a run of digits is not too long for a number. -/
  responses : (v.getD "responses").Maps fun key _ =>
    isDigits (Value.scalar key).said = true →
      (Value.scalar key).said.toList.length ≤ Text.maxDigits
  /-- In Swagger 2 what it consumes are texts. -/
  consumes : version = .swagger2 → (consumes document v).Lists fun m => ∃ s, m = .text s
  /-- In Swagger 2 what it produces are texts. -/
  produces : version = .swagger2 → (produces document v).Lists Value.IsTextual

/-- What is asked of a whole document. -/
structure FitsDocument (version : Version) (v : Value) : Prop where
  /-- It is a map. -/
  isMap : v.isMap = true
  /-- The paths are texts. -/
  paths : (v.getD "paths").Maps fun key _ => (Value.scalar key).IsTextual
  /-- The named schemas have names, and what they are for is said by texts. -/
  schemas : ∀ e ∈ container v (Layout.of version).schemas,
    (∃ name, e.1 = .text name) ∧ (e.2.getD "description").IsTextualOrNull
  /-- The shared parameters have names. -/
  parameters : ∀ e ∈ container v (Layout.of version).parameters, ∃ name, e.1 = .text name

/-- What is asked of a part of a document, going by what it is read as. -/
def Fits (version : Version) (document : Value) : Role → Value → Prop
  | .document, v => FitsDocument version v
  | .path, v => (v.getD "parameters").Lists fun _ => True
  | .operation, v => FitsOperation version document v
  | .argument, v | .parameter, v => FitsParameter version v
  | .body, v => FitsBody v
  | .response, v => FitsResponse version v
  | .header, v => FitsHeader version v
  | .media, _ => True
  | .schema, v => Schema.Fits v

/-- All parts of a document that are described where they stand fit. The others refer by texts, or,
where they refer to shared parameters, by anything that can be looked up. -/
structure Fitting (version : Version) (document : Value) : Prop where
  /-- The parts fit. -/
  fits : ∀ ⦃way role v⦄, Part version document way role v → Described role v →
    Fits version document role v
  /-- References that are followed are texts. -/
  followed : ∀ ⦃way role v⦄, Part version document way role v → role.isFollowed = true →
    ∀ r, v.get? "$ref" = some r → ∃ s, r = .text s
  /-- References to shared parameters can be looked up. -/
  lookedUp : ∀ ⦃way v⦄, Part version document way .argument v →
    ∀ r, v.get? "$ref" = some r → r.isKey = true

/-! ## Schemas -/

/-- A schema that is a part fits, whether it is a reference or not. -/
theorem Fitting.schema (h : Fitting version document) (hv : Part version document way .schema v) :
    Schema.Fits v := by
  cases hr : v.get? "$ref" with
  | some r => exact Schema.fits_of_reference hr
  | none => exact h.fits hv fun _ => hr

/-! ## Written forms -/

theorem sayable_of_mem_container {place : String} {e : Scalar × Value}
    (h : document.isSayable = true) (he : e ∈ container document place) :
    e.1.isSayable = true ∧ e.2.isSayable = true := by
  have hplace : ∀ place v, v.isSayable = true → (valueAt v place).isSayable = true := by
    intro place
    induction place with
    | nil => exact fun v hv => hv
    | cons key place ih => exact fun v hv => ih _ (Value.isSayable_getD hv)
  unfold container at he
  rw [entriesAt_eq] at he
  split at he
  · rename_i es hes
    have hmap := hplace (Text.cut '/' place) document h
    rw [hes] at hmap
    exact Value.isSayable_map_iff.1 hmap e he
  · cases he

/-- In a document with a written form all parts have one. -/
theorem sayable_of_part (h : document.isSayable = true)
    (hv : Part version document way role v) : v.isSayable = true := by
  induction hv with
  | document => exact h
  | parameter he => exact (sayable_of_mem_container h he).2
  | schema he => exact (sayable_of_mem_container h he).2
  | target hv hrole href hf ih => exact Value.isInherited_sayable.find h hf
  | operation hv hd he hm ih =>
    rw [(methodOf?_eq_some_iff.1 hm).1] at he
    exact Value.isInherited_sayable.entry _ ih _ he
  | argument hv hrole hd hws hw ih =>
    exact Value.isSayable_of_mem_elements (Value.isSayable_getD ih)
      (Value.elements?_of_items hws hw) hw
  | named hv hd hkeyword hes hm ih =>
    have hmap : (Value.map _).isSayable = true := hes ▸ Value.isSayable_getD ih
    exact Value.isInherited_sayable.entry _ hmap _ hm
  | single hv hd hkeyword hw ih => exact Value.isInherited_sayable.get? ih hw
  | inside hs hc ih => exact Schema.isSayable_of_mem_children ih hc

end ApiModel.Document
