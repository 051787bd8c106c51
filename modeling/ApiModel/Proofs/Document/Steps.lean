import ApiModel.Proofs.Document.Part
import ApiModel.Proofs.Schema.Failing

/-!
# The steps of reading a document

Reading a part of a document looks values up in it, goes through them and checks them, before it
goes on to further parts. For each kind of part there is a list of these steps, and it says that
they fail only in a way.

* `get?_of_inlineSchema`, `items_of_mem_children`: what a schema holds that is mixed with other
  keys.
* `ParameterSteps`, `ResponseSteps`, `OperationSteps`: the steps of reading a part.
* `StepsFail`: the steps of reading all parts of a document.
-/

namespace ApiModel.Document

open Reference (Layout follow)

variable {v : Value}

/-! ## Schemas that are mixed with other keys -/

/-- What a schema that is mixed with other keys has under a key stands under that key. -/
theorem get?_of_inlineSchema {key : String} {w : Value}
    (h : (inlineSchema v).get? key = some w) : key ∈ inlineKeywords ∧ v.get? key = some w := by
  rw [inlineSchema, Value.get?_record_filterMap] at h
  split at h
  · exact ⟨‹_›, h⟩
  · cases h

theorem getD_inlineSchema {key : String} (h : key ∉ inlineKeywords) :
    (inlineSchema v).getD key = .null := by
  rw [Value.getD, inlineSchema, Value.get?_record_filterMap, if_neg h]
  rfl

theorem getD_inlineSchema_of_mem {key : String} (h : key ∈ inlineKeywords) :
    (inlineSchema v).getD key = v.getD key := by
  rw [Value.getD, inlineSchema, Value.get?_record_filterMap, if_pos h]
  rfl

/-- A schema that is mixed with other keys holds only the schema of its items. -/
theorem items_of_mem_children {c : Value} (h : c ∈ Schema.children (inlineSchema v)) :
    v.get? "items" = some c := by
  unfold Schema.children at h
  split at h
  · unfold Schema.items at h
    split at h
    · cases h
    · rename_i hnull
      obtain rfl := List.mem_singleton.1 h
      have hne : (inlineSchema v).getD "items" ≠ .null := fun h => hnull (Value.isNull_iff.2 h)
      exact (get?_of_inlineSchema (Value.get?_of_getD rfl hne)).2
  · rw [Schema.properties, getD_inlineSchema (by decide), Schema.branches,
      getD_inlineSchema (by decide)] at h
    simp at h

/-! ## Steps -/

/-- A description is a text, or is left out. -/
def DescriptionFails (Q : Failure → Prop) (form : Form) (v : Value) : Prop :=
  FailsOnly Q (Value.checkedAs form
    ((v.getD "description").checkTextOrNull.within [.name "description"]))

/-- The steps of reading a schema that is mixed with other keys. -/
structure InlineSteps (Q : Failure → Prop) (v : Value) : Prop where
  /-- Its type is looked up. -/
  type : FailsOnly Q (v.under "type")
  /-- It is a schema. -/
  schema : v.getD "type" ≠ .null → Schema.StepsFail Q (inlineSchema v)

/-- The steps of reading a parameter. -/
structure ParameterSteps (Q : Failure → Prop) (version : Version) (v : Value) : Prop where
  /-- It has a name. -/
  name : (∀ name, v.getD "name" ≠ .text name) → Q (.namelessParameter v)
  /-- It has a location. -/
  location : ∀ name, FailsOnly Q (locationOf name (v.getD "in"))
  /-- Without a schema it has a content. -/
  content : version = .openApi3 → v.get? "schema" = none → FailsOnly Q (v.getD "content").entries
  /-- In Swagger 2 the schema of what is no body is mixed with the other keys. -/
  inline : version = .swagger2 → v.isMap = true → v.getD "in" ≠ .text "body" → InlineSteps Q v
  /-- It is described. -/
  description : ∀ form, DescriptionFails Q form v

/-- The steps of reading the body of a request. -/
structure BodySteps (Q : Failure → Prop) (settings : Settings) (v : Value) : Prop where
  /-- It has a content. -/
  content : FailsOnly Q (v.under "content")
  /-- Its media types are gone through. -/
  mediaTypes : FailsOnly Q (v.getD "content").items
  /-- Each of them counts as JSON or does not. -/
  counted : ∀ ms, (v.getD "content").items = .ok ms → ∀ m ∈ ms,
    FailsOnly Q (countsAsJson settings m)
  /-- They are noted, if none of them does. -/
  noted : ∀ ms, (v.getD "content").items = .ok ms → FailsOnly Q (Value.joined ", " ms)
  /-- Something stands under the one that is picked. -/
  media : ∀ ms m, (v.getD "content").items = .ok ms → .text m ∈ ms →
    FailsOnly Q (mediaOf (v.getD "content") m)
  /-- It may have a schema. -/
  schema : ∀ ms m media, (v.getD "content").items = .ok ms → .text m ∈ ms →
    mediaOf (v.getD "content") m = .ok media → FailsOnly Q (media.optional "schema")
  /-- It is described. -/
  description : DescriptionFails Q .parameter v

/-- The steps of reading a header. -/
structure HeaderSteps (Q : Failure → Prop) (version : Version) (v : Value) : Prop where
  /-- In OpenAPI 3 it may have a schema. -/
  schema : version = .openApi3 → FailsOnly Q (v.optional "schema")
  /-- In Swagger 2 the schema is mixed with the other keys. -/
  inline : version = .swagger2 → InlineSteps Q v

/-- The steps of reading a response. -/
structure ResponseSteps (Q : Failure → Prop) (version : Version) (v : Value) : Prop where
  /-- Its headers are a map. -/
  headers : FailsOnly Q (v.getD "headers").entries
  /-- Each has a name. -/
  header : ∀ es, (v.getD "headers").entries = .ok es → ∀ e ∈ es,
    FailsOnly Q (Value.checkedAs .header ((Value.checkText (.scalar e.1)).within [.name "name"]))
  /-- In OpenAPI 3 its content is a map. -/
  content : version = .openApi3 → FailsOnly Q (v.getD "content").entries
  /-- Each media type is a text. -/
  body : version = .openApi3 → ∀ es, (v.getD "content").entries = .ok es → ∀ e ∈ es, ∀ type,
    FailsOnly Q (body (.scalar e.1) type)
  /-- It is described. -/
  description : DescriptionFails Q .response v

/-- A key of the paths of a document. -/
def IsPath (document : Value) (path : Scalar) : Prop :=
  ∃ es, (document.getD "paths").entries = .ok es ∧ ∃ e ∈ es, e.1 = path

/-- The steps of reading an operation. -/
structure OperationSteps (Q : Failure → Prop) (settings : Settings) (version : Version)
    (document v : Value) : Prop where
  /-- It has an identifier. -/
  id : ∀ path, IsPath document path → ∀ method : Method,
    Q (.missingOperationId (.scalar path) method.word)
  /-- Its parameters are gone through. -/
  parameters : FailsOnly Q (v.getD "parameters").items
  /-- In Swagger 2 what it consumes is gone through. -/
  consumes : version = .swagger2 → FailsOnly Q (consumes document v).items
  /-- Each media type counts as JSON or does not. -/
  counted : version = .swagger2 → ∀ ms, (Document.consumes document v).items = .ok ms →
    ∀ m ∈ ms, FailsOnly Q (countsAsJson settings m)
  /-- They are noted, if none of them does. -/
  noted : version = .swagger2 → ∀ ms, (Document.consumes document v).items = .ok ms →
    FailsOnly Q (Value.joined ", " ms)
  /-- Its responses are a map. -/
  responses : FailsOnly Q (v.getD "responses").entries
  /-- Each has a status. -/
  status : ∀ es, (v.getD "responses").entries = .ok es → ∀ e ∈ es,
    FailsOnly Q (statusOf (.scalar e.1))
  /-- In Swagger 2 what it produces is gone through. -/
  produces : version = .swagger2 → FailsOnly Q (produces document v).items
  /-- Each media type is a text. -/
  body : version = .swagger2 → ∀ ms, (Document.produces document v).items = .ok ms → ∀ m ∈ ms,
    ∀ type, FailsOnly Q (body m type)
  /-- Its tags are gone through. -/
  tags : FailsOnly Q (v.getD "tags").items
  /-- Its texts are texts. -/
  texts : ∀ path tags, IsPath document path → (v.getD "operationId").isTruthy = true →
    (v.getD "tags").items = .ok tags →
    FailsOnly Q (Value.checkedAs .operation (checkTexts path v tags))

/-- The steps of reading a whole document. -/
structure DocumentSteps (Q : Failure → Prop) (version : Version) (document : Value) : Prop where
  /-- It has paths. -/
  under : FailsOnly Q (document.under "paths")
  /-- They are a map. -/
  paths : FailsOnly Q (document.getD "paths").entries
  /-- The named schemas can be referred to. -/
  schemas : ∀ e ∈ container document (Layout.of version).schemas,
    FailsOnly Q (referenceTo (Layout.of version).schemas e.1)
  /-- They are described. -/
  declarations : ∀ e ∈ container document (Layout.of version).schemas,
    DescriptionFails Q .declaration e.2
  /-- The shared parameters can be referred to. -/
  parameters : ∀ e ∈ container document (Layout.of version).parameters,
    FailsOnly Q (referenceTo (Layout.of version).parameters e.1)

/-- The steps of reading all parts of a document fail only in a way. -/
structure StepsFail (Q : Failure → Prop) (settings : Settings) (version : Version)
    (document : Value) : Prop where
  /-- References are followed. -/
  followed : ∀ ⦃way role v⦄, Part version document way role v → role.isFollowed = true →
    FailsOnly Q (follow document v)
  /-- Parameters are looked up. -/
  lookedUp : ∀ ⦃way v⦄, Part version document way .argument v → ∀ r, v.get? "$ref" = some r →
    ∀ table, FailsOnly Q (resolve table r)
  /-- The steps in the document itself. -/
  whole : DocumentSteps Q version document
  /-- The steps in what stands at a path. -/
  path : ∀ ⦃way v⦄, Part version document way .path v → Described .path v →
    FailsOnly Q (v.getD "parameters").items
  /-- The steps in an operation. -/
  operation : ∀ ⦃way v⦄, Part version document way .operation v →
    OperationSteps Q settings version document v
  /-- The steps in a parameter. -/
  parameter : ∀ ⦃way role v⦄, Part version document way role v →
    role = .argument ∨ role = .parameter → Described role v → ParameterSteps Q version v
  /-- The steps in a body. -/
  body : ∀ ⦃way v⦄, Part version document way .body v → Described .body v → BodySteps Q settings v
  /-- The steps in a response. -/
  response : ∀ ⦃way v⦄, Part version document way .response v → Described .response v →
    ResponseSteps Q version v
  /-- The steps in a header. -/
  header : ∀ ⦃way v⦄, Part version document way .header v → Described .header v →
    HeaderSteps Q version v
  /-- The steps in a schema. -/
  schema : ∀ ⦃way v⦄, Part version document way .schema v → Schema.StepsFail Q v
  /-- A schema that is not there has no shape. -/
  shapeless : Q Schema.shapeless

end ApiModel.Document
