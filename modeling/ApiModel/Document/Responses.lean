import ApiModel.Api.Response
import ApiModel.Document.Parameters
import ApiModel.Text.Integer

/-!
# The responses of an operation

Every entry under `responses` that leads to a map becomes a response, in the order of the document.
In OpenAPI 3 a response has a body for each media type of its content; in Swagger 2 it has one
schema, which is delivered in every media type that the operation or the document produces.

* `statusOf_text`: a key that is not a run of digits is its own status.
-/

namespace ApiModel.Document

open Reference (Layout)

/-! ## Statuses -/

/-- Whether a text is a run of the digits from 0 to 9. -/
def isDigits (s : String) : Bool := s ≠ "" && s.toList.all fun c => (Text.asciiDigit? c).isSome

/-- The status that a value denotes: a number if its text is a run of digits, else the text. A run
of too many digits has no number. -/
def statusOf (v : Value) : Except Failure Status := do
  let text := (← v.sayable).said
  if isDigits text then
    match Text.readInteger? 10 text.toList with
    | some n => .ok (.code n)
    | none => .error (.fault .badValue)
  else .ok (.text text)

theorem statusOf_text {s : String} (h : isDigits s = false) :
    statusOf (.text s) = .ok (.text s) := by
  rw [statusOf, Value.sayable_text]
  simp [bind, Except.bind, Value.said_text, h]

/-! ## Headers -/

/-- The type of a header. -/
def headerType (version : Version) (v : Value) : Traced Ty :=
  match version with
  | .swagger2 => inlineType (Layout.of version) v
  | .openApi3 => do
    match ← v.optional "schema" with
    | some schema => Schema.toType (Layout.of version) schema
    | none => return .unknown

/-- The header under a key. -/
def header (version : Version) (document : Value) (key : Scalar) (v : Value) : Traced Header := do
  let description ← Reference.follow document v
  let type ← headerType version description
  let name ← Value.checkedAs .header ((Value.checkText (.scalar key)).within [.name "name"])
  return ⟨name, type⟩

/-- The headers of a response. -/
def headers (version : Version) (document response : Value) : Traced (List Header) := do
  let entries ← (response.getD "headers").entries
  entries.mapM fun e => header version document e.1 e.2

/-! ## Bodies -/

/-- The body of a type in a media type. -/
def body (mediaType : Value) (type : Ty) : Except Failure Body := do
  let name ← Value.checkedAs .body (mediaType.checkText.within [.name "mime_type"])
  return ⟨name, type⟩

/-- The body of an entry of a content in OpenAPI 3. -/
def contentBody (key : Scalar) (media : Value) : Traced Body := do
  let type ← match media.get? "schema" with
    | some schema => Schema.toType (.of .openApi3) schema
    | none => pure .unknown
  body (.scalar key) type

/-- What an operation in Swagger 2 produces: as it says itself, as the document says, or JSON. -/
def produces (document operation : Value) : Value :=
  let own := operation.getD "produces"
  let shared := document.getD "produces"
  if own.isTruthy then own
  else if shared.isTruthy then shared
  else .list [.text "application/json"]

/-- The bodies of a response. -/
def bodies (version : Version) (document operation response : Value) : Traced (List Body) :=
  match version with
  | .swagger2 =>
    match response.get? "schema" with
    | none => return []
    | some schema => do
      let type ← Schema.toType (Layout.of version) schema
      let mediaTypes ← (produces document operation).items
      mediaTypes.mapM fun m => body m type
  | .openApi3 => do
    let entries ← (response.getD "content").entries
    entries.mapM fun e => contentBody e.1 e.2

/-! ## Responses -/

/-- The response under a key, unless it leads to something other than a map. -/
def response? (version : Version) (document operation : Value) (key : Scalar) (v : Value) :
    Traced (Option Response) := do
  let r ← Reference.follow document v
  if !r.isMap then return none
  else
    let status ← statusOf (.scalar key)
    let hs ← headers version document r
    let bs ← bodies version document operation r
    let description ← Value.checkedAs .response
      ((r.getD "description").checkTextOrNull.within [.name "description"])
    return some ⟨status, description, hs, bs⟩

/-- The responses of an operation. -/
def responses (version : Version) (document operation : Value) : Traced (List Response) := do
  let entries ← (operation.getD "responses").entries
  let rs ← entries.mapM fun e => response? version document operation e.1 e.2
  return rs.filterMap id

end ApiModel.Document
