import ApiModel.Api.Parameter
import ApiModel.Document.Parameters
import ApiModel.Settings.Basic

/-!
# Request bodies

The body of a request becomes one more parameter, if it can be sent as JSON. Of several media types
that count as JSON the most welcome one is picked. OpenAPI 3 lists media types with the body of an
operation, Swagger 2 lists what an operation consumes. A body without a media type that counts as
JSON is left out, which is noted.

* `pick_mem`: a media type that is picked is one of those listed.
-/

namespace ApiModel.Document

/-! ## Picking a media type -/

/-- Whether an item of a list of media types counts as JSON; only texts can. -/
def countsAsJson (settings : Settings) (v : Value) : Except Failure Bool :=
  match v with
  | .text s => .ok (settings.isJson s)
  | .scalar (.bytes _) => .error (.fault .wrongKind)
  | _ => .error (.fault .noMember)

/-- The first media type that counts as JSON. -/
def firstJson (settings : Settings) : List Value → Except Failure (Option String)
  | [] => .ok none
  | v :: vs => do
    if ← countsAsJson settings v then return v.text? else firstJson settings vs

/-- The media type to be used: the most welcome one, or the first that counts as JSON. -/
def pick (settings : Settings) (mediaTypes : List Value) : Except Failure (Option String) :=
  match settings.jsonMediaTypes.find? fun m => mediaTypes.any (·.isText m) with
  | some m => .ok (some m)
  | none => firstJson settings mediaTypes

theorem text_mem_of_any_isText {vs : List Value} {s : String}
    (h : vs.any (·.isText s) = true) : .text s ∈ vs := by
  obtain ⟨v, hv, hs⟩ := List.any_eq_true.1 h
  have : v.text? = some s := by simpa [Value.isText] using hs
  cases v with
  | scalar c =>
    cases c <;> simp [Value.text?] at this
    exact this ▸ hv
  | _ => simp [Value.text?] at this

theorem firstJson_mem {settings : Settings} {vs : List Value} {s : String}
    (h : firstJson settings vs = .ok (some s)) : .text s ∈ vs := by
  induction vs with
  | nil => simp [firstJson] at h
  | cons v vs ih =>
    unfold firstJson at h
    cases hc : countsAsJson settings v with
    | error e => rw [hc] at h; cases h
    | ok b =>
      rw [hc] at h
      cases b with
      | true =>
        have ht : v.text? = some s := by simpa [bind, Except.bind, pure, Except.pure] using h
        cases v with
        | scalar c => cases c <;> simp_all [Value.text?]
        | _ => simp [Value.text?] at ht
      | false => exact List.mem_cons_of_mem _ (ih (by simpa [bind, Except.bind] using h))

theorem pick_mem {settings : Settings} {vs : List Value} {s : String}
    (h : pick settings vs = .ok (some s)) : .text s ∈ vs := by
  unfold pick at h
  split at h
  · rename_i m hm
    cases h
    exact text_mem_of_any_isText (List.find?_some (p := fun m => vs.any (·.isText m)) hm)
  · exact firstJson_mem h

/-! ## The body as a parameter -/

/-- The name of the parameter that a body becomes. -/
def bodyName : String := "requestBody"

/-- The value under the key of a content; only a map has values under keys. -/
def mediaOf (content : Value) (mediaType : String) : Except Failure Value := do
  let media ← content.taken mediaType
  return if media.isTruthy then media else .map []

/-- The text for the media types of a content. -/
def contentText (mediaTypes : List Value) : Except Failure String := do
  let text ← Value.joined ", " mediaTypes
  return if text = "" then "no content" else text

/-- The parameter that the body of an operation in OpenAPI 3 becomes. -/
def keyedBody (settings : Settings) (document operation : Value) : Traced (Option Parameter) := do
  let raw := operation.getD "requestBody"
  if raw.isNull then return none
  else
    let body ← Reference.follow document raw
    let content ← body.under "content"
    let mediaTypes ← content.items
    match ← pick settings mediaTypes with
    | none =>
      let text ← contentText mediaTypes
      Traced.note (.bodyNotJson (operation.getD "operationId").said text)
      return none
    | some mediaType =>
      let media ← mediaOf content mediaType
      let type ← match ← media.optional "schema" with
        | some schema => Schema.toType (.of .openApi3) schema
        | none => pure .unknown
      let description ← Value.checkedAs .parameter
        ((body.getD "description").checkTextOrNull.within [.name "description"])
      return some ⟨bodyName, .body, (body.getD "required").isTruthy, type, description⟩

/-- What an operation in Swagger 2 consumes: as it says itself, or as the document says. -/
def consumes (document operation : Value) : Value :=
  (operation.get? "consumes").getD (document.getD "consumes")

/-- Whether a body can be sent as JSON: nothing in particular is consumed, or something that counts
as JSON. -/
def canSend (settings : Settings) (mediaTypes : List Value) : Except Failure Bool :=
  if mediaTypes.isEmpty then .ok true else (pick settings mediaTypes).map Option.isSome

/-- The parameter that the last of several bodies in Swagger 2 becomes. -/
def lastBody (settings : Settings) (document operation : Value) (bodies : List Parameter) :
    Traced (Option Parameter) :=
  match bodies.getLast? with
  | none => return none
  | some body => do
    let mediaTypes ← (consumes document operation).items
    if ← canSend settings mediaTypes then
      return some ⟨bodyName, .body, body.required, body.type, body.description⟩
    else
      let text ← Value.joined ", " mediaTypes
      Traced.note (.consumesNotJson (operation.getD "operationId").said text)
      return none

end ApiModel.Document
