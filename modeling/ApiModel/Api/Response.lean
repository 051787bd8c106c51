import ApiModel.Type.Check
import ApiModel.Type.Write

/-!
# Responses

An operation answers with one of several responses. Each has a status, headers, and the bodies
between which the server chooses, one for each media type.
-/

namespace ApiModel

/-- The status of a response. -/
inductive Status where
  /-- A number. -/
  | code (n : Int)
  /-- A range of numbers, or the word for all other responses. -/
  | text (s : String)
  deriving DecidableEq, Repr

/-- A header of a response. -/
structure Header where
  /-- The name. -/
  name : String
  /-- The type. -/
  type : Ty
  deriving Repr

/-- A body of a response. -/
structure Body where
  /-- The media type in which it is delivered. -/
  mediaType : String
  /-- The type. -/
  type : Ty
  deriving Repr

/-- A response. -/
structure Response where
  /-- The status. -/
  status : Status
  /-- What it means. -/
  description : Option String
  /-- The headers. -/
  headers : List Header
  /-- The bodies between which the server chooses. -/
  bodies : List Body
  deriving Repr

/-- Whether a response stands for all those that are not listed. -/
def Response.isDefault (r : Response) : Bool := r.status == .text "default"

/-! ## Reading -/

/-- The status that a value describes: a text, or a whole number. -/
def Status.check (v : Value) : Checked Status :=
  match v.checkText with
  | .ok s => .ok (.text s)
  | .error textIssues =>
    match v.checkWhole with
    | .ok n => .ok (.code n)
    | .error wholeIssues =>
      .error (Issue.within [.name "int"] wholeIssues ++ Issue.within [.name "str"] textIssues)

/-- The header that a value describes. -/
def Header.check (v : Value) : Checked Header :=
  if !v.isMap then .fail .notRecord
  else
    (Checked.both
      (v.part "name" (Value.missing "name") fun w _ => w.checkText)
      (v.part "type" (Value.missing "type") fun w _ => Ty.check Ty.maxHeight w)).map
      fun p => ⟨p.1, p.2⟩

/-- The body that a value describes. -/
def Body.check (v : Value) : Checked Body :=
  if !v.isMap then .fail .notRecord
  else
    (Checked.both
      (v.part "mime_type" (Value.missing "mime_type") fun w _ => w.checkText)
      (v.part "type" (Value.missing "type") fun w _ => Ty.check Ty.maxHeight w)).map
      fun p => ⟨p.1, p.2⟩

/-- The response that a value describes. -/
def Response.check (v : Value) : Checked Response :=
  if !v.isMap then .fail .notRecord
  else
    (Checked.both
      (Checked.both
        (v.part "status" (Value.missing "status") fun w _ => Status.check w)
        (v.part "description" (.ok none) fun w _ => w.checkTextOrNull))
      (Checked.both
        (v.part "headers" (.ok []) fun w _ => w.sequence .notSequence fun h _ => Header.check h)
        (v.part "body_alternatives" (.ok []) fun w _ =>
          w.sequence .notSequence fun b _ => Body.check b))).map
      fun p => ⟨p.1.1, p.1.2, p.2.1, p.2.2⟩

/-! ## Writing -/

/-- A status as a value. -/
def Status.toValue : Status → Value
  | .code n => .int n
  | .text s => .text s

/-- A header as a map. -/
def Header.toValue (h : Header) : Value :=
  .record [("name", .text h.name), ("type", h.type.toValue)]

/-- A body as a map. -/
def Body.toValue (b : Body) : Value :=
  .record [("mime_type", .text b.mediaType), ("type", b.type.toValue)]

/-- The types in a response. -/
def Response.types (r : Response) : List Ty := r.headers.map (·.type) ++ r.bodies.map (·.type)

/-- A response as a map. -/
def Response.toValue (r : Response) : Value :=
  .record [("status", r.status.toValue), ("description", Value.ofText? r.description),
    ("headers", .list (r.headers.map Header.toValue)),
    ("body_alternatives", .list (r.bodies.map Body.toValue))]

end ApiModel
