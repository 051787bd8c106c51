import ApiModel.Value.Access

/-!
# Versions of documents

A document names the format it is written in: Swagger 2 under the key `swagger`, OpenAPI 3 under
the key `openapi`. The two keep their named schemas and parameters at different places.
-/

namespace ApiModel

/-- The format of a document. -/
inductive Version where
  /-- Swagger 2. -/
  | swagger2
  /-- OpenAPI 3. -/
  | openApi3
  deriving DecidableEq, Repr

namespace Version

/-- The number of the version. -/
def number : Version → String
  | .swagger2 => "2"
  | .openApi3 => "3"

/-- The name of the version. -/
def label : Version → String
  | .swagger2 => "SWAGGER_2"
  | .openApi3 => "OPENAPI_3"

/-- The version of a document. -/
def detect (document : Value) : Except Failure Version := do
  match ← document.optional "swagger" with
  | some v =>
    let name := (← v.sayable).said
    if Text.startsWith "2." name then .ok .swagger2 else .error (.swaggerVersion name)
  | none =>
    let v ← document.under "openapi"
    if v.isNull then .error .noVersion
    else
      let name := (← v.sayable).said
      if Text.startsWith "3." name then .ok .openApi3 else .error (.openApiVersion name)

end Version

end ApiModel
