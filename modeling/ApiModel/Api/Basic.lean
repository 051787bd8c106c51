import ApiModel.Api.Parameter
import ApiModel.Api.Response
import ApiModel.Declaration.Basic
import ApiModel.Document.Version

/-!
# Interfaces

What is read from a document: the declarations, the shared parameters, and the operations with
their parameters and responses. All types in it are made of the same forms.

* `Method.ofWord?_word`: a method is read back from its word.
-/

namespace ApiModel

/-! ## Methods -/

/-- What an operation does to the thing at its path. -/
inductive Method where
  /-- Reads it. -/
  | get
  /-- Replaces it. -/
  | put
  /-- Adds to it. -/
  | post
  /-- Removes it. -/
  | delete
  /-- Asks what can be done. -/
  | options
  /-- Reads what is known about it. -/
  | head
  /-- Changes parts of it. -/
  | patch
  /-- Asks for the request to be sent back. -/
  | trace
  deriving DecidableEq, Repr

namespace Method

/-- All methods. -/
def all : List Method := [.get, .put, .post, .delete, .options, .head, .patch, .trace]

/-- The word for a method. -/
def word : Method → String
  | .get => "get"
  | .put => "put"
  | .post => "post"
  | .delete => "delete"
  | .options => "options"
  | .head => "head"
  | .patch => "patch"
  | .trace => "trace"

/-- The method that a word stands for. -/
def ofWord? (s : String) : Option Method := all.find? (·.word == s)

theorem ofWord?_word (m : Method) : ofWord? m.word = some m := by
  cases m <;> rfl

end Method

/-! ## Operations -/

/-- An operation: a method at a path. -/
structure Operation where
  /-- The identifier. -/
  id : String
  /-- The method. -/
  method : Method
  /-- The path. -/
  path : String
  /-- Whether it should not be used any more. -/
  deprecated : Bool
  /-- The parameters: those of the path, those of the operation, and the body. -/
  parameters : List Argument
  /-- The responses. -/
  responses : List Response
  /-- What it does. -/
  description : Option String
  /-- What it does, in short. -/
  summary : Option String
  /-- The groups it belongs to. -/
  tags : List String
  deriving Repr

/-- An interface. -/
structure Api where
  /-- The format of the document. -/
  version : Version
  /-- The declarations. -/
  declarations : List Declaration
  /-- The shared parameters. -/
  parameters : List SharedParameter
  /-- The operations. -/
  operations : List Operation
  deriving Repr

/-! ## Writing -/

/-- The types in an operation. -/
def Operation.types (o : Operation) : List Ty :=
  o.parameters.map (·.parameter.type) ++ o.responses.flatMap Response.types

/-- The types in an interface. -/
def Api.types (a : Api) : List Ty :=
  a.declarations.map (·.type) ++ a.parameters.map (·.type) ++ a.operations.flatMap Operation.types

/-- An operation as a map. -/
def Operation.toValue (o : Operation) : Value :=
  .record [("operation_id", .text o.id), ("method", .text o.method.word), ("path", .text o.path),
    ("deprecated", .bool o.deprecated), ("params", .list (o.parameters.map Argument.toValue)),
    ("responses", .list (o.responses.map Response.toValue)),
    ("description", Value.ofText? o.description), ("summary", Value.ofText? o.summary),
    ("tags", .list (o.tags.map .text))]

/-- An interface as a map. -/
def Api.toValue (a : Api) : Value :=
  .record [("spec_version", .text a.version.number),
    ("reference_types", .list (a.declarations.map Declaration.toValue)),
    ("parameters", .list (a.parameters.map SharedParameter.toValue)),
    ("operations", .list (a.operations.map Operation.toValue))]

/-- An operation as a map, unless one of its types is too high. -/
def Operation.written (o : Operation) : Except Failure Value := Ty.guarded o.types o.toValue

/-- An interface as a map, unless one of its types is too high. -/
def Api.written (a : Api) : Except Failure Value := Ty.guarded a.types a.toValue

end ApiModel
