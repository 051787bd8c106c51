import ApiModel.Type.Write

/-!
# Parameters

An operation takes parameters, each with a name, a place where it travels, and a type. Parameters
that several operations share stand in a table of the document under a reference; an operation
that refers to one of them takes it as it stands there.

* `Location.ofWord?_word`: a location is read back from its word.
-/

namespace ApiModel

/-! ## Locations -/

/-- Where a parameter travels. -/
inductive Location where
  /-- In the query. -/
  | query
  /-- In a header. -/
  | header
  /-- In the path. -/
  | path
  /-- In a cookie. -/
  | cookie
  /-- In the body. -/
  | body
  /-- In a form. -/
  | formData
  deriving DecidableEq, Repr

namespace Location

/-- All locations. -/
def all : List Location := [.query, .header, .path, .cookie, .body, .formData]

/-- The word for a location. -/
def word : Location → String
  | .query => "query"
  | .header => "header"
  | .path => "path"
  | .cookie => "cookie"
  | .body => "body"
  | .formData => "formData"

/-- The location that a word stands for. -/
def ofWord? (s : String) : Option Location := all.find? (·.word == s)

theorem ofWord?_word (l : Location) : ofWord? l.word = some l := by
  cases l <;> rfl

end Location

/-! ## Parameters -/

/-- A parameter. -/
structure Parameter where
  /-- The name. -/
  name : String
  /-- Where it travels. -/
  location : Location
  /-- Whether it must be given. -/
  required : Bool
  /-- The type. -/
  type : Ty
  /-- What it is for. -/
  description : Option String
  deriving Repr

/-- A parameter of the shared table. -/
structure SharedParameter extends Parameter where
  /-- The reference by which operations refer to it. -/
  ref : String
  deriving Repr

/-- A parameter as an operation takes it. -/
inductive Argument where
  /-- A parameter that the operation or its path describes. -/
  | own (p : Parameter)
  /-- A parameter of the shared table. -/
  | shared (p : SharedParameter)
  deriving Repr

/-- The parameter that is taken. -/
def Argument.parameter : Argument → Parameter
  | .own p => p
  | .shared p => p.toParameter

/-! ## Writing -/

/-- The entries of a parameter as a map. -/
def Parameter.fields (p : Parameter) : List (String × Value) :=
  [("name", .text p.name), ("kind", .text p.location.word), ("required", .bool p.required),
    ("type", p.type.toValue), ("description", Value.ofText? p.description)]

/-- A parameter as a map. -/
def Parameter.toValue (p : Parameter) : Value := .record p.fields

/-- A shared parameter as a map. -/
def SharedParameter.toValue (p : SharedParameter) : Value :=
  .record (p.fields ++ [("ref", .text p.ref)])

/-- A shared parameter as a map, unless its type is too high. -/
def SharedParameter.written (p : SharedParameter) : Except Failure Value :=
  Ty.guarded [p.type] p.toValue

/-- A parameter as an operation takes it, as a map. -/
def Argument.toValue : Argument → Value
  | .own p => p.toValue
  | .shared p => p.toValue

end ApiModel
