import ApiModel.Document.Read
import ApiModel.Proofs.Reference.Chain
import ApiModel.Proofs.Schema.Parts
import ApiModel.Proofs.Value.Access

/-!
# The parts of a document that are read

A document is read part by part, and what a part is read as decides under which keywords it has
further parts. Many parts can be given by a reference instead, and then it is what the reference
leads to that is read. The relation `Part` says which values of a document are read in this way,
what each is read as, and how it is reached.

* `Part.ofEntries`, `Part.ofFollow`: named parts, and what references lead to, as they are read.
* `Part.ofMethod`: the operations of an item of a path.
-/

namespace ApiModel.Document

open Reference (Layout follow find)

/-! ## Ways and roles -/

/-- How a part is reached from the one before. -/
inductive Way where
  /-- Under a keyword, possibly in a list there. -/
  | keyword
  /-- Under a name. -/
  | name (key : Scalar)
  /-- By a reference. -/
  | reference (ref : String)

/-- What a part is read as. -/
inductive Role where
  /-- The whole document. -/
  | document
  /-- What stands at a path. -/
  | path
  /-- An operation. -/
  | operation
  /-- A parameter of a path or an operation. -/
  | argument
  /-- A shared parameter. -/
  | parameter
  /-- The body of a request in OpenAPI 3. -/
  | body
  /-- A response. -/
  | response
  /-- A header of a response. -/
  | header
  /-- An entry of a content in OpenAPI 3. -/
  | media
  /-- A schema. -/
  | schema
  deriving DecidableEq, Repr

namespace Role

/-- Whether a part given by a reference is what the reference leads to. Parameters of operations are
looked up in the table instead, and schemas become links. -/
def isFollowed : Role → Bool
  | .path | .parameter | .body | .response | .header => true
  | .document | .operation | .argument | .media | .schema => false

/-- Whether a part can be given by a reference. -/
def mayRefer : Role → Bool
  | .document | .operation | .media => false
  | .path | .argument | .parameter | .body | .response | .header | .schema => true

/-- The keywords under which a part has maps of named parts, with what these are read as. -/
def named : Version → Role → List (String × Role)
  | _, .document => [("paths", .path)]
  | _, .operation => [("responses", .response)]
  | .swagger2, .response => [("headers", .header)]
  | .openApi3, .response => [("headers", .header), ("content", .media)]
  | .openApi3, .argument | .openApi3, .parameter | .openApi3, .body => [("content", .media)]
  | _, _ => []

/-- The keywords under which a part has a single part, with what this is read as. -/
def single : Version → Role → List (String × Role)
  | .openApi3, .operation => [("requestBody", .body)]
  | .openApi3, .argument | .openApi3, .parameter | .openApi3, .header | .openApi3, .media =>
    [("schema", .schema)]
  | .swagger2, .argument | .swagger2, .parameter => [("schema", .schema), ("items", .schema)]
  | .swagger2, .response => [("schema", .schema)]
  | .swagger2, .header => [("items", .schema)]
  | _, _ => []

end Role

/-! ## Parts -/

/-- A part is described where it stands. -/
def Described (role : Role) (v : Value) : Prop := role.mayRefer = true → v.get? "$ref" = none

/-- A value is read as a part of a document, and is reached in a way. -/
inductive Part (version : Version) (document : Value) : Way → Role → Value → Prop where
  | document : Part version document .keyword .document document
  /-- The shared parameters are read, whether an operation takes them or not. -/
  | parameter {k : Scalar} {v : Value}
      (h : (k, v) ∈ container document (Layout.of version).parameters) :
      Part version document (.name k) .parameter v
  | schema {k : Scalar} {v : Value}
      (h : (k, v) ∈ container document (Layout.of version).schemas) :
      Part version document (.name k) .schema v
  /-- What a reference leads to is read in its place. -/
  | target {way : Way} {role : Role} {v w : Value} {ref : String}
      (hv : Part version document way role v) (hrole : role.isFollowed = true)
      (href : v.get? "$ref" = some (.text ref)) (hf : find document ref = .ok w) :
      Part version document (.reference ref) role w
  /-- An entry of a path is an operation if its key is a method. -/
  | operation {way : Way} {es : Entries} {e : Scalar × Value} {m : Method × Value}
      (hv : Part version document way .path (.map es)) (hd : Described .path (.map es))
      (he : e ∈ es) (hm : methodOf? e = some m) :
      Part version document .keyword .operation m.2
  | argument {way : Way} {role : Role} {v w : Value} {ws : List Value}
      (hv : Part version document way role v) (hrole : role = .path ∨ role = .operation)
      (hd : Described role v) (hws : (v.getD "parameters").items = .ok ws) (hw : w ∈ ws) :
      Part version document .keyword .argument w
  /-- What stands in a map of named parts is reached by its name. -/
  | named {way : Way} {role role' : Role} {v w : Value} {keyword : String} {es : Entries}
      {k : Scalar} (hv : Part version document way role v) (hd : Described role v)
      (hkeyword : (keyword, role') ∈ role.named version) (hes : v.getD keyword = .map es)
      (hm : (k, w) ∈ es) : Part version document (.name k) role' w
  | single {way : Way} {role role' : Role} {v w : Value} {keyword : String}
      (hv : Part version document way role v) (hd : Described role v)
      (hkeyword : (keyword, role') ∈ role.single version) (hw : v.get? keyword = some w) :
      Part version document .keyword role' w
  /-- The schemas inside a schema are read with it. -/
  | inside {way : Way} {s c : Value} (hs : Part version document way .schema s)
      (hc : c ∈ Schema.children s) : Part version document .keyword .schema c

namespace Part

variable {version : Version} {document v w : Value} {way : Way} {role role' : Role}
  {keyword : String}

/-- A map of named parts, as it is read. -/
theorem ofEntries {es : Entries} {e : Scalar × Value} (hv : Part version document way role v)
    (hd : Described role v) (hkeyword : (keyword, role') ∈ role.named version)
    (hes : (v.getD keyword).entries = .ok es) (he : e ∈ es) :
    Part version document (.name e.1) role' e.2 :=
  hv.named hd hkeyword (Value.eq_map_of_entries hes he) he

/-- The end of a chain of references is read in place of its start. -/
theorem ofFollow (hv : Part version document way role v) (hrole : role.isFollowed = true)
    (hw : follow document v = .ok w) :
    ∃ way', Part version document way' role w ∧ Described role w := by
  obtain ⟨refs, hleads⟩ := Reference.follow_eq_ok_iff.1 hw
  clear hw
  induction hleads generalizing way with
  | here h => exact ⟨way, hv, fun _ => h⟩
  | next h hf _ ih => exact ih (hv.target hrole h hf)

/-- The methods of an item of a path, as they are read. -/
theorem ofMethod {es : Entries} {m : Method × Value}
    (hv : Part version document way .path (.map es)) (hd : Described .path (.map es))
    (hm : m ∈ es.filterMap methodOf?) : Part version document .keyword .operation m.2 := by
  obtain ⟨e, he, hmethod⟩ := List.mem_filterMap.1 hm
  exact hv.operation hd he hmethod

end Part

end ApiModel.Document
