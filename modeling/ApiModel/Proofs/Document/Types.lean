import ApiModel.Proofs.Declaration.Order
import ApiModel.Proofs.Document.Operations
import ApiModel.Proofs.Schema.Describable

/-!
# The types in a document

Every type in what is read from a document comes from a schema or stands for anything. Each place
where a document has a type is looked at on its own: declarations, parameters in both versions,
request bodies, headers and bodies of responses.

* `expressible_parameter`, `expressible_body`, `expressible_response`: the types of the parts.
* `types_expressible`: all types of a document, and all types within them.
-/

namespace ApiModel.Document

open Reference (Layout)
open Ty (Expressible)

variable {settings : Settings} {version : Version} {document v : Value} {table : Table}

theorem expressible_of_toType {layout : Layout} {s : Value} {t : Ty}
    (h : (Schema.toType layout s).result = .ok t) : Expressible t :=
  Or.inr (Schema.describable_of_toType s t h)

/-! ## Declarations -/

theorem expressible_declarations {ds : List Declaration}
    (h : (declarations version document).result = .ok ds) : ∀ d ∈ ds, Expressible d.type := by
  intro d hd
  obtain ⟨e, -, he⟩ := exists_left_of_forall₂ (declarations_eq_ok_iff.1 h) hd
  obtain ⟨-, -, htype, -⟩ := declaration_eq_ok_iff.1 he
  exact expressible_of_toType htype

/-- The order of declarations holds nothing else than the declarations. -/
theorem mem_of_mem_arranged {ds : List Declaration} {d : Declaration}
    (h : d ∈ arranged settings ds) : d ∈ ds := by
  unfold arranged at h
  split at h
  · have hfirsts := (Declaration.perm_order ds).mem_iff.1 h
    exact List.mem_of_find?_eq_some (Declaration.mem_firsts_iff.1 hfirsts)
  · exact h

/-! ## Parameters -/

theorem expressible_inlineType {layout : Layout} {t : Ty}
    (h : (inlineType layout v).result = .ok t) : Expressible t := by
  unfold inlineType at h
  rw [Traced.result_bind, bind_eq_ok_iff] at h
  obtain ⟨type, -, h⟩ := h
  split at h
  · cases h
    exact Or.inl rfl
  · exact expressible_of_toType h

theorem expressible_keyedType {layout : Layout} {t : Ty}
    (h : (keyedType layout v).result = .ok t) : Expressible t := by
  unfold keyedType at h
  split at h
  · exact expressible_of_toType h
  · rw [Traced.result_bind, bind_eq_ok_iff] at h
    obtain ⟨content, -, h⟩ := h
    split at h
    · exact expressible_of_toType h
    · cases h
      exact Or.inl rfl

theorem expressible_parameter {form : Form} {p : Parameter}
    (h : (parameter form version v).result = .ok p) : Expressible p.type := by
  obtain ⟨-, -, htype, -⟩ := parameter_eq_ok_iff.1 h
  unfold parameterType at htype
  split at htype
  · exact expressible_keyedType htype
  · exact expressible_of_toType htype
  · exact expressible_inlineType htype

theorem expressible_sharedParameters (h : (sharedParameters version document).result = .ok table) :
    ∀ p ∈ table, Expressible p.type := by
  intro p hp
  obtain ⟨e, -, w, -, hparameter⟩ := exists_entry_of_mem_sharedParameters h hp
  exact expressible_parameter hparameter

section Operations

variable (htable : ∀ p ∈ table, Expressible p.type)

include htable

theorem expressible_arguments {as : List Argument}
    (h : (arguments version table v).result = .ok as) : ∀ a ∈ as, Expressible a.parameter.type := by
  intro a ha
  rcases shared_or_own_of_mem_arguments h ha with ⟨p, hp, rfl⟩ | ⟨ws, w, p, -, -, -, hp, rfl⟩
  · exact htable p hp
  · exact expressible_parameter hp

omit htable in
theorem expressible_body {as : List Argument} (has : ∀ a ∈ as, Expressible a.parameter.type)
    {p : Parameter} (h : (requestBody settings version document v as).result = .ok (some p)) :
    Expressible p.type := by
  unfold requestBody at h
  split at h
  · obtain ⟨b, hb, rfl⟩ := lastBody_eq_some h
    obtain ⟨a, ha, rfl⟩ := List.mem_map.1 (List.mem_of_getLast? hb)
    exact has a (List.mem_filter.1 ha).1
  · obtain ⟨-, -, hunknown | ⟨schema, hschema⟩⟩ := keyedBody_eq_some h
    · exact Or.inl hunknown
    · exact expressible_of_toType hschema

theorem expressible_allParameters {ofPath as : List Argument}
    (hofPath : ∀ a ∈ ofPath, Expressible a.parameter.type)
    (h : (allParameters settings version document v table ofPath).result = .ok as) :
    ∀ a ∈ as, Expressible a.parameter.type := by
  obtain ⟨own, body, hown, hbody, rfl⟩ := allParameters_eq_ok_iff.1 h
  have hcombined : ∀ a ∈ combined ofPath own, Expressible a.parameter.type := by
    intro a ha
    rcases mem_of_mem_combined ha with ha | ha
    · exact hofPath a ha
    · exact expressible_arguments htable hown a ha
  intro a ha
  rcases List.mem_append.1 ha with ha | ha
  · exact hcombined a (mem_of_mem_listed ha)
  · cases body with
    | none => cases ha
    | some p =>
      obtain rfl : a = .own p := List.mem_singleton.1 ha
      exact expressible_body hcombined hbody

end Operations

/-! ## Responses -/

theorem expressible_header {key : Scalar} {h : Header}
    (hh : (header version document key v).result = .ok h) : Expressible h.type := by
  obtain ⟨w, -, htype, -⟩ := header_eq_ok_iff.1 hh
  unfold headerType at htype
  split at htype
  · exact expressible_inlineType htype
  · rw [Traced.result_bind, bind_eq_ok_iff] at htype
    obtain ⟨schema?, -, htype⟩ := htype
    cases schema? with
    | some schema => exact expressible_of_toType htype
    | none => exact Or.inl (Except.ok.inj htype).symm

theorem expressible_contentBody {key : Scalar} {b : Body}
    (h : (contentBody key v).result = .ok b) : Expressible b.type := by
  obtain ⟨-, htype⟩ := contentBody_eq_ok_iff.1 h
  split at htype
  · exact expressible_of_toType htype
  · exact Or.inl htype

theorem expressible_bodies {operation : Value} {bs : List Body}
    (h : (bodies version document operation v).result = .ok bs) :
    ∀ b ∈ bs, Expressible b.type := by
  intro b hb
  cases version with
  | swagger2 =>
    rw [bodies_swagger2_eq_ok_iff] at h
    split at h
    · rw [h] at hb
      cases hb
    · obtain ⟨type, mediaTypes, htype, -, hall⟩ := h
      obtain ⟨m, -, hm⟩ := exists_left_of_forall₂ hall hb
      rw [(body_eq_ok_iff.1 hm).2]
      exact expressible_of_toType htype
  | openApi3 =>
    obtain ⟨es, -, hall⟩ := bodies_openApi3_eq_ok_iff.1 h
    obtain ⟨e, -, he⟩ := exists_left_of_forall₂ hall hb
    exact expressible_contentBody he

theorem expressible_response {operation : Value} {key : Scalar} {r : Response}
    (h : (response? version document operation key v).result = .ok (some r)) :
    ∀ t ∈ r.types, Expressible t := by
  obtain ⟨w, -, -, -, hheaders, hbodies, -⟩ := response?_eq_some_iff.1 h
  intro t ht
  rcases List.mem_append.1 ht with ht | ht
  · obtain ⟨hd, hhd, rfl⟩ := List.mem_map.1 ht
    obtain ⟨es, -, hall⟩ := headers_eq_ok_iff.1 hheaders
    obtain ⟨e, -, he⟩ := exists_left_of_forall₂ hall hhd
    exact expressible_header he
  · obtain ⟨b, hb, rfl⟩ := List.mem_map.1 ht
    exact expressible_bodies hbodies b hb

/-! ## Documents -/

theorem expressible_operation (htable : ∀ p ∈ table, Expressible p.type) {path : Scalar}
    {method : Method} {ofPath : List Argument}
    (hofPath : ∀ a ∈ ofPath, Expressible a.parameter.type) {o : Operation}
    (h : (operation settings version document table path method ofPath v).result = .ok o) :
    ∀ t ∈ o.types, Expressible t := by
  obtain ⟨-, -, hparameters, hresponses, -, -⟩ := operation_eq_ok_iff.1 h
  intro t ht
  rcases List.mem_append.1 ht with ht | ht
  · obtain ⟨a, ha, rfl⟩ := List.mem_map.1 ht
    exact expressible_allParameters htable hofPath hparameters a ha
  · obtain ⟨r, hr, ht⟩ := List.mem_flatMap.1 ht
    obtain ⟨es, -, e, -, hresponse⟩ := exists_entry_of_mem_responses hresponses hr
    exact expressible_response hresponse t ht

theorem expressible_operations (htable : ∀ p ∈ table, Expressible p.type) {os : List Operation}
    (h : (operations settings version document table).result = .ok os) :
    ∀ o ∈ os, ∀ t ∈ o.types, Expressible t := by
  intro o ho
  obtain ⟨items, -, e, -, entries, -, ofPath, hofPath, m, -, hoperation⟩ :=
    exists_item_of_mem_operations h ho
  exact expressible_operation htable (expressible_arguments htable hofPath) hoperation

/-- **All types come from schemas.** Every type in what is read from a document is one that a schema
describes, or stands for anything. Whatever occurs within it stands there as the grammar has it: no
type is several at once, and none is called; the types of single values are members of unions; and
no record has a name twice. -/
theorem types_expressible {api : Api} (h : (read settings document).result = .ok api) :
    ∀ t ∈ api.types, Expressible t ∧
      ∀ pos u, Ty.Occurs t pos u → Ty.MayStand pos u ∧ Ty.Standing pos u := by
  obtain ⟨-, -, ⟨ds, hds, hdeclarations⟩, htable, hos⟩ := read_eq_ok_iff.1 h
  have hshared := expressible_sharedParameters htable
  have hall : ∀ t ∈ api.types, Expressible t := by
    intro t ht
    unfold Api.types at ht
    rw [List.mem_append, List.mem_append] at ht
    rcases ht with (ht | ht) | ht
    · obtain ⟨d, hd, rfl⟩ := List.mem_map.1 ht
      rw [hdeclarations] at hd
      exact expressible_declarations hds d (mem_of_mem_arranged hd)
    · obtain ⟨p, hp, rfl⟩ := List.mem_map.1 ht
      exact hshared p hp
    · obtain ⟨o, ho, ht⟩ := List.mem_flatMap.1 ht
      exact expressible_operations hshared hos o ho t ht
  refine fun t ht => ⟨hall t ht, fun pos u hu => ?_⟩
  exact ⟨Ty.mayStand_of_occurs (hall t ht) hu, Ty.standing_of_occurs (hall t ht) hu⟩

/-- A document with a type in each kind of place: named schemas, of which one has an enumeration
with the empty value, a shared parameter, and a response with a header and a body. -/
def stable : Value :=
  .record [("openapi", .text "3.0.0"),
    ("components", .record
      [("schemas", .record
        [("horse", .record [("type", .text "object"), ("properties", .record
          [("colour", .record [("type", .text "string"), ("enum", .list [.text "bay", .null])]),
            ("foals", .record [("type", .text "array"),
              ("items", .record [("$ref", .text "#/components/schemas/horse")])])])])]),
        ("parameters", .record
          [("page", .record [("name", .text "page"), ("in", .text "query")])])]),
    ("paths", .record [("/horses", .record [("get", .record
      [("operationId", .text "list"), ("responses", .record [("200", .record
        [("headers", .record [("total", .record
            [("schema", .record [("type", .text "integer")])])]),
          ("content", .record [("application/json", .record
            [("schema", .record [("type", .text "object")])])])])])])])])]

/-- What is read from that document. -/
def stableApi : Api :=
  { version := .openApi3
    declarations := [⟨"horse", "#/components/schemas/horse", .record
      [⟨"colour", .union [.literal (.text "bay"), .primitive .null], true, false⟩,
        ⟨"foals", .array (.named "horse") false, true, false⟩], none⟩]
    parameters := [⟨⟨"page", .query, false, .unknown, none⟩, "#/components/parameters/page"⟩]
    operations := [
      { id := "list", method := .get, path := "/horses", deprecated := false, parameters := []
        responses := [⟨.code 200, none, [⟨"total", .primitive .number⟩],
          [⟨"application/json", .dictionary .unknown⟩]⟩]
        description := none, summary := none, tags := [] }] }

theorem types_stable :
    (read {} stable).result = .ok stableApi ∧
    ∀ t ∈ stableApi.types, Expressible t ∧ ∀ pos u, Ty.Occurs t pos u → Ty.Standing pos u := by
  have hread : (read {} stable).result = .ok stableApi := by cbv
  refine ⟨hread, fun t ht => ?_⟩
  obtain ⟨hexpressible, hinside⟩ := types_expressible hread t ht
  exact ⟨hexpressible, fun pos u hu => (hinside pos u hu).2⟩

end ApiModel.Document
