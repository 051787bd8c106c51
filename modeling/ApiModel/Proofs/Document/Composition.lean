import ApiModel.Proofs.Document.Locations
import ApiModel.Proofs.Document.Sites

/-!
# What the parameters of an operation are

An operation starts from two lists: the parameters of the item in which it stands and its own. Each
comes from a list of values, one parameter for one value. Its own replace those of the item with
the same name and location, so a body of its own replaces every body of the item that has its name.
In Swagger 2 bodies are taken out again; the last of them becomes the request body, if what the
operation consumes lets it be sent.

Results:

* `getLast?_bodies`: the last body is one of the operation, and one of its item only if the
  operation has none.
* `lastBody_isSome_iff`: when a body is sent in Swagger 2.
* `parameters_composed`: what the parameters of every operation are.
-/

namespace ApiModel.Document

variable {settings : Settings} {version : Version} {document operation v : Value} {table : Table}

/-! ## The two lists -/

/-- A value is taken for a parameter: it refers to one of the table, or it describes one. -/
inductive TakenFor (version : Version) (table : Table) : Value → Argument → Prop where
  | shared {v : Value} {ref : String} {p : SharedParameter}
      (refers : v.get? "$ref" = some (.text ref)) (found : table.find? ref = some p) :
      TakenFor version table v (.shared p)
  | own {v : Value} {p : Parameter} (plain : v.get? "$ref" = none)
      (described : (parameter .parameter version v).result = .ok p) :
      TakenFor version table v (.own p)

/-- The parameters that a map lists, one for each value, in their order. -/
def ListsParameters (version : Version) (table : Table) (v : Value) (as : List Argument) : Prop :=
  ∃ ws, (v.getD "parameters").items = .ok ws ∧ List.Forall₂ (TakenFor version table) ws as

theorem listsParameters_of_arguments {as : List Argument}
    (h : (arguments version table v).result = .ok as) : ListsParameters version table v as := by
  obtain ⟨ws, hws, hall⟩ := arguments_eq_ok_iff.1 h
  refine ⟨ws, hws, hall.imp fun w a ha => ?_⟩
  rcases argument_eq_ok_iff.1 ha with ⟨ref, p, href, hp, rfl⟩ | ⟨hnone, p, hp, rfl⟩
  · exact .shared href hp
  · exact .own hnone hp

/-- The parameters of an item that an operation does not replace: it has none with the same name
and location. -/
def kept (ofItem own : List Argument) : List Argument :=
  ofItem.filter fun a => identity a ∉ own.map identity

theorem combined_eq (ofItem own : List Argument) :
    combined ofItem own = kept ofItem own ++ own := by
  unfold combined kept
  congr 1
  refine List.filter_congr fun a _ => ?_
  rw [List.contains_eq_mem, decide_not]

/-! ## The last body -/

theorem isBody_of_identity_eq {a b : Argument} (h : identity a = identity b) :
    isBody a = isBody b := by
  unfold isBody
  rw [(Prod.mk.inj h).2]

/-- Without a body of its own an operation replaces no body of its item. -/
theorem filter_isBody_kept {ofItem own : List Argument} (h : own.filter isBody = []) :
    (kept ofItem own).filter isBody = ofItem.filter isBody := by
  unfold kept
  rw [List.filter_filter]
  refine List.filter_congr fun a _ => ?_
  cases hbody : isBody a with
  | false => rfl
  | true =>
    rw [Bool.true_and, decide_eq_true_eq]
    intro hmem
    obtain ⟨b, hb, heq⟩ := List.mem_map.1 hmem
    exact List.filter_eq_nil_iff.1 h b hb ((isBody_of_identity_eq heq).trans hbody)

/-- The last body of all is the last of the operation's own, or of its item if it has none. -/
theorem getLast?_bodies (ofItem own : List Argument) :
    ((combined ofItem own).filter isBody).getLast? =
      (own.filter isBody).getLast?.or (ofItem.filter isBody).getLast? := by
  rw [combined_eq, List.filter_append, List.getLast?_append]
  cases hlast : (own.filter isBody).getLast? with
  | some b => rfl
  | none => rw [filter_isBody_kept (List.getLast?_eq_none_iff.1 hlast)]

/-! ## Sending a body -/

/-- A body may be sent: the operation consumes nothing in particular, or a media type among what it
consumes is picked. -/
def MaySend (settings : Settings) (document operation : Value) : Prop :=
  (consumes document operation).isTruthy = false ∨
    ∃ ws t, (consumes document operation).items = .ok ws ∧ .text t ∈ ws ∧
      pick settings ws = .ok (some t)

theorem canSend_iff {ws : List Value} {can : Bool}
    (hws : (consumes document operation).items = .ok ws) (h : canSend settings ws = .ok can) :
    can = true ↔ MaySend settings document operation := by
  unfold canSend at h
  split at h
  · rename_i hempty
    have hfalse := (Value.eq_nil_iff_of_items hws).1 (List.isEmpty_iff.1 hempty)
    exact iff_of_true (Except.ok.inj h).symm (Or.inl hfalse)
  · rename_i hne
    obtain ⟨picked, hpicked, rfl⟩ := map_eq_ok_iff.1 h
    rw [Option.isSome_iff_exists]
    constructor
    · rintro ⟨t, rfl⟩
      exact Or.inr ⟨ws, t, hws, pick_mem hpicked, hpicked⟩
    · rintro (hfalse | ⟨ws', t, hws', -, ht⟩)
      · rw [← Value.eq_nil_iff_of_items hws] at hfalse
        exact absurd (List.isEmpty_iff.2 hfalse) hne
      · obtain rfl := Except.ok.inj (hws.symm.trans hws')
        exact ⟨t, Except.ok.inj (hpicked.symm.trans ht)⟩

/-- A body is sent if there is one and it may be sent. -/
theorem lastBody_isSome_iff {bodies : List Parameter} {p? : Option Parameter}
    (h : (lastBody settings document operation bodies).result = .ok p?) :
    p?.isSome = true ↔ bodies ≠ [] ∧ MaySend settings document operation := by
  unfold lastBody at h
  split at h
  · rename_i hnone
    rw [List.getLast?_eq_none_iff] at hnone
    obtain rfl := Except.ok.inj h
    simp [hnone]
  · rename_i b hb
    have hne : bodies ≠ [] := by
      rintro rfl
      cases hb
    simp only [Traced.result_bind, Traced.result_lift, bind_eq_ok_iff] at h
    obtain ⟨ws, hws, can, hcan, h⟩ := h
    rw [← canSend_iff hws hcan]
    cases can with
    | true =>
      obtain rfl := Except.ok.inj h
      simp [hne]
    | false =>
      simp only [Bool.false_eq_true, if_false, Traced.result_bind, Traced.result_lift,
        bind_eq_ok_iff] at h
      obtain ⟨text, -, -, -, h⟩ := h
      obtain rfl := Except.ok.inj h
      simp

/-! ## Operations -/

/-- The parameters of an operation are composed of those of its item and its own, and of a request
body. -/
structure Composed (settings : Settings) (version : Version) (document operation : Value)
    (ofItem own : List Argument) (body : Option Parameter) (as : List Argument) : Prop where
  /-- In OpenAPI 3 they are those of the item that are not replaced, all its own, and the body. -/
  openApi3 : version = .openApi3 → as = kept ofItem own ++ own ++ (body.map .own).toList
  /-- In Swagger 2 they are the same without the bodies. -/
  swagger2 : version = .swagger2 →
    as = (kept ofItem own ++ own).filter (·.parameter.location ≠ .body) ++ (body.map .own).toList
  /-- The request body is named as such. -/
  named : ∀ p, body = some p → p.name = "requestBody" ∧ p.location = .body
  /-- In Swagger 2 it is there if there is a body, and it may be sent. -/
  sent : version = .swagger2 → (body.isSome = true ↔
    (∃ a ∈ kept ofItem own ++ own, a.parameter.location = .body) ∧
      MaySend settings document operation)
  /-- In Swagger 2 it is the last body of the operation, or of its item if it has none. -/
  last : version = .swagger2 → ∀ p, body = some p →
    ∃ a, (own.filter isBody).getLast?.or (ofItem.filter isBody).getLast? = some a ∧
      p.type = a.parameter.type ∧ p.required = a.parameter.required ∧
      p.description = a.parameter.description

theorem composed_of_allParameters {ofItem as : List Argument}
    (h : (allParameters settings version document operation table ofItem).result = .ok as) :
    ∃ own body, ListsParameters version table operation own ∧
      Composed settings version document operation ofItem own body as := by
  obtain ⟨own, body, hown, hbody, rfl⟩ := allParameters_eq_ok_iff.1 h
  refine ⟨own, body, listsParameters_of_arguments hown, ?_, ?_, ?_, ?_, ?_⟩
  · rintro rfl
    rw [listed, combined_eq]
  · rintro rfl
    rw [listed, combined_eq]
    congr 1
    refine List.filter_congr fun a _ => ?_
    rw [isBody, decide_not, beq_eq_decide]
  · rintro p rfl
    exact requestBody_eq_some hbody
  · rintro rfl
    rw [lastBody_isSome_iff hbody, combined_eq, ne_eq, List.map_eq_nil_iff,
      List.filter_eq_nil_iff]
    simp [isBody]
  · rintro rfl p rfl
    obtain ⟨b, hb, rfl⟩ := lastBody_eq_some hbody
    rw [List.getLast?_map, getLast?_bodies] at hb
    obtain ⟨a, ha, rfl⟩ := Option.map_eq_some_iff.1 hb
    exact ⟨a, ha, rfl, rfl, rfl⟩

/-- **The parameters of an operation.** The operations of a document stand one by one beside its
sites for operations. The parameters of each are composed of those that the item of the site lists
and those that the map at the site lists: the ones of the item with a name and location that no own
one has, in order, and all own ones in order; in Swagger 2 without the bodies; and last a request
body at most. In Swagger 2 there is one exactly if there was a body and it may be sent, and it is
taken from the last own body, or from the last body of the item if there is no own one. -/
theorem parameters_composed {os : List Operation}
    (h : (operations settings version document table).result = .ok os) :
    List.Forall₂ (fun site o => site.Gives o ∧
      ∃ es ofItem own body, site.StandsIn document es ∧
        ListsParameters version table (.map es) ofItem ∧
        ListsParameters version table site.value own ∧
        Composed settings version document site.value ofItem own body o.parameters)
      (operationSites document) os := by
  refine (operations_of_sites h).imp fun site o hreads => ⟨hreads.gives, ?_⟩
  obtain ⟨es, ofItem, method, hstands, hofItem, -, hoperation⟩ := hreads
  obtain ⟨-, -, hparameters, -⟩ := operation_eq_ok_iff.1 hoperation
  obtain ⟨own, body, hown, hcomposed⟩ := composed_of_allParameters hparameters
  exact ⟨es, ofItem, own, body, hstands, listsParameters_of_arguments hofItem, hown, hcomposed⟩

/-- A parameter as Swagger 2 describes it. -/
def inQuery (name type : String) : Value :=
  .record [("name", .text name), ("in", .text "query"), ("type", .text type)]

/-- A body as Swagger 2 describes it. -/
def asBody (name type : String) : Value :=
  .record [("name", .text name), ("in", .text "body"),
    ("schema", .record [("type", .text type)])]

/-- A document with a path that takes a shared parameter, one of its own and a body. One operation
replaces the parameter and lets the body be sent as JSON, one has a body of its own, and one
consumes no JSON. -/
def depot : Value :=
  .record [("paths", .record [("/goods", .record
    [("parameters", .list [.record [("$ref", .text "#/parameters/page")],
        inQuery "limit" "integer", asBody "goods" "string"]),
      ("put", .record [("operationId", .text "store"),
        ("consumes", .list [.text "text/plain", .text "application/json"]),
        ("parameters", .list [inQuery "limit" "string"])]),
      ("post", .record [("operationId", .text "send"),
        ("parameters", .list [asBody "parcel" "integer"])]),
      ("delete", .record [("operationId", .text "clear"),
        ("consumes", .list [.text "text/plain"])])])])]

/-- The shared parameter to which its path refers. -/
def depotPage : SharedParameter :=
  ⟨⟨"page", .query, false, .primitive .number, none⟩, "#/parameters/page"⟩

/-- Its operations. -/
def depotOperations : List Operation :=
  let limit (type : Ty) : Argument := .own ⟨"limit", .query, false, type, none⟩
  let body (type : Ty) : Argument := .own ⟨bodyName, .body, false, type, none⟩
  let make (id : String) (method : Method) (as : List Argument) : Operation :=
    ⟨id, method, "/goods", false, .shared depotPage :: as, [], none, none, []⟩
  [make "store" .put [limit (.primitive .string), body (.primitive .string)],
    make "send" .post [limit (.primitive .number), body (.primitive .number)],
    make "clear" .delete [limit (.primitive .number)]]

theorem parameters_composed_depot :
    (operations {} .swagger2 depot [depotPage]).result = .ok depotOperations ∧
    List.Forall₂ (fun site o => site.Gives o ∧
      ∃ es ofItem own body, site.StandsIn depot es ∧
        ListsParameters .swagger2 [depotPage] (.map es) ofItem ∧
        ListsParameters .swagger2 [depotPage] site.value own ∧
        Composed {} .swagger2 depot site.value ofItem own body o.parameters)
      (operationSites depot) depotOperations := by
  have hread : (operations {} .swagger2 depot [depotPage]).result = .ok depotOperations := by cbv
  exact ⟨hread, parameters_composed hread⟩

end ApiModel.Document
