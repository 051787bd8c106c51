import ApiModel.Proofs.Document.Locations

/-!
# Shared parameters as operations take them

An operation that refers to a shared parameter takes it from the table as it stands there. On the
way to the operation parameters are replaced and bodies are taken out and put last, but none is made
anew from a shared one, except for the request body, which belongs to its operation alone.

* `Drawn`: an argument is one of the table, or belongs to its operation.
* `drawn_operations`: all arguments of all operations are drawn that way.
* `exists_arguments_of_takesParameters`: every list of parameters in the paths has been gone
  through.
* `shared_parameters_kept`: what may be relied on when parameters are told apart by reference.
-/

namespace ApiModel.Document

open Reference (follow)

variable {settings : Settings} {version : Version} {document v : Value} {table : Table}

/-! ## Parameters in the path -/

/-- A parameter must be given if it travels in the path. -/
def GivenInPath (p : Parameter) : Prop := p.location = .path → p.required = true

theorem givenInPath_of_parameter {form : Form} {p : Parameter}
    (h : (parameter form version v).result = .ok p) : GivenInPath p := by
  obtain ⟨-, -, -, -, hrequired⟩ := parameter_eq_ok_iff.1 h
  intro hlocation
  rw [hrequired, hlocation, beq_self_eq_true, Bool.or_true]

theorem givenInPath_sharedParameters
    (h : (sharedParameters version document).result = .ok table) :
    ∀ p ∈ table, GivenInPath p.toParameter := by
  intro p hp
  obtain ⟨e, -, w, -, hparameter⟩ := exists_entry_of_mem_sharedParameters h hp
  exact givenInPath_of_parameter hparameter

theorem givenInPath_of_body {as : List Argument} {p : Parameter}
    (h : (requestBody settings version document v as).result = .ok (some p)) : GivenInPath p := by
  intro hlocation
  rw [(requestBody_eq_some h).2] at hlocation
  cases hlocation

/-! ## Arguments -/

/-- An argument is a parameter of the table as it stands there, or one that belongs to its
operation. -/
inductive Drawn (table : Table) : Argument → Prop where
  | shared {p : SharedParameter} (h : p ∈ table) : Drawn table (.shared p)
  | own {p : Parameter} (h : GivenInPath p) : Drawn table (.own p)

theorem drawn_arguments {as : List Argument} (h : (arguments version table v).result = .ok as) :
    ∀ a ∈ as, Drawn table a := by
  intro a ha
  rcases shared_or_own_of_mem_arguments h ha with ⟨p, hp, rfl⟩ | ⟨ws, w, p, -, -, -, hp, rfl⟩
  · exact .shared hp
  · exact .own (givenInPath_of_parameter hp)

theorem drawn_allParameters {ofPath as : List Argument} (hofPath : ∀ a ∈ ofPath, Drawn table a)
    (h : (allParameters settings version document v table ofPath).result = .ok as) :
    ∀ a ∈ as, Drawn table a := by
  obtain ⟨own, body, hown, hbody, rfl⟩ := allParameters_eq_ok_iff.1 h
  intro a ha
  rcases List.mem_append.1 ha with ha | ha
  · rcases mem_of_mem_combined (mem_of_mem_listed ha) with ha | ha
    · exact hofPath a ha
    · exact drawn_arguments hown a ha
  · obtain ⟨p, hp, rfl⟩ := Option.map_eq_some_iff.1 (Option.mem_toList.1 ha)
    rw [hp] at hbody
    exact .own (givenInPath_of_body hbody)

theorem drawn_operations {os : List Operation}
    (h : (operations settings version document table).result = .ok os) :
    ∀ o ∈ os, ∀ a ∈ o.parameters, Drawn table a := by
  intro o ho
  obtain ⟨items, -, e, -, entries, -, ofPath, hofPath, m, -, hoperation⟩ :=
    exists_item_of_mem_operations h ho
  obtain ⟨-, -, hparameters, -⟩ := operation_eq_ok_iff.1 hoperation
  exact drawn_allParameters (drawn_arguments hofPath) hparameters

/-! ## References -/

/-- A map whose parameters are gone through for the operations of a path: the item of the path, or
what stands there under a method. -/
def TakesParameters (document holder : Value) : Prop :=
  ∃ items, (document.getD "paths").entries = .ok items ∧ ∃ e ∈ items,
    ∃ entries, follow document e.2 = .ok (.map entries) ∧
      (holder = .map entries ∨ ∃ m ∈ entries.filterMap methodOf?, holder = m.2)

/-- If the operations of a document are read, every list of parameters in its paths is. -/
theorem exists_arguments_of_takesParameters {os : List Operation}
    (h : (operations settings version document table).result = .ok os) {holder : Value}
    (hholder : TakesParameters document holder) :
    ∃ as, (arguments version table holder).result = .ok as := by
  obtain ⟨items, hitems, e, he, entries, hentries, hholder⟩ := hholder
  obtain ⟨paths, items', oss, hpaths, hitems', hoss, -⟩ := operations_eq_ok_iff.1 h
  rw [Value.eq_getD_of_under hpaths, hitems, Except.ok.injEq] at hitems'
  subst hitems'
  obtain ⟨os', -, hitem⟩ := exists_right_of_forall₂ hoss he
  obtain ⟨w, hw, hitem⟩ := itemOperations_eq_ok_iff.1 hitem
  obtain rfl : w = .map entries := Except.ok.inj (hw.symm.trans hentries)
  obtain ⟨ofPath, hofPath, hall⟩ := hitem
  rcases hholder with rfl | ⟨m, hm, rfl⟩
  · exact ⟨ofPath, hofPath⟩
  · obtain ⟨o, -, hoperation⟩ := exists_right_of_forall₂ hall hm
    obtain ⟨-, -, hparameters, -⟩ := operation_eq_ok_iff.1 hoperation
    obtain ⟨own, -, hown, -⟩ := allParameters_eq_ok_iff.1 hparameters
    exact ⟨own, hown⟩

/-- What a list of parameters refers to stands in the table, and is taken from there. -/
theorem exists_shared_of_reference {as : List Argument}
    (h : (arguments version table v).result = .ok as) :
    ∃ ws, (v.getD "parameters").items = .ok ws ∧
      ∀ w ∈ ws, ∀ ref, w.get? "$ref" = some ref →
        ∃ p ∈ table, ref = .text p.ref ∧ (argument version table w).result = .ok (.shared p) := by
  obtain ⟨ws, hws, hall⟩ := arguments_eq_ok_iff.1 h
  refine ⟨ws, hws, fun w hw ref href => ?_⟩
  obtain ⟨a, -, ha⟩ := exists_right_of_forall₂ hall hw
  rcases argument_eq_ok_iff.1 ha with ⟨s, p, hs, hp, rfl⟩ | ⟨hnone, -⟩
  · have hpref : p.ref = s := by simpa using List.find?_some hp
    rw [href, Option.some.injEq] at hs
    exact ⟨p, List.mem_of_find?_eq_some hp, by rw [hs, hpref], ha⟩
  · rw [href] at hnone
    cases hnone

/-! ## Documents -/

theorem nodup_refs_sharedParameters
    (h : (sharedParameters version document).result = .ok table) :
    (table.map (·.ref)).Nodup := by
  obtain ⟨ps, -, rfl⟩ := sharedParameters_eq_ok_iff.1 h
  exact Keyed.nodup_keys_ofList _ ps

/-- **Shared parameters are kept as they are.** The references of the shared parameters are
distinct. A shared parameter that an operation takes is one of them in every respect, the only one
with its reference. Whatever a list of parameters in the paths refers to is the reference of one,
and is taken to be that one. And every parameter that travels in the path must be given, whether it
is shared or belongs to an operation. -/
theorem shared_parameters_kept {api : Api} (h : (read settings document).result = .ok api) :
    (api.parameters.map (·.ref)).Nodup ∧
    (∀ o ∈ api.operations, ∀ p, .shared p ∈ o.parameters →
      p ∈ api.parameters ∧ ∀ q ∈ api.parameters, q.ref = p.ref → q = p) ∧
    (∀ holder, TakesParameters document holder →
      ∃ ws, (holder.getD "parameters").items = .ok ws ∧
        ∀ w ∈ ws, ∀ ref, w.get? "$ref" = some ref → ∃ p ∈ api.parameters, ref = .text p.ref ∧
          (argument api.version api.parameters w).result = .ok (.shared p)) ∧
    (∀ p ∈ api.parameters, p.location = .path → p.required = true) ∧
    ∀ o ∈ api.operations, ∀ a ∈ o.parameters,
      a.parameter.location = .path → a.parameter.required = true := by
  obtain ⟨-, -, -, htable, hos⟩ := read_eq_ok_iff.1 h
  have hnodup := nodup_refs_sharedParameters htable
  have hgiven := givenInPath_sharedParameters htable
  have hdrawn := drawn_operations hos
  refine ⟨hnodup, fun o ho p hp => ?_, fun holder hholder => ?_, hgiven, fun o ho a ha => ?_⟩
  · cases hdrawn o ho _ hp with
    | shared hmem =>
      exact ⟨hmem, fun q hq href => List.inj_on_of_nodup_map hnodup hq hmem href⟩
  · obtain ⟨as, has⟩ := exists_arguments_of_takesParameters hos hholder
    exact exists_shared_of_reference has
  · cases hdrawn o ho a ha with
    | shared hmem => exact hgiven _ hmem
    | own hown => exact hown

/-- A document with two shared parameters of one description, which does not say that they must be
given. The path refers to one and its operation to the other. -/
def marina : Value :=
  .record [("openapi", .text "3.0.0"),
    ("components", .record [("parameters", .record
      [("berth", .record [("name", .text "berth"), ("in", .text "path")]),
        ("place", .record [("name", .text "berth"), ("in", .text "path")])])]),
    ("paths", .record [("/boats", .record
      [("parameters", .list [.record [("$ref", .text "#/components/parameters/berth")]]),
        ("get", .record [("operationId", .text "boats"), ("parameters", .list
          [.record [("$ref", .text "#/components/parameters/place")]])])])])]

/-- What is read from that document. The parameter of the operation replaces that of the path. -/
def marinaApi : Api :=
  let p : Parameter := ⟨"berth", .path, true, .unknown, none⟩
  { version := .openApi3, declarations := []
    parameters := [⟨p, "#/components/parameters/berth"⟩, ⟨p, "#/components/parameters/place"⟩]
    operations := [
      { id := "boats", method := .get, path := "/boats", deprecated := false
        parameters := [.shared ⟨p, "#/components/parameters/place"⟩]
        responses := [], description := none, summary := none, tags := [] }] }

theorem shared_parameters_kept_marina :
    (read {} marina).result = .ok marinaApi ∧
    (∀ o ∈ marinaApi.operations, ∀ p, .shared p ∈ o.parameters →
      p ∈ marinaApi.parameters ∧ ∀ q ∈ marinaApi.parameters, q.ref = p.ref → q = p) ∧
    ∀ o ∈ marinaApi.operations, ∀ a ∈ o.parameters,
      a.parameter.location = .path → a.parameter.required = true := by
  have hread : (read {} marina).result = .ok marinaApi := by cbv
  obtain ⟨-, hshared, -, -, hrequired⟩ := shared_parameters_kept hread
  exact ⟨hread, hshared, hrequired⟩

end ApiModel.Document
