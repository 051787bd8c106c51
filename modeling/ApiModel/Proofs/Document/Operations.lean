import ApiModel.Document.Read
import ApiModel.Proofs.Document.Parameters
import ApiModel.Proofs.Document.Responses
import ApiModel.Proofs.Value.Access

/-!
# What an operation and a document are made of

An operation is read from its parts: the parameters of its path and its own, its body and its
responses. A document is read from its operations and its other tables. One statement for each
function says what its result consists of.

* `argument_eq_ok_iff`, `allParameters_eq_ok_iff`: the parameters of an operation.
* `operation_eq_ok_iff`, `operations_eq_ok_iff`: the operations of a document.
* `read_eq_ok_iff`: the whole document.
-/

namespace ApiModel.Document

open Reference (Layout follow)

variable {settings : Settings} {version : Version} {document v : Value} {table : Table}

/-! ## Arguments -/

theorem resolve_eq_ok_iff {ref : Value} {p : SharedParameter} :
    resolve table ref = .ok p ↔ ∃ s, ref = .text s ∧ table.find? s = some p := by
  have htext : ∀ s, ref.text? = some s ↔ ref = .text s := by
    intro s
    rw [← Value.isText_iff, Value.isText, beq_iff_eq]
  have hbind : ref.text?.bind table.find? = some p ↔
      ∃ s, ref = .text s ∧ table.find? s = some p := by
    simp only [Option.bind_eq_some_iff, htext]
  rw [← hbind]
  unfold resolve
  split
  · rename_i q hq
    rw [hq, Except.ok.injEq, Option.some.injEq]
  · rename_i hnone
    rw [hnone]
    split <;> simp

/-- A parameter of an operation is found in the table, or is described in place. -/
theorem argument_eq_ok_iff {a : Argument} :
    (argument version table v).result = .ok a ↔
      (∃ ref p, v.get? "$ref" = some (.text ref) ∧ table.find? ref = some p ∧ a = .shared p) ∨
      (v.get? "$ref" = none ∧
        ∃ p, (parameter .parameter version v).result = .ok p ∧ a = .own p) := by
  unfold argument
  cases hr : v.get? "$ref" with
  | some ref =>
    simp only [Traced.result_bind, Traced.result_lift, Traced.result_pure, bind_eq_ok_iff,
      resolve_eq_ok_iff, Except.ok.injEq, Option.some.injEq]
    constructor
    · rintro ⟨p, ⟨s, rfl, hp⟩, rfl⟩
      exact Or.inl ⟨s, p, rfl, hp, rfl⟩
    · rintro (⟨s, p, rfl, hp, rfl⟩ | ⟨hnone, -⟩)
      · exact ⟨p, ⟨s, rfl, hp⟩, rfl⟩
      · cases hnone
  | none =>
    simp only [Traced.result_bind, Traced.result_pure, bind_eq_ok_iff, Except.ok.injEq]
    constructor
    · rintro ⟨p, hp, rfl⟩
      exact Or.inr ⟨trivial, p, hp, rfl⟩
    · rintro (⟨s, p, hsome, -⟩ | ⟨-, p, hp, rfl⟩)
      · cases hsome
      · exact ⟨p, hp, rfl⟩

theorem arguments_eq_ok_iff {as : List Argument} :
    (arguments version table v).result = .ok as ↔
      ∃ vs, (v.getD "parameters").items = .ok vs ∧
        List.Forall₂ (fun w a => (argument version table w).result = .ok a) vs as := by
  unfold arguments
  simp only [Traced.result_bind, Traced.result_lift, Traced.result_mapM, bind_eq_ok_iff,
    mapM_eq_ok_iff]

/-- A parameter of an operation stands in the table, or is described by an item. -/
theorem shared_or_own_of_mem_arguments {as : List Argument}
    (h : (arguments version table v).result = .ok as) {a : Argument} (ha : a ∈ as) :
    (∃ p ∈ table, a = .shared p) ∨
      ∃ ws w p, (v.getD "parameters").items = .ok ws ∧ w ∈ ws ∧ w.get? "$ref" = none ∧
        (parameter .parameter version w).result = .ok p ∧ a = .own p := by
  obtain ⟨ws, hws, hall⟩ := arguments_eq_ok_iff.1 h
  obtain ⟨w, hw, hargument⟩ := exists_left_of_forall₂ hall ha
  rcases argument_eq_ok_iff.1 hargument with ⟨ref, p, -, hp, ha⟩ | ⟨hnone, p, hp, ha⟩
  · exact Or.inl ⟨p, List.mem_of_find?_eq_some hp, ha⟩
  · exact Or.inr ⟨ws, w, p, hws, hw, hnone, hp, ha⟩

theorem mem_of_mem_listed {as : List Argument} {a : Argument} (h : a ∈ listed version as) :
    a ∈ as := by
  unfold listed at h
  split at h
  · exact (List.mem_filter.1 h).1
  · exact h

theorem mem_of_mem_combined {ofPath own : List Argument} {a : Argument}
    (h : a ∈ combined ofPath own) : a ∈ ofPath ∨ a ∈ own := by
  rcases List.mem_append.1 h with h | h
  · exact Or.inl (List.mem_filter.1 h).1
  · exact Or.inr h

/-! ## Bodies -/

/-- The body of an operation in OpenAPI 3 is described by what its reference leads to. -/
theorem keyedBody_eq_some {p : Parameter}
    (h : (keyedBody settings document v).result = .ok (some p)) :
    p.name = bodyName ∧ p.location = .body ∧
      (p.type = .unknown ∨
        ∃ schema, (Schema.toType (.of .openApi3) schema).result = .ok p.type) := by
  unfold keyedBody Value.checkedAs at h
  dsimp only at h
  split at h
  · cases h
  simp only [Traced.result_bind, Traced.result_lift, bind_eq_ok_iff] at h
  obtain ⟨body, -, content, -, mediaTypes, -, picked, -, h⟩ := h
  cases picked with
  | none =>
    simp only [Traced.result_bind, Traced.result_lift, Traced.result_pure, bind_eq_ok_iff] at h
    obtain ⟨text, -, -, -, h⟩ := h
    cases h
  | some mediaType =>
    simp only [Traced.result_bind, Traced.result_lift, bind_eq_ok_iff] at h
    obtain ⟨media, -, schema?, -, h⟩ := h
    cases schema? with
    | some schema =>
      simp only [Traced.result_bind, Traced.result_lift, Traced.result_pure, bind_eq_ok_iff] at h
      obtain ⟨type, htype, description, -, h⟩ := h
      cases h
      exact ⟨rfl, rfl, Or.inr ⟨schema, htype⟩⟩
    | none =>
      simp only [Traced.result_bind, Traced.result_lift, Traced.result_pure, bind_eq_ok_iff] at h
      obtain ⟨type, htype, description, -, h⟩ := h
      cases h
      exact ⟨rfl, rfl, Or.inl (Except.ok.inj htype).symm⟩

/-- The body of an operation in Swagger 2 is the last of the bodies among its parameters. -/
theorem lastBody_eq_some {bodies : List Parameter} {p : Parameter}
    (h : (lastBody settings document v bodies).result = .ok (some p)) :
    ∃ b, bodies.getLast? = some b ∧ p = ⟨bodyName, .body, b.required, b.type, b.description⟩ := by
  unfold lastBody at h
  split at h
  · cases h
  · rename_i b hb
    simp only [Traced.result_bind, Traced.result_lift, bind_eq_ok_iff] at h
    obtain ⟨mediaTypes, -, can, -, h⟩ := h
    split at h
    · cases h
      exact ⟨b, hb, rfl⟩
    · simp only [Traced.result_bind, Traced.result_lift, Traced.result_pure, bind_eq_ok_iff] at h
      obtain ⟨text, -, -, -, h⟩ := h
      cases h

theorem allParameters_eq_ok_iff {ofPath as : List Argument} :
    (allParameters settings version document v table ofPath).result = .ok as ↔
      ∃ own body, (arguments version table v).result = .ok own ∧
        (requestBody settings version document v (combined ofPath own)).result = .ok body ∧
        as = listed version (combined ofPath own) ++ (body.map .own).toList := by
  unfold allParameters
  simp only [Traced.result_bind, Traced.result_pure, bind_eq_ok_iff, Except.ok.injEq]
  constructor
  · rintro ⟨own, hown, body, hbody, rfl⟩
    exact ⟨own, body, hown, hbody, rfl⟩
  · rintro ⟨own, body, hown, hbody, rfl⟩
    exact ⟨own, hown, body, hbody, rfl⟩

/-! ## Operations -/

theorem operation_eq_ok_iff {path : Scalar} {method : Method} {ofPath : List Argument}
    {o : Operation} :
    (operation settings version document table path method ofPath v).result = .ok o ↔
      (v.getD "operationId").isTruthy = true ∧ o.method = method ∧
      (allParameters settings version document v table ofPath).result = .ok o.parameters ∧
      (responses version document v).result = .ok o.responses ∧
      (∃ tags, (v.getD "tags").items = .ok tags ∧
        checkTexts path v tags = .ok (((o.id, o.path), o.description, o.summary), o.tags)) ∧
      o.deprecated = (v.getD "deprecated").isTruthy := by
  unfold operation Value.checkedAs
  cases hid : (v.getD "operationId").isTruthy with
  | false => simp
  | true =>
    simp only [Bool.not_true, Bool.false_eq_true, if_false, true_and, Traced.result_bind,
      Traced.result_lift, Traced.result_pure, bind_eq_ok_iff, mapError_eq_ok_iff]
    constructor
    · rintro ⟨as, has, rs, hrs, tags, htags, texts, htexts, ho⟩
      cases ho
      exact ⟨rfl, has, hrs, ⟨tags, htags, htexts⟩, rfl⟩
    · rintro ⟨rfl, has, hrs, ⟨tags, htags, htexts⟩, hdeprecated⟩
      refine ⟨o.parameters, has, o.responses, hrs, tags, htags, _, htexts, ?_⟩
      rw [← hdeprecated]

/-- An entry of the item of a path is that of a method if its key is the word for the method and a
map stands there. -/
theorem methodOf?_eq_some_iff {e : Scalar × Value} {m : Method × Value} :
    methodOf? e = some m ↔ e = (.text m.1.word, m.2) ∧ m.2.isMap = true := by
  obtain ⟨key, w⟩ := e
  obtain ⟨method, u⟩ := m
  constructor
  · intro h
    unfold methodOf? at h
    split at h
    · rename_i word w heq
      cases heq
      split at h
      · obtain ⟨method', hword, hm⟩ := Option.map_eq_some_iff.1 h
        cases hm
        have hkey : (method.word == word) = true :=
          List.find?_some (p := fun m : Method => m.word == word) hword
        rw [beq_iff_eq.1 hkey]
        exact ⟨rfl, ‹_›⟩
      · cases h
    · cases h
  · rintro ⟨h, hmap⟩
    cases h
    simp only [methodOf?, hmap, if_true, Method.ofWord?_word, Option.map_some]

/-- The item of a path gives operations if it leads to a map: one for each of its methods. -/
theorem itemOperations_eq_ok_iff {path : Scalar} {os : List Operation} :
    (itemOperations settings version document table path v).result = .ok os ↔
      ∃ w, follow document v = .ok w ∧
        match w with
        | .map entries => ∃ ofPath, (arguments version table (.map entries)).result = .ok ofPath ∧
            List.Forall₂ (fun e o =>
              (operation settings version document table path e.1 ofPath e.2).result = .ok o)
              (entries.filterMap methodOf?) os
        | _ => os = [] := by
  unfold itemOperations
  rw [Traced.result_bind, Traced.result_lift, bind_eq_ok_iff]
  refine exists_congr fun w => and_congr_right fun _ => ?_
  split
  · simp only [Traced.result_bind, Traced.result_mapM, bind_eq_ok_iff, mapM_eq_ok_iff]
  · simp only [Traced.result_pure, Except.ok.injEq, eq_comm]

theorem operations_eq_ok_iff {os : List Operation} :
    (operations settings version document table).result = .ok os ↔
      ∃ paths items oss, document.under "paths" = .ok paths ∧ paths.entries = .ok items ∧
        List.Forall₂ (fun e os =>
          (itemOperations settings version document table e.1 e.2).result = .ok os) items oss ∧
        os = oss.flatten := by
  unfold operations
  simp only [Traced.result_bind, Traced.result_lift, Traced.result_mapM, Traced.result_pure,
    bind_eq_ok_iff, mapM_eq_ok_iff, Except.ok.injEq]
  constructor
  · rintro ⟨paths, hpaths, items, hitems, oss, hoss, rfl⟩
    exact ⟨paths, items, oss, hpaths, hitems, hoss, rfl⟩
  · rintro ⟨paths, items, oss, hpaths, hitems, hoss, rfl⟩
    exact ⟨paths, hpaths, items, hitems, oss, hoss, rfl⟩

/-- Every operation of a document is that of a method in the item of a path. -/
theorem exists_item_of_mem_operations {os : List Operation}
    (h : (operations settings version document table).result = .ok os) {o : Operation}
    (ho : o ∈ os) :
    ∃ items, (document.getD "paths").entries = .ok items ∧ ∃ e ∈ items,
      ∃ entries, follow document e.2 = .ok (.map entries) ∧
      ∃ ofPath, (arguments version table (.map entries)).result = .ok ofPath ∧
      ∃ m ∈ entries.filterMap methodOf?,
        (operation settings version document table e.1 m.1 ofPath m.2).result = .ok o := by
  obtain ⟨paths, items, oss, hpaths, hitems, hoss, rfl⟩ := operations_eq_ok_iff.1 h
  have hgetD : paths = document.getD "paths" := Value.eq_getD_of_under hpaths
  obtain ⟨os, hos, ho⟩ := List.mem_flatten.1 ho
  obtain ⟨e, he, hitem⟩ := exists_left_of_forall₂ hoss hos
  obtain ⟨w, hw, hitem⟩ := itemOperations_eq_ok_iff.1 hitem
  refine ⟨items, hgetD ▸ hitems, e, he, ?_⟩
  split at hitem
  · rename_i entries
    obtain ⟨ofPath, hofPath, hall⟩ := hitem
    obtain ⟨m, hm, hoperation⟩ := exists_left_of_forall₂ hall ho
    exact ⟨entries, hw, ofPath, hofPath, m, hm, hoperation⟩
  · rw [hitem] at ho
    cases ho

/-! ## Documents -/

theorem read_eq_ok_iff {api : Api} :
    (read settings document).result = .ok api ↔
      Version.detect document = .ok api.version ∧
      Reference.checkDocument document = .ok () ∧
      (∃ ds, (declarations api.version document).result = .ok ds ∧
        api.declarations = arranged settings ds) ∧
      (sharedParameters api.version document).result = .ok api.parameters ∧
      (operations settings api.version document api.parameters).result = .ok api.operations := by
  unfold read
  simp only [Traced.result_bind, Traced.result_lift, Traced.result_note, Traced.result_pure,
    bind_eq_ok_iff]
  constructor
  · rintro ⟨version, hversion, ⟨⟩, hcheck, ds, hds, table, htable, os, hos, ⟨⟩, -, hapi⟩
    cases hapi
    exact ⟨hversion, hcheck, ⟨ds, hds, rfl⟩, htable, hos⟩
  · rintro ⟨hversion, hcheck, ⟨ds, hds, hdeclarations⟩, htable, hos⟩
    refine ⟨api.version, hversion, (), hcheck, ds, hds, api.parameters, htable, api.operations, hos,
      (), trivial, ?_⟩
    rw [← hdeclarations]

end ApiModel.Document
