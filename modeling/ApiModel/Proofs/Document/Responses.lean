import ApiModel.Document.Responses
import ApiModel.Proofs.Trace

/-!
# What a response is made of

Each part of a response is read on its own, and a response is there exactly when all its parts are.
One statement for each function says what its result consists of.

* `headers_eq_ok_iff`, `bodies_swagger2_eq_ok_iff`, `bodies_openApi3_eq_ok_iff`: the headers and
  bodies, entry by entry.
* `responses_eq_ok_iff`, `response?_eq_some_iff`: the responses, those left out that lead to no map.
-/

namespace ApiModel.Document

open Reference (Layout follow)

variable {version : Version} {document operation v : Value}

/-! ## Headers -/

theorem header_eq_ok_iff {key : Scalar} {h : Header} :
    (header version document key v).result = .ok h ↔
      ∃ w, follow document v = .ok w ∧ (headerType version w).result = .ok h.type ∧
        (Value.scalar key).checkText = .ok h.name := by
  unfold header Value.checkedAs
  simp only [Traced.result_bind, Traced.result_lift, Traced.result_pure, bind_eq_ok_iff,
    mapError_eq_ok_iff, Checked.within_eq_ok_iff]
  constructor
  · rintro ⟨w, hw, type, htype, name, hname, hh⟩
    cases hh
    exact ⟨w, hw, htype, hname⟩
  · rintro ⟨w, hw, htype, hname⟩
    exact ⟨w, hw, h.type, htype, h.name, hname, rfl⟩

theorem headers_eq_ok_iff {hs : List Header} :
    (headers version document v).result = .ok hs ↔
      ∃ es, (v.getD "headers").entries = .ok es ∧
        List.Forall₂ (fun e h => (header version document e.1 e.2).result = .ok h) es hs := by
  unfold headers
  simp only [Traced.result_bind, Traced.result_lift, Traced.result_mapM, bind_eq_ok_iff,
    mapM_eq_ok_iff]

/-! ## Bodies -/

theorem body_eq_ok_iff {mediaType : Value} {type : Ty} {b : Body} :
    body mediaType type = .ok b ↔ mediaType.checkText = .ok b.mediaType ∧ b.type = type := by
  unfold body Value.checkedAs
  simp only [bind_eq_ok_iff, mapError_eq_ok_iff, Checked.within_eq_ok_iff]
  constructor
  · rintro ⟨name, hname, hb⟩
    cases hb
    exact ⟨hname, rfl⟩
  · rintro ⟨hname, rfl⟩
    exact ⟨b.mediaType, hname, rfl⟩

/-- The type of an entry of a content: that of its schema, or anything. -/
theorem contentBody_eq_ok_iff {key : Scalar} {b : Body} :
    (contentBody key v).result = .ok b ↔
      (Value.scalar key).checkText = .ok b.mediaType ∧
        match v.get? "schema" with
        | some schema => (Schema.toType (.of .openApi3) schema).result = .ok b.type
        | none => b.type = .unknown := by
  unfold contentBody
  cases v.get? "schema" with
  | some schema =>
    simp only [Traced.result_bind, Traced.result_lift, bind_eq_ok_iff, body_eq_ok_iff]
    constructor
    · rintro ⟨type, htype, hname, rfl⟩
      exact ⟨hname, htype⟩
    · rintro ⟨hname, htype⟩
      exact ⟨b.type, htype, hname, rfl⟩
  | none =>
    simp only [Traced.result_bind, Traced.result_lift, Traced.result_pure, bind_eq_ok_iff,
      body_eq_ok_iff, Except.ok.injEq]
    constructor
    · rintro ⟨type, rfl, hname, htype⟩
      exact ⟨hname, htype⟩
    · rintro ⟨hname, htype⟩
      exact ⟨.unknown, rfl, hname, htype⟩

/-- In Swagger 2 the one schema of a response is delivered in all media types. -/
theorem bodies_swagger2_eq_ok_iff {bs : List Body} :
    (bodies .swagger2 document operation v).result = .ok bs ↔
      match v.get? "schema" with
      | none => bs = []
      | some schema => ∃ type mediaTypes,
          (Schema.toType (Layout.of .swagger2) schema).result = .ok type ∧
          (produces document operation).items = .ok mediaTypes ∧
          List.Forall₂ (fun m b => body m type = .ok b) mediaTypes bs := by
  unfold bodies
  cases v.get? "schema" with
  | none => simp [eq_comm]
  | some schema =>
    simp only [Traced.result_bind, Traced.result_lift, Traced.result_mapM, bind_eq_ok_iff,
      mapM_eq_ok_iff]
    constructor
    · rintro ⟨type, htype, mediaTypes, hmedia, hbs⟩
      exact ⟨type, mediaTypes, htype, hmedia, hbs⟩
    · rintro ⟨type, mediaTypes, htype, hmedia, hbs⟩
      exact ⟨type, htype, mediaTypes, hmedia, hbs⟩

/-- In OpenAPI 3 each entry of the content of a response is a body. -/
theorem bodies_openApi3_eq_ok_iff {bs : List Body} :
    (bodies .openApi3 document operation v).result = .ok bs ↔
      ∃ es, (v.getD "content").entries = .ok es ∧
        List.Forall₂ (fun e b => (contentBody e.1 e.2).result = .ok b) es bs := by
  unfold bodies
  simp only [Traced.result_bind, Traced.result_lift, Traced.result_mapM, bind_eq_ok_iff,
    mapM_eq_ok_iff]

/-! ## Responses -/

theorem response?_eq_some_iff {key : Scalar} {r : Response} :
    (response? version document operation key v).result = .ok (some r) ↔
      ∃ w, follow document v = .ok w ∧ w.isMap = true ∧ statusOf (.scalar key) = .ok r.status ∧
        (headers version document w).result = .ok r.headers ∧
        (bodies version document operation w).result = .ok r.bodies ∧
        (w.getD "description").checkTextOrNull = .ok r.description := by
  unfold response? Value.checkedAs
  rw [Traced.result_bind, Traced.result_lift, bind_eq_ok_iff]
  refine exists_congr fun w => and_congr_right fun _ => ?_
  cases hmap : w.isMap with
  | false => simp
  | true =>
    simp only [Bool.not_true, Bool.false_eq_true, if_false, true_and, Traced.result_bind,
      Traced.result_lift, Traced.result_pure, bind_eq_ok_iff, mapError_eq_ok_iff,
      Checked.within_eq_ok_iff]
    constructor
    · rintro ⟨status, hstatus, hs, hhs, bs, hbs, description, hdescription, hr⟩
      cases hr
      exact ⟨hstatus, hhs, hbs, hdescription⟩
    · rintro ⟨hstatus, hhs, hbs, hdescription⟩
      exact ⟨r.status, hstatus, r.headers, hhs, r.bodies, hbs, r.description, hdescription, rfl⟩

theorem responses_eq_ok_iff {rs : List Response} :
    (responses version document operation).result = .ok rs ↔
      ∃ es found, (operation.getD "responses").entries = .ok es ∧
        List.Forall₂ (fun e r => (response? version document operation e.1 e.2).result = .ok r)
          es found ∧
        rs = found.filterMap id := by
  unfold responses
  simp only [Traced.result_bind, Traced.result_lift, Traced.result_mapM, Traced.result_pure,
    bind_eq_ok_iff, mapM_eq_ok_iff, Except.ok.injEq]
  constructor
  · rintro ⟨es, hes, found, hfound, rfl⟩
    exact ⟨es, found, hes, hfound, rfl⟩
  · rintro ⟨es, found, hes, hfound, rfl⟩
    exact ⟨es, hes, found, hfound, rfl⟩

/-- A response that is listed comes from an entry. -/
theorem exists_entry_of_mem_responses {rs : List Response}
    (h : (responses version document operation).result = .ok rs) {r : Response} (hr : r ∈ rs) :
    ∃ es, (operation.getD "responses").entries = .ok es ∧
      ∃ e ∈ es, (response? version document operation e.1 e.2).result = .ok (some r) := by
  obtain ⟨es, found, hes, hfound, rfl⟩ := responses_eq_ok_iff.1 h
  have hmem : some r ∈ found := by simpa using hr
  obtain ⟨e, he, hresponse⟩ := exists_left_of_forall₂ hfound hmem
  exact ⟨es, hes, e, he, hresponse⟩

end ApiModel.Document
