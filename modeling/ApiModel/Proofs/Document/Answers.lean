import ApiModel.Proofs.Document.Sites
import ApiModel.Proofs.Text.Integer

/-!
# What the responses of an operation are

The responses of an operation stand one by one beside the entries under `responses` that lead to a
map. The key gives the status, and what the entry leads to gives the headers and the bodies, entry
by entry and media type by media type.

Results:

* `denotes_of_statusOf`, `status_eq_iff`: what a key denotes, and which keys denote the same.
* `hasBodies_of_bodies`, `answers_of_response?`: what a response consists of.
* `responses_one_by_one`: what the responses of every operation are.
-/

namespace ApiModel.Document

open Reference (Layout follow)

variable {settings : Settings} {version : Version} {document operation v : Value} {table : Table}

/-! ## Statuses -/

/-- A status is what a key denotes: a number if the key is a run of digits, else the text of the
key. -/
def Denotes (key : Scalar) (status : Status) : Prop :=
  if isDigits key.said then status = .code (Text.numberOf key.said.toList)
  else status = .text key.said

theorem isDigits_iff {s : String} :
    isDigits s = true ↔ s.toList ≠ [] ∧ ∀ c ∈ s.toList, (Text.asciiDigit? c).isSome = true := by
  have hempty : s ≠ "" ↔ s.toList ≠ [] := by
    rw [ne_eq, ne_eq, ← String.toList_inj]
    rfl
  unfold isDigits
  rw [Bool.and_eq_true, decide_eq_true_eq, List.all_eq_true, hempty]

theorem denotes_of_statusOf {key : Scalar} {status : Status}
    (h : statusOf (.scalar key) = .ok status) : Denotes key status := by
  unfold statusOf at h
  obtain ⟨w, hw, h⟩ := bind_eq_ok_iff.1 h
  unfold Value.sayable at hw
  split at hw
  · obtain rfl := Except.ok.inj hw
    unfold Denotes
    dsimp only [Value.said] at h
    split at h
    · rename_i hdigits
      obtain ⟨hne, hall⟩ := isDigits_iff.1 hdigits
      rw [if_pos hdigits]
      rw [Text.readInteger?_of_digits hne hall] at h
      split at h
      · rename_i n hn
        split at hn
        · cases hn
        · rw [← Except.ok.inj h, ← Option.some.inj hn]
      · cases h
    · rename_i hdigits
      rw [if_neg hdigits, ← Except.ok.inj h]
  · cases hw

/-- Two different texts denote the same status exactly if both are runs of digits that denote the
same number. -/
theorem status_eq_iff {s t : String} {a b : Status} (hs : Denotes (.text s) a)
    (ht : Denotes (.text t) b) (hne : s ≠ t) :
    a = b ↔ isDigits s = true ∧ isDigits t = true ∧
      Text.numberOf s.toList = Text.numberOf t.toList := by
  unfold Denotes at hs ht
  rw [Scalar.said] at hs ht
  split at hs <;> split at ht <;> simp_all

/-! ## Headers and bodies -/

/-- The headers of a response stand one by one beside the entries under `headers`. -/
def HasHeaders (version : Version) (document response : Value) (hs : List Header) : Prop :=
  ∃ es, (response.getD "headers").entries = .ok es ∧
    List.Forall₂ (fun e h => (Value.scalar e.1).Spells h.name ∧
      ∃ w, follow document e.2 = .ok w ∧ (headerType version w).result = .ok h.type) es hs

theorem hasHeaders_of_headers {hs : List Header}
    (h : (headers version document v).result = .ok hs) : HasHeaders version document v hs := by
  obtain ⟨es, hes, hall⟩ := headers_eq_ok_iff.1 h
  refine ⟨es, hes, hall.imp fun e header hheader => ?_⟩
  obtain ⟨w, hw, htype, hname⟩ := header_eq_ok_iff.1 hheader
  exact ⟨Value.checkText_eq_ok_iff.1 hname, w, hw, htype⟩

/-- The media types that an operation in Swagger 2 produces: its own if it says anything, or those
of the document if that does, or JSON alone. -/
def Produces (document operation : Value) (ms : List Value) : Prop :=
  if (operation.getD "produces").isTruthy then (operation.getD "produces").items = .ok ms
  else if (document.getD "produces").isTruthy then (document.getD "produces").items = .ok ms
  else ms = [.text "application/json"]

theorem produces_of_items {ms : List Value} (h : (produces document operation).items = .ok ms) :
    Produces document operation ms := by
  unfold produces at h
  unfold Produces
  dsimp only at h
  split at h
  · rwa [if_pos ‹_›]
  · rw [if_neg ‹_›]
    split at h
    · rwa [if_pos ‹_›]
    · rw [if_neg ‹_›]
      exact (Except.ok.inj h).symm

/-- In OpenAPI 3 the bodies of a response stand one by one beside the entries of its content, each
of the type of the schema there, or of any type without one. -/
def HasContent (response : Value) (bs : List Body) : Prop :=
  ∃ es, (response.getD "content").entries = .ok es ∧
    List.Forall₂ (fun e b => (Value.scalar e.1).Spells b.mediaType ∧
      match e.2.get? "schema" with
      | some schema => (Schema.toType (.of .openApi3) schema).result = .ok b.type
      | none => b.type = .unknown) es bs

/-- In Swagger 2 the bodies of a response stand one by one beside the media types that are produced,
all of the type of its one schema. There are none without a schema. -/
def HasProduced (document operation response : Value) (bs : List Body) : Prop :=
  match response.get? "schema" with
  | none => bs = []
  | some schema => ∃ type ms, (Schema.toType (.of .swagger2) schema).result = .ok type ∧
      Produces document operation ms ∧
      List.Forall₂ (fun m b => m.Spells b.mediaType ∧ b.type = type) ms bs

/-- The bodies of a response. -/
def HasBodies (version : Version) (document operation response : Value) (bs : List Body) : Prop :=
  match version with
  | .openApi3 => HasContent response bs
  | .swagger2 => HasProduced document operation response bs

theorem hasBodies_of_bodies {bs : List Body}
    (h : (bodies version document operation v).result = .ok bs) :
    HasBodies version document operation v bs := by
  cases version with
  | openApi3 =>
    obtain ⟨es, hes, hall⟩ := bodies_openApi3_eq_ok_iff.1 h
    refine ⟨es, hes, hall.imp fun e b hb => ?_⟩
    obtain ⟨hname, htype⟩ := contentBody_eq_ok_iff.1 hb
    exact ⟨Value.checkText_eq_ok_iff.1 hname, htype⟩
  | swagger2 =>
    have hbodies := bodies_swagger2_eq_ok_iff.1 h
    unfold HasBodies HasProduced
    cases hschema : v.get? "schema" with
    | none => rwa [hschema] at hbodies
    | some schema =>
      rw [hschema] at hbodies
      obtain ⟨type, ms, htype, hms, hall⟩ := hbodies
      refine ⟨type, ms, htype, produces_of_items hms, hall.imp fun m b hb => ?_⟩
      obtain ⟨hname, hb⟩ := body_eq_ok_iff.1 hb
      exact ⟨Value.checkText_eq_ok_iff.1 hname, hb⟩

/-! ## Responses -/

/-- Whether an entry leads to a map. -/
def leadsToMap (document : Value) (e : Scalar × Value) : Bool :=
  match follow document e.2 with
  | .ok w => w.isMap
  | .error _ => false

/-- A response is what an entry under `responses` leads to. -/
structure Answers (version : Version) (document operation : Value) (e : Scalar × Value)
    (r : Response) : Prop where
  /-- The status is what the key denotes. -/
  status : Denotes e.1 r.status
  /-- The rest is described by a map. -/
  described : ∃ w, follow document e.2 = .ok w ∧ w.isMap = true ∧
    HasHeaders version document w r.headers ∧ HasBodies version document operation w r.bodies ∧
    (w.getD "description").checkTextOrNull = .ok r.description

theorem answers_of_response? {e : Scalar × Value} {r : Response}
    (h : (response? version document operation e.1 e.2).result = .ok (some r)) :
    leadsToMap document e = true ∧ Answers version document operation e r := by
  obtain ⟨w, hw, hmap, hstatus, hheaders, hbodies, hdescription⟩ := response?_eq_some_iff.1 h
  refine ⟨by rw [leadsToMap, hw]; exact hmap, denotes_of_statusOf hstatus, w, hw, hmap, ?_⟩
  exact ⟨hasHeaders_of_headers hheaders, hasBodies_of_bodies hbodies, hdescription⟩

/-- An entry that gives no response leads to no map. -/
theorem leadsToMap_of_none {e : Scalar × Value}
    (h : (response? version document operation e.1 e.2).result = .ok none) :
    leadsToMap document e = false := by
  unfold response? at h
  rw [Traced.result_bind, Traced.result_lift, bind_eq_ok_iff] at h
  obtain ⟨w, hw, h⟩ := h
  cases hmap : w.isMap with
  | false =>
    unfold leadsToMap
    rw [hw]
    exact hmap
  | true =>
    simp only [hmap, Bool.not_true, Bool.false_eq_true, if_false, Traced.result_bind,
      Traced.result_lift, Traced.result_pure, bind_eq_ok_iff] at h
    obtain ⟨_, -, _, -, _, -, _, -, h⟩ := h
    cases h

/-- The responses stand beside the entries that lead to maps. -/
theorem forall₂_answers {es : Entries} {found : List (Option Response)}
    (h : List.Forall₂ (fun e r => (response? version document operation e.1 e.2).result = .ok r)
      es found) :
    List.Forall₂ (Answers version document operation) (es.filter (leadsToMap document))
      (found.filterMap id) := by
  induction h with
  | nil => exact .nil
  | @cons e r es found he _ ih =>
    cases r with
    | none => rwa [List.filter_cons_of_neg (by simp [leadsToMap_of_none he])]
    | some r =>
      obtain ⟨hmap, hanswers⟩ := answers_of_response? he
      rw [List.filter_cons_of_pos hmap]
      exact .cons hanswers ih

theorem answers_of_responses {rs : List Response}
    (h : (responses version document operation).result = .ok rs) :
    ∃ es, (operation.getD "responses").entries = .ok es ∧
      List.Forall₂ (Answers version document operation) (es.filter (leadsToMap document)) rs := by
  obtain ⟨es, found, hes, hfound, rfl⟩ := responses_eq_ok_iff.1 h
  exact ⟨es, hes, forall₂_answers hfound⟩

/-- What stands at a site of a well-formed document is well-formed. -/
theorem Site.StandsIn.wellFormed {site : Site} {es : Entries} (h : site.StandsIn document es)
    (hwf : document.WellFormed) : site.value.WellFormed := by
  obtain ⟨items, hitems, v, hv, hfollow, hmem⟩ := h
  have hpaths : (Value.map items).WellFormed := by
    rw [← Value.eq_map_of_entries hitems hv]
    exact hwf.getD "paths"
  have hvalue := isInherited_wellFormed.entry _ hpaths _ hv
  have hitem := isInherited_wellFormed.follow hwf hvalue hfollow
  exact isInherited_wellFormed.entry _ hitem _ hmem

/-- Two responses to entries with distinct text keys have one status only if the keys are runs of
digits that denote one number. -/
theorem pairwise_statuses {es : Entries} {rs : List Response} (hdistinct : Entries.Distinct es)
    (h : List.Forall₂ (Answers version document operation) es rs) :
    (es.zip rs).Pairwise fun p q => ∀ s t, p.1.1 = .text s → q.1.1 = .text t →
      (p.2.status = q.2.status ↔ isDigits s = true ∧ isDigits t = true ∧
        Text.numberOf s.toList = Text.numberOf t.toList) := by
  refine pairwise_of_forall₂ (forall₂_zip h) hdistinct ?_
  rintro e e' ⟨_, r⟩ ⟨_, r'⟩ ⟨rfl, hr⟩ ⟨rfl, hr'⟩ hne s t hs ht
  have hs' := hr.status
  have ht' := hr'.status
  rw [hs] at hs'
  rw [ht] at ht'
  refine status_eq_iff hs' ht' ?_
  rintro rfl
  rw [hs, ht, Entries.same_text.2 rfl] at hne
  cases hne

/-- **The responses of an operation.** The operations of a document stand one by one beside its
sites for operations. The responses of each stand one by one beside the entries under `responses`
that lead to a map: the status is what the key denotes, the headers stand beside the entries under
`headers`, and the bodies beside the media types. Two responses under different texts have the same
status exactly if both texts are runs of digits that denote the same number. -/
theorem responses_one_by_one (hwf : document.WellFormed) {os : List Operation}
    (h : (operations settings version document table).result = .ok os) :
    List.Forall₂ (fun site o => site.Gives o ∧
      ∃ es, (site.value.getD "responses").entries = .ok es ∧
        List.Forall₂ (Answers version document site.value) (es.filter (leadsToMap document))
          o.responses ∧
        ((es.filter (leadsToMap document)).zip o.responses).Pairwise fun p q =>
          ∀ s t, p.1.1 = .text s → q.1.1 = .text t →
            (p.2.status = q.2.status ↔ isDigits s = true ∧ isDigits t = true ∧
              Text.numberOf s.toList = Text.numberOf t.toList))
      (operationSites document) os := by
  refine (operations_of_sites h).imp fun site o hreads => ⟨hreads.gives, ?_⟩
  obtain ⟨item, ofItem, method, hstands, -, -, hoperation⟩ := hreads
  obtain ⟨-, -, -, hresponses, -⟩ := operation_eq_ok_iff.1 hoperation
  obtain ⟨es, hes, hall⟩ := answers_of_responses hresponses
  have hdistinct : Entries.Distinct es := by
    cases es with
    | nil => exact List.Pairwise.nil
    | cons e es =>
      have hmap := Value.eq_map_of_entries hes List.mem_cons_self
      have hentries := (hstands.wellFormed hwf).getD "responses"
      rw [hmap] at hentries
      exact (Value.wellFormed_map_iff.1 hentries).1
  exact ⟨es, hes, hall, pairwise_statuses (hdistinct.filter _) hall⟩

/-- A response with headers and a content, not all of which have a schema. -/
def tea : Value :=
  .record [("headers", .record
      [("X-Cups", .record [("schema", .record [("type", .text "integer")])]),
        ("X-Leaf", .record [])]),
    ("content", .record [("application/json", .record
        [("schema", .record [("type", .text "string")])]), ("text/plain", .record [])])]

/-- An operation with five entries under `responses`, of which one leads to no map. Two keys denote
the same number. -/
def serving : Value :=
  .record [("operationId", .text "serve"), ("responses", .record
    [("200", tea), ("x-note", .text "later"), ("0200", .record []), ("2XX", .record []),
      ("default", .record [("description", .text "Spilt")])])]

/-- A document with that operation. -/
def parlour : Value := .record [("paths", .record [("/tea", .record [("get", serving)])])]

/-- Its responses. -/
def servingResponses : List Response :=
  [{ status := .code 200, description := none
     headers := [⟨"X-Cups", .primitive .number⟩, ⟨"X-Leaf", .unknown⟩]
     bodies := [⟨"application/json", .primitive .string⟩, ⟨"text/plain", .unknown⟩] },
    ⟨.code 200, none, [], []⟩, ⟨.text "2XX", none, [], []⟩,
    ⟨.text "default", some "Spilt", [], []⟩]

theorem responses_serving :
    (responses .openApi3 parlour serving).result = .ok servingResponses := by
  refine responses_eq_ok_iff.2 ⟨_, [some servingResponses[0], none, some servingResponses[1],
    some servingResponses[2], some servingResponses[3]], rfl,
    .cons (by cbv) (.cons (by cbv) (.cons (by cbv) (.cons ?_ (.cons ?_ .nil)))), rfl⟩
  · exact response?_eq_some_iff.2 ⟨.record [], by cbv, rfl, statusOf_text (by cbv), by cbv, by cbv,
      by cbv⟩
  · exact response?_eq_some_iff.2 ⟨.record [("description", .text "Spilt")], by cbv, rfl,
      statusOf_text (by cbv), by cbv, by cbv, by cbv⟩

/-- The operation that is read. -/
def parlourOperation : Operation :=
  ⟨"serve", .get, "/tea", false, [], servingResponses, none, none, []⟩

theorem operations_parlour :
    (operations {} .openApi3 parlour []).result = .ok [parlourOperation] := by
  have hserving : (operation {} .openApi3 parlour [] (.text "/tea") .get [] serving).result =
      .ok parlourOperation :=
    operation_eq_ok_iff.2 ⟨by cbv, rfl, by cbv, responses_serving, ⟨[], by cbv, by cbv⟩, by cbv⟩
  have hitem : (itemOperations {} .openApi3 parlour [] (.text "/tea")
      (.record [("get", serving)])).result = .ok [parlourOperation] :=
    itemOperations_eq_ok_iff.2 ⟨.record [("get", serving)], by cbv, [], by cbv, .cons hserving .nil⟩
  exact operations_eq_ok_iff.2 ⟨_, _, [[parlourOperation]], rfl, rfl, .cons hitem .nil, rfl⟩

theorem responses_one_by_one_parlour :
    parlour.WellFormed ∧ (operations {} .openApi3 parlour []).result = .ok [parlourOperation] ∧
    List.Forall₂ (fun site o => ∃ es, (site.value.getD "responses").entries = .ok es ∧
        List.Forall₂ (Answers .openApi3 parlour site.value) (es.filter (leadsToMap parlour))
          o.responses)
      (operationSites parlour) [parlourOperation] := by
  have hwf : parlour.WellFormed := by
    simp [parlour, serving, tea, Value.record, Value.WellFormed, Value.entriesWellFormed,
      Entries.Distinct, Scalar.same, Scalar.toInt?]
  refine ⟨hwf, operations_parlour,
    (responses_one_by_one hwf operations_parlour).imp fun site o h => ?_⟩
  obtain ⟨-, es, hes, hanswers, -⟩ := h
  exact ⟨es, hes, hanswers⟩

end ApiModel.Document
