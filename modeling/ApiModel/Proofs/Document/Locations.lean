import ApiModel.Proofs.Document.Operations
import ApiModel.Proofs.Document.Part

/-!
# Where parameters travel

A parameter travels where its description says, in either version. The request body is the one
exception: it becomes a parameter of its own, the last of its operation. In Swagger 2 the bodies
among the parameters are taken out for it. In OpenAPI 3 nothing is taken out, and no place that a
description names is refused, so there it is the descriptions that have to keep to the places that
their version knows.

* `located_sharedParameters`, `located_arguments`: the places come from descriptions.
* `exists_front_of_allParameters`: the parameters of an operation and its body.
* `body_last`: when the body is the only one and the last, and when nothing travels in a form.
-/

namespace ApiModel.Document

open Reference (Layout follow)

variable {settings : Settings} {version : Version} {document v : Value} {table : Table}

/-! ## Descriptions -/

/-- A value of a document describes a parameter, a shared one or one of an operation. -/
def DescribesParameter (version : Version) (document v : Value) : Prop :=
  ∃ way role, (role = .argument ∨ role = .parameter) ∧ Part version document way role v ∧
    v.get? "$ref" = none

/-- A parameter travels where a description in the document says. -/
def Located (version : Version) (document : Value) (p : Parameter) : Prop :=
  ∃ v, DescribesParameter version document v ∧ v.getD "in" = .text p.location.word

theorem locationOf_eq_ok_iff {name : String} {l : Location} :
    locationOf name v = .ok l ↔ v = .text l.word := by
  have hword : ∀ s, Location.ofWord? s = some l ↔ s = l.word := by
    intro s
    constructor
    · intro h
      exact (beq_iff_eq.1 (List.find?_some (p := fun l : Location => l.word == s) h)).symm
    · rintro rfl
      exact Location.ofWord?_word l
  have htext : v.text?.bind Location.ofWord? = some l ↔ v = .text l.word := by
    simp only [Option.bind_eq_some_iff, hword]
    constructor
    · rintro ⟨s, hs, rfl⟩
      exact Value.isText_iff.1 (by rw [Value.isText, hs, beq_self_eq_true])
    · rintro rfl
      exact ⟨_, rfl, rfl⟩
  rw [← htext]
  unfold locationOf
  split
  · rename_i l' hl
    rw [hl, Except.ok.injEq, Option.some.injEq]
  · rename_i hnone
    rw [hnone]
    constructor
    · intro h
      cases h
    · intro h
      cases h

theorem located_of_parameter {way : Way} {role : Role} {form : Form} {p : Parameter}
    (hrole : role = .argument ∨ role = .parameter) (hv : Part version document way role v)
    (hnone : v.get? "$ref" = none) (h : (parameter form version v).result = .ok p) :
    Located version document p := by
  obtain ⟨-, hlocation, -⟩ := parameter_eq_ok_iff.1 h
  exact ⟨v, ⟨way, role, hrole, hv, hnone⟩, locationOf_eq_ok_iff.1 hlocation⟩

theorem located_sharedParameters (h : (sharedParameters version document).result = .ok table) :
    ∀ p ∈ table, Located version document p.toParameter := by
  intro p hp
  obtain ⟨e, he, w, hw, hparameter⟩ := exists_entry_of_mem_sharedParameters h hp
  obtain ⟨way, hpart, -⟩ := (Part.parameter he).ofFollow rfl hw
  exact located_of_parameter (Or.inr rfl) hpart (Reference.get?_of_follow hw) hparameter

theorem located_arguments {way : Way} {role : Role} {as : List Argument}
    (htable : ∀ p ∈ table, Located version document p.toParameter)
    (hv : Part version document way role v) (hrole : role = .path ∨ role = .operation)
    (hd : Described role v) (h : (arguments version table v).result = .ok as) :
    ∀ a ∈ as, Located version document a.parameter := by
  intro a ha
  rcases shared_or_own_of_mem_arguments h ha with
    ⟨p, hp, rfl⟩ | ⟨ws, w, p, hws, hw, hnone, hp, rfl⟩
  · exact htable p hp
  · exact located_of_parameter (Or.inl rfl) (hv.argument hrole hd hws hw) hnone hp

/-! ## Bodies -/

/-- The parameters of an operation hold one body at most, which stands last under the name of
request bodies. -/
structure BodyLast (as : List Argument) : Prop where
  /-- There is one body at most. -/
  single : (as.filter isBody).length ≤ 1
  /-- A body is the last parameter. -/
  last : ∀ a ∈ as, isBody a = true → as.getLast? = some a
  /-- A body has the name of request bodies. -/
  named : ∀ a ∈ as, isBody a = true → a.parameter.name = bodyName

theorem bodyLast_of_front {front : List Argument} {body : Option Parameter}
    (hfront : ∀ a ∈ front, isBody a = false) (hbody : ∀ p, body = some p → p.name = bodyName) :
    BodyLast (front ++ (body.map .own).toList) := by
  have hfilter : front.filter isBody = [] :=
    List.filter_eq_nil_iff.2 fun a ha => by rw [hfront a ha]; exact Bool.false_ne_true
  cases body with
  | none =>
    rw [Option.map_none, Option.toList_none, List.append_nil]
    refine ⟨by rw [hfilter]; exact Nat.zero_le 1, fun a ha h => ?_, fun a ha h => ?_⟩
    · cases (hfront a ha).symm.trans h
    · cases (hfront a ha).symm.trans h
  | some p =>
    rw [Option.map_some, Option.toList_some]
    have hlast : ∀ a ∈ front ++ [Argument.own p], isBody a = true → a = .own p := by
      intro a ha h
      rcases List.mem_append.1 ha with ha | ha
      · cases (hfront a ha).symm.trans h
      · exact List.mem_singleton.1 ha
    refine ⟨?_, fun a ha h => ?_, fun a ha h => ?_⟩
    · rw [List.filter_append, hfilter, List.nil_append]
      exact List.length_filter_le _ _
    · rw [hlast a ha h, List.getLast?_concat]
    · rw [hlast a ha h]
      exact hbody p rfl

theorem requestBody_eq_some {as : List Argument} {p : Parameter}
    (h : (requestBody settings version document v as).result = .ok (some p)) :
    p.name = bodyName ∧ p.location = .body := by
  unfold requestBody at h
  split at h
  · obtain ⟨b, -, rfl⟩ := lastBody_eq_some h
    exact ⟨rfl, rfl⟩
  · obtain ⟨hname, hlocation, -⟩ := keyedBody_eq_some h
    exact ⟨hname, hlocation⟩

/-- The parameters of an operation are located ones, and after them its body. In Swagger 2 none of
those before the body is one itself. -/
theorem exists_front_of_allParameters {way : Way} {ofPath as : List Argument}
    (htable : ∀ p ∈ table, Located version document p.toParameter)
    (hofPath : ∀ a ∈ ofPath, Located version document a.parameter)
    (hv : Part version document way .operation v)
    (h : (allParameters settings version document v table ofPath).result = .ok as) :
    ∃ front body, as = front ++ (body.map Argument.own).toList ∧
      (∀ a ∈ front, Located version document a.parameter) ∧
      (version = .swagger2 → ∀ a ∈ front, isBody a = false) ∧
      ∀ p, body = some p → p.name = bodyName ∧ p.location = .body := by
  obtain ⟨own, body, hown, hbody, rfl⟩ := allParameters_eq_ok_iff.1 h
  have hlocated := located_arguments htable hv (Or.inr rfl) nofun hown
  refine ⟨listed version (combined ofPath own), body, rfl, fun a ha => ?_, ?_, ?_⟩
  · rcases mem_of_mem_combined (mem_of_mem_listed ha) with ha | ha
    · exact hofPath a ha
    · exact hlocated a ha
  · rintro rfl a ha
    have hnot := (List.mem_filter.1 ha).2
    exact Bool.not_eq_true' _ ▸ hnot
  · rintro p rfl
    exact requestBody_eq_some hbody

/-! ## Documents -/

/-- The parameters of every operation of a document, in the same way. -/
theorem exists_front_of_operations {os : List Operation}
    (htable : ∀ p ∈ table, Located version document p.toParameter)
    (h : (operations settings version document table).result = .ok os) {o : Operation}
    (ho : o ∈ os) :
    ∃ front body, o.parameters = front ++ (body.map Argument.own).toList ∧
      (∀ a ∈ front, Located version document a.parameter) ∧
      (version = .swagger2 → ∀ a ∈ front, isBody a = false) ∧
      ∀ p, body = some p → p.name = bodyName ∧ p.location = .body := by
  obtain ⟨items, hitems, e, he, entries, hentries, ofPath, hofPath, m, hm, hoperation⟩ :=
    exists_item_of_mem_operations h ho
  have hitem : Part version document (.name e.1) .path e.2 :=
    Part.document.ofEntries nofun List.mem_cons_self hitems he
  obtain ⟨way, hpath, hd⟩ := hitem.ofFollow rfl hentries
  obtain ⟨-, -, hparameters, -⟩ := operation_eq_ok_iff.1 hoperation
  exact exists_front_of_allParameters htable
    (located_arguments htable hpath (Or.inl rfl) hd hofPath) (hpath.ofMethod hd hm) hparameters

/-- **Bodies stand last, and forms are asked for.** If the document is in Swagger 2, or none of its
parameters is described as a body, every operation has one body at most, as its last parameter and
under the name of request bodies. If none is described as a part of a form, none is one. -/
theorem body_last {api : Api} (h : (read settings document).result = .ok api) :
    ((api.version = .swagger2 ∨
        ∀ v, DescribesParameter api.version document v → v.getD "in" ≠ .text "body") →
      ∀ o ∈ api.operations, BodyLast o.parameters) ∧
    ((∀ v, DescribesParameter api.version document v → v.getD "in" ≠ .text "formData") →
      (∀ p ∈ api.parameters, p.location ≠ .formData) ∧
      ∀ o ∈ api.operations, ∀ a ∈ o.parameters, a.parameter.location ≠ .formData) := by
  obtain ⟨-, -, -, htable, hos⟩ := read_eq_ok_iff.1 h
  have hshared := located_sharedParameters htable
  constructor
  · intro hcondition o ho
    obtain ⟨front, body, hparameters, hfront, hswagger, hbody⟩ :=
      exists_front_of_operations hshared hos ho
    rw [hparameters]
    refine bodyLast_of_front (fun a ha => ?_) fun p hp => (hbody p hp).1
    rcases hcondition with hversion | hdescribed
    · exact hswagger hversion a ha
    · obtain ⟨v, hv, hin⟩ := hfront a ha
      rw [isBody, beq_eq_false_iff_ne]
      intro hlocation
      rw [hlocation] at hin
      exact hdescribed v hv hin
  · intro hdescribed
    have hnot : ∀ p, Located api.version document p → p.location ≠ .formData := by
      rintro p ⟨v, hv, hin⟩ hlocation
      rw [hlocation] at hin
      exact hdescribed v hv hin
    refine ⟨fun p hp => hnot p.toParameter (hshared p hp), fun o ho a ha => ?_⟩
    obtain ⟨front, body, hparameters, hfront, -, hbody⟩ := exists_front_of_operations hshared hos ho
    rw [hparameters] at ha
    rcases List.mem_append.1 ha with ha | ha
    · exact hnot _ (hfront a ha)
    · cases body with
      | none => cases ha
      | some p =>
        obtain rfl : a = .own p := List.mem_singleton.1 ha
        have hlocation : (Argument.own p).parameter.location = .body := (hbody p rfl).2
        rw [hlocation]
        nofun

/-- The description of a parameter in the query. -/
def day : Value := .record [("name", .text "day"), ("in", .text "query")]

/-- The description of a body. -/
def load : Value := .record [("content", .record [("application/json", .map [])])]

/-- An operation with a parameter and a body. -/
def booking : Value :=
  .record [("operationId", .text "book"), ("parameters", .list [day]), ("requestBody", load)]

/-- A document with that operation. -/
def ferry : Value :=
  .record [("openapi", .text "3.0.0"), ("paths", .record [("/trips", .record [("post", booking)])])]

/-- The part of that document that is read as each role. -/
def ferryPart? : Role → Option Value
  | .document => some ferry
  | .path => some (.record [("post", booking)])
  | .operation => some booking
  | .argument => some day
  | .body => some load
  | .media => some (.map [])
  | .parameter | .response | .header | .schema => none

theorem ferryPart?_of_part {way : Way} {role : Role} {v : Value}
    (h : Part .openApi3 ferry way role v) : ferryPart? role = some v := by
  induction h with
  | document => rfl
  | parameter h => cases h
  | schema h => cases h
  | @target _ role v w ref hv hrole href hf ih =>
    cases role <;> cases ih <;> cases href
  | operation hv hd he hm ih =>
    cases ih
    cases List.mem_singleton.1 he
    cases hm
    rfl
  | argument hv hrole hd hws hw ih =>
    rcases hrole with rfl | rfl
    · cases ih
      cases hws
      cases hw
    · cases ih
      cases hws
      rw [List.mem_singleton.1 hw]
      rfl
  | @named _ role _ _ _ _ _ _ hv hd hkeyword hes hm ih =>
    cases role <;> cases ih <;>
      simp only [Role.named, List.mem_singleton, List.not_mem_nil, Prod.mk.injEq] at hkeyword <;>
      obtain ⟨rfl, rfl⟩ := hkeyword <;> cases hes <;> cases List.mem_singleton.1 hm <;> rfl
  | @single _ role _ _ _ _ hv hd hkeyword hw ih =>
    cases role <;> cases ih <;>
      simp only [Role.single, List.mem_singleton, List.not_mem_nil, Prod.mk.injEq] at hkeyword <;>
      obtain ⟨rfl, rfl⟩ := hkeyword <;> cases hw
    rfl
  | inside hs hc ih => cases ih
/-- What is read from that document. -/
def ferryApi : Api :=
  { version := .openApi3, declarations := [], parameters := []
    operations := [
      { id := "book", method := .post, path := "/trips", deprecated := false
        parameters := [.own ⟨"day", .query, false, .unknown, none⟩,
          .own ⟨bodyName, .body, false, .unknown, none⟩]
        responses := [], description := none, summary := none, tags := [] }] }

theorem body_last_ferry :
    (read {} ferry).result = .ok ferryApi ∧
    (∀ v, DescribesParameter .openApi3 ferry v → v.getD "in" = .text "query") ∧
    (∀ o ∈ ferryApi.operations, BodyLast o.parameters) ∧
    ∀ o ∈ ferryApi.operations, ∀ a ∈ o.parameters, a.parameter.location ≠ .formData := by
  have hread : (read {} ferry).result = .ok ferryApi := by cbv
  have hquery : ∀ v, DescribesParameter .openApi3 ferry v → v.getD "in" = .text "query" := by
    rintro v ⟨way, role, rfl | rfl, hv, -⟩
    · cases ferryPart?_of_part hv
      rfl
    · cases ferryPart?_of_part hv
  have hnot : ∀ word ≠ "query", ∀ v, DescribesParameter .openApi3 ferry v →
      v.getD "in" ≠ .text word := by
    intro word hword v hv hin
    rw [hquery v hv, Value.scalar.injEq, Scalar.text.injEq] at hin
    exact hword hin.symm
  obtain ⟨hlast, hform⟩ := body_last hread
  exact ⟨hread, hquery, hlast (Or.inr (hnot "body" (by decide))),
    (hform (hnot "formData" (by decide))).2⟩

end ApiModel.Document
