import ApiModel.Proofs.Document.Steps

/-!
# How reading a document fails

Reading a document fails at a step within one of its parts. So what is known of the failures of each
step, in all parts, is known of how the reading fails. One statement for each function that reads a
part, up to the document.

* `failsOnly_bind_follow`: how following the references of a part fails.
* `failsOnly_parameter`, `failsOnly_responses`, `failsOnly_operation`: how the parts fail.
* `failsOnly_read_of_steps`: how the document fails.
-/

namespace ApiModel.Document

open Reference (Layout follow)

variable {Q : Failure → Prop} {settings : Settings} {version : Version} {document v : Value}
  {table : Table} {way : Way} {role : Role}

variable (h : StepsFail Q settings version document)

include h

/-- What is done with the end of a chain of references may rely on its being a part. -/
theorem failsOnly_bind_follow {α : Type} {f : Value → Except Failure α}
    (hv : Part version document way role v) (hrole : role.isFollowed = true)
    (hf : ∀ way w, Part version document way role w → Described role w → FailsOnly Q (f w)) :
    FailsOnly Q (follow document v >>= f) := by
  refine (h.followed hv hrole).bind fun w hw => ?_
  obtain ⟨way', hpart, hd⟩ := hv.ofFollow hrole hw
  exact hf way' w hpart hd

/-! ## Types -/

theorem failsOnly_schema {layout : Layout} (hv : Part version document way .schema v) :
    FailsOnly Q (Schema.toType layout v).result := by
  refine Schema.failsOnly_toType (P := fun v => ∃ way, Part version document way .schema v)
    (fun s hs => ?_) v ⟨way, hv⟩
  obtain ⟨way, hs⟩ := hs
  exact ⟨h.schema hs, fun c hc => ⟨_, hs.inside hc⟩⟩

theorem failsOnly_inlineType {layout : Layout} (hinline : InlineSteps Q v)
    (hitems : ∀ w, v.get? "items" = some w → ∃ way, Part version document way .schema w) :
    FailsOnly Q (inlineType layout v).result := by
  unfold inlineType
  rw [Traced.result_bind]
  refine hinline.type.bind fun type htype => ?_
  split
  · exact .ok _
  · rename_i hplain
    have hne : v.getD "type" ≠ .null := by
      intro hnull
      rw [Value.eq_getD_of_under htype, hnull] at hplain
      exact hplain rfl
    refine Schema.failsOnly_toType (P := fun s => s = inlineSchema v ∨
      ∃ way, Part version document way .schema s) (fun s hs => ?_) _ (Or.inl rfl)
    rcases hs with rfl | ⟨way, hs⟩
    · exact ⟨hinline.schema hne, fun c hc => Or.inr (hitems c (items_of_mem_children hc))⟩
    · exact ⟨h.schema hs, fun c hc => Or.inr ⟨_, hs.inside hc⟩⟩

/-- The schema under a key of a part, if there is one. -/
theorem failsOnly_under_schema {layout : Layout} (hv : Part version document way role v)
    (hd : Described role v) (hkeyword : ("schema", Role.schema) ∈ role.single version) :
    FailsOnly Q (Schema.toType layout (v.getD "schema")).result := by
  cases hget : v.get? "schema" with
  | some schema =>
    rw [Value.getD_of_get? hget]
    exact failsOnly_schema h (hv.single hd hkeyword hget)
  | none =>
    rw [Value.getD_of_get?_eq_none hget, Schema.result_toType_of_not_map rfl]
    exact .error h.shapeless

/-- The schema of a part, or of an entry of its content. -/
theorem failsOnly_keyedType {layout : Layout} (hv : Part version document way role v)
    (hd : Described role v) (hschema : ("schema", Role.schema) ∈ role.single version)
    (hcontent : ("content", Role.media) ∈ role.named version)
    (hmedia : ("schema", Role.schema) ∈ Role.media.single version)
    (hentries : v.get? "schema" = none → FailsOnly Q (v.getD "content").entries) :
    FailsOnly Q (keyedType layout v).result := by
  unfold keyedType
  split
  · rename_i schema hget
    exact failsOnly_schema h (hv.single hd hschema hget)
  · rename_i hnone
    rw [Traced.result_bind]
    refine (hentries hnone).bind fun content hes => ?_
    split
    · rename_i schema hfirst
      obtain ⟨e, he, hget⟩ := List.exists_of_findSome?_eq_some hfirst
      have hentry := hv.ofEntries hd hcontent hes he
      exact failsOnly_schema h (hentry.single nofun hmedia hget)
    · exact .ok _

/-! ## Parameters -/

theorem failsOnly_parameterType {location : Location} (hmap : v.isMap = true)
    (hlocation : v.getD "in" = .text "body" → location = .body)
    (hv : Part version document way role v) (hrole : role = .argument ∨ role = .parameter)
    (hd : Described role v) : FailsOnly Q (parameterType version location v).result := by
  have hsteps : ParameterSteps Q version v := h.parameter hv hrole hd
  unfold parameterType
  split
  · rcases hrole with rfl | rfl
    · exact failsOnly_keyedType h hv hd (by decide) (by decide) (by decide) (hsteps.content rfl)
    · exact failsOnly_keyedType h hv hd (by decide) (by decide) (by decide) (hsteps.content rfl)
  · rcases hrole with rfl | rfl
    · exact failsOnly_under_schema h hv hd (by decide)
    · exact failsOnly_under_schema h hv hd (by decide)
  · rename_i hne
    have hinline : InlineSteps Q v := hsteps.inline rfl hmap fun hbody => hne (hlocation hbody)
    refine failsOnly_inlineType h hinline fun w hw => ?_
    rcases hrole with rfl | rfl
    · exact ⟨_, hv.single hd (by decide) hw⟩
    · exact ⟨_, hv.single hd (by decide) hw⟩

theorem failsOnly_parameter {form : Form} (hv : Part version document way role v)
    (hrole : role = .argument ∨ role = .parameter) (hd : Described role v) :
    FailsOnly Q (parameter form version v).result := by
  have hsteps : ParameterSteps Q version v := h.parameter hv hrole hd
  unfold parameter
  split
  · rename_i name hname
    have hmap : v.isMap = true := (Value.isMap_of_getD "name" (by rw [hname]; nofun)).1
    simp only [Traced.result_bind, Traced.result_lift]
    refine (hsteps.location name).bind fun location hlocation => ?_
    have hbody : v.getD "in" = .text "body" → location = .body := by
      intro hin
      rw [hin] at hlocation
      exact (Except.ok.inj hlocation).symm
    refine (failsOnly_parameterType h hmap hbody hv hrole hd).bind fun type _ => ?_
    exact (hsteps.description form).bind fun description _ => .ok _
  · exact .error (hsteps.name ‹_›)

theorem failsOnly_sharedParameters :
    FailsOnly Q (sharedParameters version document).result := by
  unfold sharedParameters
  rw [Traced.result_bind, Traced.result_mapM]
  refine FailsOnly.bind (.mapM fun e he => ?_) fun ps _ => .ok _
  unfold sharedParameter
  simp only [Traced.result_bind, Traced.result_lift]
  refine (h.whole.parameters e he).bind fun ref _ => ?_
  have hpart : Part version document (.name e.1) .parameter e.2 := .parameter he
  refine failsOnly_bind_follow h hpart rfl fun way w hw hd => ?_
  exact (failsOnly_parameter h hw (Or.inr rfl) hd).bind fun p _ => .ok _

theorem failsOnly_arguments (hv : Part version document way role v)
    (hrole : role = .path ∨ role = .operation) (hd : Described role v) :
    FailsOnly Q (arguments version table v).result := by
  have hitems : FailsOnly Q (v.getD "parameters").items := by
    rcases hrole with rfl | rfl
    · exact h.path hv hd
    · exact (h.operation hv).parameters
  unfold arguments
  rw [Traced.result_bind]
  refine hitems.bind fun ws hws => ?_
  rw [Traced.result_mapM]
  refine .mapM fun w hw => ?_
  have hpart := hv.argument hrole hd hws hw
  unfold argument
  split
  · rename_i r hr
    rw [Traced.result_bind]
    exact (h.lookedUp hpart r hr table).bind fun p _ => .ok _
  · rename_i hnone
    rw [Traced.result_bind]
    exact (failsOnly_parameter h hpart (Or.inl rfl) fun _ => hnone).bind fun p _ => .ok _

/-! ## Request bodies -/

omit h in
/-- What is found in the entry of a content stands in that entry. -/
theorem get?_of_mediaOf {content media w : Value} {mediaType key : String}
    (h : mediaOf content mediaType = .ok media) (hw : media.get? key = some w) :
    ∃ es, content = .map es ∧ (.text mediaType, media) ∈ es := by
  obtain ⟨u, hu, hmedia⟩ := bind_eq_ok_iff.1 h
  obtain ⟨es, rfl, hm⟩ := Value.mem_of_get? (Value.taken_eq_ok_iff.1 hu)
  have hmedia := Except.ok.inj hmedia
  split at hmedia
  · rw [← hmedia]
    exact ⟨es, rfl, hm⟩
  · rw [← hmedia] at hw
    cases hw

omit h in
theorem failsOnly_firstJson {mediaTypes : List Value}
    (h : ∀ m ∈ mediaTypes, FailsOnly Q (countsAsJson settings m)) :
    FailsOnly Q (firstJson settings mediaTypes) := by
  induction mediaTypes with
  | nil => exact .ok _
  | cons m ms ih =>
    obtain ⟨hm, hrest⟩ := List.forall_mem_cons.1 h
    unfold firstJson
    refine hm.bind fun b _ => ?_
    split
    · exact .ok _
    · exact ih hrest

omit h in
theorem failsOnly_pick {mediaTypes : List Value}
    (h : ∀ m ∈ mediaTypes, FailsOnly Q (countsAsJson settings m)) :
    FailsOnly Q (pick settings mediaTypes) := by
  unfold pick
  split
  · exact .ok _
  · exact failsOnly_firstJson h

omit h in
theorem failsOnly_canSend {mediaTypes : List Value}
    (h : ∀ m ∈ mediaTypes, FailsOnly Q (countsAsJson settings m)) :
    FailsOnly Q (canSend settings mediaTypes) := by
  unfold canSend
  split
  · exact .ok _
  · exact (failsOnly_pick h).map

theorem failsOnly_keyedBody (hversion : version = .openApi3)
    (hv : Part version document way .operation v) :
    FailsOnly Q (keyedBody settings document v).result := by
  unfold keyedBody
  dsimp only
  split
  · exact .ok _
  rename_i hnull
  have hne : v.getD "requestBody" ≠ .null := fun hn => hnull (Value.isNull_iff.2 hn)
  have hraw : Part version document .keyword .body (v.getD "requestBody") :=
    hv.single nofun (by rw [hversion]; decide) (Value.get?_of_getD rfl hne)
  simp only [Traced.result_bind, Traced.result_lift]
  refine failsOnly_bind_follow h hraw rfl fun way b hbody hd => ?_
  have hsteps : BodySteps Q settings b := h.body hbody hd
  refine hsteps.content.bind fun content hcontent => ?_
  obtain rfl := Value.eq_getD_of_under hcontent
  refine hsteps.mediaTypes.bind fun mediaTypes hitems => ?_
  refine (failsOnly_pick (hsteps.counted _ hitems)).bind fun picked hpicked => ?_
  split
  · simp only [Traced.result_bind, Traced.result_lift]
    have htext : FailsOnly Q (contentText mediaTypes) :=
      (hsteps.noted _ hitems).bind fun _ _ => .ok _
    exact htext.bind fun _ _ => .ok _
  · have hm := pick_mem hpicked
    simp only [Traced.result_bind, Traced.result_lift]
    refine (hsteps.media _ _ hitems hm).bind fun media hmedia => ?_
    refine (hsteps.schema _ _ media hitems hm hmedia).bind fun schema? hschema => ?_
    split
    · have hget := Value.get?_of_optional hschema
      obtain ⟨es, hes, hmem⟩ := get?_of_mediaOf hmedia hget
      have hentry : Part version document (.name _) .media media :=
        hbody.named hd (by rw [hversion]; decide) hes hmem
      have hpart : Part version document .keyword .schema _ :=
        hentry.single nofun (by rw [hversion]; decide) hget
      simp only [Traced.result_bind, Traced.result_lift]
      refine (failsOnly_schema h hpart).bind fun type _ => ?_
      exact FailsOnly.bind hsteps.description fun _ _ => .ok _
    · simp only [Traced.result_bind, Traced.result_lift]
      refine FailsOnly.bind (.ok _) fun type _ => ?_
      exact FailsOnly.bind hsteps.description fun _ _ => .ok _

theorem failsOnly_requestBody {as : List Argument} (hv : Part version document way .operation v) :
    FailsOnly Q (requestBody settings version document v as).result := by
  have hsteps := h.operation hv
  unfold requestBody
  split
  · unfold lastBody
    split
    · exact .ok _
    · simp only [Traced.result_bind, Traced.result_lift]
      refine (hsteps.consumes rfl).bind fun mediaTypes hitems => ?_
      refine (failsOnly_canSend (hsteps.counted rfl _ hitems)).bind fun can _ => ?_
      split
      · exact .ok _
      · simp only [Traced.result_bind, Traced.result_lift]
        exact (hsteps.noted rfl _ hitems).bind fun _ _ => .ok _
  · exact failsOnly_keyedBody h rfl hv

/-! ## Responses -/

theorem failsOnly_headerType (hv : Part version document way .header v) (hd : Described .header v) :
    FailsOnly Q (headerType version v).result := by
  have hsteps := h.header hv hd
  unfold headerType
  split
  · exact failsOnly_inlineType h (hsteps.inline rfl) fun w hw => ⟨_, hv.single hd (by decide) hw⟩
  · rw [Traced.result_bind]
    refine (hsteps.schema rfl).bind fun schema? hschema => ?_
    split
    · have hget := Value.get?_of_optional hschema
      exact failsOnly_schema h (hv.single hd (by decide) hget)
    · exact .ok _

theorem failsOnly_headers (hv : Part version document way .response v)
    (hd : Described .response v) : FailsOnly Q (headers version document v).result := by
  have hsteps := h.response hv hd
  unfold headers
  rw [Traced.result_bind]
  refine hsteps.headers.bind fun es hes => ?_
  rw [Traced.result_mapM]
  refine .mapM fun e he => ?_
  have hpart : Part version document (.name e.1) .header e.2 :=
    hv.ofEntries hd (by cases version <;> decide) hes he
  unfold header
  simp only [Traced.result_bind, Traced.result_lift]
  refine failsOnly_bind_follow h hpart rfl fun way w hheader hd => ?_
  refine (failsOnly_headerType h hheader hd).bind fun type _ => ?_
  exact (hsteps.header es hes e he).bind fun _ _ => .ok _

theorem failsOnly_bodies {operation : Value} (hv : Part version document way .response v)
    (hd : Described .response v)
    (hoperation : OperationSteps Q settings version document operation) :
    FailsOnly Q (bodies version document operation v).result := by
  have hsteps := h.response hv hd
  unfold bodies
  split
  · split
    · exact .ok _
    · rename_i schema hget
      simp only [Traced.result_bind, Traced.result_lift, Traced.result_mapM]
      refine (failsOnly_schema h (hv.single hd (by decide) hget)).bind fun type _ => ?_
      refine (hoperation.produces rfl).bind fun mediaTypes hitems => ?_
      exact .mapM fun m hm => hoperation.body rfl mediaTypes hitems m hm type
  · simp only [Traced.result_bind, Traced.result_lift, Traced.result_mapM]
    refine (hsteps.content rfl).bind fun es hes => .mapM fun e he => ?_
    have hentry : Part .openApi3 document (.name e.1) .media e.2 :=
      hv.ofEntries hd (by decide) hes he
    unfold contentBody
    dsimp only
    split
    · rename_i schema hget
      have hpart : Part .openApi3 document .keyword .schema schema :=
        hentry.single nofun (by decide) hget
      rw [Traced.result_bind]
      exact (failsOnly_schema h hpart).bind fun type _ => hsteps.body rfl es hes e he type
    · exact hsteps.body rfl es hes e he _

theorem failsOnly_responses (hv : Part version document way .operation v) :
    FailsOnly Q (responses version document v).result := by
  have hsteps := h.operation hv
  unfold responses
  simp only [Traced.result_bind, Traced.result_lift, Traced.result_mapM]
  refine hsteps.responses.bind fun es hes => ?_
  refine FailsOnly.bind (.mapM fun e he => ?_) fun rs _ => .ok _
  have hpart : Part version document (.name e.1) .response e.2 :=
    hv.ofEntries nofun (by cases version <;> decide) hes he
  unfold response?
  rw [Traced.result_bind]
  refine failsOnly_bind_follow h hpart rfl fun way w hresponse hd => ?_
  split
  · exact .ok _
  · simp only [Traced.result_bind, Traced.result_lift]
    refine (hsteps.status es hes e he).bind fun status _ => ?_
    refine (failsOnly_headers h hresponse hd).bind fun hs _ => ?_
    refine (failsOnly_bodies h hresponse hd hsteps).bind fun bs _ => ?_
    exact FailsOnly.bind (h.response hresponse hd).description fun _ _ => .ok _

/-! ## Operations -/

theorem failsOnly_operation {path : Scalar} {method : Method} {ofPath : List Argument}
    (hpath : IsPath document path) (hv : Part version document way .operation v) :
    FailsOnly Q (operation settings version document table path method ofPath v).result := by
  have hsteps := h.operation hv
  unfold operation
  split
  · exact .error (hsteps.id path hpath method)
  · rename_i hid
    simp only [Traced.result_bind, Traced.result_lift]
    refine FailsOnly.bind ?_ fun parameters _ => ?_
    · unfold allParameters
      simp only [Traced.result_bind]
      refine (failsOnly_arguments h hv (Or.inr rfl) nofun).bind fun own _ => ?_
      exact (failsOnly_requestBody h hv).bind fun body _ => .ok _
    · refine (failsOnly_responses h hv).bind fun rs _ => ?_
      refine hsteps.tags.bind fun tags htags => ?_
      have htruthy : (v.getD "operationId").isTruthy = true := by simpa using hid
      exact (hsteps.texts path tags hpath htruthy htags).bind fun _ _ => .ok _

theorem failsOnly_operations :
    FailsOnly Q (operations settings version document table).result := by
  unfold operations
  simp only [Traced.result_bind, Traced.result_lift, Traced.result_mapM]
  refine h.whole.under.bind fun paths hpaths => ?_
  obtain rfl := Value.eq_getD_of_under hpaths
  refine h.whole.paths.bind fun items hitems => ?_
  refine FailsOnly.bind (.mapM fun e he => ?_) fun os _ => .ok _
  have hpart : Part version document (.name e.1) .path e.2 :=
    Part.document.ofEntries nofun List.mem_cons_self hitems he
  unfold itemOperations
  rw [Traced.result_bind]
  refine failsOnly_bind_follow h hpart rfl fun way w hpath hd => ?_
  split
  · simp only [Traced.result_bind, Traced.result_mapM]
    refine (failsOnly_arguments h hpath (Or.inl rfl) hd).bind fun ofPath _ => ?_
    exact .mapM fun m hm =>
      failsOnly_operation h ⟨items, hitems, e, he, rfl⟩ (hpath.ofMethod hd hm)
  · exact .ok _

/-! ## Documents -/

theorem failsOnly_declarations : FailsOnly Q (declarations version document).result := by
  unfold declarations
  simp only [Traced.result_bind, Traced.result_mapM]
  refine FailsOnly.bind (.mapM fun e he => ?_) fun ds _ => .ok _
  unfold declaration
  simp only [Traced.result_bind, Traced.result_lift]
  refine (h.whole.schemas e he).bind fun ref _ => ?_
  refine (failsOnly_schema h (.schema he)).bind fun type _ => ?_
  exact FailsOnly.bind (h.whole.declarations e he) fun _ _ => .ok _

omit h in
/-- Finding out the version of a document fails at getting at the two keys that may name it, at
writing down what stands there, or because it is no version that is known. -/
theorem failsOnly_detect (hswagger : FailsOnly Q (document.optional "swagger"))
    (hopenapi : FailsOnly Q (document.under "openapi"))
    (hsayable : ∀ key, FailsOnly Q (document.getD key).sayable)
    (hunknown : ∀ name, Q (.swaggerVersion name) ∧ Q (.openApiVersion name))
    (hnone : Q .noVersion) : FailsOnly Q (Version.detect document) := by
  refine hswagger.bind fun swagger? hget => ?_
  split
  · have hsay := hsayable "swagger"
    rw [Value.getD_of_get? (Value.get?_of_optional hget)] at hsay
    refine hsay.bind fun v _ => ?_
    dsimp only
    split
    · exact .ok _
    · exact .error (hunknown _).1
  · refine hopenapi.bind fun v hv => ?_
    split
    · exact .error hnone
    · rw [Value.eq_getD_of_under hv]
      refine (hsayable "openapi").bind fun v _ => ?_
      dsimp only
      split
      · exact .ok _
      · exact .error (hunknown _).2

omit h in
/-- A document fails as its version and the check of its references do, or as the steps of reading
its parts. -/
theorem failsOnly_read_of_steps (hdetect : FailsOnly Q (Version.detect document))
    (hcheck : FailsOnly Q (Reference.checkDocument document))
    (h : ∀ version, Version.detect document = .ok version →
      StepsFail Q settings version document) :
    FailsOnly Q (read settings document).result := by
  unfold read
  simp only [Traced.result_bind, Traced.result_lift]
  refine hdetect.bind fun version hversion => hcheck.bind fun _ _ => ?_
  have hsteps := h version hversion
  refine (failsOnly_declarations hsteps).bind fun ds _ => ?_
  refine (failsOnly_sharedParameters hsteps).bind fun table _ => ?_
  exact (failsOnly_operations hsteps).bind fun os _ => .ok _

end ApiModel.Document
