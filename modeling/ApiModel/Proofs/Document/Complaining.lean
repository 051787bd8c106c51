import ApiModel.Proofs.Document.Failing
import ApiModel.Proofs.Document.Fitting
import ApiModel.Proofs.Text.Integer

/-!
# How reading a document that fits fails

In a document all of whose parts fit, reading runs into no fault and into no value that lacks its
declared form: whatever is wrong is complained of. The steps of reading a part that fits are taken
one kind of part after the other.

* `parameterSteps_of_fits`, `operationSteps_of_fits`: the steps of reading parts that fit.
* `stepsFail_of_fitting`: the steps of reading a document all of whose parts fit.
* `complains_read`: how the document fails.
-/

namespace ApiModel.Document

open Failure (IsComplaint)
open Reference (follow)

variable {settings : Settings} {version : Version} {document v : Value} {table : Table}
  {way : Way} {role : Role}

/-! ## Texts -/

theorem complains_description {form : Form} (h : (v.getD "description").IsTextualOrNull) :
    DescriptionFails IsComplaint form v := by
  obtain ⟨s, hs⟩ := h.checkTextOrNull
  exact failsOnly_checkedAs_ok ⟨s, Checked.within_eq_ok_iff.2 hs⟩

theorem complains_referenceTo {place : String} {key : Scalar} (h : ∃ name, key = .text name) :
    FailsOnly IsComplaint (referenceTo place key) := by
  obtain ⟨name, rfl⟩ := h
  exact .ok _

theorem complains_locationOf {name : String} (h : v.isSayable = true) :
    FailsOnly IsComplaint (locationOf name v) := by
  unfold locationOf
  split
  · exact .ok _
  · exact .error h

theorem complains_body {mediaType : Value} {type : Ty} (h : mediaType.IsTextual) :
    FailsOnly IsComplaint (body mediaType type) := by
  obtain ⟨name, hname⟩ := h.checkText
  exact (failsOnly_checkedAs_ok ⟨name, Checked.within_eq_ok_iff.2 hname⟩).bind fun _ _ => .ok _

/-- A status is a text, or a run of digits that is not too long for a number. -/
theorem complains_statusOf (hv : v.isSayable = true)
    (hdigits : isDigits v.said = true → v.said.toList.length ≤ Text.maxDigits) :
    FailsOnly IsComplaint (statusOf v) := by
  refine FailsOnly.bind_ok (Value.sayable_of_isSayable hv) ?_
  dsimp only
  split
  · rename_i hrun
    obtain ⟨hne, hall⟩ := Bool.and_eq_true_iff.1 hrun
    have hcs : v.said.toList ≠ [] := fun hnil =>
      of_decide_eq_true hne (String.toList_eq_nil_iff.1 hnil)
    have hsome := Text.isSome_readInteger?_of_digits hcs (List.all_eq_true.1 hall) (hdigits hrun)
    split
    · exact .ok _
    · rename_i hnone
      rw [hnone] at hsome
      cases hsome
  · exact .ok _

/-- The texts of an operation that fits and has an identifier are in order. -/
theorem complains_checkTexts {path : Scalar} {tags : List Value}
    (hpath : (Value.scalar path).IsTextual) (hfits : FitsOperation version document v)
    (hid : (v.getD "operationId").isTruthy = true) (htags : ∀ t ∈ tags, t.IsTextual) :
    FailsOnly IsComplaint (Value.checkedAs .operation (checkTexts path v tags)) := by
  obtain ⟨id, hid⟩ := (hfits.id hid).checkText
  obtain ⟨path, hpath⟩ := hpath.checkText
  obtain ⟨description, hdescription⟩ := hfits.description.checkTextOrNull
  obtain ⟨summary, hsummary⟩ := hfits.summary.checkTextOrNull
  obtain ⟨ss, hss⟩ := Value.exists_checkTexts htags
  refine failsOnly_checkedAs_ok ⟨(((id, path), (description, summary)), ss), ?_⟩
  simp only [checkTexts, Checked.both_eq_ok_iff, Checked.within_eq_ok_iff, Checked.all_eq_ok_iff]
  exact ⟨⟨⟨hid, hpath⟩, hdescription, hsummary⟩, hss⟩

/-! ## Collections -/

theorem complains_items {P : Value → Prop} (h : v.Lists P) : FailsOnly IsComplaint v.items := by
  obtain ⟨ws, hws, -⟩ := h.items
  rw [hws]
  exact .ok _

theorem complains_entries {P : Scalar → Value → Prop} (h : v.Maps P) :
    FailsOnly IsComplaint v.entries := by
  obtain ⟨es, hes, -⟩ := h.entries
  rw [hes]
  exact .ok _

theorem complains_under {key : String} (h : v.isMap = true) :
    FailsOnly IsComplaint (v.under key) := by
  rw [Value.under_of_isMap h]
  exact .ok _

theorem complains_optional {key : String} (h : v.isMap = true) :
    FailsOnly IsComplaint (v.optional key) := by
  rw [Value.optional_of_isMap h]
  exact .ok _

theorem complains_countsAsJson (h : ∃ s, v = .text s) :
    FailsOnly IsComplaint (countsAsJson settings v) := by
  obtain ⟨s, rfl⟩ := h
  exact .ok _

theorem complains_joined {sep : String} {vs : List Value} (h : ∀ v ∈ vs, ∃ s, v = .text s) :
    FailsOnly IsComplaint (Value.joined sep vs) := by
  have htexts : ∃ ss, vs.mapM Value.text? = some ss := by
    induction vs with
    | nil => exact ⟨[], rfl⟩
    | cons v vs ih =>
      obtain ⟨⟨s, rfl⟩, hrest⟩ := List.forall_mem_cons.1 h
      obtain ⟨ss, hss⟩ := ih hrest
      exact ⟨s :: ss, by rw [List.mapM_cons, hss]; rfl⟩
  obtain ⟨ss, hss⟩ := htexts
  rw [Value.joined, hss]
  exact .ok _

/-- The entry of a content whose key is listed among its media types. -/
theorem exists_mediaOf {content : Value} {mediaTypes : List Value} {mediaType : String}
    (h : content.Maps fun _ media => media.isTruthy = true → media.isMap = true)
    (hitems : content.items = .ok mediaTypes) (hm : .text mediaType ∈ mediaTypes) :
    ∃ media, mediaOf content mediaType = .ok media ∧ media.isMap = true := by
  rcases h with hfalse | ⟨es, rfl, hall⟩
  · rw [Value.items, hfalse] at hitems
    obtain rfl := Except.ok.inj hitems
    cases hm
  · obtain rfl := Option.some.inj (Value.elements?_of_items hitems hm)
    obtain ⟨e, he, hkey⟩ := List.mem_map.1 hm
    have hfound : (Value.map es).get? mediaType ≠ none := by
      intro hnone
      have hne := List.lookup_eq_none_iff.1 hnone e he
      rw [Value.scalar.inj hkey, bne_self_eq_false] at hne
      cases hne
    obtain ⟨media, hmedia⟩ := Option.ne_none_iff_exists'.1 hfound
    obtain ⟨es', hes', hmem⟩ := Value.mem_of_get? hmedia
    obtain rfl := Value.map.inj hes'
    have htaken : mediaOf (.map es) mediaType = .ok (if media.isTruthy then media else .map []) :=
      bind_eq_ok_iff.2 ⟨media, Value.taken_eq_ok_iff.2 hmedia, rfl⟩
    refine ⟨_, htaken, ?_⟩
    split
    · exact hall _ hmem ‹_›
    · rfl

/-! ## Schemas that are mixed with other keys -/

theorem isSayable_inlineSchema (h : v.isSayable = true) : (inlineSchema v).isSayable = true := by
  unfold inlineSchema Value.record
  refine Value.isSayable_map_iff.2 fun e he => ?_
  obtain ⟨⟨key, w⟩, hpicked, rfl⟩ := List.mem_map.1 he
  obtain ⟨k, -, hget⟩ := List.mem_filterMap.1 hpicked
  obtain ⟨u, hu, hentry⟩ := Option.map_eq_some_iff.1 hget
  cases hentry
  exact ⟨rfl, Value.isInherited_sayable.get? h hu⟩

/-- A schema that is mixed with other keys holds no other schemas but that of its items, so nothing
is asked of it but that its enumeration can be gone through. -/
theorem fits_inlineSchema (h : FitsInline v) (htype : v.getD "type" ≠ .null) :
    Schema.Fits (inlineSchema v) where
  plain := rfl
  format huntyped := by
    have hnull := (Schema.isUntyped_iff.1 huntyped).2
    rw [getD_inlineSchema_of_mem (by decide)] at hnull
    exact absurd hnull htype
  enum hstring := by
    have htext := (Schema.hasType_iff.1 hstring).2
    rw [getD_inlineSchema_of_mem (by decide)] at htext
    rw [getD_inlineSchema_of_mem (by decide)]
    exact h htext
  properties _ := Or.inl (by rw [getD_inlineSchema (by decide)]; rfl)
  required _ htruthy := by
    rw [getD_inlineSchema (by decide)] at htruthy
    cases htruthy
  branches hcomposition := by
    have hpresent := (Schema.isComposition_iff.1 hcomposition).2.2
    rw [Schema.present, getD_inlineSchema (by decide)] at hpresent
    cases hpresent

theorem inlineSteps_of_fits (hmap : v.isMap = true) (hv : v.isSayable = true)
    (h : FitsInline v) : InlineSteps IsComplaint v where
  type := complains_under hmap
  schema htype := Schema.stepsFail_of_fits (isSayable_inlineSchema hv) (fits_inlineSchema h htype)

/-! ## Parts that fit -/

theorem parameterSteps_of_fits (hv : v.isSayable = true) (h : FitsParameter version v) :
    ParameterSteps IsComplaint version v where
  name _ := hv
  location _ := complains_locationOf (Value.isSayable_getD hv)
  content hversion hschema := complains_entries (h.content hversion hschema)
  inline hversion hmap hbody := inlineSteps_of_fits hmap hv (h.inline hversion hbody)
  description _ := complains_description h.description

theorem bodySteps_of_fits (h : FitsBody v) : BodySteps IsComplaint settings v := by
  have hlists : (v.getD "content").Lists fun m => ∃ s, m = .text s :=
    h.content.lists fun key _ hkey => hkey.1.imp fun _ hs => congrArg Value.scalar hs
  have hmaps : (v.getD "content").Maps fun _ media => media.isTruthy = true → media.isMap = true :=
    h.content.imp fun _ _ hkey => hkey.2
  constructor
  case content => exact complains_under h.isMap
  case mediaTypes => exact complains_items hlists
  case counted => exact fun ms hms m hm => complains_countsAsJson (hlists.of_items hms m hm)
  case noted => exact fun ms hms => complains_joined (hlists.of_items hms)
  case media =>
    intro ms m hms hm
    obtain ⟨media, hmedia, -⟩ := exists_mediaOf hmaps hms hm
    rw [hmedia]
    exact .ok _
  case schema =>
    intro ms m media hms hm hmedia
    obtain ⟨media', hmedia', hmap⟩ := exists_mediaOf hmaps hms hm
    cases hmedia.symm.trans hmedia'
    exact complains_optional hmap
  case description => exact complains_description h.description

theorem headerSteps_of_fits (hv : v.isSayable = true) (h : FitsHeader version v) :
    HeaderSteps IsComplaint version v where
  schema _ := complains_optional h.isMap
  inline hversion := inlineSteps_of_fits h.isMap hv (h.inline hversion)

theorem responseSteps_of_fits (h : FitsResponse version v) :
    ResponseSteps IsComplaint version v where
  headers := complains_entries h.headers
  header es hes e he := by
    obtain ⟨name, hname⟩ := (h.headers.of_entries hes e he).checkText
    exact failsOnly_checkedAs_ok ⟨name, Checked.within_eq_ok_iff.2 hname⟩
  content hversion := complains_entries (h.content hversion)
  body hversion es hes e he _ := complains_body ((h.content hversion).of_entries hes e he)
  description := complains_description h.description

theorem operationSteps_of_fits (hdocument : FitsDocument version document)
    (hv : v.isSayable = true) (h : FitsOperation version document v) :
    OperationSteps IsComplaint settings version document v := by
  have hpaths : ∀ path, IsPath document path → (Value.scalar path).IsTextual := by
    rintro path ⟨es, hes, e, he, rfl⟩
    exact hdocument.paths.of_entries hes e he
  constructor
  case id => exact fun path hpath _ => (hpaths path hpath).isSayable
  case parameters => exact complains_items h.parameters
  case consumes => exact fun hversion => complains_items (h.consumes hversion)
  case counted =>
    exact fun hversion ms hms m hm =>
      complains_countsAsJson ((h.consumes hversion).of_items hms m hm)
  case noted => exact fun hversion ms hms => complains_joined ((h.consumes hversion).of_items hms)
  case responses => exact complains_entries h.responses
  case status =>
    intro es hes e he
    have hmap : (v.getD "responses").isSayable = true := Value.isSayable_getD hv
    rw [Value.eq_map_of_entries hes he] at hmap
    exact complains_statusOf (Value.isSayable_map_iff.1 hmap e he).1
      (h.responses.of_entries hes e he)
  case produces => exact fun hversion => complains_items (h.produces hversion)
  case body =>
    exact fun hversion ms hms m hm _ => complains_body ((h.produces hversion).of_items hms m hm)
  case tags => exact complains_items h.tags
  case texts =>
    exact fun path tags hpath hid htags =>
      complains_checkTexts (hpaths path hpath) h hid (h.tags.of_items htags)

theorem documentSteps_of_fits (h : FitsDocument version document) :
    DocumentSteps IsComplaint version document where
  under := complains_under h.isMap
  paths := complains_entries h.paths
  schemas e he := complains_referenceTo (h.schemas e he).1
  declarations e he := complains_description (h.schemas e he).2
  parameters e he := complains_referenceTo (h.parameters e he)

/-! ## Documents -/

section Fitting

variable (hsayable : document.isSayable = true) (hfit : Fitting version document)

include hfit

theorem complains_follow (hv : Part version document way role v) (hrole : role.isFollowed = true) :
    FailsOnly IsComplaint (follow document v) := by
  refine Reference.failsOnly_follow_of_find (P := fun v => ∃ way, Part version document way role v)
    (fun _ => trivial) (fun v hv s hr => ?_) (fun v hv r hr hne => ?_) ⟨way, hv⟩
  · obtain ⟨way, hv⟩ := hv
    exact ⟨Reference.complains_find, fun w hw => ⟨_, hv.target hrole hr hw⟩⟩
  · obtain ⟨way, hv⟩ := hv
    obtain ⟨s, rfl⟩ := hfit.followed hv hrole r hr
    exact absurd rfl (hne s)

include hsayable

/-- A parameter that is not in the table is complained of, if it can be looked up. -/
theorem complains_resolve {r : Value} (hv : Part version document way .argument v)
    (hr : v.get? "$ref" = some r) : FailsOnly IsComplaint (resolve table r) := by
  unfold resolve
  split
  · exact .ok _
  · rw [if_pos (hfit.lookedUp hv r hr)]
    exact .error (Value.isInherited_sayable.get? (sayable_of_part hsayable hv) hr)

/-- Whatever is wrong with a part of a document that has a written form and all of whose parts fit
is complained of. -/
theorem stepsFail_of_fitting : StepsFail IsComplaint settings version document where
  followed _ _ _ hv hrole := complains_follow hfit hv hrole
  lookedUp _ _ hv _ hr _ := complains_resolve hsayable hfit hv hr
  whole := documentSteps_of_fits (hfit.fits .document nofun)
  path _ _ hv hd := complains_items (hfit.fits hv hd)
  operation _ _ hv :=
    operationSteps_of_fits (hfit.fits .document nofun) (sayable_of_part hsayable hv)
      (hfit.fits hv nofun)
  parameter _ role v hv hrole hd := by
    have hfits : FitsParameter version v := by
      rcases hrole with rfl | rfl
      · exact hfit.fits hv hd
      · exact hfit.fits hv hd
    exact parameterSteps_of_fits (sayable_of_part hsayable hv) hfits
  body _ _ hv hd := bodySteps_of_fits (hfit.fits hv hd)
  response _ _ hv hd := responseSteps_of_fits (hfit.fits hv hd)
  header _ _ hv hd := headerSteps_of_fits (sayable_of_part hsayable hv) (hfit.fits hv hd)
  schema _ _ hv := Schema.stepsFail_of_fits (sayable_of_part hsayable hv) (hfit.schema hv)
  shapeless := rfl

end Fitting

/-- Whatever is wrong with a document that has a written form and all of whose parts fit is
complained of. -/
theorem complains_read (hmap : document.isMap = true) (hsayable : document.isSayable = true)
    (hfit : ∀ version, Version.detect document = .ok version → Fitting version document) :
    FailsOnly IsComplaint (read settings document).result := by
  have hsay : ∀ key, FailsOnly IsComplaint (document.getD key).sayable := by
    intro key
    rw [Value.sayable_of_isSayable (Value.isSayable_getD hsayable)]
    exact .ok _
  have hdetect : FailsOnly IsComplaint (Version.detect document) :=
    failsOnly_detect (complains_optional hmap) (complains_under hmap) hsay
      (fun _ => ⟨trivial, trivial⟩) trivial
  have hcheck : FailsOnly IsComplaint (Reference.checkDocument document) :=
    Reference.complains_checkInside false hsayable
  exact failsOnly_read_of_steps hdetect hcheck fun version hversion =>
    stepsFail_of_fitting hsayable (hfit version hversion)

end ApiModel.Document
