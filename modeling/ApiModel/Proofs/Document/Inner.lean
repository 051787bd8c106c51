import ApiModel.Proofs.Document.Failing

/-!
# How reading a document fails over its references

All steps of reading a document fail in ordinary ways, except where references are followed or have
to name a schema. Reading fails over a reference that leads out of the document only where such a
reference stands in one of its parts. So if the references of all parts are inner, every failure
stays inside: none says that a reference leads out, and none that a reference is malformed which is
not at least inner.

* `stepsFail_of_references`: how the steps fail, given how they fail over references.
* `failsOnly_follow_part`: how following the references of a part fails, if they are inner.
* `failsOnly_read`: how reading a document fails whose parts have inner references.
-/

namespace ApiModel.Document

open Failure (StaysInside IsDeadEnd IsFault IsOrdinary)
open Reference (IsInner follow)

variable {settings : Settings} {version : Version} {document v : Value} {table : Table}
  {way : Way} {role : Role}

/-! ## Steps that know no references -/

theorem failsOnly_locationOf {name : String} : FailsOnly IsOrdinary (locationOf name v) := by
  unfold locationOf
  split
  · exact .ok _
  · exact .error trivial

theorem failsOnly_referenceTo {place : String} {key : Scalar} :
    FailsOnly IsFault (referenceTo place key) := by
  unfold referenceTo
  split
  case h_1 => exact .ok _
  all_goals exact failsOnly_fault _

theorem failsOnly_resolve {ref : Value} : FailsOnly IsOrdinary (resolve table ref) := by
  unfold resolve
  split
  · exact .ok _
  · split
    · exact .error trivial
    · exact .error trivial

theorem failsOnly_countsAsJson : FailsOnly IsFault (countsAsJson settings v) := by
  unfold countsAsJson
  split
  · exact .ok _
  · exact failsOnly_fault _
  · exact failsOnly_fault _

theorem failsOnly_mediaOf {content : Value} {mediaType : String} :
    FailsOnly IsFault (mediaOf content mediaType) :=
  Value.failsOnly_taken.bind fun _ _ => .ok _

theorem failsOnly_statusOf : FailsOnly IsFault (statusOf v) := by
  refine Value.failsOnly_sayable.bind fun s _ => ?_
  dsimp only
  split
  · split
    · exact .ok _
    · exact failsOnly_fault _
  · exact .ok _

theorem failsOnly_body {mediaType : Value} {type : Ty} :
    FailsOnly IsOrdinary (body mediaType type) :=
  failsOnly_checkedAs.bind fun _ _ => .ok _

theorem failsOnly_version : FailsOnly IsOrdinary (Version.detect document) :=
  failsOnly_detect Value.failsOnly_optional.ofFault Value.failsOnly_under.ofFault
    (fun _ => Value.failsOnly_sayable.ofFault) (fun _ => ⟨trivial, trivial⟩) trivial

/-! ## All steps -/

section Ordinary

variable {Q : Failure → Prop} (hQ : ∀ e, IsOrdinary e → Q e)

include hQ

/-- A schema that is mixed with other keys has no reference. -/
theorem inlineSteps_ordinary : InlineSteps Q v where
  type := Value.failsOnly_under.ofFault.imp hQ
  schema _ := Schema.stepsFail_of_nameOf hQ fun _ _ hr =>
    absurd (get?_of_inlineSchema hr).1 (by decide)

/-- The steps of reading a document fail in ordinary ways, at following references, or at naming
what a schema refers to. -/
theorem stepsFail_of_references
    (hfollow : ∀ ⦃way role v⦄, Part version document way role v → role.isFollowed = true →
      FailsOnly Q (follow document v))
    (hname : ∀ ⦃way v⦄, Part version document way .schema v → ∀ container, ∀ r,
      v.get? "$ref" = some r → FailsOnly Q (Reference.nameOf container r)) :
    StepsFail Q settings version document where
  followed := hfollow
  lookedUp _ _ _ _ _ _ := failsOnly_resolve.imp hQ
  whole :=
    { under := Value.failsOnly_under.ofFault.imp hQ
      paths := Value.failsOnly_entries.ofFault.imp hQ
      schemas := fun _ _ => failsOnly_referenceTo.ofFault.imp hQ
      declarations := fun _ _ => failsOnly_checkedAs.imp hQ
      parameters := fun _ _ => failsOnly_referenceTo.ofFault.imp hQ }
  path _ _ _ _ := Value.failsOnly_items.ofFault.imp hQ
  operation _ _ _ :=
    { id := fun _ _ _ => hQ _ trivial
      parameters := Value.failsOnly_items.ofFault.imp hQ
      consumes := fun _ => Value.failsOnly_items.ofFault.imp hQ
      counted := fun _ _ _ _ _ => failsOnly_countsAsJson.ofFault.imp hQ
      noted := fun _ _ _ => Value.failsOnly_joined.ofFault.imp hQ
      responses := Value.failsOnly_entries.ofFault.imp hQ
      status := fun _ _ _ _ => failsOnly_statusOf.ofFault.imp hQ
      produces := fun _ => Value.failsOnly_items.ofFault.imp hQ
      body := fun _ _ _ _ _ _ => failsOnly_body.imp hQ
      tags := Value.failsOnly_items.ofFault.imp hQ
      texts := fun _ _ _ _ _ => failsOnly_checkedAs.imp hQ }
  parameter _ _ _ _ _ _ :=
    { name := fun _ => hQ _ trivial
      location := fun _ => failsOnly_locationOf.imp hQ
      content := fun _ _ => Value.failsOnly_entries.ofFault.imp hQ
      inline := fun _ _ _ => inlineSteps_ordinary hQ
      description := fun _ => failsOnly_checkedAs.imp hQ }
  body _ _ _ _ :=
    { content := Value.failsOnly_under.ofFault.imp hQ
      mediaTypes := Value.failsOnly_items.ofFault.imp hQ
      counted := fun _ _ _ _ => failsOnly_countsAsJson.ofFault.imp hQ
      noted := fun _ _ => Value.failsOnly_joined.ofFault.imp hQ
      media := fun _ _ _ _ => failsOnly_mediaOf.ofFault.imp hQ
      schema := fun _ _ _ _ _ _ => Value.failsOnly_optional.ofFault.imp hQ
      description := failsOnly_checkedAs.imp hQ }
  response _ _ _ _ :=
    { headers := Value.failsOnly_entries.ofFault.imp hQ
      header := fun _ _ _ _ => failsOnly_checkedAs.imp hQ
      content := fun _ => Value.failsOnly_entries.ofFault.imp hQ
      body := fun _ _ _ _ _ _ => failsOnly_body.imp hQ
      description := failsOnly_checkedAs.imp hQ }
  header _ _ _ _ :=
    { schema := fun _ => Value.failsOnly_optional.ofFault.imp hQ
      inline := fun _ => inlineSteps_ordinary hQ }
  schema _ _ hv := Schema.stepsFail_of_nameOf hQ (hname hv)
  shapeless := hQ _ trivial

end Ordinary

/-! ## Parts with inner references -/

/-- The references of all parts of a document are inner. -/
def InnerParts (version : Version) (document : Value) : Prop :=
  ∀ ⦃way role v⦄, Part version document way role v → ∀ r, v.get? "$ref" = some r → IsInner r

theorem failsOnly_follow_part (hin : InnerParts version document)
    (hv : Part version document way role v) (hrole : role.isFollowed = true) :
    FailsOnly IsDeadEnd (follow document v) := by
  refine Reference.failsOnly_follow (P := fun v => ∃ way, Part version document way role v)
    (fun v hv r hr => ?_) ⟨way, hv⟩
  obtain ⟨way, hv⟩ := hv
  refine ⟨hin hv r hr, ?_⟩
  rintro s w rfl hf
  exact ⟨_, hv.target hrole hr hf⟩

/-! ## Documents -/

/-- A document whose parts have inner references fails inside, once the check of its references has
passed. -/
theorem failsOnly_read (hcheck : Reference.checkDocument document = .ok ())
    (hin : ∀ version, Version.detect document = .ok version → InnerParts version document) :
    FailsOnly StaysInside (read settings document).result := by
  have hordinary : ∀ e, IsOrdinary e → StaysInside e := fun _ => IsOrdinary.staysInside
  have hpassed : FailsOnly StaysInside (Reference.checkDocument document) := by
    rw [hcheck]
    exact .ok ()
  refine failsOnly_read_of_steps (failsOnly_version.imp hordinary) hpassed
    fun version hversion => ?_
  have hinner := hin version hversion
  refine stepsFail_of_references hordinary (fun way role v hv hrole => ?_)
    fun way v hv _ r hr => Schema.failsOnly_nameOf (hinner hv r hr)
  exact (failsOnly_follow_part hinner hv hrole).imp fun e h => h.isOrdinary.staysInside

end ApiModel.Document
