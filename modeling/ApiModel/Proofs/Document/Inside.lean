import ApiModel.Proofs.Document.Inner
import ApiModel.Proofs.Document.Operations

/-!
# References that are checked are those that are read

Before a document is read, the references in it are checked. The check goes over the whole document
and knows a few keys: what stands under `example` and `examples` is data, and what stands under
`properties` has names for keys. Reading goes by parts and knows no such keys, so a part that is
named like one of them, or that a reference reaches through them, may have a reference that was not
checked. In a document without such parts everything that is read has been checked.

* `passes_of_part`: every part of such a document passes the check.
* `references_inside`: no reference that is read from it leads out, and no failure is over one that
  does.
-/

namespace ApiModel.Document

open Failure (StaysInside IsDeadEnd)
open Reference (IsInner Passes below markedKeys isOpen follow find Layout)

variable {version : Version} {document v : Value}

/-! ## Plain documents -/

/-- The check goes the way by which a part is reached. -/
def Way.IsPlain : Way → Prop
  | .keyword => True
  | .name key => ∀ k ∈ markedKeys, key ≠ .text k
  | .reference ref => isOpen ref = true

/-- The check of references and the reading of a document go the same ways. -/
structure Plain (version : Version) (document : Value) : Prop where
  /-- No name of a part is a key that the check knows, and no reference leads through one. -/
  ways : ∀ way role v, Part version document way role v → way.IsPlain
  /-- No list in a part is a pair, into which the check does not go. -/
  noPairs : ∀ way role v, Part version document way role v →
    ∀ key a b, v.get? key ≠ some (.pair a b)

/-! ## Parts pass -/

theorem passes_of_mem_entriesAt {place : List String} {e : Scalar × Value} (h : Passes false v)
    (hplace : ∀ key ∈ place, below false (.text key) = some false)
    (hplain : (Way.name e.1).IsPlain) (he : e ∈ entriesAt v place) : Passes false e.2 := by
  induction place generalizing v with
  | nil =>
    unfold entriesAt at he
    split at he
    · exact h.entry he (Reference.below_of_not_marked hplain)
    · cases he
  | cons key place ih =>
    obtain ⟨hkey, hplace⟩ := List.forall_mem_cons.1 hplace
    exact ih (h.getD hkey) hplace he

theorem below_of_layout (version : Version) {place : String}
    (h : place ∈ [(Layout.of version).schemas, (Layout.of version).parameters]) :
    ∀ key ∈ Text.cut '/' place, below false (.text key) = some false := by
  revert place
  cases version <;> decide

theorem below_of_keyword {role role' : Role} {keyword : String}
    (h : (keyword, role') ∈ role.named version ++ role.single version) :
    below false (.text keyword) = some false := by
  have hall : ∀ e ∈ role.named version ++ role.single version,
      below false (.text e.1) = some false := by
    cases version <;> cases role <;> decide
  exact hall _ h

theorem below_of_method (m : Method) : below false (.text m.word) = some false := by
  cases m <;> decide

/-- Every part of a plain document that was checked passes. -/
theorem passes_of_part (hcheck : Passes false document) (hplain : Plain version document)
    {way : Way} {role : Role} (h : Part version document way role v) : Passes false v := by
  induction h with
  | document => exact hcheck
  | parameter h =>
    exact passes_of_mem_entriesAt hcheck (below_of_layout version (by simp))
      (hplain.ways _ _ _ (.parameter h)) h
  | schema h =>
    exact passes_of_mem_entriesAt hcheck (below_of_layout version (by simp))
      (hplain.ways _ _ _ (.schema h)) h
  | target hv hrole href hf ih =>
    exact hcheck.find (hplain.ways _ _ _ (hv.target hrole href hf)) hf
  | operation hv hd he hm ih =>
    rw [(methodOf?_eq_some_iff.1 hm).1] at he
    exact ih.entry he (below_of_method _)
  | argument hv hrole hd hws hw ih =>
    rcases Value.mem_elements_cases (Value.elements?_of_items hws hw) hw with
      hlist | ⟨a, b, hpair, -⟩ | ⟨k, rfl⟩
    · have hparameters : Passes false (Value.getD _ "parameters") := ih.getD (by decide)
      rw [hlist] at hparameters
      exact Reference.passes_list_iff.1 hparameters _ hw
    · exact absurd (Value.get?_of_getD hpair nofun) (hplain.noPairs _ _ _ hv _ a b)
    · rfl
  | named hv hd hkeyword hes hm ih =>
    have hway := hplain.ways _ _ _ (hv.named hd hkeyword hes hm)
    have hmap := ih.getD (below_of_keyword (List.mem_append_left _ hkeyword))
    rw [hes] at hmap
    exact hmap.entry hm (Reference.below_of_not_marked hway)
  | single hv hd hkeyword hw ih =>
    exact ih.get? hw (below_of_keyword (List.mem_append_right _ hkeyword))
  | inside hs hc ih => exact ih.child (hplain.noPairs _ _ _ hs "allOf") hc

/-! ## Reading -/

/-- **What is read has been checked.** In a plain document whose references were checked, every
reference that is read is a text that starts with `#/`. Following one gives a value or comes to a
dead end, and looking one up in the table gives a parameter or does not. However the reading of the
document fails, it does not say of a reference that it leads out, and calls none malformed that does
not at least start with `#/`. -/
theorem references_inside (hcheck : Reference.checkDocument document = .ok ())
    (hplain : ∀ version, Version.detect document = .ok version → Plain version document) :
    (∀ version, Version.detect document = .ok version →
      (∀ way role v, Part version document way role v →
        ∀ ref, v.get? "$ref" = some ref → IsInner ref) ∧
      (∀ way role v, Part version document way role v → role.isFollowed = true →
        ∀ e, follow document v = .error e → e.IsDeadEnd) ∧
      ∀ way v, Part version document way .argument v → ∀ ref, v.get? "$ref" = some ref →
        ∀ table e, resolve table ref = .error e → e = .unresolvedParameter ref) ∧
    ∀ settings e, (read settings document).result = .error e → e.StaysInside := by
  have hin : ∀ version, Version.detect document = .ok version → InnerParts version document :=
    fun version hversion way role v hv ref href =>
      (passes_of_part hcheck (hplain version hversion) hv).isInner href
  refine ⟨fun version hversion => ⟨hin version hversion, fun way role v hv hrole => ?_,
    fun way v hv ref href table e he => ?_⟩, fun settings => failsOnly_read hcheck hin⟩
  · exact failsOnly_follow_part (hin version hversion) hv hrole
  · obtain ⟨s, rfl, -⟩ := hin version hversion hv ref href
    unfold resolve at he
    split at he
    · cases he
    · exact (Except.error.inj he).symm

/-- The description of a shared parameter. -/
def perch : Value := .record [("name", .text "perch"), ("in", .text "query")]

/-- Another name of that parameter. -/
def roost : Value := .record [("$ref", .text "#/components/parameters/perch")]

/-- A reference to a place where the version has no schemas. -/
def stray : Value := .record [("$ref", .text "#/definitions/hawk")]

/-- A document with a shared parameter under two names, and a schema that is a stray reference. -/
def mews : Value :=
  .record [("openapi", .text "3.0.0"), ("paths", .map []),
    ("components", .record [("parameters", .record [("roost", roost), ("perch", perch)]),
      ("schemas", .record [("hawk", stray)])])]

/-- The parts of that document that are read as each role. -/
def mewsParts : Role → List Value
  | .document => [mews]
  | .parameter => [roost, perch]
  | .schema => [stray]
  | _ => []

theorem mem_mewsParts_of_part {way : Way} {role : Role} {v : Value}
    (h : Part .openApi3 mews way role v) : v ∈ mewsParts role ∧ way.IsPlain := by
  induction h with
  | document => exact ⟨List.mem_cons_self, trivial⟩
  | @parameter k v h =>
    have hmem : (k, v) ∈ [(Scalar.text "roost", roost), (.text "perch", perch)] := h
    rcases List.mem_cons.1 hmem with heq | hmem
    · cases heq
      exact ⟨List.mem_cons_self, (by decide : ∀ k ∈ markedKeys, Scalar.text "roost" ≠ .text k)⟩
    · cases List.mem_singleton.1 hmem
      exact ⟨List.mem_cons_of_mem _ List.mem_cons_self,
        (by decide : ∀ k ∈ markedKeys, Scalar.text "perch" ≠ .text k)⟩
  | @schema k v h =>
    have hmem : (k, v) ∈ [(Scalar.text "hawk", stray)] := h
    cases List.mem_singleton.1 hmem
    exact ⟨List.mem_cons_self, (by decide : ∀ k ∈ markedKeys, Scalar.text "hawk" ≠ .text k)⟩
  | @target _ role v w ref hv hrole href hf ih =>
    have hfind : find mews "#/components/parameters/perch" = .ok perch := by cbv
    obtain ⟨ih, -⟩ := ih
    cases role with
    | parameter =>
      rcases List.mem_cons.1 ih with rfl | ih
      · cases href
        cases hfind.symm.trans hf
        exact ⟨List.mem_cons_of_mem _ List.mem_cons_self,
          (by decide : isOpen "#/components/parameters/perch" = true)⟩
      · cases List.mem_singleton.1 ih
        cases href
    | document => cases hrole
    | schema => cases hrole
    | _ => cases ih
  | operation hv hd he hm ih => cases ih.1
  | argument hv hrole hd hws hw ih =>
    rcases hrole with rfl | rfl
    · cases ih.1
    · cases ih.1
  | @named _ role _ _ _ _ _ _ hv hd hkeyword hes hm ih =>
    obtain ⟨ih, -⟩ := ih
    cases role with
    | document =>
      cases List.mem_singleton.1 ih
      cases List.mem_singleton.1 hkeyword
      cases hes
      cases hm
    | parameter =>
      cases List.mem_singleton.1 hkeyword
      rcases List.mem_cons.1 ih with rfl | ih
      · cases hes
      · cases List.mem_singleton.1 ih
        cases hes
    | schema => cases hkeyword
    | _ => cases ih
  | @single _ role _ _ _ _ hv hd hkeyword hw ih =>
    obtain ⟨ih, -⟩ := ih
    cases role with
    | parameter =>
      cases List.mem_singleton.1 hkeyword
      rcases List.mem_cons.1 ih with rfl | ih
      · cases hw
      · cases List.mem_singleton.1 ih
        cases hw
    | document => cases hkeyword
    | schema => cases hkeyword
    | _ => cases ih
  | inside hs hc ih =>
    cases List.mem_singleton.1 ih.1
    cases hc

theorem plain_mews : Plain .openApi3 mews := by
  refine ⟨fun way role v hv => (mem_mewsParts_of_part hv).2, fun way role v hv key a b hpair => ?_⟩
  obtain ⟨hv, -⟩ := mem_mewsParts_of_part hv
  have hno : ∀ role, ∀ v ∈ mewsParts role, ∀ es, v = .map es → ∀ e ∈ es, e.2 ≠ .pair a b := by
    intro role
    cases role <;> simp [mewsParts, mews, roost, perch, stray, Value.record, -Prod.forall]
  obtain ⟨es, hes, hm⟩ := Value.mem_of_get? hpair
  exact hno role v hv es hes _ hm rfl

theorem references_inside_mews :
    Reference.checkDocument mews = .ok () ∧ Version.detect mews = .ok .openApi3 ∧
    Plain .openApi3 mews ∧
    (∀ e, follow mews roost = .error e → e.IsDeadEnd) ∧
    (read {} mews).result =
      .error (.malformedReference (.text "#/definitions/hawk") (some "components/schemas")) ∧
    IsInner (.text "#/definitions/hawk") := by
  have hcheck : Reference.checkDocument mews = .ok () := by cbv
  have hversion : Version.detect mews = .ok .openApi3 := by cbv
  have hread : (read {} mews).result =
      .error (.malformedReference (.text "#/definitions/hawk") (some "components/schemas")) := by
    cbv
  have hplain : ∀ version, Version.detect mews = .ok version → Plain version mews := by
    intro version h
    cases hversion.symm.trans h
    exact plain_mews
  obtain ⟨hparts, hfail⟩ := references_inside hcheck hplain
  obtain ⟨-, hfollow, -⟩ := hparts _ hversion
  have hroost : Part .openApi3 mews (.name (.text "roost")) .parameter roost :=
    .parameter List.mem_cons_self
  exact ⟨hcheck, hversion, plain_mews, hfollow _ _ _ hroost rfl, hread, hfail _ _ hread⟩

end ApiModel.Document
