import ApiModel.Document.Declarations
import ApiModel.Proofs.Document.Place
import ApiModel.Proofs.Reference.Name
import ApiModel.Proofs.Trace
import ApiModel.Proofs.Value.WellFormed
import Mathlib

/-!
# Links between declarations

A schema refers to a named one by a reference. Three things are made of it: the name of a link, the
declaration of that name, and the value to which the reference leads. They belong together.

* `declaration_eq_ok_iff`: what the declaration of a named schema consists of.
* `declarations_eq_ok_iff`: the declarations are those of the entries of the container, in order.
* `links_sound`: a reference leads to a value exactly when its name is declared, with the type of
  that value, and each declaration carries the reference that leads to its schema.
-/

namespace ApiModel.Document

open Reference (Layout)

/-! ## Declarations -/

theorem referenceTo_eq_ok_iff {place ref : String} {key : Scalar} :
    referenceTo place key = .ok ref ↔
      ∃ name, key = .text name ∧ ref = Reference.reference place name := by
  cases key <;> simp [referenceTo, eq_comm]

theorem declaration_eq_ok_iff {layout : Layout} {key : Scalar} {schema : Value}
    {d : Declaration} :
    (declaration layout key schema).result = .ok d ↔
      key = .text d.name ∧ d.ref = Reference.reference layout.schemas d.name ∧
      (Schema.toType layout schema).result = .ok d.type ∧
      (schema.getD "description").checkTextOrNull = .ok d.description := by
  unfold declaration Value.checkedAs
  simp only [Traced.result_bind, Traced.result_lift, Traced.result_pure, bind_eq_ok_iff,
    mapError_eq_ok_iff, referenceTo_eq_ok_iff, Checked.within_eq_ok_iff]
  constructor
  · rintro ⟨ref, ⟨name, rfl, rfl⟩, type, htype, description, hdescription, hd⟩
    cases hd
    exact ⟨rfl, rfl, htype, hdescription⟩
  · rintro ⟨rfl, href, htype, hdescription⟩
    refine ⟨d.ref, ⟨d.name, rfl, href⟩, d.type, htype, d.description, hdescription, rfl⟩

theorem declarations_eq_ok_iff {version : Version} {document : Value}
    {ds : List Declaration} :
    (declarations version document).result = .ok ds ↔
      List.Forall₂ (fun e d => (declaration (Layout.of version) e.1 e.2).result = .ok d)
        (container document (Layout.of version).schemas) ds := by
  unfold declarations
  simp only [Traced.result_bind, Traced.result_mapM, bind_eq_ok_iff, mapM_eq_ok_iff]
  simp

/-- The names of the declarations are the keys of the container. -/
theorem keys_container {version : Version} {document : Value} {ds : List Declaration}
    (h : (declarations version document).result = .ok ds) :
    (container document (Layout.of version).schemas).map Prod.fst =
      (Declaration.names ds).map Scalar.text := by
  have hkeys := (declarations_eq_ok_iff.1 h).imp fun e d hd => (declaration_eq_ok_iff.1 hd).1
  rw [Declaration.names, List.map_map, ← List.forall₂_eq_eq_eq, List.forall₂_map_left_iff,
    List.forall₂_map_right_iff]
  exact hkeys

/-! ## Well-formed containers -/

theorem wellFormed_valueAt {v : Value} (h : v.WellFormed) (place : List String) :
    (valueAt v place).WellFormed := by
  induction place generalizing v with
  | nil => exact h
  | cons key place ih => exact ih (h.getD key)

theorem distinct_container {document : Value} (h : document.WellFormed) (place : String) :
    Entries.Distinct (container document place) := by
  have hv := wellFormed_valueAt h (Text.cut '/' place)
  unfold container
  rw [entriesAt_eq]
  cases hc : valueAt document (Text.cut '/' place) with
  | map es =>
    rw [hc] at hv
    exact (Value.wellFormed_map_iff.1 hv).1
  | _ => exact List.Pairwise.nil

/-! ## Links -/

theorem toType_link {version : Version} {name : String} (h : name ≠ "") :
    Schema.toType (Layout.of version)
      (.record [("$ref", .text (Reference.reference (Layout.of version).schemas name))]) =
      pure (.named name) := by
  have hget : ∀ ref : Value, (Value.record [("$ref", ref)]).get? "$ref" = some ref := fun _ => rfl
  rw [Schema.toType_reference (hget _), Reference.nameOf, Reference.name_reference h]
  rfl

/-- **Links are sound.** In a well-formed document whose container of schemas is no list, the names
of the declarations are distinct. A reference into the container leads to a value exactly when its
name is declared, and then the type declared is that of the value. The reference of a declaration
leads to the schema that the declaration was made of, and as a schema it is the link to it. -/
theorem links_sound {version : Version} {document : Value} {ds : List Declaration}
    (hwf : document.WellFormed) (hlist : NotList document (Layout.of version).schemas)
    (h : (declarations version document).result = .ok ds) :
    (Declaration.names ds).Nodup ∧
    (∀ ref name, Reference.nameOf (Layout.of version).schemas (.text ref) = .ok name →
      ((∃ v, Reference.find document ref = .ok v) ↔ ∃ d ∈ ds, d.name = name) ∧
      ∀ v, Reference.find document ref = .ok v → ∀ d ∈ ds, d.name = name →
        (Schema.toType (Layout.of version) v).result = .ok d.type) ∧
    List.Forall₂ (fun e d =>
      (declaration (Layout.of version) e.1 e.2).result = .ok d ∧
      Reference.find document d.ref = .ok e.2 ∧
      (d.name ≠ "" → Schema.toType (Layout.of version) (.record [("$ref", .text d.ref)]) =
        pure (.named d.name)))
      (container document (Layout.of version).schemas) ds := by
  have hdist := distinct_container hwf (Layout.of version).schemas
  have hall := declarations_eq_ok_iff.1 h
  have hnd : (Declaration.names ds).Nodup := hdist.nodup_keys (keys_container h)
  have hplain := plainKey_of_layout version
  refine ⟨hnd, fun ref name href => ?_, ?_⟩
  · obtain ⟨segment, ⟨hs, -, hslash⟩, hname⟩ := Reference.nameOf_eq_ok_iff.1 href
    rw [Value.scalar.injEq, Scalar.text.injEq] at hs
    have hfind : ∀ v, Reference.find document ref = .ok v ↔
        (.text name, v) ∈ container document (Layout.of version).schemas := by
      intro v
      rw [hs, find_eq_ok_iff hplain hlist hslash, ← hname, hdist.lookup_eq_some_iff]
    refine ⟨⟨?_, ?_⟩, ?_⟩
    · rintro ⟨v, hv⟩
      obtain ⟨d, hd, he⟩ := exists_right_of_forall₂ hall ((hfind v).1 hv)
      have hkey := (declaration_eq_ok_iff.1 he).1
      exact ⟨d, hd, (Scalar.text.inj hkey).symm⟩
    · rintro ⟨d, hd, rfl⟩
      obtain ⟨⟨key, v⟩, hm, he⟩ := exists_left_of_forall₂ hall hd
      obtain rfl : key = .text d.name := (declaration_eq_ok_iff.1 he).1
      exact ⟨v, (hfind v).2 hm⟩
    · rintro v hv d hd rfl
      obtain ⟨c, hc, he⟩ := exists_right_of_forall₂ hall ((hfind v).1 hv)
      obtain ⟨hkey, -, htype, -⟩ := declaration_eq_ok_iff.1 he
      -- the declaration of that entry is the one of that name
      have hcd : c = d := List.inj_on_of_nodup_map hnd hc hd (Scalar.text.inj hkey).symm
      rw [← hcd]
      exact htype
  · have hmem := (List.forall₂_and_left _ ds).2 ⟨fun e he => he, hall⟩
    refine hmem.imp fun e d hed => ⟨hed.2, ?_, ?_⟩
    · obtain ⟨key, v⟩ := e
      obtain ⟨hm, hd⟩ := hed
      obtain ⟨rfl, href, -, -⟩ := declaration_eq_ok_iff.1 hd
      rw [href, Reference.reference, find_eq_ok_iff hplain hlist (Reference.not_mem_escape _),
        Reference.unescape_escape, String.ofList_toList]
      exact hdist.lookup_of_mem hm
    · intro hne
      rw [(declaration_eq_ok_iff.1 hed.2).2.1]
      exact toType_link hne

/-- A document with two named schemas. One of the names has to be escaped, and the other schema
refers to it. -/
def kennel : Value :=
  .record [("swagger", .text "2.0"), ("definitions", .record
    [("cat/dog", .record [("type", .text "string")]),
      ("pets", .record [("type", .text "array"),
        ("items", .record [("$ref", .text "#/definitions/cat~1dog")])])])]

/-- The declarations of the two schemas. -/
def kennelDeclarations : List Declaration :=
  [⟨"cat/dog", "#/definitions/cat~1dog", .primitive .string, none⟩,
    ⟨"pets", "#/definitions/pets", .array (.named "cat/dog") false, none⟩]

theorem links_kennel :
    kennel.WellFormed ∧ NotList kennel (Layout.of .swagger2).schemas ∧
    (declarations .swagger2 kennel).result = .ok kennelDeclarations ∧
    Reference.nameOf (Layout.of .swagger2).schemas (.text "#/definitions/cat~1dog") =
      .ok "cat/dog" ∧
    (Declaration.names kennelDeclarations).Nodup ∧
    ∃ v, Reference.find kennel "#/definitions/cat~1dog" = .ok v ∧
      (Schema.toType (Layout.of .swagger2) v).result = .ok (.primitive .string) := by
  have hwf : kennel.WellFormed := by
    simp [kennel, Value.record, Value.WellFormed, Value.entriesWellFormed, Entries.Distinct,
      Scalar.same, Scalar.toInt?]
  have hlist : NotList kennel (Layout.of .swagger2).schemas := by
    intro items h
    have hmap : (valueAt kennel (Text.cut '/' (Layout.of .swagger2).schemas)).isMap = true := by
      cbv
    rw [h] at hmap
    cases hmap
  have hds : (declarations .swagger2 kennel).result = .ok kennelDeclarations := by cbv
  have hname : Reference.nameOf (Layout.of .swagger2).schemas (.text "#/definitions/cat~1dog") =
      .ok "cat/dog" := by cbv
  obtain ⟨hnd, hlinks, -⟩ := links_sound hwf hlist hds
  obtain ⟨hiff, htype⟩ := hlinks _ _ hname
  obtain ⟨v, hv⟩ := hiff.2 ⟨_, List.mem_cons_self, rfl⟩
  exact ⟨hwf, hlist, hds, hname, hnd, v, hv, htype v hv _ List.mem_cons_self rfl⟩

end ApiModel.Document
