import ApiModel.Proofs.Declaration.Renaming
import ApiModel.Proofs.Document.Links
import ApiModel.Proofs.Schema.Rewrite

/-!
# Moving schemas to another container

The two versions keep their schemas in different containers, and the references of schemas name the
container. When the schemas of one container are put into another, and the references that are met
in them are moved along, they describe what they described before.

* `nameOf_move`: a reference that is moved gives the same name.
* `result_toType_moved`: a schema that is moved describes the same type.
* `declarations_moved`: the declarations are the same, but for their own references.
-/

namespace ApiModel

/-! ## References -/

namespace Reference

/-- A reference into one container as one into another; anything else stays as it is. -/
def move (source target : String) (ref : Value) : Value :=
  match ref with
  | .text s =>
    match Text.after? (start source) s.toList with
    | some segment => .text (String.ofList (start target ++ segment))
    | none => .text s
  | ref => ref

theorem nameOf_move {source target name : String} {ref : Value}
    (h : nameOf source ref = .ok name) : nameOf target (move source target ref) = .ok name := by
  obtain ⟨segment, ⟨rfl, hsegment⟩, rfl⟩ := nameOf_eq_ok_iff.1 h
  have hafter : Text.after? (start source) (String.ofList (start source ++ segment)).toList =
      some segment := by
    rw [String.toList_ofList, Text.after?_eq_some_iff]
  have hmove : move source target (.text (String.ofList (start source ++ segment))) =
      .text (String.ofList (start target ++ segment)) := by
    simp only [move, hafter]
  exact nameOf_eq_ok_iff.2 ⟨segment, ⟨hmove, hsegment⟩, rfl⟩

end Reference

/-! ## Schemas -/

namespace Schema

open Reference (Layout)

/-- The entries of a map with its reference moved. -/
def moveEntries (source target : String) (es : Entries) : Entries :=
  es.map fun e => (e.1, if e.1 = .text "$ref" then Reference.move source target e.2 else e.2)

/-- A schema with the references moved that are met in it. -/
def moved (source target : String) (s : Value) : Value :=
  rewrite (moveEntries source target) .schema s

theorem lookup_moveEntries (source target : String) (es : Entries) {key : String}
    (h : key ≠ "$ref") :
    (moveEntries source target es).lookup (.text key) = es.lookup (.text key) := by
  unfold moveEntries
  rw [Entries.lookup_map_snd
    fun k v => if k = .text "$ref" then Reference.move source target v else v]
  simp [h]

theorem keeps_moveEntries (source target : String) :
    Keeps (moveEntries source target) (Reference.move source target) where
  reference es := by
    unfold moveEntries
    rw [Entries.lookup_map_snd
      fun k v => if k = .text "$ref" then Reference.move source target v else v]
    simp
  keyword key hkey es := lookup_moveEntries source target es (by rintro rfl; revert hkey; decide)

/-- A schema that is moved describes the same type. -/
theorem result_toType_moved {layout layout' : Layout} {s : Value} {t : Ty}
    (h : (toType layout s).result = .ok t) :
    (toType layout' (moved layout.schemas layout'.schemas s)).result = .ok t := by
  unfold moved
  rw [result_toType_rewrite (keeps_moveEntries _ _) s, h]
  intro u hu ref hr
  -- a reference that is met gives a name, since the whole schema describes a type
  obtain ⟨t', ht'⟩ := exists_result_of_mem_subschemas h hu
  rw [result_toType_reference hr, map_eq_ok_iff] at ht'
  obtain ⟨name, hname, -⟩ := ht'
  rw [hname, Reference.nameOf_move hname]

end Schema

/-! ## Declarations -/

namespace Document

open Reference (Layout)

/-- A declaration with the reference to it in another container. -/
def movedDeclaration (target : String) (d : Declaration) : Declaration :=
  { d with ref := Reference.reference target d.name }

theorem renames_movedDeclaration (target : String) :
    Declaration.Renames id (movedDeclaration target) where
  injective := Function.injective_id
  name _ := rfl
  links _ := (List.map_id _).symm

theorem declaration_moved {layout layout' : Layout} {key : Scalar} {s : Value} {d : Declaration}
    (h : (declaration layout key s).result = .ok d) :
    (declaration layout' key (Schema.moved layout.schemas layout'.schemas s)).result =
      .ok (movedDeclaration layout'.schemas d) := by
  obtain ⟨hkey, -, htype, hdescription⟩ := declaration_eq_ok_iff.1 h
  have hsame : (Schema.moved layout.schemas layout'.schemas s).getD "description" =
      s.getD "description" :=
    Schema.getD_rewrite_data (fun es => Schema.lookup_moveEntries _ _ es (by decide)) (by decide)
  refine declaration_eq_ok_iff.2 ⟨hkey, rfl, Schema.result_toType_moved htype, ?_⟩
  rw [hsame]
  exact hdescription

/-- **Both versions describe one thing.** Take a document of Swagger 2 with declarations, and one of
OpenAPI 3 that has the same schemas in the same order, with the references in them moved to its own
container. It has the same declarations in the same order, each with its reference moved likewise,
and they are put into the same order. -/
theorem declarations_moved {document other : Value} {ds : List Declaration}
    (hschemas : container other (Layout.of .openApi3).schemas =
      (container document (Layout.of .swagger2).schemas).map fun e =>
        (e.1, Schema.moved (Layout.of .swagger2).schemas (Layout.of .openApi3).schemas e.2))
    (h : (declarations .swagger2 document).result = .ok ds) :
    let moved := movedDeclaration (Layout.of .openApi3).schemas
    (declarations .openApi3 other).result = .ok (ds.map moved) ∧
    (∀ d ∈ ds, d.ref = Reference.reference (Layout.of .swagger2).schemas d.name ∧
      (moved d).name = d.name ∧ (moved d).type = d.type ∧ (moved d).description = d.description ∧
      (moved d).ref = Reference.reference (Layout.of .openApi3).schemas d.name) ∧
    Declaration.order (ds.map moved) = (Declaration.order ds).map moved := by
  intro moved
  have hall := declarations_eq_ok_iff.1 h
  refine ⟨declarations_eq_ok_iff.2 ?_, fun d hd => ?_, (renames_movedDeclaration _).order_map ds⟩
  · rw [hschemas, List.forall₂_map_left_iff, List.forall₂_map_right_iff]
    exact hall.imp fun e d hd => declaration_moved hd
  · obtain ⟨e, -, hdeclaration⟩ := exists_left_of_forall₂ hall hd
    exact ⟨(declaration_eq_ok_iff.1 hdeclaration).2.1, rfl, rfl, rfl, rfl⟩

/-- Schemas that refer to each other by references into a container: from a property whose name is
that of references, from the items of a list and from a branch of a composition. -/
def flock (container : String) : Value :=
  let link (name : String) : Value := .record [("$ref", .text ("#/" ++ container ++ "/" ++ name))]
  .record [
    ("flock", .record [("type", .text "object"), ("description", .text "#/definitions/goat"),
      ("properties", .record [("$ref", link "goat"),
        ("tags", .record [("type", .text "array"), ("items", link "ear~1tag")])])]),
    ("goat", .record [("allOf", .list [link "ear~1tag",
      .record [("type", .text "object"), ("properties", .record [("kid", link "goat")])]])]),
    ("ear/tag", .record [("type", .text "string")])]

/-- A document of Swagger 2 with those schemas. -/
def swaggerFlock : Value :=
  .record [("swagger", .text "2.0"), ("definitions", flock "definitions")]

/-- A document of OpenAPI 3 with the same schemas. -/
def openFlock : Value :=
  .record [("openapi", .text "3.0.0"),
    ("components", .record [("schemas", flock "components/schemas")])]

/-- The declarations of those schemas in a container. -/
def flockDeclarations (container : String) : List Declaration :=
  [⟨"flock", "#/" ++ container ++ "/flock",
      .record [⟨"$ref", .named "goat", true, false⟩,
        ⟨"tags", .array (.named "ear/tag") false, true, false⟩], some "#/definitions/goat"⟩,
    ⟨"goat", "#/" ++ container ++ "/goat", .record [⟨"kid", .named "goat", true, false⟩], none⟩,
    ⟨"ear/tag", "#/" ++ container ++ "/ear~1tag", .primitive .string, none⟩]

theorem declarations_flock :
    let ds := flockDeclarations "definitions"
    let ds' := flockDeclarations "components/schemas"
    (declarations .swagger2 swaggerFlock).result = .ok ds ∧
    (declarations .openApi3 openFlock).result = .ok ds' ∧
    Declaration.order ds' =
      (Declaration.order ds).map (movedDeclaration (Layout.of .openApi3).schemas) := by
  intro ds ds'
  have hschemas : container openFlock (Layout.of .openApi3).schemas =
      (container swaggerFlock (Layout.of .swagger2).schemas).map fun e =>
        (e.1, Schema.moved (Layout.of .swagger2).schemas (Layout.of .openApi3).schemas e.2) := by
    cbv
  have hds : (declarations .swagger2 swaggerFlock).result = .ok ds := by cbv
  have hmoved : ds.map (movedDeclaration (Layout.of .openApi3).schemas) = ds' := by cbv
  obtain ⟨hds', -, horder⟩ := declarations_moved hschemas hds
  rw [hmoved] at hds' horder
  exact ⟨hds, hds', horder⟩

end Document

end ApiModel
