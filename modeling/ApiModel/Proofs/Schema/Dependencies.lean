import ApiModel.Declaration.Basic
import ApiModel.Proofs.Schema.Describable
import ApiModel.Proofs.Value.WellFormed
import ApiModel.Proofs.Type.Links

/-!
# The links that a schema makes

Every reference that is met in going through a schema becomes a link, and nothing else does. Not all
of them stay: a composition drops branches, and of several fields with one name only the last is
kept. Fields of one name arise in a composition, and in an object two of whose keys spell the same,
one as a text and one as the bytes that encode it.

* `refs`: the references that are met in going through a schema, in order.
* `links_of_toType`: the links of the type of a schema are names of its references, and all of them
  if nothing is dropped.
* `dependencies_of_schema`: so are the linked names, and what a declaration with that type depends
  on.
-/

namespace ApiModel.Schema

open Reference (Layout)

variable {layout : Layout} {s : Value}

/-! ## References -/

/-- The references that are met in going through a schema, in order. -/
def refs (s : Value) : List Value := (subschemas s).filterMap (·.get? "$ref")

/-- The names that references give, in order. -/
def NamedBy (layout : Layout) (rs : List Value) (names : List String) : Prop :=
  List.Forall₂ (fun r n => Reference.nameOf layout.schemas r = .ok n) rs names

theorem refs_of_reference {ref : Value} (h : s.get? "$ref" = some ref) : refs s = [ref] := by
  have hleaf : children s = [] :=
    children_leaf (classify_reference h) (by decide) (by decide) (by decide)
  rw [refs, subschemas_eq, hleaf, List.flatMap_nil, List.filterMap_cons, h, List.filterMap_nil]

theorem refs_of_no_reference (h : s.get? "$ref" = none) : refs s = (children s).flatMap refs := by
  rw [refs, subschemas_eq, List.filterMap_cons, h, List.filterMap_flatMap]
  rfl

/-! ## What is dropped -/

/-- No two properties of a schema make fields of one name. -/
def NamesApart (s : Value) : Prop := ((properties s).map fun e => fieldName e.1).Nodup

/-- Different keys that are texts name different fields. -/
theorem namesApart_of_texts (keys : List String) (hd : Entries.Distinct (properties s))
    (hk : (properties s).map Prod.fst = keys.map .text) : NamesApart s := by
  have hnames : ((properties s).map fun e => fieldName e.1) = keys.map .ok := by
    calc ((properties s).map fun e => fieldName e.1)
        = ((properties s).map Prod.fst).map fieldName := by rw [List.map_map]; rfl
      _ = keys.map fun k => fieldName (.text k) := by rw [hk, List.map_map]; rfl
      _ = keys.map .ok := rfl
  rw [NamesApart, hnames]
  exact (hd.nodup_keys hk).map fun _ _ => Except.ok.inj

/-- A schema makes a type that keeps the types of all the schemas it holds. -/
structure Keeping (s : Value) : Prop where
  /-- It is no composition. -/
  notComposition : isComposition s = false
  /-- The fields of an object have different names. -/
  namesApart : isObject s = true → NamesApart s

theorem keeping_of_not_object (hc : isComposition s = false) (ho : isObject s = false) :
    Keeping s where
  notComposition := hc
  namesApart h := by
    rw [ho] at h
    cases h

/-- The links of a type are links of the types of the schemas that a schema holds, and all of them
if the schema keeps these types. -/
def LinksInside (layout : Layout) (s : Value) (t : Ty) : Prop :=
  ∃ ts, List.Forall₂ (fun c u => (toType layout c).result = .ok u) (children s) ts ∧
    t.links ⊆ ts.flatMap Ty.links ∧ (Keeping s → t.links = ts.flatMap Ty.links)

theorem linksInside_of_leaf {t : Ty} (hchildren : children s = []) (ht : t.links = []) :
    LinksInside layout s t := by
  refine ⟨[], ?_, ?_, fun _ => ht⟩
  · rw [hchildren]
    exact .nil
  · rw [ht]
    exact List.Subset.refl _

theorem links_of_isMember {t : Ty} (h : t.IsMember) : t.links = [] := by
  rcases h with rfl | ⟨l, rfl⟩ <;> rfl

theorem links_of_string {t : Ty} (hs : classify s = .ok .string)
    (h : (toType layout s).result = .ok t) : t.links = [] := by
  rcases string_or_union hs h with rfl | ⟨ts, rfl, hmembers⟩
  · rfl
  · rw [Ty.links, Ty.linksOfAll_eq_flatMap, List.flatMap_eq_nil_iff]
    exact fun m hm => links_of_isMember (hmembers m hm)

theorem linksInside_of_array {t : Ty} (ha : hasType s "array" = true)
    (h : (toType layout s).result = .ok t) : LinksInside layout s t := by
  rw [result_toType_array (classify_eq_array_iff.2 ha)] at h
  split at h
  · cases h
  · rename_i hnull
    obtain ⟨u, hu, rfl⟩ := map_eq_ok_iff.1 h
    refine ⟨[u], ?_, ?_, fun _ => ?_⟩
    · rw [children_array ha, items, if_neg hnull]
      exact .cons hu .nil
    · rw [List.flatMap_singleton]
      exact List.Subset.refl _
    · rw [List.flatMap_singleton]
      rfl

/-- Merging keeps fields, and all of them if their names differ. -/
theorem links_merge (fs : List Field) :
    (Ty.record (Field.merge fs)).links ⊆ (fs.map (·.type)).flatMap Ty.links ∧
      ((fs.map (·.name)).Nodup →
        (Ty.record (Field.merge fs)).links = (fs.map (·.type)).flatMap Ty.links) := by
  rw [Ty.links, Ty.linksOfFields_eq_flatMap, List.flatMap_map]
  constructor
  · intro n hn
    obtain ⟨f, hf, hn⟩ := List.mem_flatMap.1 hn
    exact List.mem_flatMap.2 ⟨f, Field.mem_of_mem_merge hf, hn⟩
  · intro hnodup
    rw [Field.merge_of_nodup hnodup]

theorem linksInside_of_object {t : Ty} (ho : isObject s = true)
    (h : (toType layout s).result = .ok t) : LinksInside layout s t := by
  rcases fields_of_object ho h with ⟨fs, rfl, hfs⟩ | ⟨rfl, hnil⟩
  · rw [flattened_object ho, List.forall₂_map_left_iff] at hfs
    have hnames : (properties s).map (fun e => fieldName e.1) = (fs.map (·.name)).map .ok := by
      rw [← List.forall₂_eq_eq_eq, List.map_map, List.forall₂_map_left_iff,
        List.forall₂_map_right_iff]
      exact hfs.imp fun e f hf => hf.name
    obtain ⟨hsub, heq⟩ := links_merge fs
    refine ⟨fs.map (·.type), ?_, hsub, fun hk => heq ?_⟩
    · rw [children_object ho, List.forall₂_map_left_iff, List.forall₂_map_right_iff]
      exact hfs.imp fun e f hf => hf.type
    · have hapart := hk.namesApart ho
      rw [NamesApart, hnames] at hapart
      exact hapart.of_map _
  · rw [flattened_object ho, List.map_eq_nil_iff] at hnil
    exact linksInside_of_leaf (by rw [children_object ho, hnil, List.map_nil]) rfl

theorem linksInside_of_composition {t : Ty} (hc : isComposition s = true)
    (h : (toType layout s).result = .ok t) : LinksInside layout s t := by
  obtain ⟨types, htypes, rfl⟩ := branches_of_composition hc h
  refine ⟨types, by rw [children_composition hc]; exact htypes, ?_, fun hk => ?_⟩
  · refine List.Subset.trans (links_merge _).1 fun n hn => ?_
    rw [List.flatMap_map] at hn
    obtain ⟨f, hf, hn⟩ := List.mem_flatMap.1 hn
    obtain ⟨u, hu, hf⟩ := List.mem_flatMap.1 hf
    refine List.mem_flatMap.2 ⟨u, hu, ?_⟩
    cases u with
    | record fs =>
      rw [Ty.links, Ty.linksOfFields_eq_flatMap]
      exact List.mem_flatMap.2 ⟨f, hf, hn⟩
    | _ => cases hf
  · rw [hk.notComposition] at hc
    cases hc

/-- A schema that is no reference makes no link of its own. -/
theorem linksInside_of_toType {t : Ty} (href : s.get? "$ref" = none)
    (h : (toType layout s).result = .ok t) : LinksInside layout s t := by
  cases hs : classify s with
  | error e =>
    rw [result_toType_of_error hs] at h
    cases h
  | ok shape =>
    have hleaf := children_leaf hs
    cases shape with
    | reference =>
      cases classify_eq_ok_iff.1 hs with
      | reference hhas =>
        rw [Value.has, href] at hhas
        cases hhas
    | number =>
      rw [result_toType_number hs] at h
      cases h
      exact linksInside_of_leaf (hleaf (by decide) (by decide) (by decide)) rfl
    | boolean =>
      rw [result_toType_boolean hs] at h
      cases h
      exact linksInside_of_leaf (hleaf (by decide) (by decide) (by decide)) rfl
    | string =>
      exact linksInside_of_leaf (hleaf (by decide) (by decide) (by decide)) (links_of_string hs h)
    | array => exact linksInside_of_array (classify_eq_array_iff.1 hs) h
    | object => exact linksInside_of_object (classify_eq_object_iff.1 hs) h
    | allOf => exact linksInside_of_composition (classify_eq_allOf_iff.1 hs) h
    | numericFormat =>
      rw [result_toType_numericFormat hs] at h
      cases h
      exact linksInside_of_leaf (hleaf (by decide) (by decide) (by decide)) rfl

/-! ## All levels -/

/-- The names that references give hold the links of a list, and are that list if nothing is
dropped. -/
def Gives (layout : Layout) (rs : List Value) (links : List String) (kept : Prop) : Prop :=
  ∃ names, NamedBy layout rs names ∧ links ⊆ names ∧ (kept → links = names)

theorem gives_flatMap {cs : List Value} {ts : List Ty}
    (hts : List.Forall₂ (fun c u => (toType layout c).result = .ok u) cs ts)
    (h : ∀ c ∈ cs, ∀ u, (toType layout c).result = .ok u →
      Gives layout (refs c) u.links (∀ x ∈ subschemas c, Keeping x)) :
    Gives layout (cs.flatMap refs) (ts.flatMap Ty.links)
      (∀ c ∈ cs, ∀ x ∈ subschemas c, Keeping x) := by
  induction hts with
  | nil => exact ⟨[], .nil, List.Subset.refl _, fun _ => rfl⟩
  | @cons c u cs ts hcu _ ih =>
    rw [List.forall_mem_cons] at h
    obtain ⟨own, hown, hsub, heq⟩ := h.1 u hcu
    obtain ⟨others, hothers, hsubs, heqs⟩ := ih h.2
    refine ⟨own ++ others, List.rel_append hown hothers, ?_, fun hall => ?_⟩
    · rw [List.flatMap_cons, List.append_subset]
      exact ⟨List.subset_append_of_subset_left _ hsub, List.subset_append_of_subset_right _ hsubs⟩
    · rw [List.forall_mem_cons] at hall
      rw [List.flatMap_cons, heq hall.1, heqs hall.2]

/-- The links of the type of a schema are names of the references in it, and all of them in their
order if every schema inside keeps what it holds. The induction is on the schemas that a schema
holds. -/
theorem links_of_toType (s : Value) : ∀ t, (toType layout s).result = .ok t →
    Gives layout (refs s) t.links (∀ u ∈ subschemas s, Keeping u) := by
  induction s using induction_children with
  | step s ih =>
    intro t h
    cases href : s.get? "$ref" with
    | some ref =>
      rw [result_toType_reference href] at h
      obtain ⟨name, hname, rfl⟩ := map_eq_ok_iff.1 h
      rw [refs_of_reference href]
      exact ⟨[name], .cons hname .nil, List.Subset.refl _, fun _ => rfl⟩
    | none =>
      obtain ⟨ts, hts, hsub, heq⟩ := linksInside_of_toType href h
      obtain ⟨names, hnames, hsubs, heqs⟩ := gives_flatMap hts ih
      rw [refs_of_no_reference href]
      refine ⟨names, hnames, List.Subset.trans hsub hsubs, fun hall => ?_⟩
      rw [subschemas_eq, List.forall_mem_cons, List.forall_mem_flatMap] at hall
      rw [heq hall.1, heqs hall.2]

/-- **Dependencies are references.** Every name that the type of a schema links to is the name of a
reference in the schema. If every schema inside keeps what it holds, the linked names are those of
all the references, in their order, each at its first occurrence. The same is true of what a
declaration with that type depends on, as far as it is declared. -/
theorem dependencies_of_schema {t : Ty} (h : (toType layout s).result = .ok t) :
    ∃ names, NamedBy layout (refs s) names ∧
      (∀ n ∈ t.namedTypes, n ∈ names) ∧
      (∀ d : Declaration, d.type = t → ∀ declared, ∀ n ∈ d.dependencies declared, n ∈ names) ∧
      ((∀ u ∈ subschemas s, Keeping u) →
        t.namedTypes = names.eraseDups ∧
        ∀ d : Declaration, d.type = t → ∀ declared,
          d.dependencies declared = names.eraseDups.filter (· ∈ declared)) := by
  obtain ⟨names, hnames, hsub, heq⟩ := links_of_toType s t h
  have hlinked : ∀ n ∈ t.namedTypes, n ∈ names := by
    intro n hn
    rw [Ty.namedTypes_eq_eraseDups, List.mem_eraseDups] at hn
    exact hsub hn
  refine ⟨names, hnames, hlinked, ?_, fun hall => ?_⟩
  · rintro d rfl declared n hn
    exact hlinked n (Declaration.mem_dependencies_iff.1 hn).1
  · have hall : t.namedTypes = names.eraseDups := by rw [Ty.namedTypes_eq_eraseDups, heq hall]
    refine ⟨hall, ?_⟩
    rintro d rfl declared
    rw [Declaration.dependencies, hall]

/-- An object that refers to a panel twice, and to a tool within a list. -/
def bench : Value :=
  .record [("type", .text "object"), ("properties", .record [
    ("top", .record [("$ref", .text "#/definitions/panel")]),
    ("tools", .record [("type", .text "array"),
      ("items", .record [("$ref", .text "#/definitions/tool")])]),
    ("back", .record [("$ref", .text "#/definitions/panel")])])]

/-- The type of that object. -/
def benchType : Ty :=
  .record [⟨"top", .named "panel", true, false⟩,
    ⟨"tools", .array (.named "tool") false, true, false⟩, ⟨"back", .named "panel", true, false⟩]

theorem subschemas_bench : subschemas bench =
    [bench, .record [("$ref", .text "#/definitions/panel")],
      .record [("type", .text "array"),
        ("items", .record [("$ref", .text "#/definitions/tool")])],
      .record [("$ref", .text "#/definitions/tool")],
      .record [("$ref", .text "#/definitions/panel")]] := by cbv

theorem dependencies_of_bench :
    ∃ names, NamedBy (Layout.of .swagger2) (refs bench) names ∧
      benchType.namedTypes = ["panel", "tool"] ∧ names.eraseDups = ["panel", "tool"] := by
  have h : (toType (Layout.of .swagger2) bench).result = .ok benchType := by cbv
  have hapart : NamesApart bench :=
    namesApart_of_texts ["top", "tools", "back"] (by unfold Entries.Distinct; decide) rfl
  have hkeeping : ∀ u ∈ subschemas bench, Keeping u := by
    rw [subschemas_bench]
    simp only [List.forall_mem_cons]
    exact ⟨⟨rfl, fun _ => hapart⟩, keeping_of_not_object rfl rfl, keeping_of_not_object rfl rfl,
      keeping_of_not_object rfl rfl, keeping_of_not_object rfl rfl, List.forall_mem_nil _⟩
  obtain ⟨names, hnames, -, -, hall⟩ := dependencies_of_schema h
  have hlinked : benchType.namedTypes = ["panel", "tool"] := by cbv
  exact ⟨names, hnames, hlinked, (hall hkeeping).1.symm.trans hlinked⟩

/-- An object with the property `a` given twice, as a text and as bytes. -/
def twice : Value :=
  .record [("type", .text "object"), ("properties", .map [
    (.text "a", .record [("$ref", .text "#/definitions/panel")]),
    (.bytes [97], .record [("$ref", .text "#/definitions/tool")])])]

/-- Of two properties with keys that spell the same the first is dropped, and its link is lost
without a composition. -/
theorem dependency_lost_twice :
    (∀ u ∈ subschemas twice, isComposition u = false) ∧
    ∃ t, (toType (Layout.of .swagger2) twice).result = .ok t ∧
      NamedBy (Layout.of .swagger2) (refs twice) ["panel", "tool"] ∧
      t.namedTypes = ["tool"] := by
  have hsub : subschemas twice = [twice, .record [("$ref", .text "#/definitions/panel")],
      .record [("$ref", .text "#/definitions/tool")]] := by cbv
  refine ⟨?_, .record [⟨"a", .named "tool", true, false⟩], by cbv, ?_, by cbv⟩
  · rw [hsub]
    simp only [List.forall_mem_cons]
    exact ⟨rfl, rfl, rfl, List.forall_mem_nil _⟩
  · rw [refs, hsub]
    exact .cons (by cbv) (.cons (by cbv) .nil)

end ApiModel.Schema
