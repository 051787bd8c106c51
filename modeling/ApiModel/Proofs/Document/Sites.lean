import ApiModel.Proofs.Document.Operations
import ApiModel.Proofs.Document.Links
import ApiModel.Proofs.Reference.Inherited
import ApiModel.Proofs.Value.Kind

/-!
# Where the operations of a document stand

The item of a path is a map, or leads to one, and holds more than operations: parameters, and
whatever else is written there. A site is what stands under one key of the item of one path. The
sites of a document are listed path by path and, for each path, in the order of the keys of its
item. An operation stands at a site whose key is a method and that holds a map.

* `forall₂_sites_of_entries`: the methods among the entries of an item are those of its sites.
* `itemOperations_of_sites`, `operations_of_sites`: the operations are read at the sites, in order.
* `Site.Reads.gives`: what is read at a site has its method, path and identifier.
* `distinct_sites`: no two sites have the same path and the same key.
-/

namespace ApiModel.Document

open Reference (follow)

variable {settings : Settings} {version : Version} {document : Value} {table : Table}

/-! ## Sites -/

/-- What stands under a key of the item of a path. -/
structure Site where
  /-- The path. -/
  path : Scalar
  /-- The key in the item. -/
  key : Scalar
  /-- What stands there. -/
  value : Value

/-- The words for the methods, as keys. -/
def methodKeys : List Scalar := Method.all.map fun m => .text m.word

/-- Whether an operation stands at a site. -/
def Site.isOperation (site : Site) : Bool := methodKeys.contains site.key && site.value.isMap

/-- The sites of an item, which stands under its path. There are none if it leads to no map. -/
def itemSites (document : Value) (e : Scalar × Value) : List Site :=
  match follow document e.2 with
  | .ok (.map es) => es.map fun f => ⟨e.1, f.1, f.2⟩
  | _ => []

/-- The sites of a document, path by path. -/
def sites (document : Value) : List Site :=
  match document.getD "paths" with
  | .map items => items.flatMap (itemSites document)
  | _ => []

/-- The sites where the operations of a document stand. -/
def operationSites (document : Value) : List Site := (sites document).filter Site.isOperation

/-- A site stands in the item with some entries, to which its path leads. -/
def Site.StandsIn (document : Value) (site : Site) (es : Entries) : Prop :=
  ∃ items, (document.getD "paths").entries = .ok items ∧ ∃ v, (site.path, v) ∈ items ∧
    follow document v = .ok (.map es) ∧ (site.key, site.value) ∈ es

/-- An operation is read at a site, once the parameters of the item in which it stands are. -/
def Site.Reads (settings : Settings) (version : Version) (document : Value) (table : Table)
    (site : Site) (o : Operation) : Prop :=
  ∃ es ofPath method, site.StandsIn document es ∧
    (arguments version table (.map es)).result = .ok ofPath ∧ site.key = .text method.word ∧
    (operation settings version document table site.path method ofPath site.value).result = .ok o

/-- An operation is that of a site: its method is the key, its path is spelled by the path, and its
identifier by what the map says. -/
structure Site.Gives (site : Site) (o : Operation) : Prop where
  /-- The method is the key. -/
  method : site.key = .text o.method.word
  /-- The path is spelled. -/
  path : (Value.scalar site.path).Spells o.path
  /-- The identifier is spelled. -/
  id : (site.value.getD "operationId").Spells o.id
  /-- The identifier is not empty. -/
  named : o.id ≠ ""

/-! ## One item -/

theorem mem_methodKeys_iff {key : Scalar} :
    key ∈ methodKeys ↔ ∃ m : Method, key = .text m.word := by
  have hall : ∀ m : Method, m ∈ Method.all := by
    intro m
    cases m <;> decide
  constructor
  · intro h
    obtain ⟨m, -, hm⟩ := List.mem_map.1 h
    exact ⟨m, hm.symm⟩
  · rintro ⟨m, rfl⟩
    exact List.mem_map_of_mem (hall m)

theorem isOperation_iff {site : Site} :
    site.isOperation = true ↔
      ∃ m, methodOf? (site.key, site.value) = some (m, site.value) := by
  simp only [Site.isOperation, Bool.and_eq_true, List.contains_iff_mem, mem_methodKeys_iff,
    methodOf?_eq_some_iff, Prod.mk.injEq, and_true, exists_and_right]

/-- The methods among the entries of an item are those of its sites, in order. -/
theorem forall₂_sites_of_entries (path : Scalar) (es : Entries) :
    List.Forall₂ (fun (site : Site) m =>
        site.path = path ∧ site.key = .text m.1.word ∧ site.value = m.2)
      ((es.map fun f => (⟨path, f.1, f.2⟩ : Site)).filter Site.isOperation)
      (es.filterMap methodOf?) := by
  induction es with
  | nil => exact .nil
  | cons e es ih =>
    obtain ⟨key, v⟩ := e
    rw [List.map_cons]
    cases hm : methodOf? (key, v) with
    | some m =>
      obtain ⟨heq, hmap⟩ := methodOf?_eq_some_iff.1 hm
      cases heq
      have hop : (⟨path, .text m.1.word, m.2⟩ : Site).isOperation = true :=
        isOperation_iff.2 ⟨m.1, hm⟩
      rw [List.filter_cons_of_pos hop, List.filterMap_cons_some hm]
      exact .cons ⟨rfl, rfl, rfl⟩ ih
    | none =>
      have hop : ¬ (⟨path, key, v⟩ : Site).isOperation = true := by
        intro h
        obtain ⟨m, hsome⟩ := isOperation_iff.1 h
        cases hm.symm.trans hsome
      rw [List.filter_cons_of_neg hop, List.filterMap_cons_none hm]
      exact ih

/-- What is read at a site is the operation of the site. -/
theorem Site.Reads.gives {site : Site} {o : Operation}
    (h : site.Reads settings version document table o) : site.Gives o := by
  obtain ⟨es, ofPath, method, -, -, hkey, hoperation⟩ := h
  obtain ⟨hid, rfl, -, -, ⟨tags, -, htexts⟩, -⟩ := operation_eq_ok_iff.1 hoperation
  simp only [checkTexts, Checked.both_eq_ok_iff, Checked.within_eq_ok_iff,
    Value.checkText_eq_ok_iff] at htexts
  obtain ⟨⟨⟨hidText, hpath⟩, -⟩, -⟩ := htexts
  exact ⟨hkey, hpath, hidText, hidText.ne_empty hid⟩

/-- The operations of an item are read at its sites, in order. -/
theorem itemOperations_of_sites {items : Entries}
    (hitems : (document.getD "paths").entries = .ok items) {e : Scalar × Value} (he : e ∈ items)
    {os : List Operation}
    (h : (itemOperations settings version document table e.1 e.2).result = .ok os) :
    List.Forall₂ (Site.Reads settings version document table)
      ((itemSites document e).filter Site.isOperation) os := by
  obtain ⟨w, hw, hos⟩ := itemOperations_eq_ok_iff.1 h
  unfold itemSites
  rw [hw]
  split at hos
  · rename_i es
    obtain ⟨ofPath, hofPath, hos⟩ := hos
    have hsites := forall₂_sites_of_entries e.1 es
    -- the methods of the entries stand between the sites and the operations
    refine forall₂_comp ((List.forall₂_and_left _ _).2 ⟨fun site hsite => hsite, hsites⟩) hos ?_
    rintro site m o ⟨hsite, hpath, hkey, hvalue⟩ ho
    obtain ⟨f, hf, rfl⟩ := List.mem_map.1 (List.mem_filter.1 hsite).1
    refine ⟨es, ofPath, m.1, ⟨items, hitems, e.2, he, hw, hf⟩, hofPath, hkey, ?_⟩
    rw [hvalue]
    exact ho
  · rename_i hne
    subst hos
    split
    · rename_i es heq
      cases heq
      exact absurd rfl (hne es)
    · exact .nil

theorem path_of_mem_itemSites {e : Scalar × Value} {site : Site}
    (h : site ∈ itemSites document e) : site.path = e.1 := by
  unfold itemSites at h
  split at h
  · obtain ⟨f, -, rfl⟩ := List.mem_map.1 h
    rfl
  · cases h

/-! ## Whole documents -/

theorem sites_eq_flatMap {items : Entries} (h : (document.getD "paths").entries = .ok items) :
    sites document = items.flatMap (itemSites document) := by
  unfold sites
  cases items with
  | nil =>
    split
    · rename_i items hmap
      rw [hmap, Value.entries_map] at h
      rw [Except.ok.inj h]
    · rfl
  | cons e items =>
    rw [Value.eq_map_of_entries h List.mem_cons_self]

/-- No two sites have the same path and the same key. -/
theorem distinct_sites (hwf : document.WellFormed) :
    (sites document).Pairwise fun p q => p.path.same q.path = false ∨ p.key.same q.key = false := by
  unfold sites
  split
  · rename_i items hitems
    have hmap : (Value.map items).WellFormed := by
      rw [← hitems]
      exact hwf.getD "paths"
    obtain ⟨hpaths, hvalues⟩ := Value.wellFormed_map_iff.1 hmap
    rw [List.pairwise_flatMap]
    constructor
    · -- sites of one item have different keys
      intro e he
      unfold itemSites
      split
      · rename_i es hes
        have hitem := isInherited_wellFormed.follow hwf (hvalues e he) hes
        exact List.pairwise_map.2 ((Value.wellFormed_map_iff.1 hitem).1.imp fun h => Or.inr h)
      · exact List.Pairwise.nil
    · -- sites of two items have different paths
      refine hpaths.imp fun {a b} hab p hp q hq => Or.inl ?_
      rw [path_of_mem_itemSites hp, path_of_mem_itemSites hq]
      exact hab
  · exact List.Pairwise.nil

/-- The operations of a document are read at its sites, in order. -/
theorem operations_of_sites {os : List Operation}
    (h : (operations settings version document table).result = .ok os) :
    List.Forall₂ (Site.Reads settings version document table) (operationSites document) os := by
  obtain ⟨paths, items, oss, hpaths, hitems, hoss, rfl⟩ := operations_eq_ok_iff.1 h
  obtain rfl : paths = document.getD "paths" := Value.eq_getD_of_under hpaths
  have hmem := (List.forall₂_and_left _ _).2 ⟨fun e he => he, hoss⟩
  have hitem : List.Forall₂ (List.Forall₂ (Site.Reads settings version document table))
      (items.map fun e => (itemSites document e).filter Site.isOperation) oss :=
    List.forall₂_map_left_iff.2 <| hmem.imp fun e os hos =>
      itemOperations_of_sites hitems hos.1 hos.2
  unfold operationSites
  rw [sites_eq_flatMap hitems, List.filter_flatMap, List.flatMap_def]
  exact List.rel_flatten hitem

theorem Site.Gives.same_self {site : Site} {o : Operation} (h : site.Gives o) :
    site.path.same site.path = true ∧ site.key.same site.key = true := by
  refine ⟨?_, by rw [h.method, Entries.same_text]⟩
  rcases h.path with hp | ⟨bs, hp, -⟩
  · rw [Value.scalar.inj hp, Entries.same_text]
  · rw [Value.scalar.inj hp]
    simp [Scalar.same, Scalar.toInt?]

/-- No two sites for operations have the same path and key, once the operations are read. -/
theorem nodup_operationSites (hwf : document.WellFormed) {os : List Operation}
    (h : (operations settings version document table).result = .ok os) :
    ((operationSites document).map fun p => (p.path, p.key)).Nodup := by
  have hdistinct : (operationSites document).Pairwise _ := (distinct_sites hwf).filter _
  refine List.pairwise_map.2 (hdistinct.imp_of_mem fun {p q} hp _ hpq heq => ?_)
  obtain ⟨o, -, hreads⟩ := exists_right_of_forall₂ (operations_of_sites h) hp
  have hgives := hreads.gives
  obtain ⟨hpath, hkey⟩ := Prod.mk.inj heq
  rw [← hpath, ← hkey, hgives.same_self.1, hgives.same_self.2] at hpq
  rcases hpq with hpq | hpq <;> cases hpq

/-- **No operation is lost, invented, duplicated or reordered.** The operations of a document stand
one by one beside its sites for operations, path by path and then key by key: each has the method
that is the key of its site, the path that the path of its site spells, and the identifier that the
map there spells, which is not empty. No two of those sites have the same path and key. So if no
path is given by bytes, no two operations have the same path and method. -/
theorem operations_one_by_one (hwf : document.WellFormed) {os : List Operation}
    (h : (operations settings version document table).result = .ok os) :
    List.Forall₂ Site.Gives (operationSites document) os ∧
    ((operationSites document).map fun p => (p.path, p.key)).Nodup ∧
    ((∀ p ∈ operationSites document, ∀ bs, p.path ≠ .bytes bs) →
      (os.map fun o => (o.path, o.method)).Nodup) := by
  have hall := (operations_of_sites h).imp fun _ _ hreads => hreads.gives
  have hnodup := nodup_operationSites hwf h
  refine ⟨hall, hnodup, fun hbytes => ?_⟩
  have hmem := (List.forall₂_and_left _ os).2 ⟨fun p hp => hp, hall⟩
  refine List.pairwise_map.2 (pairwise_of_forall₂ hmem (List.pairwise_map.1 hnodup) ?_)
  intro p q o o' ⟨hp, hgives⟩ ⟨hq, hgives'⟩ hne heq
  obtain ⟨hpath, hmethod⟩ := Prod.mk.inj heq
  have htext : ∀ {p : Site} {o : Operation}, p ∈ operationSites document → p.Gives o →
      p.path = .text o.path := by
    intro p o hp hgives
    rcases hgives.path with htext | ⟨bs, hb, -⟩
    · exact Value.scalar.inj htext
    · exact absurd (Value.scalar.inj hb) (hbytes p hp bs)
  apply hne
  rw [htext hp hgives, htext hq hgives', hgives.method, hgives'.method, hpath, hmethod]

/-- The item of two paths, with keys that are no methods around and between two that are. -/
def perches : Value :=
  .record [("summary", .text "Perches"), ("put", .record [("operationId", .text "move")]),
    ("x-note", .record [("operationId", .text "none")]), ("GET", .record []),
    ("get", .record [("operationId", .text "see")]), ("delete", .text "never")]

/-- What leads to it. -/
def toPerches : Value := .record [("$ref", .text "#/x-items/perches")]

/-- A document with two paths that lead to one item, and a path that leads to no map. -/
def loft : Value :=
  .record [("paths", .record [("/north", toPerches), ("/south", toPerches),
      ("/west", .text "closed")]),
    ("x-items", .record [("perches", perches)])]

/-- The operations of the item at a path. -/
def perchOperations (path : String) : List Operation :=
  [⟨"move", .put, path, false, [], [], none, none, []⟩,
    ⟨"see", .get, path, false, [], [], none, none, []⟩]

theorem itemOperations_toPerches (path : String) :
    (itemOperations {} .openApi3 loft [] (.text path) toPerches).result =
      .ok (perchOperations path) := by
  have hfind : Reference.find loft "#/x-items/perches" = .ok perches := by cbv
  have hfollow : follow loft toPerches = .ok perches :=
    (Reference.follow_reference_eq_ok_iff rfl).2 ⟨perches, hfind, by cbv⟩
  refine itemOperations_eq_ok_iff.2 ⟨perches, hfollow, [], by cbv, ?_⟩
  exact .cons (by cbv) (.cons (by cbv) .nil)

theorem operations_loft :
    loft.WellFormed ∧ ∃ os, (operations {} .openApi3 loft []).result = .ok os ∧
      os = perchOperations "/north" ++ perchOperations "/south" ∧
      List.Forall₂ Site.Gives (operationSites loft) os ∧
      (∀ p ∈ operationSites loft, ∀ bs, p.path ≠ .bytes bs) ∧
      (os.map fun o => (o.path, o.method)).Nodup := by
  have hwf : loft.WellFormed := by
    simp [loft, toPerches, perches, Value.record, Value.WellFormed, Value.entriesWellFormed,
      Entries.Distinct, Scalar.same, Scalar.toInt?]
  have hread : (operations {} .openApi3 loft []).result =
      .ok (perchOperations "/north" ++ perchOperations "/south") :=
    operations_eq_ok_iff.2 ⟨_, _, [perchOperations "/north", perchOperations "/south", []],
      rfl, rfl,
      .cons (itemOperations_toPerches _) (.cons (itemOperations_toPerches _) (.cons (by cbv) .nil)),
      rfl⟩
  obtain ⟨hall, -, hnodup⟩ := operations_one_by_one hwf hread
  have htext : ∀ p ∈ operationSites loft, ∀ bs, p.path ≠ .bytes bs := by
    intro p hp bs hb
    have hsite : p ∈ sites loft := List.mem_of_mem_filter hp
    rw [sites_eq_flatMap rfl] at hsite
    obtain ⟨e, he, hp⟩ := List.mem_flatMap.1 hsite
    obtain rfl | rfl | rfl := by simpa [loft, Value.record] using he
    all_goals cases (path_of_mem_itemSites hp).symm.trans hb
  exact ⟨hwf, _, hread, rfl, hall, htext, hnodup htext⟩

/-- A document with one path twice: as a text, and as the bytes that encode it. -/
def twins : Value :=
  .record [("paths", .map
    [(.text "/a", .record [("get", .record [("operationId", .text "first")])]),
      (.bytes [47, 97], .record [("get", .record [("operationId", .text "second")])])])]

/-- Its operations. -/
def twinOperations : List Operation :=
  [⟨"first", .get, "/a", false, [], [], none, none, []⟩,
    ⟨"second", .get, "/a", false, [], [], none, none, []⟩]

/-- Its two operations have the same path and method, and the path of one is not its key. -/
theorem operations_twins :
    twins.WellFormed ∧ (operations {} .openApi3 twins []).result = .ok twinOperations ∧
      ¬ (twinOperations.map fun o => (o.path, o.method)).Nodup ∧
      ¬ List.Forall₂ (fun (p : Site) o => p.path = .text o.path) (operationSites twins)
        twinOperations := by
  have hwf : twins.WellFormed := by
    simp [twins, Value.record, Value.WellFormed, Value.entriesWellFormed, Entries.Distinct,
      Scalar.same, Scalar.toInt?]
  have hread : (operations {} .openApi3 twins []).result = .ok twinOperations := by cbv
  have hpaths : (operationSites twins).map Site.path = [.text "/a", .bytes [47, 97]] := by cbv
  refine ⟨hwf, hread, by decide, fun hall => ?_⟩
  have hbytes : .bytes [47, 97] ∈ (operationSites twins).map Site.path := by rw [hpaths]; simp
  obtain ⟨p, hp, hpath⟩ := List.mem_map.1 hbytes
  obtain ⟨o, -, htext⟩ := exists_right_of_forall₂ hall hp
  rw [hpath] at htext
  cases htext

end ApiModel.Document
