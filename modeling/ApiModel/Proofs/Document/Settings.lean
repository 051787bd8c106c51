import ApiModel.Proofs.Declaration.Order
import ApiModel.Proofs.Document.Links
import ApiModel.Proofs.Document.Locations

/-!
# What the settings can change

The settings name the media types that count as JSON and say whether declarations are put into
order. Two readings of one document with different settings differ in the order of the
declarations, and in whether operations have a body, and in nothing else.

* `operations_congr`: with the same media types the operations are read in the same way.
* `orBody_allParameters`: the parameters of an operation are the same ones, before its body.
* `perm_arranged`: however declarations are arranged, they are the same ones.
* `settings_noninterference`: two readings of a whole document.
-/

namespace ApiModel.Document

open Reference (Layout)

variable {s t : Settings} {version : Version} {document v : Value} {table : Table}

/-! ## The same media types -/

/-- The same media types count as JSON, and are as welcome. -/
structure SameMedia (s t : Settings) : Prop where
  /-- The same ones are named. -/
  named : s.jsonMediaTypes = t.jsonMediaTypes
  /-- The same ones are accepted for their endings. -/
  accepted : s.acceptJsonSuffix = t.acceptJsonSuffix

theorem pick_congr (h : SameMedia s t) : pick s = pick t := by
  have hcounts : countsAsJson s = countsAsJson t := by
    funext v
    unfold countsAsJson Settings.isJson
    rw [h.named, h.accepted]
  have hfirst : ∀ vs, firstJson s vs = firstJson t vs := by
    intro vs
    induction vs with
    | nil => rfl
    | cons v vs ih =>
      unfold firstJson
      rw [hcounts, ih]
  funext vs
  unfold pick
  rw [h.named, hfirst vs]

theorem operations_congr (h : SameMedia s t) :
    operations s version document table = operations t version document table := by
  have hbody : requestBody s = requestBody t := by
    funext version document operation as
    unfold requestBody lastBody keyedBody canSend
    simp only [pick_congr h]
  unfold operations itemOperations operation allParameters
  simp only [hbody]

/-- Two results end alike: both are successes, or both are the same failure. -/
def EndAlike {α β : Type} (x : Except Failure α) (y : Except Failure β) : Prop :=
  ((∃ a, x = .ok a) ∧ ∃ b, y = .ok b) ∨ ∃ e, x = .error e ∧ y = .error e

theorem EndAlike.bind {α β γ : Type} {x : Except Failure α} {f : α → Except Failure β}
    {g : α → Except Failure γ} (h : ∀ a, EndAlike (f a) (g a)) : EndAlike (x >>= f) (x >>= g) := by
  cases x with
  | ok a => exact h a
  | error e => exact Or.inr ⟨e, rfl, rfl⟩

theorem endAlike_read (h : SameMedia s t) :
    EndAlike (read s document).result (read t document).result := by
  unfold read
  simp only [Traced.result_bind, Traced.result_lift, operations_congr h]
  -- only what is returned in the end depends on the settings
  refine .bind fun version => .bind fun _ => .bind fun ds => .bind fun table => .bind fun os => ?_
  exact Or.inl ⟨⟨_, rfl⟩, ⟨_, rfl⟩⟩

/-! ## The order of declarations -/

/-- However declarations are arranged, they are the same ones. -/
theorem perm_arranged {ds : List Declaration} (h : (Declaration.names ds).Nodup) :
    (arranged s ds).Perm ds := by
  unfold arranged
  split
  · have hperm := Declaration.perm_order ds
    rwa [Declaration.firsts_of_nodup h] at hperm
  · exact List.Perm.refl ds

theorem nodup_names_declarations (hwf : document.WellFormed) {ds : List Declaration}
    (h : (declarations version document).result = .ok ds) : (Declaration.names ds).Nodup :=
  (distinct_container hwf _).nodup_keys (keys_container h)

/-! ## The bodies of operations -/

/-- A list of arguments is a given one, or that with a body after it. -/
def OrBody (front as : List Argument) : Prop :=
  as = front ∨
    ∃ p : Parameter, p.name = bodyName ∧ p.location = .body ∧ as = front ++ [.own p]

/-- Two operations agree in everything but, at most, a body that one of them has. -/
structure AgreeButBody (o o' : Operation) : Prop where
  /-- All that is not a parameter is the same. -/
  rest : { o with parameters := [] } = { o' with parameters := [] }
  /-- The parameters are the same before the body. -/
  parameters : ∃ front, OrBody front o.parameters ∧ OrBody front o'.parameters

theorem orBody_allParameters {ofPath own as : List Argument}
    (hown : (arguments version table v).result = .ok own)
    (h : (allParameters s version document v table ofPath).result = .ok as) :
    OrBody (listed version (combined ofPath own)) as := by
  obtain ⟨own', body, hown', hbody, rfl⟩ := allParameters_eq_ok_iff.1 h
  cases hown.symm.trans hown'
  cases body with
  | none => exact Or.inl (List.append_nil _)
  | some p =>
    obtain ⟨hname, hlocation⟩ := requestBody_eq_some hbody
    exact Or.inr ⟨p, hname, hlocation, rfl⟩

theorem agree_operation {path : Scalar} {method : Method} {ofPath : List Argument}
    {o o' : Operation}
    (h : (operation s version document table path method ofPath v).result = .ok o)
    (h' : (operation t version document table path method ofPath v).result = .ok o') :
    AgreeButBody o o' := by
  obtain ⟨-, hmethod, hparameters, hrs, ⟨tags, htags, htexts⟩, hdeprecated⟩ :=
    operation_eq_ok_iff.1 h
  obtain ⟨-, hmethod', hparameters', hrs', ⟨tags', htags', htexts'⟩, hdeprecated'⟩ :=
    operation_eq_ok_iff.1 h'
  cases htags.symm.trans htags'
  have htexts := Except.ok.inj (htexts.symm.trans htexts')
  simp only [Prod.mk.injEq] at htexts
  obtain ⟨⟨⟨hid, hpath⟩, hdescription, hsummary⟩, htags⟩ := htexts
  constructor
  · rw [Operation.mk.injEq]
    exact ⟨hid, hmethod.trans hmethod'.symm, hpath, hdeprecated.trans hdeprecated'.symm, rfl,
      Except.ok.inj (hrs.symm.trans hrs'), hdescription, hsummary, htags⟩
  · obtain ⟨own, -, hown, -⟩ := allParameters_eq_ok_iff.1 hparameters
    exact ⟨_, orBody_allParameters hown hparameters, orBody_allParameters hown hparameters'⟩

theorem agree_itemOperations {path : Scalar} {os os' : List Operation}
    (h : (itemOperations s version document table path v).result = .ok os)
    (h' : (itemOperations t version document table path v).result = .ok os') :
    List.Forall₂ AgreeButBody os os' := by
  obtain ⟨w, hw, hos⟩ := itemOperations_eq_ok_iff.1 h
  obtain ⟨w', hw', hos'⟩ := itemOperations_eq_ok_iff.1 h'
  cases hw.symm.trans hw'
  split at hos
  · obtain ⟨ofPath, hofPath, hall⟩ := hos
    obtain ⟨ofPath', hofPath', hall'⟩ := hos'
    cases hofPath.symm.trans hofPath'
    exact forall₂_comp hall.flip hall' fun o e o' ho ho' => agree_operation ho ho'
  · rename_i hne
    split at hos'
    · exact absurd rfl (hne _)
    · rw [hos, hos']
      exact .nil

theorem agree_operations {os os' : List Operation}
    (h : (operations s version document table).result = .ok os)
    (h' : (operations t version document table).result = .ok os') :
    List.Forall₂ AgreeButBody os os' := by
  obtain ⟨paths, items, oss, hpaths, hitems, hoss, rfl⟩ := operations_eq_ok_iff.1 h
  obtain ⟨paths', items', oss', hpaths', hitems', hoss', rfl⟩ := operations_eq_ok_iff.1 h'
  cases hpaths.symm.trans hpaths'
  cases hitems.symm.trans hitems'
  have hitem : List.Forall₂ (List.Forall₂ AgreeButBody) oss oss' :=
    forall₂_comp hoss.flip hoss' fun os e os' hos hos' => agree_itemOperations hos hos'
  exact List.rel_flatten hitem

/-! ## Whole documents -/

/-- Two interfaces agree but for the order of the declarations and the bodies of operations. -/
structure Agree (a b : Api) : Prop where
  /-- The version is the same. -/
  version : a.version = b.version
  /-- The declarations are the same, in some order. -/
  declarations : a.declarations.Perm b.declarations
  /-- The shared parameters are the same. -/
  parameters : a.parameters = b.parameters
  /-- The operations agree one by one. -/
  operations : List.Forall₂ AgreeButBody a.operations b.operations

/-- **The settings change nothing else.** Two readings of a document whose settings have the same
media types succeed both or fail in the same way. Whenever two readings succeed, the interfaces
agree but for the order of the declarations and the bodies of operations. The order is the same if
both or neither put declarations into order, and is that of the container if they do not. -/
theorem settings_noninterference (hwf : document.WellFormed) :
    (SameMedia s t → EndAlike (read s document).result (read t document).result) ∧
    ∀ a b, (read s document).result = .ok a → (read t document).result = .ok b →
      Agree a b ∧ (s.sortDeclarations = t.sortDeclarations → a.declarations = b.declarations) ∧
      (s.sortDeclarations = false → (Declaration.names a.declarations).map Scalar.text =
        (container document (Layout.of a.version).schemas).map Prod.fst) := by
  refine ⟨endAlike_read, fun a b ha hb => ?_⟩
  obtain ⟨hversion, -, ⟨ds, hds, harranged⟩, htable, hos⟩ := read_eq_ok_iff.1 ha
  obtain ⟨hversion', -, ⟨ds', hds', harranged'⟩, htable', hos'⟩ := read_eq_ok_iff.1 hb
  have hv : a.version = b.version := Except.ok.inj (hversion.symm.trans hversion')
  rw [← hv] at hds' htable' hos'
  obtain rfl : ds = ds' := Except.ok.inj (hds.symm.trans hds')
  have hp : a.parameters = b.parameters := Except.ok.inj (htable.symm.trans htable')
  rw [← hp] at hos'
  have hnodup := nodup_names_declarations hwf hds
  refine ⟨⟨hv, ?_, hp, agree_operations hos hos'⟩, fun hsort => ?_, fun hsort => ?_⟩
  · rw [harranged, harranged']
    exact (perm_arranged hnodup).trans (perm_arranged hnodup).symm
  · rw [harranged, harranged', arranged, arranged, hsort]
  · rw [harranged, arranged_of_not_sort hsort, keys_container hds]

/-- The description of a body whose media type only ends like that of JSON. -/
def parcel : Value :=
  .record [("content", .record [("application/hal+json",
    .record [("schema", .record [("$ref", .text "#/components/schemas/crate")])])])]

/-- A document with a body of that kind, and with a schema before the one that it refers to. -/
def harbour : Value :=
  .record [("openapi", .text "3.0.0"),
    ("paths", .record [("/quay", .record [("put",
      .record [("operationId", .text "land"), ("requestBody", parcel)])])]),
    ("components", .record [("schemas", .record [
      ("crate", .record [("$ref", .text "#/components/schemas/plank")]),
      ("plank", .record [("type", .text "string")])])])]

/-- The declaration of the first schema. -/
def crate : Declaration := ⟨"crate", "#/components/schemas/crate", .named "plank", none⟩

/-- The declaration of the second schema. -/
def plank : Declaration := ⟨"plank", "#/components/schemas/plank", .primitive .string, none⟩

/-- What is read from that document, but for the order of the declarations and the body. -/
def harbourApi (ds : List Declaration) (body : List Argument) : Api :=
  { version := .openApi3, declarations := ds, parameters := []
    operations := [
      { id := "land", method := .put, path := "/quay", deprecated := false, parameters := body
        responses := [], description := none, summary := none, tags := [] }] }

/-- Settings under which only the named media type counts as JSON, and nothing is put into order. -/
def strict : Settings := { acceptJsonSuffix := false, sortDeclarations := false }

theorem order_crate_plank : Declaration.order [crate, plank] = [plank, crate] := by
  have hcrate : Declaration.dependencies ["crate", "plank"] crate = ["plank"] := by decide
  have hplank : Declaration.dependencies ["crate", "plank"] plank = [] := by decide
  show Declaration.search (Declaration.dependencies ["crate", "plank"]) [crate, plank] [] = _
  rw [Declaration.search_root, hcrate, Declaration.search_enter (e := plank) rfl, hplank,
    Declaration.search_emit]
  show plank :: Declaration.search _ [] [⟨crate, []⟩] = _
  rw [Declaration.search_emit, Declaration.search_nil]

theorem settings_noninterference_harbour :
    let body : Argument := .own ⟨bodyName, .body, false, .named "crate", none⟩
    let a := harbourApi [plank, crate] [body]
    let b := harbourApi [crate, plank] []
    harbour.WellFormed ∧ (read {} harbour).result = .ok a ∧ (read strict harbour).result = .ok b ∧
      Agree a b ∧
      EndAlike (read {} harbour).result (read { sortDeclarations := false } harbour).result := by
  intro body a b
  have hwf : harbour.WellFormed := by
    simp [harbour, parcel, Value.record, Value.WellFormed, Value.entriesWellFormed,
      Entries.Distinct, Scalar.same, Scalar.toInt?]
  have hcheck : Reference.checkDocument harbour = .ok () := rfl
  have hds : (declarations .openApi3 harbour).result = .ok [crate, plank] := by cbv
  have ha : (read {} harbour).result = .ok a :=
    read_eq_ok_iff.2 ⟨by cbv, hcheck, ⟨_, hds, order_crate_plank.symm⟩, by cbv, by cbv⟩
  have hb : (read strict harbour).result = .ok b :=
    read_eq_ok_iff.2 ⟨by cbv, hcheck, ⟨_, hds, rfl⟩, by cbv, by cbv⟩
  obtain ⟨-, hagree⟩ := settings_noninterference (s := {}) (t := strict) hwf
  obtain ⟨hend, -⟩ :=
    settings_noninterference (s := {}) (t := { sortDeclarations := false }) hwf
  exact ⟨hwf, ha, hb, (hagree a b ha hb).1, hend ⟨rfl, rfl⟩⟩

end ApiModel.Document
