import ApiModel.Document.Parameters
import ApiModel.Proofs.Document.Links
import ApiModel.Proofs.Keyed
import ApiModel.Proofs.Reference.Chain

/-!
# Shared parameters and what refers to them

An operation looks a reference up in the table of shared parameters, by its text. The reference as
such leads through the document, segment by segment and possibly through further references. What
stands in the table is what is reached that way.

* `parameter_eq_ok_iff`: what a parameter consists of, whatever form it is checked as.
* `sharedParameters_eq_ok_iff`: the table is made of the entries of the container, in order.
* `shared_parameters_resolved`: each entry of the container stands once in the table, under its
  reference, and is the parameter described at the end of that reference.
-/

namespace ApiModel.Document

open Reference (Layout follow reference)

variable {version : Version} {document v : Value}

/-! ## One parameter -/

theorem parameter_eq_ok_iff {form : Form} {p : Parameter} :
    (parameter form version v).result = .ok p ↔
      v.getD "name" = .text p.name ∧ locationOf p.name (v.getD "in") = .ok p.location ∧
      (parameterType version p.location v).result = .ok p.type ∧
      (v.getD "description").checkTextOrNull = .ok p.description ∧
      p.required = ((v.getD "required").isTruthy || p.location == .path) := by
  unfold parameter Value.checkedAs
  split
  · rename_i name hname
    simp only [hname, Traced.result_bind, Traced.result_lift, Traced.result_pure, bind_eq_ok_iff,
      mapError_eq_ok_iff, Checked.within_eq_ok_iff]
    constructor
    · rintro ⟨location, hlocation, type, htype, description, hdescription, hp⟩
      cases hp
      exact ⟨rfl, hlocation, htype, hdescription, rfl⟩
    · rintro ⟨hn, hlocation, htype, hdescription, hrequired⟩
      rw [Value.scalar.injEq, Scalar.text.injEq] at hn
      rw [← hn] at hlocation
      refine ⟨p.location, hlocation, p.type, htype, p.description, hdescription, ?_⟩
      rw [hn, ← hrequired]
  · rename_i hne
    refine ⟨nofun, ?_⟩
    rintro ⟨hn, -⟩
    exact absurd hn (hne _)

/-! ## The table -/

theorem sharedParameter_eq_ok_iff {key : Scalar} {p : SharedParameter} :
    (sharedParameter version document key v).result = .ok p ↔
      ∃ name w, key = .text name ∧ p.ref = reference (Layout.of version).parameters name ∧
        follow document v = .ok w ∧
        (parameter .sharedParameter version w).result = .ok p.toParameter := by
  unfold sharedParameter
  simp only [Traced.result_bind, Traced.result_lift, Traced.result_pure, bind_eq_ok_iff,
    referenceTo_eq_ok_iff]
  constructor
  · rintro ⟨ref, ⟨name, rfl, rfl⟩, w, hw, q, hq, hp⟩
    cases hp
    exact ⟨name, w, rfl, rfl, hw, hq⟩
  · rintro ⟨name, w, rfl, href, hw, hp⟩
    refine ⟨_, ⟨name, rfl, rfl⟩, w, hw, _, hp, ?_⟩
    rw [← href]

theorem sharedParameters_eq_ok_iff {table : Table} :
    (sharedParameters version document).result = .ok table ↔
      ∃ ps, List.Forall₂ (fun e p => (sharedParameter version document e.1 e.2).result = .ok p)
        (container document (Layout.of version).parameters) ps ∧
        table = Keyed.ofList (·.ref) ps := by
  unfold sharedParameters
  simp only [Traced.result_bind, Traced.result_mapM, Traced.result_pure, bind_eq_ok_iff,
    mapM_eq_ok_iff, Except.ok.injEq]
  simp only [eq_comm (a := table)]

/-- A shared parameter is described where the references of an entry lead. -/
theorem exists_entry_of_mem_sharedParameters {table : Table}
    (h : (sharedParameters version document).result = .ok table) {p : SharedParameter}
    (hp : p ∈ table) :
    ∃ e ∈ container document (Layout.of version).parameters, ∃ w, follow document e.2 = .ok w ∧
      (parameter .sharedParameter version w).result = .ok p.toParameter := by
  obtain ⟨ps, hps, rfl⟩ := sharedParameters_eq_ok_iff.1 h
  obtain ⟨before, after, rfl, -⟩ := Keyed.mem_ofList_iff.1 hp
  obtain ⟨e, he, hshared⟩ := exists_left_of_forall₂ hps (List.mem_append_right _ List.mem_cons_self)
  obtain ⟨name, w, -, -, hw, hparameter⟩ := sharedParameter_eq_ok_iff.1 hshared
  exact ⟨e, he, w, hw, hparameter⟩

/-- No two entries of a well-formed container have one reference. -/
theorem nodup_refs (hwf : document.WellFormed) {ps : List SharedParameter}
    (h : List.Forall₂ (fun e p => (sharedParameter version document e.1 e.2).result = .ok p)
      (container document (Layout.of version).parameters) ps) :
    (ps.map (·.ref)).Nodup := by
  have hdistinct := distinct_container hwf (Layout.of version).parameters
  refine List.pairwise_map.2 (pairwise_of_forall₂ h hdistinct ?_)
  intro e e' p p' hp hp' hne href
  obtain ⟨name, _, hkey, hname, -⟩ := sharedParameter_eq_ok_iff.1 hp
  obtain ⟨name', _, hkey', hname', -⟩ := sharedParameter_eq_ok_iff.1 hp'
  have hsame : name = name' := by
    apply Reference.reference_injective (Layout.of version).parameters
    rw [← hname, ← hname', href]
  rw [hkey, hkey', hsame, Entries.same_text.2 rfl] at hne
  cases hne

/-- The table of a well-formed document holds what its container describes, entry by entry. -/
theorem table_of_container (hwf : document.WellFormed) {table : Table}
    (h : (sharedParameters version document).result = .ok table) :
    (table.map (·.ref)).Nodup ∧
    List.Forall₂ (fun e p => (sharedParameter version document e.1 e.2).result = .ok p)
      (container document (Layout.of version).parameters) table := by
  obtain ⟨ps, hps, rfl⟩ := sharedParameters_eq_ok_iff.1 h
  have hnodup := nodup_refs hwf hps
  rw [Keyed.ofList_of_nodup hnodup]
  exact ⟨hnodup, hps⟩

/-! ## Looking references up -/

theorem find?_of_mem {table : Table} (hnodup : (table.map (·.ref)).Nodup) {p : SharedParameter}
    (hp : p ∈ table) : table.find? p.ref = some p :=
  (Keyed.find?_eq_some_of_nodup hnodup).2 ⟨hp, rfl⟩

/-- The reference to an entry of a container leads to that entry. -/
theorem find_reference (hwf : document.WellFormed) {name : String}
    (h : (.text name, v) ∈ container document (Layout.of version).parameters) :
    Reference.find document (reference (Layout.of version).parameters name) = .ok v := by
  have hdistinct := distinct_container hwf (Layout.of version).parameters
  rw [reference, find_eq_ok_iff (plainKey_of_parameters version) (notList_of_mem_container h)
    (Reference.not_mem_escape _), Reference.unescape_escape, String.ofList_toList]
  exact hdistinct.lookup_of_mem h

/-- **Shared parameters are what their references lead to.** The entries of the table are those of
the container, one for each key, in its order and under distinct references. An operation that
refers to one by the reference to its key takes that entry. The same reference, followed through the
document, ends at a value, and that value described in place is the same parameter. -/
theorem shared_parameters_resolved {table : Table} (hwf : document.WellFormed)
    (h : (sharedParameters version document).result = .ok table) :
    (table.map (·.ref)).Nodup ∧
    List.Forall₂ (fun e p =>
      ∃ name, e.1 = .text name ∧ p.ref = reference (Layout.of version).parameters name ∧
        argument version table (.record [("$ref", .text p.ref)]) = pure (.shared p) ∧
        ∃ w, follow document (.record [("$ref", .text p.ref)]) = .ok w ∧
          (argument version table w).result = .ok (.own p.toParameter))
      (container document (Layout.of version).parameters) table := by
  obtain ⟨hnodup, htable⟩ := table_of_container hwf h
  refine ⟨hnodup, ?_⟩
  have hmem := (List.forall₂_and_left _ _).2 ⟨fun e he => he, htable⟩
  have hmem' := ((List.forall₂_and_left _ _).2 ⟨fun p hp => hp, hmem.flip⟩).flip
  refine hmem'.imp fun e p hep => ?_
  obtain ⟨hp, he, hshared⟩ := hep
  obtain ⟨name, w, hkey, href, hw, hparameter⟩ := sharedParameter_eq_ok_iff.1 hshared
  have hget : (Value.record [("$ref", .text p.ref)]).get? "$ref" = some (.text p.ref) := rfl
  refine ⟨name, hkey, href, argument_shared hget (find?_of_mem hnodup hp), w, ?_, ?_⟩
  · obtain ⟨key, raw⟩ := e
    obtain rfl : key = .text name := hkey
    refine (Reference.follow_reference_eq_ok_iff hget).2 ⟨raw, ?_, hw⟩
    rw [href]
    exact find_reference hwf he
  · have hown : (parameter .parameter version w).result = .ok p.toParameter :=
      parameter_eq_ok_iff.2 (parameter_eq_ok_iff.1 hparameter)
    rw [argument_of_no_reference (Reference.get?_of_follow hw), Traced.result_bind, hown]
    rfl

/-- The description of a parameter. -/
def limit : Value :=
  .record [("name", .text "limit"), ("in", .text "query"), ("type", .text "integer")]

/-- A document with three shared parameters: one whose name has to be escaped, one without a name,
which leads to the third, and that leads on to the first. -/
def aviary : Value :=
  .record [("parameters", .record
    [("a/b~", limit), ("", .record [("$ref", .text "#/parameters/alias")]),
      ("alias", .record [("$ref", .text "#/parameters/a~1b~0")])])]

/-- The table of those parameters. -/
def aviaryTable : Table :=
  let p : Parameter := ⟨"limit", .query, false, .primitive .number, none⟩
  [⟨p, "#/parameters/a~1b~0"⟩, ⟨p, "#/parameters/"⟩, ⟨p, "#/parameters/alias"⟩]

theorem sharedParameters_aviary : (sharedParameters .swagger2 aviary).result = .ok aviaryTable := by
  have hlimit : follow aviary limit = .ok limit := Reference.follow_eq_ok_iff.2 ⟨[], .here rfl⟩
  have halias : follow aviary (.record [("$ref", .text "#/parameters/a~1b~0")]) = .ok limit :=
    (Reference.follow_reference_eq_ok_iff rfl).2 ⟨limit, by cbv, hlimit⟩
  have hempty : follow aviary (.record [("$ref", .text "#/parameters/alias")]) = .ok limit :=
    (Reference.follow_reference_eq_ok_iff rfl).2 ⟨_, by cbv, halias⟩
  refine sharedParameters_eq_ok_iff.2 ⟨aviaryTable, .cons ?_ (.cons ?_ (.cons ?_ .nil)), by cbv⟩
  · exact sharedParameter_eq_ok_iff.2 ⟨"a/b~", limit, rfl, rfl, hlimit, by cbv⟩
  · exact sharedParameter_eq_ok_iff.2 ⟨"", limit, rfl, rfl, hempty, by cbv⟩
  · exact sharedParameter_eq_ok_iff.2 ⟨"alias", limit, rfl, rfl, halias, by cbv⟩

theorem shared_parameters_aviary :
    aviary.WellFormed ∧ (sharedParameters .swagger2 aviary).result = .ok aviaryTable ∧
    (aviaryTable.map (·.ref)).Nodup ∧
    ∀ p ∈ aviaryTable, ∃ w, follow aviary (.record [("$ref", .text p.ref)]) = .ok w ∧
      (argument .swagger2 aviaryTable w).result = .ok (.own p.toParameter) := by
  have hwf : aviary.WellFormed := by
    simp [aviary, limit, Value.record, Value.WellFormed, Value.entriesWellFormed, Entries.Distinct,
      Scalar.same, Scalar.toInt?]
  obtain ⟨hnodup, hall⟩ := shared_parameters_resolved hwf sharedParameters_aviary
  refine ⟨hwf, sharedParameters_aviary, hnodup, fun p hp => ?_⟩
  obtain ⟨e, -, name, -, -, -, hw⟩ := exists_left_of_forall₂ hall hp
  exact hw

end ApiModel.Document
