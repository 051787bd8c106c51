import ApiModel.Proofs.Document.Operations
import ApiModel.Proofs.Reference.Agreement

/-!
# Paths are independent

What is read from the item of a path depends on the item, on the table of shared parameters, and on
what references lead to. If no reference leads into the paths, the other paths play no part in it.
So the paths of a document may be read in two goes, each from a document with only some of them.

* `withPaths`: a document with other paths.
* `itemOperations_congr`: documents that agree apart from their paths give the same operations.
* `operations_split`: the operations of two runs of paths are those of the first and the second.
-/

namespace ApiModel.Document

open Reference (follow)
open Value (AgreeApart StaysOut)

/-! ## Documents that differ in their paths -/

/-- A document with other paths. -/
def withPaths (document : Value) (paths : Entries) : Value :=
  match document with
  | .map es => .map (Entries.put es (.text "paths") (.map paths))
  | v => v

/-- Two documents agree apart from their paths, and no reference of the first leads there. -/
structure AgreeOutside (document document' : Value) : Prop where
  /-- Under every other key they have the same value. -/
  agree : document.AgreeApart "paths" document'
  /-- No reference leads into the paths. -/
  staysOut : document.StaysOut "paths"

theorem agreeOutside_withPaths {document v : Value} (ps : Entries)
    (hpaths : document.get? "paths" = some v) (hd : document.StaysOut "paths") :
    AgreeOutside document (withPaths document ps) := by
  obtain ⟨es, rfl, -⟩ := Value.mem_of_get? hpaths
  refine ⟨⟨es, _, rfl, rfl, fun key hkey => ?_⟩, hd⟩
  rw [Entries.lookup_put_of_ne es _ hkey]

theorem get?_withPaths {document v : Value} (ps : Entries)
    (hpaths : document.get? "paths" = some v) :
    (withPaths document ps).get? "paths" = some (.map ps) := by
  obtain ⟨es, rfl, -⟩ := Value.mem_of_get? hpaths
  exact Entries.lookup_put_self es "paths" _

/-! ## What stays out of the paths -/

theorem staysOut_getD {v : Value} {key : String} (hv : v.StaysOut "paths") :
    (v.getD key).StaysOut "paths" := by
  unfold Value.getD
  cases hw : v.get? key with
  | none => exact nofun
  | some w => exact (isInherited_staysOut _).get? hv hw

theorem staysOut_of_entries {v : Value} {es : Entries} (hv : v.StaysOut "paths")
    (h : v.entries = .ok es) : ∀ e ∈ es, e.2.StaysOut "paths" := by
  intro e he
  obtain rfl := Value.eq_map_of_entries h he
  exact (isInherited_staysOut _).entry es hv e he

section Congruence

variable {d d' : Value} (h : AgreeOutside d d') {settings : Settings} {version : Version}
  {v : Value} {table : Table}

include h

theorem follow_congr_outside (hv : v.StaysOut "paths") : follow d v = follow d' v :=
  Reference.follow_congr (by decide) (by decide) h.agree h.staysOut hv

theorem getD_congr_outside {key : String} (hkey : key ≠ "paths") : d.getD key = d'.getD key := by
  obtain ⟨es, es', rfl, rfl, hsame⟩ := h.agree
  rw [Value.getD, Value.getD, Value.get?_map, Value.get?_map, hsame key hkey]

/-! ### Request bodies -/

theorem requestBody_congr (hv : v.StaysOut "paths") (as : List Argument) :
    requestBody settings version d v as = requestBody settings version d' v as := by
  unfold requestBody
  split
  · have hconsumes : d.getD "consumes" = d'.getD "consumes" := getD_congr_outside h (by decide)
    simp only [lastBody, consumes, hconsumes]
  · simp only [keyedBody, follow_congr_outside h (staysOut_getD hv)]

/-! ### Responses -/

theorem headers_congr (hv : v.StaysOut "paths") : headers version d v = headers version d' v := by
  unfold headers
  refine Traced.bind_congr_of_result fun es hes => mapM_congr fun e he => ?_
  have hclean := staysOut_of_entries (staysOut_getD hv) hes e he
  simp only [header, follow_congr_outside h hclean]

theorem bodies_congr (operation : Value) :
    bodies version d operation v = bodies version d' operation v := by
  have hproduces : d.getD "produces" = d'.getD "produces" := getD_congr_outside h (by decide)
  unfold bodies produces
  rw [hproduces]

theorem response?_congr (operation : Value) (key : Scalar) (hv : v.StaysOut "paths") :
    response? version d operation key v = response? version d' operation key v := by
  unfold response?
  rw [follow_congr_outside h hv]
  refine Traced.bind_congr_of_result fun r hr => ?_
  have hclean : r.StaysOut "paths" := by
    refine (isInherited_staysOut _).follow h.staysOut hv ?_
    rw [follow_congr_outside h hv]
    exact hr
  simp only [headers_congr h hclean, bodies_congr h operation]

theorem responses_congr (hv : v.StaysOut "paths") :
    responses version d v = responses version d' v := by
  unfold responses
  refine Traced.bind_congr_of_result fun es hes => ?_
  have hclean := staysOut_of_entries (staysOut_getD hv) hes
  rw [mapM_congr fun e he => response?_congr h v e.1 (hclean e he)]

/-! ### Operations -/

theorem operation_congr (path : Scalar) (method : Method) (ofPath : List Argument)
    (hv : v.StaysOut "paths") :
    operation settings version d table path method ofPath v =
      operation settings version d' table path method ofPath v := by
  simp only [operation, allParameters, requestBody_congr h hv, responses_congr h hv]

/-- Documents that agree apart from their paths give the same operations for the item of a path. -/
theorem itemOperations_congr (path : Scalar) (hv : v.StaysOut "paths") :
    itemOperations settings version d table path v =
      itemOperations settings version d' table path v := by
  unfold itemOperations
  rw [follow_congr_outside h hv]
  refine Traced.bind_congr_of_result fun w hw => ?_
  split
  · rename_i es
    have hclean : (Value.map es).StaysOut "paths" := by
      refine (isInherited_staysOut _).follow h.staysOut hv ?_
      rw [follow_congr_outside h hv]
      exact hw
    refine Traced.bind_congr_of_result fun ofPath _ => mapM_congr fun m hm => ?_
    obtain ⟨e, he, hm⟩ := List.mem_filterMap.1 hm
    obtain ⟨rfl, -⟩ := methodOf?_eq_some_iff.1 hm
    exact operation_congr h path m.1 ofPath ((isInherited_staysOut _).entry es hclean _ he)
  · rfl

end Congruence

/-! ## Runs of paths -/

section Runs

variable {document : Value} {settings : Settings} {version : Version} {table : Table}

theorem operations_of_paths {es : Entries} (h : document.get? "paths" = some (.map es)) :
    operations settings version document table =
      es.mapM (fun e => itemOperations settings version document table e.1 e.2) >>=
        fun os => pure os.flatten := by
  have hunder : document.under "paths" = .ok (.map es) := by
    obtain ⟨ds, rfl, -⟩ := Value.mem_of_get? h
    rw [Value.under, Value.getD_of_get? h]
    rfl
  rw [operations, hunder, Traced.lift_ok_bind, Value.entries_map, Traced.lift_ok_bind]

/-- The operations of a part of the paths are those of the document with this part only. -/
theorem operations_withPaths {es ps : Entries} (hpaths : document.get? "paths" = some (.map es))
    (hsub : ps ⊆ es) (hd : document.StaysOut "paths") :
    operations settings version (withPaths document ps) table =
      ps.mapM (fun e => itemOperations settings version document table e.1 e.2) >>=
        fun os => pure os.flatten := by
  have hclean : (Value.map es).StaysOut "paths" := (isInherited_staysOut _).get? hd hpaths
  rw [operations_of_paths (get?_withPaths ps hpaths)]
  congr 1
  refine mapM_congr fun e he => ?_
  have he : e.2.StaysOut "paths" := (isInherited_staysOut _).entry es hclean e (hsub he)
  exact (itemOperations_congr (agreeOutside_withPaths ps hpaths hd) e.1 he).symm

/-- **Paths are independent.** If no reference in a document leads into its paths, and the paths are
one run of entries and then another, the operations are those of the document with the first run and
then those of the document with the second. Where one of them fails, the document fails in the same
way, the first run before the second. -/
theorem operations_split {ps qs : Entries}
    (hpaths : document.get? "paths" = some (.map (ps ++ qs)))
    (hrefs : ∀ ref ∈ document.references, ¬ Reference.LeadsInto "paths" ref) :
    operations settings version document table = do
      let os ← operations settings version (withPaths document ps) table
      let os' ← operations settings version (withPaths document qs) table
      return os ++ os' := by
  rw [operations_of_paths hpaths,
    operations_withPaths hpaths (List.subset_append_left ps qs) hrefs,
    operations_withPaths hpaths (List.subset_append_right ps qs) hrefs, List.mapM_append]
  simp only [bind_assoc, pure_bind, List.flatten_append]

end Runs

/-- The path item of an operation without parts, but for a body that refers to a schema. -/
def landing (id : String) : Value :=
  .record [("post", .record [("operationId", .text id), ("requestBody", .record [("content", .record
    [("application/json", .record
      [("schema", .record [("$ref", .text "#/components/schemas/boat")])])])])])]

/-- A document with two paths. -/
def pier : Value :=
  .record [("openapi", .text "3.0.0"),
    ("paths", .record [("/left", landing "moor"), ("/right", landing "leave")])]

theorem operations_split_pier :
    (∀ ref ∈ pier.references, ¬ Reference.LeadsInto "paths" ref) ∧
    pier.references ≠ [] ∧
    operations {} .openApi3 pier [] = do
      let os ← operations {} .openApi3 (withPaths pier [(.text "/left", landing "moor")]) []
      let os' ← operations {} .openApi3 (withPaths pier [(.text "/right", landing "leave")]) []
      return os ++ os' := by
  have hrefs : ∀ ref ∈ pier.references, ¬ Reference.LeadsInto "paths" ref := by decide
  exact ⟨hrefs, by decide, operations_split rfl hrefs⟩

end ApiModel.Document
