import ApiModel.Proofs.Keyed
import ApiModel.Type.Basic

/-!
# Merged fields

`Field.merge` puts fields in one after another, so what is known of lists with keys holds of it.
Where a field stands and what it says come from different fields with its name: the place from the
first of them, the content from the last. A list that was merged has nothing more to merge, and it
counts in a longer list for as much as the list that it came from.

* `names_merge`, `mem_merge_iff`: the names of merged fields, and which fields are kept.
* `merge_of_nodup`, `merge_merge`: fields with distinct names stay as they are.
* `merge_append_congr`: lists with the same merged fields may stand for each other in a longer one.
* `merge_in_stages`: all of this, and that merging in stages changes nothing.
-/

namespace ApiModel.Field

/-! ## What is kept -/

/-- The names are those of the fields, each at its first occurrence. -/
theorem names_merge (fs : List Field) :
    (merge fs).map (·.name) = (fs.map (·.name)).eraseDups :=
  Keyed.keys_ofList _ fs

theorem nodup_names_merge (fs : List Field) : ((merge fs).map (·.name)).Nodup :=
  Keyed.nodup_keys_ofList _ fs

/-- The fields that are kept are those after which none with their name comes. -/
theorem mem_merge_iff {fs : List Field} {f : Field} :
    f ∈ merge fs ↔
      ∃ before after, fs = before ++ f :: after ∧ ∀ g ∈ after, g.name ≠ f.name :=
  Keyed.mem_ofList_iff

theorem mem_of_mem_merge {fs : List Field} {f : Field} (h : f ∈ merge fs) : f ∈ fs := by
  obtain ⟨before, after, rfl, -⟩ := mem_merge_iff.1 h
  exact List.mem_append_right _ List.mem_cons_self

/-! ## Stages -/

theorem merge_of_nodup {fs : List Field} (h : (fs.map (·.name)).Nodup) : merge fs = fs :=
  Keyed.ofList_of_nodup h

theorem merge_merge (fs : List Field) : merge (merge fs) = merge fs :=
  Keyed.ofList_ofList fs

theorem merge_append_congr {fs fs' gs gs' : List Field} (hf : merge fs = merge fs')
    (hg : merge gs = merge gs') : merge (fs ++ gs) = merge (fs' ++ gs') :=
  Keyed.ofList_append_congr hf hg

/-- **Merging.** The fields that come out have distinct names, in the order in which these first
occur, and each is the last field with its name. Parts of a list may be merged before the whole is,
and what was merged stays as it is. -/
theorem merge_in_stages (fs : List Field) :
    ((merge fs).map (·.name)).Nodup ∧
    (merge fs).map (·.name) = (fs.map (·.name)).eraseDups ∧
    (∀ f, f ∈ merge fs ↔
      ∃ before after, fs = before ++ f :: after ∧ ∀ g ∈ after, g.name ≠ f.name) ∧
    (∀ gs, merge (merge fs ++ merge gs) = merge (fs ++ gs)) ∧
    merge (merge fs) = merge fs := by
  refine ⟨nodup_names_merge fs, names_merge fs, fun f => mem_merge_iff, fun gs => ?_,
    merge_merge fs⟩
  -- a merged part is merged to the same as the part itself
  exact merge_append_congr (merge_merge fs) (merge_merge gs)

/-- The second of two fields with one name takes the place of the first. -/
example :
    merge [⟨"a", .primitive .string, false, false⟩, ⟨"b", .primitive .number, false, false⟩,
      ⟨"a", .primitive .number, true, false⟩] =
    [⟨"a", .primitive .number, true, false⟩, ⟨"b", .primitive .number, false, false⟩] := rfl

end ApiModel.Field
