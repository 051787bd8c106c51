import ApiModel.Proofs.Type.Links

/-!
# Renaming the links in a type

The links in a type hold names and nothing else. When they are renamed, everywhere in the type, the
type keeps its form, and the linked names are the new ones in the same order.

* `links_renamed`: the links of a renamed type.
* `namedTypes_renamed`: the linked names, each once, if different names stay different.
-/

namespace ApiModel.Ty

mutual

/-- A type with its links renamed. -/
def renamed (rename : String → String) : Ty → Ty
  | .named n => .named (rename n)
  | .array t readonly => .array (renamed rename t) readonly
  | .dictionary t => .dictionary (renamed rename t)
  | .union ts => .union (renamedAll rename ts)
  | .intersect ts => .intersect (renamedAll rename ts)
  | .record fs => .record (renamedFields rename fs)
  | .primitive p => .primitive p
  | .literal l => .literal l
  | .function => .function

/-- Several types with their links renamed. -/
def renamedAll (rename : String → String) : List Ty → List Ty
  | [] => []
  | t :: ts => renamed rename t :: renamedAll rename ts

/-- Several fields with the links in their types renamed. -/
def renamedFields (rename : String → String) : List (FieldOf Ty) → List (FieldOf Ty)
  | [] => []
  | ⟨name, t, nullable, readonly⟩ :: fs =>
    ⟨name, renamed rename t, nullable, readonly⟩ :: renamedFields rename fs

end

mutual

theorem links_renamed (rename : String → String) (t : Ty) :
    links (renamed rename t) = (links t).map rename := by
  match t with
  | .named n => rfl
  | .array t _ => exact links_renamed rename t
  | .dictionary t => exact links_renamed rename t
  | .union ts => exact linksOfAll_renamed rename ts
  | .intersect ts => exact linksOfAll_renamed rename ts
  | .record fs => exact linksOfFields_renamed rename fs
  | .primitive _ | .literal _ | .function => rfl

theorem linksOfAll_renamed (rename : String → String) (ts : List Ty) :
    linksOfAll (renamedAll rename ts) = (linksOfAll ts).map rename := by
  match ts with
  | [] => rfl
  | t :: ts =>
    rw [renamedAll, linksOfAll, linksOfAll, links_renamed, linksOfAll_renamed, List.map_append]

theorem linksOfFields_renamed (rename : String → String) (fs : List (FieldOf Ty)) :
    linksOfFields (renamedFields rename fs) = (linksOfFields fs).map rename := by
  match fs with
  | [] => rfl
  | ⟨_, t, _, _⟩ :: fs =>
    rw [renamedFields, linksOfFields, linksOfFields, links_renamed, linksOfFields_renamed,
      List.map_append]

end

/-- The linked names of a renamed type. -/
theorem namedTypes_renamed {rename : String → String} (hinj : Function.Injective rename) (t : Ty) :
    (renamed rename t).namedTypes = t.namedTypes.map rename := by
  have hkey : ∀ n, id (rename n) = rename (id n) := fun _ => rfl
  rw [namedTypes_eq_ofList, namedTypes_eq_ofList, links_renamed]
  exact Keyed.ofList_map hinj hkey (links t)

end ApiModel.Ty
