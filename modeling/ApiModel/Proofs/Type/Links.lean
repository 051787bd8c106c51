import ApiModel.Proofs.Keyed
import ApiModel.Type.Basic

/-!
# The links in a type

`Ty.namedTypes` goes through a type and keeps the names that it has found. What it finds is the list
of all links in the order in which they stand, each kept at its first occurrence.

* `collect_eq_foldl`: the names found so far are added to by one link after another.
* `namedTypes_eq_ofList`, `namedTypes_eq_eraseDups`: the linked names are the links, each once.
-/

namespace ApiModel.Ty

mutual

/-- The names of the links in a type, from left to right. -/
def links : Ty → List String
  | .named n => [n]
  | .array t _ => links t
  | .dictionary t => links t
  | .union ts => linksOfAll ts
  | .intersect ts => linksOfAll ts
  | .record fs => linksOfFields fs
  | .primitive _ => []
  | .literal _ => []
  | .function => []

/-- The names of the links in several types. -/
def linksOfAll : List Ty → List String
  | [] => []
  | t :: ts => links t ++ linksOfAll ts

/-- The names of the links in several fields. -/
def linksOfFields : List (FieldOf Ty) → List String
  | [] => []
  | ⟨_, t, _, _⟩ :: fs => links t ++ linksOfFields fs

end

theorem linksOfAll_eq_flatMap (ts : List Ty) : linksOfAll ts = ts.flatMap links := by
  induction ts with
  | nil => rfl
  | cons t ts ih => rw [linksOfAll, ih, List.flatMap_cons]

theorem linksOfFields_eq_flatMap (fs : List Field) :
    linksOfFields fs = fs.flatMap fun f => links f.type := by
  induction fs with
  | nil => rfl
  | cons f fs ih => rw [linksOfFields, ih, List.flatMap_cons]

/-! ## Going through -/

mutual

/-- The names found so far are added to by one link after another. -/
theorem collect_eq_foldl (found : List String) (t : Ty) :
    collect found t = (links t).foldl addName found := by
  match t with
  | .named n => rfl
  | .array t _ => exact collect_eq_foldl found t
  | .dictionary t => exact collect_eq_foldl found t
  | .union ts => exact collectAll_eq_foldl found ts
  | .intersect ts => exact collectAll_eq_foldl found ts
  | .record fs => exact collectFields_eq_foldl found fs
  | .primitive _ | .literal _ | .function => rfl

theorem collectAll_eq_foldl (found : List String) (ts : List Ty) :
    collectAll found ts = (linksOfAll ts).foldl addName found := by
  match ts with
  | [] => rfl
  | t :: ts =>
    rw [collectAll, collectAll_eq_foldl, collect_eq_foldl, linksOfAll, List.foldl_append]

theorem collectFields_eq_foldl (found : List String) (fs : List (FieldOf Ty)) :
    collectFields found fs = (linksOfFields fs).foldl addName found := by
  match fs with
  | [] => rfl
  | ⟨_, t, _, _⟩ :: fs =>
    rw [collectFields, collectFields_eq_foldl, collect_eq_foldl, linksOfFields, List.foldl_append]

end

/-- A name is added as to a list whose things are their own keys. -/
theorem addName_eq_put (found : List String) (n : String) :
    addName found n = Keyed.put id found n := by
  have h := Keyed.keys_put id found n
  simp only [List.map_id, id] at h
  rw [addName, h]

theorem namedTypes_eq_ofList (t : Ty) : t.namedTypes = Keyed.ofList id (links t) := by
  have hput : addName = Keyed.put id := by
    funext found n
    exact addName_eq_put found n
  rw [namedTypes, collect_eq_foldl, hput]
  rfl

theorem namedTypes_eq_eraseDups (t : Ty) : t.namedTypes = (links t).eraseDups := by
  have hkeys := Keyed.keys_ofList id (links t)
  rw [List.map_id, List.map_id] at hkeys
  rw [namedTypes_eq_ofList, hkeys]

end ApiModel.Ty
