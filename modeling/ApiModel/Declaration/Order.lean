import ApiModel.Declaration.Basic

/-!
# The order of declarations

Declarations are ordered so that what one depends on comes before it, as far as there are no
circles. The search starts from the first declaration that has not been met and goes into the first
dependency that has not been met; when none is left the declaration takes its place in the order.
The declarations under way are a stack of frames, and those not met yet are pending. A dependency
that is not pending is placed already or under way, and is passed over.

* `search_emit`, `search_enter`, `search_skip`, `search_root`: the steps of the search.
-/

namespace ApiModel.Declaration

/-- A declaration under way, with the dependencies that are still to be looked at. -/
structure Frame where
  /-- The declaration. -/
  declaration : Declaration
  /-- The dependencies that are still to be looked at. -/
  remaining : List String

/-- The work left in frames: each dependency to look at, and each declaration to place. -/
def work : List Frame → Nat
  | [] => 0
  | f :: below => f.remaining.length + 1 + work below

theorem length_eraseP_lt {p : Declaration → Bool} {ds : List Declaration} {d : Declaration}
    (h : ds.find? p = some d) : (ds.eraseP p).length < ds.length := by
  have hm := List.mem_of_find?_eq_some h
  rw [List.length_eraseP_of_mem hm (List.find?_some h)]
  exact Nat.sub_lt (List.length_pos_of_mem hm) Nat.one_pos

/-- The declarations under way and pending in the order in which the search places them. -/
def search (dependsOn : Declaration → List String) (pending : List Declaration)
    (stack : List Frame) : List Declaration :=
  match stack with
  | [] =>
    match pending with
    | [] => []
    | d :: rest => search dependsOn rest [⟨d, dependsOn d⟩]
  | ⟨d, []⟩ :: below => d :: search dependsOn pending below
  | ⟨d, n :: ns⟩ :: below =>
    match h : pending.find? (·.name = n) with
    | some e =>
      have := length_eraseP_lt h
      search dependsOn (pending.eraseP (·.name = n)) (⟨e, dependsOn e⟩ :: ⟨d, ns⟩ :: below)
    | none => search dependsOn pending (⟨d, ns⟩ :: below)
termination_by (pending.length, work stack)
decreasing_by
  all_goals simp_wf
  · exact .left _ _ (by simp)
  · exact .right _ (by simp [work])
  · exact .left _ _ this
  · exact .right _ (by simp [work])

/-- The declarations with what they depend on before them; of a repeated name only the first. -/
def order (ds : List Declaration) : List Declaration :=
  search (dependencies (names ds)) (firsts ds) []

/-! ## The steps -/

variable {dependsOn : Declaration → List String} {pending : List Declaration} {stack : List Frame}
  {d e : Declaration} {n : String} {ns : List String}

theorem search_nil : search dependsOn [] [] = [] := by
  rw [search]

theorem search_root :
    search dependsOn (d :: pending) [] = search dependsOn pending [⟨d, dependsOn d⟩] := by
  rw [search]

theorem search_emit :
    search dependsOn pending (⟨d, []⟩ :: stack) = d :: search dependsOn pending stack := by
  rw [search]

theorem search_enter (h : pending.find? (·.name = n) = some e) :
    search dependsOn pending (⟨d, n :: ns⟩ :: stack) =
      search dependsOn (pending.eraseP (·.name = n))
        (⟨e, dependsOn e⟩ :: ⟨d, ns⟩ :: stack) := by
  rw [search]
  split
  · rename_i h'
    cases h.symm.trans h'
    rfl
  · rename_i h'
    cases h.symm.trans h'

theorem search_skip (h : pending.find? (·.name = n) = none) :
    search dependsOn pending (⟨d, n :: ns⟩ :: stack) =
      search dependsOn pending (⟨d, ns⟩ :: stack) := by
  rw [search]
  split
  · rename_i h'
    cases h.symm.trans h'
  · rfl

end ApiModel.Declaration
