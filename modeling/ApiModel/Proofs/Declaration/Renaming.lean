import ApiModel.Proofs.Declaration.Order
import ApiModel.Proofs.Type.Renaming
import Mathlib.Logic.Equiv.Basic

/-!
# Renaming declarations

The search for an order compares names and does nothing else with them. So when declarations are
renamed, together with the links in their types, and no two names become one, the search takes the
same steps with the new names.

* `search_map`: a whole search among renamed declarations.
* `order_map`: renamed declarations are put into the same order.
* `graph_map`: renamed declarations have the same graph.
* `order_graph_renamed`: order and graph when every name is changed.
-/

namespace ApiModel.Declaration

/-- A change renames declarations, and the links in their types likewise. -/
structure Renames (rename : String → String) (change : Declaration → Declaration) : Prop where
  /-- Different names stay different. -/
  injective : Function.Injective rename
  /-- A declaration is renamed. -/
  name : ∀ d, (change d).name = rename d.name
  /-- The links in its type are renamed. -/
  links : ∀ d, (change d).type.namedTypes = d.type.namedTypes.map rename

/-- A frame whose declaration is changed, and its dependencies renamed. -/
def Frame.changed (rename : String → String) (change : Declaration → Declaration) (f : Frame) :
    Frame :=
  ⟨change f.declaration, f.remaining.map rename⟩

variable {rename : String → String} {change : Declaration → Declaration}
  {ds pending : List Declaration} {stack : List Frame}

namespace Renames

variable (h : Renames rename change)

include h

theorem names_map (ds : List Declaration) : names (ds.map change) = (names ds).map rename := by
  simp only [names, List.map_map, Function.comp_def, h.name]

theorem hasName (n : String) :
    (fun d => decide ((change d).name = rename n)) = fun d => decide (d.name = n) := by
  funext d
  rw [h.name, decide_eq_decide]
  exact h.injective.eq_iff

theorem dependencies_change (declared : List String) (d : Declaration) :
    (change d).dependencies (declared.map rename) = (d.dependencies declared).map rename := by
  unfold dependencies
  rw [h.links, List.filter_map]
  refine congrArg (List.map rename) (List.filter_congr fun n _ => ?_)
  rw [Function.comp_apply, decide_eq_decide]
  exact List.mem_map_of_injective h.injective

theorem firsts_map (ds : List Declaration) : firsts (ds.map change) = (firsts ds).map change := by
  induction ds with
  | nil => rfl
  | cons d ds ih =>
    rw [List.map_cons, firsts, firsts, ih, List.map_cons, List.filter_map]
    refine congrArg (fun rest => change d :: rest.map change) (List.filter_congr fun e _ => ?_)
    rw [Function.comp_apply, decide_eq_decide, h.name, h.name, h.injective.ne_iff]

/-- The search takes the same steps among renamed declarations. -/
theorem search_map {dependsOn dependsOn' : Declaration → List String}
    (hdepends : ∀ d, dependsOn' (change d) = (dependsOn d).map rename)
    (pending : List Declaration) (stack : List Frame) :
    search dependsOn' (pending.map change) (stack.map (Frame.changed rename change)) =
      (search dependsOn pending stack).map change := by
  induction pending, stack using search.induct dependsOn with
  | case1 => rw [search_nil]; exact search_nil
  | case2 d rest ih =>
    rw [search_root, ← ih, List.map_cons, List.map_nil, search_root, hdepends]
    rfl
  | case3 pending d below ih =>
    rw [search_emit, List.map_cons, List.map_cons, ← ih]
    exact search_emit
  | case4 pending d n ns below e hfind hlt ih =>
    have hfind' : (pending.map change).find? (·.name = rename n) = some (change e) := by
      rw [List.find?_map, Function.comp_def, h.hasName, hfind]
      rfl
    have herase : (pending.map change).eraseP (·.name = rename n) =
        (pending.eraseP (·.name = n)).map change := by
      rw [List.eraseP_map, Function.comp_def, h.hasName]
    rw [search_enter hfind, ← ih]
    refine (search_enter hfind').trans ?_
    rw [herase, hdepends]
    rfl
  | case5 pending d n ns below hfind ih =>
    have hfind' : (pending.map change).find? (·.name = rename n) = none := by
      rw [List.find?_map, Function.comp_def, h.hasName, hfind]
      rfl
    rw [search_skip hfind, ← ih]
    exact search_skip hfind'

/-- Renamed declarations are put into the same order. -/
theorem order_map (ds : List Declaration) : order (ds.map change) = (order ds).map change := by
  unfold order
  rw [h.firsts_map, h.names_map]
  exact h.search_map (h.dependencies_change (names ds)) (firsts ds) []

/-- Renamed declarations depend on each other likewise. -/
theorem graph_map (ds : List Declaration) :
    graph (ds.map change) = (graph ds).map (Prod.map rename (List.map rename)) := by
  have hentries : (ds.map change).map (fun d => (d.name, d.dependencies (names (ds.map change)))) =
      (ds.map fun d => (d.name, d.dependencies (names ds))).map
        (Prod.map rename (List.map rename)) := by
    rw [List.map_map, List.map_map, h.names_map]
    refine List.map_congr_left fun d _ => ?_
    exact Prod.ext (h.name d) (h.dependencies_change (names ds) d)
  have hkey : ∀ e : String × List String,
      (Prod.map rename (List.map rename) e).1 = rename e.1 := fun _ => rfl
  rw [graph, hentries]
  exact Keyed.ofList_map h.injective hkey _

end Renames

/-! ## Every name changed -/

/-- A declaration with its own name and the links in its type renamed. -/
def renamed (rename : String → String) (d : Declaration) : Declaration :=
  { d with name := rename d.name, type := d.type.renamed rename }

theorem renames_renamed (hinj : Function.Injective rename) : Renames rename (renamed rename) where
  injective := hinj
  name _ := rfl
  links d := Ty.namedTypes_renamed hinj d.type

/-- **Names are only names.** When every name is changed, that of each declaration and those that
types link to, and different names stay different, the declarations are put into the same order, and
each depends on the same others in the same order. -/
theorem order_graph_renamed (hinj : Function.Injective rename) (ds : List Declaration) :
    order (ds.map (renamed rename)) = (order ds).map (renamed rename) ∧
    graph (ds.map (renamed rename)) = (graph ds).map (Prod.map rename (List.map rename)) :=
  ⟨(renames_renamed hinj).order_map ds, (renames_renamed hinj).graph_map ds⟩

/-- Orders and addresses change their names with each other. -/
theorem order_graph_renamed_shop :
    let swap := Equiv.swap "Order" "Address"
    Function.Injective swap ∧
    order (shop.map (renamed swap)) = (order shop).map (renamed swap) ∧
    graph (shop.map (renamed swap)) =
      [("Address", ["Order"]), ("Customer", ["Order"]), ("Order", ["Customer"])] := by
  intro swap
  obtain ⟨horder, hgraph⟩ := order_graph_renamed swap.injective shop
  refine ⟨swap.injective, horder, hgraph.trans ?_⟩
  decide

end ApiModel.Declaration
