import ApiModel.Declaration.Order
import ApiModel.Proofs.Keyed
import Mathlib.Logic.Relation

/-!
# The graph of declarations

The first declarations of the names are the nodes, and an edge leads from a name to each declared
name that its declaration links to. Links to names that nobody declares are no edges.

* `mem_firsts_iff`: a declaration is among the first ones exactly when it is found under its name.
* `firsts_append`: declarations that are added count as far as their names are new.
* `lookup_graph_iff`: the graph lists each name with the dependencies of its declaration.
* `edge_firsts_iff`: the edges of a first declaration are its dependencies.
* `not_reaches_of_closed`, `not_reaches_of_graph`: no path leads out of a set of names that no edge
  leaves.
-/

namespace ApiModel.Declaration

open Relation (ReflTransGen)

/-- The graph of the declarations has an edge from one name to another. -/
def Edge (ds : List Declaration) (a b : String) : Prop :=
  ∃ ns, (graph ds).lookup a = some ns ∧ b ∈ ns

/-- A path in the graph of the declarations, possibly an empty one. -/
abbrev Reaches (ds : List Declaration) : String → String → Prop := ReflTransGen (Edge ds)

theorem names_cons (d : Declaration) (ds : List Declaration) :
    names (d :: ds) = d.name :: names ds := rfl

theorem names_append (ds es : List Declaration) : names (ds ++ es) = names ds ++ names es :=
  List.map_append

theorem name_of_find? {ds : List Declaration} {d : Declaration} {n : String}
    (h : ds.find? (·.name = n) = some d) : d.name = n := by
  simpa using List.find?_some h

/-! ## First declarations -/

theorem find?_firsts (ds : List Declaration) (n : String) :
    (firsts ds).find? (·.name = n) = ds.find? (·.name = n) := by
  induction ds with
  | nil => rfl
  | cons d ds ih =>
    by_cases h : d.name = n
    · simp [firsts, h]
    · -- a declaration of `n` is not removed with those of the name of `d`
      have hkeep : ((firsts ds).filter (·.name ≠ d.name)).find? (·.name = n) =
          (firsts ds).find? (·.name = n) := by
        rw [List.find?_filter]
        congr 1
        funext e
        by_cases he : e.name = n
        · have hne : n ≠ d.name := fun e => h e.symm
          simp [he, hne]
        · simp [he]
      rw [firsts, List.find?_cons_of_neg (by simpa using h),
        List.find?_cons_of_neg (by simpa using h),
        hkeep, ih]

theorem mem_firsts_iff {ds : List Declaration} {d : Declaration} :
    d ∈ firsts ds ↔ ds.find? (·.name = d.name) = some d := by
  have hnd : ((firsts ds).map Declaration.name).Nodup := nodup_names_firsts ds
  rw [← find?_firsts, Keyed.find?_eq_some_of_nodup hnd]
  simp

theorem mem_names_firsts_iff {ds : List Declaration} {n : String} :
    n ∈ names (firsts ds) ↔ n ∈ names ds := by
  unfold names
  rw [List.mem_map, List.mem_map]
  constructor
  · rintro ⟨d, hd, rfl⟩
    exact ⟨d, List.mem_of_find?_eq_some (mem_firsts_iff.1 hd), rfl⟩
  · rintro ⟨d, hd, rfl⟩
    obtain ⟨e, he⟩ := Option.isSome_iff_exists.1
      (List.find?_isSome (p := fun e : Declaration => decide (e.name = d.name)).2 ⟨d, hd, by simp⟩)
    have hname : e.name = d.name := name_of_find? he
    exact ⟨e, mem_firsts_iff.2 (by rw [hname]; exact he), hname⟩

/-- Declarations that are added count as far as their names are new. -/
theorem firsts_append (ds es : List Declaration) :
    firsts (ds ++ es) = firsts ds ++ (firsts es).filter (·.name ∉ names ds) := by
  induction ds with
  | nil => simp [firsts, names]
  | cons d ds ih =>
    rw [List.cons_append, firsts, ih, List.filter_append, List.filter_filter, firsts,
      List.cons_append]
    congr 2
    refine List.filter_congr fun e _ => ?_
    simp [names]

theorem firsts_of_nodup {ds : List Declaration} (h : (names ds).Nodup) :
    firsts ds = ds := by
  induction ds with
  | nil => rfl
  | cons d ds ih =>
    obtain ⟨hd, hrest⟩ := List.nodup_cons.1 h
    rw [firsts, ih hrest, List.filter_eq_self.2]
    intro e he
    rw [decide_eq_true_eq]
    intro hname
    exact hd (List.mem_map.2 ⟨e, he, hname⟩)

theorem dependencies_firsts (ds : List Declaration) (d : Declaration) :
    d.dependencies (names (firsts ds)) = d.dependencies (names ds) := by
  unfold dependencies
  apply List.filter_congr
  intro n _
  simp only [mem_names_firsts_iff]

/-! ## Edges -/

/-- The graph of declarations with distinct names lists each with its dependencies. -/
theorem graph_of_nodup {ds : List Declaration} (h : (names ds).Nodup) :
    graph ds = ds.map fun d => (d.name, d.dependencies (names ds)) := by
  apply Keyed.ofList_of_nodup
  rw [List.map_map]
  exact h

theorem lookup_graph_iff {ds : List Declaration} (h : (names ds).Nodup) {a : String}
    {ns : List String} :
    (graph ds).lookup a = some ns ↔ ∃ d ∈ ds, d.name = a ∧ d.dependencies (names ds) = ns := by
  rw [graph_of_nodup h]
  constructor
  · intro hns
    obtain ⟨l₁, l₂, hl, -⟩ := List.lookup_eq_some_iff.1 hns
    have hm : (a, ns) ∈ ds.map fun d => (d.name, d.dependencies (names ds)) := by
      rw [hl]
      simp
    obtain ⟨d, hd, he⟩ := List.mem_map.1 hm
    cases he
    exact ⟨d, hd, rfl, rfl⟩
  · rintro ⟨d, hd, rfl, rfl⟩
    -- nothing before `d` has its name
    obtain ⟨l₁, l₂, rfl⟩ := List.append_of_mem hd
    rw [List.lookup_eq_some_iff]
    refine ⟨_, _, by rw [List.map_append, List.map_cons], ?_⟩
    intro e he
    obtain ⟨c, hc, rfl⟩ := List.mem_map.1 he
    have hne : c.name ≠ d.name := by
      rw [names, List.map_append, List.nodup_append] at h
      exact h.2.2 _ (List.mem_map_of_mem hc) _ (by simp)
    simpa using hne.symm

theorem mem_graph_of_edge {ds : List Declaration} {a b : String} (h : Edge ds a b) :
    ∃ ns, (a, ns) ∈ graph ds ∧ b ∈ ns := by
  obtain ⟨ns, hlookup, hb⟩ := h
  obtain ⟨l₁, l₂, hsplit, -⟩ := List.lookup_eq_some_iff.1 hlookup
  refine ⟨ns, ?_, hb⟩
  rw [hsplit]
  exact List.mem_append_right _ List.mem_cons_self

theorem edge_iff {ds : List Declaration} (h : (names ds).Nodup) {a b : String} :
    Edge ds a b ↔ ∃ d ∈ ds, d.name = a ∧ b ∈ d.dependencies (names ds) := by
  unfold Edge
  simp only [lookup_graph_iff h]
  constructor
  · rintro ⟨_, ⟨d, hd, hname, rfl⟩, hb⟩
    exact ⟨d, hd, hname, hb⟩
  · rintro ⟨d, hd, hname, hb⟩
    exact ⟨_, ⟨d, hd, hname, rfl⟩, hb⟩

theorem edge_firsts_iff {ds : List Declaration} {d : Declaration} (hd : d ∈ firsts ds)
    {n : String} : Edge (firsts ds) d.name n ↔ n ∈ d.dependencies (names ds) := by
  rw [edge_iff (nodup_names_firsts ds)]
  constructor
  · rintro ⟨e, he, hname, hn⟩
    have : e = d := List.inj_on_of_nodup_map (nodup_names_firsts ds) he hd hname
    rwa [this, dependencies_firsts] at hn
  · intro hn
    exact ⟨d, hd, rfl, by rwa [dependencies_firsts]⟩

theorem mem_names_of_edge {ds : List Declaration} {a b : String} (h : Edge (firsts ds) a b) :
    a ∈ names (firsts ds) ∧ b ∈ names (firsts ds) := by
  obtain ⟨d, hd, rfl, hb⟩ := (edge_iff (nodup_names_firsts ds)).1 h
  exact ⟨List.mem_map_of_mem hd, (mem_dependencies_iff.1 hb).2⟩

theorem not_reaches_of_closed {ds : List Declaration} {a b : String} (inside : String → Prop)
    (closed : ∀ x y, inside x → Edge ds x y → inside y) (ha : inside a) (hb : ¬ inside b) :
    ¬ Reaches ds a b := by
  intro h
  refine hb ?_
  clear hb
  induction h with
  | refl => exact ha
  | tail _ he ih => exact closed _ _ ih he

theorem not_reaches_of_graph {ds : List Declaration} {a b : String} (inside : List String)
    (closed : ∀ e ∈ graph ds, e.1 ∈ inside → ∀ n ∈ e.2, n ∈ inside) (ha : a ∈ inside)
    (hb : b ∉ inside) : ¬ Reaches ds a b := by
  refine not_reaches_of_closed (· ∈ inside) (fun x y hx hedge => ?_) ha hb
  obtain ⟨ns, hns, hy⟩ := mem_graph_of_edge hedge
  exact closed _ hns hx y hy

end ApiModel.Declaration
