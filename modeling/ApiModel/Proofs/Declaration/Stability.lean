import ApiModel.Proofs.Declaration.Roots

/-!
# What leaves the order as it is

The search takes declarations as they come and leaves their place only for a dependency. So
declarations that are added at the end, and that none of the others links to, do not change the
order of those; and declarations that all stand behind their dependencies stay where they are.

Results:

* `Visits.widen`: what a search visits it visits likewise among more declarations.
* `order_append`: declarations that are added come after the others.
* `order_of_dependenciesFirst`, `dependenciesFirst_order`: what stands behind its dependencies stays
  there, and after ordering everything does, unless there are circles.
* `order_stable`: ordering a second time changes nothing.
-/

namespace ApiModel.Declaration

variable {ds es placed before rest : List Declaration} {d : Declaration} {n : String}
  {ns : List String} {m m' : Marks}

/-! ## Declarations that are added -/

theorem find?_firsts_append (h : (firsts ds).find? (·.name = n) = some d) :
    (firsts (ds ++ es)).find? (·.name = n) = some d := by
  rw [find?_firsts] at h ⊢
  rw [List.find?_append, h]
  rfl

theorem dependencies_append (h : ∀ n ∈ d.type.namedTypes, n ∈ names es → n ∈ names ds) :
    d.dependencies (names (ds ++ es)) = d.dependencies (names ds) := by
  refine List.filter_congr fun n hn => ?_
  rw [decide_eq_decide, names_append, List.mem_append, or_iff_left_of_imp (h n hn)]

/-- Among more declarations, none of which the first ones link to, the same visits take place. -/
theorem Visits.widen (hlinks : ∀ d ∈ firsts ds, ∀ n ∈ d.type.namedTypes, n ∈ names es → n ∈ names ds)
    (h : Visits ds m ns m' placed) : Visits (ds ++ es) m ns m' placed := by
  induction h with
  | done m => exact .done m
  | skip met _ ih => exact .skip met ih
  | @visit m m₁ m' n ns deps e inner placed unmet found listed _ _ ihcall ihrest =>
    have hfound : (firsts (ds ++ es)).find? (·.name = n) = some e := find?_firsts_append found
    have hdeps : e.dependencies (names (ds ++ es)) = e.dependencies (names ds) :=
      dependencies_append (hlinks e (List.mem_of_find?_eq_some found))
    refine .visit unmet hfound ?_ ihcall ihrest
    rw [lookup_graph_of_find? hfound, hdeps, ← lookup_graph_of_find? found, listed]

/-- The order of the first declarations begins the order of all, if they link to none of the
others. -/
theorem order_prefix
    (hlinks : ∀ d ∈ firsts ds, ∀ n ∈ d.type.namedTypes, n ∈ names es → n ∈ names ds) :
    order ds <+: order (ds ++ es) := by
  let added := (firsts es).filter (·.name ∉ names ds)
  have hfirsts : names (firsts (ds ++ es)) = names (firsts ds) ++ names added := by
    rw [firsts_append, names_append]
  have hdeclared : ∀ n ∈ names added, n ∈ names (firsts (ds ++ es)) := fun n hn => by
    rw [hfirsts]
    exact List.mem_append_right _ hn
  obtain ⟨m, hrun⟩ := depthFirst_order ds
  obtain ⟨m', last, hrest⟩ := exists_visits (m := m) hdeclared
  have hall : DepthFirst (ds ++ es) (order ds ++ last) := by
    refine ⟨m', ?_⟩
    rw [hfirsts]
    exact (hrun.widen hlinks).append hrest
  exact ⟨last, depthFirst_iff.1 hall⟩

/-- **Declarations that are added.** The order of declarations begins the order of more of them, if
no first declaration links to a name that only those declare that are added. A single declaration of
a new name that none of the others links to comes after them. -/
theorem order_append (ds : List Declaration) :
    (∀ es, (∀ d ∈ firsts ds, ∀ n ∈ d.type.namedTypes, n ∈ names es → n ∈ names ds) →
      order ds <+: order (ds ++ es)) ∧
    ∀ e, e.name ∉ names ds → (∀ d ∈ firsts ds, e.name ∉ d.type.namedTypes) →
      order (ds ++ [e]) = order ds ++ [e] := by
  refine ⟨fun es hlinks => order_prefix hlinks, fun e hnew hlinks => ?_⟩
  have hnone : ∀ d ∈ firsts ds, ∀ n ∈ d.type.namedTypes, n ∈ names [e] → n ∈ names ds := by
    intro d hd n hn he
    rw [List.mem_singleton.1 he] at hn
    exact absurd hn (hlinks d hd)
  obtain ⟨last, horder⟩ := order_prefix hnone
  have hfirsts : firsts (ds ++ [e]) = firsts ds ++ [e] := by
    rw [firsts_append, firsts, firsts, List.filter_nil, List.filter_cons_of_pos (by simpa using hnew),
      List.filter_nil]
  have hperm : (order ds ++ last).Perm (order ds ++ [e]) := by
    rw [horder]
    refine (perm_order _).trans ?_
    rw [hfirsts]
    exact (perm_order ds).symm.append_right [e]
  have hlast : last = [e] := List.perm_singleton.1 ((List.perm_append_left_iff _).1 hperm)
  rw [← horder, hlast]

/-- The crew is declared already, the pier is new, and nothing in the fleet links to it. -/
theorem order_append_fleet :
    let pier := linking "Pier" ["Buoy", "Pier"]
    let es := [linking "Crew" ["Pier"], pier]
    (∀ d ∈ firsts fleet, ∀ n ∈ d.type.namedTypes, n ∈ names es → n ∈ names fleet) ∧
    order fleet <+: order (fleet ++ es) ∧ order (fleet ++ [pier]) = order fleet ++ [pier] := by
  intro pier es
  have hlinks : ∀ d ∈ firsts fleet, ∀ n ∈ d.type.namedTypes, n ∈ names es → n ∈ names fleet := by
    decide
  refine ⟨hlinks, (order_append fleet).1 es hlinks, (order_append fleet).2 pier ?_ ?_⟩
  · decide
  · decide

/-! ## Declarations that stand behind their dependencies -/

/-- What a declaration depends on, itself excepted, stands before it. -/
def DependenciesFirst (ds : List Declaration) : Prop :=
  ∀ before d after, ds = before ++ d :: after →
    ∀ n ∈ d.dependencies (names ds), n ≠ d.name → n ∈ names before

theorem dependenciesFirst_of_pairwise
    (h : ds.Pairwise fun d e => e.name ∉ d.dependencies (names ds)) : DependenciesFirst ds := by
  intro before d after hsplit n hn hne
  have hdeclared : n ∈ names ds := (mem_dependencies_iff.1 hn).2
  rw [hsplit, names_append, names_cons, List.mem_append, List.mem_cons] at hdeclared
  rcases hdeclared with hbefore | heq | hafter
  · exact hbefore
  · exact absurd heq hne
  · obtain ⟨e, he, rfl⟩ := List.mem_map.1 hafter
    have hlater : (d :: after).Pairwise fun d e => e.name ∉ d.dependencies (names ds) :=
      h.sublist (hsplit ▸ List.sublist_append_right before (d :: after))
    exact absurd hn ((List.pairwise_cons.1 hlater).1 e he)

/-- Names that are all marked are skipped. -/
theorem visits_of_met (h : ∀ n ∈ ns, m.Met n) : Visits ds m ns m [] := by
  induction ns with
  | nil => exact .done m
  | cons n ns ih =>
    obtain ⟨hn, hns⟩ := List.forall_mem_cons.1 h
    exact .skip hn (ih hns)

/-- Once the declarations before some others are placed, these are placed as they stand. -/
theorem exists_visits_rest (hnodup : (names ds).Nodup) (hfirst : DependenciesFirst ds)
    (hsplit : ds = before ++ rest) (hmet : ∀ n, m.Met n ↔ n ∈ names before) :
    ∃ m', Visits ds m (names rest) m' rest := by
  induction rest generalizing before m with
  | nil => exact ⟨m, .done m⟩
  | cons d rest ih =>
    have hd : d ∈ firsts ds := by
      rw [firsts_of_nodup hnodup, hsplit]
      exact List.mem_append_right _ List.mem_cons_self
    have hunmet : ¬ m.Met d.name := by
      rw [hsplit, names_append, names_cons] at hnodup
      rw [hmet]
      exact fun hmem => (List.nodup_append.1 hnodup).2.2 _ hmem _ List.mem_cons_self rfl
    -- its dependencies are placed, or it is its own
    have hcall : Visits ds (m.enter d.name) (d.dependencies (names ds)) (m.enter d.name) [] := by
      refine visits_of_met fun n hn => ?_
      rw [Marks.met_enter_iff, hmet, or_iff_not_imp_left]
      exact hfirst before d rest hsplit n hn
    have hleave : ∀ n, ((m.enter d.name).leave d.name).Met n ↔ n ∈ names (before ++ [d]) := by
      intro n
      rw [hcall.met_leave_iff, Marks.met_enter_iff, hmet, names_append, List.mem_append, or_comm]
      exact or_congr_right List.mem_singleton.symm
    obtain ⟨m', hrest⟩ := ih (by rw [hsplit, List.append_cons]) hleave
    exact ⟨m', .visit hunmet (find?_firsts_of_mem hd) (lookup_graph_firsts hd) hcall hrest⟩

theorem order_of_dependenciesFirst (hnodup : (names ds).Nodup) (hfirst : DependenciesFirst ds) :
    order ds = ds := by
  obtain ⟨m, hrun⟩ := exists_visits_rest (m := .none) hnodup hfirst (List.nil_append ds).symm
    fun n => by simp [Marks.none, Marks.Met, names]
  refine (depthFirst_iff.1 ⟨m, ?_⟩).symm
  rw [firsts_of_nodup hnodup]
  exact hrun

/-- Without circles every declaration stands behind its dependencies once they are ordered. -/
theorem dependenciesFirst_order (hcircles : SelfCirclesOnly (firsts ds)) :
    DependenciesFirst (order ds) := by
  have hdistinct : (order ds).Pairwise fun d e => d.name ≠ e.name :=
    List.pairwise_map.1 (nodup_names_order ds)
  refine dependenciesFirst_of_pairwise (((pairwise_order ds).and hdistinct).imp_of_mem ?_)
  rintro d e hd - ⟨hback, hne⟩ hdepends
  have hedge : Edge (firsts ds) d.name e.name := by
    obtain ⟨hlink, hdeclared⟩ := mem_dependencies_iff.1 hdepends
    rw [edge_firsts_iff ((perm_order ds).subset hd)]
    exact mem_dependencies_iff.2 ⟨hlink, mem_names_order_iff.1 hdeclared⟩
  obtain ⟨circle, hcircle, hd, he⟩ := exists_circle hedge (hback hedge)
  exact hne (hcircles circle hcircle _ hd _ he)

/-- **What is ordered stays ordered.** Declarations of distinct names that each stand behind what
they depend on, themselves excepted, are left as they stand. So are those of any order, if no circle
joins several names. -/
theorem order_stable (ds : List Declaration) :
    ((names ds).Nodup → DependenciesFirst ds → order ds = ds) ∧
    (SelfCirclesOnly (firsts ds) → order (order ds) = order ds) := by
  refine ⟨order_of_dependenciesFirst, fun hcircles => ?_⟩
  exact order_of_dependenciesFirst (nodup_names_order ds) (dependenciesFirst_order hcircles)

/-- A crane links to itself, to its hook and to the sea, which nobody declares. The second crane
would close a circle with the barge, but does not count. -/
def quay : List Declaration :=
  [linking "Barge" ["Crane", "Hook"], linking "Crane" ["Crane", "Hook", "Sea"], linking "Hook" [],
    linking "Crane" ["Barge"]]

theorem order_stable_quay :
    let sorted := [linking "Hook" [], linking "Crane" ["Crane", "Hook", "Sea"],
      linking "Barge" ["Crane", "Hook"]]
    (names sorted).Nodup ∧ DependenciesFirst sorted ∧ order sorted = sorted ∧
    SelfCirclesOnly (firsts quay) ∧ order (order quay) = order quay := by
  intro sorted
  have hnodup : (names sorted).Nodup := by decide
  have hfirst : DependenciesFirst sorted := dependenciesFirst_of_pairwise (by decide)
  have hcircles : SelfCirclesOnly (firsts quay) := by
    refine selfCirclesOnly_of_rank (["Hook", "Crane", "Barge"].idxOf ·) fun a b hedge => ?_
    obtain ⟨ns, hns, hb⟩ := mem_graph_of_edge hedge
    have hdown : ∀ e ∈ graph (firsts quay), ∀ n ∈ e.2, e.1 = n ∨
        ["Hook", "Crane", "Barge"].idxOf n < ["Hook", "Crane", "Barge"].idxOf e.1 := by
      decide
    exact hdown _ hns b hb
  exact ⟨hnodup, hfirst, (order_stable sorted).1 hnodup hfirst, hcircles,
    (order_stable quay).2 hcircles⟩

end ApiModel.Declaration
