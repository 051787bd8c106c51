import ApiModel.Proofs.Declaration.Graph

/-!
# Dependencies come first

The search places declarations one by one. Its state is a stack of frames and the declarations that
are pending. `Underway` is what holds of every state: a frame was entered along an edge from each
frame below it, and a dependency that a frame has passed over is no longer pending. So when a
declaration takes its place, a dependency that is still to come lies below it on the stack, and
leads back to it.

Results:

* `perm_search`: the search places what is under way and pending, each once.
* `Underway.root`, `Underway.enter`, `Underway.skip`, `Underway.emit`: what a step preserves.
* `pairwise_search`: in the order of a whole run a link forwards is part of a circle.
* `order_dependencies_first`: the order has the first declaration of every name, and what a
  declaration depends on comes before it unless it leads back.
-/

namespace ApiModel.Declaration

open Relation (ReflTransGen)

variable {dependsOn : Declaration → List String} {pending : List Declaration}
  {stack below : List Frame} {d e : Declaration} {n : String} {ns : List String}

/-! ## What the search places -/

/-- The declarations under way, the one entered last first. -/
def underWay (stack : List Frame) : List Declaration := stack.map (·.declaration)

theorem perm_eraseP_of_find? {p : Declaration → Bool} {ds : List Declaration}
    (h : ds.find? p = some e) : (e :: ds.eraseP p).Perm ds := by
  obtain ⟨hp, l₁, l₂, rfl, hn⟩ := List.find?_eq_some_iff_append.1 h
  rw [List.eraseP_append_right _ (by simpa using hn), List.eraseP_cons_of_pos hp]
  exact List.perm_middle.symm

theorem perm_search (dependsOn : Declaration → List String) (pending : List Declaration)
    (stack : List Frame) :
    (search dependsOn pending stack).Perm (underWay stack ++ pending) := by
  induction pending, stack using search.induct dependsOn with
  | case1 => rw [search_nil]; exact List.Perm.refl _
  | case2 d rest ih => rw [search_root]; exact ih
  | case3 pending d below ih => rw [search_emit]; exact ih.cons d
  | case4 pending d n ns below e h hlt ih =>
    rw [search_enter h]
    refine ih.trans ?_
    have := (perm_eraseP_of_find? h).append_left (underWay (⟨d, ns⟩ :: below))
    exact List.perm_middle.symm.trans this
  | case5 pending d n ns below h ih => rw [search_skip h]; exact ih

/-! ## The invariant -/

/-- What holds of every state of a search along edges. -/
structure Underway (edge : String → String → Prop) (dependsOn : Declaration → List String)
    (pending : List Declaration) (stack : List Frame) : Prop where
  /-- What a declaration depends on is at the end of an edge. -/
  edges : ∀ d ∈ underWay stack ++ pending, ∀ n ∈ dependsOn d, edge d.name n
  /-- The pending declarations have distinct names. -/
  distinct : (names pending).Nodup
  /-- Every frame is reached from those below it. -/
  reached : (underWay stack).Pairwise fun above below => ReflTransGen edge below.name above.name
  /-- What a frame has still to look at are dependencies. -/
  remaining : ∀ f ∈ stack, ∀ n ∈ f.remaining, n ∈ dependsOn f.declaration
  /-- A dependency that a frame has looked at is not pending. -/
  passed : ∀ f ∈ stack, ∀ n ∈ dependsOn f.declaration, n ∈ f.remaining ∨ n ∉ names pending

namespace Underway

variable {edge : String → String → Prop}

theorem start (h : ∀ d ∈ pending, ∀ n ∈ dependsOn d, edge d.name n)
    (hnd : (names pending).Nodup) : Underway edge dependsOn pending [] where
  edges := h
  distinct := hnd
  reached := List.Pairwise.nil
  remaining := nofun
  passed := nofun

theorem root (h : Underway edge dependsOn (d :: pending) []) :
    Underway edge dependsOn pending [⟨d, dependsOn d⟩] where
  edges := h.edges
  distinct := h.distinct.of_cons
  reached := List.pairwise_singleton _ _
  remaining := by simp
  passed f hf n hn := by
    rw [List.mem_singleton.1 hf] at hn ⊢
    exact Or.inl hn

theorem skip (h : Underway edge dependsOn pending (⟨d, n :: ns⟩ :: below))
    (hn : pending.find? (·.name = n) = none) :
    Underway edge dependsOn pending (⟨d, ns⟩ :: below) where
  edges := h.edges
  distinct := h.distinct
  reached := h.reached
  remaining := by
    rw [List.forall_mem_cons]
    have hr := List.forall_mem_cons.1 h.remaining
    exact ⟨fun m hm => hr.1 m (List.mem_cons_of_mem _ hm), hr.2⟩
  passed := by
    rw [List.forall_mem_cons]
    have hp := List.forall_mem_cons.1 h.passed
    refine ⟨fun m hm => ?_, hp.2⟩
    rcases hp.1 m hm with hm | hm
    · rcases List.mem_cons.1 hm with rfl | hm
      · right
        intro hmem
        obtain ⟨c, hc, hname⟩ := List.mem_map.1 hmem
        have := List.find?_eq_none.1 hn c hc
        simp [hname] at this
      · exact Or.inl hm
    · exact Or.inr hm

theorem emit (h : Underway edge dependsOn pending (⟨d, []⟩ :: below)) :
    Underway edge dependsOn pending below where
  edges c hc := h.edges c (List.mem_cons_of_mem _ hc)
  distinct := h.distinct
  reached := h.reached.of_cons
  remaining f hf := h.remaining f (List.mem_cons_of_mem _ hf)
  passed f hf := h.passed f (List.mem_cons_of_mem _ hf)

theorem enter (h : Underway edge dependsOn pending (⟨d, n :: ns⟩ :: below))
    (he : pending.find? (·.name = n) = some e) :
    Underway edge dependsOn (pending.eraseP (·.name = n))
      (⟨e, dependsOn e⟩ :: ⟨d, ns⟩ :: below) := by
  have hname : e.name = n := name_of_find? he
  have hperm := perm_eraseP_of_find? he
  have hnames : (n :: names (pending.eraseP (·.name = n))).Perm (names pending) := by
    rw [← hname] at hperm ⊢
    exact hperm.map _
  have hnd := List.nodup_cons.1 (hnames.nodup_iff.2 h.distinct)
  have hsub : ∀ m, m ∉ names pending → m ∉ names (pending.eraseP (·.name = n)) :=
    fun m hm hmem => hm (hnames.subset (List.mem_cons_of_mem _ hmem))
  -- the edge along which `e` is entered
  have hedge : edge d.name e.name := by
    rw [hname]
    refine h.edges d (by simp [underWay]) n ?_
    exact h.remaining _ List.mem_cons_self n List.mem_cons_self
  refine ⟨?_, hnd.2, ?_, ?_, ?_⟩
  · intro c hc
    have hmove : (underWay (⟨e, dependsOn e⟩ :: ⟨d, ns⟩ :: below) ++
        pending.eraseP (·.name = n)).Perm (underWay (⟨d, n :: ns⟩ :: below) ++ pending) :=
      List.perm_middle.symm.trans (hperm.append_left (underWay (⟨d, ns⟩ :: below)))
    exact h.edges c (hmove.subset hc)
  · have hreached := List.pairwise_cons.1 h.reached
    refine List.pairwise_cons.2 ⟨fun b hb => ?_, h.reached⟩
    rcases List.mem_cons.1 hb with rfl | hb
    · exact ReflTransGen.single hedge
    · exact (hreached.1 b hb).tail hedge
  · rw [List.forall_mem_cons, List.forall_mem_cons]
    have hr := List.forall_mem_cons.1 h.remaining
    exact ⟨fun m hm => hm, fun m hm => hr.1 m (List.mem_cons_of_mem _ hm), hr.2⟩
  · rw [List.forall_mem_cons, List.forall_mem_cons]
    have hp := List.forall_mem_cons.1 h.passed
    refine ⟨fun m hm => Or.inl hm, fun m hm => ?_,
      fun f hf m hm => (hp.2 f hf m hm).imp id (hsub m)⟩
    rcases hp.1 m hm with hm | hm
    · rcases List.mem_cons.1 hm with rfl | hm
      · exact Or.inr hnd.1
      · exact Or.inl hm
    · exact Or.inr (hsub m hm)

end Underway

/-! ## A whole run -/

/-- Of two declarations placed by a search the earlier one links to the later one only if that one
leads back to it. -/
theorem pairwise_search {edge : String → String → Prop}
    (h : Underway edge dependsOn pending stack) :
    (search dependsOn pending stack).Pairwise fun d e =>
      e.name ∈ dependsOn d → ReflTransGen edge e.name d.name := by
  induction pending, stack using search.induct dependsOn with
  | case1 => rw [search_nil]; exact List.Pairwise.nil
  | case2 d rest ih => rw [search_root]; exact ih h.root
  | case3 pending d below ih =>
    rw [search_emit]
    refine List.pairwise_cons.2 ⟨fun e he hdep => ?_, ih h.emit⟩
    rcases List.mem_append.1 ((perm_search dependsOn pending below).subset he) with he | he
    · exact (List.pairwise_cons.1 h.reached).1 e he
    · -- all dependencies of `d` were looked at, so none is pending
      rcases h.passed _ List.mem_cons_self _ hdep with hm | hm
      · cases hm
      · exact absurd (List.mem_map_of_mem he) hm
  | case4 pending d n ns below e hf hlt ih => rw [search_enter hf]; exact ih (h.enter hf)
  | case5 pending d n ns below hf ih => rw [search_skip hf]; exact ih (h.skip hf)

theorem perm_order (ds : List Declaration) : (order ds).Perm (firsts ds) :=
  perm_search _ _ _

theorem nodup_names_order (ds : List Declaration) : (names (order ds)).Nodup :=
  ((perm_order ds).map _).nodup_iff.2 (nodup_names_firsts ds)

theorem mem_names_order_iff {ds : List Declaration} : n ∈ names (order ds) ↔ n ∈ names ds := by
  have hperm : (names (order ds)).Perm (names (firsts ds)) := (perm_order ds).map _
  rw [hperm.mem_iff, mem_names_firsts_iff]

theorem pairwise_order (ds : List Declaration) :
    (order ds).Pairwise fun d e =>
      Edge (firsts ds) d.name e.name → Reaches (firsts ds) e.name d.name := by
  have hrun : Underway (Edge (firsts ds)) (dependencies (names ds)) (firsts ds) [] :=
    Underway.start (fun d hd n hn => (edge_firsts_iff hd).2 hn) (nodup_names_firsts ds)
  refine List.Pairwise.imp_of_mem ?_ (pairwise_search hrun)
  intro d e hd _ himp hedge
  exact himp ((edge_firsts_iff ((perm_order ds).subset hd)).1 hedge)

/-- **The order of declarations.** It holds the first declaration of every name, each once and
nothing else; every edge of the graph leads to one of them. A dependency of a declaration stands
before it unless it leads back to it. -/
theorem order_dependencies_first (ds : List Declaration) :
    (order ds).Perm (firsts ds) ∧ (names (order ds)).Nodup ∧
    (∀ d, d ∈ order ds ↔ ds.find? (·.name = d.name) = some d) ∧
    (∀ a b, Edge (firsts ds) a b → a ∈ names (order ds) ∧ b ∈ names (order ds)) ∧
    ∀ d ∈ order ds, ∀ e ∈ order ds, d ≠ e → Edge (firsts ds) d.name e.name →
      ¬ Reaches (firsts ds) e.name d.name →
      ∃ before after, order ds = before ++ d :: after ∧ e ∈ before := by
  have hperm := perm_order ds
  refine ⟨hperm, nodup_names_order ds, fun d => ?_, fun a b h => ?_, ?_⟩
  · rw [hperm.mem_iff, mem_firsts_iff]
  · have hnames : (names (order ds)).Perm (names (firsts ds)) := hperm.map _
    rw [hnames.mem_iff, hnames.mem_iff]
    exact mem_names_of_edge h
  · intro d hd e he hne hedge hback
    obtain ⟨before, after, hsplit⟩ := List.append_of_mem hd
    refine ⟨before, after, hsplit, ?_⟩
    rw [hsplit, List.mem_append, List.mem_cons] at he
    rcases he with he | rfl | he
    · exact he
    · exact absurd rfl hne
    · have hpair := hsplit ▸ pairwise_order ds
      have hafter := (List.pairwise_cons.1 (List.pairwise_append.1 hpair).2.1).1 e he
      exact absurd (hafter hedge) hback

/-- An order links to its customer, customers and addresses link to each other. The second `Order`
does not count, and nobody declares `Missing`. -/
def shop : List Declaration :=
  let link (n : String) : Field := ⟨n, .named n, false, false⟩
  let declare (n : String) (links : List String) : Declaration :=
    ⟨n, "#/definitions/" ++ n, .record (links.map link), none⟩
  [declare "Order" ["Missing", "Customer", "Order"], declare "Customer" ["Address"],
    declare "Order" ["Address"], declare "Address" ["Customer"]]

theorem order_shop :
    shop[0] ≠ shop[1] ∧ Edge (firsts shop) "Order" "Customer" ∧
    ¬ Reaches (firsts shop) "Customer" "Order" ∧
    ∃ before after, order shop = before ++ shop[0] :: after ∧ shop[1] ∈ before := by
  have hne : shop[0] ≠ shop[1] := fun h => absurd (congrArg Declaration.name h) (by decide)
  have hedge : Edge (firsts shop) "Order" "Customer" :=
    ⟨["Customer", "Order"], by decide, by decide⟩
  have hback : ¬ Reaches (firsts shop) "Customer" "Order" := by
    refine not_reaches_of_closed (· ∈ ["Customer", "Address"]) ?_ (by decide) (by decide)
    have hclosed : ∀ a ∈ ["Customer", "Address"],
        ∀ b ∈ ((graph (firsts shop)).lookup a).getD [], b ∈ ["Customer", "Address"] := by decide
    rintro a b ha ⟨ns, hns, hb⟩
    exact hclosed a ha b (by rwa [hns])
  have hspec := order_dependencies_first shop
  exact ⟨hne, hedge, hback, hspec.2.2.2.2 shop[0] ((hspec.2.2.1 _).2 rfl) shop[1]
    ((hspec.2.2.1 _).2 rfl) hne hedge hback⟩

end ApiModel.Declaration
