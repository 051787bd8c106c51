import ApiModel.Proofs.Declaration.DepthFirst

/-!
# The search step by step

The search looks names up: the declaration of a name, and what the graph lists for it. What it takes
for missing is a dependency that is not pending, which has to be one that is placed or under way.
`Located` is what holds of every state: each first declaration is placed, under way or pending, and
a frame looks at the end of its dependencies.

Results:

* `Step.placed_search`, `reaches_end`: a step keeps what is placed in the end, and the steps lead
  there.
* `Located.step`: a step keeps every declaration and looks at declared names only.
* `order_as_recursion`: the order is that of the recursive search, and no name that the search looks
  up is missing.
-/

namespace ApiModel.Declaration

open Relation (ReflTransGen)

variable {ds : List Declaration} {d : Declaration} {n : String}

/-! ## States -/

/-- A search that has placed some declarations and goes on. -/
structure State where
  /-- What is placed, in order. -/
  placed : List Declaration
  /-- The frames, the one entered last first. -/
  stack : List Frame
  /-- What is pending. -/
  pending : List Declaration

/-- A name is the one of a pending declaration, of a declaration under way, or left to look at. -/
def State.Mentions (s : State) (n : String) : Prop :=
  n ∈ names s.pending ∨ ∃ f ∈ s.stack, n = f.declaration.name ∨ n ∈ f.remaining

/-- One step of a search. -/
inductive Step (dependsOn : Declaration → List String) : State → State → Prop where
  | root (placed : List Declaration) (d : Declaration) (pending : List Declaration) :
      Step dependsOn ⟨placed, [], d :: pending⟩ ⟨placed, [⟨d, dependsOn d⟩], pending⟩
  | emit (placed : List Declaration) (d : Declaration) (below : List Frame)
      (pending : List Declaration) :
      Step dependsOn ⟨placed, ⟨d, []⟩ :: below, pending⟩ ⟨placed ++ [d], below, pending⟩
  | enter {d e : Declaration} {n : String} {ns : List String} {below : List Frame}
      {pending : List Declaration} (placed : List Declaration)
      (found : pending.find? (·.name = n) = some e) :
      Step dependsOn ⟨placed, ⟨d, n :: ns⟩ :: below, pending⟩
        ⟨placed, ⟨e, dependsOn e⟩ :: ⟨d, ns⟩ :: below, pending.eraseP (·.name = n)⟩
  | skip {d : Declaration} {n : String} {ns : List String} {below : List Frame}
      {pending : List Declaration} (placed : List Declaration)
      (missing : pending.find? (·.name = n) = none) :
      Step dependsOn ⟨placed, ⟨d, n :: ns⟩ :: below, pending⟩ ⟨placed, ⟨d, ns⟩ :: below, pending⟩

/-- The search before its first step. -/
def State.start (ds : List Declaration) : State := ⟨[], [], firsts ds⟩

/-- A step changes nothing about what is placed in the end. -/
theorem Step.placed_search {dependsOn : Declaration → List String} {s s' : State}
    (h : Step dependsOn s s') :
    s'.placed ++ search dependsOn s'.pending s'.stack =
      s.placed ++ search dependsOn s.pending s.stack := by
  cases h with
  | root => rw [search_root]
  | emit =>
    rw [search_emit]
    simp
  | enter placed found => rw [search_enter found]
  | skip placed missing => rw [search_skip missing]

/-- The steps lead to the end, where all that the search places is placed. -/
theorem reaches_end (dependsOn : Declaration → List String) (pending : List Declaration)
    (stack : List Frame) (placed : List Declaration) :
    ReflTransGen (Step dependsOn) ⟨placed, stack, pending⟩
      ⟨placed ++ search dependsOn pending stack, [], []⟩ := by
  induction pending, stack using search.induct dependsOn generalizing placed with
  | case1 =>
    rw [search_nil, List.append_nil]
  | case2 d rest ih =>
    rw [search_root]
    exact (ih placed).head (.root ..)
  | case3 pending d below ih =>
    rw [search_emit, List.append_cons]
    exact (ih (placed ++ [d])).head (.emit ..)
  | case4 pending d n ns below e found hlt ih =>
    rw [search_enter found]
    exact (ih placed).head (.enter placed found)
  | case5 pending d n ns below missing ih =>
    rw [search_skip missing]
    exact (ih placed).head (.skip placed missing)

/-! ## What the search looks up -/

/-- What holds of every state of the search for an order. -/
structure Located (ds : List Declaration) (s : State) : Prop where
  /-- Every first declaration is placed, under way or pending. -/
  perm : (s.placed ++ (underWay s.stack ++ s.pending)).Perm (firsts ds)
  /-- A frame still has to look at the end of the dependencies of its declaration. -/
  remaining : ∀ f ∈ s.stack, f.remaining <:+ f.declaration.dependencies (names ds)

namespace Located

variable {s s' : State}

theorem start (ds : List Declaration) : Located ds (.start ds) where
  perm := List.Perm.refl _
  remaining := nofun

theorem step (h : Located ds s) (hstep : Step (dependencies (names ds)) s s') : Located ds s' := by
  obtain ⟨perm, remaining⟩ := h
  cases hstep with
  | root placed d pending => exact ⟨perm, by simp⟩
  | emit placed d below pending =>
    refine ⟨?_, (List.forall_mem_cons.1 remaining).2⟩
    simpa [underWay] using perm
  | @enter d e n ns below pending placed found =>
    obtain ⟨hframe, hbelow⟩ := List.forall_mem_cons.1 remaining
    refine ⟨?_, ?_⟩
    · -- `e` is under way now and was pending
      have hmove : (underWay (⟨e, e.dependencies (names ds)⟩ :: ⟨d, ns⟩ :: below) ++
          pending.eraseP (·.name = n)).Perm (underWay (⟨d, n :: ns⟩ :: below) ++ pending) :=
        List.perm_middle.symm.trans ((perm_eraseP_of_find? found).append_left _)
      exact (hmove.append_left placed).trans perm
    · rw [List.forall_mem_cons, List.forall_mem_cons]
      exact ⟨List.suffix_refl _, (List.suffix_cons n ns).trans hframe, hbelow⟩
  | @skip d n ns below pending placed missing =>
    obtain ⟨hframe, hbelow⟩ := List.forall_mem_cons.1 remaining
    exact ⟨perm, List.forall_mem_cons.2 ⟨(List.suffix_cons n ns).trans hframe, hbelow⟩⟩

theorem run (h : ReflTransGen (Step (dependencies (names ds))) (.start ds) s) : Located ds s := by
  induction h with
  | refl => exact start ds
  | tail _ hstep ih => exact ih.step hstep

theorem mem_firsts_of_stack (h : Located ds s) {f : Frame} (hf : f ∈ s.stack) :
    f.declaration ∈ firsts ds := by
  refine h.perm.subset (List.mem_append_right _ (List.mem_append_left _ ?_))
  exact List.mem_map_of_mem hf

theorem mem_names_firsts_of_mentions (h : Located ds s) (hn : s.Mentions n) :
    n ∈ names (firsts ds) := by
  rcases hn with hn | ⟨f, hf, rfl | hn⟩
  · obtain ⟨d, hd, rfl⟩ := List.mem_map.1 hn
    exact List.mem_map_of_mem (h.perm.subset (by simp [hd]))
  · exact List.mem_map_of_mem (h.mem_firsts_of_stack hf)
  · exact mem_names_firsts_iff.2 (mem_dependencies_iff.1 ((h.remaining f hf).subset hn)).2

/-- A first declaration is found pending unless it is placed or under way. -/
theorem find?_pending_iff (h : Located ds s) (hd : d ∈ firsts ds) :
    s.pending.find? (·.name = d.name) = some d ↔
      d.name ∉ names s.placed ∧ d.name ∉ names (underWay s.stack) := by
  have hdistinct : (names (s.placed ++ (underWay s.stack ++ s.pending))).Nodup :=
    ((h.perm.map _).nodup_iff).2 (nodup_names_firsts ds)
  have hmem := h.perm.mem_iff.2 hd
  rw [List.mem_append, List.mem_append] at hmem
  simp only [names, List.map_append] at hdistinct
  obtain ⟨-, hrest, hplaced⟩ := List.nodup_append.1 hdistinct
  obtain ⟨-, hpending, hstack⟩ := List.nodup_append.1 hrest
  rw [Keyed.find?_eq_some_of_nodup hpending]
  constructor
  · rintro ⟨hd, -⟩
    have hmap := List.mem_map_of_mem (f := Declaration.name) hd
    exact ⟨fun hin => hplaced _ hin _ (List.mem_append_right _ hmap) rfl,
      fun hin => hstack _ hin _ hmap rfl⟩
  · rintro ⟨hnot_placed, hnot_stack⟩
    rcases hmem with hin | hin | hin
    · exact absurd (List.mem_map_of_mem hin) hnot_placed
    · exact absurd (List.mem_map_of_mem hin) hnot_stack
    · exact ⟨hin, rfl⟩

end Located

/-- **The order as a recursive search.** The recursive search from the first declarations, in their
order, places declarations in one order only, and that is the order of declarations. The search with
a stack comes to its end with it. In every state on the way it is still to come to that order; every
name that the state mentions is declared and listed in the graph, and it is found pending exactly if
it is neither placed nor under way; and every frame is of the declaration found under its name and
looks at the names that the graph lists for it. -/
theorem order_as_recursion (ds : List Declaration) :
    (∀ placed, DepthFirst ds placed ↔ placed = order ds) ∧
    ReflTransGen (Step (dependencies (names ds))) (.start ds) ⟨order ds, [], []⟩ ∧
    ∀ s, ReflTransGen (Step (dependencies (names ds))) (.start ds) s →
      s.placed ++ search (dependencies (names ds)) s.pending s.stack = order ds ∧
      (∀ n, s.Mentions n → ∃ d deps,
        (firsts ds).find? (·.name = n) = some d ∧ (graph (firsts ds)).lookup n = some deps ∧
        (s.pending.find? (·.name = n) = some d ↔
          n ∉ names s.placed ∧ n ∉ names (underWay s.stack))) ∧
      ∀ f ∈ s.stack,
        (firsts ds).find? (·.name = f.declaration.name) = some f.declaration ∧
        ∃ deps, (graph (firsts ds)).lookup f.declaration.name = some deps ∧
          f.remaining <:+ deps := by
  refine ⟨fun placed => depthFirst_iff, reaches_end _ _ _ [], fun s hrun => ⟨?_, ?_, ?_⟩⟩
  · induction hrun with
    | refl => rfl
    | tail _ hstep ih => exact hstep.placed_search.trans ih
  · intro n hn
    have hlocated := Located.run hrun
    obtain ⟨d, hd, rfl⟩ := List.mem_map.1 (hlocated.mem_names_firsts_of_mentions hn)
    exact ⟨d, _, find?_firsts_of_mem hd, lookup_graph_firsts hd, hlocated.find?_pending_iff hd⟩
  · intro f hf
    have hlocated := Located.run hrun
    have hfirst := hlocated.mem_firsts_of_stack hf
    exact ⟨find?_firsts_of_mem hfirst, _, lookup_graph_firsts hfirst, hlocated.remaining f hf⟩

end ApiModel.Declaration
