import ApiModel.Proofs.Declaration.Order

/-!
# The order as a recursive search

The order of declarations is that of a depth-first search that calls itself: a name that is visited
is in progress while the names its declaration depends on are visited, those that are visited
already or in progress being skipped, and takes its place after them. The search with a stack comes
to the same order. Its frames are the calls that have not returned, and what it has pending are the
declarations of names that are neither visited nor in progress.

Results:

* `search_of_visits`: visiting the dependencies that a frame has still to look at does what the
  search does until the frame has none left.
* `exists_visits`: every list of declared names can be visited.
* `depthFirst_iff`: the recursive search comes to the order of declarations and to no other.
-/

namespace ApiModel.Declaration

variable {ds pending placed : List Declaration} {d e : Declaration} {n : String} {ns : List String}
  {below : List Frame}

/-! ## The recursive search -/

/-- The names that a recursive search has marked. -/
structure Marks where
  /-- The names whose declarations have taken their place. -/
  visited : List String
  /-- The names whose visit has not ended. -/
  inProgress : List String

namespace Marks

/-- Nothing is marked at the start. -/
def none : Marks := ⟨[], []⟩

/-- A name is visited or in progress. -/
def Met (m : Marks) (n : String) : Prop := n ∈ m.visited ∨ n ∈ m.inProgress

instance (m : Marks) : DecidablePred m.Met := fun _ => inferInstanceAs (Decidable (_ ∨ _))

/-- The marks when the visit of a name begins. -/
def enter (m : Marks) (n : String) : Marks := { m with inProgress := n :: m.inProgress }

/-- The marks when the visit of a name ends. -/
def leave (m : Marks) (n : String) : Marks := ⟨n :: m.visited, m.inProgress.erase n⟩

theorem met_enter_iff {m : Marks} {k : String} : (m.enter n).Met k ↔ k = n ∨ m.Met k := by
  unfold Met enter
  rw [List.mem_cons]
  exact or_left_comm

end Marks

/-- Names are visited one after another, from some marks to others, and declarations take their
places in order. A name that is marked is skipped. Any other is in progress while the names that its
declaration depends on are visited. -/
inductive Visits (ds : List Declaration) :
    Marks → List String → Marks → List Declaration → Prop where
  | done (m : Marks) : Visits ds m [] m []
  | skip {m m' : Marks} {n : String} {ns : List String} {placed : List Declaration}
      (met : m.Met n) (rest : Visits ds m ns m' placed) : Visits ds m (n :: ns) m' placed
  | visit {m m₁ m' : Marks} {n : String} {ns deps : List String} {d : Declaration}
      {inner placed : List Declaration} (unmet : ¬ m.Met n)
      (found : (firsts ds).find? (·.name = n) = some d)
      (listed : (graph (firsts ds)).lookup n = some deps)
      (call : Visits ds (m.enter n) deps m₁ inner)
      (rest : Visits ds (m₁.leave n) ns m' placed) :
      Visits ds m (n :: ns) m' (inner ++ d :: placed)

/-- The recursive search from the first declarations of all names, in their order, places
declarations in an order. -/
def DepthFirst (ds placed : List Declaration) : Prop :=
  ∃ m, Visits ds .none (names (firsts ds)) m placed

namespace Visits

variable {m m' : Marks} {placed : List Declaration}

/-- Every visit that begins ends, so the same names are in progress before and after. -/
theorem inProgress_eq (h : Visits ds m ns m' placed) : m'.inProgress = m.inProgress := by
  induction h with
  | done m => rfl
  | skip _ _ ih => exact ih
  | visit _ _ _ _ _ ihcall ihrest =>
    rw [ihrest, Marks.leave, ihcall]
    exact List.erase_cons_head ..

/-- The end of a visit only moves its name from one mark to the other. -/
theorem met_leave_iff (call : Visits ds (m.enter n) ns m' placed) {k : String} :
    (m'.leave n).Met k ↔ m'.Met k := by
  have hin : n ∈ m'.inProgress := by
    rw [call.inProgress_eq]
    exact List.mem_cons_self
  unfold Marks.Met Marks.leave
  rw [List.mem_cons]
  by_cases hk : k = n
  · subst hk
    simp [hin]
  · simp [hk, List.mem_erase_of_ne hk]

/-- What is marked stays marked. -/
theorem met_mono (h : Visits ds m ns m' placed) {k : String} (hk : m.Met k) : m'.Met k := by
  induction h with
  | done m => exact hk
  | skip _ _ ih => exact ih hk
  | visit _ _ _ call _ ihcall ihrest =>
    exact ihrest (call.met_leave_iff.2 (ihcall (Marks.met_enter_iff.2 (Or.inr hk))))

end Visits

/-! ## What is pending -/

/-- The first declarations of the names that are not marked. -/
def unmet (ds : List Declaration) (m : Marks) : List Declaration :=
  (firsts ds).filter fun d => ¬ m.Met d.name

theorem unmet_congr {m m' : Marks} (h : ∀ k, m'.Met k ↔ m.Met k) : unmet ds m' = unmet ds m := by
  unfold unmet
  simp only [h]

theorem eraseP_eq_filter (h : (names pending).Nodup) (n : String) :
    pending.eraseP (·.name = n) = pending.filter (·.name ≠ n) := by
  induction pending with
  | nil => rfl
  | cons d rest ih =>
    obtain ⟨hd, hrest⟩ := List.nodup_cons.1 h
    by_cases hn : d.name = n
    · have hall : ∀ e ∈ rest, decide (e.name ≠ n) = true := by
        intro e he
        rw [decide_eq_true_eq]
        intro hname
        exact hd (List.mem_map.2 ⟨e, he, hname.trans hn.symm⟩)
      rw [List.eraseP_cons_of_pos (by simpa using hn), List.filter_cons_of_neg (by simpa using hn),
        List.filter_eq_self.2 hall]
    · rw [List.eraseP_cons_of_neg (by simpa using hn), List.filter_cons_of_pos (by simpa using hn),
        ih hrest]

/-- When the visit of a name begins its declaration is not pending any more. -/
theorem unmet_enter (m : Marks) (n : String) :
    unmet ds (m.enter n) = (unmet ds m).eraseP (·.name = n) := by
  have hdistinct : (names (unmet ds m)).Nodup :=
    (nodup_names_firsts ds).sublist (List.Sublist.map _ List.filter_sublist)
  rw [eraseP_eq_filter hdistinct, unmet, unmet, List.filter_filter]
  refine List.filter_congr fun d _ => ?_
  simp only [Marks.met_enter_iff, not_or, ne_eq, Bool.decide_and]

theorem find?_unmet_of_met {m : Marks} (h : m.Met n) :
    (unmet ds m).find? (·.name = n) = Option.none := by
  refine List.find?_eq_none.2 fun d hd hname => ?_
  have hnot : ¬ m.Met d.name := by simpa using (List.mem_filter.1 hd).2
  rw [decide_eq_true_eq] at hname
  rw [hname] at hnot
  exact hnot h

theorem find?_unmet_of_not_met {m : Marks} (h : ¬ m.Met n) :
    (unmet ds m).find? (·.name = n) = (firsts ds).find? (·.name = n) := by
  unfold unmet
  rw [List.find?_filter]
  congr 1
  funext d
  by_cases hd : d.name = n
  · simp [hd, h]
  · simp [hd]

theorem unmet_none (ds : List Declaration) : unmet ds .none = firsts ds := by
  refine List.filter_eq_self.2 fun d _ => ?_
  simp [Marks.none, Marks.Met]

/-- A first declaration that is not marked is pending. -/
theorem mem_unmet_iff {m : Marks} : d ∈ unmet ds m ↔ d ∈ firsts ds ∧ ¬ m.Met d.name := by
  unfold unmet
  rw [List.mem_filter, decide_eq_true_eq]

/-- A first declaration is found under its name. -/
theorem find?_firsts_of_mem (hd : d ∈ firsts ds) :
    (firsts ds).find? (·.name = d.name) = some d := by
  rw [find?_firsts]
  exact mem_firsts_iff.1 hd

/-- A first declaration is listed in the graph with what it depends on. -/
theorem lookup_graph_firsts (hd : d ∈ firsts ds) :
    (graph (firsts ds)).lookup d.name = some (d.dependencies (names ds)) :=
  (lookup_graph_iff (nodup_names_firsts ds)).2 ⟨d, hd, rfl, dependencies_firsts ds d⟩

theorem lookup_graph_of_find? (h : (firsts ds).find? (·.name = n) = some d) :
    (graph (firsts ds)).lookup n = some (d.dependencies (names ds)) := by
  rw [← name_of_find? h]
  exact lookup_graph_firsts (List.mem_of_find?_eq_some h)

/-! ## The two searches side by side -/

/-- A frame with names still to look at does what the visit of these names does. -/
theorem search_of_visits {m m' : Marks} {placed : List Declaration} (h : Visits ds m ns m' placed)
    (d : Declaration) (below : List Frame) :
    search (dependencies (names ds)) (unmet ds m) (⟨d, ns⟩ :: below) =
      placed ++ search (dependencies (names ds)) (unmet ds m') (⟨d, []⟩ :: below) := by
  induction h generalizing d below with
  | done m => rfl
  | skip met _ ih => rw [search_skip (find?_unmet_of_met met), ih]
  | @visit m m₁ m' n ns deps e inner placed unmet found listed call rest ihcall ihrest =>
    have hdeps : e.dependencies (names ds) = deps :=
      Option.some.inj ((lookup_graph_of_find? found).symm.trans listed)
    rw [search_enter ((find?_unmet_of_not_met unmet).trans found), ← unmet_enter, hdeps,
      ihcall e (⟨d, ns⟩ :: below), search_emit,
      ← unmet_congr fun _ => call.met_leave_iff, ihrest d below]
    simp

/-- What is pending is in the rest, if everything before it was met. -/
theorem unmet_of_split {m : Marks} {before rest : List Declaration}
    (hsplit : firsts ds = before ++ rest) (hbefore : ∀ d ∈ before, m.Met d.name) :
    unmet ds m = rest.filter fun d => ¬ m.Met d.name := by
  have hnone : before.filter (fun d => ¬ m.Met d.name) = [] :=
    List.filter_eq_nil_iff.2 fun d hd => by simpa using hbefore d hd
  rw [unmet, hsplit, List.filter_append, hnone, List.nil_append]

/-- With an empty stack the search does what the visit of the names does that no root had yet. -/
theorem search_of_visits_roots {m m' : Marks} {placed before rest : List Declaration}
    (h : Visits ds m (names rest) m' placed) (hsplit : firsts ds = before ++ rest)
    (hbefore : ∀ d ∈ before, m.Met d.name) :
    search (dependencies (names ds)) (unmet ds m) [] = placed := by
  generalize hns : names rest = ns at h
  induction h generalizing before rest with
  | done m =>
    have hrest : rest = [] := List.map_eq_nil_iff.1 hns
    rw [unmet_of_split hsplit hbefore, hrest, List.filter_nil, search_nil]
  | @skip m m' n ns placed met call ih =>
    obtain ⟨r, rest, rfl, rfl, rfl⟩ := List.map_eq_cons_iff.1 hns
    have hnext : firsts ds = (before ++ [r]) ++ rest := by simp [hsplit]
    exact ih hnext (List.forall_mem_append.2 ⟨hbefore, List.forall_mem_singleton.2 met⟩) rfl
  | @visit m m₁ m' n ns deps e inner placed hunmet found listed call hrest ihcall ihrest =>
    obtain ⟨r, rest, rfl, rfl, rfl⟩ := List.map_eq_cons_iff.1 hns
    have hr : r ∈ firsts ds := by
      rw [hsplit]
      simp
    have he : r = e := Option.some.inj ((find?_firsts_of_mem hr).symm.trans found)
    subst he
    have hdeps : r.dependencies (names ds) = deps :=
      Option.some.inj ((lookup_graph_firsts hr).symm.trans listed)
    -- `r` is the first declaration that is pending
    have hfirst : unmet ds m = r :: unmet ds (m.enter r.name) := by
      have hcons : unmet ds m = r :: rest.filter (fun d => ¬ m.Met d.name) := by
        rw [unmet_of_split hsplit hbefore, List.filter_cons_of_pos (by simpa using hunmet)]
      rw [unmet_enter, hcons, List.eraseP_cons_of_pos (by simp)]
    rw [hfirst, search_root, hdeps, search_of_visits call r [], search_emit,
      ← unmet_congr fun _ => call.met_leave_iff]
    congr 2
    have hnext : firsts ds = (before ++ [r]) ++ rest := by simp [hsplit]
    -- whatever was met on entering `r` is met on leaving it
    have hmet : ∀ n, n = r.name ∨ m.Met n → (m₁.leave r.name).Met n := fun n hn =>
      call.met_leave_iff.2 (call.met_mono (Marks.met_enter_iff.2 hn))
    exact ihrest hnext (List.forall_mem_append.2 ⟨fun d hd => hmet _ (Or.inr (hbefore d hd)),
      List.forall_mem_singleton.2 (hmet _ (Or.inl rfl))⟩) rfl

/-- Every list of declared names can be visited, whatever is marked. -/
theorem exists_visits {m : Marks} (h : ∀ n ∈ ns, n ∈ names (firsts ds)) :
    ∃ m' placed, Visits ds m ns m' placed := by
  -- fewer declarations are pending in the visit of dependencies
  induction hk : (unmet ds m).length using Nat.strongRecOn generalizing m ns with
  | _ k ihcall =>
    have hle : (unmet ds m).length ≤ k := Nat.le_of_eq hk
    clear hk
    induction ns generalizing m with
    | nil => exact ⟨m, [], .done m⟩
    | cons n ns ihrest =>
      obtain ⟨hn, hns⟩ := List.forall_mem_cons.1 h
      by_cases met : m.Met n
      · obtain ⟨m', placed, hrest⟩ := ihrest hns hle
        exact ⟨m', placed, .skip met hrest⟩
      · obtain ⟨d, hd, rfl⟩ := List.mem_map.1 hn
        have hpending : d ∈ unmet ds m := mem_unmet_iff.2 ⟨hd, met⟩
        have hfewer : (unmet ds (m.enter d.name)).length < (unmet ds m).length := by
          rw [unmet_enter, List.length_eraseP_of_mem hpending (by simp)]
          exact Nat.sub_lt (List.length_pos_of_mem hpending) Nat.one_pos
        obtain ⟨m₁, inner, hcall⟩ := ihcall _ (Nat.lt_of_lt_of_le hfewer hle)
          (fun k hk => mem_names_firsts_iff.2 (mem_dependencies_iff.1 hk).2) rfl
        have hno_more : (unmet ds (m₁.leave d.name)).length ≤ k := by
          rw [unmet_congr fun _ => hcall.met_leave_iff]
          refine Nat.le_trans (List.Sublist.length_le ?_) hle
          refine List.monotone_filter_right _ fun e he => ?_
          rw [decide_eq_true_eq] at he ⊢
          exact fun hmet => he (hcall.met_mono (Marks.met_enter_iff.2 (Or.inr hmet)))
        obtain ⟨m', placed, hrest⟩ := ihrest hns hno_more
        exact ⟨m', inner ++ d :: placed,
          .visit met (find?_firsts_of_mem hd) (lookup_graph_firsts hd) hcall hrest⟩

theorem depthFirst_iff : DepthFirst ds placed ↔ placed = order ds := by
  have horder : ∀ {placed}, DepthFirst ds placed → placed = order ds := by
    rintro placed ⟨m, h⟩
    have hrun := search_of_visits_roots h (List.nil_append _).symm nofun
    rw [unmet_none] at hrun
    exact hrun.symm
  constructor
  · exact horder
  · rintro rfl
    obtain ⟨m, placed, h⟩ := exists_visits (m := .none) fun n (hn : n ∈ names (firsts ds)) => hn
    rw [← horder ⟨m, h⟩]
    exact ⟨m, h⟩

theorem depthFirst_order (ds : List Declaration) : DepthFirst ds (order ds) :=
  depthFirst_iff.2 rfl

end ApiModel.Declaration
