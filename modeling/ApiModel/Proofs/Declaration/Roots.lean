import ApiModel.Proofs.Declaration.Circle
import ApiModel.Proofs.Declaration.DepthFirst

/-!
# The order up to a root

The recursive search visits the declared names one after another. A visit may pass over a name that
is in progress, but when no visit is under way any more, everything that the placed declarations
lead to is placed too. So between two roots the order holds what the roots so far lead to, and
nothing else; and a root that none of those before it leads to comes last of what it leads to.

Results:

* `Visits.append_iff`: names that are visited one after another may be visited in two parts.
* `Visits.reached`, `Visits.closed`: what is placed is reached from the visited names, and what it
  depends on is met in the end.
* `Visits.mem_names_placed_iff`: a search from the start places what its roots lead to.
* `order_upto_root`: the order up to a root holds what it and the roots before it lead to.
-/

namespace ApiModel.Declaration

open Relation (ReflTransGen)

variable {ds placed : List Declaration} {d : Declaration} {n k : String} {ns ks : List String}
  {m m' : Marks}

namespace Visits

/-! ## Visits in two parts -/

theorem append {m₁ : Marks} {before after : List Declaration} (h : Visits ds m ns m₁ before)
    (hrest : Visits ds m₁ ks m' after) : Visits ds m (ns ++ ks) m' (before ++ after) := by
  induction h with
  | done m => exact hrest
  | skip met _ ih => exact .skip met (ih hrest)
  | visit unmet found listed call _ _ ih =>
    rw [List.append_assoc, List.cons_append]
    exact .visit unmet found listed call (ih hrest)

theorem append_iff :
    Visits ds m (ns ++ ks) m' placed ↔
      ∃ m₁ before after, Visits ds m ns m₁ before ∧ Visits ds m₁ ks m' after ∧
        placed = before ++ after := by
  constructor
  · intro h
    induction ns generalizing m placed with
    | nil => exact ⟨m, [], placed, .done m, h, rfl⟩
    | cons n ns ih =>
      cases h with
      | skip met rest =>
        obtain ⟨m₁, before, after, hbefore, hafter, rfl⟩ := ih rest
        exact ⟨m₁, before, after, .skip met hbefore, hafter, rfl⟩
      | @visit _ _ _ _ _ _ e inner _ unmet found listed call rest =>
        obtain ⟨m₁, before, after, hbefore, hafter, rfl⟩ := ih rest
        exact ⟨m₁, inner ++ e :: before, after, .visit unmet found listed call hbefore, hafter,
          by simp⟩
  · rintro ⟨m₁, before, after, hbefore, hafter, rfl⟩
    exact hbefore.append hafter

/-! ## What is placed -/

/-- A name is visited in the end if it was before, or its declaration was placed. -/
theorem mem_visited_iff (h : Visits ds m ns m' placed) :
    k ∈ m'.visited ↔ k ∈ m.visited ∨ k ∈ names placed := by
  induction h with
  | done m => simp [names]
  | skip _ _ ih => exact ih
  | @visit m m₁ m' n ns deps e inner placed _ found _ _ _ ihcall ihrest =>
    have hname : e.name = n := name_of_find? found
    have hnames : names (inner ++ e :: placed) = names inner ++ n :: names placed := by
      rw [names_append, names_cons, hname]
    rw [ihrest, Marks.leave, List.mem_cons, ihcall, Marks.enter, hnames, List.mem_append,
      List.mem_cons]
    simp only [or_assoc, or_left_comm]

theorem met_of_mem (h : Visits ds m ns m' placed) (hk : k ∈ ns) : m'.Met k := by
  induction h with
  | done m => cases hk
  | skip met rest ih =>
    rcases List.mem_cons.1 hk with rfl | hk
    · exact rest.met_mono met
    · exact ih hk
  | visit _ _ _ _ rest _ ihrest =>
    rcases List.mem_cons.1 hk with rfl | hk
    · exact rest.met_mono (Or.inl List.mem_cons_self)
    · exact ihrest hk

/-- A declaration is placed only if one of the visited names leads to it. -/
theorem reached (h : Visits ds m ns m' placed) (hd : d ∈ placed) :
    ∃ n ∈ ns, Reaches (firsts ds) n d.name := by
  induction h with
  | done m => cases hd
  | skip _ _ ih =>
    obtain ⟨n, hn, hreaches⟩ := ih hd
    exact ⟨n, List.mem_cons_of_mem _ hn, hreaches⟩
  | @visit m m₁ m' n ns deps e inner placed _ found listed _ _ ihcall ihrest =>
    have hname : e.name = n := name_of_find? found
    rcases List.mem_append.1 hd with hinner | hd
    · obtain ⟨k, hk, hreaches⟩ := ihcall hinner
      exact ⟨n, List.mem_cons_self, hreaches.head ⟨deps, listed, hk⟩⟩
    · rcases List.mem_cons.1 hd with rfl | hd
      · exact ⟨n, List.mem_cons_self, hname ▸ .refl⟩
      · obtain ⟨k, hk, hreaches⟩ := ihrest hd
        exact ⟨k, List.mem_cons_of_mem _ hk, hreaches⟩

/-- What a placed declaration depends on is met in the end. -/
theorem closed (h : Visits ds m ns m' placed) (hd : d ∈ placed)
    (hedge : Edge (firsts ds) d.name k) : m'.Met k := by
  induction h with
  | done m => cases hd
  | skip _ _ ih => exact ih hd
  | @visit m m₁ m' n ns deps e inner placed _ found listed call rest ihcall ihrest =>
    have hname : e.name = n := name_of_find? found
    rcases List.mem_append.1 hd with hinner | hd
    · exact rest.met_mono (call.met_leave_iff.2 (ihcall hinner))
    · rcases List.mem_cons.1 hd with rfl | hd
      · obtain ⟨deps', hlisted, hk⟩ := hedge
        rw [hname, listed] at hlisted
        cases hlisted
        exact rest.met_mono (call.met_leave_iff.2 (call.met_of_mem hk))
      · exact ihrest hd

/-! ## Searches from the start -/

/-- Between two roots the names that are met are those of what is placed. -/
theorem met_iff_of_none (h : Visits ds .none ns m placed) : m.Met k ↔ k ∈ names placed := by
  have hvisited : k ∈ m.visited ↔ k ∈ names placed := by
    rw [h.mem_visited_iff]
    simp [Marks.none]
  rw [Marks.Met, hvisited, h.inProgress_eq]
  simp [Marks.none]

/-- A search from the start places the declarations that its roots lead to. -/
theorem mem_names_placed_iff (h : Visits ds .none ns m placed) :
    k ∈ names placed ↔ ∃ n ∈ ns, Reaches (firsts ds) n k := by
  constructor
  · intro hk
    obtain ⟨d, hd, rfl⟩ := List.mem_map.1 hk
    exact h.reached hd
  · rintro ⟨n, hn, hreaches⟩
    induction hreaches with
    | refl => exact h.met_iff_of_none.1 (h.met_of_mem hn)
    | tail _ hedge ih =>
      obtain ⟨d, hd, rfl⟩ := List.mem_map.1 ih
      exact h.met_iff_of_none.1 (h.closed hd hedge)

end Visits

/-! ## The order up to a root -/

/-- The first declarations are those up to a new name, its declaration, and others. -/
theorem firsts_split {before : List Declaration} (after : List Declaration)
    (hnew : d.name ∉ names before) :
    ∃ rest, firsts (before ++ d :: after) = firsts before ++ d :: rest := by
  rw [firsts_append, firsts, List.filter_cons_of_pos (by simpa using hnew)]
  exact ⟨_, rfl⟩

/-- A root that is not met yet is the last to be placed of what a search up to it places. -/
theorem exists_visits_upto {before after : List Declaration} (hsplit : ds = before ++ d :: after)
    (hroot : ∀ a ∈ names before, ¬ Reaches (firsts ds) a d.name) :
    ∃ m placed rest, order ds = placed ++ d :: rest ∧
      Visits ds .none (names (firsts before) ++ [d.name]) m (placed ++ [d]) := by
  have hnew : d.name ∉ names before := fun hmem => hroot _ hmem .refl
  obtain ⟨rest, hfirsts⟩ := firsts_split after hnew
  rw [← hsplit] at hfirsts
  have hd : d ∈ firsts ds := by
    rw [hfirsts]
    exact List.mem_append_right _ List.mem_cons_self
  obtain ⟨m, hrun⟩ := depthFirst_order ds
  rw [hfirsts, names_append, names_cons] at hrun
  obtain ⟨m₁, earlier, later, hearlier, hlater, horder⟩ := Visits.append_iff.1 hrun
  have hunmet : ¬ m₁.Met d.name := by
    rw [hearlier.met_iff_of_none, hearlier.mem_names_placed_iff]
    rintro ⟨a, ha, hreaches⟩
    exact hroot a (mem_names_firsts_iff.1 ha) hreaches
  cases hlater with
  | skip met _ => exact absurd met hunmet
  | @visit _ m₂ _ _ _ _ e inner last unmet found listed call _ =>
    obtain rfl : d = e := Option.some.inj ((find?_firsts_of_mem hd).symm.trans found)
    refine ⟨m₂.leave d.name, earlier ++ inner, last, ?_, ?_⟩
    · rw [horder, List.append_assoc]
    · rw [List.append_assoc]
      exact hearlier.append (.visit unmet found listed call (.done _))

/-- **The order up to a root.** Take a declaration that nothing declared before it leads to. The
order up to it holds exactly what it or anything declared before it leads to, in any number of
steps. So on a circle whose first member it is, all other members stand before it. -/
theorem order_upto_root {before after : List Declaration} (hsplit : ds = before ++ d :: after)
    (hroot : ∀ a ∈ names before, ¬ Reaches (firsts ds) a d.name) :
    ∃ placed rest, order ds = placed ++ d :: rest ∧
      (∀ n, n ∈ names (placed ++ [d]) ↔
        ∃ a ∈ names (before ++ [d]), Reaches (firsts ds) a n) ∧
      ∀ circle : Cycle String, circle.Chain (Edge (firsts ds)) → d.name ∈ circle →
        ∀ n ∈ circle, n ≠ d.name → n ∈ names placed := by
  obtain ⟨m, placed, rest, horder, hupto⟩ := exists_visits_upto hsplit hroot
  have hroots : ∀ a, a ∈ names (firsts before) ++ [d.name] ↔ a ∈ names (before ++ [d]) := by
    intro a
    rw [names_append, List.mem_append, List.mem_append, mem_names_firsts_iff]
    rfl
  have hplaced : ∀ n, n ∈ names (placed ++ [d]) ↔
      ∃ a ∈ names (before ++ [d]), Reaches (firsts ds) a n := by
    intro n
    rw [hupto.mem_names_placed_iff]
    simp only [hroots]
  refine ⟨placed, rest, horder, hplaced, ?_⟩
  intro circle hcircle hd n hn hne
  have hmem : n ∈ names (placed ++ [d]) := by
    refine (hplaced n).2 ⟨d.name, ?_, reaches_of_circle hcircle hd hn⟩
    rw [names_append]
    exact List.mem_append_right _ List.mem_cons_self
  rw [names_append, List.mem_append] at hmem
  exact hmem.resolve_right fun h => hne (List.mem_singleton.1 h)

/-- A declaration of a record that links to others. -/
def linking (name : String) (links : List String) : Declaration :=
  ⟨name, "#/definitions/" ++ name,
    .record (links.map fun n => ⟨n, .named n, false, false⟩), none⟩

/-- Ships, crews and ports link to each other. Ships carry lamps, and buoys link to ships. -/
def fleet : List Declaration :=
  [linking "Lamp" [], linking "Ship" ["Crew", "Lamp"], linking "Buoy" ["Ship", "Sea"],
    linking "Port" ["Ship"], linking "Crew" ["Port", "Crew"]]

theorem order_upto_ship :
    let ship := linking "Ship" ["Crew", "Lamp"]
    let circle : Cycle String := (["Ship", "Crew", "Port"] : List String)
    (∀ a ∈ names [linking "Lamp" []], ¬ Reaches (firsts fleet) a ship.name) ∧
    circle.Chain (Edge (firsts fleet)) ∧
    ∃ placed rest, order fleet = placed ++ ship :: rest ∧
      "Lamp" ∈ names placed ∧ "Crew" ∈ names placed ∧ "Port" ∈ names placed ∧
      "Buoy" ∉ names placed := by
  intro ship circle
  have hroot : ∀ a ∈ names [linking "Lamp" []], ¬ Reaches (firsts fleet) a ship.name := by
    intro a ha
    exact not_reaches_of_graph ["Lamp"] (by decide) ha (by decide)
  have hcircle : circle.Chain (Edge (firsts fleet)) := by
    have hship : Edge (firsts fleet) "Ship" "Crew" := ⟨["Crew", "Lamp"], by decide, by decide⟩
    have hcrew : Edge (firsts fleet) "Crew" "Port" := ⟨["Port", "Crew"], by decide, by decide⟩
    have hport : Edge (firsts fleet) "Port" "Ship" := ⟨["Ship"], by decide, by decide⟩
    exact (((List.IsChain.singleton _).cons_cons hport).cons_cons hcrew).cons_cons hship
  have hsplit : fleet = [linking "Lamp" []] ++ ship :: fleet.drop 2 := rfl
  obtain ⟨placed, rest, horder, hplaced, hbefore⟩ := order_upto_root hsplit hroot
  refine ⟨hroot, hcircle, placed, rest, horder, ?_, ?_, ?_, ?_⟩
  · have hlamp : "Lamp" ∈ names (placed ++ [ship]) := (hplaced "Lamp").2 ⟨"Lamp", by decide, .refl⟩
    rw [names_append, List.mem_append] at hlamp
    exact hlamp.resolve_right (by decide)
  · exact hbefore circle hcircle (by decide) "Crew" (by decide) (by decide)
  · exact hbefore circle hcircle (by decide) "Port" (by decide) (by decide)
  · intro hbuoy
    have hmem : "Buoy" ∈ names (placed ++ [ship]) := by
      rw [names_append]
      exact List.mem_append_left _ hbuoy
    obtain ⟨a, ha, hreaches⟩ := (hplaced "Buoy").1 hmem
    exact not_reaches_of_graph ["Lamp", "Ship", "Crew", "Port"] (by decide)
      (List.mem_append_left ["Crew", "Port"] ha) (by decide) hreaches

end ApiModel.Declaration
