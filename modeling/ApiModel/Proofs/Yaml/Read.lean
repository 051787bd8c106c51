import ApiModel.Yaml.Read
import ApiModel.Proofs.Trace
import ApiModel.Proofs.Value.WellFormed

/-!
# What is read from YAML

A map is looked into by putting its entries in one by one, after the merges are done, so no node
stands for a map with one key twice. That holds of all that is known about a graph at any time, and
so of the value that is made of it in the end.

* `Ensures`: steps that keep what is known well-formed and give something with a property.
* `wellFormed_value`: the value of a node is well-formed if what is known is.
* `wellFormed_of_read`: every value that is read is well-formed.
-/

namespace ApiModel.Yaml

/-! ## What is known -/

/-- No node is known to stand for a map with one key twice. -/
def Knowledge.WellFormed (r : Knowledge) : Prop :=
  ∀ n entries, r.meaning? n = some (.map entries) → Entries.Distinct entries

namespace Knowledge

variable {r : Knowledge}

theorem meaning?_know (r : Knowledge) (n m : NodeId) (meaning : Meaning) :
    (r.know n meaning).meaning? m = some meaning ∨
      (r.know n meaning).meaning? m = r.meaning? m := by
  unfold meaning? know
  simp only [Array.getD_eq_getD_getElem?, Array.getElem?_setIfInBounds]
  split
  · split
    · exact Or.inl rfl
    · rename_i h1 h2
      right
      rw [Array.getElem?_eq_none (by omega)]
  · exact Or.inr rfl

theorem WellFormed.know {n : NodeId} {meaning : Meaning} (h : r.WellFormed)
    (hm : ∀ entries, meaning = .map entries → Entries.Distinct entries) :
    (r.know n meaning).WellFormed := by
  intro m entries hme
  rcases meaning?_know r n m meaning with heq | heq
  · rw [heq] at hme
    exact hm entries (Option.some.inj hme)
  · rw [heq] at hme
    exact h m entries hme

theorem wellFormed_start (g : Graph) : (start g).WellFormed := by
  intro n entries h
  unfold start meaning? at h
  rw [Array.getD_eq_getD_getElem?, Array.getElem?_replicate] at h
  split at h <;> cases h

end Knowledge

/-- What a node may come to stand for: no map with one key twice. -/
def Meaning.Sound (m : Meaning) : Prop := ∀ es, m = .map es → Entries.Distinct es

/-! ## Steps -/

/-- What is known keeps an invariant while nodes are looked at, and looking fails as it may. -/
structure Invariant (I : Knowledge → Prop) (P : Refusal → Prop) : Prop where
  /-- Nodes may come to stand for what they may. -/
  know : ∀ {r n m}, I r → Meaning.Sound m → I (r.know n m)
  /-- Collections may be met. -/
  meet : ∀ {r n}, I r → I { r with met := r.met.push n }
  /-- Maps may have their merges done. -/
  merge : ∀ {r n}, I r → r.graph.isMap n = true →
    Yields (fun g => I { r with graph := g }) P (r.graph.flatten r.merges n [])
  /-- Scalars may fail to have a value. -/
  scalar : ∀ {r n}, I r → Yields (fun _ => True) P (Finding.scalarOf r.graph n)
  /-- What is no YAML may be refused. -/
  malformed : P .malformed

section Steps

variable {I : Knowledge → Prop} {P : Refusal → Prop} {α β : Type}

/-- Steps keep an invariant of what is known, and give something with a property or fail as they
may. -/
def Ensures (I : Knowledge → Prop) (P : Refusal → Prop) (x : Finding α) (Q : α → Prop) : Prop :=
  ∀ r, I r → Yields (fun p => I p.2 ∧ Q p.1) P (x.run r)

namespace Ensures

variable {x : Finding α} {Q : α → Prop}

theorem pure {a : α} (h : Q a) : Ensures I P (Pure.pure a) Q := fun _ hr => .ok ⟨hr, h⟩

theorem bind {f : α → Finding β} {R : β → Prop} (hx : Ensures I P x Q)
    (hf : ∀ a, Q a → Ensures I P (f a) R) : Ensures I P (x >>= f) R :=
  fun r hr => Yields.bind (hx r hr) fun p hp => hf p.1 hp.2 p.2 hp.1

theorem map {f : α → β} {R : β → Prop} (hx : Ensures I P x Q) (h : ∀ a, Q a → R (f a)) :
    Ensures I P (f <$> x) R := by
  rw [map_eq_pure_bind]
  exact bind hx fun a ha => pure (h a ha)

theorem get : Ensures I P (MonadState.get : Finding Knowledge) I := fun _ hr => .ok ⟨hr, hr⟩

theorem set {r : Knowledge} (h : I r) :
    Ensures I P (MonadStateOf.set r : Finding PUnit) fun _ => True := fun _ _ => .ok ⟨h, trivial⟩

theorem lift {y : Except Refusal α} (h : Yields Q P y) : Ensures I P (liftM y : Finding α) Q := by
  intro r hr
  cases y with
  | error e => exact .error h
  | ok a => exact .ok ⟨hr, h⟩

theorem refuse (h : P .malformed) : Ensures I P (Finding.refuse : Finding α) Q :=
  fun _ _ => .error h

theorem forM {xs : List α} {f : α → Finding PUnit} (h : ∀ a, Ensures I P (f a) fun _ => True) :
    Ensures I P (xs.forM f) fun _ => True := by
  induction xs with
  | nil => exact pure trivial
  | cons a xs ih => exact bind (h a) fun _ _ => ih

theorem mapM {xs : List α} {f : α → Finding β} (h : ∀ a, Ensures I P (f a) fun _ => True) :
    Ensures I P (xs.mapM f) fun _ => True := by
  induction xs with
  | nil => exact pure trivial
  | cons a xs ih =>
    rw [List.mapM_cons]
    exact bind (h a) fun _ _ => bind ih fun _ _ => pure trivial

theorem foldlM {f : β → α → Finding β} {R : β → Prop} {xs : List α}
    (h : ∀ b a, R b → Ensures I P (f b a) R) {b : β} (hb : R b) :
    Ensures I P (xs.foldlM f b) R := by
  induction xs generalizing b with
  | nil => exact pure hb
  | cons a xs ih =>
    rw [List.foldlM_cons]
    exact bind (h b a hb) fun _ => ih

end Ensures

end Steps

/-! ## Looking at nodes -/

namespace Finding

variable {I : Knowledge → Prop} {P : Refusal → Prop}

theorem empty?_sound {tag : String} {m : Meaning} (h : Meaning.empty? tag = some m) : m.Sound := by
  rintro entries rfl
  unfold Meaning.empty? at h
  split_ifs at h <;> cases h
  exact List.Pairwise.nil

theorem ensures_look (hI : Invariant I P) (n : NodeId) :
    Ensures I P (look n) fun _ => True := by
  unfold look
  refine Ensures.get.bind fun r hr => ?_
  split
  · exact Ensures.pure trivial
  · rename_i m _ hm
    exact Ensures.set (hI.meet (hI.know hr (empty?_sound hm)))
  · exact (Ensures.lift (hI.scalar hr)).bind fun s _ => Ensures.set (hI.know hr nofun)

theorem ensures_key (hI : Invariant I P) (n : NodeId) : Ensures I P (key n) fun _ => True := by
  unfold key
  refine (ensures_look hI n).bind fun _ _ => Ensures.get.bind fun r _ => ?_
  split
  · exact Ensures.pure trivial
  · exact Ensures.refuse hI.malformed

/-- The entries of a map have distinct keys. -/
theorem ensures_entries (hI : Invariant I P) (n : NodeId) :
    Ensures I P (entries n) Entries.Distinct := by
  have hput : ∀ (es : List (ApiModel.Scalar × NodeId)) (entry : NodeId × NodeId),
      Entries.Distinct es →
      Ensures I P (do let k ← key entry.1; look entry.2; return Entries.put es k entry.2)
        Entries.Distinct := by
    intro es entry hes
    exact (ensures_key hI _).bind fun k _ =>
      (ensures_look hI _).bind fun _ _ => Ensures.pure (hes.put _ _)
  unfold entries
  refine Ensures.get.bind fun r hr => ?_
  have hrest : r.graph.isMap n = true → Ensures I P (do
      let g ← r.graph.flatten r.merges n []
      set { r with graph := g }
      (g.entries n).foldlM (fun es entry => do
        let k ← key entry.1
        look entry.2
        return Entries.put es k entry.2) [] : Finding _) Entries.Distinct := fun hn =>
    (Ensures.lift (hI.merge hr hn)).bind fun g hg =>
      (Ensures.set hg).bind fun _ _ => Ensures.foldlM hput List.Pairwise.nil
  split
  · exact (Ensures.refuse hI.malformed).bind (Q := fun _ => False) nofun
  · rename_i hn
    exact hrest (by simpa using hn)

theorem ensures_items (hI : Invariant I P) (n : NodeId) :
    Ensures I P (items n) fun _ => True := by
  unfold items
  refine Ensures.get.bind fun r _ => ?_
  split
  · exact Ensures.pure trivial
  · exact Ensures.refuse hI.malformed

theorem ensures_pair (hI : Invariant I P) (n : NodeId) : Ensures I P (pair n) fun _ => True := by
  unfold pair
  refine Ensures.get.bind fun r _ => ?_
  split
  · exact (ensures_look hI _).bind fun _ _ =>
      (ensures_look hI _).bind fun _ _ => Ensures.pure trivial
  · exact Ensures.refuse hI.malformed

theorem ensures_lookInto (hI : Invariant I P) (n : NodeId) :
    Ensures I P (lookInto n) fun _ => True := by
  have hknow : ∀ m, Meaning.Sound m → Ensures I P (modify fun r => r.know n m : Finding PUnit)
      fun _ => True := fun m hm r hr => .ok ⟨hI.know hr hm, trivial⟩
  unfold lookInto
  refine Ensures.get.bind fun r _ => ?_
  split
  · refine (ensures_items hI n).bind fun items _ => ?_
    exact (Ensures.forM (ensures_look hI)).bind fun _ _ => hknow _ nofun
  · refine (ensures_items hI n).bind fun items _ => ?_
    exact ((Ensures.mapM (ensures_pair hI)).map fun _ _ => nofun).bind hknow
  · refine ((ensures_entries hI n).map fun entries hes => ?_).bind hknow
    rintro es he
    cases he
    exact hes
  · exact ((ensures_entries hI n).map fun _ _ => nofun).bind hknow
  · exact Ensures.pure trivial

theorem ensures_lookIntoAll (hI : Invariant I P) (steps index : Nat) :
    Ensures I P (lookIntoAll steps index) fun _ => True := by
  induction steps generalizing index with
  | zero => exact Ensures.pure trivial
  | succ steps ih =>
    unfold lookIntoAll
    refine Ensures.get.bind fun r _ => ?_
    split
    · exact Ensures.pure trivial
    · exact (ensures_lookInto hI _).bind fun _ _ => ih _

/-- Looking at all that a node holds keeps an invariant, and fails as it may. -/
theorem ensures_lookAt (hI : Invariant I P) (root : NodeId) :
    Ensures I P (lookAt root) fun _ => True := by
  unfold lookAt
  exact (ensures_look hI root).bind fun _ _ =>
    Ensures.get.bind fun _ _ => ensures_lookIntoAll hI _ _

end Finding

theorem invariant_wellFormed : Invariant Knowledge.WellFormed fun _ => True where
  know h hm := h.know hm
  meet h := h
  merge h _ := (Yields.trivial _).imp fun _ _ => h
  scalar _ := Yields.trivial _
  malformed := trivial

/-! ## Values -/

/-- The value of a node is well-formed if what is known is. -/
theorem wellFormed_value {r : Knowledge} (h : r.WellFormed) (steps : Nat) (around : List NodeId)
    (n : NodeId) : (value r steps around n).WellFormed := by
  induction steps generalizing around n with
  | zero => trivial
  | succ steps ih =>
    unfold value
    split
    · trivial
    · trivial
    · trivial
    · split
      · trivial
      · refine Value.wellFormed_list_iff.2 fun v hv => ?_
        obtain ⟨m, -, rfl⟩ := List.mem_map.1 hv
        exact ih _ _
    · split
      · trivial
      · refine Value.wellFormed_list_iff.2 fun v hv => ?_
        obtain ⟨e, -, rfl⟩ := List.mem_map.1 hv
        exact ⟨ih _ _, ih _ _⟩
    · rename_i entries hentries
      split
      · trivial
      · refine Value.wellFormed_map_iff.2 ⟨?_, fun e he => ?_⟩
        · exact List.pairwise_map.2 (h n entries hentries)
        · obtain ⟨e', -, rfl⟩ := List.mem_map.1 he
          exact ih _ _

/-- Every value that is read is well-formed. -/
theorem wellFormed_of_read {text : String} {v : Value} (h : read text = .ok v) :
    v.WellFormed := by
  unfold read at h
  obtain ⟨⟨graph, root?⟩, -, h⟩ := bind_eq_ok_iff.1 h
  dsimp only at h
  split at h
  · cases h
    trivial
  · rename_i root
    obtain ⟨⟨_, r⟩, hr, h⟩ := bind_eq_ok_iff.1 h
    cases h
    have hstart := Knowledge.wellFormed_start graph
    have hlook := Finding.ensures_lookAt invariant_wellFormed root _ hstart
    exact wellFormed_value (hlook.of_ok hr).1 _ _ _

end ApiModel.Yaml
