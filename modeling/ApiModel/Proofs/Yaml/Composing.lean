import ApiModel.Yaml.Document
import ApiModel.Proofs.Yaml.Cutting

/-!
# Composing stays in bounds

A collection lies in others only where tokens start them: one token starts the collection itself,
and at most one more collection lies directly in it without a token of its own, namely a list in a
map that is not indented, or the map of one entry in a list between brackets. So twice as many
collections lie around a place as tokens started before it, at most. The composing of nodes ends
early for what stands in the way of tokens, or when too many collections lie around.

Results:

* `composing`: every step of the reader of nodes keeps the bound.
* `blame_of_ofText?`, `cause_of_ofText?`: why a text has no nodes.
-/

namespace ApiModel.Yaml.Document

variable {ts : Tokens} {r r' : Reading} {α β : Type} {k : Nat}

/-! ## The bound -/

/-- The number of collections that the first tokens start. -/
def opened (ts : Tokens) (count : Nat) : Nat := (ts.found.toList.take count).countP Token.starts

theorem opened_mono {m n : Nat} (h : m ≤ n) : opened ts m ≤ opened ts n :=
  (List.take_sublist_take_left h).countP_le

theorem opened_le_starts (ts : Tokens) (n : Nat) : opened ts n ≤ starts ts.found :=
  (List.take_sublist n _).countP_le

theorem opened_succ {t : Token} {n : Nat} (h : ts.found[n]? = some t) (ht : t.starts = true) :
    opened ts (n + 1) = opened ts n + 1 := by
  have hget : ts.found.toList[n]? = some t := by rw [Array.getElem?_toList, h]
  rw [opened, List.take_add_one, hget, List.countP_append]
  simp [opened, ht]

/-- Around a place lie so few collections that some more could without a token that starts one. -/
def Room (ts : Tokens) (k : Nat) (r : Reading) : Prop := r.depth + k ≤ 2 * opened ts r.place

theorem Room.mono {m : Nat} (h : Room ts k r) (hm : m ≤ k) : Room ts m r :=
  Nat.le_trans (Nat.add_le_add_left hm _) h

/-- Something is read: as many collections lie around the place after it. -/
structure Keeps (r r' : Reading) : Prop where
  /-- The depth is the same. -/
  depth : r'.depth = r.depth
  /-- Tokens may have been taken. -/
  place : r.place ≤ r'.place

theorem Keeps.refl (r : Reading) : Keeps r r := ⟨rfl, Nat.le_refl _⟩

theorem Keeps.trans {r'' : Reading} (h : Keeps r r') (h' : Keeps r' r'') : Keeps r r'' :=
  ⟨h'.depth.trans h.depth, Nat.le_trans h.place h'.place⟩

theorem Room.keeps (h : Room ts k r) (hk : Keeps r r') : Room ts k r' := by
  unfold Room
  rw [hk.depth]
  exact Nat.le_trans h (Nat.mul_le_mul_left 2 (opened_mono hk.place))

/-- What is known after a token was taken. -/
def Reading.taken (r : Reading) : Reading := { r with place := r.place + 1 }

theorem Keeps.taken (r : Reading) : Keeps r r.taken := ⟨rfl, Nat.le_succ _⟩

/-- A token that starts a collection makes room for two. -/
theorem Room.taken {t : Token} (h : Room ts k r) (hget : ts.found[r.place]? = some t)
    (ht : t.starts = true) : Room ts (k + 2) r.taken := by
  have hopened := opened_succ hget ht
  unfold Room at h ⊢
  change r.depth + (k + 2) ≤ 2 * opened ts (r.place + 1)
  omega

/-! ## Steps -/

/-- Why nodes cannot be composed: the tokens make no document, something stands in the way of more,
or too many collections lie within each other. -/
inductive Blame (ts : Tokens) : Refusal → Prop where
  /-- They make no document. -/
  | malformed : Blame ts .malformed
  /-- Something stands in the way. -/
  | obstacle {e : Refusal} (h : ts.obstacle = some e) : Blame ts e
  /-- Too many collections lie within each other. -/
  | tooDeep (h : maxDepth ≤ 2 * starts ts.found) : Blame ts (.fault .tooDeep)

/-- A reader that starts with what is known ends in what it may, or for a blame. -/
def Runs (ts : Tokens) (r : Reading) (x : Reader α) (Q : α → Reading → Prop) : Prop :=
  Yields (fun p => Q p.1 p.2) (Blame ts) (x ts r)

namespace Runs

variable {x : Reader α} {Q : α → Reading → Prop} {R : β → Reading → Prop}

theorem pure {a : α} (h : Q a r) : Runs ts r (Pure.pure a) Q := h

theorem imp {S : α → Reading → Prop} (h : Runs ts r x Q) (hQ : ∀ a r', Q a r' → S a r') :
    Runs ts r x S := Yields.imp h fun p => hQ p.1 p.2

theorem bind {f : α → Reader β} (hx : Runs ts r x Q)
    (hf : ∀ a r', Q a r' → Runs ts r' (f a) R) : Runs ts r (x >>= f) R :=
  Yields.bind hx fun p hp => hf p.1 p.2 hp

theorem map {f : α → β} (hx : Runs ts r x fun a r' => R (f a) r') : Runs ts r (f <$> x) R := by
  rw [map_eq_pure_bind]
  exact hx.bind fun a r' h => .pure h

theorem refuse : Runs ts r (Document.refuse : Reader α) Q := Blame.malformed

theorem ite {p : Prop} [Decidable p] {y : Reader α} (hx : p → Runs ts r x Q)
    (hy : ¬p → Runs ts r y Q) : Runs ts r (if p then x else y) Q := by
  split
  · exact hx ‹p›
  · exact hy ‹¬p›

theorem tokens {f : Tokens → Reader β} (h : Runs ts r (f ts) R) :
    Runs ts r (MonadReader.read >>= f) R := h

theorem get {f : Reading → Reader β} (h : Runs ts r (f r) R) :
    Runs ts r (MonadState.get >>= f) R := h

theorem change {g : Reading → Reading} {f : PUnit → Reader β} (h : Runs ts (g r) (f ⟨⟩) R) :
    Runs ts r (modify g >>= f) R := h

theorem take {f : Unit → Reader β} (h : Runs ts r.taken (f ()) R) :
    Runs ts r (Document.take >>= f) R := h

/-- The next token is one of the tokens, or their end. -/
theorem next {f : Token → Reader β}
    (h : ∀ t, ts.found[r.place]? = some t ∨ t = .streamEnd → Runs ts r (f t) R) :
    Runs ts r (Document.next >>= f) R := by
  have hnext : Runs ts r Document.next fun t r' =>
      r' = r ∧ (ts.found[r.place]? = some t ∨ t = .streamEnd) := by
    unfold Document.next
    refine tokens (get ?_)
    split
    · exact pure ⟨rfl, Or.inl ‹_›⟩
    · exact Yields.error (.obstacle ‹_›)
    · exact pure ⟨rfl, Or.inr rfl⟩
  refine hnext.bind ?_
  rintro t r' ⟨rfl, ht⟩
  exact h t ht

end Runs

/-- A reader keeps as many collections around the place, if there is some room. -/
def Composes (ts : Tokens) (k : Nat) (x : Reader α) : Prop :=
  ∀ r, Room ts k r → Runs ts r x fun _ r' => Keeps r r'

namespace Composes

variable {x : Reader α} {m : Nat}

theorem mono (h : Composes ts k x) (hm : k ≤ m) : Composes ts m x :=
  fun r hr => h r (hr.mono hm)

theorem pure (a : α) : Composes ts k (Pure.pure a : Reader α) := fun r _ => Runs.pure (.refl r)

theorem refuse : Composes ts k (Document.refuse : Reader α) := fun _ _ => Runs.refuse

/-- One reader after another. -/
theorem bind {f : α → Reader β} (hx : Composes ts k x) (hf : ∀ a, Composes ts k (f a)) :
    Composes ts k (x >>= f) := by
  intro r hr
  refine (hx r hr).bind fun a r' hr' => ?_
  exact (hf a r' (hr.keeps hr')).imp fun _ _ => hr'.trans

theorem map {f : α → β} (hx : Composes ts k x) : Composes ts k (f <$> x) :=
  fun r hr => Runs.map (hx r hr)

theorem get {f : Reading → Reader β} (h : ∀ r, Composes ts k (f r)) :
    Composes ts k (MonadState.get >>= f) := fun r hr => Runs.get (h r r hr)

theorem next {f : Token → Reader β} (h : ∀ t, Composes ts k (f t)) :
    Composes ts k (Document.next >>= f) := fun r hr => Runs.next fun t _ => h t r hr

theorem take {f : Unit → Reader β} (h : Composes ts k (f ())) :
    Composes ts k (Document.take >>= f) := by
  intro r hr
  have htaken := Keeps.taken r
  exact Runs.take ((h r.taken (hr.keeps htaken)).imp fun _ _ => htaken.trans)

/-- Handles may be set on the way. -/
theorem handles {g : Reading → List (String × String)} {f : PUnit → Reader β}
    (h : Composes ts k (f ⟨⟩)) :
    Composes ts k (modify (fun r => { r with handles := g r }) >>= f) :=
  fun r hr => Runs.change ((h { r with handles := g r } hr).imp fun _ _ h => ⟨h.depth, h.place⟩)

theorem add (name : Option String) (n : Node) : Composes ts k (add name n) :=
  fun _ _ => ⟨rfl, Nat.le_refl _⟩

theorem ite {p : Prop} [Decidable p] {y : Reader α} (hx : Composes ts k x)
    (hy : Composes ts k y) : Composes ts k (if p then x else y) :=
  fun r hr => Runs.ite (fun _ => hx r hr) fun _ => hy r hr

end Composes

/-! ## Collections -/

/-- A collection lies one deeper than the place where it begins. -/
theorem composes_collection {parts : Reader Content} (h : Composes ts k parts)
    (name : Option String) (tag : String) : Composes ts (k + 1) (collection name tag parts) := by
  intro r hr
  unfold collection
  refine Runs.get ?_
  split
  · -- as many collections as lie around the place were started
    have hdepth : maxDepth ≤ r.depth := ‹_›
    have hstarts := opened_le_starts ts r.place
    refine Yields.error (.tooDeep ?_)
    unfold Room at hr
    omega
  · refine Runs.bind (Q := fun _ r' => r'.depth = r.depth ∧ r'.place = r.place) ⟨rfl, rfl⟩ ?_
    rintro n r' ⟨hdepth, hplace⟩
    refine Runs.change ((h _ ?_).bind fun content r'' hr'' => Runs.change (Runs.pure ?_))
    · unfold Room at hr ⊢
      dsimp only
      rw [hdepth, hplace]
      omega
    · refine ⟨?_, hplace ▸ hr''.place⟩
      rw [← hdepth]
      exact Nat.sub_eq_of_eq_add hr''.depth

/-- A token that starts a collection makes room for one in it. -/
theorem runs_collection {parts : Reader Content} {t : Token} (hr : Room ts k r)
    (hget : ts.found[r.place]? = some t ∨ t = .streamEnd) (ht : t.starts = true)
    (h : Composes ts (k + 1) parts) (name : Option String) (tag : String) :
    Runs ts r (do take; collection name tag parts) fun _ r' => Keeps r r' := by
  have hfound : ts.found[r.place]? = some t := by
    refine hget.resolve_right ?_
    rintro rfl
    cases ht
  refine Runs.take ((composes_collection h name tag _ (hr.taken hfound ht)).imp ?_)
  exact fun _ _ => (Keeps.taken r).trans

/-! ## Names and tags -/

theorem composes_absent : Composes ts k absent := .add _ _

theorem composes_anchor? : Composes ts k anchor? := by
  unfold anchor?
  refine .next fun t => ?_
  split
  · exact .take (.pure _)
  · exact .pure _

theorem composes_tag? : Composes ts k tag? := by
  unfold tag?
  refine .next fun t => ?_
  split
  · exact .take (.pure _)
  · exact .pure _

theorem composes_resolve (tag : Option (Option String × String)) : Composes ts k (resolve tag) := by
  unfold resolve
  split
  · exact .pure _
  · exact .pure _
  · refine .get fun r => ?_
    split
    · exact .pure _
    · exact .refuse

theorem composes_properties : Composes ts k properties := by
  unfold properties
  refine composes_anchor?.bind fun name => ?_
  split
  · exact composes_tag?.bind fun tag => (composes_resolve tag).bind fun _ => .pure _
  · refine composes_tag?.bind fun tag => ?_
    extract_lets go
    have hgo : ∀ name, Composes ts k (go name) := fun name =>
      (composes_resolve tag).bind fun _ => .pure _
    exact .ite (composes_anchor?.bind hgo) (hgo none)

theorem composes_bare (name tag : Option String) : Composes ts k (bare name tag) := by
  unfold bare
  exact .ite (.add _ _) .refuse

theorem composes_flowComma (first : Bool) : Composes ts k (flowComma first) := by
  unfold flowComma
  refine .ite (.pure _) (.next fun t => ?_)
  split
  · exact .take (.pure _)
  · exact .refuse

/-! ## Nodes -/

/-- Every reader of nodes keeps as many collections around the place. A node in a map may be a list
without a token that starts it. -/
structure Composing (ts : Tokens) (steps : Nat) : Prop where
  /-- A node. -/
  node : ∀ block inMap, Composes ts inMap.toNat (node steps block inMap)
  /-- A node after its name and tag. -/
  content : ∀ block inMap name tag, Composes ts inMap.toNat (content steps block inMap name tag)
  /-- The items of a block list. -/
  blockItems : ∀ indented, Composes ts 0 (blockItems steps indented)
  /-- The entries of a block map. -/
  blockEntries : Composes ts 1 (blockEntries steps)
  /-- The value of an entry of a block map. -/
  blockValue : Composes ts 1 (blockValue steps)
  /-- The items of a flow list. -/
  flowItems : ∀ first, Composes ts 1 (flowItems steps first)
  /-- The entries of a flow map. -/
  flowEntries : ∀ first, Composes ts 0 (flowEntries steps first)
  /-- The value of an entry in a flow collection. -/
  flowValue : ∀ inMap, Composes ts 0 (flowValue steps inMap)

theorem composing_zero : Composing ts 0 where
  node _ _ := .refuse
  content _ _ _ _ := .refuse
  blockItems _ := .refuse
  blockEntries := .refuse
  blockValue := .refuse
  flowItems _ := .refuse
  flowEntries _ := .refuse
  flowValue _ := .refuse

variable {steps : Nat}

theorem composes_node (h : Composing ts steps) (block inMap : Bool) :
    Composes ts inMap.toNat (node (steps + 1) block inMap) := by
  unfold node
  refine .next fun t => ?_
  split
  · refine .take (.get fun r => ?_)
    split
    · exact .pure _
    · exact .refuse
  · exact composes_properties.bind fun p => h.content block inMap p.1 p.2

theorem composes_content (h : Composing ts steps) (block inMap : Bool)
    (name tag : Option String) :
    Composes ts inMap.toNat (content (steps + 1) block inMap name tag) := by
  intro r hr
  have hbare : Runs ts r (bare name tag) fun _ r' => Keeps r r' := composes_bare name tag r hr
  unfold content
  refine Runs.next fun start hstart => Runs.get ?_
  extract_lets known
  refine Runs.ite (fun _ => Runs.refuse) fun _ => ?_
  split
  case h_1 text plain => exact Runs.take ⟨rfl, Nat.le_succ _⟩
  case h_2 =>
    have hitems := ((h.flowItems true).mono (Nat.le_add_left 1 inMap.toNat)).map (f := Content.list)
    exact runs_collection hr hstart rfl hitems _ _
  case h_3 =>
    have hentries :=
      ((h.flowEntries true).mono (Nat.zero_le (inMap.toNat + 1))).map (f := Content.map)
    exact runs_collection hr hstart rfl hentries _ _
  case h_4 =>
    -- a list in a map takes the room that the node was given
    cases inMap with
    | true => exact composes_collection (h.blockItems false).map _ _ r hr
    | false => exact hbare
  case h_5 =>
    refine Runs.ite (fun _ => ?_) fun _ => hbare
    have hitems :=
      ((h.blockItems true).mono (Nat.zero_le (inMap.toNat + 1))).map (f := Content.list)
    exact runs_collection hr hstart rfl hitems _ _
  case h_6 =>
    refine Runs.ite (fun _ => ?_) fun _ => hbare
    have hentries := (h.blockEntries.mono (Nat.le_add_left 1 inMap.toNat)).map (f := Content.map)
    exact runs_collection hr hstart rfl hentries _ _
  case h_7 => exact hbare

theorem composes_blockItems (h : Composing ts steps) (indented : Bool) :
    Composes ts 0 (blockItems (steps + 1) indented) := by
  unfold blockItems
  refine .next fun t => ?_
  split
  · refine .take (.next fun t => ?_)
    extract_lets go
    have hgo : ∀ item, Composes ts 0 (go item) := fun item =>
      (h.blockItems indented).bind fun _ => .pure _
    exact .ite (composes_absent.bind hgo) ((h.node true false).bind hgo)
  · exact .ite (.take (.pure _)) (.pure _)
  · exact .ite .refuse (.pure _)

theorem composes_blockEntries (h : Composing ts steps) :
    Composes ts 1 (blockEntries (steps + 1)) := by
  unfold blockEntries
  refine .next fun t => ?_
  split
  · exact .take (.pure _)
  · refine .take (.next fun t => ?_)
    extract_lets go
    have hgo : ∀ key, Composes ts 1 (go key) := fun key =>
      h.blockValue.bind fun value => h.blockEntries.bind fun _ => .pure _
    exact .ite (composes_absent.bind hgo) ((h.node true true).bind hgo)
  · exact .refuse

theorem composes_blockValue (h : Composing ts steps) : Composes ts 1 (blockValue (steps + 1)) := by
  unfold blockValue
  refine .next fun t => ?_
  split
  · exact .take (.next fun t => .ite composes_absent (h.node true true))
  · exact composes_absent

theorem composes_flowItems (h : Composing ts steps) (first : Bool) :
    Composes ts 1 (flowItems (steps + 1) first) := by
  unfold flowItems
  refine .next fun t => ?_
  split
  · exact .take (.pure _)
  · refine (composes_flowComma first).bind fun _ => .next fun t => ?_
    split
    · exact .take (.pure _)
    · refine .take ((composes_collection (k := 0) (.next fun t => ?_) none Tag.map).bind fun pair =>
        (h.flowItems false).bind fun _ => .pure _)
      extract_lets go
      have hgo : ∀ key, Composes ts 0 (go key) :=
        fun key => (h.flowValue false).bind fun _ => .pure _
      exact .ite (composes_absent.bind hgo) ((h.node false false).bind hgo)
    · exact ((h.node false false).mono (Nat.zero_le 1)).bind fun item =>
        (h.flowItems false).bind fun _ => .pure _

theorem composes_flowEntries (h : Composing ts steps) (first : Bool) :
    Composes ts 0 (flowEntries (steps + 1) first) := by
  unfold flowEntries
  refine .next fun t => ?_
  split
  · exact .take (.pure _)
  · refine (composes_flowComma first).bind fun _ => .next fun t => ?_
    split
    · exact .take (.pure _)
    · refine .take (.next fun t => ?_)
      extract_lets go
      have hgo : ∀ key, Composes ts 0 (go key) := fun key =>
        (h.flowValue true).bind fun value => (h.flowEntries false).bind fun _ => .pure _
      exact .ite (composes_absent.bind hgo) ((h.node false false).bind hgo)
    · exact (h.node false false).bind fun key => composes_absent.bind fun _ =>
        (h.flowEntries false).bind fun _ => .pure _

theorem composes_flowValue (h : Composing ts steps) (inMap : Bool) :
    Composes ts 0 (flowValue (steps + 1) inMap) := by
  unfold flowValue
  refine .next fun t => ?_
  split
  · exact .take (.next fun t => .ite composes_absent (h.node false false))
  · exact composes_absent

/-- Every reader of nodes keeps the bound. -/
theorem composing (ts : Tokens) (steps : Nat) : Composing ts steps := by
  induction steps with
  | zero => exact composing_zero
  | succ steps ih =>
    exact {
      node := composes_node ih
      content := composes_content ih
      blockItems := composes_blockItems ih
      blockEntries := composes_blockEntries ih
      blockValue := composes_blockValue ih
      flowItems := composes_flowItems ih
      flowEntries := composes_flowEntries ih
      flowValue := composes_flowValue ih }

/-! ## Documents -/

theorem composes_directives (steps : Nat) (versioned : Bool) :
    Composes ts k (directives steps versioned) := by
  induction steps generalizing versioned with
  | zero => exact .refuse
  | succ steps ih =>
    unfold directives
    refine .next fun t => ?_
    split
    · exact .ite .refuse (.take (ih true))
    · exact .get fun r => .ite .refuse (.take (.handles (ih versioned)))
    · exact .take (ih versioned)
    · exact .pure _

theorem composes_documentEnds (steps : Nat) : Composes ts k (documentEnds steps) := by
  induction steps with
  | zero => exact .refuse
  | succ steps ih =>
    unfold documentEnds
    refine .next fun t => ?_
    split
    · exact .take ih
    · exact .pure _

theorem composes_marked (steps : Nat) : Composes ts 0 (marked steps) := by
  unfold marked
  refine (composes_directives steps false).bind fun _ => .handles (.next fun t => ?_)
  split
  · refine .take (.next fun t => ?_)
    split
    · exact composes_absent
    · exact composes_absent
    · exact composes_absent
    · exact composes_absent
    · exact (composing ts steps).node true false
  · exact .refuse

theorem composes_root? (steps : Nat) : Composes ts 0 (root? steps) := by
  unfold root?
  refine .next fun t => ?_
  extract_lets go
  have hgo : ∀ root, Composes ts 0 (go root) := by
    intro root
    refine (composes_documentEnds steps).bind fun _ => .next fun t => ?_
    split
    · exact .pure _
    · exact .handles ((composes_directives steps false).bind fun _ => .refuse)
  split
  · exact .pure _
  · exact (composes_marked steps).bind hgo
  · exact (composes_marked steps).bind hgo
  · exact .handles (((composing ts steps).node true false).bind hgo)

/-- Why a text has no nodes. -/
theorem blame_of_ofText? {cs : List Char} {e : Refusal} (h : ofText? cs = .error e) :
    Blame (tokens cs) e := by
  have hroot := @composes_root? (tokens cs) (4 * (tokens cs).found.size + 8)
    ⟨0, [], [], ⟨#[]⟩, 0⟩ (Nat.zero_le _)
  have hall : Yields (fun _ => True) (Blame (tokens cs)) (ofText? cs) :=
    Yields.bind hroot fun _ _ => .ok trivial
  exact hall.of_error h

/-- A fault in composing has its cause in the text: an escape that writes no character, or enough
characters that can start collections. -/
theorem cause_of_ofText? {cs : List Char} {f : Fault} (h : ofText? cs = .error (.fault f)) :
    Flaw cs (.fault f) ∨ f = .tooDeep ∧ maxDepth ≤ 2 * marks cs := by
  obtain ⟨hobstacle, hstarts⟩ := fits_tokens cs
  cases blame_of_ofText? h with
  | obstacle hblock => exact Or.inl (hobstacle _ hblock)
  | tooDeep hdeep => exact Or.inr ⟨rfl, Nat.le_trans hdeep (Nat.mul_le_mul_left 2 hstarts)⟩

end ApiModel.Yaml.Document
