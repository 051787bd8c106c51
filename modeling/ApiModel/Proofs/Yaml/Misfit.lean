import ApiModel.Proofs.Yaml.Composing
import ApiModel.Proofs.Yaml.Read
import ApiModel.Proofs.Yaml.Scalar

/-!
# Texts that do not fit their tags

Nodes are looked at in the graph that was composed, in which merges only ever change the entries of
maps and turn keys that would stand for a whole map into texts. So a fault in looking at them is one
of the composed graph: a node there has a tag that its text does not fit.

Results:

* `Graph.kept_flatten`: what merges keep.
* `Finding.yields_scalarOf`: why a scalar has no value.
* `cause_of_read`: a fault in reading a text has its cause in the text.
-/

namespace ApiModel.Yaml

/-! ## Merges -/

/-- A graph in which merges may have been done: maps may have other entries, and keys that stood for
a whole map may be texts. -/
structure Graph.Kept (g g' : Graph) : Prop where
  /-- The tags are the same, but for keys that are texts now. -/
  tag : ∀ n, (g'.node n).tag = (g.node n).tag ∨
    (g.node n).tag = Tag.value ∧ (g'.node n).tag = Tag.str
  /-- The scalars are the same. -/
  scalar : ∀ n text, (g'.node n).content = .scalar text ↔ (g.node n).content = .scalar text
  /-- The maps are at the same places. -/
  map : ∀ n, g'.isMap n = g.isMap n

namespace Graph

variable {g g' g'' : Graph} {n : NodeId}

theorem Kept.refl (g : Graph) : Kept g g := ⟨fun _ => Or.inl rfl, fun _ _ => Iff.rfl, fun _ => rfl⟩

theorem Kept.trans (h : Kept g g') (h' : Kept g' g'') : Kept g g'' where
  tag n := by
    rcases h'.tag n with h2 | ⟨h2, h3⟩
    · rcases h.tag n with h1 | ⟨h1, h4⟩
      · exact Or.inl (h2.trans h1)
      · exact Or.inr ⟨h1, h2.trans h4⟩
    · rcases h.tag n with h1 | ⟨h1, h4⟩
      · exact Or.inr ⟨h1 ▸ h2, h3⟩
      · exact Or.inr ⟨h1, h3⟩
  scalar n text := (h'.scalar n text).trans (h.scalar n text)
  map n := (h'.map n).trans (h.map n)

/-- Only texts may have had another tag. -/
theorem Kept.tag_eq (h : Kept g g') (hn : (g'.node n).tag ≠ Tag.str) :
    (g.node n).tag = (g'.node n).tag := ((h.tag n).resolve_right fun ⟨_, hstr⟩ => hn hstr).symm

/-- What counts as a scalar had no tag of maps. -/
theorem Kept.tag_ne_map (h : Kept g g') (hn : (g'.node n).tag ∈ Tag.ofScalars) :
    (g.node n).tag ≠ Tag.map := by
  have hmap : Tag.map ∉ Tag.ofScalars := by decide
  have hvalue : Tag.value ≠ Tag.map := by decide
  intro he
  rcases h.tag n with hsame | ⟨hkey, -⟩
  · exact hmap (he ▸ hsame ▸ hn)
  · exact hvalue (hkey.symm.trans he)

theorem node_eq (g : Graph) (n : NodeId) : g.node n = g.nodes[n]?.getD .empty := by
  simp [Graph.node, Array.getD_eq_getD_getElem?]

theorem getElem?_of_isMap (h : g.isMap n = true) : g.nodes[n]? = some (g.node n) := by
  rw [node_eq]
  cases hn : g.nodes[n]? with
  | some node => rfl
  | none =>
    unfold isMap at h
    rw [node_eq, hn] at h
    cases h

theorem node_fill (h : g.isMap n = true) (content : Content) (m : NodeId) :
    (g.fill n content).node m =
      if m = n then { g.node n with content := content } else g.node m := by
  rw [node_eq, fill, Array.getElem?_modify]
  split
  · rename_i hm
    subst hm
    rw [getElem?_of_isMap h, if_pos rfl]
    rfl
  · rename_i hm
    rw [if_neg (Ne.symm hm), node_eq]

theorem node_retag (g : Graph) (n m : NodeId) (tag : String) :
    (g.retag n tag).node m = g.node m ∨
      m = n ∧ (g.retag n tag).node m = { g.node n with tag := tag } := by
  rw [node_eq (g.retag n tag), retag, Array.getElem?_modify]
  split
  · rename_i hm
    subst hm
    cases hn : g.nodes[n]? with
    | none => exact Or.inl (by rw [node_eq, hn]; rfl)
    | some node => exact Or.inr ⟨rfl, by rw [node_eq, hn]; rfl⟩
  · exact Or.inl (node_eq g m).symm

theorem kept_retag (h : (g.node n).tag = Tag.value) : Kept g (g.retag n Tag.str) where
  tag m := by
    rcases node_retag g n m Tag.str with hm | ⟨rfl, hm⟩
    · exact Or.inl (congrArg Node.tag hm)
    · exact Or.inr ⟨h, congrArg Node.tag hm⟩
  scalar m text := by
    rcases node_retag g n m Tag.str with hm | ⟨rfl, hm⟩ <;> rw [hm]
  map m := by
    unfold isMap
    rcases node_retag g n m Tag.str with hm | ⟨rfl, hm⟩ <;> rw [hm]

theorem kept_fill (h : g.isMap n = true) (entries : List (NodeId × NodeId)) :
    Kept g (g.fill n (.map entries)) where
  tag m := by
    rw [node_fill h]
    split
    · rename_i hm
      exact Or.inl (by rw [hm])
    · exact Or.inl rfl
  scalar m text := by
    rw [node_fill h]
    split
    · rename_i hm
      refine ⟨nofun, fun hscalar => ?_⟩
      unfold isMap at h
      rw [← hm, hscalar] at h
      cases h
    · exact Iff.rfl
  map m := by
    by_cases hm : m = n
    · rw [hm, h, isMap, node_fill h, if_pos rfl]
    · rw [isMap, node_fill h, if_neg hm]
      rfl

theorem kept_textKeys (g : Graph) (entries : List (NodeId × NodeId)) :
    Kept g (g.textKeys entries) := by
  unfold textKeys
  induction entries generalizing g with
  | nil => exact .refl g
  | cons entry entries ih =>
    rw [List.foldl_cons]
    split
    · exact (kept_retag ‹_›).trans (ih _)
    · exact ih g

theorem kept_prepend (h : g.isMap n = true) (merged : List (NodeId × NodeId)) :
    Kept g (g.prepend n merged) := by
  have hkeys := kept_textKeys g (g.entries n)
  exact hkeys.trans (kept_fill ((hkeys.map n).trans h) _)

theorem kept_takeMerge? {source : NodeId} (h : g.isMap n = true)
    (ht : g.takeMerge? n = some (source, g')) : Kept g g' := by
  unfold takeMerge? at ht
  obtain ⟨entry, -, he⟩ := Option.map_eq_some_iff.1 ht
  cases he
  exact kept_fill h _

/-- Merges keep a graph, or are refused. -/
theorem kept_flatten (steps : Nat) (h : g.isMap n = true) (merged : List (NodeId × NodeId)) :
    Yields (Kept g) (· = .malformed) (g.flatten steps n merged) := by
  induction steps generalizing g n merged with
  | zero => exact .ok (kept_prepend h merged)
  | succ steps ih =>
    unfold flatten
    split
    · exact .ok (kept_prepend h merged)
    · rename_i source g₁ hmerge
      have h₁ := kept_takeMerge? h hmerge
      have hn : g₁.isMap n = true := (h₁.map n).trans h
      split
      · rename_i hsource
        have hmap : g₁.isMap source = true := by
          unfold isMap
          rw [hsource]
        refine (ih hmap []).bind fun g₂ h₂ => ?_
        refine (ih ((h₂.map n).trans hn) _).imp fun g₃ h₃ => ?_
        exact h₁.trans (h₂.trans h₃)
      · rename_i items hsource
        refine Yields.bind (Q := fun p : Graph × List (NodeId × NodeId) => Kept g₁ p.1)
          (.foldlM ?_ (.refl g₁)) fun p hp => ?_
        · rintro ⟨g₂, taken⟩ item - h₂
          refine .ite (fun hitem => ?_) fun _ => .error rfl
          exact (ih hitem []).bind fun g₃ h₃ => .ok (Kept.trans h₂ h₃)
        · refine (ih ((hp.map n).trans hn) _).imp fun g₃ h₃ => ?_
          exact h₁.trans (Kept.trans hp h₃)
      · exact .error rfl

end Graph

/-! ## Scalars -/

/-- Why a graph has a node without a value: its text does not fit its tag, or it is a map that is to
stand for a scalar. -/
inductive Misfit (g : Graph) : Fault → Prop where
  /-- The text of a scalar does not fit its tag. -/
  | scalar {n : NodeId} {text : String} {f : Fault} (hn : (g.node n).content = .scalar text)
      (h : Scalar.ofTag (g.node n).tag (n + 1) text = .error (.fault f))
      (hf : f ∈ Scalar.faultsOf (g.node n).tag) : Misfit g f
  /-- A map stands for a scalar, and the text of that does not fit the tag of the map. -/
  | map {n m : NodeId} {text : String} {f : Fault} (hn : g.isMap n = true)
      (hm : (g.node m).content = .scalar text)
      (h : Scalar.ofTag (g.node n).tag (n + 1) text = .error (.fault f))
      (hf : f ∈ Scalar.faultsOf (g.node n).tag) : Misfit g f
  /-- A map is to stand for a day or a timestamp. -/
  | moment {n : NodeId} (hn : g.isMap n = true) (h : (g.node n).tag = Tag.timestamp) :
      Misfit g .wrongKind
  /-- A map is to stand for a scalar, but leads to none. -/
  | circle {n : NodeId} (hn : g.isMap n = true) (h : (g.node n).tag ≠ Tag.map) : Misfit g .tooDeep

namespace Finding

variable {g g' : Graph}

/-- Why a node is refused. -/
inductive Refused (g : Graph) : Refusal → Prop where
  /-- The nodes make no sense. -/
  | malformed : Refused g .malformed
  /-- One of them has no value. -/
  | misfit {f : Fault} (h : Misfit g f) : Refused g (.fault f)

theorem yields_textOf (g : Graph) (steps : Nat) (n : NodeId) :
    Yields (fun text => ∃ m, (g.node m).content = .scalar text)
      (fun e => e = .malformed ∨ e = .fault .tooDeep) (textOf g steps n) := by
  induction steps generalizing n with
  | zero => exact .error (Or.inr rfl)
  | succ steps ih =>
    unfold textOf
    split
    · rename_i text h
      exact .ok ⟨n, h⟩
    · exact .error (Or.inl rfl)
    · split
      · exact ih _
      · exact .error (Or.inl rfl)

/-- Only a map leads to the text of another node, or to none. -/
theorem yields_textOf_succ (g : Graph) (steps : Nat) (n : NodeId) :
    Yields
      (fun text => (g.node n).content = .scalar text ∨
        g.isMap n = true ∧ ∃ m, (g.node m).content = .scalar text)
      (fun e => e = .malformed ∨ e = .fault .tooDeep ∧ g.isMap n = true)
      (textOf g (steps + 1) n) := by
  unfold textOf
  split
  · rename_i text h
    exact .ok (Or.inl h)
  · exact .error (Or.inl rfl)
  · rename_i entries h
    have hmap : g.isMap n = true := by rw [Graph.isMap, h]
    split
    · rename_i entry _
      have hlead := yields_textOf g steps entry.2
      refine (hlead.imp fun text htext => Or.inr ⟨hmap, htext⟩).imp_error fun e he => ?_
      exact he.imp_right fun he => ⟨he, hmap⟩
    · exact .error (Or.inl rfl)

/-- Where the text of a node does not fit the tag it has after merges, it is a misfit before. -/
theorem misfit_of_ofTag {n : NodeId} {text : String} {f : Fault} (h : Graph.Kept g g')
    (hsource : (g'.node n).content = .scalar text ∨
      g'.isMap n = true ∧ ∃ m, (g'.node m).content = .scalar text)
    (hvalue : Scalar.ofTag (g'.node n).tag (n + 1) text = .error (.fault f)) : Misfit g f := by
  have hstr : (g'.node n).tag ≠ Tag.str := by
    -- every text fits the tag of texts
    intro he
    rw [he] at hvalue
    cases hvalue
  rw [← h.tag_eq hstr] at hvalue
  have hfault := Scalar.among_ofTag _ hvalue f rfl
  rcases hsource with hn | ⟨hn, m, hm⟩
  · exact .scalar ((h.scalar n text).1 hn) hvalue hfault
  · exact .map ((h.map n).symm.trans hn) ((h.scalar m text).1 hm) hvalue hfault

/-- A scalar of the graph after merges has a value, or a node of the graph before has none. -/
theorem yields_scalarOf (h : Graph.Kept g g') (n : NodeId) :
    Yields (fun _ => True) (Refused g) (scalarOf g' n) := by
  unfold scalarOf
  extract_lets tag go
  refine .ite (fun _ => .error .malformed) fun hscalar => ?_
  have htext := yields_textOf_succ g' g'.size n
  refine Yields.bind (htext.imp_error ?_) fun text hsource => ?_
  · rintro e (rfl | ⟨rfl, hn⟩)
    · exact .malformed
    · exact .misfit (.circle ((h.map n).symm.trans hn) (h.tag_ne_map (not_not.1 hscalar)))
  refine .ite (fun ⟨hmoment, hn⟩ => .error ?_) fun _ => ?_
  · have hstr : tag ≠ Tag.str := by
      rw [hmoment]
      decide
    exact .misfit (.moment ((h.map n).symm.trans hn) ((h.tag_eq hstr).trans hmoment))
  · cases hvalue : Scalar.ofTag tag (n + 1) text with
    | ok s => exact .ok trivial
    | error e =>
      cases e with
      | malformed => exact .error .malformed
      | fault f => exact .error (.misfit (misfit_of_ofTag h hsource hvalue))

/-- Merges keep the graph as far as it matters, and nodes are refused for a misfit in it. -/
theorem invariant_kept (g : Graph) :
    Invariant (fun r => Graph.Kept g r.graph) (Refused g) where
  know h _ := h
  meet h := h
  merge h hn :=
    ((Graph.kept_flatten _ hn []).imp fun _ => h.trans).imp_error fun _ he => he ▸ .malformed
  scalar h := yields_scalarOf h _
  malformed := .malformed

end Finding

/-! ## Whole texts -/

/-- Why a text has no value though it may be YAML. -/
inductive Cause (text : String) : Fault → Prop where
  /-- An escape writes a code that is none of a character. -/
  | escape {f : Fault} (h : Flaw text.toList (.fault f)) : Cause text f
  /-- There are enough characters that can start collections. -/
  | deep (h : maxDepth ≤ 2 * marks text.toList) : Cause text .tooDeep
  /-- One of the nodes that are composed has no value. -/
  | node {g : Graph} {root : NodeId} {f : Fault}
      (hg : Document.ofText? text.toList = .ok (g, some root)) (h : Misfit g f) : Cause text f

theorem yields_read (text : String) :
    Yields (fun _ => True) (fun e => ∀ f, e = .fault f → Cause text f) (read text) := by
  have hnodes : Yields (fun p => Document.ofText? text.toList = .ok p)
      (fun e => ∀ f, e = .fault f → Cause text f) (Document.ofText? text.toList) := by
    cases hg : Document.ofText? text.toList with
    | ok p => exact .ok rfl
    | error e =>
      refine .error ?_
      rintro f rfl
      rcases Document.cause_of_ofText? hg with hflaw | ⟨rfl, hdeep⟩
      · exact .escape hflaw
      · exact .deep hdeep
  unfold read
  refine hnodes.bind ?_
  rintro ⟨g, root?⟩ hg
  cases root? with
  | none => exact .ok trivial
  | some root =>
    have hlook := Finding.ensures_lookAt (Finding.invariant_kept g) root (.start g) (.refl g)
    refine (hlook.imp_error ?_).bind fun _ _ => .ok trivial
    rintro e he f rfl
    cases he with
    | misfit hmisfit => exact .node hg hmisfit

/-- A fault in reading a text has its cause in the text. -/
theorem cause_of_read {text : String} {f : Fault} (h : read text = .error (.fault f)) :
    Cause text f := (yields_read text).of_error h f rfl

end ApiModel.Yaml
