import ApiModel.Json.Read
import ApiModel.Proofs.Trace
import ApiModel.Proofs.Value.WellFormed

/-!
# What is read from JSON

The reader puts the members of an object in one by one, so no object that it builds has one name
twice. The invariant is on the stack: whatever is open holds only what is well-formed.

* `State.WellFormed.step`: one token keeps the invariant.
* `wellFormed_of_read`: every value that is read is well-formed.
-/

namespace ApiModel.Json

/-! ## The invariant -/

/-- What an open array or object holds so far is well-formed. -/
def Frame.WellFormed : Frame → Prop
  | .items done => ∀ v ∈ done, v.WellFormed
  | .members done _ => Entries.Distinct done ∧ ∀ e ∈ done, e.2.WellFormed

/-- What the machine has built so far is well-formed. -/
structure State.WellFormed (s : State) : Prop where
  /-- All that is open is. -/
  stack : ∀ frame ∈ s.stack, frame.WellFormed
  /-- The value, if it is complete, is. -/
  result : ∀ v, s.next = .nothing v → v.WellFormed

namespace State

variable {s s' : State} {t : Placed} {stack : List Frame}

theorem wellFormed_complete {v : Value} (hs : ∀ frame ∈ stack, frame.WellFormed)
    (hv : v.WellFormed) : (complete stack v).WellFormed := by
  unfold complete
  split
  · refine ⟨nofun, fun w hw => ?_⟩
    cases hw
    exact hv
  · rename_i done rest
    obtain ⟨hdone, hrest⟩ := List.forall_mem_cons.1 hs
    exact ⟨List.forall_mem_cons.2 ⟨List.forall_mem_cons.2 ⟨hv, hdone⟩, hrest⟩, nofun⟩
  · rename_i done name rest
    obtain ⟨⟨hkeys, hdone⟩, hrest⟩ := List.forall_mem_cons.1 hs
    refine ⟨List.forall_mem_cons.2 ⟨⟨hkeys.put _ v, fun e he => ?_⟩, hrest⟩, nofun⟩
    rcases (Entries.mem_put he).2 with heq | hm
    · rw [heq]; exact hv
    · exact hdone e hm

theorem WellFormed.enter {frame : Frame} {next : Next} (h : s.WellFormed)
    (hs : s.enter frame next = .ok s') (hf : frame.WellFormed) (hn : ∀ v, next ≠ .nothing v) :
    s'.WellFormed := by
  unfold State.enter at hs
  split at hs
  · cases hs
    exact ⟨List.forall_mem_cons.2 ⟨hf, h.stack⟩, fun v hv => absurd hv (hn v)⟩
  · cases hs

theorem WellFormed.beginValue (h : s.WellFormed) (hs : s.beginValue t = .ok s') :
    s'.WellFormed := by
  unfold State.beginValue at hs
  split at hs
  · exact h.enter hs ⟨List.Pairwise.nil, nofun⟩ nofun
  · exact h.enter hs (fun _ hv => nomatch hv) nofun
  · cases hs; exact wellFormed_complete h.stack trivial
  · cases hs; exact wellFormed_complete h.stack trivial
  · cases hs
  · cases hs
  · cases hs

theorem WellFormed.beginMember (h : s.WellFormed) (hs : s.beginMember t = .ok s') :
    s'.WellFormed := by
  unfold State.beginMember at hs
  split at hs
  · rename_i hstack
    cases hs
    have hall := h.stack
    rw [hstack] at hall
    obtain ⟨hdone, hrest⟩ := List.forall_mem_cons.1 hall
    exact ⟨List.forall_mem_cons.2 ⟨hdone, hrest⟩, nofun⟩
  · cases hs
  · cases hs

/-- What is closed is well-formed, and so is what is left open. -/
theorem WellFormed.close {frame : Frame} {rest : List Frame} (h : s.WellFormed)
    (hstack : s.stack = frame :: rest) :
    (∀ done, frame = .items done → (Value.list done.reverse).WellFormed) ∧
    (∀ done name, frame = .members done name → (Value.map done).WellFormed) ∧
    ∀ frame ∈ rest, frame.WellFormed := by
  have hall := h.stack
  rw [hstack] at hall
  obtain ⟨hframe, hrest⟩ := List.forall_mem_cons.1 hall
  refine ⟨?_, ?_, hrest⟩
  · rintro done rfl
    exact Value.wellFormed_list_iff.2 fun v hv => hframe v (List.mem_reverse.1 hv)
  · rintro done name rfl
    exact Value.wellFormed_map_iff.2 hframe

/-- One token keeps what is built well-formed. -/
theorem WellFormed.step (h : s.WellFormed) (hs : s.step t = .ok s') : s'.WellFormed := by
  unfold State.step at hs
  split at hs
  · exact h.beginValue hs
  · rename_i hstack
    obtain ⟨hlist, -, hrest⟩ := h.close hstack
    cases hs
    exact wellFormed_complete hrest (hlist _ rfl)
  · exact h.beginValue hs
  · rename_i hstack
    obtain ⟨-, hmap, hrest⟩ := h.close hstack
    cases hs
    exact wellFormed_complete hrest (hmap _ _ rfl)
  · exact h.beginMember hs
  · exact h.beginMember hs
  · cases hs; exact ⟨h.stack, nofun⟩
  · cases hs; exact ⟨h.stack, nofun⟩
  · cases hs; exact ⟨h.stack, nofun⟩
  · rename_i hstack
    obtain ⟨hlist, -, hrest⟩ := h.close hstack
    cases hs
    exact wellFormed_complete hrest (hlist _ rfl)
  · rename_i hstack
    obtain ⟨-, hmap, hrest⟩ := h.close hstack
    cases hs
    exact wellFormed_complete hrest (hmap _ _ rfl)
  · cases hs

/-- Several tokens keep what is built well-formed. -/
theorem WellFormed.run {ts : List Placed} (h : s.WellFormed) (hs : s.run ts = .ok s') :
    s'.WellFormed := by
  induction ts generalizing s with
  | nil => cases hs; exact h
  | cons t ts ih =>
    obtain ⟨u, hu, hs⟩ := bind_eq_ok_iff.1 hs
    exact ih (h.step hu) hs

end State

/-! ## Whole texts -/

/-- Every value that is read is well-formed. -/
theorem wellFormed_of_read {text : String} {v : Value} (h : read text = .ok v) :
    v.WellFormed := by
  have hstart : State.start.WellFormed := ⟨nofun, nofun⟩
  unfold read readChars at h
  split at h
  · cases h
  · obtain ⟨s, hs, h⟩ := bind_eq_ok_iff.1 h
    split at h
    · rename_i w hw
      cases h
      exact (hstart.run hs).result _ hw
    · cases h

end ApiModel.Json
