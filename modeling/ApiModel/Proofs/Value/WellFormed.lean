import ApiModel.Value.Entries

/-!
# Well-formed values

The type of values leaves room for a map with one key twice. No such map comes about: maps are
built by putting entries in, and what is put in under a key that is there replaces what was. A value
is well-formed if no map in it has one key twice.

* `WellFormed.get?`: what a well-formed map holds is well-formed.
* `Entries.lookup_of_mem`: in a map with distinct keys every entry is found under its key.
* `Entries.distinct_ofList`: the keys of a map that was built are distinct.
-/

namespace ApiModel

/-! ## Distinct keys -/

namespace Entries

variable {α : Type}

/-- No two keys are the same. -/
def Distinct (es : List (Scalar × α)) : Prop :=
  es.Pairwise fun a b => a.1.same b.1 = false

theorem Distinct.lookup_of_mem {es : List (Scalar × α)} (h : Distinct es) {s : String} {v : α}
    (hm : (.text s, v) ∈ es) : es.lookup (.text s) = some v := by
  obtain ⟨before, after, rfl⟩ := List.append_of_mem hm
  refine List.lookup_eq_some_iff.2 ⟨before, after, rfl, fun e he => ?_⟩
  have hne := (List.pairwise_append.1 h).2.2 e he _ List.mem_cons_self
  rw [bne_iff_ne, ne_eq]
  intro heq
  rw [← heq, same_text.2 rfl] at hne
  cases hne

theorem Distinct.lookup_eq_some_iff {es : List (Scalar × α)} (h : Distinct es) {s : String}
    {v : α} : es.lookup (.text s) = some v ↔ (.text s, v) ∈ es := by
  refine ⟨fun hl => ?_, h.lookup_of_mem⟩
  obtain ⟨before, after, rfl, -⟩ := List.lookup_eq_some_iff.1 hl
  simp

theorem Distinct.nodup_keys {es : List (Scalar × α)} (h : Distinct es) {keys : List String}
    (hk : es.map Prod.fst = keys.map Scalar.text) : keys.Nodup := by
  have hp : (es.map Prod.fst).Pairwise fun a b => a.same b = false := List.pairwise_map.2 h
  rw [hk, List.pairwise_map] at hp
  refine hp.imp fun hne heq => ?_
  rw [heq, same_text.2 rfl] at hne
  cases hne

/-- An entry of a map with one more put in has its key from there, and its value. -/
theorem mem_put {es : List (Scalar × α)} {k : Scalar} {v : α} {e : Scalar × α}
    (h : e ∈ put es k v) : (e.1 = k ∨ e.1 ∈ es.map Prod.fst) ∧ (e.2 = v ∨ e ∈ es) := by
  induction es with
  | nil =>
    rw [put, List.mem_singleton] at h
    rw [h]
    exact ⟨Or.inl rfl, Or.inl rfl⟩
  | cons a r ih =>
    obtain ⟨k', w⟩ := a
    unfold put at h
    split at h
    · rcases List.mem_cons.1 h with rfl | h
      · exact ⟨Or.inr List.mem_cons_self, Or.inl rfl⟩
      · have hm := List.mem_cons_of_mem (k', w) h
        exact ⟨Or.inr (List.mem_map_of_mem hm), Or.inr hm⟩
    · rcases List.mem_cons.1 h with rfl | h
      · exact ⟨Or.inr List.mem_cons_self, Or.inr List.mem_cons_self⟩
      · exact (ih h).imp (Or.imp id (List.mem_cons_of_mem _)) (Or.imp id (List.mem_cons_of_mem _))

theorem Distinct.put {es : List (Scalar × α)} (h : Distinct es) (k : Scalar) (v : α) :
    Distinct (put es k v) := by
  induction es with
  | nil => exact List.pairwise_singleton _ _
  | cons a r ih =>
    obtain ⟨k', w⟩ := a
    obtain ⟨hk', hr⟩ := List.pairwise_cons.1 h
    unfold Entries.put
    split
    · exact List.pairwise_cons.2 ⟨hk', hr⟩
    · rename_i hne
      refine List.pairwise_cons.2 ⟨fun e he => ?_, ih hr⟩
      rcases (mem_put he).1 with hk | hm
      · rw [hk]; exact eq_false_of_ne_true hne
      · obtain ⟨b, hb, hkey⟩ := List.mem_map.1 hm
        rw [← hkey]
        exact hk' b hb

/-- The keys of a map that is built by putting entries in are distinct. -/
theorem distinct_ofList (es : Entries) : Distinct (ofList es) := by
  have hfold : ∀ acc : Entries, Distinct acc →
      Distinct (es.foldl (fun es e => put es e.1 e.2) acc) := by
    induction es with
    | nil => exact fun acc h => h
    | cons e es ih => exact fun acc h => ih _ (h.put e.1 e.2)
  exact hfold [] List.Pairwise.nil

end Entries

/-! ## Values -/

namespace Value

mutual

/-- No map in a value has one key twice. -/
def WellFormed : Value → Prop
  | .map es => Entries.Distinct es ∧ entriesWellFormed es
  | .list vs => itemsWellFormed vs
  | .pair a b => a.WellFormed ∧ b.WellFormed
  | .scalar _ => True
  | .set _ => True
  | .enclosing _ _ => True

/-- All items are well-formed. -/
def itemsWellFormed : List Value → Prop
  | [] => True
  | v :: vs => v.WellFormed ∧ itemsWellFormed vs

/-- What stands in all entries is well-formed. -/
def entriesWellFormed : Entries → Prop
  | [] => True
  | (_, v) :: es => v.WellFormed ∧ entriesWellFormed es

end

theorem itemsWellFormed_iff {vs : List Value} :
    itemsWellFormed vs ↔ ∀ v ∈ vs, v.WellFormed := by
  induction vs with
  | nil => simp [itemsWellFormed]
  | cons v vs ih => rw [itemsWellFormed, ih, List.forall_mem_cons]

theorem entriesWellFormed_iff {es : Entries} :
    entriesWellFormed es ↔ ∀ e ∈ es, e.2.WellFormed := by
  induction es with
  | nil => simp [entriesWellFormed]
  | cons e es ih => rw [entriesWellFormed, ih, List.forall_mem_cons]

theorem wellFormed_map_iff {es : Entries} :
    (Value.map es).WellFormed ↔ Entries.Distinct es ∧ ∀ e ∈ es, e.2.WellFormed := by
  rw [WellFormed, entriesWellFormed_iff]

theorem wellFormed_list_iff {vs : List Value} :
    (Value.list vs).WellFormed ↔ ∀ v ∈ vs, v.WellFormed := by
  rw [WellFormed, itemsWellFormed_iff]

theorem WellFormed.get? {v w : Value} {key : String} (h : v.WellFormed)
    (hw : v.get? key = some w) : w.WellFormed := by
  obtain ⟨es, rfl, hm⟩ := mem_of_get? hw
  exact (wellFormed_map_iff.1 h).2 _ hm

theorem WellFormed.getD {v : Value} (h : v.WellFormed) (key : String) :
    (v.getD key).WellFormed := by
  unfold Value.getD
  cases hw : v.get? key with
  | none => trivial
  | some w => exact h.get? hw

end Value

end ApiModel
