import ApiModel.Check.Basic
import ApiModel.Proofs.Value.Access

/-!
# Kinds of values

What is asked of a value is its kind: that it be a text, that it can be gone through, that it be a
map. A text may also be given by the bytes that encode it, and what counts as false may stand for an
empty collection.

* `checkText_eq_ok_iff`: a value passes for a text exactly when it spells one.
* `Lists.items`, `Maps.entries`: what is got from values of the right kinds.
-/

namespace ApiModel

/-! ## Bytes -/

namespace Text

/-- Bytes are the encoding of the text that they encode. -/
theorem toByteArray_of_decode? {bs : List UInt8} {s : String} (h : decode? bs = some s) :
    s.toByteArray = ⟨bs.toArray⟩ := by
  unfold decode? String.fromUTF8? at h
  split at h
  · rw [← Option.some.inj h]
    rfl
  · cases h

theorem decode?_injective {bs bs' : List UInt8} {s : String} (h : decode? bs = some s)
    (h' : decode? bs' = some s) : bs = bs' := by
  have hbytes := (toByteArray_of_decode? h).symm.trans (toByteArray_of_decode? h')
  simpa using hbytes

end Text

namespace Value

variable {v : Value} {s : String}

/-! ## Texts -/

/-- A value spells a text: it is the text, or the bytes that encode it. -/
def Spells (v : Value) (s : String) : Prop :=
  v = .text s ∨ ∃ bs, v = .scalar (.bytes bs) ∧ Text.decode? bs = some s

theorem checkText_eq_ok_iff : v.checkText = .ok s ↔ v.Spells s := by
  unfold checkText Spells
  split
  · simp
  · rename_i bs
    cases h : Text.decode? bs <;> simp [Checked.fail, h]
  · rename_i htext hbytes
    simp only [Checked.fail, reduceCtorEq, false_iff, not_or, not_exists, not_and]
    exact ⟨htext s, fun bs h => absurd h (hbytes bs)⟩

/-- What counts as true spells no empty text. -/
theorem Spells.ne_empty (h : v.Spells s) (ht : v.isTruthy = true) : s ≠ "" := by
  rintro rfl
  rcases h with rfl | ⟨bs, rfl, hbs⟩
  · cases ht
  · have hempty : Text.decode? [] = some "" := by cbv
    rw [Text.decode?_injective hbs hempty] at ht
    cases ht

/-- A value is a text, or the bytes of one. -/
def IsTextual (v : Value) : Prop := ∃ s, v.Spells s

/-- A value is a text, or the bytes of one, or is left out. -/
def IsTextualOrNull (v : Value) : Prop := v = .null ∨ v.IsTextual

theorem isTextual_text (s : String) : (Value.text s).IsTextual := ⟨s, Or.inl rfl⟩

theorem IsTextual.checkText (h : v.IsTextual) : ∃ s, v.checkText = .ok s := by
  obtain ⟨s, hs⟩ := h
  exact ⟨s, checkText_eq_ok_iff.2 hs⟩

/-- Texts pass one by one. -/
theorem exists_checkTexts {ws : List Value} (h : ∀ w ∈ ws, w.IsTextual) :
    ∃ ss : List String, ws.map checkText = ss.map .ok := by
  induction ws with
  | nil => exact ⟨[], rfl⟩
  | cons w ws ih =>
    obtain ⟨hw, hrest⟩ := List.forall_mem_cons.1 h
    obtain ⟨s, hs⟩ := hw.checkText
    obtain ⟨ss, hss⟩ := ih hrest
    exact ⟨s :: ss, by rw [List.map_cons, hs, hss, List.map_cons]⟩

theorem IsTextual.isSayable (h : v.IsTextual) : v.isSayable = true := by
  obtain ⟨s, rfl | ⟨bs, rfl, -⟩⟩ := h <;> rfl

theorem IsTextualOrNull.checkTextOrNull (h : v.IsTextualOrNull) :
    ∃ s, v.checkTextOrNull = .ok s := by
  rcases h with rfl | h
  · exact ⟨none, rfl⟩
  · obtain ⟨s, hs⟩ := h.checkText
    unfold Value.checkTextOrNull
    split
    · exact ⟨none, rfl⟩
    · exact ⟨some s, by rw [hs]; rfl⟩

/-! ## Collections -/

/-- A value can be gone through, and what is met in it has a property. -/
def Lists (v : Value) (P : Value → Prop) : Prop :=
  v.isTruthy = false ∨ ∃ ws, v.elements? = some ws ∧ ∀ w ∈ ws, P w

theorem Lists.items {P : Value → Prop} (h : v.Lists P) :
    ∃ ws, v.items = .ok ws ∧ ∀ w ∈ ws, P w := by
  unfold Value.items
  rcases h with hfalse | ⟨ws, hws, hall⟩
  · exact ⟨[], by rw [hfalse]; rfl, nofun⟩
  · split
    · exact ⟨[], rfl, nofun⟩
    · exact ⟨ws, by rw [hws], hall⟩

theorem Lists.of_items {P : Value → Prop} {ws : List Value} (h : v.Lists P)
    (hws : v.items = .ok ws) : ∀ w ∈ ws, P w := by
  obtain ⟨ws', hws', hall⟩ := h.items
  cases hws.symm.trans hws'
  exact hall

/-- A value can be gone through as a map, and its entries have a property. -/
def Maps (v : Value) (P : Scalar → Value → Prop) : Prop :=
  v.isTruthy = false ∨ ∃ es, v = .map es ∧ ∀ e ∈ es, P e.1 e.2

theorem Maps.entries {P : Scalar → Value → Prop} (h : v.Maps P) :
    ∃ es, v.entries = .ok es ∧ ∀ e ∈ es, P e.1 e.2 := by
  rcases h with hfalse | ⟨es, rfl, hall⟩
  · unfold Value.entries
    split
    · rename_i es
      have hnil : es = [] := by simpa [isTruthy] using hfalse
      exact ⟨es, rfl, by rw [hnil]; exact List.forall_mem_nil _⟩
    · exact ⟨[], by rw [hfalse]; rfl, List.forall_mem_nil _⟩
  · exact ⟨es, rfl, hall⟩

theorem Maps.of_entries {P : Scalar → Value → Prop} {es : Entries} (h : v.Maps P)
    (hes : v.entries = .ok es) : ∀ e ∈ es, P e.1 e.2 := by
  obtain ⟨es', hes', hall⟩ := h.entries
  cases hes.symm.trans hes'
  exact hall

theorem Maps.imp {P Q : Scalar → Value → Prop} (h : v.Maps P) (hPQ : ∀ key w, P key w → Q key w) :
    v.Maps Q :=
  Or.imp_right (fun ⟨es, hes, hall⟩ => ⟨es, hes, fun e he => hPQ _ _ (hall e he)⟩) h

/-- What is met in going through a map are its keys. -/
theorem Maps.lists {P : Scalar → Value → Prop} {Q : Value → Prop} (h : v.Maps P)
    (hPQ : ∀ key w, P key w → Q (.scalar key)) : v.Lists Q := by
  rcases h with hfalse | ⟨es, rfl, hall⟩
  · exact Or.inl hfalse
  · refine Or.inr ⟨_, rfl, fun w hw => ?_⟩
    obtain ⟨e, he, rfl⟩ := List.mem_map.1 hw
    exact hPQ e.1 e.2 (hall e he)

end Value

end ApiModel
