import ApiModel.Value.Basic

/-!
# Looking values up

A key that is not there and a key with the empty value under it are told apart by `get?` and not by
`getD`. These lemmas lead from one to the other, and from tests of a value to what the value is.

* `getD_of_get?`, `get?_of_getD`: what is found under a key, either way.
* `isMap_of_getD`: only a map that is written out has something under a key.
* `lookup_map_snd`: what is found in entries whose values are changed.
* `get?_record_filterMap`: what is found in a map of some keys.
-/

namespace ApiModel

theorem Entries.lookup_map_snd {α β : Type} (f : Scalar → α → β) (es : List (Scalar × α))
    (key : Scalar) :
    (es.map fun e => (e.1, f e.1 e.2)).lookup key = (es.lookup key).map (f key) := by
  induction es with
  | nil => rfl
  | cons e es ih =>
    obtain ⟨k, v⟩ := e
    rw [List.map_cons, List.lookup_cons, List.lookup_cons]
    cases hk : key == k with
    | true => rw [eq_of_beq hk]; rfl
    | false => exact ih

namespace Value

variable {v w : Value} {key : String}

theorem getD_of_get? (h : v.get? key = some w) : v.getD key = w := by
  rw [getD, h, Option.getD_some]

theorem getD_of_get?_eq_none (h : v.get? key = none) : v.getD key = .null := by
  rw [getD, h, Option.getD_none]

theorem get?_of_getD (h : v.getD key = w) (hw : w ≠ .null) : v.get? key = some w := by
  cases hg : v.get? key with
  | none => exact absurd (h.symm.trans (getD_of_get?_eq_none hg)) hw
  | some u => rw [← h, getD_of_get? hg]

/-- What a map of some keys has under a key is what was given for that key. -/
theorem get?_record_filterMap (f : String → Option Value) (keys : List String) (key : String) :
    (record (keys.filterMap fun k => (f k).map fun w => (k, w))).get? key =
      if key ∈ keys then f key else none := by
  unfold record get?
  dsimp only
  induction keys with
  | nil => rfl
  | cons k keys ih =>
    cases hw : f k with
    | none =>
      rw [List.filterMap_cons_none (by rw [hw]; rfl), ih]
      by_cases hk : key = k
      · rw [hk, if_pos List.mem_cons_self, hw, ite_self]
      · simp only [List.mem_cons, hk, false_or]
    | some w =>
      rw [List.filterMap_cons_some (b := (k, w)) (by rw [hw]; rfl), List.map_cons,
        List.lookup_cons, ih]
      by_cases hk : key = k
      · rw [hk, if_pos List.mem_cons_self, hw, beq_self_eq_true]
      · have hne : (Scalar.text key == Scalar.text k) = false :=
          beq_false_of_ne fun h => hk (Scalar.text.inj h)
        simp only [hne, List.mem_cons, hk, false_or]

theorem isMap_of_getD (key : String) (h : v.getD key ≠ .null) :
    v.isMap = true ∧ v.isEnclosing = false := by
  cases v with
  | map es => exact ⟨rfl, rfl⟩
  | _ => exact absurd rfl h

theorem isText_iff {t : String} : v.isText t = true ↔ v = .text t := by
  unfold isText text?
  split
  · simp
  · rename_i hne
    exact ⟨nofun, fun h => absurd h (hne t)⟩

theorem isNull_iff : v.isNull = true ↔ v = .null := by
  unfold isNull
  split
  · simp
  · rename_i hne
    exact ⟨nofun, fun h => absurd h hne⟩

end Value

end ApiModel
