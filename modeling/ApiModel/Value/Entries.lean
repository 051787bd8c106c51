import ApiModel.Value.Basic

/-!
# Building maps

A map is built by putting one entry after another. A key that is there already keeps its place and
its spelling and takes the new value.

* `keys_put_text`: putting an entry leaves the keys as they are, or adds the key at the end.
* `lookup_put_self`, `lookup_put_of_ne`: the value that was put is found under its key, and what is
  found under another text does not change.
-/

namespace ApiModel.Entries

variable {α : Type}

/-- The entries with one more put in. -/
def put (entries : List (Scalar × α)) (key : Scalar) (value : α) : List (Scalar × α) :=
  match entries with
  | [] => [(key, value)]
  | (k, v) :: rest => if k.same key then (k, value) :: rest else (k, v) :: put rest key value

/-- The map that entries make, each put in after the others. -/
def ofList (entries : Entries) : Entries :=
  entries.foldl (fun es e => put es e.1 e.2) []

theorem same_text {k : Scalar} {s : String} : k.same (.text s) = true ↔ k = .text s := by
  cases k <;> simp [Scalar.same, Scalar.toInt?]

theorem keys_put_text (entries : List (Scalar × α)) (s : String) (v : α) :
    (put entries (.text s) v).map Prod.fst =
      if .text s ∈ entries.map Prod.fst then entries.map Prod.fst
      else entries.map Prod.fst ++ [.text s] := by
  induction entries with
  | nil => simp [put]
  | cons e r ih =>
    obtain ⟨k, w⟩ := e
    by_cases h : k = .text s
    · simp [put, same_text, h]
    · simp only [put, same_text, h, if_false, List.map_cons, ih, List.mem_cons, Ne.symm h,
        false_or]
      split <;> simp

theorem lookup_put_self (entries : List (Scalar × α)) (s : String) (v : α) :
    (put entries (.text s) v).lookup (.text s) = some v := by
  induction entries with
  | nil => simp [put]
  | cons e r ih =>
    obtain ⟨k, w⟩ := e
    by_cases h : k = .text s
    · simp [put, same_text, h]
    · have hk : (Scalar.text s == k) = false := beq_eq_false_iff_ne.2 (Ne.symm h)
      simp [put, same_text, h, List.lookup_cons, hk, ih]

theorem lookup_put_of_ne (entries : List (Scalar × α)) {s key : String} (v : α) (h : key ≠ s) :
    (put entries (.text s) v).lookup (.text key) = entries.lookup (.text key) := by
  have hne : (Scalar.text key == .text s) = false := by simpa using h
  induction entries with
  | nil => rw [put, List.lookup_cons, hne]
  | cons e r ih =>
    obtain ⟨k, w⟩ := e
    unfold put
    split
    · rename_i hk
      rw [same_text.1 hk, List.lookup_cons, List.lookup_cons, hne]
    · rw [List.lookup_cons, List.lookup_cons, ih]

end ApiModel.Entries
