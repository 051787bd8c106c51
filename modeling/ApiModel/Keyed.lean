/-!
# Lists with keys

Some lists hold things that have a key, each key once. A thing is put in at the place of the one
with its key, which it replaces, or at the end.

* `keys_put`: putting a thing in leaves the keys as they are, or adds its key at the end.
* `mem_put_self`: a thing that was put in is there.
-/

namespace ApiModel.Keyed

variable {α κ : Type} [DecidableEq κ]

/-- The list with one more thing put in. -/
def put (key : α → κ) (xs : List α) (x : α) : List α :=
  match xs with
  | [] => [x]
  | y :: ys => if key y = key x then x :: ys else y :: put key ys x

/-- The list of things that are put in one after another. -/
def ofList (key : α → κ) (xs : List α) : List α := xs.foldl (put key) []

theorem keys_put (key : α → κ) (xs : List α) (x : α) :
    (put key xs x).map key =
      if key x ∈ xs.map key then xs.map key else xs.map key ++ [key x] := by
  induction xs with
  | nil => simp [put]
  | cons y ys ih =>
    by_cases h : key y = key x
    · simp [put, h]
    · simp only [put, h, if_false, List.map_cons, ih, List.mem_cons, Ne.symm h, false_or]
      split <;> simp

theorem mem_put_self (key : α → κ) (xs : List α) (x : α) : x ∈ put key xs x := by
  induction xs with
  | nil => simp [put]
  | cons y ys ih =>
    unfold put
    split <;> simp [ih]

end ApiModel.Keyed
