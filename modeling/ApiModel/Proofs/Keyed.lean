import ApiModel.Keyed
import Mathlib.Data.List.Nodup

/-!
# What a list with keys holds

`Keyed.ofList` puts things in one after another. Two facts say what comes out: which keys stand
there, in which order, and which thing stands under each key. Together they determine the list.

* `keys_ofList`: the keys are those of the things put in, each at its first occurrence.
* `find?_ofList`, `mem_ofList_iff`: under a key stands the last thing that was put in with it.
* `ofList_map`: changing the keys changes nothing else, if different ones stay different.
* `ofList_append_congr`: putting in may be done in stages.
-/

namespace ApiModel.Keyed

/-! ## First occurrences -/

section Occurrences

variable {κ : Type} [DecidableEq κ]

theorem eraseDups_filter (p : κ → Bool) (l : List κ) :
    (l.filter p).eraseDups = l.eraseDups.filter p := by
  induction h : l.length using Nat.strongRecOn generalizing l with
  | _ n ih =>
    cases l with
    | nil => rfl
    | cons a as =>
      have hlen : (as.filter fun b => !b == a).length < n := by
        have := List.length_filter_le (fun b => !b == a) as
        simp only [List.length_cons] at h
        omega
      have ih' := ih _ hlen _ rfl
      by_cases hp : p a = true
      · have hcomm : (as.filter p).filter (fun b => !b == a) =
            (as.filter fun b => !b == a).filter p := by
          rw [List.filter_filter, List.filter_filter]
          exact List.filter_congr fun x _ => Bool.and_comm ..
        rw [List.filter_cons_of_pos hp, List.eraseDups_cons, List.eraseDups_cons, hcomm, ih',
          List.filter_cons_of_pos hp]
      · -- what passes differs from `a` anyway
        have hskip : (as.filter fun b => !b == a).filter p = as.filter p := by
          rw [List.filter_filter]
          apply List.filter_congr
          intro x _
          by_cases hx : x = a
          · subst hx; simp [hp]
          · simp [hx]
        rw [List.filter_cons_of_neg hp, List.eraseDups_cons, List.filter_cons_of_neg hp, ← ih',
          hskip]

theorem nodup_eraseDups (l : List κ) : l.eraseDups.Nodup := by
  induction h : l.length using Nat.strongRecOn generalizing l with
  | _ n ih =>
    cases l with
    | nil => simp
    | cons a as =>
      rw [List.eraseDups_cons, eraseDups_filter, List.nodup_cons]
      refine ⟨by simp, (ih as.length ?_ as rfl).filter _⟩
      simp only [List.length_cons] at h
      omega

theorem eraseDups_of_nodup {l : List κ} (h : l.Nodup) : l.eraseDups = l := by
  induction l with
  | nil => rfl
  | cons a as ih =>
    rw [List.nodup_cons] at h
    have hskip : (as.filter fun b => !b == a) = as := by
      rw [List.filter_eq_self]
      intro b hb
      have : b ≠ a := by rintro rfl; exact h.1 hb
      simpa using this
    rw [List.eraseDups_cons, hskip, ih h.2]

end Occurrences

/-! ## Keys and things -/

variable {α κ : Type} [DecidableEq κ] (key : α → κ)

theorem keys_foldl_put (acc xs : List α) :
    (xs.foldl (put key) acc).map key =
      acc.map key ++ ((xs.map key).filter (· ∉ acc.map key)).eraseDups := by
  induction xs generalizing acc with
  | nil => simp
  | cons x xs ih =>
    rw [List.foldl_cons, ih, keys_put, List.map_cons]
    split
    · rename_i h
      rw [List.filter_cons_of_neg (by simpa using h)]
    · rename_i h
      have hsplit : (xs.map key).filter (· ∉ acc.map key ++ [key x]) =
          ((xs.map key).filter (· ∉ acc.map key)).filter fun b => !b == key x := by
        rw [List.filter_filter]
        apply List.filter_congr
        intro k _
        by_cases hk : k = key x <;> simp [hk]
      rw [hsplit, List.filter_cons_of_pos (by simpa using h), List.eraseDups_cons,
        List.append_assoc, List.singleton_append]

theorem find?_put (xs : List α) (x : α) (k : κ) :
    (put key xs x).find? (key · = k) = if key x = k then some x else xs.find? (key · = k) := by
  induction xs with
  | nil => by_cases h : key x = k <;> simp [put, h]
  | cons y ys ih =>
    unfold put
    by_cases hyx : key y = key x
    · rw [if_pos hyx]
      by_cases hk : key x = k
      · simp [hk]
      · simp [hk, hyx]
    · rw [if_neg hyx]
      by_cases hk : key y = k
      · have hne : key x ≠ k := fun h => hyx (hk.trans h.symm)
        simp [hk, hne]
      · simp only [List.find?_cons, hk, decide_false, ih]

theorem find?_foldl_put (acc xs : List α) (k : κ) :
    (xs.foldl (put key) acc).find? (key · = k) =
      (xs.reverse.find? (key · = k)).or (acc.find? (key · = k)) := by
  induction xs generalizing acc with
  | nil => simp
  | cons x xs ih =>
    rw [List.foldl_cons, ih, find?_put, List.reverse_cons, List.find?_append, Option.or_assoc]
    by_cases h : key x = k <;> simp [h]

/-- The keys of a list that was put together, each where it first occurred. -/
theorem keys_ofList (xs : List α) : (ofList key xs).map key = (xs.map key).eraseDups := by
  unfold ofList
  rw [keys_foldl_put]
  simp

/-- What stands under a key: the last thing put in with it. -/
theorem find?_ofList (xs : List α) (k : κ) :
    (ofList key xs).find? (key · = k) = xs.reverse.find? (key · = k) := by
  unfold ofList
  rw [find?_foldl_put]
  simp

theorem nodup_keys_ofList (xs : List α) : ((ofList key xs).map key).Nodup := by
  rw [keys_ofList]
  exact nodup_eraseDups _

/-! ## Lists with distinct keys -/

variable {key}

theorem find?_eq_some_of_nodup {xs : List α} (h : (xs.map key).Nodup) {x : α} {k : κ} :
    xs.find? (key · = k) = some x ↔ x ∈ xs ∧ key x = k := by
  constructor
  · intro hf
    exact ⟨List.mem_of_find?_eq_some hf, by simpa using List.find?_some hf⟩
  · rintro ⟨hx, rfl⟩
    induction xs with
    | nil => cases hx
    | cons y ys ih =>
      rw [List.map_cons, List.nodup_cons] at h
      rcases List.mem_cons.1 hx with rfl | hx
      · simp
      · have hne : key y ≠ key x := fun e => h.1 (e ▸ List.mem_map_of_mem hx)
        simp [hne, ih h.2 hx]

/-- Two lists with the same distinct keys, and the same thing under each, are equal. -/
theorem eq_of_keys_of_find? {xs ys : List α} (hnd : (xs.map key).Nodup)
    (hk : xs.map key = ys.map key)
    (hf : ∀ k, xs.find? (key · = k) = ys.find? (key · = k)) : xs = ys := by
  induction xs generalizing ys with
  | nil =>
    rw [List.map_nil, eq_comm, List.map_eq_nil_iff] at hk
    exact hk.symm
  | cons x xs ih =>
    cases ys with
    | nil => cases hk
    | cons y ys =>
      rw [List.map_cons, List.map_cons, List.cons.injEq] at hk
      obtain ⟨hxy, hk⟩ := hk
      rw [List.map_cons, List.nodup_cons] at hnd
      have hhead : x = y := by simpa [← hxy] using hf (key x)
      subst hhead
      congr 1
      apply ih hnd.2 hk
      intro k
      by_cases h : key x = k
      · -- the key of the head occurs in neither tail
        have hnone : ∀ zs : List α, key x ∉ zs.map key → zs.find? (key · = k) = none := by
          intro zs hz
          rw [List.find?_eq_none]
          intro z hm he
          exact hz (List.mem_map.2 ⟨z, hm, by rw [h]; simpa using he⟩)
        rw [hnone xs hnd.1, hnone ys (hk ▸ hnd.1)]
      · simpa [h] using hf k

/-- What stands in a list that was put together: of the things with one key the last. -/
theorem mem_ofList_iff {xs : List α} {x : α} :
    x ∈ ofList key xs ↔
      ∃ before after, xs = before ++ x :: after ∧ ∀ y ∈ after, key y ≠ key x := by
  have hmem : x ∈ ofList key xs ↔ xs.reverse.find? (key · = key x) = some x := by
    rw [← find?_ofList, find?_eq_some_of_nodup (nodup_keys_ofList key xs)]
    simp
  rw [hmem, List.find?_eq_some_iff_append]
  constructor
  · rintro ⟨-, as, bs, hxs, has⟩
    refine ⟨bs.reverse, as.reverse, ?_, ?_⟩
    · rw [← List.reverse_reverse xs, hxs]
      simp
    · intro y hy
      simpa using has y (List.mem_reverse.1 hy)
  · rintro ⟨before, after, rfl, hafter⟩
    refine ⟨by simp, after.reverse, before.reverse, by simp, ?_⟩
    intro y hy
    simpa using hafter y (List.mem_reverse.1 hy)

theorem ofList_of_nodup {xs : List α} (h : (xs.map key).Nodup) : ofList key xs = xs := by
  apply eq_of_keys_of_find? (nodup_keys_ofList key xs)
  · rw [keys_ofList, eraseDups_of_nodup h]
  · intro k
    have hr : (xs.reverse.map key).Nodup := by rwa [List.map_reverse, List.nodup_reverse]
    rw [find?_ofList]
    ext x
    rw [find?_eq_some_of_nodup hr, find?_eq_some_of_nodup h, List.mem_reverse]

theorem ofList_ofList (xs : List α) : ofList key (ofList key xs) = ofList key xs :=
  ofList_of_nodup (nodup_keys_ofList key xs)

/-! ## New keys -/

section Map

variable {β κ' : Type} [DecidableEq κ'] {key' : β → κ'} {change : α → β} {rename : κ → κ'}

theorem put_map (hinj : Function.Injective rename) (hkey : ∀ x, key' (change x) = rename (key x))
    (xs : List α) (x : α) : put key' (xs.map change) (change x) = (put key xs x).map change := by
  induction xs with
  | nil => rfl
  | cons y ys ih =>
    simp only [List.map_cons, put, ih, hkey, hinj.eq_iff]
    split <;> rfl

/-- Things whose keys are changed, different ones to different ones, are put together likewise. -/
theorem ofList_map (hinj : Function.Injective rename)
    (hkey : ∀ x, key' (change x) = rename (key x)) (xs : List α) :
    ofList key' (xs.map change) = (ofList key xs).map change := by
  have hput : ∀ acc, (xs.map change).foldl (put key') (acc.map change) =
      (xs.foldl (put key) acc).map change := by
    induction xs with
    | nil => exact fun acc => rfl
    | cons x xs ih =>
      intro acc
      rw [List.map_cons, List.foldl_cons, put_map hinj hkey, ih, List.foldl_cons]
  exact hput []

end Map

/-! ## Stages -/

theorem foldl_put_ofList {acc : List α} (hacc : (acc.map key).Nodup) (xs : List α) :
    (ofList key xs).foldl (put key) acc = xs.foldl (put key) acc := by
  have hnd : (((ofList key xs).foldl (put key) acc).map key).Nodup := by
    rw [keys_foldl_put, List.nodup_append]
    refine ⟨hacc, nodup_eraseDups _, ?_⟩
    rintro a ha b hb rfl
    simp only [List.mem_eraseDups, List.mem_filter, decide_eq_true_eq] at hb
    exact hb.2 ha
  apply eq_of_keys_of_find? hnd
  · rw [keys_foldl_put, keys_foldl_put, keys_ofList, ← eraseDups_filter,
      eraseDups_of_nodup (nodup_eraseDups _)]
  · intro k
    have hr : ((ofList key xs).reverse.map key).Nodup := by
      rw [List.map_reverse, List.nodup_reverse]
      exact nodup_keys_ofList key xs
    have hrev : (ofList key xs).reverse.find? (key · = k) = (ofList key xs).find? (key · = k) := by
      ext x
      rw [find?_eq_some_of_nodup hr, find?_eq_some_of_nodup (nodup_keys_ofList key xs),
        List.mem_reverse]
    rw [find?_foldl_put, find?_foldl_put, hrev, find?_ofList]

/-- Lists that are put together to the same may stand for each other in a longer one. -/
theorem ofList_append_congr {xs xs' ys ys' : List α} (hx : ofList key xs = ofList key xs')
    (hy : ofList key ys = ofList key ys') :
    ofList key (xs ++ ys) = ofList key (xs' ++ ys') := by
  have hsplit : ∀ us vs : List α,
      ofList key (us ++ vs) = (ofList key vs).foldl (put key) (ofList key us) := by
    intro us vs
    rw [foldl_put_ofList (nodup_keys_ofList key us)]
    exact List.foldl_append
  rw [hsplit, hsplit, hx, hy]

end ApiModel.Keyed
