import ApiModel.Trace
import Mathlib.Data.List.Forall2

/-!
# How steps end

The result of a run of steps, apart from the events on the way: a list of steps succeeds exactly
when each of them does, and otherwise ends like the first that fails.

* `Traced.result_mapM`: the result of steps one after another is that of their results.
* `mapM_eq_ok_iff`, `mapM_eq_error_iff`, `forM_eq_error_iff`: how results one after another end.
* `FailsOnly.bind`, `FailsOnly.mapM`: what holds of all failures of steps holds of those of a run.
* `Yields.bind`: what holds of all successes and all failures of two steps in a row.
-/

namespace ApiModel

/-! ## Lists side by side -/

theorem exists_right_of_forall₂ {α β : Type} {R : α → β → Prop} {xs : List α} {ys : List β}
    (h : List.Forall₂ R xs ys) {x : α} (hx : x ∈ xs) : ∃ y ∈ ys, R x y := by
  induction h with
  | nil => cases hx
  | cons hR _ ih =>
    rcases List.mem_cons.1 hx with rfl | hx
    · exact ⟨_, List.mem_cons_self, hR⟩
    · obtain ⟨y, hy, hxy⟩ := ih hx
      exact ⟨y, List.mem_cons_of_mem _ hy, hxy⟩

theorem exists_left_of_forall₂ {α β : Type} {R : α → β → Prop} {xs : List α} {ys : List β}
    (h : List.Forall₂ R xs ys) {y : β} (hy : y ∈ ys) : ∃ x ∈ xs, R x y :=
  exists_right_of_forall₂ h.flip hy

/-- Of three lists side by side the outer ones stand side by side. -/
theorem forall₂_comp {α β γ : Type} {R : α → β → Prop} {S : β → γ → Prop} {T : α → γ → Prop}
    {xs : List α} {ys : List β} {zs : List γ} (h : List.Forall₂ R xs ys)
    (h' : List.Forall₂ S ys zs) (hT : ∀ x y z, R x y → S y z → T x z) : List.Forall₂ T xs zs := by
  induction h generalizing zs with
  | nil =>
    cases h'
    exact .nil
  | cons hR _ ih =>
    cases h' with
    | cons hS hrest => exact .cons (hT _ _ _ hR hS) (ih hrest)

/-- The things of a list are paired with those that stand beside them. -/
theorem forall₂_zip {α β : Type} {R : α → β → Prop} {xs : List α} {ys : List β}
    (h : List.Forall₂ R xs ys) : List.Forall₂ (fun x p => p.1 = x ∧ R x p.2) xs (xs.zip ys) := by
  induction h with
  | nil => exact .nil
  | cons hR _ ih => exact .cons ⟨rfl, hR⟩ ih

/-- What any two things of a list have in common, what stands beside them has too. -/
theorem pairwise_of_forall₂ {α β : Type} {R : α → β → Prop} {S : α → α → Prop} {T : β → β → Prop}
    {xs : List α} {ys : List β} (h : List.Forall₂ R xs ys) (hxs : xs.Pairwise S)
    (hT : ∀ x x' y y', R x y → R x' y' → S x x' → T y y') : ys.Pairwise T := by
  induction h with
  | nil => exact List.Pairwise.nil
  | cons hR hrest ih =>
    obtain ⟨hx, hxs⟩ := List.pairwise_cons.1 hxs
    refine List.pairwise_cons.2 ⟨fun y' hy' => ?_, ih hxs⟩
    obtain ⟨x', hx', hR'⟩ := exists_left_of_forall₂ hrest hy'
    exact hT _ _ _ _ hR hR' (hx x' hx')

/-! ## Results one after another -/

section Results

variable {ε α β : Type}

theorem bind_eq_ok_iff {x : Except ε α} {f : α → Except ε β} {b : β} :
    x >>= f = .ok b ↔ ∃ a, x = .ok a ∧ f a = .ok b := by
  cases x with
  | ok a => simp [bind, Except.bind]
  | error e => simp [bind, Except.bind]

theorem map_eq_ok_iff {x : Except ε α} {f : α → β} {b : β} :
    f <$> x = .ok b ↔ ∃ a, x = .ok a ∧ f a = b := by
  cases x with
  | ok a => simp [Functor.map, Except.map]
  | error e => simp [Functor.map, Except.map]

theorem map_eq_error_iff {x : Except ε α} {f : α → β} {e : ε} :
    f <$> x = .error e ↔ x = .error e := by
  cases x with
  | ok a => simp [Functor.map, Except.map]
  | error e' => simp [Functor.map, Except.map]

theorem mapError_eq_ok_iff {δ : Type} {x : Except ε α} {f : ε → δ} {a : α} :
    x.mapError f = .ok a ↔ x = .ok a := by
  cases x <;> simp [Except.mapError]

theorem mapError_eq_error_iff {δ : Type} {x : Except ε α} {f : ε → δ} {e : δ} :
    x.mapError f = .error e ↔ ∃ e', x = .error e' ∧ f e' = e := by
  cases x <;> simp [Except.mapError]

theorem mapM_eq_ok_iff {f : α → Except ε β} {xs : List α} {ys : List β} :
    xs.mapM f = .ok ys ↔ List.Forall₂ (fun x y => f x = .ok y) xs ys := by
  induction xs generalizing ys with
  | nil => cases ys <;> simp [pure, Except.pure]
  | cons x xs ih =>
    rw [List.mapM_cons, bind_eq_ok_iff, List.forall₂_cons_left_iff]
    constructor
    · rintro ⟨y, hy, h⟩
      obtain ⟨ys', hys, h⟩ := bind_eq_ok_iff.1 h
      cases h
      exact ⟨y, ys', hy, ih.1 hys, rfl⟩
    · rintro ⟨y, ys', hy, hys, rfl⟩
      exact ⟨y, hy, bind_eq_ok_iff.2 ⟨ys', ih.2 hys, rfl⟩⟩

theorem mapM_congr {m : Type → Type} [Monad m] [LawfulMonad m] {f g : α → m β} {xs : List α}
    (h : ∀ x ∈ xs, f x = g x) : xs.mapM f = xs.mapM g := by
  induction xs with
  | nil => rfl
  | cons x xs ih =>
    obtain ⟨hx, hrest⟩ := List.forall_mem_cons.1 h
    rw [List.mapM_cons, List.mapM_cons, hx, ih hrest]

theorem exists_mapM_eq_ok_iff {f : α → Except ε β} {xs : List α} :
    (∃ ys, xs.mapM f = .ok ys) ↔ ∀ x ∈ xs, ∃ y, f x = .ok y := by
  constructor
  · rintro ⟨ys, h⟩ x hx
    obtain ⟨y, -, hy⟩ := exists_right_of_forall₂ (mapM_eq_ok_iff.1 h) hx
    exact ⟨y, hy⟩
  · intro h
    induction xs with
    | nil => exact ⟨[], rfl⟩
    | cons x xs ih =>
      obtain ⟨⟨y, hy⟩, hrest⟩ := List.forall_mem_cons.1 h
      obtain ⟨ys, hys⟩ := ih hrest
      exact ⟨y :: ys, mapM_eq_ok_iff.2 (.cons hy (mapM_eq_ok_iff.1 hys))⟩

theorem mapM_eq_error_iff {f : α → Except ε β} {xs : List α} {e : ε} :
    xs.mapM f = .error e ↔
      ∃ before x after, xs = before ++ x :: after ∧ (∀ b ∈ before, ∃ y, f b = .ok y) ∧
        f x = .error e := by
  induction xs with
  | nil => simp [pure, Except.pure]
  | cons x xs ih =>
    rw [List.mapM_cons]
    cases hx : f x with
    | error e' =>
      constructor
      · intro h
        cases h
        exact ⟨[], x, xs, rfl, nofun, hx⟩
      · rintro ⟨before, z, after, hxs, hb, hz⟩
        cases before with
        | nil => cases hxs; cases hx.symm.trans hz; rfl
        | cons b before =>
          cases hxs
          obtain ⟨y, hy⟩ := hb _ List.mem_cons_self
          cases hx.symm.trans hy
    | ok y =>
      have hrest : (do let y ← Except.ok y; let ys ← xs.mapM f; pure (y :: ys)) = .error e ↔
          xs.mapM f = .error e := by
        cases xs.mapM f <;> simp [bind, Except.bind, pure, Except.pure]
      rw [hrest, ih]
      constructor
      · rintro ⟨before, z, after, rfl, hb, hz⟩
        exact ⟨x :: before, z, after, rfl, List.forall_mem_cons.2 ⟨⟨y, hx⟩, hb⟩, hz⟩
      · rintro ⟨before, z, after, hxs, hb, hz⟩
        cases before with
        | nil => cases hxs; cases hx.symm.trans hz
        | cons b before =>
          cases hxs
          exact ⟨before, z, after, rfl, (List.forall_mem_cons.1 hb).2, hz⟩

theorem forM_congr {f g : α → Except ε Unit} {xs : List α} (h : ∀ x ∈ xs, f x = g x) :
    forM xs f = forM xs g := by
  induction xs with
  | nil => rfl
  | cons x xs ih =>
    obtain ⟨hx, hrest⟩ := List.forall_mem_cons.1 h
    rw [List.forM_cons, List.forM_cons, hx, ih hrest]

theorem forM_flatMap {f : β → Except ε Unit} {g : α → List β} (xs : List α) :
    forM (xs.flatMap g) f = forM xs fun x => forM (g x) f := by
  induction xs with
  | nil => rfl
  | cons x xs ih => rw [List.flatMap_cons, List.forM_append, List.forM_cons, ih]

theorem forM_eq_map_mapM {f : α → Except ε Unit} (xs : List α) :
    forM xs f = (fun _ => ()) <$> xs.mapM f := by
  induction xs with
  | nil => rfl
  | cons x xs ih =>
    rw [List.forM_cons, List.mapM_cons, ih]
    cases f x with
    | error e => rfl
    | ok _ => cases xs.mapM f <;> rfl

/-- Steps without results end like the first that fails. -/
theorem forM_eq_error_iff {f : α → Except ε Unit} {xs : List α} {e : ε} :
    forM xs f = .error e ↔
      ∃ before x after, xs = before ++ x :: after ∧ (∀ b ∈ before, f b = .ok ()) ∧
        f x = .error e := by
  rw [forM_eq_map_mapM, map_eq_error_iff, mapM_eq_error_iff]
  simp only [Unique.exists_iff, PUnit.default_eq_unit]

theorem exists_forM_eq_error_iff {f : α → Except ε Unit} {xs : List α} :
    (∃ e, forM xs f = .error e) ↔ ∃ x ∈ xs, ∃ e, f x = .error e := by
  induction xs with
  | nil => simp [pure, Except.pure]
  | cons x xs ih =>
    rw [List.forM_cons, List.exists_mem_cons_iff, ← ih]
    cases hx : f x with
    | error e => exact iff_of_true ⟨e, rfl⟩ (Or.inl ⟨e, rfl⟩)
    | ok _ => exact (or_iff_right nofun).symm

end Results

/-! ## How results fail -/

section Failing

variable {ε α β : Type} {P Q : ε → Prop} {x : Except ε α}

/-- However a result fails, the failure has a property. -/
def FailsOnly (P : ε → Prop) (x : Except ε α) : Prop := ∀ e, x = .error e → P e

namespace FailsOnly

theorem ok (a : α) : FailsOnly P (.ok a : Except ε α) := nofun

theorem error {e : ε} (h : P e) : FailsOnly P (.error e : Except ε α) := by
  intro e' he
  cases he
  exact h

theorem imp (h : FailsOnly P x) (hPQ : ∀ e, P e → Q e) : FailsOnly Q x :=
  fun e he => hPQ e (h e he)

/-- A second step may rely on how the first succeeded. -/
theorem bind {f : α → Except ε β} (hx : FailsOnly P x)
    (hf : ∀ a, x = .ok a → FailsOnly P (f a)) : FailsOnly P (x >>= f) := by
  cases hr : x with
  | ok a => exact hf a hr
  | error e => exact .error (hx e hr)

theorem map {f : α → β} (hx : FailsOnly P x) : FailsOnly P (f <$> x) :=
  fun e he => hx e (map_eq_error_iff.1 he)

theorem mapM {f : α → Except ε β} {xs : List α} (h : ∀ a ∈ xs, FailsOnly P (f a)) :
    FailsOnly P (xs.mapM f) := by
  intro e he
  obtain ⟨before, a, after, rfl, -, ha⟩ := mapM_eq_error_iff.1 he
  exact h a (List.mem_append_right _ List.mem_cons_self) e ha

end FailsOnly

end Failing

/-! ## How results end -/

section Ending

variable {ε α β : Type} {P : ε → Prop} {Q : α → Prop} {x : Except ε α}

/-- A result ends as it may: a success has one property, a failure another. -/
def Yields (Q : α → Prop) (P : ε → Prop) : Except ε α → Prop
  | .ok a => Q a
  | .error e => P e

namespace Yields

theorem ok {a : α} (h : Q a) : Yields Q P (.ok a) := h

theorem error {e : ε} (h : P e) : Yields Q P (.error e) := h

theorem of_ok {a : α} (h : Yields Q P x) (hx : x = .ok a) : Q a := by
  rw [hx] at h
  exact h

theorem of_error {e : ε} (h : Yields Q P x) (hx : x = .error e) : P e := by
  rw [hx] at h
  exact h

theorem imp {R : α → Prop} (h : Yields Q P x) (hQ : ∀ a, Q a → R a) : Yields R P x := by
  cases x with
  | ok a => exact hQ a h
  | error e => exact h

theorem imp_error {S : ε → Prop} (h : Yields Q P x) (hP : ∀ e, P e → S e) : Yields Q S x := by
  cases x with
  | ok a => exact h
  | error e => exact hP e h

theorem trivial (x : Except ε α) : Yields (fun _ => True) (fun _ => True) x := by
  cases x with
  | ok a => exact True.intro
  | error e => exact True.intro

/-- A second step may rely on what the first yields. -/
theorem bind {R : β → Prop} {f : α → Except ε β} (hx : Yields Q P x)
    (hf : ∀ a, Q a → Yields R P (f a)) : Yields R P (x >>= f) := by
  cases x with
  | ok a => exact hf a hx
  | error e => exact hx

theorem foldlM {R : β → Prop} {f : β → α → Except ε β} {xs : List α}
    (hf : ∀ b, ∀ a ∈ xs, R b → Yields R P (f b a)) {b : β} (hb : R b) :
    Yields R P (xs.foldlM f b) := by
  induction xs generalizing b with
  | nil => exact ok hb
  | cons a xs ih =>
    rw [List.foldlM_cons]
    refine bind (hf b a List.mem_cons_self hb) fun _ hb' => ih (fun b a ha => ?_) hb'
    exact hf b a (List.mem_cons_of_mem _ ha)

theorem ite {p : Prop} [Decidable p] {y : Except ε α} (hx : p → Yields Q P x)
    (hy : ¬p → Yields Q P y) : Yields Q P (if p then x else y) := by
  split
  · exact hx ‹p›
  · exact hy ‹¬p›

end Yields

end Ending

/-! ## Traced steps -/

namespace Traced

variable {α β : Type}

@[simp] theorem result_pure (a : α) : (pure a : Traced α).result = .ok a := rfl

@[simp] theorem result_ofExcept (r : Except Failure α) : (ofExcept r).result = r := rfl

@[simp] theorem result_lift (r : Except Failure α) : (liftM r : Traced α).result = r := rfl

@[simp] theorem result_fail (f : Failure) : (fail f : Traced α).result = .error f := rfl

@[simp] theorem result_note (e : Event) : (note e).result = .ok () := rfl

theorem lift_ok_bind (a : α) (f : α → Traced β) :
    (liftM (Except.ok a : Except Failure α) : Traced α) >>= f = f a := by
  rw [bind_ok (a := a) rfl]
  exact ext (List.nil_append _) rfl

/-- The steps of a run that succeeds succeed. -/
theorem exists_of_bind_ok {x : Traced α} {f : α → Traced β} {b : β}
    (h : (x >>= f).result = .ok b) : ∃ a, x.result = .ok a ∧ (f a).result = .ok b := by
  rw [result_bind] at h
  exact bind_eq_ok_iff.1 h

/-- After a step that succeeded the events are those of both steps. -/
theorem events_bind_of_ok {x : Traced α} {f : α → Traced β} {a : α} (h : x.result = .ok a) :
    (x >>= f).events = x.events ++ (f a).events := by
  rw [bind_ok h]

/-- A second step may rely on how the first succeeded. -/
theorem bind_congr_of_result {x : Traced α} {f g : α → Traced β}
    (h : ∀ a, x.result = .ok a → f a = g a) : x >>= f = x >>= g := by
  cases hx : x.result with
  | ok a => rw [bind_ok hx, bind_ok hx, h a hx]
  | error e => rw [bind_error hx, bind_error hx]

theorem result_mapM (f : α → Traced β) (xs : List α) :
    (xs.mapM f).result = xs.mapM fun x => (f x).result := by
  induction xs with
  | nil => rfl
  | cons x xs ih => simp only [List.mapM_cons, result_bind, ih, result_pure]; rfl

end Traced

end ApiModel
