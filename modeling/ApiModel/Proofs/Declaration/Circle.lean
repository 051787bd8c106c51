import ApiModel.Proofs.Declaration.Graph
import Mathlib.Data.List.Cycle

/-!
# Circles of declarations

Declarations may refer to each other in circles. A circle of the graph is a cyclic list of names
with an edge from each to the next, and from the last to the first. Two names lie on a common circle
as soon as there is an edge one way and a path the other way.

* `reaches_of_circle`, `exists_circle`: the names on a circle are those that lead to each other.
* `selfCirclesOnly_of_rank`: no circle joins several names if every edge between different names
  leads down.
-/

namespace ApiModel.Declaration

open Relation (ReflTransGen)

variable {ds : List Declaration} {circle : Cycle String} {a b : String}

/-- Every name on a circle leads to every other. -/
theorem reaches_of_circle (h : circle.Chain (Edge ds)) (ha : a ∈ circle) (hb : b ∈ circle) :
    Reaches ds a b := by
  have hreaches : circle.Chain (Reaches ds) := h.imp fun _ _ => ReflTransGen.single
  exact Cycle.chain_iff_pairwise.1 hreaches a ha b hb

/-- An edge whose end leads back to its start is part of a circle. -/
theorem exists_circle (h : Edge ds a b) (hback : Reaches ds b a) :
    ∃ circle : Cycle String, circle.Chain (Edge ds) ∧ a ∈ circle ∧ b ∈ circle := by
  obtain ⟨path, hpath, hlast⟩ := List.exists_isChain_cons_of_relationReflTransGen hback
  have hne : b :: path ≠ [] := List.cons_ne_nil b path
  refine ⟨(b :: path : List String), ?_, ?_, ?_⟩
  · rw [Cycle.chain_ne_nil _ hne, hlast]
    exact hpath.cons_cons h
  · rw [Cycle.mem_coe_iff, ← hlast]
    exact List.getLast_mem hne
  · exact Cycle.mem_coe_iff.2 List.mem_cons_self

/-- No circle of the graph joins several names: the graph has no circles but names that refer to
themselves. -/
def SelfCirclesOnly (ds : List Declaration) : Prop :=
  ∀ circle : Cycle String, circle.Chain (Edge ds) → ∀ a ∈ circle, ∀ b ∈ circle, a = b

theorem selfCirclesOnly_of_rank (rank : String → Nat)
    (down : ∀ a b, Edge ds a b → a = b ∨ rank b < rank a) : SelfCirclesOnly ds := by
  have hpath : ∀ {a b}, Reaches ds a b → a = b ∨ rank b < rank a := by
    intro a b h
    induction h with
    | refl => exact Or.inl rfl
    | @tail b c _ hedge ih =>
      rcases ih with rfl | hab
      · exact down _ _ hedge
      · rcases down b c hedge with rfl | hbc
        · exact Or.inr hab
        · exact Or.inr (Nat.lt_trans hbc hab)
  intro circle h a ha b hb
  rcases hpath (reaches_of_circle h ha hb) with hab | hab
  · exact hab
  · rcases hpath (reaches_of_circle h hb ha) with hba | hba
    · exact hba.symm
    · exact absurd hab (Nat.lt_asymm hba)

end ApiModel.Declaration
