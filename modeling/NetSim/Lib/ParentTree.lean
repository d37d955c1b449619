import Mathlib

/-!
# Trees from parents

A graph on finitely many vertices whose edges are those between a vertex and its parent, for every
vertex but the root, is a tree, when a parent is always lower than its child.
-/

namespace NetSim.Lib

universe u

variable {V : Type u} {G : SimpleGraph V} {root : V} {parent : V → V} {height : V → ℕ}

theorem reachable_root_of_parent (hlt : ∀ v, v ≠ root → height (parent v) < height v)
    (hadj : ∀ v, v ≠ root → G.Adj v (parent v)) (v : V) : G.Reachable v root := by
  induction hn : height v using Nat.strong_induction_on generalizing v with
  | _ n ih =>
    by_cases hv : v = root
    · exact hv ▸ .refl _
    · exact (hadj v hv).reachable.trans (ih _ (hn ▸ hlt v hv) _ rfl)

theorem isTree_of_parent [Finite V] (root : V) (parent : V → V) (height : V → ℕ)
    (hlt : ∀ v, v ≠ root → height (parent v) < height v)
    (hadj : ∀ v w, G.Adj v w ↔ (v ≠ root ∧ parent v = w) ∨ (w ≠ root ∧ parent w = v)) :
    G.IsTree := by
  have hreach : ∀ v, G.Reachable v root :=
    reachable_root_of_parent hlt fun v hv => (hadj _ _).2 (.inl ⟨hv, rfl⟩)
  have hconn : G.Connected :=
    { preconnected := fun v w => (hreach v).trans (hreach w).symm, nonempty := ⟨root⟩ }
  refine SimpleGraph.isTree_iff_connected_and_card.2 ⟨hconn, le_antisymm ?_
    hconn.card_vert_le_card_edgeSet_add_one⟩
  -- Every edge is that of the vertex below it.
  let edge : {v : V // v ≠ root} → G.edgeSet := fun v =>
    ⟨s(v.1, parent v.1), (hadj _ _).2 (.inl ⟨v.2, rfl⟩)⟩
  have hsurj : Function.Surjective edge := by
    rintro ⟨e, he⟩
    induction e using Sym2.ind with
    | _ v w =>
      rcases (hadj v w).1 he with ⟨hv, rfl⟩ | ⟨hw, rfl⟩
      · exact ⟨⟨v, hv⟩, rfl⟩
      · exact ⟨⟨w, hw⟩, Subtype.ext Sym2.eq_swap⟩
  have hcard : Nat.card G.edgeSet ≤ Nat.card {v : V // v ≠ root} :=
    Nat.card_le_card_of_surjective edge hsurj
  have hsub : Nat.card {v : V // v ≠ root} < Nat.card V :=
    Finite.card_subtype_lt (x := root) fun h => h rfl
  omega

end NetSim.Lib
