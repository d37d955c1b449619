import Mathlib

/-!
# Acyclic relations

A relation without cycles stays so when edges are removed, and when one edge is added whose target
does not lead back to its source.
-/

namespace NetSim.Lib

open Relation

universe u

variable {V : Type u} {r r' : V → V → Prop} {a b : V}

/-- No vertex leads to itself. -/
def Acyclic (r : V → V → Prop) : Prop := ∀ v, ¬ TransGen r v v

theorem Acyclic.mono (h : Acyclic r) (hsub : ∀ x y, r' x y → r x y) : Acyclic r' :=
  fun v hv => h v (TransGen.mono hsub v v hv)

theorem transGen_insert (hsub : ∀ x y, r' x y → r x y ∨ x = a ∧ y = b) {x y : V}
    (h : TransGen r' x y) : TransGen r x y ∨ ReflTransGen r x a ∧ ReflTransGen r b y := by
  induction h with
  | single hxy =>
    rcases hsub _ _ hxy with h | ⟨rfl, rfl⟩
    · exact Or.inl (.single h)
    · exact Or.inr ⟨.refl, .refl⟩
  | tail _ hyz ih =>
    rcases hsub _ _ hyz with h | ⟨rfl, rfl⟩
    · rcases ih with ih | ⟨hxa, hby⟩
      · exact Or.inl (ih.tail h)
      · exact Or.inr ⟨hxa, hby.tail h⟩
    · rcases ih with ih | ⟨hxa, -⟩
      · exact Or.inr ⟨ih.to_reflTransGen, .refl⟩
      · exact Or.inr ⟨hxa, .refl⟩

theorem Acyclic.insert (h : Acyclic r) (hback : ¬ ReflTransGen r b a)
    (hsub : ∀ x y, r' x y → r x y ∨ x = a ∧ y = b) : Acyclic r' := by
  intro v hv
  rcases transGen_insert hsub hv with hv | ⟨hva, hbv⟩
  · exact h v hv
  · exact hback (hbv.trans hva)

end NetSim.Lib
