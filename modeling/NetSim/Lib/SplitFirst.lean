import Mathlib

/-!
# The first element that meets a test

A walk along a list stops at the first element that meets a test: what lies before it, the element,
and what lies behind it.
-/

namespace NetSim.Lib

universe u

variable {α : Type u}

/-- The list around its first element that meets `p`. -/
def splitFirst (p : α → Bool) : List α → Option (List α × α × List α)
  | [] => none
  | a :: l => if p a then some ([], a, l) else (splitFirst p l).map fun r => (a :: r.1, r.2)

variable {p : α → Bool} {l pre post : List α} {a : α}

theorem splitFirst_some (h : splitFirst p l = some (pre, a, post)) :
    l = pre ++ a :: post ∧ p a = true ∧ ∀ b ∈ pre, p b = false := by
  induction l generalizing pre with
  | nil => cases h
  | cons b l ih =>
    unfold splitFirst at h
    split at h
    · next hb =>
      cases h
      exact ⟨rfl, hb, nofun⟩
    · next hb =>
      obtain ⟨⟨pre', r⟩, hr, heq⟩ := Option.map_eq_some_iff.1 h
      cases heq
      obtain ⟨rfl, ha, hpre⟩ := ih hr
      refine ⟨rfl, ha, ?_⟩
      intro c hc
      rcases List.mem_cons.1 hc with rfl | hc
      · simpa using hb
      · exact hpre c hc

theorem splitFirst_eq_none : splitFirst p l = none ↔ ∀ a ∈ l, p a = false := by
  induction l with
  | nil => exact ⟨nofun, fun _ => rfl⟩
  | cons b l ih =>
    unfold splitFirst
    by_cases hb : p b = true
    · rw [if_pos hb]
      refine ⟨nofun, fun hall => ?_⟩
      rw [hall b List.mem_cons_self] at hb
      cases hb
    · rw [if_neg hb, Option.map_eq_none_iff, ih, List.forall_mem_cons]
      exact ⟨fun hl => ⟨by simpa using hb, hl⟩, fun hl => hl.2⟩

end NetSim.Lib
