import Mathlib

/-!
# Greedy covers

Each element of a list has an agent and a target; an agent covers the targets of its elements. A
greedy cover takes the agent of an uncovered element, and another, until nothing is uncovered.
-/

namespace NetSim.Lib

universe u v w

variable {τ : Type u} {α : Type v} {β : Type w} [DecidableEq α] [DecidableEq β]

section

variable (agent : τ → α) (target : τ → β)

def uncovered (l : List τ) (chosen : List α) : List τ :=
  l.filter fun t => ¬∃ i ∈ l, agent i ∈ chosen ∧ target i = target t

/-- The lists of agents that are chosen one after the other, each as `P` asks. -/
inductive Greedy (l : List τ) (P : List α → τ → Prop) : List α → Prop
  | nil : Greedy l P []
  | snoc {chosen : List α} {i : τ} (h : Greedy l P chosen) (hi : i ∈ uncovered agent target l chosen)
      (hP : P chosen i) : Greedy l P (chosen ++ [agent i])

end

variable {agent : τ → α} {target : τ → β} {l : List τ} {chosen : List α} {i t : τ}

theorem mem_uncovered : t ∈ uncovered agent target l chosen ↔
    t ∈ l ∧ ∀ i ∈ l, target i = target t → agent i ∉ chosen := by
  simp only [uncovered, List.mem_filter, decide_eq_true_eq, not_exists, not_and]
  exact and_congr_right fun _ => forall₂_congr fun _ _ => ⟨fun h a b => h b a, fun h a b => h b a⟩

@[simp] theorem uncovered_nil : uncovered agent target l [] = l := by
  simp [uncovered]

theorem uncovered_congr {chosen' : List α} (h : ∀ a, a ∈ chosen ↔ a ∈ chosen') :
    uncovered agent target l chosen = uncovered agent target l chosen' := by
  simp only [uncovered, h]

theorem mem_uncovered_of_target (ht : t ∈ uncovered agent target l chosen) (hi : i ∈ l)
    (h : target i = target t) : i ∈ uncovered agent target l chosen :=
  mem_uncovered.2 ⟨hi, fun j hj hij => (mem_uncovered.1 ht).2 j hj (hij.trans h)⟩

theorem uncovered_uncovered (chosen1 chosen2 : List α) :
    uncovered agent target (uncovered agent target l chosen1) chosen2 =
      uncovered agent target l (chosen1 ++ chosen2) := by
  have houter : uncovered agent target (uncovered agent target l chosen1) chosen2 =
      (uncovered agent target l chosen1).filter
        fun t => ¬∃ i ∈ l, agent i ∈ chosen2 ∧ target i = target t := by
    refine List.filter_congr fun t ht => decide_eq_decide.2 (not_congr ?_)
    refine ⟨fun ⟨i, hi, h⟩ => ⟨i, (mem_uncovered.1 hi).1, h⟩, fun ⟨i, hi, hc, h⟩ => ?_⟩
    exact ⟨i, mem_uncovered_of_target ht hi h, hc, h⟩
  rw [houter, uncovered, List.filter_filter, uncovered]
  refine List.filter_congr fun t _ => ?_
  simp only [← Bool.decide_and, decide_eq_decide, List.mem_append, not_exists, not_and]
  refine ⟨fun h i hi hmem => ?_, fun h => ⟨fun i hi hmem => ?_, fun i hi hmem => ?_⟩⟩
  · exact hmem.elim (h.2 i hi) (h.1 i hi)
  · exact h i hi (.inr hmem)
  · exact h i hi (.inl hmem)

theorem length_uncovered_lt (hi : i ∈ uncovered agent target l chosen) :
    (uncovered agent target l (chosen ++ [agent i])).length <
      (uncovered agent target l chosen).length := by
  rw [← uncovered_uncovered]
  refine List.length_filter_lt_length_iff_exists.2 ⟨i, hi, ?_⟩
  simp only [decide_eq_true_eq, not_not]
  exact ⟨i, hi, List.mem_singleton_self _, rfl⟩

theorem find?_of_uncovered_cons {rest : List τ} (h : uncovered agent target l chosen = t :: rest) :
    l.find? (fun i => decide (target i = target t)) = some t := by
  obtain ⟨l1, l2, rfl, hbefore, -⟩ := List.filter_eq_cons_iff.1 h
  have ht : t ∈ uncovered agent target (l1 ++ t :: l2) chosen := h ▸ List.mem_cons_self
  refine List.find?_eq_some_iff_append.2 ⟨decide_eq_true rfl, l1, l2, rfl, fun i hi => ?_⟩
  have hmem : i ∈ l1 ++ t :: l2 := List.mem_append_left _ hi
  rw [Bool.not_eq_true', decide_eq_false_iff_not]
  intro hsame
  have hin := mem_uncovered_of_target ht hmem hsame
  exact hbefore i hi (List.mem_filter.1 hin).2

namespace Greedy

variable {P : List α → τ → Prop}

theorem mem (h : Greedy agent target l P chosen) : ∀ a ∈ chosen, ∃ i ∈ l, agent i = a := by
  induction h with
  | nil => exact nofun
  | snoc _ hi _ ih =>
    intro a ha
    rcases List.mem_append.1 ha with ha | ha
    · exact ih a ha
    · exact ⟨_, (mem_uncovered.1 hi).1, (List.mem_singleton.1 ha).symm⟩

theorem nodup (h : Greedy agent target l P chosen) : chosen.Nodup := by
  induction h with
  | nil => exact List.nodup_nil
  | snoc _ hi _ ih =>
    refine List.nodup_append.2 ⟨ih, List.nodup_singleton _, fun a ha b hb hab => ?_⟩
    rw [List.mem_singleton.1 hb] at hab
    obtain ⟨hmem, hnot⟩ := mem_uncovered.1 hi
    exact hnot _ hmem rfl (hab ▸ ha)

theorem chosen_for (h : Greedy agent target l P chosen) :
    ∀ {pre post : List α} {a : α}, chosen = pre ++ a :: post →
      ∃ i ∈ uncovered agent target l pre, agent i = a ∧ P pre i := by
  induction h with
  | nil => simp
  | @snoc chosen i _ hi hP ih =>
    intro pre post a hsplit
    rcases List.eq_nil_or_concat' post with rfl | ⟨post, b, rfl⟩
    · obtain ⟨rfl, ha⟩ := List.append_inj' hsplit rfl
      exact ⟨i, hi, List.singleton_inj.1 ha, hP⟩
    · rw [← List.cons_append, ← List.append_assoc] at hsplit
      exact ih (List.append_inj' hsplit rfl).1

end Greedy

end NetSim.Lib
