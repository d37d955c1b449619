import Mathlib

/-!
# Loops that may not end

A loop by its body `body : σ → ε ⊕ σ`, which ends with a result or goes on with a new state.
-/

namespace NetSim.Lib

universe u v

variable {σ : Type u} {ε : Type v} {body : σ → ε ⊕ σ}

def runLoop (body : σ → ε ⊕ σ) : Nat → σ → Option ε
  | 0, _ => none
  | rounds + 1, s =>
    match body s with
    | .inl e => some e
    | .inr s' => runLoop body rounds s'

/-- The loop ends. -/
def LoopEnds (body : σ → ε ⊕ σ) (s : σ) : Prop := ∃ rounds e, runLoop body rounds s = some e

/-- The loop gets from the first state to the second. -/
def LoopReaches (body : σ → ε ⊕ σ) : σ → σ → Prop :=
  Relation.ReflTransGen fun s s' => body s = .inr s'

variable {s s' : σ} {e : ε} {rounds : Nat}

theorem runLoop_of_inl (h : body s = .inl e) (rounds : Nat) :
    runLoop body (rounds + 1) s = some e := by
  rw [runLoop, h]

theorem runLoop_of_inr (h : body s = .inr s') (rounds : Nat) :
    runLoop body (rounds + 1) s = runLoop body rounds s' := by
  rw [runLoop, h]

theorem runLoop_mono {more : Nat} (h : runLoop body rounds s = some e) (hle : rounds ≤ more) :
    runLoop body more s = some e := by
  induction rounds generalizing s more with
  | zero => cases h
  | succ rounds ih =>
    obtain ⟨more, rfl⟩ : ∃ n, more = n + 1 := ⟨more - 1, by omega⟩
    rw [runLoop] at h ⊢
    split at h
    · exact h
    · exact ih h (by omega)

theorem loopEnds_of_inr (h : body s = .inr s') : LoopEnds body s ↔ LoopEnds body s' := by
  constructor
  · rintro ⟨rounds, e, hrun⟩
    cases rounds with
    | zero => cases hrun
    | succ rounds => exact ⟨rounds, e, by rwa [runLoop_of_inr h] at hrun⟩
  · rintro ⟨rounds, e, hrun⟩
    exact ⟨rounds + 1, e, by rwa [runLoop_of_inr h]⟩

theorem LoopReaches.ends_iff (h : LoopReaches body s s') : LoopEnds body s ↔ LoopEnds body s' := by
  induction h with
  | refl => rfl
  | tail _ hstep ih => rw [ih, loopEnds_of_inr hstep]

theorem runLoop_of_measure (measure : σ → Nat)
    (hfalls : ∀ s1 s2, LoopReaches body s s1 → body s1 = .inr s2 → measure s2 < measure s1) :
    ∃ e, runLoop body (measure s + 1) s = some e := by
  generalize hn : measure s = n
  induction n using Nat.strongRecOn generalizing s with
  | ind n ih =>
    cases hbody : body s with
    | inl e => exact ⟨e, runLoop_of_inl hbody n⟩
    | inr s' =>
      have hlt := hfalls s s' .refl hbody
      have hrest : ∀ s1 s2, LoopReaches body s' s1 → body s1 = .inr s2 →
          measure s2 < measure s1 := fun s1 s2 hreach =>
        hfalls s1 s2 (Relation.ReflTransGen.head hbody hreach)
      obtain ⟨e, he⟩ := ih (measure s') (by omega) hrest rfl
      refine ⟨e, ?_⟩
      rw [runLoop_of_inr hbody]
      exact runLoop_mono he (by omega)

theorem not_loopEnds_of_trap {T : σ → Prop} (hT : ∀ s, T s → ∃ s', body s = .inr s' ∧ T s')
    (hs : T s) : ¬LoopEnds body s := by
  rintro ⟨rounds, e, hrun⟩
  induction rounds generalizing s with
  | zero => cases hrun
  | succ rounds ih =>
    obtain ⟨s', hbody, hs'⟩ := hT s hs
    rw [runLoop_of_inr hbody] at hrun
    exact ih hs' hrun

theorem loopEnds_iff_of_measure (measure : σ → Nat) {Bad : σ → Prop}
    (hfalls : ∀ s s', body s = .inr s' → ¬Bad s → measure s' < measure s)
    (htrap : ∀ s, Bad s → ∃ s', body s = .inr s' ∧ Bad s') :
    LoopEnds body s ↔ ∀ s', LoopReaches body s s' → ¬Bad s' := by
  constructor
  · intro hends s' hreach hbad
    exact not_loopEnds_of_trap htrap hbad (hreach.ends_iff.1 hends)
  · intro hgood
    obtain ⟨e, he⟩ := runLoop_of_measure measure fun s1 s2 hreach hbody =>
      hfalls s1 s2 hbody (hgood s1 hreach)
    exact ⟨_, e, he⟩

end NetSim.Lib
