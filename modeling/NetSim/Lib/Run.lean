import Mathlib

/-!
# Runs of a partial step function

`step s a` is the state after action `a`, or `none` when `a` cannot happen. `Run step s₀ tr s` keeps
in `tr` every step taken, with the state it was taken in, the latest first.
-/

namespace NetSim.Lib

universe u v

variable {σ : Type u} {α : Type v}

/-- The runs from `s₀`, with the steps taken (the latest first). -/
inductive Run (step : σ → α → Option σ) (s₀ : σ) : List (σ × α) → σ → Prop
  | nil : Run step s₀ [] s₀
  | snoc {tr : List (σ × α)} {s s' : σ} {a : α} (run : Run step s₀ tr s)
      (hstep : step s a = some s') : Run step s₀ ((s, a) :: tr) s'

namespace Run

variable {step : σ → α → Option σ} {s₀ s : σ} {tr : List (σ × α)}

theorem always {P : σ → Prop} (h0 : P s₀) (hstep : ∀ s a s', P s → step s a = some s' → P s')
    (run : Run step s₀ tr s) : P s := by
  induction run with
  | nil => exact h0
  | snoc _ hs ih => exact hstep _ _ _ ih hs

theorem induction {P : List (σ × α) → σ → Prop} {Q : σ → α → Prop} (h0 : P [] s₀)
    (hstep : ∀ tr s a s', Run step s₀ tr s → P tr s → Q s a → step s a = some s' →
      P ((s, a) :: tr) s') (run : Run step s₀ tr s) (hQ : ∀ x ∈ tr, Q x.1 x.2) : P tr s := by
  induction run with
  | nil => exact h0
  | snoc hr hs ih =>
    exact hstep _ _ _ _ hr (ih fun x hx => hQ x (List.mem_cons_of_mem _ hx))
      (hQ _ List.mem_cons_self) hs

theorem prefix_of_append {pre post : List (σ × α)} {x : σ × α}
    (run : Run step s₀ (post ++ x :: pre) s) : Run step s₀ pre x.1 := by
  induction post generalizing s with
  | nil =>
    cases run with
    | snoc run _ => exact run
  | cons y post ih =>
    cases run with
    | snoc run _ => exact ih run

theorem prefix_of_mem (run : Run step s₀ tr s) {x : σ × α} (hx : x ∈ tr) :
    ∃ pre post s', tr = post ++ x :: pre ∧ Run step s₀ pre x.1 ∧ step x.1 x.2 = some s' := by
  induction run with
  | nil => cases hx
  | snoc hr hs ih =>
    rcases List.mem_cons.1 hx with rfl | hx
    · exact ⟨_, [], _, rfl, hr, hs⟩
    · obtain ⟨pre, post, s', rfl, hpre, hstep⟩ := ih hx
      exact ⟨pre, _ :: post, s', rfl, hpre, hstep⟩

end Run

/-! ## Executing a strategy -/

/-- The steps and the last state of an execution from `s` after the steps in `tr`. -/
def execFrom (step : σ → α → Option σ) :
    List (σ × α) → σ → List (σ → Option α) → Option (List (σ × α) × σ)
  | tr, s, [] => some (tr, s)
  | tr, s, choose :: acts =>
    match choose s with
    | none => none
    | some a =>
      match step s a with
      | none => none
      | some s' => execFrom step ((s, a) :: tr) s' acts

/-- The steps and the last state of an execution from `s`. -/
def exec (step : σ → α → Option σ) (s : σ) (acts : List (σ → Option α)) :
    Option (List (σ × α) × σ) :=
  execFrom step [] s acts

theorem run_of_execFrom {step : σ → α → Option σ} {s₀ : σ} :
    ∀ {acts : List (σ → Option α)} {tr : List (σ × α)} {s : σ} {r : List (σ × α) × σ},
      Run step s₀ tr s → execFrom step tr s acts = some r → Run step s₀ r.1 r.2
  | [], _, _, _, run, h => by
    simp only [execFrom, Option.some.injEq] at h
    subst h
    exact run
  | choose :: acts, tr, s, r, run, h => by
    simp only [execFrom] at h
    split at h
    · cases h
    · split at h
      · cases h
      · next a _ s' hs => exact run_of_execFrom (run.snoc hs) h

theorem run_of_exec {step : σ → α → Option σ} {s₀ : σ} {acts : List (σ → Option α)}
    {test : List (σ × α) × σ → Bool} (h : (exec step s₀ acts).any test = true) :
    ∃ tr s, Run step s₀ tr s ∧ test (tr, s) = true := by
  cases hr : exec step s₀ acts with
  | none => rw [hr] at h; cases h
  | some r =>
    rw [hr] at h
    exact ⟨r.1, r.2, run_of_execFrom .nil hr, h⟩

end NetSim.Lib
