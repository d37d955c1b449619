import Mathlib

/-!
# Loops over a list

A loop whose body may fail, and that may end early. A claim about every turn of the loop is
`EachTurn`, and the loop is proved with an invariant that may need a condition on each turn.
-/

namespace NetSim.Lib

universe u v

variable {σ : Type u} {α : Type v} {body : σ → α → Option σ} {stop : σ → Bool}

/-- The loop. It ends where `stop` holds after a turn, and fails where a turn fails. -/
def loop (body : σ → α → Option σ) (stop : σ → Bool) : σ → List α → Option σ
  | s, [] => some s
  | s, x :: rest =>
    match body s x with
    | none => none
    | some s' => if stop s' then some s' else loop body stop s' rest

/-- `P` holds of every turn of the loop that does not fail. -/
def EachTurn (body : σ → α → Option σ) (stop : σ → Bool) (P : σ → α → σ → Prop) :
    σ → List α → Prop
  | _, [] => True
  | s, x :: rest =>
    ∀ s', body s x = some s' → P s x s' ∧ (stop s' = false → EachTurn body stop P s' rest)

theorem EachTurn.of_forall {P : σ → α → σ → Prop} {l : List α} (h : ∀ x ∈ l, ∀ s s', P s x s')
    (s : σ) : EachTurn body stop P s l := by
  induction l generalizing s with
  | nil => trivial
  | cons x rest ih =>
    exact fun s' _ => ⟨h x List.mem_cons_self s s',
      fun _ => ih (fun y hy => h y (List.mem_cons_of_mem x hy)) s'⟩

theorem loop_invariant {I : σ → Prop} {P Q : σ → α → σ → Prop}
    (hbody : ∀ s x s', I s → Q s x s' → body s x = some s' → I s' ∧ P s x s') :
    ∀ {l : List α} {s s' : σ}, I s → EachTurn body stop Q s l → loop body stop s l = some s' →
      I s' ∧ EachTurn body stop P s l := by
  intro l
  induction l with
  | nil =>
    intro s s' hI _ hloop
    cases hloop
    exact ⟨hI, trivial⟩
  | cons x rest ih =>
    intro s s' hI hQ hloop
    rw [loop] at hloop
    split at hloop
    · cases hloop
    · next s1 hs1 =>
      obtain ⟨hx, hrest⟩ := hQ s1 hs1
      obtain ⟨hI1, hP⟩ := hbody s x s1 hI hx hs1
      split at hloop
      · next hstop =>
        cases hloop
        refine ⟨hI1, fun s2 hs2 => ?_⟩
        cases hs1.symm.trans hs2
        exact ⟨hP, fun hgo => absurd hstop (by rw [hgo]; exact Bool.false_ne_true)⟩
      · next hstop =>
        have hgo : stop s1 = false := by simpa using hstop
        obtain ⟨hI', hrest'⟩ := ih hI1 (hrest hgo) hloop
        refine ⟨hI', fun s2 hs2 => ?_⟩
        cases hs1.symm.trans hs2
        exact ⟨hP, fun _ => hrest'⟩

instance EachTurn.decidable {P : σ → α → σ → Prop} [∀ s x s', Decidable (P s x s')] :
    ∀ (s : σ) (l : List α), Decidable (EachTurn body stop P s l)
  | _, [] => isTrue trivial
  | s, x :: rest =>
    match h : body s x with
    | none => isTrue fun s' h' => by cases h.symm.trans h'
    | some s' =>
      have : Decidable (EachTurn body stop P s' rest) := EachTurn.decidable s' rest
      decidable_of_iff (P s x s' ∧ (stop s' = false → EachTurn body stop P s' rest))
        ⟨fun hturn s'' h' => by cases h.symm.trans h'; exact hturn, fun hturns => hturns s' h⟩

end NetSim.Lib
