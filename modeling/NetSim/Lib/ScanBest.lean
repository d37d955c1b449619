import Mathlib

/-!
# One-pass scans for a best element

A scan keeps the best element seen so far, and gives it up for the next one unless it beats it.
-/

namespace NetSim.Lib

universe u v

variable {α : Type u} {κ : Type v} [LinearOrder κ]

def better (keeps : α → α → Bool) : Option α → α → α
  | none, a => a
  | some b, a => if keeps b a then b else a

def scanBest (keeps : α → α → Bool) : Option α → List α → Option α
  | best, [] => best
  | best, a :: l => scanBest keeps (some (better keeps best a)) l

@[simp] theorem scanBest_nil (keeps : α → α → Bool) (best : Option α) :
    scanBest keeps best [] = best := rfl

@[simp] theorem scanBest_cons (keeps : α → α → Bool) (best : Option α) (a : α) (l : List α) :
    scanBest keeps best (a :: l) = scanBest keeps (some (better keeps best a)) l := rfl

theorem scanBest_mem_cons (keeps : α → α → Bool) {b : α} :
    ∀ {l : List α} {best : α}, scanBest keeps (some best) l = some b → b ∈ best :: l
  | [], best, h => by
    cases h
    exact List.mem_cons_self
  | a :: l, best, h => by
    rcases List.mem_cons.1 (scanBest_mem_cons keeps (l := l) h) with hbest | hmem
    · simp only [better] at hbest
      split at hbest
      · rw [hbest]
        exact List.mem_cons_self
      · rw [hbest]
        exact List.mem_cons_of_mem _ List.mem_cons_self
    · exact List.mem_cons_of_mem _ (List.mem_cons_of_mem _ hmem)

variable {keeps : α → α → Bool}

theorem scanBest_mem {b : α} :
    ∀ {l : List α}, scanBest keeps none l = some b → b ∈ l
  | _ :: _, h => scanBest_mem_cons keeps h

theorem scanBest_isSome (keeps : α → α → Bool) :
    ∀ (l : List α) (best : α), (scanBest keeps (some best) l).isSome
  | [], _ => rfl
  | a :: l, best => scanBest_isSome keeps l (better keeps (some best) a)

variable {l : List α}

theorem scanBest_eq_none : scanBest keeps none l = none ↔ l = [] := by
  cases l with
  | nil => exact iff_of_true rfl rfl
  | cons a l =>
    refine iff_of_false (fun h => ?_) (List.cons_ne_nil a l)
    have hsome := scanBest_isSome keeps l (better keeps none a)
    rw [scanBest_cons] at h
    rw [h] at hsome
    cases hsome

/-- An element with the greatest key among those that meet `P`. -/
structure IsBest (key : α → κ) (P : α → Prop) (l : List α) (a : α) : Prop where
  mem : a ∈ l
  holds : P a
  le : ∀ b ∈ l, P b → key b ≤ key a

variable {key : α → κ}

theorem IsBest.key_eq {P : α → Prop} {a b : α} (ha : IsBest key P l a)
    (hb : IsBest key P l b) : key a = key b :=
  le_antisymm (hb.le a ha.mem ha.holds) (ha.le b hb.mem hb.holds)

theorem IsBest.of_mem_iff {P : α → Prop} {m : List α} {a : α}
    (h : IsBest key P l a) (hmem : ∀ b, b ∈ l ↔ b ∈ m) : IsBest key P m a :=
  ⟨(hmem a).1 h.mem, h.holds, fun b hb => h.le b ((hmem b).2 hb)⟩

theorem scanBest_some (keeps : α → α → Bool) (key : α → κ) :
    ∀ (l : List α) (b : α),
      (∀ x ∈ b :: l, ∀ y ∈ b :: l, keeps x y = true ↔ key y < key x) →
      ∃ a, scanBest keeps (some b) l = some a ∧ IsBest key (fun _ => True) (b :: l) a
  | [], b, _ => ⟨b, rfl, List.mem_cons_self, trivial, fun c hc _ => by
      rw [List.mem_singleton.1 hc]⟩
  | x :: l, b, hkeeps => by
    have hb : b ∈ b :: x :: l := List.mem_cons_self
    have hx : x ∈ b :: x :: l := List.mem_cons_of_mem _ List.mem_cons_self
    have hl : ∀ y ∈ l, y ∈ b :: x :: l := fun y hy =>
      List.mem_cons_of_mem _ (List.mem_cons_of_mem _ hy)
    cases hk : keeps b x with
    | true =>
      have hlt := (hkeeps b hb x hx).1 hk
      have hsub : ∀ y ∈ b :: l, y ∈ b :: x :: l := fun y hy =>
        (List.mem_cons.1 hy).elim (fun h => h ▸ hb) (hl y)
      obtain ⟨a, hscan, hmem, -, hmax⟩ := scanBest_some keeps key l b
        fun y hy z hz => hkeeps y (hsub y hy) z (hsub z hz)
      refine ⟨a, ?_, hsub a hmem, trivial, fun c hc _ => ?_⟩
      · rw [scanBest_cons, better, if_pos hk, hscan]
      · rcases List.mem_cons.1 hc with rfl | hc
        · exact hmax c List.mem_cons_self trivial
        · rcases List.mem_cons.1 hc with rfl | hc
          · exact hlt.le.trans (hmax b List.mem_cons_self trivial)
          · exact hmax c (List.mem_cons_of_mem _ hc) trivial
    | false =>
      have hle : key b ≤ key x := le_of_not_gt fun hlt => by
        rw [(hkeeps b hb x hx).2 hlt] at hk
        cases hk
      obtain ⟨a, hscan, hmem, -, hmax⟩ := scanBest_some keeps key l x
        fun y hy z hz => hkeeps y (List.mem_cons_of_mem _ hy) z (List.mem_cons_of_mem _ hz)
      refine ⟨a, ?_, List.mem_cons_of_mem _ hmem, trivial, fun c hc _ => ?_⟩
      · rw [scanBest_cons, better, hk, if_neg Bool.false_ne_true, hscan]
      · rcases List.mem_cons.1 hc with rfl | hc
        · exact hle.trans (hmax x List.mem_cons_self trivial)
        · exact hmax c hc trivial

theorem scanBest_filter {P : α → Bool}
    (hkeeps : ∀ x ∈ l, ∀ y ∈ l, keeps x y = true ↔ key y < key x) :
    (∃ a, scanBest keeps none (l.filter P) = some a ∧ IsBest key (fun x => P x = true) l a) ∨
      scanBest keeps none (l.filter P) = none ∧ ∀ x ∈ l, P x = false := by
  cases hfilter : l.filter P with
  | nil =>
    right
    refine ⟨rfl, fun x hx => ?_⟩
    have hnot := List.filter_eq_nil_iff.1 hfilter x hx
    exact Bool.eq_false_iff.2 hnot
  | cons b rest =>
    left
    have hsub : ∀ x ∈ b :: rest, x ∈ l ∧ P x = true := fun x hx =>
      List.mem_filter.1 (hfilter ▸ hx)
    obtain ⟨a, hscan, hmem, -, hmax⟩ := scanBest_some keeps key rest b
      fun x hx y hy => hkeeps x (hsub x hx).1 y (hsub y hy).1
    refine ⟨a, hscan, (hsub a hmem).1, (hsub a hmem).2, fun c hc hP => ?_⟩
    exact hmax c (hfilter ▸ List.mem_filter.2 ⟨hc, hP⟩) trivial

end NetSim.Lib
