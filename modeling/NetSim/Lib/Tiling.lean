import Mathlib

/-!
# Intervals laid end to end

`Tiles lo hi start l stop`: the non-empty intervals `[lo x, hi x)` of `l` lie end to end and fill
`[start, stop)`, as the parts of a segmented stream do.
-/

namespace NetSim.Lib

universe u v

variable {α : Type u} {β : Type v} (lo hi : α → Nat)

/-- The intervals of `l` lie end to end and fill `[start, stop)`. -/
def Tiles : Nat → List α → Nat → Prop
  | start, [], stop => start = stop
  | start, x :: l, stop => lo x = start ∧ lo x < hi x ∧ Tiles (hi x) l stop

variable {lo hi} {start stop n : Nat} {x y : α} {l l₁ l₂ : List α}

@[simp] theorem tiles_nil : Tiles lo hi start [] stop ↔ start = stop := Iff.rfl

@[simp] theorem tiles_cons :
    Tiles lo hi start (x :: l) stop ↔ lo x = start ∧ lo x < hi x ∧ Tiles lo hi (hi x) l stop :=
  Iff.rfl

theorem tiles_append :
    Tiles lo hi start (l₁ ++ l₂) stop ↔
      ∃ mid, Tiles lo hi start l₁ mid ∧ Tiles lo hi mid l₂ stop := by
  induction l₁ generalizing start with
  | nil => simp
  | cons x l₁ ih =>
    rw [List.cons_append, tiles_cons, ih]
    constructor
    · rintro ⟨hlo, hlt, mid, h1, h2⟩
      exact ⟨mid, ⟨hlo, hlt, h1⟩, h2⟩
    · rintro ⟨mid, ⟨hlo, hlt, h1⟩, h2⟩
      exact ⟨hlo, hlt, mid, h1, h2⟩

namespace Tiles

section

variable (h : Tiles lo hi start l stop)

include h

theorem le : start ≤ stop := by
  induction l generalizing start with
  | nil => exact Nat.le_of_eq h
  | cons x l ih =>
    obtain ⟨hlo, hlt, h⟩ := h
    have := ih h
    omega

theorem concat (hlo : lo x = stop) (hlt : lo x < hi x) : Tiles lo hi start (l ++ [x]) (hi x) := by
  rw [tiles_append]
  exact ⟨stop, h, hlo, hlt, rfl⟩

theorem mem_bounds (hx : x ∈ l) : start ≤ lo x ∧ lo x < hi x ∧ hi x ≤ stop := by
  induction l generalizing start with
  | nil => cases hx
  | cons y l ih =>
    obtain ⟨hlo, hlt, h⟩ := h
    rcases List.mem_cons.1 hx with rfl | hx
    · exact ⟨Nat.le_of_eq hlo.symm, hlt, h.le⟩
    · obtain ⟨h1, h2, h3⟩ := ih h hx
      exact ⟨by omega, h2, h3⟩

theorem pairwise : l.Pairwise fun x y => hi x ≤ lo y := by
  induction l generalizing start with
  | nil => exact List.Pairwise.nil
  | cons x l ih =>
    obtain ⟨-, -, h⟩ := h
    exact List.pairwise_cons.2 ⟨fun y hy => (h.mem_bounds hy).1, ih h⟩

theorem exists_mem (h1 : start ≤ n) (h2 : n < stop) : ∃ x ∈ l, lo x ≤ n ∧ n < hi x := by
  induction l generalizing start with
  | nil =>
    have : start = stop := h
    omega
  | cons x l ih =>
    obtain ⟨hlo, hlt, h⟩ := h
    by_cases hn : n < hi x
    · exact ⟨x, List.mem_cons_self, by omega, hn⟩
    · obtain ⟨y, hy, hyn⟩ := ih h (by omega)
      exact ⟨y, List.mem_cons_of_mem _ hy, hyn⟩

theorem eq_of_overlap (hx : x ∈ l) (hy : y ∈ l) (h1 : lo x ≤ lo y) (h2 : lo y < hi x) : x = y := by
  induction l generalizing start with
  | nil => cases hx
  | cons z l ih =>
    obtain ⟨hlo, hlt, h⟩ := h
    rcases List.mem_cons.1 hx with rfl | hxl
    · rcases List.mem_cons.1 hy with rfl | hyl
      · rfl
      · have := (h.mem_bounds hyl).1
        omega
    · rcases List.mem_cons.1 hy with rfl | hyl
      · have := (h.mem_bounds hxl).1
        omega
      · exact ih h hxl hyl

theorem eq_of_lo_eq (hx : x ∈ l) (hy : y ∈ l) (hxy : lo x = lo y) : x = y :=
  h.eq_of_overlap hx hy (Nat.le_of_eq hxy) (hxy ▸ (h.mem_bounds hx).2.1)

theorem filter_lt (h1 : start ≤ n) :
    ∃ start', start' ≤ n ∧ start ≤ start' ∧
      Tiles lo hi start' (l.filter fun x => n < hi x) stop := by
  induction l generalizing start with
  | nil => exact ⟨start, h1, Nat.le_refl _, h⟩
  | cons x l ih =>
    obtain ⟨hlo, hlt, h⟩ := h
    by_cases hn : n < hi x
    · have hall : l.filter (fun y => n < hi y) = l := by
        rw [List.filter_eq_self]
        intro y hy
        have := h.mem_bounds hy
        simp only [decide_eq_true_eq]
        omega
      refine ⟨start, h1, Nat.le_refl _, ?_⟩
      rw [List.filter_cons_of_pos (by simpa using hn), hall]
      exact ⟨hlo, hlt, h⟩
    · obtain ⟨start', h3, h4, h'⟩ := ih h (by omega)
      refine ⟨start', h3, by omega, ?_⟩
      rw [List.filter_cons_of_neg (by simpa using hn)]
      exact h'

theorem eq_filter {mid : Nat} {l' : List α}
    (h' : Tiles lo hi start l' mid) (hsub : ∀ x ∈ l', x ∈ l) : l' = l.filter fun x => lo x < mid := by
  induction l generalizing start l' with
  | nil =>
    cases l' with
    | nil => rfl
    | cons y l' => exact absurd (hsub y List.mem_cons_self) List.not_mem_nil
  | cons x l ih =>
    cases l' with
    | nil =>
      have hmid : start = mid := h'
      symm
      rw [List.filter_eq_nil_iff]
      intro z hz
      have := (h.mem_bounds hz).1
      simp only [decide_eq_true_eq]
      omega
    | cons y l' =>
      obtain ⟨hlo', hlt', h'⟩ := h'
      have hxy : y = x := by
        apply h.eq_of_lo_eq (hsub y List.mem_cons_self) List.mem_cons_self
        exact hlo'.trans h.1.symm
      subst hxy
      have hmid := h'.le
      rw [List.filter_cons_of_pos (by simp only [decide_eq_true_eq]; omega)]
      congr 1
      apply ih h.2.2 h'
      intro z hz
      have hzlo := (h'.mem_bounds hz).1
      rcases List.mem_cons.1 (hsub z (List.mem_cons_of_mem _ hz)) with rfl | hzl
      · omega
      · exact hzl

end

end Tiles

theorem tiles_sum {len : α → Nat} (h : Tiles lo (fun x => lo x + len x) start l stop) :
    stop = start + (l.map len).sum := by
  induction l generalizing start with
  | nil => exact h.symm
  | cons x l ih =>
    obtain ⟨hlo, -, h⟩ := h
    rw [ih h, List.map_cons, List.sum_cons, ← hlo]
    exact Nat.add_assoc _ _ _

namespace Tiles

end Tiles

end NetSim.Lib
