import Mathlib

/-!
# Lists of half-open intervals

Non-empty intervals `[lo, hi)` in increasing order. `coalesce` joins the ones that touch: no list of
intervals that covers the same numbers is shorter.
-/

namespace NetSim.Lib

/-- The numbers from `lo` up to `hi`, without `hi`. -/
structure Interval where
  lo : Nat
  hi : Nat
deriving DecidableEq

/-- `n` lies in one of the intervals. -/
def Covers (l : List Interval) (n : Nat) : Prop := ∃ i ∈ l, i.lo ≤ n ∧ n < i.hi

structure Ordered (l : List Interval) : Prop where
  nonempty : ∀ i ∈ l, i.lo < i.hi
  sorted : l.Pairwise fun i j => i.hi ≤ j.lo

structure Separated (l : List Interval) : Prop where
  nonempty : ∀ i ∈ l, i.lo < i.hi
  gaps : l.Pairwise fun i j => i.hi < j.lo

def extent (l : List Interval) : Nat := (l.map fun i => i.hi - i.lo).sum

/-- `coalesce` of a list that starts with `cur`. -/
def coalesceFrom : Interval → List Interval → List Interval
  | cur, [] => [cur]
  | cur, i :: rest =>
    if i.lo = cur.hi then coalesceFrom ⟨cur.lo, i.hi⟩ rest else cur :: coalesceFrom i rest

def coalesce : List Interval → List Interval
  | [] => []
  | i :: rest => coalesceFrom i rest

variable {i j cur : Interval} {l rest more : List Interval} {n : Nat}

/-! ## Ordered lists -/

@[simp] theorem covers_nil (n : Nat) : ¬Covers [] n := by simp [Covers]

@[simp] theorem covers_cons : Covers (i :: l) n ↔ (i.lo ≤ n ∧ n < i.hi) ∨ Covers l n := by
  simp [Covers]

@[simp] theorem extent_cons : extent (i :: l) = i.hi - i.lo + extent l := by simp [extent]

theorem Ordered.tail (h : Ordered (i :: l)) : Ordered l :=
  ⟨fun j hj => h.nonempty j (List.mem_cons_of_mem _ hj), (List.pairwise_cons.1 h.sorted).2⟩

theorem Ordered.sublist {l' : List Interval} (h : Ordered l) (hsub : l'.Sublist l) : Ordered l' :=
  ⟨fun j hj => h.nonempty j (hsub.subset hj), h.sorted.sublist hsub⟩

theorem Ordered.lo_lt_hi (h : Ordered (i :: l)) : i.lo < i.hi := h.nonempty i List.mem_cons_self

theorem Ordered.head_le (h : Ordered (i :: l)) (hj : j ∈ l) : i.hi ≤ j.lo :=
  (List.pairwise_cons.1 h.sorted).1 j hj

theorem Ordered.exists_extent_le (h : Ordered (i :: l)) :
    ∃ j ∈ i :: l, i.lo + extent (i :: l) ≤ j.hi := by
  induction l generalizing i with
  | nil =>
    have hlt := h.lo_lt_hi
    refine ⟨i, List.mem_cons_self, ?_⟩
    simp [extent]
    omega
  | cons k l ih =>
    obtain ⟨j, hj, hle⟩ := ih h.tail
    have hlt := h.lo_lt_hi
    have hnext := h.head_le List.mem_cons_self
    refine ⟨j, List.mem_cons_of_mem _ hj, ?_⟩
    rw [extent_cons]
    omega

theorem Ordered.join (h : Ordered (cur :: i :: rest)) : Ordered (⟨cur.lo, i.hi⟩ :: rest) := by
  have hcur := h.lo_lt_hi
  have hi := h.tail.lo_lt_hi
  have hnext := h.head_le List.mem_cons_self
  constructor
  · intro k hk
    rcases List.mem_cons.1 hk with rfl | hk
    · change cur.lo < i.hi
      omega
    · exact h.nonempty k (by simp [hk])
  · exact List.pairwise_cons.2 ⟨fun k hk => h.tail.head_le hk, h.tail.tail.sorted⟩

/-! ## Joining -/

theorem coalesceFrom_cons (cur i : Interval) (rest : List Interval) :
    coalesceFrom cur (i :: rest) =
      if i.lo = cur.hi then coalesceFrom ⟨cur.lo, i.hi⟩ rest else cur :: coalesceFrom i rest := rfl

theorem coalesceFrom_ne_nil (cur : Interval) (rest : List Interval) :
    coalesceFrom cur rest ≠ [] := by
  induction rest generalizing cur with
  | nil => simp [coalesceFrom]
  | cons i rest ih =>
    rw [coalesceFrom_cons]
    split
    · exact ih _
    · simp

theorem covers_coalesceFrom (h : Ordered (cur :: rest)) (n : Nat) :
    Covers (coalesceFrom cur rest) n ↔ Covers (cur :: rest) n := by
  induction rest generalizing cur with
  | nil => rfl
  | cons i rest ih =>
    rw [coalesceFrom_cons]
    split
    · next htouch =>
      have hcur := h.lo_lt_hi
      have hi := h.tail.lo_lt_hi
      rw [ih h.join]
      simp only [covers_cons]
      constructor
      · rintro (hn | hn)
        · by_cases hlt : n < cur.hi
          · exact Or.inl ⟨hn.1, hlt⟩
          · exact Or.inr (Or.inl ⟨by omega, hn.2⟩)
        · exact Or.inr (Or.inr hn)
      · rintro (hn | hn | hn)
        · exact Or.inl ⟨hn.1, by omega⟩
        · exact Or.inl ⟨by omega, hn.2⟩
        · exact Or.inr hn
    · rw [covers_cons, ih h.tail, covers_cons, covers_cons, covers_cons]

theorem le_of_mem_coalesceFrom (h : Ordered (cur :: rest)) (hj : j ∈ coalesceFrom cur rest) :
    cur.lo ≤ j.lo := by
  induction rest generalizing cur with
  | nil =>
    obtain rfl : j = cur := by simpa [coalesceFrom] using hj
    exact Nat.le_refl _
  | cons i rest ih =>
    rw [coalesceFrom_cons] at hj
    split at hj
    · have hle := ih h.join hj
      exact hle
    · rcases List.mem_cons.1 hj with rfl | hj
      · exact Nat.le_refl _
      · have hle := ih h.tail hj
        have hcur := h.lo_lt_hi
        have hnext := h.head_le List.mem_cons_self
        omega

theorem separated_coalesceFrom (h : Ordered (cur :: rest)) : Separated (coalesceFrom cur rest) := by
  induction rest generalizing cur with
  | nil => exact ⟨fun j hj => h.nonempty j hj, by simp [coalesceFrom]⟩
  | cons i rest ih =>
    rw [coalesceFrom_cons]
    split
    · exact ih h.join
    · next hgap =>
      have hrest := ih h.tail
      constructor
      · intro j hj
        rcases List.mem_cons.1 hj with rfl | hj
        · exact h.lo_lt_hi
        · exact hrest.nonempty j hj
      · refine List.pairwise_cons.2 ⟨fun j hj => ?_, hrest.gaps⟩
        have hle := le_of_mem_coalesceFrom h.tail hj
        have hnext := h.head_le List.mem_cons_self
        omega

theorem covers_coalesce (h : Ordered l) (n : Nat) : Covers (coalesce l) n ↔ Covers l n := by
  cases l with
  | nil => rfl
  | cons i rest => exact covers_coalesceFrom h n

theorem separated_coalesce (h : Ordered l) : Separated (coalesce l) := by
  cases l with
  | nil => exact ⟨by simp [coalesce], by simp [coalesce]⟩
  | cons i rest => exact separated_coalesceFrom h

theorem coalesceFrom_append (h : ((cur :: l).map Interval.hi).getLast? ≠ some i.lo) :
    coalesceFrom cur (l ++ i :: more) = coalesceFrom cur l ++ coalesceFrom i more := by
  induction l generalizing cur with
  | nil =>
    have hne : ¬i.lo = cur.hi := fun heq => h (by simp [heq])
    simp [coalesceFrom, hne]
  | cons k l ih =>
    rw [List.cons_append, coalesceFrom_cons, coalesceFrom_cons]
    split
    · exact ih (by simpa using h)
    · rw [ih (by simpa using h)]
      rfl

theorem Separated.not_covers_hi (h : Separated l) (hi : i ∈ l) : ¬Covers l i.hi := by
  rintro ⟨j, hj, hle, hlt⟩
  have hpos := h.nonempty i hi
  have hgaps := List.pairwise_iff_get.1 h.gaps
  obtain ⟨a, rfl⟩ := List.get_of_mem hi
  obtain ⟨b, rfl⟩ := List.get_of_mem hj
  rcases lt_trichotomy a b with hab | rfl | hab
  · have hgap := hgaps a b hab
    omega
  · omega
  · have hgap := hgaps b a hab
    omega

theorem Separated.length_le {blocks : List Interval} (h : Separated l)
    (hsame : ∀ n, Covers blocks n ↔ Covers l n) : l.length ≤ blocks.length := by
  -- every interval of `l` starts in some interval of `blocks`
  have hstart : ∀ a : Fin l.length, ∃ b : Fin blocks.length,
      (blocks.get b).lo ≤ (l.get a).lo ∧ (l.get a).lo < (blocks.get b).hi := by
    intro a
    have hmem := l.get_mem a
    obtain ⟨i, hi, hle, hlt⟩ := (hsame (l.get a).lo).2
      ⟨l.get a, hmem, Nat.le_refl _, h.nonempty _ hmem⟩
    obtain ⟨b, rfl⟩ := List.get_of_mem hi
    exact ⟨b, hle, hlt⟩
  choose f hf using hstart
  -- an interval with two of the starts would cover the number missing between them
  have hno : ∀ a a' : Fin l.length, a < a' → f a ≠ f a' := by
    intro a a' hlt heq
    have hgap := List.pairwise_iff_get.1 h.gaps a a' hlt
    have hmem := l.get_mem a
    have hpos := h.nonempty _ hmem
    refine h.not_covers_hi hmem ((hsame _).1 ⟨blocks.get (f a), blocks.get_mem _, ?_, ?_⟩)
    · have := (hf a).1
      omega
    · have := (hf a').2
      rw [heq]
      omega
  have hinj : Function.Injective f := by
    intro a a' heq
    rcases lt_trichotomy a a' with hlt | rfl | hlt
    · exact absurd heq (hno a a' hlt)
    · rfl
    · exact absurd heq.symm (hno a' a hlt)
  simpa using Fintype.card_le_of_injective f hinj

end NetSim.Lib
