import Mathlib

/-!
# Singly linked lists in a heap

`Holds s l` says that the cells reachable from the head are those of `l`, each with its address, and
that no other cell is allocated. A read or a write through a pointer to no cell fails.
-/

namespace NetSim.Lib

open Function

universe u

structure Cell (α : Type u) where
  val : α
  next : Option ℕ

structure LinkedList (α : Type u) where
  heap : ℕ → Option (Cell α)
  head : Option ℕ

namespace LinkedList

variable {α : Type u}

/-! ## Operations -/

def nil : LinkedList α := ⟨fun _ => none, none⟩

/-- The heap with `next` of the cell at `a` set. -/
def setNext (heap : ℕ → Option (Cell α)) (a : ℕ) (next : Option ℕ) : Option (ℕ → Option (Cell α)) :=
  (heap a).map fun cell => update heap a (some { cell with next := next })

/-- The pointer behind `prev`, or the head, is set. -/
def redirect (s : LinkedList α) (prev : Option ℕ) (next : Option ℕ) : Option (LinkedList α) :=
  match prev with
  | none => some { s with head := next }
  | some p => (setNext s.heap p next).map fun heap => { s with heap := heap }

/-- A new cell at `a`, between `prev` and `next`. -/
def link (s : LinkedList α) (prev : Option ℕ) (a : ℕ) (v : α) (next : Option ℕ) :
    Option (LinkedList α) :=
  redirect { s with heap := update s.heap a (some ⟨v, next⟩) } prev (some a)

/-- The cell at `a`, which is behind `prev`, is taken out and freed. -/
def unlink (s : LinkedList α) (prev : Option ℕ) (a : ℕ) : Option (LinkedList α) :=
  match s.heap a with
  | none => none
  | some cell =>
    (redirect s prev cell.next).map fun s => { s with heap := update s.heap a none }

/-- The pointer behind `prev`, or the head, is read. -/
def behind (s : LinkedList α) (prev : Option ℕ) : Option (Option ℕ) :=
  match prev with
  | none => some s.head
  | some p => (s.heap p).map Cell.next

/-! ## What a list holds -/

/-- The way from `p` to `q` leads through these cells. -/
def Seg (heap : ℕ → Option (Cell α)) : Option ℕ → List (ℕ × α) → Option ℕ → Prop
  | p, [], q => p = q
  | p, (a, v) :: l, q => p = some a ∧ ∃ next, heap a = some ⟨v, next⟩ ∧ Seg heap next l q

abbrev addrs (l : List (ℕ × α)) : List ℕ := l.map Prod.fst

/-- The list holds the cells of `l`, and no others are allocated. -/
structure Holds (s : LinkedList α) (l : List (ℕ × α)) : Prop where
  seg : Seg s.heap s.head l none
  nodup : (addrs l).Nodup
  allocated : ∀ a, s.heap a ≠ none ↔ a ∈ addrs l

def headAddr (l : List (ℕ × α)) : Option ℕ := l.head?.map Prod.fst

def lastAddr (l : List (ℕ × α)) : Option ℕ := l.getLast?.map Prod.fst

section Seg

variable {heap heap' : ℕ → Option (Cell α)} {p q : Option ℕ} {l l₁ l₂ : List (ℕ × α)} {a b : ℕ}
  {v w : α}

theorem seg_append : Seg heap p (l₁ ++ l₂) q ↔ ∃ m, Seg heap p l₁ m ∧ Seg heap m l₂ q := by
  induction l₁ generalizing p with
  | nil => simp [Seg]
  | cons x l₁ ih =>
    simp only [List.cons_append, Seg, ih]
    constructor
    · rintro ⟨hp, next, hcell, m, h1, h2⟩
      exact ⟨m, ⟨hp, next, hcell, h1⟩, h2⟩
    · rintro ⟨m, ⟨hp, next, hcell, h1⟩, h2⟩
      exact ⟨hp, next, hcell, m, h1, h2⟩

theorem Seg.congr (h : Seg heap p l q) (heq : ∀ a ∈ addrs l, heap' a = heap a) : Seg heap' p l q := by
  induction l generalizing p with
  | nil => exact h
  | cons x l ih =>
    obtain ⟨a, v⟩ := x
    obtain ⟨hp, next, hcell, hrest⟩ := h
    refine ⟨hp, next, (heq a List.mem_cons_self).trans hcell, ih hrest fun b hb => ?_⟩
    exact heq b (List.mem_cons_of_mem _ hb)

theorem Seg.update (h : Seg heap p l q) (ha : a ∉ addrs l) (cell : Option (Cell α)) :
    Seg (update heap a cell) p l q :=
  h.congr fun b hb => update_of_ne (by rintro rfl; exact ha hb) _ _

theorem Seg.eq_headAddr (h : Seg heap p l none) : p = headAddr l := by
  cases l with
  | nil => exact h
  | cons x l => exact h.1

theorem Seg.unique {l' : List (ℕ × α)} (h : Seg heap p l none) (h' : Seg heap p l' none) : l = l' := by
  induction l generalizing p l' with
  | nil =>
    obtain rfl : p = none := h
    cases l' with
    | nil => rfl
    | cons x l' => exact nomatch h'.1
  | cons x l ih =>
    obtain ⟨a, v⟩ := x
    obtain ⟨rfl, next, hcell, hrest⟩ := h
    cases l' with
    | nil => exact nomatch (show some a = none from h')
    | cons y l' =>
      obtain ⟨hab, next', hcell', hrest'⟩ := h'
      obtain rfl := Option.some.inj hab
      rw [hcell, Option.some.injEq, Cell.mk.injEq] at hcell'
      obtain ⟨rfl, rfl⟩ := hcell'
      rw [ih hrest hrest']

end Seg

/-! ## Cutting into a list -/

section Cut

variable {s : LinkedList α} {l₁ l₂ : List (ℕ × α)} {a : ℕ} {v : α} {m next : Option ℕ}

theorem lastAddr_nil : lastAddr ([] : List (ℕ × α)) = none := rfl

theorem lastAddr_concat (l : List (ℕ × α)) (x : ℕ × α) : lastAddr (l ++ [x]) = some x.1 := by
  simp [lastAddr]

theorem redirect_spec (hseg : Seg s.heap s.head l₁ m) (hnodup : (addrs l₁).Nodup) (next : Option ℕ) :
    ∃ s', redirect s (lastAddr l₁) next = some s' ∧ Seg s'.heap s'.head l₁ next ∧
      (∀ a, a ∉ addrs l₁ → s'.heap a = s.heap a) ∧ ∀ a, s'.heap a ≠ none ↔ s.heap a ≠ none := by
  rcases List.eq_nil_or_concat' l₁ with rfl | ⟨l₁, ⟨b, w⟩, rfl⟩
  · exact ⟨{ s with head := next }, rfl, rfl, fun _ _ => rfl, fun _ => Iff.rfl⟩
  · rw [lastAddr_concat]
    obtain ⟨m', h1, hb, next', hcell, -⟩ := seg_append.1 hseg
    have hnotMem : b ∉ addrs l₁ := by
      intro hmem
      rw [addrs, List.map_append, List.nodup_append] at hnodup
      exact hnodup.2.2 b hmem b (by simp) rfl
    refine ⟨{ s with heap := update s.heap b (some ⟨w, next⟩) }, ?_, ?_, ?_, ?_⟩
    · simp [redirect, setNext, hcell]
    · refine seg_append.2 ⟨m', h1.update hnotMem _, hb, next, ?_, rfl⟩
      exact update_self ..
    · intro a ha
      refine update_of_ne ?_ _ _
      rintro rfl
      exact ha (by simp)
    · intro a
      by_cases ha : a = b
      · subst ha
        simp [hcell]
      · simp [update_of_ne ha]

theorem link_spec (h : Holds s (l₁ ++ l₂)) (ha : s.heap a = none) (v : α) :
    ∃ s', link s (lastAddr l₁) a v (headAddr l₂) = some s' ∧ Holds s' (l₁ ++ (a, v) :: l₂) := by
  obtain ⟨m, h1, h2⟩ := seg_append.1 h.seg
  have hm := h2.eq_headAddr
  have hfresh : a ∉ addrs (l₁ ++ l₂) := fun hmem => (h.allocated a).2 hmem ha
  have hnodup := h.nodup
  rw [addrs, List.map_append, List.mem_append, not_or] at hfresh
  rw [addrs, List.map_append, List.nodup_append] at hnodup
  let s1 : LinkedList α := { s with heap := update s.heap a (some ⟨v, headAddr l₂⟩) }
  have hs1 : Seg s1.heap s1.head l₁ m := h1.update hfresh.1 _
  obtain ⟨s', hs', hseg, hkept, halloc⟩ := redirect_spec hs1 hnodup.1 (some a)
  refine ⟨s', hs', ?_, ?_, ?_⟩
  · refine seg_append.2 ⟨some a, hseg, rfl, headAddr l₂, ?_, ?_⟩
    · rw [hkept a hfresh.1]
      exact update_self ..
    · rw [← hm]
      have h2' : Seg s1.heap m l₂ none := h2.update hfresh.2 _
      exact h2'.congr fun b hb => hkept b fun hb1 => hnodup.2.2 b hb1 b hb rfl
  · rw [addrs, List.map_append, List.nodup_append]
    refine ⟨hnodup.1, List.nodup_cons.2 ⟨hfresh.2, hnodup.2.1⟩, ?_⟩
    intro b hb c hc
    rcases List.mem_cons.1 hc with rfl | hc
    · rintro rfl
      exact hfresh.1 hb
    · exact hnodup.2.2 b hb c hc
  · intro b
    rw [halloc b]
    by_cases hb : b = a
    · subst hb
      simp [s1]
    · rw [show s1.heap b = s.heap b from update_of_ne hb _ _, h.allocated b]
      simp [hb]

theorem unlink_spec (h : Holds s (l₁ ++ (a, v) :: l₂)) :
    ∃ s', unlink s (lastAddr l₁) a = some s' ∧ Holds s' (l₁ ++ l₂) := by
  obtain ⟨m, h1, hm, next, hcell, h2⟩ := seg_append.1 h.seg
  have hnodup := h.nodup
  rw [addrs, List.map_append, List.map_cons, List.nodup_append, List.nodup_cons] at hnodup
  obtain ⟨hnodup1, ⟨ha2, hnodup2⟩, hdisjoint⟩ := hnodup
  have ha1 : a ∉ addrs l₁ := fun hmem => hdisjoint a hmem a List.mem_cons_self rfl
  obtain ⟨s', hs', hseg, hkept, halloc⟩ := redirect_spec h1 hnodup1 next
  refine ⟨{ s' with heap := update s'.heap a none }, ?_, ?_, ?_, ?_⟩
  · simp [unlink, hcell, hs']
  · refine seg_append.2 ⟨next, hseg.update ha1 _, ?_⟩
    have h2' : Seg s'.heap next l₂ none :=
      h2.congr fun b hb => hkept b fun hb1 => hdisjoint b hb1 b (List.mem_cons_of_mem _ hb) rfl
    exact h2'.update ha2 _
  · rw [addrs, List.map_append, List.nodup_append]
    exact ⟨hnodup1, hnodup2, fun b hb c hc => hdisjoint b hb c (List.mem_cons_of_mem _ hc)⟩
  · intro b
    by_cases hb : b = a
    · subst hb
      simpa using ⟨fun w hw => ha1 (List.mem_map.2 ⟨_, hw, rfl⟩), fun w hw => ha2 (List.mem_map.2 ⟨_, hw, rfl⟩)⟩
    · have hkept' : update s'.heap a none b = s'.heap b := update_of_ne hb _ _
      dsimp only
      rw [hkept', halloc b, h.allocated b]
      simp [hb]

theorem Holds.heap_eq (h : Holds s (l₁ ++ (a, v) :: l₂)) : s.heap a = some ⟨v, headAddr l₂⟩ := by
  obtain ⟨m, -, -, next, hcell, h2⟩ := seg_append.1 h.seg
  rw [hcell, h2.eq_headAddr]

theorem Holds.head_eq (h : Holds s l₁) : s.head = headAddr l₁ := h.seg.eq_headAddr

theorem Holds.behind_eq (h : Holds s (l₁ ++ l₂)) : behind s (lastAddr l₁) = some (headAddr l₂) := by
  rcases List.eq_nil_or_concat' l₁ with rfl | ⟨l₁, ⟨b, w⟩, rfl⟩
  · exact congrArg some h.head_eq
  · rw [List.append_assoc] at h
    rw [lastAddr_concat]
    change (s.heap b).map Cell.next = some (headAddr l₂)
    rw [Holds.heap_eq h]
    rfl

theorem holds_nil : Holds (nil : LinkedList α) [] :=
  ⟨rfl, List.nodup_nil, fun a => by simp [nil]⟩

end Cut

end LinkedList

end NetSim.Lib
