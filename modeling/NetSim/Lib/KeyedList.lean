import Mathlib

/-!
# Lists searched by key

A linked list that is searched from its head for the first element with a given key. Keys are
distinct only where a lemma says so.
-/

namespace NetSim.Lib

universe u v

variable {α : Type u} {κ : Type v} [DecidableEq κ] (key : α → κ)

/-- The first element with key `k`. -/
def lookup (k : κ) (l : List α) : Option α := l.find? fun a => key a = k

/-- `f` applied to the first element with key `k`, if there is one. -/
def modifyFirst (k : κ) (f : α → α) : List α → List α
  | [] => []
  | a :: l => if key a = k then f a :: l else a :: modifyFirst k f l

/-- The list without its first element with key `k`. -/
def eraseFirst (k : κ) (l : List α) : List α := l.eraseP fun a => key a = k

variable {key} {k j : κ} {a : α} {l : List α} {f : α → α}

@[simp] theorem lookup_nil : lookup key k ([] : List α) = none := rfl

theorem lookup_cons : lookup key k (a :: l) = if key a = k then some a else lookup key k l := by
  unfold lookup
  by_cases h : key a = k <;> simp [h]

theorem lookup_some (h : lookup key k l = some a) : a ∈ l ∧ key a = k := by
  exact ⟨List.mem_of_find?_eq_some h, by simpa using List.find?_some h⟩

theorem lookup_eq_none : lookup key k l = none ↔ ∀ a ∈ l, key a ≠ k := by
  simp [lookup]

theorem lookup_append_single (a : α) :
    lookup key k (l ++ [a]) =
      match lookup key k l with
      | some b => some b
      | none => if key a = k then some a else none := by
  induction l with
  | nil => simp [lookup_cons]
  | cons b l ih =>
    rw [List.cons_append, lookup_cons, lookup_cons, ih]
    split <;> rfl

theorem map_modifyFirst {β : Type*} {g : α → β} (hf : ∀ a, g (f a) = g a) :
    (modifyFirst key k f l).map g = l.map g := by
  induction l with
  | nil => rfl
  | cons a l ih =>
    unfold modifyFirst
    split <;> simp [hf, ih]

@[simp] theorem map_key_modifyFirst (hf : ∀ a, key (f a) = key a) :
    (modifyFirst key k f l).map key = l.map key := map_modifyFirst hf

theorem lookup_map (hf : ∀ a, key (f a) = key a) :
    lookup key k (l.map f) = (lookup key k l).map f := by
  induction l with
  | nil => rfl
  | cons a l ih =>
    rw [List.map_cons, lookup_cons, lookup_cons, hf, ih]
    split <;> rfl

theorem lookup_modifyFirst_of_key (hf : ∀ a, key a = k → key (f a) = k) :
    lookup key j (modifyFirst key k f l) =
      if j = k then (lookup key k l).map f else lookup key j l := by
  induction l with
  | nil => simp [modifyFirst]
  | cons a l ih =>
    unfold modifyFirst
    by_cases hk : key a = k
    · rw [if_pos hk, lookup_cons, hf a hk, lookup_cons, lookup_cons, if_pos hk, hk]
      by_cases hj : j = k
      · simp [hj]
      · rw [if_neg hj, if_neg (Ne.symm hj), if_neg (Ne.symm hj)]
    · rw [if_neg hk, lookup_cons, lookup_cons, lookup_cons, if_neg hk, ih]
      by_cases hj : j = k
      · rw [if_pos hj, if_pos hj, hj, if_neg hk]
      · rw [if_neg hj, if_neg hj]

theorem lookup_modifyFirst (hf : ∀ a, key (f a) = key a) :
    lookup key j (modifyFirst key k f l) =
      if j = k then (lookup key k l).map f else lookup key j l :=
  lookup_modifyFirst_of_key fun a ha => (hf a).trans ha

theorem mem_modifyFirst {b : α} (h : b ∈ modifyFirst key k f l) :
    b ∈ l ∨ ∃ a, lookup key k l = some a ∧ b = f a := by
  induction l with
  | nil => cases h
  | cons a l ih =>
    unfold modifyFirst at h
    rw [lookup_cons]
    split at h
    · next hk =>
      rcases List.mem_cons.1 h with rfl | h
      · exact Or.inr ⟨a, if_pos hk, rfl⟩
      · exact Or.inl (List.mem_cons_of_mem _ h)
    · next hk =>
      rcases List.mem_cons.1 h with rfl | h
      · exact Or.inl List.mem_cons_self
      · rcases ih h with h | ⟨c, hc, rfl⟩
        · exact Or.inl (List.mem_cons_of_mem _ h)
        · exact Or.inr ⟨c, by rw [if_neg hk, hc], rfl⟩

theorem eraseFirst_subset {b : α} (h : b ∈ eraseFirst key k l) : b ∈ l :=
  List.mem_of_mem_eraseP h

theorem lookup_eraseFirst_ne (h : j ≠ k) : lookup key j (eraseFirst key k l) = lookup key j l := by
  induction l with
  | nil => rfl
  | cons a l ih =>
    unfold eraseFirst at ih ⊢
    rw [List.eraseP_cons]
    by_cases hk : key a = k
    · rw [decide_eq_true hk, cond_true, lookup_cons, if_neg (by rw [hk]; exact Ne.symm h)]
    · rw [decide_eq_false hk, cond_false, lookup_cons, lookup_cons, ih]

/-! ## Distinct keys -/

section

variable (hl : (l.map key).Nodup)

include hl

theorem lookup_of_mem (h : a ∈ l) : lookup key (key a) l = some a := by
  induction l with
  | nil => cases h
  | cons b l ih =>
    rw [List.map_cons, List.nodup_cons] at hl
    rw [lookup_cons]
    rcases List.mem_cons.1 h with rfl | h
    · exact if_pos rfl
    · rw [if_neg, ih hl.2 h]
      intro e
      exact hl.1 (e ▸ List.mem_map_of_mem h)

theorem lookup_iff_mem : lookup key k l = some a ↔ a ∈ l ∧ key a = k := by
  constructor
  · exact lookup_some
  · rintro ⟨h, rfl⟩
    exact lookup_of_mem hl h

theorem lookup_eraseFirst_self : lookup key k (eraseFirst key k l) = none := by
  induction l with
  | nil => rfl
  | cons a l ih =>
    rw [List.map_cons, List.nodup_cons] at hl
    unfold eraseFirst at ih ⊢
    rw [List.eraseP_cons]
    by_cases hk : key a = k
    · rw [decide_eq_true hk, cond_true, lookup_eq_none]
      intro b hb e
      exact hl.1 (by rw [hk, ← e]; exact List.mem_map_of_mem hb)
    · rw [decide_eq_false hk, cond_false, lookup_cons, if_neg hk, ih hl.2]

theorem nodup_map_eraseFirst : ((eraseFirst key k l).map key).Nodup :=
  hl.sublist (List.eraseP_sublist.map key)

theorem nodup_append_single (h : lookup key (key a) l = none) : ((l ++ [a]).map key).Nodup := by
  rw [List.map_append, List.map_singleton, List.nodup_append]
  refine ⟨hl, List.nodup_singleton _, ?_⟩
  intro x hx y hy e
  obtain ⟨b, hb, rfl⟩ := List.mem_map.1 hx
  rw [List.mem_singleton.1 hy] at e
  exact lookup_eq_none.1 h b hb e

theorem mem_modifyFirst_iff {b : α} (hf : ∀ a, key (f a) = key a) (ha : lookup key k l = some a) :
    b ∈ modifyFirst key k f l ↔ b = f a ∨ b ∈ l ∧ key b ≠ k := by
  have hl' : ((modifyFirst key k f l).map key).Nodup := by rwa [map_key_modifyFirst hf]
  have hkey := (lookup_some ha).2
  have hmem : b ∈ modifyFirst key k f l ↔ lookup key (key b) (modifyFirst key k f l) = some b :=
    ⟨lookup_of_mem hl', fun h => (lookup_some h).1⟩
  rw [hmem, lookup_modifyFirst hf]
  by_cases hb : key b = k
  · rw [if_pos hb, ha, Option.map_some, Option.some.injEq]
    constructor
    · exact fun h => .inl h.symm
    · rintro (h | ⟨-, hne⟩)
      · exact h.symm
      · exact absurd hb hne
  · rw [if_neg hb]
    constructor
    · exact fun h => .inr ⟨(lookup_some h).1, hb⟩
    · rintro (rfl | ⟨h, -⟩)
      · exact absurd ((hf a).trans hkey) hb
      · exact lookup_of_mem hl h

theorem modifyFirst_eq_map :
    modifyFirst key k f l = l.map fun a => if key a = k then f a else a := by
  induction l with
  | nil => rfl
  | cons a l ih =>
    rw [List.map_cons, List.nodup_cons] at hl
    unfold modifyFirst
    rw [List.map_cons]
    split
    · next hk =>
      congr 1
      refine (List.map_id' l).symm.trans (List.map_congr_left fun b hb => (if_neg fun hbk => ?_).symm)
      exact hl.1 (hk.trans hbk.symm ▸ List.mem_map_of_mem hb)
    · rw [ih hl.2]

theorem mem_eraseFirst_iff {b : α} : b ∈ eraseFirst key k l ↔ b ∈ l ∧ key b ≠ k := by
  constructor
  · intro h
    refine ⟨eraseFirst_subset h, fun hb => ?_⟩
    have hlookup := lookup_of_mem (nodup_map_eraseFirst hl) h
    rw [hb, lookup_eraseFirst_self hl] at hlookup
    cases hlookup
  · rintro ⟨h, hb⟩
    have hlookup := lookup_of_mem hl h
    rw [← lookup_eraseFirst_ne hb] at hlookup
    exact (lookup_some hlookup).1

end

theorem lookup_filter_ne (h : j ≠ k) :
    lookup key j (l.filter fun a => key a ≠ k) = lookup key j l := by
  induction l with
  | nil => rfl
  | cons a l ih =>
    rw [List.filter_cons, lookup_cons]
    by_cases hk : key a = k
    · rw [if_neg (by simp [hk]), if_neg (by rw [hk]; exact Ne.symm h), ih]
    · rw [if_pos (by simp [hk]), lookup_cons, ih]

theorem nodup_modifyFirst (hf : ∀ a, key a = k → key (f a) = k) (hl : (l.map key).Nodup) :
    ((modifyFirst key k f l).map key).Nodup := by
  have hkeys : (modifyFirst key k f l).map key = l.map key := by
    clear hl
    induction l with
    | nil => rfl
    | cons a l ih =>
      unfold modifyFirst
      split
      · next hk => rw [List.map_cons, List.map_cons, hf a hk, hk]
      · rw [List.map_cons, List.map_cons, ih]
  rwa [hkeys]

omit [DecidableEq κ] in
theorem map_key_modify {i : Nat} (hi : l[i]? = some a) (hf : key (f a) = key a) :
    (l.modify i f).map key = l.map key := by
  induction l generalizing i with
  | nil => cases hi
  | cons b l ih =>
    cases i with
    | zero =>
      cases hi
      rw [List.modify_zero_cons, List.map_cons, List.map_cons, hf]
    | succ i => rw [List.modify_succ_cons, List.map_cons, List.map_cons, ih hi]

theorem lookup_modify {i : Nat} (hl : (l.map key).Nodup) (hi : l[i]? = some a)
    (hf : key (f a) = key a) :
    lookup key k (l.modify i f) = if k = key a then some (f a) else lookup key k l := by
  induction l generalizing i with
  | nil => cases hi
  | cons b l ih =>
    rw [List.map_cons, List.nodup_cons] at hl
    cases i with
    | zero =>
      cases hi
      rw [List.modify_zero_cons, lookup_cons, lookup_cons, hf]
      by_cases hk : key a = k
      · rw [if_pos hk, if_pos hk.symm]
      · rw [if_neg hk, if_neg (Ne.symm hk), if_neg hk]
    | succ i =>
      rw [List.modify_succ_cons, lookup_cons, lookup_cons, ih hl.2 hi]
      by_cases hk : key b = k
      · have hmem : key a ∈ l.map key := List.mem_map_of_mem (List.mem_of_getElem? hi)
        rw [if_pos hk, if_pos hk, if_neg]
        rintro rfl
        exact hl.1 (hk ▸ hmem)
      · rw [if_neg hk, if_neg hk]

/-! ## Keys that are positions -/

theorem perm_range {key : α → Nat} {n : Nat} (hl : (l.map key).Nodup) (hlt : ∀ a ∈ l, key a < n)
    (hall : ∀ i < n, ∃ a ∈ l, key a = i) : (l.map key).Perm (List.range n) := by
  rw [List.perm_ext_iff_of_nodup hl List.nodup_range]
  intro i
  rw [List.mem_map, List.mem_range]
  constructor
  · rintro ⟨a, ha, rfl⟩
    exact hlt a ha
  · exact hall i

theorem sum_of_perm_range {key value : α → Nat} {values : List Nat}
    (h : (l.map key).Perm (List.range values.length))
    (hvalue : ∀ a ∈ l, value a = values.getD (key a) 0) : (l.map value).sum = values.sum := by
  have hmap : l.map value = (l.map key).map fun i => values.getD i 0 := by
    rw [List.map_map]
    exact List.map_congr_left hvalue
  have hrange : (List.range values.length).map (fun i => values.getD i 0) = values := by
    apply List.ext_getElem
    · simp
    · intro i _ hi
      simp [hi]
  rw [hmap, (h.map _).sum_nat, hrange]

end NetSim.Lib
