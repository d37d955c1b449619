import NetSim.Ethernet.SpanningTree

/-!
# What the delivery of a BPDU does

What is known of the root is compared as a pair of a root and a cost. A BPDU that says something
better is taken over and sent on; any other changes no more than the state of a port.
-/

namespace NetSim.Ethernet

variable {V Id : Type}

def Spt.key (spt : Spt Id) : Id ×ₗ ℕ := toLex (spt.rootId, spt.rootPathCost)

def Spt.advert (spt : Spt Id) : Id ×ₗ ℕ := toLex (spt.rootId, spt.rootPathCost + spt.stpCost)

def Bpdu.key (bpdu : Bpdu Id) : Id ×ₗ ℕ := toLex (bpdu.rootId, bpdu.rootPathCost)

theorem Spt.key_lt_advert [LinearOrder Id] {spt : Spt Id} (h : 0 < spt.stpCost) : spt.key < spt.advert :=
  Prod.Lex.toLex_lt_toLex.2 (.inr ⟨rfl, Nat.lt_add_of_pos_right h⟩)

theorem key_createBpdu (lan : Lan Id) (h : lan.spt.rootPathCost = 0) :
    (createBpdu lan).key = lan.spt.advert := by
  simp [Bpdu.key, createBpdu, Spt.advert, h]

def NoWrap (spt : Spt Id) (bpdu : Bpdu Id) : Prop :=
  spt.stpCost + bpdu.rootPathCost < costModulus

theorem key_copyBpdu {lan : Lan Id} {b : Bpdu Id} (h : NoWrap lan.spt b) (i : ℕ) :
    (copyBpdu lan b).key = (updateSpt lan.spt b i).advert := by
  simp only [Bpdu.key, copyBpdu, Spt.advert, updateSpt, Nat.mod_eq_of_lt h]
  rw [Nat.add_comm]

/-! ## The three outcomes of the comparison -/

variable [LinearOrder Id]

section Compare

variable {bpdu : Bpdu Id} {spt : Spt Id} {port : ℕ}

theorem lt_of_forward (h : compareBpdu bpdu spt port = .forward) : bpdu.key < spt.key := by
  refine Prod.Lex.toLex_lt_toLex.2 ?_
  unfold compareBpdu at h
  split at h
  · next hroot =>
    split at h
    · cases h
    split at h
    · split at h <;> cases h
    split at h
    · next hlt => exact .inr ⟨hroot, hlt⟩
    · cases h
  · split at h
    · next hlt => exact .inl hlt
    · cases h

def Spt.Rooted (spt : Spt Id) : Prop := spt.rootId = spt.switchId → spt.rootPathCost = 0

theorem le_of_not_forward (hroot : spt.Rooted) (h : compareBpdu bpdu spt port ≠ .forward) :
    spt.key ≤ bpdu.key := by
  refine Prod.Lex.toLex_le_toLex.2 ?_
  unfold compareBpdu at h
  split at h
  · next heq =>
    refine .inr ⟨heq.symm, ?_⟩
    split at h
    · next hown => exact (hroot hown).trans_le (Nat.zero_le _)
    split at h
    · next hcost => exact hcost.ge
    split at h
    · exact absurd rfl h
    · next hlt => exact not_lt.1 hlt
  · next hne =>
    split at h
    · exact absurd rfl h
    · next hlt => exact .inl ((Ne.symm hne).lt_of_le (not_lt.1 hlt))

theorem of_block (h : compareBpdu bpdu spt port = .block) :
    bpdu.rootId = spt.rootId ∧ spt.rootId ≠ spt.switchId ∧ spt.key ≤ bpdu.key := by
  unfold compareBpdu at h
  split at h
  · next heq =>
    split at h
    · cases h
    next hown =>
    refine ⟨heq, hown, Prod.Lex.toLex_le_toLex.2 (.inr ⟨heq.symm, ?_⟩)⟩
    split at h
    · next hcost => exact hcost.ge
    split at h
    · cases h
    · next hlt => exact not_lt.1 hlt
  · split at h <;> cases h

theorem of_dontForward (h : compareBpdu bpdu spt port = .dontForward)
    (heq : bpdu.rootId = spt.rootId) : spt.rootId = spt.switchId ∨ spt.rootPort = port := by
  unfold compareBpdu at h
  rw [if_pos heq] at h
  split at h
  · next hown => exact .inl hown
  split at h
  · split at h
    · next hport => exact .inr hport
    · cases h
  split at h <;> cases h

end Compare

/-! ## Sending -/

def Topology.Simple (T : Topology V Id) : Prop :=
  ∀ ⦃v i j w k l⦄, T.connectedDevice v i = some (w, k) → T.connectedDevice v j = some (w, l) → i = j

namespace Net

variable {T : Topology V Id} {d v w : V} {i j k : ℕ} {b : Bpdu Id} {chan : V → ℕ → List (Bpdu Id)}

theorem Simple.getInterfaceId_eq (hT : T.Simple) (h : T.connectedDevice d i = some (w, j)) :
    T.getInterfaceId d w = i := by
  obtain ⟨k, hk⟩ := T.connected_getInterfaceId h
  exact hT hk h

theorem mem_dest {inter : Option ℕ} :
    w ∈ dest T d inter ↔ ∃ i j, T.connectedDevice d i = some (w, j) ∧ some i ≠ inter := by
  simp only [dest, List.mem_filterMap, List.mem_filter, decide_eq_true_eq, Option.map_eq_some_iff,
    Prod.exists, exists_and_right, exists_eq_right]
  constructor
  · rintro ⟨i, ⟨-, hne⟩, j, hl⟩
    exact ⟨i, ⟨j, hl⟩, hne⟩
  · rintro ⟨i, ⟨j, hl⟩, hne⟩
    exact ⟨i, ⟨T.mem_interfaceId hl, hne⟩, j, hl⟩

theorem nodup_dest (hT : T.Simple) (d : V) (inter : Option ℕ) : (dest T d inter).Nodup := by
  refine List.Nodup.filterMap ?_ ((T.nodup d).filter _)
  intro i i' w hi hi'
  obtain ⟨⟨_, j⟩, hl, rfl⟩ := Option.map_eq_some_iff.1 hi
  obtain ⟨⟨_, j'⟩, hl', rfl⟩ := Option.map_eq_some_iff.1 hi'
  exact hT hl hl'

variable [DecidableEq V]

theorem multicast_apply (hT : T.Simple) (hl : T.connectedDevice v i = some (d, k)) {dests : List V}
    (hnd : dests.Nodup) (hadj : ∀ w ∈ dests, ∃ i j, T.connectedDevice d i = some (w, j)) :
    multicastConfigBpdu T d dests b chan v i =
      if v ∈ dests then chan v i ++ [b] else chan v i := by
  induction dests generalizing chan with
  | nil => rfl
  | cons w rest ih =>
    obtain ⟨hw, hnd⟩ := List.nodup_cons.1 hnd
    obtain ⟨i', j', hl'⟩ := hadj w List.mem_cons_self
    have hget : T.getInterfaceId d w = i' := Simple.getInterfaceId_eq hT hl'
    have hout : sendOut T d b chan (T.getInterfaceId d w) v i =
        if v = w then chan v i ++ [b] else chan v i := by
      simp only [sendOut, hget, hl']
      by_cases hvw : v = w
      · subst hvw
        have hk : i' = k := hT hl' (T.symm hl)
        subst hk
        have hj : j' = i := by
          have := hl'.symm.trans (T.symm hl)
          simp only [Option.some.injEq, Prod.mk.injEq, true_and] at this
          exact this
        rw [if_pos ⟨rfl, hj.symm⟩, if_pos rfl]
      · rw [if_neg fun h => hvw h.1, if_neg hvw]
    rw [multicastConfigBpdu, List.foldl_cons, ← multicastConfigBpdu,
      ih hnd fun x hx => hadj x (List.mem_cons_of_mem _ hx), hout]
    by_cases hvw : v = w
    · subst hvw
      rw [if_neg hw, if_pos rfl, if_pos List.mem_cons_self]
    · rw [if_neg hvw]
      simp only [List.mem_cons, hvw, false_or]

theorem multicast_apply_of_ne (hl : ∀ k, T.connectedDevice v i ≠ some (d, k)) {dests : List V} :
    multicastConfigBpdu T d dests b chan v i = chan v i := by
  induction dests generalizing chan with
  | nil => rfl
  | cons w rest ih =>
    rw [multicastConfigBpdu, List.foldl_cons, ← multicastConfigBpdu, ih]
    unfold sendOut
    cases hc : T.connectedDevice d (T.getInterfaceId d w) with
    | none => rfl
    | some x =>
      refine if_neg ?_
      rintro ⟨rfl, rfl⟩
      exact hl _ (T.symm hc)

/-! ## The two kinds of steps -/

abbrev spt (s : Net V Id) (v : V) : Spt Id := (s.lan v).spt

abbrev portState (s : Net V Id) (v : V) (i : ℕ) : PortState := ((s.lan v).ethIfVar i).portState

omit [LinearOrder Id] [DecidableEq V] in
/-- The BPDU `b` at interface `i` of `v` has been delivered, and `v` keeps what it knows. -/
structure Kept (s s' : Net V Id) (v : V) (i : ℕ) (b : Bpdu Id) (blocked : Prop) : Prop where
  spt : ∀ w, s'.spt w = s.spt w
  self : s.chan v i = b :: s'.chan v i
  chan : ∀ w j, ¬ (w = v ∧ j = i) → s'.chan w j = s.chan w j
  blocks : blocked → s'.portState v i = .blocking
  portState : ∀ w j, ¬ (w = v ∧ j = i ∧ blocked) → s'.portState w j = s.portState w j

/-- The BPDU `b` at interface `i` of `v` has been delivered, and `v` has taken it over. -/
structure Adopted (T : Topology V Id) (s s' : Net V Id) (v : V) (i : ℕ) (b : Bpdu Id) : Prop where
  spt_self : s'.spt v = updateSpt (s.spt v) b i
  spt : ∀ w, w ≠ v → s'.spt w = s.spt w
  self : s.chan v i = b :: s'.chan v i
  sent : ∀ w j k, T.connectedDevice v k = some (w, j) → k ≠ i →
    s'.chan w j = s.chan w j ++ [copyBpdu (s.lan v) b]
  chan : ∀ w j, ¬ (w = v ∧ j = i) → (∀ k, T.connectedDevice v k = some (w, j) → k = i) →
    s'.chan w j = s.chan w j
  portState : ∀ w j, s'.portState w j = s.portState w j

theorem step_cases (hT : T.Simple) {s s' : Net V Id} (h : step T s (v, i) = some s') :
    ∃ b,
      (compareBpdu b (s.spt v) i ≠ .forward ∧
        Kept s s' v i b (compareBpdu b (s.spt v) i = .block)) ∨
      (compareBpdu b (s.spt v) i = .forward ∧ Adopted T s s' v i b) := by
  unfold step at h
  cases hchan : s.chan v i with
  | nil => rw [hchan] at h; cases h
  | cons b rest =>
    rw [hchan] at h
    refine ⟨b, ?_⟩
    simp only [Option.some.injEq] at h
    subst h
    unfold processConfigBpdu
    dsimp only
    cases hc : compareBpdu b (s.lan v).spt i with
    | block =>
      refine .inl ⟨nofun, ?_⟩
      constructor
      · intro w
        by_cases hw : w = v
        · subst hw
          simp [spt, blockPort]
        · simp [spt, hw]
      · simp [hchan]
      · intro w j hne
        exact if_neg hne
      · intro _
        simp [portState, blockPort]
      · intro w j hne
        by_cases hw : w = v
        · subst hw
          have hj : j ≠ i := fun hj => hne ⟨rfl, hj, rfl⟩
          simp [portState, blockPort, hj]
        · simp [portState, hw]
    | dontForward =>
      refine .inl ⟨nofun, ?_⟩
      constructor
      · intro w
        rfl
      · simp [hchan]
      · intro w j hne
        exact if_neg hne
      · intro hb
        cases hb
      · intro w j _
        rfl
    | forward =>
      refine .inr ⟨rfl, ?_⟩
      have hself : ∀ k, T.connectedDevice v i ≠ some (v, k) := fun k hk => T.irrefl hk rfl
      constructor
      · simp [spt, markPort, updateSpt]
      · intro w hw
        simp [spt, hw]
      · dsimp only
        rw [multicast_apply_of_ne hself]
        simp [hchan]
      · intro w j k hl hk
        have hw : w ≠ v := (T.irrefl hl).symm
        dsimp only
        rw [multicast_apply hT (T.symm hl) (nodup_dest hT _ _), if_pos, if_neg fun h => hw h.1]
        · rfl
        · exact mem_dest.2 ⟨k, j, hl, fun h => hk (Option.some.inj h)⟩
        · intro w' hw'
          obtain ⟨k', j', hl', -⟩ := mem_dest.1 hw'
          exact ⟨k', j', hl'⟩
      · intro w j hne hother
        dsimp only
        by_cases hl : ∃ k, T.connectedDevice v k = some (w, j)
        · obtain ⟨k, hl⟩ := hl
          have hw : w ≠ v := (T.irrefl hl).symm
          rw [multicast_apply hT (T.symm hl) (nodup_dest hT _ _), if_neg, if_neg fun h => hw h.1]
          · intro hmem
            obtain ⟨k', j', hl', hk'⟩ := mem_dest.1 hmem
            have hkk : k' = k := hT hl' hl
            exact hk' (congrArg some (hkk.trans (hother k hl)))
          · intro w' hw'
            obtain ⟨k', j', hl', -⟩ := mem_dest.1 hw'
            exact ⟨k', j', hl'⟩
        · rw [multicast_apply_of_ne fun k hk => hl ⟨k, T.symm hk⟩]
          exact if_neg hne
      · intro w j
        by_cases hw : w = v
        · subst hw
          simp [portState, markPort]
        · simp [portState, hw]

end Net

end NetSim.Ethernet
