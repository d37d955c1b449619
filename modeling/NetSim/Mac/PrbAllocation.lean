import NetSim.Mac.Prb

/-!
# What the scheduler of PRBs gives to the UEs (`LTENR_PRB.c`)

The walk of the sort for a place in the middle ends before the tail, which has a lower rank. The UEs
are served in the order of their ranks, as far as the PRBs last.
-/

namespace NetSim.Mac

open NetSim.Tcp

variable {x : UeSchedularInfo} {l : List UeSchedularInfo}

/-! ## The sort -/

def Ranked (l : List UeSchedularInfo) : Prop := l.Pairwise fun u v => v.rank ≤ u.rank

theorem ranked_cons {head : UeSchedularInfo} :
    Ranked (head :: l) ↔ (∀ y ∈ l, y.rank ≤ head.rank) ∧ Ranked l :=
  List.pairwise_cons

theorem insertMiddle_spec {head : UeSchedularInfo} {rest : List UeSchedularInfo}
    (hsorted : Ranked (head :: rest)) (hhead : x.rank ≤ head.rank)
    (hlast : ((head :: rest).getLast (List.cons_ne_nil _ _)).rank < x.rank) :
    ∃ l', insertMiddle x (head :: rest) = some (head :: l') ∧ l'.Perm (x :: rest) ∧
      Ranked (head :: l') := by
  induction rest generalizing head with
  | nil => exact absurd hhead (not_le.2 hlast)
  | cons next rest ih =>
    obtain ⟨hbelow, htail⟩ := ranked_cons.1 hsorted
    obtain ⟨hnext, -⟩ := ranked_cons.1 htail
    rw [insertMiddle]
    split
    · next hlt =>
      have hx : Ranked (x :: next :: rest) := by
        refine ranked_cons.2 ⟨fun y hy => ?_, htail⟩
        rcases List.mem_cons.1 hy with rfl | hy
        · exact hlt.le
        · exact (hnext y hy).trans hlt.le
      refine ⟨x :: next :: rest, rfl, .refl _, ranked_cons.2 ⟨fun y hy => ?_, hx⟩⟩
      rcases List.mem_cons.1 hy with rfl | hy
      · exact hhead
      · exact hbelow y hy
    · next hlt =>
      obtain ⟨l', hl', hperm, hranked⟩ := ih htail (not_lt.1 hlt) hlast
      have hperm' : (next :: l').Perm (x :: next :: rest) := (hperm.cons next).trans (.swap _ _ _)
      refine ⟨next :: l', by rw [hl']; rfl, hperm', ranked_cons.2 ⟨fun y hy => ?_, hranked⟩⟩
      rcases List.mem_cons.1 (hperm'.subset hy) with rfl | hy
      · exact hhead
      · exact hbelow y hy

theorem Ranked.getLast_le (h : Ranked l) (hne : l ≠ []) {y : UeSchedularInfo} (hy : y ∈ l) :
    (l.getLast hne).rank ≤ y.rank := by
  have hsplit := List.dropLast_append_getLast hne
  rw [← hsplit] at h hy
  rcases List.mem_append.1 hy with hy | hy
  · exact (List.pairwise_append.1 h).2.2 y hy _ List.mem_cons_self
  · rw [List.mem_singleton.1 hy]

theorem insertRanked_spec (x : UeSchedularInfo) (hsorted : Ranked l) :
    ∃ l', insertRanked x l = some l' ∧ l'.Perm (x :: l) ∧ Ranked l' := by
  cases l with
  | nil => exact ⟨[x], rfl, .refl _, List.pairwise_singleton _ _⟩
  | cons head rest =>
    have hbelow := (ranked_cons.1 hsorted).1
    rw [insertRanked]
    split
    · next hhead =>
      refine ⟨_, rfl, .refl _, ranked_cons.2 ⟨fun y hy => ?_, hsorted⟩⟩
      rcases List.mem_cons.1 hy with rfl | hy
      · exact hhead
      · exact (hbelow y hy).trans hhead
    · next hhead =>
      split
      · next hlast =>
        refine ⟨_, rfl, List.perm_append_singleton x (head :: rest),
          List.pairwise_append.2 ⟨hsorted, List.pairwise_singleton _ _, ?_⟩⟩
        intro y hy z hz
        rw [List.mem_singleton.1 hz]
        exact hlast.trans (hsorted.getLast_le _ hy)
      · next hlast =>
        obtain ⟨l', hl', hperm, hranked⟩ :=
          insertMiddle_spec hsorted (not_le.1 hhead).le (not_le.1 hlast)
        exact ⟨_, hl', (hperm.cons head).trans (.swap _ _ _), hranked⟩

theorem foldlM_insertRanked {sorted : List UeSchedularInfo} (hsorted : Ranked sorted) :
    ∃ l', l.foldlM (fun sorted x => insertRanked x sorted) sorted = some l' ∧
      l'.Perm (l ++ sorted) ∧ Ranked l' := by
  induction l generalizing sorted with
  | nil => exact ⟨sorted, rfl, .refl _, hsorted⟩
  | cons x l ih =>
    obtain ⟨sorted', hinsert, hperm, hranked⟩ := insertRanked_spec x hsorted
    obtain ⟨l', hfold, hperm', hranked'⟩ := ih hranked
    refine ⟨l', ?_, hperm'.trans ?_, hranked'⟩
    · rw [List.foldlM_cons, hinsert]
      exact hfold
    · exact (hperm.append_left l).trans List.perm_middle

theorem sortingOfRank_spec (l : List UeSchedularInfo) :
    ∃ sorted, sortingOfRank l = some sorted ∧ sorted.Perm l ∧ Ranked sorted := by
  have hnil : Ranked [] := List.Pairwise.nil
  obtain ⟨sorted, hfold, hperm, hranked⟩ := foldlM_insertRanked (l := l) hnil
  rw [List.append_nil] at hperm
  exact ⟨sorted, hfold, hperm, hranked⟩

/-! ## The loop -/

/-- The number of PRBs that a UE needs is a `UINT`. -/
structure UeSchedularInfo.Fits (x : UeSchedularInfo) : Prop where
  bitsPerPRB_pos : 0 < x.bitsPerPRB
  need_lt : x.need < 2 ^ 32

theorem UeSchedularInfo.Fits.of_bits (hbits : 8 ≤ x.bitsPerPRB) (hsize : x.bufferSize < 2 ^ 32) :
    x.Fits := by
  refine ⟨by omega, lt_of_le_of_lt ?_ hsize⟩
  have hpos : (0 : ℚ) < x.bitsPerPRB := by exact_mod_cast (by omega : 0 < x.bitsPerPRB)
  have hcast : (8 : ℚ) ≤ x.bitsPerPRB := by exact_mod_cast hbits
  unfold UeSchedularInfo.need
  rw [Nat.ceil_le, div_le_iff₀ hpos]
  exact mul_le_mul_of_nonneg_left hcast (Nat.cast_nonneg _)

def allocatedSum (l : List UeSchedularInfo) : ℕ := (l.map UeSchedularInfo.allocatedPRBCount).sum

@[simp] theorem allocatedSum_cons (x : UeSchedularInfo) (l : List UeSchedularInfo) :
    allocatedSum (x :: l) = x.allocatedPRBCount + allocatedSum l := rfl

/-- What the loop has made of the UEs in `l` with `total` PRBs. -/
structure Served (total : ℕ) (l out : List UeSchedularInfo) : Prop where
  same : resetAllocationPRBCount out = l
  within : ∀ u ∈ out, u.allocatedPRBCount ≤ u.need
  sum_le : allocatedSum out ≤ total
  inOrder : out.Pairwise fun u v => 0 < v.allocatedPRBCount → u.allocatedPRBCount = u.need
  used : allocatedSum out < total → ∀ u ∈ out, u.allocatedPRBCount = u.need

theorem resetAllocationPRBCount_cons (x : UeSchedularInfo) (l : List UeSchedularInfo) :
    resetAllocationPRBCount (x :: l) =
      { x with allocatedPRBCount := 0 } :: resetAllocationPRBCount l := rfl

theorem reset_of_zero (h : ∀ u ∈ l, u.allocatedPRBCount = 0) : resetAllocationPRBCount l = l := by
  induction l with
  | nil => rfl
  | cons x l ih =>
    obtain ⟨hx, hl⟩ := List.forall_mem_cons.1 h
    rw [resetAllocationPRBCount_cons, ih hl, ← hx]

theorem allocatedSum_of_zero (h : ∀ u ∈ l, u.allocatedPRBCount = 0) : allocatedSum l = 0 := by
  induction l with
  | nil => rfl
  | cons x l ih =>
    obtain ⟨hx, hl⟩ := List.forall_mem_cons.1 h
    rw [allocatedSum_cons, hx, ih hl]

theorem Served.of_zero (h : ∀ u ∈ l, u.allocatedPRBCount = 0) : Served 0 l l := by
  refine ⟨reset_of_zero h, fun u hu => ?_, (allocatedSum_of_zero h).le, ?_, fun hlt => ?_⟩
  · rw [h u hu]
    exact Nat.zero_le _
  · refine List.pairwise_of_forall_mem_list fun u _ v hv hpos => ?_
    rw [h v hv] at hpos
    exact absurd hpos (lt_irrefl 0)
  · exact absurd hlt (Nat.not_lt_zero _)

theorem served_allocateLoop {total : ℕ} (htotal : total < 2 ^ 32)
    (hzero : ∀ u ∈ l, u.allocatedPRBCount = 0) (hfits : ∀ u ∈ l, u.Fits) :
    Served total l (allocateLoop total l) := by
  induction l generalizing total with
  | nil =>
    refine ⟨rfl, fun u hu => ?_, Nat.zero_le _, List.Pairwise.nil, fun _ u hu => ?_⟩
    · cases hu
    · cases hu
  | cons x l ih =>
    obtain ⟨hx, hl⟩ := List.forall_mem_cons.1 hzero
    obtain ⟨hxfits, hlfits⟩ := List.forall_mem_cons.1 hfits
    have hneed : x.prbAllocation = x.need := u32_of_lt hxfits.need_lt
    rw [allocateLoop, hneed, hx]
    split
    · next hnone =>
      rw [hnone]
      exact .of_zero hzero
    · split
      · next hlt =>
        -- The UE gets what it needs, and the loop goes on with the rest.
        rw [Nat.zero_add, u32_of_lt hxfits.need_lt]
        dsimp only
        rw [sub32_of_le hlt.le htotal]
        have hless : total - x.need < 2 ^ 32 := by omega
        obtain ⟨hsame, hwithin, hsum, horder, hused⟩ := ih hless hl hlfits
        refine ⟨?_, ?_, ?_, ?_, ?_⟩
        · rw [resetAllocationPRBCount_cons, hsame, ← hx]
        · exact List.forall_mem_cons.2 ⟨le_refl x.need, hwithin⟩
        · rw [allocatedSum_cons]
          change x.need + _ ≤ total
          omega
        · exact List.pairwise_cons.2 ⟨fun _ _ _ => rfl, horder⟩
        · intro hleft
          rw [allocatedSum_cons] at hleft
          change x.need + _ < total at hleft
          exact List.forall_mem_cons.2 ⟨rfl, hused (by omega)⟩
      · next hge =>
        -- The UE gets what is left.
        rw [Nat.zero_add, u32_of_lt htotal]
        obtain ⟨hsame, hwithin, -, -, -⟩ := Served.of_zero hl
        refine ⟨?_, ?_, ?_, ?_, ?_⟩
        · rw [resetAllocationPRBCount_cons, hsame, ← hx]
        · exact List.forall_mem_cons.2 ⟨not_lt.1 hge, hwithin⟩
        · rw [allocatedSum_cons, allocatedSum_of_zero hl]
          rfl
        · refine List.pairwise_cons.2 ⟨fun v hv hpos => ?_, (Served.of_zero hl).inOrder⟩
          rw [hl v hv] at hpos
          exact absurd hpos (lt_irrefl 0)
        · intro hleft
          rw [allocatedSum_cons, allocatedSum_of_zero hl] at hleft
          exact absurd hleft (lt_irrefl total)

/-! ## An allocation -/

/-- The UEs in `ranked` have got their PRBs: by their ranks, as far as `total` PRBs last. -/
structure Allocated (total : ℕ) (ranked allocated : List UeSchedularInfo) : Prop where
  perm : (resetAllocationPRBCount allocated).Perm ranked
  sorted : Ranked allocated
  within : ∀ u ∈ allocated, u.allocatedPRBCount ≤ u.need
  sum_le : allocatedSum allocated ≤ total
  served : ∀ u ∈ allocated, ∀ v ∈ allocated, v.rank < u.rank → 0 < v.allocatedPRBCount →
    u.allocatedPRBCount = u.need
  used : allocatedSum allocated < total → ∀ u ∈ allocated, u.allocatedPRBCount = u.need

theorem Served.allocated {total : ℕ} {ranked out : List UeSchedularInfo} (h : Served total l out)
    (hsorted : Ranked l) (hperm : l.Perm ranked) : Allocated total ranked out := by
  have hranked : Ranked out := by
    have hmap := h.same ▸ hsorted
    exact (List.pairwise_map.1 hmap).imp fun hle => hle
  refine ⟨h.same.symm ▸ hperm, hranked, h.within, h.sum_le, fun u hu v hv => ?_, h.used⟩
  refine List.Pairwise.forall_of_forall_of_flip
    (R := fun u v => v.rank < u.rank → 0 < v.allocatedPRBCount → u.allocatedPRBCount = u.need)
    ?_ ?_ ?_ hu hv
  · exact fun y _ hlt => absurd hlt (lt_irrefl _)
  · refine h.inOrder.imp ?_
    intro u v hserved _
    exact hserved
  · refine hranked.imp ?_
    intro u v hle hlt
    exact absurd hlt (not_lt.2 hle)

/-- A UE without its ranks, which are new after an allocation. -/
def UeSchedularInfo.unranked (x : UeSchedularInfo) : UeSchedularInfo :=
  { x with rank := 0, initRank := 0 }

namespace SchedularInfo

variable {s s' : SchedularInfo}

theorem unranked_updateRanks (s : SchedularInfo) (initTotalPRBAvailable : ℕ)
    (l : List UeSchedularInfo) :
    (s.updateRanks initTotalPRBAvailable l).map UeSchedularInfo.unranked =
      l.map UeSchedularInfo.unranked := by
  unfold updateRanks
  cases s.schedulingType with
  | maxThroughput => rfl
  | fairScheduling =>
    unfold updateRankFAIR
    dsimp only
    split
    · rw [List.map_map, List.map_map]
      rfl
    · rw [List.map_map]
      rfl
  | _ =>
    unfold updateRank
    rw [List.map_map]
    rfl

@[simp] theorem ueList_withUeList (s : SchedularInfo) (isUplink : Bool) (l : List UeSchedularInfo) :
    (s.withUeList isUplink l).ueList isUplink = l := by
  cases isUplink with
  | true => rfl
  | false => rfl

theorem exists_of_mem_initRanks {isUplink : Bool} {u : UeSchedularInfo}
    (hu : u ∈ s.initRanks.ueList isUplink) : ∃ v ∈ s.ueList isUplink, u.unranked = v.unranked := by
  unfold initRanks at hu
  split at hu
  · exact ⟨u, hu, rfl⟩
  · cases isUplink with
    | true =>
      obtain ⟨v, hv, rfl⟩ := List.mem_map.1 hu
      exact ⟨v, hv, rfl⟩
    | false =>
      obtain ⟨v, hv, rfl⟩ := List.mem_map.1 hu
      exact ⟨v, hv, rfl⟩

/-- `LTENR_PRB_AllocatePRB` sorts the UEs by the ranks in force, gives them the PRBs in that order,
and then new ranks. -/
theorem allocatePRB_allocates {isUplink : Bool} {initTotalPRBAvailable total : ℕ}
    (htotal : total < 2 ^ 32) (hreset : ∀ u ∈ s.ueList isUplink, u.allocatedPRBCount = 0)
    (hfits : ∀ u ∈ s.ueList isUplink, u.Fits) :
    ∃ s' allocated, s.allocatePRB initTotalPRBAvailable isUplink total = some s' ∧
      (s'.ueList isUplink).map UeSchedularInfo.unranked =
        allocated.map UeSchedularInfo.unranked ∧
      Allocated total (s.initRanks.ueList isUplink) allocated := by
  obtain ⟨sorted, hsort, hperm, hranked⟩ := sortingOfRank_spec (s.initRanks.ueList isUplink)
  have hzero : ∀ u ∈ sorted, u.allocatedPRBCount = 0 := by
    intro u hu
    obtain ⟨v, hv, heq⟩ := exists_of_mem_initRanks (hperm.subset hu)
    have hcount : u.unranked.allocatedPRBCount = v.unranked.allocatedPRBCount := by rw [heq]
    exact hcount.trans (hreset v hv)
  have hsortedFits : ∀ u ∈ sorted, u.Fits := by
    intro u hu
    obtain ⟨v, hv, heq⟩ := exists_of_mem_initRanks (hperm.subset hu)
    have hsame : u.unranked.Fits := heq ▸ ⟨(hfits v hv).bitsPerPRB_pos, (hfits v hv).need_lt⟩
    exact ⟨hsame.bitsPerPRB_pos, hsame.need_lt⟩
  have hserved := served_allocateLoop htotal hzero hsortedFits
  have hstep : s.allocatePRB initTotalPRBAvailable isUplink total =
      some (s.initRanks.withUeList isUplink
        (s.initRanks.updateRanks initTotalPRBAvailable (allocateLoop total sorted))) := by
    unfold allocatePRB
    dsimp only
    rw [hsort]
    rfl
  refine ⟨_, allocateLoop total sorted, hstep, ?_, hserved.allocated hranked hperm⟩
  rw [ueList_withUeList, unranked_updateRanks]

/-- A scheduler with the downlink UEs that hold `size` bytes each and send `bits` bits in a PRB. -/
def holding (sizes : List ℕ) (bits : ℕ) : SchedularInfo where
  PRBCount := 10
  OH_UL := 0
  OH_DL := 0
  isPRBRankInit := false
  schedulingType := .roundRobin
  slotType := .downlink
  uplinkInfo := []
  downlinkInfo := sizes.map fun size => ⟨1, 1, size, bits, 0, 0, 0⟩

/-- Two UEs that need 8 and 4 PRBs share 10. -/
theorem allocatePRB_allocates_two :
    ∃ s' allocated, (holding [100, 50] 100).allocatePRB 10 false 10 = some s' ∧
      (s'.ueList false).map UeSchedularInfo.unranked =
        allocated.map UeSchedularInfo.unranked ∧
      Allocated 10 ((holding [100, 50] 100).initRanks.ueList false) allocated :=
  allocatePRB_allocates (by decide) (by decide) fun u hu => by
    rcases List.mem_cons.1 hu with rfl | hu
    · exact .of_bits (by decide) (by decide)
    · rw [List.mem_singleton.1 hu]
      exact .of_bits (by decide) (by decide)

/-- The claimed law, for every UE list with positive `bitsPerPRB`. -/
def AllocatesAlways : Prop :=
  ∀ (s : SchedularInfo) (isUplink : Bool) (initTotalPRBAvailable total : ℕ), total < 2 ^ 32 →
    (∀ u ∈ s.ueList isUplink, u.allocatedPRBCount = 0) →
    (∀ u ∈ s.ueList isUplink, 0 < u.bitsPerPRB ∧ u.bufferSize < 2 ^ 32) →
    ∃ s' allocated, s.allocatePRB initTotalPRBAvailable isUplink total = some s' ∧
      (s'.ueList isUplink).map UeSchedularInfo.unranked =
        allocated.map UeSchedularInfo.unranked ∧
      Allocated total (s.initRanks.ueList isUplink) allocated

/-- The list is sorted by the ranks that the allocation leaves. -/
def SortedAfterwards : Prop :=
  ∀ (s s' : SchedularInfo) (isUplink : Bool) (initTotalPRBAvailable total : ℕ),
    (∀ u ∈ s.ueList isUplink, u.allocatedPRBCount = 0) →
    (∀ u ∈ s.ueList isUplink, u.Fits) →
    s.allocatePRB initTotalPRBAvailable isUplink total = some s' → Ranked (s'.ueList isUplink)

theorem not_allocatesAlways_need : ¬AllocatesAlways := by
  intro h
  obtain ⟨s', allocated, hstep, hsame, hallocated⟩ :=
    h (holding [2 ^ 29] 1) false 10 10 (by decide) (by decide) (by decide)
  have hlist : ((holding [2 ^ 29] 1).allocatePRB 10 false 10).map
      (fun s' => (s'.ueList false).map UeSchedularInfo.unranked) =
        some [⟨1, 1, 2 ^ 29, 1, 0, 0, 0⟩] := by decide +kernel
  rw [hstep, Option.map_some, Option.some_inj, hsame, List.map_eq_singleton_iff] at hlist
  obtain ⟨u, rfl, hu⟩ := hlist
  have hcount : u.allocatedPRBCount = 0 := congrArg UeSchedularInfo.allocatedPRBCount hu
  have hneed : u.need = 2 ^ 32 := by
    have hunranked : u.need = u.unranked.need := rfl
    rw [hunranked, hu, UeSchedularInfo.need]
    norm_num
  have hleft : allocatedSum [u] < 10 := by
    rw [allocatedSum_cons, hcount]
    decide
  have hmet := hallocated.used hleft u List.mem_cons_self
  rw [hcount, hneed] at hmet
  exact absurd hmet (by decide)

theorem not_sortedAfterwards : ¬SortedAfterwards := by
  intro h
  have hstep : ((holding [1000, 1000] 100).allocatePRB 10 false 10).any
      (fun s' => !decide ((s'.ueList false).Pairwise fun u v => v.rank ≤ u.rank)) = true := by
    decide +kernel
  cases hs' : (holding [1000, 1000] 100).allocatePRB 10 false 10 with
  | none =>
    rw [hs'] at hstep
    cases hstep
  | some s' =>
    have hranked := h _ s' false 10 10 (by decide) (fun u hu => ?_) hs'
    · rw [hs', Option.any_some, Bool.not_eq_true', decide_eq_false_iff_not] at hstep
      exact absurd hranked hstep
    · rcases List.mem_cons.1 hu with rfl | hu
      · exact .of_bits (by decide) (by decide)
      · rw [List.mem_singleton.1 hu]
        exact .of_bits (by decide) (by decide)

/-- The law fails where a need is no `UINT`, and it is not about the ranks of afterwards. -/
theorem not_allocatesAlways : ¬AllocatesAlways ∧ ¬SortedAfterwards :=
  ⟨not_allocatesAlways_need, not_sortedAfterwards⟩

end SchedularInfo

end NetSim.Mac
