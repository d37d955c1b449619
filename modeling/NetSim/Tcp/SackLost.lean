import NetSim.Tcp.Sack
import NetSim.Lib.Intervals

/-!
# The loss test of the scoreboard (`SACK.c`)

`tcp_sack_isLost` only looks at a scoreboard that lies above the segment as a whole, and takes a
block that ends far enough above the segment for enough bytes.
-/

namespace NetSim.Tcp

open NetSim.Lib

def SackData.interval (b : SackData) : Interval := ⟨b.leftEdge, b.rightEdge⟩

def blocksAbove (blocks : List SackData) (seqNum : Nat) : List SackData :=
  blocks.filter fun b => seqNum < b.leftEdge

def bytesAbove (blocks : List SackData) (seqNum : Nat) : Nat :=
  extent ((blocksAbove blocks seqNum).map SackData.interval)

/-- The predicate that the comment of `tcp_sack_isLost` describes. -/
def DocumentedLost (smss : Nat) (blocks : List SackData) (seqNum : Nat) : Prop :=
  tcpDupThresh ≤ (coalesce ((blocksAbove blocks seqNum).map SackData.interval)).length ∨
    (tcpDupThresh - 1) * smss < bytesAbove blocks seqNum

/-- If all blocks lie a segment above `seqNum`, then enough bytes are SACKed there or every block
ends at most two segments above. Otherwise the bytes are too few. -/
def JudgedRight (smss : Nat) (blocks : List SackData) (seqNum : Nat) : Prop :=
  if ∀ b ∈ blocks, seqNum + smss ≤ b.leftEdge then
    (tcpDupThresh - 1) * smss < bytesAbove blocks seqNum ∨
      ∀ b ∈ blocks, b.rightEdge ≤ seqNum + (tcpDupThresh - 1) * smss
  else bytesAbove blocks seqNum ≤ (tcpDupThresh - 1) * smss

namespace Tcb

/-- The scoreboard holds these blocks: in order, disjoint, of whole segments from `SND.UNA` on. -/
structure Scoreboard (t : Tcb) (blocks : List SackData) : Prop where
  length_le : blocks.length ≤ 4
  eq : t.scoreboard = blocks ++ List.replicate (4 - blocks.length) ⟨0, 0⟩
  ordered : Ordered (blocks.map SackData.interval)
  aligned : ∀ b ∈ blocks, ∃ k m, b.leftEdge = t.SND.UNA + k * t.getMSS ∧
    b.rightEdge = t.SND.UNA + m * t.getMSS
  edges_lt : ∀ b ∈ blocks, b.rightEdge < 2 ^ 32
  smss_pos : 0 < t.getMSS

/-- An unsacked segment, so far from the end of the sequence space that the test does not wrap. -/
structure Unsacked (t : Tcb) (blocks : List SackData) (seqNum : Nat) : Prop where
  not_covers : ¬Covers (blocks.map SackData.interval) seqNum
  una_le : t.SND.UNA ≤ seqNum
  seqNum_lt : seqNum + (tcpDupThresh - 1) * t.getMSS < 2 ^ 32

/-! ## The loop -/

/-- The loop of `tcp_sack_isLost` over the blocks themselves. -/
def lostOver (smss limit : Nat) : List SackData → Nat → Bool
  | [], _ => false
  | b :: rest, c =>
    let c := u32 (c + sub32 b.rightEdge b.leftEdge / smss)
    if tcpDupThresh ≤ c then true
    else if limit < b.rightEdge then true
    else lostOver smss limit rest c

theorem isLostFrom_eq (t : Tcb) (seqNum : Nat) (l : List Nat) (c : Nat) :
    t.isLostFrom seqNum l c =
      lostOver t.getMSS (u32 ((tcpDupThresh - 1) * t.getMSS + seqNum)) (l.map t.edges) c := by
  induction l generalizing c with
  | nil => rfl
  | cons i l ih =>
    rw [isLostFrom, List.map_cons, lostOver, ih]

theorem lostOver_replicate (smss limit n : Nat) {c : Nat} (hc : c < tcpDupThresh) :
    lostOver smss limit (List.replicate n ⟨0, 0⟩) c = false := by
  have hzero : sub32 0 0 = 0 := by decide
  have hthresh : tcpDupThresh < 2 ^ 32 := by decide
  induction n with
  | zero => rfl
  | succ n ih =>
    rw [List.replicate_succ, lostOver, hzero, Nat.zero_div, Nat.add_zero, u32_of_lt (by omega),
      if_neg (by omega), if_neg (Nat.not_lt_zero _), ih]

theorem lostOver_iff {smss seqNum n pos c : Nat} {blocks : List SackData} (hsmss : 0 < smss)
    (hordered : Ordered (blocks.map SackData.interval)) (hlt : ∀ b ∈ blocks, b.rightEdge < 2 ^ 32)
    (hpos : ∀ b ∈ blocks, pos ≤ b.leftEdge) (hcount : seqNum + smss + c * smss ≤ pos)
    (hc : c < tcpDupThresh) :
    lostOver smss (seqNum + (tcpDupThresh - 1) * smss) (blocks ++ List.replicate n ⟨0, 0⟩) c = true ↔
      ∃ b ∈ blocks, seqNum + (tcpDupThresh - 1) * smss < b.rightEdge := by
  induction blocks generalizing pos c with
  | nil =>
    rw [List.nil_append, lostOver_replicate _ _ _ hc]
    simp
  | cons b rest ih =>
    have hb := hordered.lo_lt_hi
    change b.leftEdge < b.rightEdge at hb
    have hleft := hpos b List.mem_cons_self
    have hright := hlt b List.mem_cons_self
    have hquot := Nat.div_mul_le_self (b.rightEdge - b.leftEdge) smss
    have hc_le : c ≤ c * smss := Nat.le_mul_of_pos_right c hsmss
    have hq_le := Nat.le_mul_of_pos_right ((b.rightEdge - b.leftEdge) / smss) hsmss
    have hsum := Nat.add_mul c ((b.rightEdge - b.leftEdge) / smss) smss
    rw [List.cons_append, lostOver, sub32_of_le (Nat.le_of_lt hb) hright, u32_of_lt (by omega)]
    generalize (b.rightEdge - b.leftEdge) / smss = q at hquot hq_le hsum
    by_cases hfull : tcpDupThresh ≤ c + q
    · rw [if_pos hfull]
      have hmul : tcpDupThresh * smss ≤ (c + q) * smss := Nat.mul_le_mul_right _ hfull
      refine iff_of_true rfl ⟨b, List.mem_cons_self, ?_⟩
      unfold tcpDupThresh at hmul ⊢
      omega
    · rw [if_neg hfull]
      by_cases hend : seqNum + (tcpDupThresh - 1) * smss < b.rightEdge
      · rw [if_pos hend]
        exact iff_of_true rfl ⟨b, List.mem_cons_self, hend⟩
      · have hnext : ∀ b' ∈ rest, b.rightEdge ≤ b'.leftEdge := fun b' hb' =>
          hordered.head_le (List.mem_map_of_mem hb')
        rw [if_neg hend, ih hordered.tail (fun b' hb' => hlt b' (List.mem_cons_of_mem _ hb')) hnext
          (by omega) (by omega)]
        simp [hend]

variable {t : Tcb} {blocks : List SackData} {seqNum : Nat}

theorem Scoreboard.edges_map (h : t.Scoreboard blocks) :
    [0, 1, 2, 3].map t.edges = blocks ++ List.replicate (4 - blocks.length) ⟨0, 0⟩ := by
  have hlen : t.scoreboard.length = 4 := by
    have hle := h.length_le
    rw [h.eq, List.length_append, List.length_replicate]
    omega
  rw [← h.eq]
  unfold edges
  match t.scoreboard, hlen with
  | [_, _, _, _], _ => rfl

theorem Scoreboard.sackIsLost_iff (h : t.Scoreboard blocks) (hseq : t.Unsacked blocks seqNum) :
    t.sackIsLost seqNum = true ↔ (∀ b ∈ blocks, seqNum + t.getMSS ≤ b.leftEdge) ∧
      ∃ b ∈ blocks, seqNum + (tcpDupThresh - 1) * t.getMSS < b.rightEdge := by
  have hpos := h.smss_pos
  have hlt := hseq.seqNum_lt
  have hlimit : u32 ((tcpDupThresh - 1) * t.getMSS + seqNum) =
      seqNum + (tcpDupThresh - 1) * t.getMSS := by
    rw [Nat.add_comm, u32_of_lt hlt]
  have hfirst : u32 (seqNum + t.getMSS) = seqNum + t.getMSS := by
    unfold tcpDupThresh at hlt
    exact u32_of_lt (by omega)
  unfold sackIsLost
  rw [isLostFrom_eq, h.edges_map, hlimit, hfirst]
  have hedge : t.edges 0 =
      (blocks ++ List.replicate (4 - blocks.length) (⟨0, 0⟩ : SackData)).getD 0 ⟨0, 0⟩ := by
    rw [edges, h.eq]
  cases hblocks : blocks with
  | nil =>
    rw [hedge, hblocks]
    simp
    omega
  | cons b rest =>
    subst hblocks
    rw [hedge]
    by_cases hbelow : seqNum + t.getMSS ≤ b.leftEdge
    · have hall : ∀ b' ∈ b :: rest, seqNum + t.getMSS ≤ b'.leftEdge := by
        intro b' hb'
        rcases List.mem_cons.1 hb' with rfl | hb'
        · exact hbelow
        · have hb := h.ordered.lo_lt_hi
          have hnext : b.rightEdge ≤ b'.leftEdge := h.ordered.head_le (List.mem_map_of_mem hb')
          change b.leftEdge < b.rightEdge at hb
          omega
      have hloop : lostOver t.getMSS (seqNum + (tcpDupThresh - 1) * t.getMSS)
          (b :: rest ++ List.replicate (4 - (b :: rest).length) ⟨0, 0⟩) 0 = true ↔ _ :=
        lostOver_iff hpos h.ordered h.edges_lt hall (by omega) (by decide)
      simp only [List.cons_append, List.getD_cons_zero, if_pos hbelow]
      exact hloop.trans (and_iff_right hall).symm
    · simp only [List.cons_append, List.getD_cons_zero, if_neg hbelow]
      exact iff_of_false (by decide) fun hc => hbelow (hc.1 b List.mem_cons_self)

/-! ## The documented predicate -/

theorem length_mul_le_extent {l : List Interval} {n : Nat} (h : ∀ i ∈ l, i.lo + n ≤ i.hi) :
    l.length * n ≤ extent l := by
  induction l with
  | nil => simp [extent]
  | cons i l ih =>
    have hi := h i List.mem_cons_self
    have hrest := ih fun j hj => h j (List.mem_cons_of_mem _ hj)
    rw [List.length_cons, extent_cons, Nat.succ_mul]
    omega

theorem Scoreboard.ordered_above (h : t.Scoreboard blocks) (seqNum : Nat) :
    Ordered ((blocksAbove blocks seqNum).map SackData.interval) :=
  h.ordered.sublist (List.filter_sublist.map _)

theorem Scoreboard.block_le (h : t.Scoreboard blocks) {b : SackData} (hb : b ∈ blocks) :
    b.leftEdge + t.getMSS ≤ b.rightEdge := by
  obtain ⟨k, m, hleft, hright⟩ := h.aligned b hb
  have hlt : b.leftEdge < b.rightEdge := h.ordered.nonempty _ (List.mem_map_of_mem hb)
  have hkm : k < m := by
    by_contra hle
    have hmul := Nat.mul_le_mul_right t.getMSS (Nat.le_of_not_lt hle)
    omega
  have hmul : (k + 1) * t.getMSS ≤ m * t.getMSS := Nat.mul_le_mul_right _ hkm
  rw [Nat.succ_mul] at hmul
  omega

theorem Scoreboard.documentedLost_iff (h : t.Scoreboard blocks) (seqNum : Nat) :
    DocumentedLost t.getMSS blocks seqNum ↔
      (tcpDupThresh - 1) * t.getMSS < bytesAbove blocks seqNum := by
  refine ⟨?_, Or.inr⟩
  rintro (hruns | hbytes)
  · have hordered := h.ordered_above seqNum
    have hlen := (separated_coalesce hordered).length_le fun n => (covers_coalesce hordered n).symm
    have hsegs : ∀ i ∈ (blocksAbove blocks seqNum).map SackData.interval,
        i.lo + t.getMSS ≤ i.hi := by
      intro i hi
      obtain ⟨b, hb, rfl⟩ := List.mem_map.1 hi
      exact h.block_le (List.mem_filter.1 hb).1
    have hext := length_mul_le_extent hsegs
    have hmul := Nat.mul_le_mul_right t.getMSS (hruns.trans hlen)
    have hpos := h.smss_pos
    unfold bytesAbove
    unfold tcpDupThresh at hmul ⊢
    omega
  · exact hbytes

theorem Scoreboard.exists_of_bytes (h : t.Scoreboard blocks)
    (hall : ∀ b ∈ blocks, seqNum + t.getMSS ≤ b.leftEdge)
    (hbytes : (tcpDupThresh - 1) * t.getMSS < bytesAbove blocks seqNum) :
    ∃ b ∈ blocks, seqNum + (tcpDupThresh - 1) * t.getMSS < b.rightEdge := by
  have hpos := h.smss_pos
  have habove : blocksAbove blocks seqNum = blocks := by
    refine List.filter_eq_self.2 fun b hb => ?_
    have hle := hall b hb
    exact decide_eq_true (by omega)
  unfold bytesAbove at hbytes
  rw [habove] at hbytes
  have hordered := h.ordered
  cases hblocks : blocks with
  | nil =>
    rw [hblocks] at hbytes
    exact absurd hbytes (Nat.not_lt_zero _)
  | cons b rest =>
    rw [hblocks] at hbytes hordered
    obtain ⟨i, hi, hle⟩ := hordered.exists_extent_le
    rw [← List.map_cons] at hi
    obtain ⟨b', hb', rfl⟩ := List.mem_map.1 hi
    refine ⟨b', hb', ?_⟩
    have hfirst := hall b (by simp [hblocks])
    change b.leftEdge + _ ≤ b'.rightEdge at hle
    rw [List.map_cons] at hbytes
    omega

/-- `tcp_sack_isLost` decides the documented predicate exactly when the scoreboard is judged
right. -/
theorem sackIsLost_documented_iff (t : Tcb) (blocks : List SackData) (seqNum : Nat)
    (h : t.Scoreboard blocks) (hseq : t.Unsacked blocks seqNum) :
    (t.sackIsLost seqNum = true ↔ DocumentedLost t.getMSS blocks seqNum) ↔
      JudgedRight t.getMSS blocks seqNum := by
  rw [h.sackIsLost_iff hseq, h.documentedLost_iff]
  unfold JudgedRight
  by_cases hall : ∀ b ∈ blocks, seqNum + t.getMSS ≤ b.leftEdge
  · rw [if_pos hall, and_iff_right hall]
    by_cases hbytes : (tcpDupThresh - 1) * t.getMSS < bytesAbove blocks seqNum
    · exact iff_of_true (iff_of_true (h.exists_of_bytes hall hbytes) hbytes) (Or.inl hbytes)
    · simp [hbytes]
  · rw [if_neg hall]
    constructor
    · intro hiff
      by_contra hbytes
      exact hall (hiff.2 (Nat.lt_of_not_le hbytes)).1
    · intro hbytes
      exact iff_of_false (fun hc => hall hc.1) (by omega)

/-- The scoreboard of a connection with segments of 1000 bytes from number 1 on. -/
def reported (blocks : List SackData) : Tcb :=
  { zeroTcb with
    SND := ⟨1, 20001, 0, 0, 0⟩
    scoreboard := blocks ++ List.replicate (4 - blocks.length) ⟨0, 0⟩
    congestionData := { zeroCongestionVar with SMSS := 1000 } }

/-- Three segments above the first one: it is lost. -/
theorem sackIsLost_documented_reported :
    (reported [⟨1001, 4001⟩]).sackIsLost 1 = true ∧ DocumentedLost 1000 [⟨1001, 4001⟩] 1 := by
  have h : (reported [⟨1001, 4001⟩]).Scoreboard [⟨1001, 4001⟩] := by
    refine ⟨by decide, rfl, ⟨by decide, by decide⟩, ?_, by decide, by decide⟩
    intro b hb
    obtain rfl := List.mem_singleton.1 hb
    exact ⟨1, 4, rfl, rfl⟩
  have hseq : (reported [⟨1001, 4001⟩]).Unsacked [⟨1001, 4001⟩] 1 := by
    refine ⟨?_, by decide, by decide⟩
    simp [Covers, SackData.interval]
  have hiff := sackIsLost_documented_iff _ _ 1 h hseq
  have hlost : (reported [⟨1001, 4001⟩]).sackIsLost 1 = true := by decide
  refine ⟨hlost, (hiff.2 ?_).1 hlost⟩
  unfold JudgedRight
  exact Or.inl (by decide)

def DecidesDocumented : Prop :=
  ∀ (t : Tcb) (blocks : List SackData) (seqNum : Nat), t.Scoreboard blocks →
    t.Unsacked blocks seqNum →
      (t.sackIsLost seqNum = true ↔ DocumentedLost t.getMSS blocks seqNum)

/-- A segment between two blocks, with three segments SACKed above it, is not taken for lost. -/
theorem not_decidesDocumented : ¬DecidesDocumented := by
  intro h
  have hboard : (reported [⟨1001, 2001⟩, ⟨3001, 6001⟩]).Scoreboard
      [⟨1001, 2001⟩, ⟨3001, 6001⟩] := by
    refine ⟨by decide, rfl, ⟨by decide, by decide⟩, ?_, by decide, by decide⟩
    intro b hb
    rcases List.mem_cons.1 hb with rfl | hb
    · exact ⟨1, 2, rfl, rfl⟩
    · obtain rfl := List.mem_singleton.1 hb
      exact ⟨3, 6, rfl, rfl⟩
  have hseq : (reported [⟨1001, 2001⟩, ⟨3001, 6001⟩]).Unsacked
      [⟨1001, 2001⟩, ⟨3001, 6001⟩] 2001 := by
    refine ⟨?_, by decide, by decide⟩
    simp [Covers, SackData.interval]
  have hlost := (h _ _ 2001 hboard hseq).2 (Or.inr (by decide))
  revert hlost
  decide

end Tcb

end NetSim.Tcp
