import NetSim.Tcp.SackLost

/-!
# Generating the SACK option (`SACK.c`, `TCP_Packet.c`)

`set_sack_option` joins the out of order segments that touch into blocks, which cover the longest
part of the queue, from its start, that the room is enough for.
-/

namespace NetSim.Tcp

open NetSim.Lib

def Segment.interval (p : Segment) : Interval := ⟨p.seqNum, p.seqNum + p.segLen⟩

/-- `SACK_OPTION_LEN`, kept in a `UINT8`. -/
def sackOptionLen (n : Nat) : Nat := (sackOptionFixLen + n * sackDataLen) % 2 ^ 8

/-- `get_sack_data_count`, of an option of this length. -/
def getSackDataCount (len : Nat) : Nat := (len - sackOptionFixLen) / sackDataLen

/-- Some `n` intervals cover the numbers of the segments. -/
def Needs (segs : List Segment) (n : Nat) : Prop :=
  ∃ blocks : List Interval, blocks.length ≤ n ∧
    ∀ k, Covers blocks k ↔ Covers (segs.map Segment.interval) k

/-- `pre` is the longest part of the queue, from its start, that needs at most `maxData` blocks. -/
structure LongestStart (maxData : Nat) (segs pre : List Segment) : Prop where
  start : pre <+: segs
  fits : Needs pre maxData
  longest : ∀ pre', pre' <+: segs → Needs pre' maxData → pre'.length ≤ pre.length

/-- Sorted segments above `RCV.NXT`, not empty and without overlap, whose numbers and bytes stay
below `2 ^ 32`. -/
structure OutOfOrder (t : Tcb) : Prop where
  ordered : Ordered (t.outOfOrderSegment.segments.map Segment.interval)
  above : ∀ p ∈ t.outOfOrderSegment.segments, t.RCV.NXT < p.seqNum
  ends_lt : ∀ p ∈ t.outOfOrderSegment.segments, p.seqNum + p.segLen < 2 ^ 32
  hdr_pos : ∀ p ∈ t.outOfOrderSegment.segments, 0 < p.hdrLength
  bytes_lt : (t.outOfOrderSegment.segments.map Segment.dPacketSize).sum < 2 ^ 32

/-- What is asked of the blocks of the option. -/
structure ReportsQueue (maxData : Nat) (segs : List Segment) (blocks : List SackData) : Prop where
  nonempty : blocks ≠ []
  separated : Separated (blocks.map SackData.interval)
  union : ∃ pre, LongestStart maxData segs pre ∧
    ∀ n, Covers (blocks.map SackData.interval) n ↔ Covers (pre.map Segment.interval) n
  count_le : blocks.length ≤ maxData
  count_eq : getSackDataCount (sackOptionLen blocks.length) = blocks.length

section Fill

variable {rest : List Segment} {done : List SackData} {cur : SackData} {maxData lastSeq len : Nat}

theorem sackBlocks_fill (hright : u32 (lastSeq + len) = cur.rightEdge) (hlast : lastSeq ≠ 0)
    (hdone : done.length < maxData)
    (hrest : ∀ p ∈ rest, p.seqNum ≠ 0 ∧ p.seqEnd = p.seqNum + p.segLen) :
    ∃ pre post, rest = pre ++ post ∧
      (sackBlocks maxData rest done cur lastSeq len).map SackData.interval =
        done.map SackData.interval ++ coalesceFrom cur.interval (pre.map Segment.interval) ∧
      (sackBlocks maxData rest done cur lastSeq len).length ≤ maxData ∧
      (post = [] ∨ (sackBlocks maxData rest done cur lastSeq len).length = maxData ∧
        ∀ p ∈ post.head?,
          ((cur.interval :: pre.map Segment.interval).map Interval.hi).getLast? ≠
            some p.seqNum) := by
  induction rest generalizing done cur lastSeq len with
  | nil =>
    refine ⟨[], [], rfl, ?_, ?_, Or.inl rfl⟩
    · simp [sackBlocks, coalesceFrom]
    · simp [sackBlocks]
      omega
  | cons p rest ih =>
    obtain ⟨hp, hend⟩ := hrest p List.mem_cons_self
    have hrest' : ∀ q ∈ rest, q.seqNum ≠ 0 ∧ q.seqEnd = q.seqNum + q.segLen :=
      fun q hq => hrest q (List.mem_cons_of_mem _ hq)
    rw [sackBlocks, if_pos hlast]
    by_cases hnext : p.seqNum = u32 (lastSeq + len)
    · -- the segment touches the block
      rw [if_pos hnext]
      have htouch : p.interval.lo = cur.interval.hi := hnext.trans hright
      have hblock : SackData.interval { cur with rightEdge := p.seqEnd } =
          ⟨cur.interval.lo, p.interval.hi⟩ := by
        rw [SackData.interval, hend]
        rfl
      have hfill : u32 (p.seqNum + p.segLen) =
          SackData.rightEdge { cur with rightEdge := p.seqEnd } := rfl
      obtain ⟨pre, post, hsplit, hmap, hle, hstop⟩ := ih hfill hp hdone hrest'
      refine ⟨p :: pre, post, by rw [hsplit]; rfl, ?_, hle, ?_⟩
      · rw [hmap, hblock, List.map_cons, coalesceFrom_cons, if_pos htouch]
      · rw [hblock] at hstop
        simpa using hstop
    · rw [if_neg hnext]
      have hgap : ¬p.interval.lo = cur.interval.hi := by
        rw [hright] at hnext
        exact hnext
      split
      · -- a new block
        next hroom =>
        have hblock : SackData.interval ⟨p.seqNum, p.seqEnd⟩ = p.interval := by
          rw [SackData.interval, hend]
          rfl
        have hdone' : (done ++ [cur]).length < maxData := by
          rw [List.length_append, List.length_singleton]
          omega
        have hfill : u32 (p.seqNum + p.segLen) = SackData.rightEdge ⟨p.seqNum, p.seqEnd⟩ := rfl
        obtain ⟨pre, post, hsplit, hmap, hle, hstop⟩ := ih hfill hp hdone' hrest'
        refine ⟨p :: pre, post, by rw [hsplit]; rfl, ?_, hle, ?_⟩
        · rw [hmap, hblock, List.map_cons, coalesceFrom_cons, if_neg hgap]
          simp
        · rw [hblock] at hstop
          simpa using hstop
      · -- no room for another block
        next hroom =>
        refine ⟨[], p :: rest, rfl, ?_, ?_, Or.inr ⟨?_, ?_⟩⟩
        · simp [coalesceFrom]
        · simp
          omega
        · simp
          omega
        · intro q hq
          obtain rfl : p = q := by simpa using hq
          simpa using fun heq => hgap heq.symm

end Fill

section Blocks

variable {segs : List Segment} {maxData : Nat}

theorem longestStart_of_stop {p : Segment} {pre post : List Segment}
    (hordered : Ordered ((p :: pre ++ post).map Segment.interval))
    (hle : (coalesceFrom p.interval (pre.map Segment.interval)).length ≤ maxData)
    (hstop : post = [] ∨
      (coalesceFrom p.interval (pre.map Segment.interval)).length = maxData ∧
        ∀ q ∈ post.head?, ((p.interval :: pre.map Segment.interval).map Interval.hi).getLast? ≠
          some q.seqNum) :
    LongestStart maxData (p :: pre ++ post) (p :: pre) := by
  have hsub (pre' : List Segment) (hpre : pre' <+: p :: pre ++ post) :
      Ordered (pre'.map Segment.interval) :=
    hordered.sublist (hpre.sublist.map _)
  refine ⟨List.prefix_append _ _, ?_, ?_⟩
  · exact ⟨_, hle, covers_coalesceFrom (hsub _ (List.prefix_append _ _))⟩
  · rintro pre' hpre' ⟨blocks, hblocks, hcovers⟩
    rcases hstop with rfl | ⟨hfull, hgap⟩
    · rw [List.append_nil] at hpre'
      exact hpre'.length_le
    · by_contra hlonger
      -- a longer start goes on with a segment that needs a block of its own
      obtain ⟨more, hmore⟩ := List.prefix_of_prefix_length_le (List.prefix_append _ _) hpre'
        (Nat.le_of_not_le hlonger)
      cases more with
      | nil =>
        rw [List.append_nil] at hmore
        exact hlonger (Nat.le_of_eq (by rw [hmore]))
      | cons q more =>
        subst hmore
        have hhead : q ∈ post.head? := by
          obtain ⟨tail, htail⟩ := hpre'
          have hpost : q :: more ++ tail = post := by
            rw [List.append_assoc] at htail
            exact List.append_cancel_left htail
          rw [← hpost]
          rfl
        have hord := hsub _ hpre'
        have hjoin : coalesceFrom p.interval
            (pre.map Segment.interval ++ q.interval :: more.map Segment.interval) = _ :=
          coalesceFrom_append (hgap q hhead)
        have hmap : (p :: pre ++ q :: more).map Segment.interval =
            p.interval :: (pre.map Segment.interval ++ q.interval :: more.map Segment.interval) := by
          simp
        rw [hmap] at hord hcovers
        have hlen := (separated_coalesceFrom hord).length_le fun n =>
          (hcovers n).trans (covers_coalesceFrom hord n).symm
        have hpos := List.length_pos_iff.2
          (coalesceFrom_ne_nil q.interval (more.map Segment.interval))
        rw [hjoin, List.length_append] at hlen
        omega

theorem reportsQueue_sackBlocks (hordered : Ordered (segs.map Segment.interval))
    (hsegs : ∀ p ∈ segs, p.seqNum ≠ 0 ∧ p.seqEnd = p.seqNum + p.segLen) (hne : segs ≠ [])
    (hpos : 0 < maxData) (hmax : maxData ≤ 4) :
    ReportsQueue maxData segs (sackBlocks maxData segs [] ⟨0, 0⟩ 0 0) := by
  cases segs with
  | nil => exact absurd rfl hne
  | cons p rest =>
    obtain ⟨hp, hend⟩ := hsegs p List.mem_cons_self
    have hfirst : sackBlocks maxData (p :: rest) [] ⟨0, 0⟩ 0 0 =
        sackBlocks maxData rest [] ⟨p.seqNum, p.seqEnd⟩ p.seqNum p.segLen := by
      rw [sackBlocks, if_neg (by simp), if_pos (by simpa using hpos)]
    have hblock : SackData.interval ⟨p.seqNum, p.seqEnd⟩ = p.interval := by
      rw [SackData.interval, hend]
      rfl
    have hfill : u32 (p.seqNum + p.segLen) = SackData.rightEdge ⟨p.seqNum, p.seqEnd⟩ := rfl
    have hnone : ([] : List SackData).length < maxData := hpos
    obtain ⟨pre, post, rfl, hmap, hle, hstop⟩ := sackBlocks_fill hfill hp hnone
      fun q hq => hsegs q (List.mem_cons_of_mem _ hq)
    rw [hfirst]
    rw [hblock] at hmap hstop
    rw [List.map_nil, List.nil_append] at hmap
    generalize sackBlocks maxData (pre ++ post) [] ⟨p.seqNum, p.seqEnd⟩ p.seqNum p.segLen =
      blocks at hmap hle hstop ⊢
    have hlen : blocks.length =
        (coalesceFrom p.interval (pre.map Segment.interval)).length := by
      rw [← hmap, List.length_map]
    have hpre : Ordered (p.interval :: pre.map Segment.interval) :=
      hordered.sublist ((List.sublist_append_left (p :: pre) post).map _)
    refine ⟨?_, ?_, ⟨p :: pre, ?_, ?_⟩, hle, ?_⟩
    · rintro rfl
      exact coalesceFrom_ne_nil _ _ hmap.symm
    · rw [hmap]
      exact separated_coalesceFrom hpre
    · rw [hlen] at hle hstop
      exact longestStart_of_stop hordered hle hstop
    · rw [hmap]
      exact covers_coalesceFrom hpre
    · unfold getSackDataCount sackOptionLen sackOptionFixLen sackDataLen
      omega

end Blocks

/-! ## The option -/

variable {t : Tcb}

theorem OutOfOrder.seqEnd_eq (h : OutOfOrder t) {p : Segment}
    (hp : p ∈ t.outOfOrderSegment.segments) : p.seqNum ≠ 0 ∧ p.seqEnd = p.seqNum + p.segLen := by
  have habove := h.above p hp
  exact ⟨by omega, u32_of_lt (h.ends_lt p hp)⟩

theorem queueBytes_eq {queue : List QueueInfo}
    (h : ((queue.map QueueInfo.packet).map Segment.dPacketSize).sum < 2 ^ 32) :
    queueBytes queue = ((queue.map QueueInfo.packet).map Segment.dPacketSize).sum := by
  induction queue with
  | nil => rfl
  | cons info queue ih =>
    simp only [List.map_cons, List.sum_cons] at h ⊢
    rw [TcpQueue.queueBytes_cons, ih (by omega), u32_of_lt (by omega)]

theorem OutOfOrder.size_eq_zero_iff (h : OutOfOrder t) :
    t.outOfOrderSegment.size = 0 ↔ t.outOfOrderSegment.segments = [] := by
  have hlt := h.bytes_lt
  rw [t.outOfOrderSegment.size_eq, queueBytes_eq hlt]
  unfold TcpQueue.segments at hlt
  rw [u32_of_lt hlt]
  have hpos := h.hdr_pos
  unfold TcpQueue.segments at hpos ⊢
  generalize t.outOfOrderSegment.queue = queue at hpos ⊢
  cases queue with
  | nil => simp
  | cons info queue =>
    have hinfo := hpos info.packet (by simp)
    simp [Segment.dPacketSize]
    omega

theorem getMaxSackData_le (option : List TcpOption) : getMaxSackData option ≤ 4 := by
  unfold getMaxSackData optionsLen maxTcpHdrSize tcpHdrSize sackOptionFixLen sackDataLen
  omega

theorem optionsLen_append_sack (option : List TcpOption) (blocks : List SackData) :
    optionsLen (option ++ [.sack blocks]) =
      optionsLen option + sackOptionFixLen + blocks.length * sackDataLen := by
  simp [optionsLen, TcpOption.len]
  omega

theorem paddedLen_le {len : Nat} (h : len ≤ maxTcpHdrSize) :
    paddedLen len ≤ maxTcpHdrSize ∧ paddedLen len % 4 = 0 := by
  unfold paddedLen maxTcpHdrSize at *
  split
  · next hzero => exact ⟨h, hzero⟩
  · omega

theorem optionsLen_sack_le {option : List TcpOption} {blocks : List SackData}
    (hroom : getMaxSackData option ≠ 0) (hle : blocks.length ≤ getMaxSackData option) :
    optionsLen (option ++ [.sack blocks]) ≤ maxTcpHdrSize := by
  rw [optionsLen_append_sack]
  unfold getMaxSackData maxTcpHdrSize sackOptionFixLen sackDataLen at *
  omega

/-- `set_sack_option` reports the longest start of the queue that its room is enough for, or nothing
when it may not or need not. -/
theorem setSackOption_reports (t : Tcb) (option : List TcpOption) (h : OutOfOrder t)
    (hlen : optionsLen option ≤ maxTcpHdrSize) :
    (if t.isSackPermitted = true ∧ t.outOfOrderSegment.segments ≠ [] ∧
        getMaxSackData option ≠ 0 then
      ∃ blocks, t.setSackOption option = option ++ [.sack blocks] ∧
        ReportsQueue (getMaxSackData option) t.outOfOrderSegment.segments blocks
    else t.setSackOption option = option) ∧
    paddedLen (optionsLen (t.setSackOption option)) ≤ maxTcpHdrSize ∧
    paddedLen (optionsLen (t.setSackOption option)) % 4 = 0 := by
  have hsize := h.size_eq_zero_iff
  by_cases hemits : t.isSackPermitted = true ∧ t.outOfOrderSegment.segments ≠ [] ∧
      getMaxSackData option ≠ 0
  · obtain ⟨hpermitted, hne, hroom⟩ := hemits
    have hreports := reportsQueue_sackBlocks h.ordered (fun p hp => h.seqEnd_eq hp) hne
      (Nat.pos_of_ne_zero hroom) (getMaxSackData_le option)
    have hset : t.setSackOption option = option ++ [.sack (sackBlocks (getMaxSackData option)
        t.outOfOrderSegment.segments [] ⟨0, 0⟩ 0 0)] := by
      unfold Tcb.setSackOption
      rw [if_neg (by simp [hpermitted]), if_neg (fun hz => hne (hsize.1 hz)), if_neg hroom]
    rw [if_pos ⟨hpermitted, hne, hroom⟩, hset]
    exact ⟨⟨_, rfl, hreports⟩, paddedLen_le (optionsLen_sack_le hroom hreports.count_le)⟩
  · have hset : t.setSackOption option = option := by
      unfold Tcb.setSackOption
      split
      · rfl
      · split
        · rfl
        · split
          · rfl
          · next hpermitted hne hroom =>
            exact absurd ⟨by simpa using hpermitted, fun hnil => hne (hsize.2 hnil), hroom⟩ hemits
    rw [if_neg hemits, hset]
    exact ⟨rfl, paddedLen_le hlen⟩

/-- A receiver at byte 1 that holds two segments in a row and one further on. -/
def holding : Tcb :=
  { zeroTcb with
    isSackPermitted := true
    RCV := ⟨1, 4096⟩
    outOfOrderSegment :=
      ((TcpQueue.empty.addPacketToQueue (dataSegment 2001 100) 0).addPacketToQueue
        (dataSegment 3001 50) 0).addPacketToQueue (dataSegment 2101 100) 0 }

theorem setSackOption_reports_holding :
    ∃ blocks, holding.setSackOption [] = [.sack blocks] ∧
      ReportsQueue 4 holding.outOfOrderSegment.segments blocks := by
  have h : OutOfOrder holding :=
    ⟨⟨by decide, by decide⟩, by decide, by decide, by decide, by decide⟩
  obtain ⟨hemits, -⟩ := setSackOption_reports holding [] h (by decide)
  rwa [if_pos (by decide)] at hemits

end NetSim.Tcp
