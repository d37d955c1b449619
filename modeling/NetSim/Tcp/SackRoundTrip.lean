import NetSim.Tcp.Socket
import NetSim.Lib.Tiling

/-!
# The SACK option between a receiver and a sender (`SACK.c`)

A receiver reports half-open blocks `[left, right)`, and a sender marks the segments that start in
`[left, right]`. Numbers are compared as `UINT32`, so a block that runs over `2 ^ 32` marks nothing.
-/

namespace NetSim.Tcp

open NetSim.Lib

/-- Where `p` lies in a stream whose first sequence number is `start`. -/
def Segment.offset (start : Nat) (p : Segment) : Nat := sub32 p.seqNum start

/-- The segments cut a stream of `total` bytes, from the sequence number `start` on, into pieces. -/
structure Segmentation (start total : Nat) (segs : List Segment) : Prop where
  start_lt : start < 2 ^ 32
  seqNum_lt : ∀ p ∈ segs, p.seqNum < 2 ^ 32
  tiles : Tiles (Segment.offset start) (fun p => p.offset start + p.segLen) 0 segs total
  total_lt : total < 2 ^ 32

/-- A queue that holds some of the segments, each once and in order. -/
structure QueueOf (segs : List Segment) (q : TcpQueue) : Prop where
  sorted : q.segments.Pairwise fun p p' => p.seqNum < p'.seqNum
  mem : ∀ p ∈ q.segments, p ∈ segs

def Segment.Inside (p : Segment) (b : SackData) : Prop :=
  sub32 p.seqNum b.leftEdge + p.segLen ≤ sub32 b.rightEdge b.leftEdge
deriving Decidable

/-! ## Reported blocks -/

inductive BlockOf : List Segment → SackData → Prop
  | single (p : Segment) : BlockOf [p] ⟨p.seqNum, p.seqEnd⟩
  | snoc {run : List Segment} {b : SackData} (p : Segment) (h : BlockOf run b)
      (hp : p.seqNum = b.rightEdge) : BlockOf (run ++ [p]) ⟨b.leftEdge, p.seqEnd⟩

theorem BlockOf.head {run : List Segment} {b : SackData} (h : BlockOf run b) :
    ∃ p l, run = p :: l ∧ p.seqNum = b.leftEdge := by
  induction h with
  | single p => exact ⟨p, [], rfl, rfl⟩
  | snoc q _ _ ih =>
    obtain ⟨p, l, rfl, hp⟩ := ih
    exact ⟨p, l ++ [q], rfl, hp⟩

/-- The block covers a run of `held` that the next segment does not prolong. -/
def Reports (held : List Segment) (b : SackData) : Prop :=
  ∃ l₁ run l₂, held = l₁ ++ run ++ l₂ ∧ BlockOf run b ∧
    ∀ p, l₂.head? = some p → p.seqNum ≠ b.rightEdge

section Blocks

variable {held rest l₁ run : List Segment} {done : List SackData} {cur b : SackData}
  {maxData lastSeq len : Nat}

theorem reports_sackBlocks_fill (hheld : held = l₁ ++ run ++ rest) (hcur : BlockOf run cur)
    (hright : u32 (lastSeq + len) = cur.rightEdge) (hlast : lastSeq ≠ 0)
    (hrest : ∀ p ∈ rest, p.seqNum ≠ 0) (hdone : ∀ b ∈ done, Reports held b)
    (hb : b ∈ sackBlocks maxData rest done cur lastSeq len) : Reports held b := by
  induction rest generalizing l₁ run done cur lastSeq len with
  | nil =>
    rw [sackBlocks, List.mem_append, List.mem_singleton] at hb
    rcases hb with hb | rfl
    · exact hdone b hb
    · exact ⟨l₁, run, [], hheld, hcur, by simp⟩
  | cons p rest ih =>
    have hp : p.seqNum ≠ 0 := hrest p List.mem_cons_self
    have hrest' : ∀ q ∈ rest, q.seqNum ≠ 0 := fun q hq => hrest q (List.mem_cons_of_mem _ hq)
    rw [sackBlocks, if_pos hlast] at hb
    by_cases hnext : p.seqNum = u32 (lastSeq + len)
    · -- the segment prolongs the block
      rw [if_pos hnext] at hb
      have hheld' : held = l₁ ++ (run ++ [p]) ++ rest := by simpa using hheld
      exact ih hheld' (.snoc p hcur (hnext.trans hright)) rfl hp hrest' hdone hb
    · -- the block is finished
      have hfinished : Reports held cur := by
        refine ⟨l₁, run, p :: rest, hheld, hcur, ?_⟩
        rintro q hq
        obtain rfl : p = q := by simpa using hq
        rwa [← hright]
      rw [if_neg hnext] at hb
      have hdone' : ∀ b ∈ done ++ [cur], Reports held b := by
        intro b hb
        rcases List.mem_append.1 hb with hb | hb
        · exact hdone b hb
        · rwa [List.mem_singleton.1 hb]
      split at hb
      · have hheld' : held = (l₁ ++ run) ++ [p] ++ rest := by simpa using hheld
        exact ih hheld' (.single p) rfl hp hrest' hdone' hb
      · exact hdone' b hb

theorem reports_sackBlocks (hsorted : held.Pairwise fun p p' => p.seqNum < p'.seqNum)
    (hheld : held ≠ []) (hmax : 0 < maxData)
    (hb : b ∈ sackBlocks maxData held [] ⟨0, 0⟩ 0 0) : Reports held b := by
  cases held with
  | nil => exact absurd rfl hheld
  | cons p rest =>
    obtain ⟨hp, hsorted⟩ := List.pairwise_cons.1 hsorted
    have hrest : ∀ q ∈ rest, q.seqNum ≠ 0 := fun q hq => Nat.ne_of_gt (Nat.zero_lt_of_lt (hp q hq))
    rw [sackBlocks, if_neg (by simp), if_pos (by simpa using hmax)] at hb
    by_cases hzero : p.seqNum = 0
    · cases rest with
      | nil =>
        obtain rfl : b = ⟨p.seqNum, p.seqEnd⟩ := by simpa [sackBlocks] using hb
        exact ⟨[], [p], [], rfl, .single p, by simp⟩
      | cons q rest =>
        rw [sackBlocks, if_neg (by simpa using hzero), if_pos (by simpa using hmax)] at hb
        exact reports_sackBlocks_fill (show _ = [p] ++ [q] ++ rest from rfl) (.single q) rfl
          (hrest q List.mem_cons_self) (fun r hr => hrest r (List.mem_cons_of_mem _ hr))
          (by simp) hb
    · exact reports_sackBlocks_fill (show _ = [] ++ [p] ++ rest from rfl) (.single p) rfl hzero hrest
        (by simp) hb

end Blocks

/-! ## Blocks and segments -/

namespace Segmentation

variable {start total : Nat} {segs run held : List Segment} {b b' : SackData} {p : Segment}

theorem seqNum_eq (h : Segmentation start total segs) (hp : p ∈ segs) :
    p.seqNum = u32 (start + p.offset start) := by
  have := h.seqNum_lt p hp
  unfold Segment.offset sub32 u32
  omega

theorem blockOf (h : Segmentation start total segs) (hb : BlockOf run b) (hrun : ∀ p ∈ run, p ∈ segs) :
    ∃ lo hi, lo < hi ∧ hi ≤ total ∧ b.leftEdge = u32 (start + lo) ∧ b.rightEdge = u32 (start + hi) ∧
      Tiles (Segment.offset start) (fun p => p.offset start + p.segLen) lo run hi := by
  have hend (p : Segment) (hp : p ∈ segs) :
      p.seqEnd = u32 (start + (p.offset start + p.segLen)) := by
    have := h.seqNum_eq hp
    unfold Segment.seqEnd u32 at *
    omega
  induction hb with
  | single p =>
    have hp := hrun p List.mem_cons_self
    obtain ⟨-, hlt, hle⟩ := h.tiles.mem_bounds hp
    exact ⟨_, _, hlt, hle, h.seqNum_eq hp, hend p hp, rfl, hlt, rfl⟩
  | snoc p _ hnext ih =>
    obtain ⟨lo, hi, hlt, hle, hleft, hright, htiles⟩ :=
      ih fun q hq => hrun q (List.mem_append_left _ hq)
    have hp := hrun p (List.mem_append_right _ List.mem_cons_self)
    obtain ⟨-, hplt, hple⟩ := h.tiles.mem_bounds hp
    have htotal := h.total_lt
    have hoff : p.offset start = hi := by
      unfold Segment.offset
      rw [hnext, hright]
      unfold sub32 u32
      omega
    exact ⟨lo, _, by omega, hple, hleft, hend p hp, htiles.concat hoff hplt⟩

theorem mem_run (h : Segmentation start total segs) (hrun : ∀ p ∈ run, p ∈ segs) (hp : p ∈ segs)
    {lo hi : Nat}
    (htiles : Tiles (Segment.offset start) (fun p => p.offset start + p.segLen) lo run hi)
    (hlo : lo ≤ p.offset start) (hhi : p.offset start < hi) : p ∈ run := by
  obtain ⟨q, hq, hqlo, hqhi⟩ := htiles.exists_mem hlo hhi
  rw [← h.tiles.eq_of_overlap (hrun q hq) hp hqlo hqhi]
  exact hq

theorem bounds_of_inside (h : Segmentation start total segs) (hp : p ∈ segs) {lo hi : Nat}
    (hlt : lo < hi) (hle : hi ≤ total) (hleft : b.leftEdge = u32 (start + lo))
    (hright : b.rightEdge = u32 (start + hi)) (hin : p.Inside b) :
    lo ≤ p.offset start ∧ p.offset start < hi := by
  obtain ⟨-, hplt, hple⟩ := h.tiles.mem_bounds hp
  have htotal := h.total_lt
  unfold Segment.Inside at hin
  rw [h.seqNum_eq hp, hleft, hright] at hin
  unfold sub32 u32 at hin
  omega

variable (h : Segmentation start total segs) (hheld : ∀ p ∈ held, p ∈ segs)
  (hsorted : held.Pairwise fun p p' => p.seqNum < p'.seqNum)
include h hheld

theorem mem_of_inside (hb : Reports held b) (hp : p ∈ segs) (hin : p.Inside b) : p ∈ held := by
  obtain ⟨l₁, run, l2, rfl, hblock, -⟩ := hb
  have hrun : ∀ q ∈ run, q ∈ segs := fun q hq => hheld q (by simp [hq])
  obtain ⟨lo, hi, hlt, hle, hleft, hright, htiles⟩ := h.blockOf hblock hrun
  have hbounds := h.bounds_of_inside hp hlt hle hleft hright hin
  have := h.mem_run hrun hp htiles hbounds.1 hbounds.2
  simp [this]

theorem inside_iff (hb : Reports held b) (hp : p ∈ segs) (hwrap : b.leftEdge ≤ b.rightEdge) :
    p.Inside b ↔ b.leftEdge ≤ p.seqNum ∧ p.seqNum < b.rightEdge := by
  obtain ⟨l₁, run, l2, rfl, hblock, -⟩ := hb
  have hrun : ∀ q ∈ run, q ∈ segs := fun q hq => hheld q (by simp [hq])
  obtain ⟨lo, hi, hlt, hle, hleft, hright, htiles⟩ := h.blockOf hblock hrun
  obtain ⟨-, hplt, hple⟩ := h.tiles.mem_bounds hp
  have htotal := h.total_lt
  have hseq := h.seqNum_eq hp
  unfold Segment.Inside
  constructor
  · intro hin
    unfold sub32 u32 at *
    omega
  · intro hin
    have hbounds : lo ≤ p.offset start ∧ p.offset start < hi := by
      unfold u32 at *
      omega
    have hmem := h.mem_run hrun hp htiles hbounds.1 hbounds.2
    obtain ⟨hplo, -, hphi⟩ := htiles.mem_bounds hmem
    unfold sub32 u32 at *
    omega

include hsorted

theorem ne_rightEdge (hb : Reports held b) (hp : p ∈ held) (hwrap : b.leftEdge ≤ b.rightEdge) :
    p.seqNum ≠ b.rightEdge := by
  intro heq
  obtain ⟨l₁, run, l2, rfl, hblock, hnext⟩ := hb
  have hrun : ∀ q ∈ run, q ∈ segs := fun q hq => hheld q (by simp [hq])
  obtain ⟨lo, hi, hlt, hle, hleft, hright, htiles⟩ := h.blockOf hblock hrun
  have htotal := h.total_lt
  obtain ⟨first, hfirst, hfirstLeft⟩ : ∃ q ∈ run, q.seqNum = b.leftEdge := by
    obtain ⟨q, l, rfl, hq⟩ := hblock.head
    exact ⟨q, List.mem_cons_self, hq⟩
  obtain ⟨hsorted1, hsorted2, hbefore⟩ := List.pairwise_append.1 hsorted
  rcases List.mem_append.1 hp with hp1 | hp2
  · rcases List.mem_append.1 hp1 with hpl1 | hprun
    · have := (List.pairwise_append.1 hsorted1).2.2 p hpl1 first hfirst
      omega
    · have hseq := h.seqNum_eq (hrun p hprun)
      obtain ⟨hplo, hplt, hphi⟩ := htiles.mem_bounds hprun
      rw [heq, hright] at hseq
      unfold u32 at hseq
      omega
  · -- the segment after the run would start inside the block
    cases l2 with
    | nil => cases hp2
    | cons q l2 =>
      have hne : q.seqNum ≠ b.rightEdge := hnext q rfl
      have hle' : q.seqNum ≤ p.seqNum := by
        rcases List.mem_cons.1 hp2 with rfl | hp2
        · exact Nat.le_refl _
        · exact Nat.le_of_lt ((List.pairwise_cons.1 hsorted2).1 p hp2)
      have hq : q ∈ segs := hheld q (by simp)
      have hgt : ∀ r ∈ run, r.seqNum < q.seqNum := fun r hr =>
        hbefore r (List.mem_append_right _ hr) q List.mem_cons_self
      have hqleft : b.leftEdge ≤ q.seqNum := by
        have := hgt first hfirst
        omega
      have hqrun : q ∈ run := by
        have hseq := h.seqNum_eq hq
        obtain ⟨-, hqlt, hqle⟩ := h.tiles.mem_bounds hq
        have hbounds : lo ≤ q.offset start ∧ q.offset start < hi := by
          unfold u32 at *
          omega
        exact h.mem_run hrun hq htiles hbounds.1 hbounds.2
      exact absurd (hgt q hqrun) (Nat.lt_irrefl _)

theorem not_inside_both (hb : Reports held b) (hb' : Reports held b')
    (hwrap : b.rightEdge < b.leftEdge) (hwrap' : b'.leftEdge ≤ b'.rightEdge) (hp : p ∈ segs)
    (hin : p.Inside b) (hin' : p.Inside b') : False := by
  have hmax : ∀ z ∈ held, z.seqNum ≠ b'.rightEdge := fun _ hz =>
    h.ne_rightEdge hheld hsorted hb' hz hwrap'
  obtain ⟨l₁, run, l2, rfl, hblock, -⟩ := hb
  obtain ⟨l1', run', l2', hheld', hblock', -⟩ := hb'
  have hrun : ∀ q ∈ run, q ∈ segs := fun q hq => hheld q (by simp [hq])
  have hrun' : ∀ q ∈ run', q ∈ segs := fun q hq => hheld q (by rw [hheld']; simp [hq])
  obtain ⟨lo, hi, hlt, hle, hleft, hright, htiles⟩ := h.blockOf hblock hrun
  obtain ⟨lo', hi', hlt', hle', hleft', hright', htiles'⟩ := h.blockOf hblock' hrun'
  have htotal := h.total_lt
  have hseq := h.seqNum_eq hp
  have hbounds := h.bounds_of_inside hp hlt hle hleft hright hin
  have hbounds' := h.bounds_of_inside hp hlt' hle' hleft' hright' hin'
  have hmem := h.mem_run hrun hp htiles hbounds.1 hbounds.2
  -- the run is in order, so the segment comes before the wrap
  have hpleft : b.leftEdge ≤ p.seqNum := by
    obtain ⟨hsorted1, -, -⟩ := List.pairwise_append.1 hsorted
    obtain ⟨-, hsortedRun, -⟩ := List.pairwise_append.1 hsorted1
    obtain ⟨q, l, rfl, hq⟩ := hblock.head
    rw [← hq]
    rcases List.mem_cons.1 hmem with rfl | hpl
    · exact Nat.le_refl _
    · exact Nat.le_of_lt ((List.pairwise_cons.1 hsortedRun).1 p hpl)
  -- so the other block ends inside this one
  have hhi' : hi' < hi := by
    rw [hleft, hseq] at hpleft
    rw [hleft, hright] at hwrap
    rw [hleft', hright'] at hwrap'
    unfold u32 at hpleft hwrap hwrap'
    omega
  obtain ⟨z, hz, hzlo, hzhi⟩ := htiles.exists_mem (show lo ≤ hi' by omega) hhi'
  have hzoff : z.offset start = hi' := by
    apply Nat.le_antisymm hzlo
    apply Nat.le_of_not_lt
    intro hlt''
    obtain ⟨w, hw, hwlo, hwhi⟩ := htiles'.exists_mem (show lo' ≤ hi' - 1 by omega) (by omega)
    have hzw : w = z := by
      rcases Nat.le_total (w.offset start) (z.offset start) with hwz | hwz
      · exact h.tiles.eq_of_overlap (hrun' w hw) (hrun z hz) hwz (by omega)
      · exact (h.tiles.eq_of_overlap (hrun z hz) (hrun' w hw) hwz (by omega)).symm
    have := (htiles'.mem_bounds (hzw ▸ hw)).2.2
    omega
  apply hmax z (by simp [hz])
  rw [h.seqNum_eq (hrun z hz), hzoff, hright']

end Segmentation

/-! ## The option -/

theorem getSackOption_append (l₁ l2 : List TcpOption) :
    getSackOption (l₁ ++ l2) = (getSackOption l₁).or (getSackOption l2) := by
  unfold getSackOption
  rw [List.findSome?_append]

theorem getSackOption_timestampOption (s : Conn) (ack : Bool) :
    getSackOption (s.timestampOption ack) = none := by
  unfold Conn.timestampOption
  split <;> rfl

theorem reports_createAck {segs : List Segment} {r : Conn}
    (hr : QueueOf segs r.tcb.outOfOrderSegment) {seqno ackno : Nat} {sackData : List SackData}
    (hopt : getSackOption (r.createAck seqno ackno).option = some sackData) {b : SackData}
    (hb : b ∈ sackData) : Reports r.tcb.outOfOrderSegment.segments b := by
  change getSackOption (r.tcb.setSackOption (r.timestampOption true)) = _ at hopt
  have hts := getSackOption_timestampOption r true
  unfold Tcb.setSackOption at hopt
  split at hopt
  · rw [hts] at hopt
    cases hopt
  · split at hopt
    · rw [hts] at hopt
      cases hopt
    · next hsize =>
      split at hopt
      · rw [hts] at hopt
        cases hopt
      · next hmax =>
        rw [getSackOption_append, hts, Option.none_or] at hopt
        obtain rfl : _ = sackData := Option.some.inj hopt
        apply reports_sackBlocks hr.sorted _ (Nat.pos_of_ne_zero hmax) hb
        intro hnil
        apply hsize
        rw [r.tcb.outOfOrderSegment.size_eq, List.map_eq_nil_iff.1 hnil]
        rfl

namespace Tcb

/-- The blocks that `receive_sack_option` goes through. -/
def blocksRead (t : Tcb) (option : List TcpOption) : List SackData :=
  if t.isSackPermitted then (getSackOption option).getD [] else []

/-- The test of `update_sack_flag` on some block. -/
def marks (blocks : List SackData) (p : Segment) : Bool :=
  blocks.any fun b => b.leftEdge ≤ p.seqNum && p.seqNum ≤ b.rightEdge

theorem queue_foldl_updateSackFlag (blocks : List SackData) (t : Tcb) :
    (blocks.foldl (fun t b => t.updateSackFlag b.leftEdge b.rightEdge)
        t).retransmissionQueue.queue =
      t.retransmissionQueue.queue.map fun info =>
        { info with isSacked := info.isSacked || marks blocks info.packet } := by
  induction blocks generalizing t with
  | nil => simp [marks]
  | cons b blocks ih =>
    rw [List.foldl_cons, ih]
    simp only [updateSackFlag, TcpQueue.mapSacked, List.map_map]
    apply List.map_congr_left
    intro info _
    simp only [Function.comp_apply, marks, List.any_cons, Bool.or_assoc]

theorem queue_receiveSackOption (t : Tcb) (option : List TcpOption) :
    (t.receiveSackOption option).retransmissionQueue.queue =
      t.retransmissionQueue.queue.map fun info =>
        { info with isSacked := info.isSacked || marks (t.blocksRead option) info.packet } := by
  have hnone : t.retransmissionQueue.queue = t.retransmissionQueue.queue.map fun info =>
      { info with isSacked := info.isSacked || marks [] info.packet } := by
    simp [marks]
  unfold receiveSackOption blocksRead
  dsimp only
  split
  · next hperm =>
    rw [if_neg (by simp [hperm])]
    exact hnone
  · next hperm =>
    rw [if_pos (by simpa using hperm)]
    cases getSackOption option with
    | none => exact hnone
    | some sackData =>
      dsimp only
      split
      · next hnil =>
        rw [hnil]
        exact hnone
      · exact queue_foldl_updateSackFlag sackData _

end Tcb

/-! ## The round trip -/

/-- The segments of the sender `t` that become marked are those inside a block that it reads, and
the receiver `r` has them. -/
def SackExact (r : Conn) (t : Tcb) (option : List TcpOption) : Prop :=
  List.Forall₂
    (fun info info' => info'.packet = info.packet ∧
      (info.isSacked = false → (info'.isSacked = true ↔
        ∃ b ∈ t.blocksRead option, info.packet.Inside b)) ∧
      (info.isSacked = false → info'.isSacked = true →
        info.packet ∈ r.tcb.outOfOrderSegment.segments))
    t.retransmissionQueue.queue (t.receiveSackOption option).retransmissionQueue.queue
deriving Decidable

/-- No unmarked segment starts at the right edge of a block, or lies inside one that runs over `2 ^
32`. -/
def SackSafe (t : Tcb) (option : List TcpOption) : Prop :=
  ∀ info ∈ t.retransmissionQueue.queue, info.isSacked = false → ∀ b ∈ t.blocksRead option,
    if b.leftEdge ≤ b.rightEdge then info.packet.seqNum ≠ b.rightEdge
    else ¬ info.packet.Inside b
deriving Decidable

theorem marks_eq_true {blocks : List SackData} {p : Segment} :
    Tcb.marks blocks p = true ↔
      ∃ b ∈ blocks, b.leftEdge ≤ p.seqNum ∧ p.seqNum ≤ b.rightEdge := by
  simp [Tcb.marks]

theorem mem_blocksRead {t : Tcb} {option : List TcpOption} {b : SackData}
    (h : b ∈ t.blocksRead option) : ∃ sackData, getSackOption option = some sackData ∧ b ∈ sackData := by
  unfold Tcb.blocksRead at h
  split at h
  · cases hopt : getSackOption option with
    | none =>
      rw [hopt] at h
      cases h
    | some sackData =>
      rw [hopt] at h
      exact ⟨sackData, rfl, h⟩
  · cases h

section RoundTrip

variable {start total : Nat} {segs held : List Segment} {blocks : List SackData} {p : Segment}

theorem marks_iff_inside (h : Segmentation start total segs) (hheld : ∀ p ∈ held, p ∈ segs)
    (hsorted : held.Pairwise fun p p' => p.seqNum < p'.seqNum)
    (hblocks : ∀ b ∈ blocks, Reports held b) (hp : p ∈ segs) :
    (Tcb.marks blocks p = true ↔ ∃ b ∈ blocks, p.Inside b) ↔
      ∀ b ∈ blocks, if b.leftEdge ≤ b.rightEdge then p.seqNum ≠ b.rightEdge else ¬ p.Inside b := by
  have hinside := fun b hb => h.inside_iff hheld (hblocks b hb) hp
  rw [marks_eq_true]
  constructor
  · intro hexact b hb
    split
    · next hwrap =>
      intro hedge
      obtain ⟨b', hb', hin⟩ := hexact.1 ⟨b, hb, by omega, Nat.le_of_eq hedge⟩
      have hmem := h.mem_of_inside hheld (hblocks b' hb') hp hin
      exact h.ne_rightEdge hheld hsorted (hblocks b hb) hmem hwrap hedge
    · next hwrap =>
      intro hin
      obtain ⟨b', hb', hle, hge⟩ := hexact.2 ⟨b, hb, hin⟩
      have hwrap' : b'.leftEdge ≤ b'.rightEdge := by omega
      have hmem := h.mem_of_inside hheld (hblocks b hb) hp hin
      have hne := h.ne_rightEdge hheld hsorted (hblocks b' hb') hmem hwrap'
      have hin' : p.Inside b' := (hinside b' hb' hwrap').2 ⟨hle, by omega⟩
      exact h.not_inside_both hheld hsorted (hblocks b hb) (hblocks b' hb') (by omega) hwrap' hp
        hin hin'
  · intro hsafe
    constructor
    · rintro ⟨b, hb, hle, hge⟩
      have hwrap : b.leftEdge ≤ b.rightEdge := by omega
      have hne := hsafe b hb
      rw [if_pos hwrap] at hne
      exact ⟨b, hb, (hinside b hb hwrap).2 ⟨hle, by omega⟩⟩
    · rintro ⟨b, hb, hin⟩
      have hne := hsafe b hb
      split at hne
      · next hwrap =>
        obtain ⟨hle, hlt⟩ := (hinside b hb hwrap).1 hin
        exact ⟨b, hb, hle, Nat.le_of_lt hlt⟩
      · exact absurd hin hne

/-- The option marks exactly what it reports, and what the receiver has, if and only if no unmarked
segment starts at the right edge of a block or lies inside one that runs over `2 ^ 32`. -/
theorem sackExact_iff (h : Segmentation start total segs) {r : Conn}
    (hr : QueueOf segs r.tcb.outOfOrderSegment) {t : Tcb}
    (ht : ∀ p ∈ t.retransmissionQueue.segments, p ∈ segs) (seqno ackno : Nat) :
    SackExact r t (r.createAck seqno ackno).option ↔
      SackSafe t (r.createAck seqno ackno).option := by
  have hblocks : ∀ b ∈ t.blocksRead (r.createAck seqno ackno).option,
      Reports r.tcb.outOfOrderSegment.segments b := by
    intro b hb
    obtain ⟨sackData, hopt, hmem⟩ := mem_blocksRead hb
    exact reports_createAck hr hopt hmem
  have hiff : ∀ info ∈ t.retransmissionQueue.queue, _ := fun info hinfo =>
    marks_iff_inside h hr.mem hr.sorted hblocks (ht info.packet (List.mem_map_of_mem hinfo))
  unfold SackExact SackSafe
  rw [Tcb.queue_receiveSackOption, List.forall₂_map_right_iff, List.forall₂_same]
  constructor
  · intro hexact info hinfo hunsacked
    apply (hiff info hinfo).1
    have := (hexact info hinfo).2.1 hunsacked
    rwa [hunsacked, Bool.false_or] at this
  · intro hsafe info hinfo
    refine ⟨rfl, ?_, ?_⟩
    · intro hunsacked
      rw [hunsacked, Bool.false_or]
      exact (hiff info hinfo).2 (hsafe info hinfo hunsacked)
    · intro hunsacked hmarked
      rw [hunsacked, Bool.false_or] at hmarked
      obtain ⟨b, hb, hin⟩ := ((hiff info hinfo).2 (hsafe info hinfo hunsacked)).1 hmarked
      exact h.mem_of_inside hr.mem (hblocks b hb) (ht _ (List.mem_map_of_mem hinfo)) hin

end RoundTrip

/-! ## Three segments -/

/-- A connection that permits SACK, with the segments `sent` queued and `received` out of order. -/
def sackConn (sent received : List Segment) : Conn :=
  (Socket.create { DevVar.config with isSackPermitted := true } 0 []).conn.mapTcb fun t => { t with
    retransmissionQueue := sent.foldl (fun q p => q.addPacketToQueue p 0) .empty
    outOfOrderSegment := received.foldl (fun q p => q.addPacketToQueue p 0) .empty }

def threeSegments : List Segment := [dataSegment 1 1000, dataSegment 1001 1000, dataSegment 2001 1000]

theorem segmentation_threeSegments : Segmentation 1 3000 threeSegments where
  start_lt := by decide
  seqNum_lt := by decide
  tiles := by simp [threeSegments, dataSegment, createTcpCtrlPacket, Segment.offset, Segment.segLen,
    sub32, u32]
  total_lt := by decide

/-- The last segment arrives before the other two. -/
theorem sackExact_last_received :
    SackExact (sackConn [] [dataSegment 2001 1000]) (sackConn threeSegments []).tcb
      ((sackConn [] [dataSegment 2001 1000]).createAck 1 1).option :=
  (sackExact_iff segmentation_threeSegments ⟨by decide, by decide⟩ (by decide) 1 1).2 (by decide)

/-- The middle segment is the only one that arrives: the last one is marked as well. -/
theorem not_sackExact_middle_received :
    QueueOf threeSegments (sackConn [] [dataSegment 1001 1000]).tcb.outOfOrderSegment ∧
    (∀ p ∈ (sackConn threeSegments []).tcb.retransmissionQueue.segments, p ∈ threeSegments) ∧
    ¬ SackExact (sackConn [] [dataSegment 1001 1000]) (sackConn threeSegments []).tcb
      ((sackConn [] [dataSegment 1001 1000]).createAck 1 1).option :=
  ⟨⟨by decide, by decide⟩, by decide, by decide⟩

end NetSim.Tcp
