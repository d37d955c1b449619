import NetSim.Tcp.Handled
import NetSim.Lib.Tiling

/-!
# In-order delivery (`TCP_Incoming.c`, `TCB.c`, `TCP_ApplicationInterface.c`)

The segments of a stream arrive in any order, some never and some several times.
`send_to_application` has handed over the stream up to `RCV.NXT`, and every accepted segment beyond
it waits.
-/

namespace NetSim.Tcp

open NetSim.Lib

/-- A segment that `packet_arrives_at_incoming_tcp` takes for data. -/
structure Segment.IsText (p : Segment) : Prop where
  rst : p.rst = false
  syn : p.syn = false
  ack : p.ack = false

/-- A stream from `start` to `stop` that is cut into the data segments `segs`. -/
structure DataStream (start stop : Nat) (segs : List Segment) : Prop where
  tiles : Tiles Segment.seqNum (fun p => p.seqNum + p.segLen) start segs stop
  stop_lt : stop < 2 ^ 32
  data : ∀ p ∈ segs, p.appData.isSome = true
  fin : ∀ p ∈ segs, p.fin = false

/-- The part of the stream below `n`. -/
def streamBelow (segs : List Segment) (n : Nat) : List Segment :=
  segs.filter fun p => p.seqNum < n

/-- What the receiver of the stream has and has handed over, since `s₀`. -/
structure Receiving (segs : List Segment) (s₀ s : Conn) : Prop where
  noGaps : Tiles Segment.seqNum (fun p => p.seqNum + p.segLen) s₀.tcb.RCV.NXT
    (streamBelow segs s.tcb.RCV.NXT) s.tcb.RCV.NXT
  application : s.application = s₀.application ++ streamBelow segs s.tcb.RCV.NXT
  sorted : s.tcb.outOfOrderSegment.segments.Pairwise fun p p' => p.seqNum < p'.seqNum
  mem : ∀ p ∈ s.tcb.outOfOrderSegment.segments, p ∈ segs
  ahead : ∀ p ∈ s.tcb.outOfOrderSegment.segments, s.tcb.RCV.NXT < p.seqNum

/-- The part of a connection that only the receiving functions change is the same, and the state
is not SYN_SENT again. -/
structure SameReceiver (s s' : Conn) : Prop where
  synSent : s'.tcb.tcpState = .synSent → s.tcb.tcpState = .synSent
  rcv : s'.tcb.RCV.NXT = s.tcb.RCV.NXT
  outOfOrder : s'.tcb.outOfOrderSegment = s.tcb.outOfOrderSegment
  application : s'.application = s.application

namespace SameReceiver

variable {s s' s'' : Conn}

theorem refl : SameReceiver s s := ⟨id, rfl, rfl, rfl⟩

theorem trans (h : SameReceiver s s') (h' : SameReceiver s' s'') : SameReceiver s s'' :=
  ⟨fun hs => h.synSent (h'.synSent hs), h'.rcv.trans h.rcv, h'.outOfOrder.trans h.outOfOrder, h'.application.trans h.application⟩

theorem receiving {segs : List Segment} {s₀ : Conn} (h : SameReceiver s s')
    (hr : Receiving segs s₀ s) : Receiving segs s₀ s' := by
  obtain ⟨h1, h2, h3, h4, h5⟩ := hr
  constructor
  · rwa [h.rcv]
  · rwa [h.application, h.rcv]
  · rwa [h.outOfOrder]
  · rwa [h.outOfOrder]
  · rwa [h.outOfOrder, h.rcv]

theorem of_core (h : s'.core = s.core) : SameReceiver s s' where
  synSent := fun hs => (Conn.eq_of_core (g := fun s => s.tcb.tcpState) (fun _ => rfl) h).symm.trans hs
  rcv := Conn.eq_of_core (g := fun s => s.tcb.RCV.NXT) (fun _ => rfl) h
  outOfOrder := Conn.eq_of_core (g := fun s => s.tcb.outOfOrderSegment) (fun _ => rfl) h
  application := Conn.eq_of_core (g := fun s => s.application) (fun _ => rfl) h

theorem changeState (s : Conn) {state : TcpState} (hne : state ≠ .synSent) :
    SameReceiver s (s.changeState state) := by
  obtain ⟨prev, h⟩ := s.changeState_eq state
  rw [h]
  exact ⟨fun hs => absurd hs hne, rfl, rfl, rfl⟩

theorem of_effect (h : Effect s s') : SameReceiver s s' := by
  cases h with
  | adjust h => exact of_core h
  | resend _ => exact ⟨id, rfl, rfl, rfl⟩
  | wait _ => exact ⟨id, rfl, rfl, rfl⟩
  | openWindow => exact ⟨id, rfl, rfl, rfl⟩
  | push _ _ => exact ⟨id, rfl, rfl, rfl⟩
  | close _ _ =>
    have hfin : SameReceiver s s.sendFin := ⟨id, rfl, rfl, rfl⟩
    exact hfin.trans (changeState _ (by decide))

theorem of_effects (h : Effects s s') : SameReceiver s s' := by
  induction h with
  | refl => exact refl
  | tail _ h ih => exact ih.trans (of_effect h)

theorem resendSegment (s : Conn) (p : Segment) : SameReceiver s (s.resendSegment p) := by
  unfold Conn.resendSegment
  split <;> exact ⟨id, rfl, rfl, rfl⟩

theorem processAckAndSend (s : Conn) {p : Segment} (hp : p.syn = false) :
    SameReceiver s (s.processAckAndSend p) := by
  have h := of_effects (s.effects_afterAckReceived hp)
  have hprocessed := s.ackProcessed p
  generalize s.afterAckReceived p = s1 at h hprocessed
  generalize s.processAckAndSend p = s2 at hprocessed
  cases hprocessed with
  | new _ _ effects =>
    have hack : SameReceiver s1 s1.acknowledge := ⟨id, rfl, rfl, rfl⟩
    exact (h.trans hack).trans (of_effects effects)
  | old _ => exact h
  | early _ =>
    have hsend : SameReceiver s1 (s1.sendAck s1.tcb.SEG.SEQ s1.tcb.SEG.ACK) := ⟨id, rfl, rfl, rfl⟩
    exact h.trans hsend

theorem startTimewaitTimer (s : Conn) : SameReceiver s s.startTimewaitTimer := ⟨id, rfl, rfl, rfl⟩

theorem processAckPacket (s : Conn) {p : Segment} (hp : p.syn = false) :
    SameReceiver s (s.processAckPacket p) := by
  have h := processAckAndSend s hp
  unfold Conn.processAckPacket
  split
  · split
    · have hwindow : SameReceiver s (s.mapTcb Tcb.updateSendWindow) := ⟨id, rfl, rfl, rfl⟩
      exact (hwindow.trans (changeState _ (by decide))).trans (processAckAndSend _ hp)
    · exact ⟨id, rfl, rfl, rfl⟩
  · exact h
  · exact h
  · exact h
  · split
    · exact h.trans (changeState _ (by decide))
    · exact h
  · split
    · exact (h.trans (startTimewaitTimer _)).trans (changeState _ (by decide))
    · exact h
  · exact ⟨id, rfl, rfl, rfl⟩
  all_goals exact refl

theorem sendAckOrNot (s : Conn) : SameReceiver s s.sendAckOrNot.2 := by
  unfold Conn.sendAckOrNot
  dsimp only
  split
  · exact refl
  · split
    · exact ⟨id, rfl, rfl, rfl⟩
    · split <;> exact ⟨id, rfl, rfl, rfl⟩

end SameReceiver

/-! ## Data -/

section Data

variable {start stop : Nat} {segs l₁ l₂ q : List Segment} {nxt : Nat} {p : Segment}
  {s₀ s s' : Conn} (hstream : DataStream start stop segs)

theorem foldl_advanceOver_of_ne (h : ∀ p ∈ q, p.seqNum ≠ nxt) :
    q.foldl Tcb.advanceOver nxt = nxt := by
  induction q with
  | nil => rfl
  | cons p q ih =>
    have hp : Tcb.advanceOver nxt p = nxt := if_neg (h p List.mem_cons_self)
    rw [List.foldl_cons, hp]
    exact ih fun r hr => h r (List.mem_cons_of_mem _ hr)

include hstream in
theorem seqEnd_le {r : Segment} (hp : p ∈ segs) (hr : r ∈ segs) (hlt : p.seqNum < r.seqNum) :
    p.seqNum + p.segLen ≤ r.seqNum := by
  apply Nat.le_of_not_lt
  intro hover
  have := hstream.tiles.eq_of_overlap hp hr (Nat.le_of_lt hlt) hover
  rw [this] at hlt
  exact Nat.lt_irrefl _ hlt

include hstream in
theorem foldl_advanceOver (hsorted : q.Pairwise fun p p' => p.seqNum < p'.seqNum)
    (hmem : ∀ p ∈ q, p ∈ segs) (hge : ∀ p ∈ q, nxt ≤ p.seqNum) :
    ∃ l₁ l₂, q = l₁ ++ l₂ ∧
      Tiles Segment.seqNum (fun p => p.seqNum + p.segLen) nxt l₁ (q.foldl Tcb.advanceOver nxt) ∧
      ∀ p ∈ l₂, q.foldl Tcb.advanceOver nxt < p.seqNum := by
  induction q generalizing nxt with
  | nil => exact ⟨[], [], rfl, rfl, by simp⟩
  | cons p q ih =>
    obtain ⟨hp, hsorted⟩ := List.pairwise_cons.1 hsorted
    have hpmem := hmem p List.mem_cons_self
    have hmem' : ∀ r ∈ q, r ∈ segs := fun r hr => hmem r (List.mem_cons_of_mem _ hr)
    by_cases heq : p.seqNum = nxt
    · obtain ⟨-, hlt, hle⟩ := hstream.tiles.mem_bounds hpmem
      have hstop := hstream.stop_lt
      have hadvance : Tcb.advanceOver nxt p = p.seqNum + p.segLen := by
        unfold Tcb.advanceOver
        rw [if_pos heq, ← heq, u32_of_lt (by omega)]
      have hge' : ∀ r ∈ q, p.seqNum + p.segLen ≤ r.seqNum := fun r hr =>
        seqEnd_le hstream hpmem (hmem' r hr) (hp r hr)
      rw [List.foldl_cons, hadvance]
      obtain ⟨l₁, l₂, rfl, htiles, hafter⟩ := ih hsorted hmem' hge'
      exact ⟨p :: l₁, l₂, rfl, ⟨heq, hlt, htiles⟩, hafter⟩
    · have hlt : nxt < p.seqNum := by
        have := hge p List.mem_cons_self
        omega
      have hall : ∀ r ∈ p :: q, nxt < r.seqNum := by
        intro r hr
        rcases List.mem_cons.1 hr with rfl | hr
        · exact hlt
        · exact Nat.lt_trans hlt (hp r hr)
      rw [foldl_advanceOver_of_ne fun r hr => Nat.ne_of_gt (hall r hr)]
      exact ⟨[], p :: q, rfl, rfl, hall⟩

/-- What a segment `p` of the stream does to the receiver. -/
structure Takes (segs : List Segment) (s₀ s : Conn) (p : Segment) (s' : Conn) : Prop where
  receiving : Receiving segs s₀ s'
  synSent : s'.tcb.tcpState = .synSent → s.tcb.tcpState = .synSent
  nxt_le : s.tcb.RCV.NXT ≤ s'.tcb.RCV.NXT
  kept : ∀ r, r ∈ s.tcb.outOfOrderSegment.segments ∨
      (Conn.receivesData s.tcb.tcpState = true ∧ r = p) →
    s'.tcb.RCV.NXT ≤ r.seqNum → r ∈ s'.tcb.outOfOrderSegment.segments

theorem drainQueue_eq {rounds : Nat} (hq : s.tcb.outOfOrderSegment.segments = l₁ ++ l₂)
    (h1 : ∀ p ∈ l₁, p.seqNum < s.tcb.RCV.NXT ∧ p.appData.isSome = true)
    (h2 : ∀ p ∈ l₂, s.tcb.RCV.NXT ≤ p.seqNum) (hrounds : l₁.length ≤ rounds) :
    ∃ q', q'.segments = l₂ ∧ Conn.drainQueue rounds s =
      { s with tcb := { s.tcb with outOfOrderSegment := q' }, application := s.application ++ l₁ } := by
  induction l₁ generalizing rounds s with
  | nil =>
    have hnone : s.tcb.outOfOrderSegment.popBelow s.tcb.RCV.NXT = none := by
      rw [TcpQueue.popBelow_eq_none]
      intro p hp
      rw [hq] at hp
      exact h2 p (List.mem_of_head? hp)
    refine ⟨s.tcb.outOfOrderSegment, hq, ?_⟩
    rw [List.append_nil]
    cases rounds with
    | zero => rfl
    | succ rounds =>
      unfold Conn.drainQueue
      rw [hnone]
  | cons p l₁ ih =>
    cases rounds with
    | zero => simp at hrounds
    | succ rounds =>
      obtain ⟨hlt, hdata⟩ := h1 p List.mem_cons_self
      cases hpop : s.tcb.outOfOrderSegment.popBelow s.tcb.RCV.NXT with
      | none =>
        rw [TcpQueue.popBelow_eq_none, hq] at hpop
        have := hpop p rfl
        omega
      | some popped =>
        obtain ⟨pr, q⟩ := popped
        have hseg := (TcpQueue.segments_popBelow hpop).1
        rw [hq] at hseg
        obtain ⟨rfl, hrest⟩ := List.cons.inj hseg
        unfold Conn.drainQueue
        rw [hpop]
        dsimp only
        unfold Conn.deliver
        rw [if_pos hdata]
        obtain ⟨q', hq', heq⟩ := ih (s := { s.mapTcb fun t => { t with outOfOrderSegment := q } with
            application := s.application ++ [p] }) hrest.symm
          (fun r hr => h1 r (List.mem_cons_of_mem _ hr)) h2 (by simpa using hrounds)
        refine ⟨q', hq', ?_⟩
        rw [show (s.mapTcb fun t => { t with outOfOrderSegment := q }).application =
          s.application from rfl, heq]
        simp [Conn.mapTcb]

include hstream in
theorem Receiving.inOrder (hr : Receiving segs s₀ s) (hstart : s₀.tcb.RCV.NXT = start)
    (hp : p ∈ segs) (hseq : s.tcb.RCV.NXT = p.seqNum) (hlen : s.tcb.SEG.LEN = p.segLen)
    (hsame : SameReceiver { s with tcb :=
      { s.tcb with RCV.NXT := u32 (s.tcb.RCV.NXT + s.tcb.SEG.LEN) }.checkSegmentInQueue } s') :
    Takes segs s₀ s p (s'.sendToApplication p) := by
  obtain ⟨-, hplt, hple⟩ := hstream.tiles.mem_bounds hp
  have hstop := hstream.stop_lt
  have hq : s'.tcb.outOfOrderSegment = s.tcb.outOfOrderSegment := hsame.outOfOrder
  have happ : s'.application = s.application := hsame.application
  have hnxt : s'.tcb.RCV.NXT =
      s.tcb.outOfOrderSegment.segments.foldl Tcb.advanceOver (p.seqNum + p.segLen) := by
    rw [hsame.rcv]
    unfold Tcb.checkSegmentInQueue
    rw [hseq, hlen, u32_of_lt (by omega)]
  have hge : ∀ r ∈ s.tcb.outOfOrderSegment.segments, p.seqNum + p.segLen ≤ r.seqNum := by
    intro r hrmem
    apply seqEnd_le hstream hp (hr.mem r hrmem)
    rw [← hseq]
    exact hr.ahead r hrmem
  obtain ⟨l₁, l₂, hsplit, htiles, hafter⟩ := foldl_advanceOver hstream hr.sorted hr.mem hge
  rw [← hnxt] at htiles hafter
  have hmem1 : ∀ r ∈ l₁, r ∈ segs := fun r hrmem => hr.mem r (by rw [hsplit]; simp [hrmem])
  have hbelow : ∀ r ∈ l₁, r.seqNum < s'.tcb.RCV.NXT := by
    intro r hrmem
    have := htiles.mem_bounds hrmem
    omega
  have hlen : l₁.length ≤ s'.tcb.outOfOrderSegment.queue.length := by
    have : s'.tcb.outOfOrderSegment.segments.length = (l₁ ++ l₂).length := by rw [hq, hsplit]
    rw [TcpQueue.segments, List.length_map, List.length_append] at this
    omega
  have hdeliver : s'.deliver p = { s' with application := s'.application ++ [p] } :=
    if_pos (hstream.data p hp)
  have hqueue : (s'.deliver p).tcb.outOfOrderSegment.segments = l₁ ++ l₂ := by
    rw [hdeliver, ← hsplit, ← hq]
  have hrcv : (s'.deliver p).tcb.RCV.NXT = s'.tcb.RCV.NXT := by rw [hdeliver]
  obtain ⟨q', hq', heq⟩ := drainQueue_eq hqueue
    (fun r hrmem => ⟨hrcv ▸ hbelow r hrmem, hstream.data r (hmem1 r hrmem)⟩)
    (fun r hrmem => hrcv ▸ Nat.le_of_lt (hafter r hrmem)) hlen
  have hsend : s'.sendToApplication p = { s' with
      tcb := { s'.tcb with outOfOrderSegment := q' }
      application := s.application ++ [p] ++ l₁ } := by
    unfold Conn.sendToApplication
    rw [heq, hdeliver, happ]
  -- the stream up to the new `RCV.NXT`
  have htiles' : Tiles Segment.seqNum (fun p => p.seqNum + p.segLen) s₀.tcb.RCV.NXT
      (streamBelow segs s.tcb.RCV.NXT ++ p :: l₁) s'.tcb.RCV.NXT := by
    rw [tiles_append]
    exact ⟨_, hr.noGaps, hseq.symm, hplt, htiles⟩
  have hbelow' : streamBelow segs s.tcb.RCV.NXT ++ p :: l₁ = streamBelow segs s'.tcb.RCV.NXT := by
    apply Tiles.eq_filter hstream.tiles (hstart ▸ htiles')
    intro r hrmem
    rcases List.mem_append.1 hrmem with hrmem | hrmem
    · exact (List.mem_filter.1 hrmem).1
    · rcases List.mem_cons.1 hrmem with rfl | hrmem
      · exact hp
      · exact hmem1 r hrmem
  have hsorted := hr.sorted
  rw [hsplit] at hsorted
  constructor
  · rw [hsend]
    constructor
    · rw [← hbelow']
      exact htiles'
    · change s.application ++ [p] ++ l₁ = s₀.application ++ streamBelow segs s'.tcb.RCV.NXT
      rw [← hbelow', hr.application]
      simp
    · rw [hq']
      exact (List.pairwise_append.1 hsorted).2.1
    · intro r hrmem
      rw [hq'] at hrmem
      exact hr.mem r (by rw [hsplit]; simp [hrmem])
    · intro r hrmem
      rw [hq'] at hrmem
      exact hafter r hrmem
  · rw [hsend]
    exact hsame.synSent
  · rw [hsend]
    have := htiles.le
    change s.tcb.RCV.NXT ≤ s'.tcb.RCV.NXT
    omega
  · rw [hsend]
    intro r hrmem hle
    change s'.tcb.RCV.NXT ≤ r.seqNum at hle
    rcases hrmem with hrmem | ⟨-, rfl⟩
    · rw [hsplit, List.mem_append] at hrmem
      rw [hq']
      rcases hrmem with hrmem | hrmem
      · have := hbelow r hrmem
        omega
      · exact hrmem
    · have := htiles.le
      omega

/-- What `check_segment` makes of a segment. -/
inductive Checked (t : Tcb) (now : Nat) (p : Segment) : Bool × Tcb → Prop
  | inOrder (h : t.RCV.NXT = p.seqNum) :
      Checked t now p (true, { t with RCV.NXT := u32 (t.RCV.NXT + t.SEG.LEN) }.checkSegmentInQueue)
  | old (h : p.seqNum < t.RCV.NXT) : Checked t now p (false, t)
  | duplicate (h : t.outOfOrderSegment.isSegmentInQueue p = true) : Checked t now p (false, t)
  | early (h : t.RCV.NXT < p.seqNum) (hq : t.outOfOrderSegment.isSegmentInQueue p = false) :
      Checked t now p (false, { t with
        outOfOrderSegment := t.outOfOrderSegment.addPacketToQueue p now })

theorem checked (t : Tcb) (now : Nat) (p : Segment) : Checked t now p (t.checkSegment now p) := by
  unfold Tcb.checkSegment
  split
  · next h => exact .inOrder h
  · next h =>
    split
    · next hold => exact .old hold
    · next hold =>
      split
      · next hq => exact .duplicate hq
      · next hq => exact .early (by omega) (by simpa using hq)

theorem Receiving.early (hr : Receiving segs s₀ s) (hp : p ∈ segs) (hlt : s.tcb.RCV.NXT < p.seqNum)
    (hq : s.tcb.outOfOrderSegment.isSegmentInQueue p = false) (now : Nat)
    (hsame : SameReceiver { s with tcb := { s.tcb with
      outOfOrderSegment := s.tcb.outOfOrderSegment.addPacketToQueue p now } } s') :
    Takes segs s₀ s p s' := by
  have hrcv : s'.tcb.RCV.NXT = s.tcb.RCV.NXT := hsame.rcv
  have hadd : s'.tcb.outOfOrderSegment = s.tcb.outOfOrderSegment.addPacketToQueue p now :=
    hsame.outOfOrder
  have happ : s'.application = s.application := hsame.application
  have hmem : ∀ r, r ∈ s'.tcb.outOfOrderSegment.segments ↔
      r = p ∨ r ∈ s.tcb.outOfOrderSegment.segments := by
    intro r
    rw [hadd, TcpQueue.segments_addPacketToQueue, List.mem_orderedInsert]
  have hne : ∀ r ∈ s.tcb.outOfOrderSegment.segments, r.seqNum ≠ p.seqNum := by
    intro r hrmem heq
    rw [Bool.eq_false_iff] at hq
    exact hq (TcpQueue.isSegmentInQueue_iff.2 ⟨r, hrmem, heq⟩)
  refine ⟨?_, hsame.synSent, Nat.le_of_eq hrcv.symm, ?_⟩
  · constructor
    · rw [hrcv]
      exact hr.noGaps
    · rw [happ, hrcv]
      exact hr.application
    · rw [hadd, TcpQueue.segments_addPacketToQueue]
      exact TcpQueue.pairwise_orderedInsert hr.sorted hne
    · intro r hrmem
      rcases (hmem r).1 hrmem with rfl | hrmem
      · exact hp
      · exact hr.mem r hrmem
    · intro r hrmem
      rw [hrcv]
      rcases (hmem r).1 hrmem with rfl | hrmem
      · exact hlt
      · exact hr.ahead r hrmem
  · rintro r (hrmem | ⟨-, rfl⟩) -
    · exact (hmem r).2 (.inr hrmem)
    · exact (hmem r).2 (.inl rfl)

theorem Receiving.again (hr : Receiving segs s₀ s) (hsame : SameReceiver s s')
    (hold : Conn.receivesData s.tcb.tcpState = true →
      p.seqNum < s.tcb.RCV.NXT ∨ p ∈ s.tcb.outOfOrderSegment.segments) : Takes segs s₀ s p s' := by
  refine ⟨hsame.receiving hr, hsame.synSent, Nat.le_of_eq hsame.rcv.symm, ?_⟩
  intro r hrmem hle
  rw [hsame.rcv] at hle
  rw [hsame.outOfOrder]
  rcases hrmem with hrmem | ⟨hdata, rfl⟩
  · exact hrmem
  · rcases hold hdata with hlt | hmem
    · omega
    · exact hmem

include hstream in
theorem Receiving.processText (hr : Receiving segs s₀ s) (hstart : s₀.tcb.RCV.NXT = start)
    (hp : p ∈ segs) (hsyn : p.syn = false) (hlen : s.tcb.SEG.LEN = p.segLen) :
    Takes segs s₀ s p (s.processText p) := by
  have hfin := hstream.fin p hp
  have hcore := s.tcb.core_readTimestamp hsyn
  have hread : SameReceiver s (s.mapTcb (·.readTimestamp p)) :=
    .of_core (by unfold Conn.core Conn.mapTcb; rw [hcore])
  have hreadState : (s.mapTcb (·.readTimestamp p)).tcb.tcpState = s.tcb.tcpState :=
    Tcb.eq_of_core (g := fun t => t.tcpState) (fun _ => rfl) hcore
  have hreadLen : (s.mapTcb (·.readTimestamp p)).tcb.SEG.LEN = p.segLen :=
    (Tcb.eq_of_core (g := fun t => t.SEG.LEN) (fun _ => rfl) hcore).trans hlen
  unfold Conn.processText Conn.processSegmentText
  dsimp only
  generalize s.mapTcb (·.readTimestamp p) = s1 at hread hreadState hreadLen ⊢
  have hr1 := hread.receiving hr
  have htakes : ∀ s', Takes segs s₀ s1 p s' → Takes segs s₀ s p s' := by
    rintro s' ⟨h1, h2, h3, h4⟩
    rw [hreadState] at h2
    rw [hread.rcv] at h3
    rw [hread.outOfOrder, hreadState] at h4
    exact ⟨h1, h2, h3, h4⟩
  apply htakes
  split
  · next hdata =>
    have hchecked := checked s1.tcb s1.dEventTime p
    generalize s1.tcb.checkSegment s1.dEventTime p = result at hchecked ⊢
    cases hchecked with
    | inOrder h =>
      simp only [hfin, if_true, Bool.not_false, Bool.and_true, Bool.and_false, Bool.false_eq_true,
        if_false]
      apply hr1.inOrder hstream hstart hp h hreadLen
      have hack := SameReceiver.sendAckOrNot { s1 with tcb :=
        { s1.tcb with RCV.NXT := u32 (s1.tcb.RCV.NXT + s1.tcb.SEG.LEN) }.checkSegmentInQueue }
      split
      · exact hack.trans ⟨id, rfl, rfl, rfl⟩
      · exact hack
    | old h =>
      simp only [hfin, Bool.false_eq_true, if_false, Bool.not_false, Bool.and_true, if_true,
        Bool.and_false]
      exact hr1.again ⟨id, rfl, rfl, rfl⟩ fun _ => .inl h
    | duplicate h =>
      simp only [hfin, Bool.false_eq_true, if_false, Bool.not_false, Bool.and_true, if_true,
        Bool.and_false]
      obtain ⟨r, hrmem, heq⟩ := TcpQueue.isSegmentInQueue_iff.1 h
      obtain rfl := hstream.tiles.eq_of_lo_eq (hr1.mem r hrmem) hp heq
      exact hr1.again ⟨id, rfl, rfl, rfl⟩ fun _ => .inr hrmem
    | early h hq =>
      simp only [hfin, Bool.false_eq_true, if_false, Bool.not_false, Bool.and_true, if_true,
        Bool.and_false]
      exact hr1.early hp h hq _ ⟨id, rfl, rfl, rfl⟩
  · next hdata =>
    simp only [hfin, Bool.false_eq_true, if_false, Bool.and_false]
    exact hr1.again .refl fun hdata' => absurd hdata' hdata

end Data

/-! ## Runs -/

theorem SameReceiver.of_handled {c : Conn} {e : EventKind} {s' : Socket} (h : Handled c e s')
    (hsent : c.tcb.tcpState ≠ .synSent)
    (htext : ∀ p, e = .segment p → p.IsText → ¬ Accepted c p) : SameReceiver c s'.conn := by
  have hread (p : Segment) : SameReceiver c (c.read p) := ⟨id, rfl, rfl, rfl⟩
  have hexpire (p : Segment) : SameReceiver c (c.expire p) := ⟨id, rfl, rfl, rfl⟩
  have hclosed (s : Conn) : SameReceiver s (s.changeState .closed) := changeState s (by decide)
  cases h with
  | ignored => exact hread _
  | answered _ => exact (hread _).trans ⟨id, rfl, rfl, rfl⟩
  | opened hstate _ _ _ _ => exact absurd hstate hsent
  | relistens _ =>
    have hlisten (s : Conn) : SameReceiver s (s.changeState .listen) := changeState s (by decide)
    exact (hread _).trans (hlisten _)
  | reset _ _ => exact (hread _).trans (hclosed _)
  | finished _ _ _ _ _ => exact (hread _).trans (hclosed _)
  | ack _ _ _ hsyn _ => exact (hread _).trans (processAckPacket _ hsyn)
  | text h hrst hsyn hack => exact absurd h (htext _ rfl ⟨hrst, hsyn, hack⟩)
  | expired _ _ => exact hexpire _
  | synAgain _ _ _ _ => exact ⟨id, rfl, rfl, rfl⟩
  | synGivenUp _ _ _ =>
    have hqueue (p : Segment) (q : TcpQueue) : SameReceiver c
        ((c.expire p).mapTcb fun t => { t with retransmissionQueue := q }) := ⟨id, rfl, rfl, rfl⟩
    exact (hqueue _ _).trans (hclosed _)
  | resent _ _ _ _ =>
    exact ((hexpire _).trans (of_core (Conn.core_congestionRtoTimeout _))).trans (resendSegment _ _)
  | timeWaitRestarts _ => exact ⟨id, rfl, rfl, rfl⟩
  | timeWaitEnds _ =>
    have hpending : SameReceiver c { c with timeWaitTimeouts := c.timeWaitTimeouts - 1 } :=
      ⟨id, rfl, rfl, rfl⟩
    exact hpending.trans (hclosed _)
  | woken _ => exact (of_effects c.effects_sendSegment).trans ⟨id, rfl, rfl, rfl⟩
  | notWoken _ => exact refl
  | passed => exact ⟨id, rfl, rfl, rfl⟩

def Received (tr : List (World × Event)) (p : Segment) : Prop :=
  ∃ s e, ((.ok s : World), (e : Event)) ∈ tr ∧ e.kind = .segment p ∧ p.IsText ∧ s.Live ∧
    Conn.receivesData s.conn.tcb.tcpState = true ∧ (s.conn.read p).tcb.validateSegment = true

structure RunReceiving (segs : List Segment) (s₀ : Conn) (tr : List (World × Event)) (s : Conn) :
    Prop where
  receiving : Receiving segs s₀ s
  synSent : s.tcb.tcpState ≠ .synSent
  kept : ∀ p, Received tr p → s.tcb.RCV.NXT ≤ p.seqNum → p ∈ s.tcb.outOfOrderSegment.segments

theorem isSynchronized_of_receivesData {state : TcpState} (h : Conn.receivesData state = true) :
    Socket.isSynchronized state = true := by
  cases state <;> first | rfl | cases h

theorem RunReceiving.step {start stop : Nat} {segs : List Segment} {s₀ : Conn}
    {tr : List (World × Event)} {s s' : Socket} {e : Event} (hstream : DataStream start stop segs)
    (hstart : s₀.tcb.RCV.NXT = start) (h : RunReceiving segs s₀ tr s.conn)
    (harrives : ∀ p, e.kind = .segment p → p.IsText → p ∈ segs)
    (hstep : World.step (.ok s) e = some (.ok s')) :
    RunReceiving segs s₀ ((.ok s, e) :: tr) s'.conn := by
  have hsame (hsame : SameReceiver s.conn s'.conn)
      (hnew : ∀ p, e.kind = .segment p → p.IsText → s.Live →
        ¬ Accepted (World.connAt s e.dEventTime) p) :
      RunReceiving segs s₀ ((.ok s, e) :: tr) s'.conn := by
    refine ⟨hsame.receiving h.receiving, fun hs => h.synSent (hsame.synSent hs), ?_⟩
    rintro p ⟨s1, e1, hmem, he, htext, hlive, hdata, hvalid⟩ hle
    rw [hsame.outOfOrder]
    rw [hsame.rcv] at hle
    rcases List.mem_cons.1 hmem with heq | hmem
    · obtain ⟨hs, rfl⟩ := Prod.mk.inj heq
      obtain rfl := Except.ok.inj hs
      exact absurd ⟨isSynchronized_of_receivesData hdata, hvalid⟩ (hnew p he htext hlive)
    · exact h.kept p ⟨s1, e1, hmem, he, htext, hlive, hdata, hvalid⟩ hle
  by_cases hlive : s.Live
  · by_cases haccepted : ∃ p, e.kind = .segment p ∧ p.IsText ∧
        Accepted (World.connAt s e.dEventTime) p
    · obtain ⟨p, he, htext, haccepted⟩ := haccepted
      obtain rfl := World.step_text hstep hlive he haccepted htext.rst htext.syn htext.ack
      have hread : SameReceiver s.conn ((World.connAt s e.dEventTime).read p) := ⟨id, rfl, rfl, rfl⟩
      have htakes := (hread.receiving h.receiving).processText hstream hstart
        (harrives p he htext) htext.syn rfl
      refine ⟨htakes.receiving, fun hs => h.synSent (hread.synSent (htakes.synSent hs)), ?_⟩
      rintro r ⟨s1, e1, hmem, he1, htext1, hlive1, hdata, hvalid⟩ hle
      apply htakes.kept r _ hle
      rcases List.mem_cons.1 hmem with heq | hmem
      · obtain ⟨hs, rfl⟩ := Prod.mk.inj heq
        obtain rfl := Except.ok.inj hs
        rw [he] at he1
        obtain rfl := EventKind.segment.inj he1
        exact .inr ⟨hdata, rfl⟩
      · exact .inl (h.kept r ⟨s1, e1, hmem, he1, htext1, hlive1, hdata, hvalid⟩
          (Nat.le_trans htakes.nxt_le hle))
    · have hnew : ∀ p, e.kind = .segment p → p.IsText →
          ¬ Accepted (World.connAt s e.dEventTime) p := fun p he htext hacc =>
        haccepted ⟨p, he, htext, hacc⟩
      apply hsame _ fun p he htext _ => hnew p he htext
      have htime : SameReceiver s.conn (World.connAt s e.dEventTime) := ⟨id, rfl, rfl, rfl⟩
      exact htime.trans (.of_handled (World.step_handled hstep hlive) h.synSent hnew)
  · obtain ⟨-, htcb, -, happ, -, -⟩ := World.step_gone hstep hlive
    apply hsame _ fun _ _ _ hl => absurd hl hlive
    exact ⟨fun hs => by rwa [htcb] at hs, by rw [htcb], by rw [htcb], happ⟩

/-- The application has got the segments below `RCV.NXT`, once and in order, and the accepted ones
beyond wait. -/
structure Delivers (segs : List Segment) (s₀ : Conn) (tr : List (World × Event)) (s : Conn) :
    Prop where
  application : s.application = s₀.application ++ segs.filter fun p => p.seqNum < s.tcb.RCV.NXT
  noGaps : Tiles Segment.seqNum (fun p => p.seqNum + p.segLen) s₀.tcb.RCV.NXT
    (segs.filter fun p => p.seqNum < s.tcb.RCV.NXT) s.tcb.RCV.NXT
  nxt : s.tcb.RCV.NXT = s₀.tcb.RCV.NXT +
    ((segs.filter fun p => p.seqNum < s.tcb.RCV.NXT).map Segment.segLen).sum
  kept : ∀ p, Received tr p → s.tcb.RCV.NXT ≤ p.seqNum → p ∈ s.tcb.outOfOrderSegment.segments

/-- A socket not opening a connection receives a stream from its `RCV.NXT` on, in any order, among
any other events. -/
theorem delivers_of_run {start stop : Nat} {segs : List Segment}
    (hstream : DataStream start stop segs) {s₀ s : Socket} {tr : List (World × Event)}
    (hsent : s₀.conn.tcb.tcpState ≠ .synSent) (hstart : s₀.conn.tcb.RCV.NXT = start)
    (hempty : s₀.conn.tcb.outOfOrderSegment.segments = [])
    (run : Run World.step (.ok s₀) tr (.ok s))
    (harrives : ∀ x ∈ tr, ∀ p, x.2.kind = .segment p → p.IsText → p ∈ segs) :
    Delivers segs s₀.conn tr s.conn := by
  have hbelow : streamBelow segs s₀.conn.tcb.RCV.NXT = [] := by
    unfold streamBelow
    rw [List.filter_eq_nil_iff]
    intro p hp
    have := (hstream.tiles.mem_bounds hp).1
    simp only [decide_eq_true_eq]
    omega
  have h₀ : RunReceiving segs s₀.conn [] s₀.conn := by
    refine ⟨⟨?_, ?_, ?_, ?_, ?_⟩, hsent, ?_⟩
    · rw [hbelow]
      rfl
    · rw [hbelow, List.append_nil]
    · rw [hempty]
      exact List.Pairwise.nil
    · simp [hempty]
    · simp [hempty]
    · rintro p ⟨s₁, e₁, hmem, -⟩
      cases hmem
  have hrun : ∀ s', (.ok s : World) = .ok s' → RunReceiving segs s₀.conn tr s'.conn := by
    apply run.induction (P := fun tr w => ∀ s', w = .ok s' → RunReceiving segs s₀.conn tr s'.conn)
      (Q := fun _ e => ∀ p, e.kind = .segment p → p.IsText → p ∈ segs) _ _ harrives
    · rintro s' ⟨⟩
      exact h₀
    · rintro tr w e w' - ih hq hstep s' rfl
      cases w with
      | error f => cases hstep
      | ok s₁ => exact (ih s₁ rfl).step hstream hstart hq hstep
  obtain ⟨hr, -, hkept⟩ := hrun s rfl
  exact ⟨hr.application, hr.noGaps, tiles_sum hr.noGaps, hkept⟩

/-- A server that has got a SYN, and the first two segments of its client. -/
def exampleServer : Socket := Socket.accept DevVar.config 0 [] exampleSyn

def twoSegments : List Segment := [dataSegment 2 10, dataSegment 12 10]

/-- A data segment that arrives is one of `segments`. -/
def carries (segments : List Segment) : EventKind → Bool
  | .segment p => p.ack || decide (p ∈ segments)
  | _ => true

/-- The second segment arrives twice before the first one. -/
theorem delivers_twoSegments :
    ∃ tr s, Run World.step (.ok exampleServer) tr (.ok s) ∧
      Delivers twoSegments exampleServer.conn tr s.conn ∧ s.conn.application = twoSegments := by
  have hexec : (exec World.step (.ok exampleServer)
      [fun _ => some ⟨1, .segment { createTcpCtrlPacket .ack with ack := true, seqNum := 2, ackNum := 2 }⟩,
        fun _ => some ⟨2, .segment (dataSegment 12 10)⟩,
        fun _ => some ⟨3, .segment (dataSegment 12 10)⟩,
        fun _ => some ⟨4, .segment (dataSegment 2 10)⟩]).any
      (fun r => r.1.all (carries twoSegments ·.2.kind) &&
        r.2.toOption.any fun s => s.conn.application = twoSegments) = true := by decide +kernel
  obtain ⟨tr, w, run, htest⟩ := run_of_exec hexec
  rw [Bool.and_eq_true] at htest
  cases w with
  | error f => cases htest.2
  | ok s =>
    refine ⟨tr, s, run, ?_, of_decide_eq_true htest.2⟩
    have hstream : DataStream 2 22 twoSegments := by
      refine ⟨?_, by decide, by decide, by decide⟩
      simp [twoSegments, dataSegment, createTcpCtrlPacket, Segment.segLen, u32]
    apply delivers_of_run hstream (by decide) (by decide) (by decide) run
    intro x hx p hp htext
    have hall := List.all_eq_true.1 htest.1 x hx
    rw [hp] at hall
    simpa [carries, htext.ack] using hall

end NetSim.Tcp
