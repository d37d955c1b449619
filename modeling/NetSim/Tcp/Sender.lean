import NetSim.Tcp.Handled
import NetSim.Lib.Tiling

/-!
# What waits for an acknowledgment (`TCP_Outgoing.c`, `RTO.c`, `TCB.c`)

The retransmission queue fills the space between the oldest unacknowledged number and `SND.NXT`, and
each queued segment has one pending timeout.
-/

namespace NetSim.Tcp

open NetSim.Lib

/-- The bytes that the application has left in the socket interface. -/
def bytes (l : List AppPacket) : Nat := (l.map AppPacket.dPacketSize).sum

/-- The pending timeouts that carry the number `seqNum`. -/
def timersOf (s : Conn) (seqNum : Nat) : List Segment :=
  s.rtoTimeouts.filter fun p => p.seqNum = seqNum

/-- The sending half of a connection that never counts beyond `limit`. -/
structure Sending (limit : Nat) (s : Conn) : Prop where
  una_le : s.tcb.SND.UNA ≤ s.tcb.SND.NXT
  tiles : ∃ first ≤ s.tcb.SND.UNA, Tiles Segment.seqNum (fun p => p.seqNum + p.segLen) first
    s.queued s.tcb.SND.NXT
  unacked : ∀ p ∈ s.queued, s.tcb.SND.UNA < p.seqNum + p.segLen
  data : ∀ p ∈ s.queued, p.isData = true ∨ (p.syn = true ∧ p.seqNum = s.tcb.ISS)
  sent : ∀ p ∈ s.rtoTimeouts, p.seqNum < s.tcb.SND.NXT
  timers : s.tcb.isOtherTimerCancel = false → ∀ p ∈ s.queued, timersOf s p.seqNum = [p]
  room : s.tcb.SND.NXT + bytes s.sId ≤ limit

structure SameSender (s s' : Conn) : Prop where
  una : s'.tcb.SND.UNA = s.tcb.SND.UNA
  nxt : s'.tcb.SND.NXT = s.tcb.SND.NXT
  iss : s'.tcb.ISS = s.tcb.ISS
  queued : s'.queued = s.queued
  rtoTimeouts : s'.rtoTimeouts = s.rtoTimeouts
  sId : s'.sId = s.sId
  cancel : s'.tcb.isOtherTimerCancel = false → s.tcb.isOtherTimerCancel = false

namespace SameSender

variable {s s' s'' : Conn}

theorem refl : SameSender s s := ⟨rfl, rfl, rfl, rfl, rfl, rfl, id⟩

theorem trans (h : SameSender s s') (h' : SameSender s' s'') : SameSender s s'' :=
  ⟨h'.una.trans h.una, h'.nxt.trans h.nxt, h'.iss.trans h.iss, h'.queued.trans h.queued,
    h'.rtoTimeouts.trans h.rtoTimeouts, h'.sId.trans h.sId, fun hc => h.cancel (h'.cancel hc)⟩

theorem of_core (h : s'.core = s.core) : SameSender s s' where
  una := Conn.eq_of_core (g := fun s => s.tcb.SND.UNA) (fun _ => rfl) h
  nxt := Conn.eq_of_core (g := fun s => s.tcb.SND.NXT) (fun _ => rfl) h
  iss := Conn.eq_of_core (g := fun s => s.tcb.ISS) (fun _ => rfl) h
  queued := Conn.queued_of_core h
  rtoTimeouts := Conn.eq_of_core (g := fun s => s.rtoTimeouts) (fun _ => rfl) h
  sId := Conn.eq_of_core (g := fun s => s.sId) (fun _ => rfl) h
  cancel := fun hc =>
    (Conn.eq_of_core (g := fun s => s.tcb.isOtherTimerCancel) (fun _ => rfl) h).symm.trans hc

theorem changeState (s : Conn) (state : TcpState) : SameSender s (s.changeState state) := by
  obtain ⟨prev, h⟩ := s.changeState_eq state
  rw [h]
  exact ⟨rfl, rfl, rfl, rfl, rfl, rfl, id⟩

theorem sendToNetwork (s : Conn) (p : Segment) : SameSender s (s.sendToNetwork p) :=
  ⟨rfl, rfl, rfl, rfl, rfl, rfl, id⟩

theorem of_receives (h : Receives s s') : SameSender s s' where
  una := Conn.eq_of_outgoing (g := fun s => s.tcb.SND.UNA) (fun _ => rfl) h.outgoing
  nxt := Conn.eq_of_outgoing (g := fun s => s.tcb.SND.NXT) (fun _ => rfl) h.outgoing
  iss := Conn.eq_of_outgoing (g := fun s => s.tcb.ISS) (fun _ => rfl) h.outgoing
  queued := Conn.eq_of_outgoing (g := Conn.queued) (fun _ => rfl) h.outgoing
  rtoTimeouts := Conn.eq_of_outgoing (g := fun s => s.rtoTimeouts) (fun _ => rfl) h.outgoing
  sId := Conn.eq_of_outgoing (g := fun s => s.sId) (fun _ => rfl) h.outgoing
  cancel := fun hc => (Conn.eq_of_outgoing (g := fun s => s.tcb.isOtherTimerCancel) (fun _ => rfl)
    h.outgoing).symm.trans hc

theorem startTimewaitTimer (s : Conn) : SameSender s s.startTimewaitTimer :=
  ⟨rfl, rfl, rfl, rfl, rfl, rfl, fun h => by cases h⟩

theorem sendFin (s : Conn) : SameSender s s.sendFin := ⟨rfl, rfl, rfl, rfl, rfl, rfl, id⟩

theorem cancelOtherTimers (s : Conn) : SameSender s s.cancelOtherTimers :=
  ⟨rfl, rfl, rfl, rfl, rfl, rfl, fun h => by cases h⟩

theorem processFinPacket (s : Conn) : SameSender s s.processFinPacket := by
  unfold Conn.processFinPacket
  split
  · apply trans _ (cancelOtherTimers _)
    apply trans _ (changeState _ _)
    apply trans _ (sendFin _)
    exact (sendToNetwork _ _).trans (changeState _ _)
  · apply trans _ (cancelOtherTimers _)
    apply trans _ (changeState _ _)
    apply trans _ (sendFin _)
    exact (sendToNetwork _ _).trans (changeState _ _)
  · exact (changeState _ _).trans (sendToNetwork _ _)
  · exact ((changeState _ _).trans (startTimewaitTimer _)).trans (sendToNetwork _ _)
  · have hflag : SameSender s (s.mapTcb fun t => { t with istimewaittimerrestarted := true }) :=
      ⟨rfl, rfl, rfl, rfl, rfl, rfl, id⟩
    exact hflag.trans (startTimewaitTimer _)
  all_goals exact refl

theorem processText (s : Conn) {p : Segment} (hp : p.syn = false) :
    SameSender s (s.processText p) := by
  obtain ⟨_, t, ht, htext⟩ := Receives.processText s hp
  rw [htext]
  split
  · exact (of_receives ht).trans (processFinPacket _)
  · exact of_receives ht

theorem sending {limit : Nat} (hs : SameSender s s') (h : Sending limit s) : Sending limit s' := by
  obtain ⟨h1, h2, h3, h4, h5, h6, h7⟩ := h
  constructor
  · rwa [hs.una, hs.nxt]
  · rwa [hs.una, hs.nxt, hs.queued]
  · rwa [hs.una, hs.queued]
  · rwa [hs.queued, hs.iss]
  · rwa [hs.rtoTimeouts, hs.nxt]
  · intro hcancel
    have := h6 (hs.cancel hcancel)
    unfold timersOf at this ⊢
    rwa [hs.queued, hs.rtoTimeouts]
  · rwa [hs.nxt, hs.sId]

end SameSender

/-! ## Opening -/

def isOpening (state : TcpState) : Bool :=
  match state with
  | .synSent | .synReceived => true
  | _ => false

structure NothingSent (s : Conn) : Prop where
  wait : s.waitFromApp = false
  una : s.tcb.SND.UNA = s.tcb.ISS
  nxt : s.tcb.SND.NXT = s.tcb.ISS + 1

def StillOpening (s s' : Conn) : Prop :=
  isOpening s'.tcb.tcpState = true →
    isOpening s.tcb.tcpState = true ∧ (NothingSent s → NothingSent s')

namespace StillOpening

variable {s s' s'' : Conn}

theorem refl : StillOpening s s := fun h => ⟨h, id⟩

theorem trans (h : StillOpening s s') (h' : StillOpening s' s'') : StillOpening s s'' :=
  fun hs => ⟨(h (h' hs).1).1, fun hn => (h' hs).2 ((h (h' hs).1).2 hn)⟩

theorem of_not (h : isOpening s'.tcb.tcpState = false) : StillOpening s s' := by
  intro hs
  rw [h] at hs
  cases hs

theorem of_eq (hstate : s'.tcb.tcpState = s.tcb.tcpState) (hwait : s'.waitFromApp = s.waitFromApp)
    (huna : s'.tcb.SND.UNA = s.tcb.SND.UNA) (hnxt : s'.tcb.SND.NXT = s.tcb.SND.NXT)
    (hiss : s'.tcb.ISS = s.tcb.ISS) : StillOpening s s' := by
  intro hs
  refine ⟨by rwa [← hstate], fun hn => ⟨?_, ?_, ?_⟩⟩
  · rw [hwait, hn.wait]
  · rw [huna, hiss, hn.una]
  · rw [hnxt, hiss, hn.nxt]

theorem of_core (h : s'.core = s.core) : StillOpening s s' :=
  of_eq (Conn.eq_of_core (g := fun s => s.tcb.tcpState) (fun _ => rfl) h)
    (Conn.eq_of_core (g := fun s => s.waitFromApp) (fun _ => rfl) h)
    (Conn.eq_of_core (g := fun s => s.tcb.SND.UNA) (fun _ => rfl) h)
    (Conn.eq_of_core (g := fun s => s.tcb.SND.NXT) (fun _ => rfl) h)
    (Conn.eq_of_core (g := fun s => s.tcb.ISS) (fun _ => rfl) h)

theorem of_receives (h : Receives s s') : StillOpening s s' :=
  of_eq (Conn.eq_of_outgoing (g := fun s => s.tcb.tcpState) (fun _ => rfl) h.outgoing)
    (Conn.eq_of_outgoing (g := fun s => s.waitFromApp) (fun _ => rfl) h.outgoing)
    (Conn.eq_of_outgoing (g := fun s => s.tcb.SND.UNA) (fun _ => rfl) h.outgoing)
    (Conn.eq_of_outgoing (g := fun s => s.tcb.SND.NXT) (fun _ => rfl) h.outgoing)
    (Conn.eq_of_outgoing (g := fun s => s.tcb.ISS) (fun _ => rfl) h.outgoing)

theorem changeState (s : Conn) {state : TcpState} (h : isOpening state = false) :
    StillOpening s (s.changeState state) := by
  obtain ⟨prev, heq⟩ := s.changeState_eq state
  rw [heq]
  exact of_not h

theorem of_state {state : TcpState} (hstate : s'.tcb.tcpState = state)
    (h : isOpening state = false) : StillOpening s s' :=
  of_not (by rw [hstate, h])

theorem processFinPacket (s : Conn) : StillOpening s s.processFinPacket := by
  unfold Conn.processFinPacket
  split
  · exact of_state (Conn.tcpState_changeState _ .lastAck) rfl
  · exact of_state (Conn.tcpState_changeState _ .lastAck) rfl
  · exact of_state (Conn.tcpState_changeState _ .closing) rfl
  · exact of_state (Conn.tcpState_changeState _ .timeWait) rfl
  · next hstate => exact of_state hstate rfl
  all_goals exact refl

theorem processText (s : Conn) {p : Segment} (hp : p.syn = false) :
    StillOpening s (s.processText p) := by
  obtain ⟨_, t, ht, htext⟩ := Receives.processText s hp
  rw [htext]
  split
  · exact (of_receives ht).trans (processFinPacket _)
  · exact of_receives ht

end StillOpening

theorem Effects.isOpening {s s' : Conn} (he : Effects s s')
    (h : isOpening s.tcb.tcpState = false) : NetSim.Tcp.isOpening s'.tcb.tcpState = false := by
  induction he with
  | refl => exact h
  | tail _ he ih =>
    cases he with
    | adjust hcore =>
      rwa [Conn.eq_of_core (g := fun s => s.tcb.tcpState) (fun _ => rfl) hcore]
    | resend _ => exact ih
    | wait _ => exact ih
    | openWindow => exact ih
    | push _ _ => exact ih
    | close _ _ =>
      obtain ⟨prev, heq⟩ := Conn.changeState_eq (Conn.sendFin _) .finWait1
      rw [heq]
      rfl

namespace Sending

variable {limit : Nat} {s s' : Conn}

theorem nxt_le (h : Sending limit s) : s.tcb.SND.NXT ≤ limit := by
  have := h.room
  omega

variable {p : Segment}

theorem seqEnd_eq (h : Sending limit s) (hlimit : limit < 2 ^ 32)
    (hp : p ∈ s.queued) : p.seqEnd = p.seqNum + p.segLen := by
  obtain ⟨first, -, htiles⟩ := h.tiles
  have hbound := (htiles.mem_bounds hp).2.2
  have := h.nxt_le
  exact u32_of_lt (by omega)

theorem pairwise (h : Sending limit s) : s.queued.Pairwise fun p p' => p.seqNum < p'.seqNum := by
  obtain ⟨first, -, htiles⟩ := h.tiles
  apply htiles.pairwise.imp_of_mem
  intro p p' hp _ hle
  have := (htiles.mem_bounds hp).2.1
  omega

/-! ### Sending -/

theorem orderedInsert_eq_append {l : List Segment} (h : ∀ r ∈ l, r.seqNum < p.seqNum) :
    l.orderedInsert (fun a b => a.seqNum ≤ b.seqNum) p = l ++ [p] := by
  induction l with
  | nil => rfl
  | cons r l ih =>
    have hr := h r List.mem_cons_self
    rw [List.orderedInsert_cons, if_neg (by omega), ih fun r hr => h r (List.mem_cons_of_mem _ hr)]
    rfl

section

variable (h : Sending limit s)

include h

theorem push (hlimit : limit < 2 ^ 32) {p : AppPacket} {rest : List AppPacket}
    (hsId : s.sId = p :: rest) : Sending limit { s.sendPacket p with sId := rest } := by
  have hroom := h.room
  have hsize := p.size_pos
  rw [hsId] at hroom
  change s.tcb.SND.NXT + (p.dPacketSize + bytes rest) ≤ limit at hroom
  have hu32 : u32 p.dPacketSize = p.dPacketSize := u32_of_lt (by omega)
  have hnxt : { s.sendPacket p with sId := rest }.tcb.SND.NXT = s.tcb.SND.NXT + p.dPacketSize := by
    change u32 (s.tcb.SND.NXT + u32 p.dPacketSize) = _
    rw [hu32, u32_of_lt (by omega)]
  have hlen : (s.addTcpHdr p).segLen = p.dPacketSize := hu32
  obtain ⟨first, hfirst, htiles⟩ := h.tiles
  have hbefore : ∀ r ∈ s.queued, r.seqNum < s.tcb.SND.NXT := by
    intro r hr
    have := htiles.mem_bounds hr
    omega
  have hqueued : { s.sendPacket p with sId := rest }.queued = s.queued ++ [s.addTcpHdr p] := by
    refine (TcpQueue.segments_addPacketToQueue _ _ _).trans ?_
    exact orderedInsert_eq_append hbefore
  have hrto : { s.sendPacket p with sId := rest }.rtoTimeouts =
      s.rtoTimeouts ++ [s.addTcpHdr p] := rfl
  have hune : { s.sendPacket p with sId := rest }.tcb.SND.UNA = s.tcb.SND.UNA := rfl
  have huna := h.una_le
  constructor
  · omega
  · refine ⟨first, by rwa [hune], ?_⟩
    rw [hqueued, hnxt, ← hlen]
    exact htiles.concat (x := s.addTcpHdr p) rfl (by
      omega)
  · intro r hr
    rw [hqueued, List.mem_append, List.mem_singleton] at hr
    rcases hr with hr | rfl
    · exact h.unacked r hr
    · change _ < s.tcb.SND.NXT + (s.addTcpHdr p).segLen
      omega
  · intro r hr
    rw [hqueued, List.mem_append, List.mem_singleton] at hr
    rcases hr with hr | rfl
    · exact h.data r hr
    · exact .inl rfl
  · intro r hr
    rw [hrto, List.mem_append, List.mem_singleton] at hr
    rcases hr with hr | rfl
    · have := h.sent r hr
      omega
    · change s.tcb.SND.NXT < _
      omega
  · intro hcancel r hr
    rw [hqueued, List.mem_append, List.mem_singleton] at hr
    unfold timersOf
    rw [hrto, List.filter_append]
    rcases hr with hr | rfl
    · have hlt := hbefore r hr
      have hother : [s.addTcpHdr p].filter (fun q => q.seqNum = r.seqNum) = [] := by
        apply List.filter_cons_of_neg
        change ¬ decide (s.tcb.SND.NXT = r.seqNum) = true
        simp only [decide_eq_true_eq]
        omega
      rw [hother, List.append_nil]
      exact h.timers hcancel r hr
    · have hnone : s.rtoTimeouts.filter (fun q => q.seqNum = (s.addTcpHdr p).seqNum) = [] := by
        rw [List.filter_eq_nil_iff]
        intro q hq
        have := h.sent q hq
        change ¬ decide (q.seqNum = s.tcb.SND.NXT) = true
        simp only [decide_eq_true_eq]
        omega
      rw [hnone]
      simp
  · rw [hnxt]
    change s.tcb.SND.NXT + p.dPacketSize + bytes rest ≤ limit
    omega

theorem effect (hlimit : limit < 2 ^ 32) (he : Effect s s') :
    Sending limit s' ∧ s'.tcb.SND.UNA = s.tcb.SND.UNA := by
  cases he with
  | adjust hcore =>
    have hs := SameSender.of_core hcore
    exact ⟨hs.sending h, hs.una⟩
  | resend _ => exact ⟨(SameSender.sendToNetwork s _).sending h, rfl⟩
  | wait _ =>
    have hs : SameSender s { s with waitFromApp := true } := ⟨rfl, rfl, rfl, rfl, rfl, rfl, id⟩
    exact ⟨hs.sending h, rfl⟩
  | openWindow =>
    have hs : SameSender s s.openWindow := ⟨rfl, rfl, rfl, rfl, rfl, rfl, id⟩
    exact ⟨hs.sending h, rfl⟩
  | push hsId _ => exact ⟨h.push hlimit hsId, rfl⟩
  | close _ _ =>
    have hfin : SameSender s s.sendFin := ⟨rfl, rfl, rfl, rfl, rfl, rfl, id⟩
    have hs := hfin.trans (SameSender.changeState s.sendFin .finWait1)
    exact ⟨hs.sending h, hs.una⟩

theorem effects (hlimit : limit < 2 ^ 32) (he : Effects s s') :
    Sending limit s' ∧ s'.tcb.SND.UNA = s.tcb.SND.UNA := by
  induction he with
  | refl => exact ⟨h, rfl⟩
  | tail _ he ih =>
    obtain ⟨h', huna⟩ := ih.1.effect hlimit he
    exact ⟨h', huna.trans ih.2⟩

theorem acknowledge (hlimit : limit < 2 ^ 32)
    (hlt : s.tcb.SND.UNA < s.tcb.SEG.ACK) (hle : s.tcb.SEG.ACK ≤ s.tcb.SND.NXT) :
    Sending limit s.acknowledge := by
  have hqueued : s.acknowledge.queued =
      s.queued.filter fun p => s.tcb.SEG.ACK < p.seqNum + p.segLen := by
    refine (TcpQueue.segments_deleteSegmentFromQueue _ _).trans ?_
    apply List.filter_congr
    intro p hp
    rw [h.seqEnd_eq hlimit hp]
  have hsub : ∀ p ∈ s.acknowledge.queued, p ∈ s.queued := by
    intro p hp
    rw [hqueued] at hp
    exact (List.mem_filter.1 hp).1
  obtain ⟨first, hfirst, htiles⟩ := h.tiles
  constructor
  · exact hle
  · obtain ⟨first', hfirst', -, htiles'⟩ := htiles.filter_lt (show first ≤ s.tcb.SEG.ACK by omega)
    rw [hqueued]
    exact ⟨first', hfirst', htiles'⟩
  · intro p hp
    rw [hqueued] at hp
    exact of_decide_eq_true (List.mem_filter.1 hp).2
  · exact fun p hp => h.data p (hsub p hp)
  · exact h.sent
  · exact fun hcancel p hp => h.timers hcancel p (hsub p hp)
  · exact h.room

theorem processAckAndSend (hlimit : limit < 2 ^ 32) (hp : p.syn = false) :
    Sending limit (s.processAckAndSend p) ∧
      s.tcb.SND.UNA ≤ (s.processAckAndSend p).tcb.SND.UNA := by
  obtain ⟨h1, huna⟩ := h.effects hlimit (s.effects_afterAckReceived hp)
  have hprocessed := s.ackProcessed p
  generalize s.afterAckReceived p = s1 at h1 huna hprocessed
  generalize s.processAckAndSend p = s2 at hprocessed
  cases hprocessed with
  | new hlt hle effects =>
    obtain ⟨h2, huna2⟩ := (h1.acknowledge hlimit hlt hle).effects hlimit effects
    refine ⟨h2, ?_⟩
    rw [huna2, ← huna]
    exact Nat.le_of_lt hlt
  | old _ => exact ⟨h1, Nat.le_of_eq huna.symm⟩
  | early _ =>
    exact ⟨(SameSender.sendToNetwork s1 _).sending h1, Nat.le_of_eq huna.symm⟩

end

/-! ### Timeouts -/

theorem segments_addPacketToQueue_get {q q' : TcpQueue} {seqNum time : Nat}
    (hq : q.segments.Pairwise fun p p' => p.seqNum < p'.seqNum)
    (hget : q.getSegmentFromQueue seqNum = some (p, q')) :
    (q'.addPacketToQueue p time).segments = q.segments := by
  obtain ⟨-, l1, l2, hsplit, hrest, -⟩ := TcpQueue.getSegmentFromQueue_some hget
  rw [hsplit] at hq
  obtain ⟨-, hafter, hbefore⟩ := List.pairwise_append.1 hq
  rw [TcpQueue.segments_addPacketToQueue, hrest, hsplit]
  have hl1 : ∀ r ∈ l1, r.seqNum < p.seqNum := fun r hr => hbefore r hr p List.mem_cons_self
  clear hq hbefore hrest hsplit hget
  induction l1 with
  | nil =>
    cases l2 with
    | nil => rfl
    | cons r l2 =>
      have hr := (List.pairwise_cons.1 hafter).1 r List.mem_cons_self
      rw [List.nil_append, List.orderedInsert_cons, if_pos (Nat.le_of_lt hr)]
      rfl
  | cons r l1 ih =>
    have hr := hl1 r List.mem_cons_self
    rw [List.cons_append, List.orderedInsert_cons, if_neg (by omega),
      ih fun r hr => hl1 r (List.mem_cons_of_mem _ hr)]
    rfl

theorem timersOf_expire (s : Conn) (p : Segment) (seqNum : Nat) :
    timersOf (s.expire p) seqNum = (timersOf s seqNum).erase p :=
  List.erase_filter.symm

theorem expire_stale (h : Sending limit s)
    (hp : s.tcb.isOtherTimerCancel = false → ∀ r ∈ s.queued, r.seqNum ≠ p.seqNum) :
    Sending limit (s.expire p) := by
  refine { h with sent := ?_, timers := ?_ }
  · exact fun r hr => h.sent r (List.mem_of_mem_erase hr)
  · intro hcancel r hr
    rw [timersOf_expire, h.timers hcancel r hr, List.erase_of_not_mem]
    rw [List.mem_singleton]
    intro heq
    exact hp hcancel r hr (by rw [heq])

theorem eq_of_mem_rtoTimeouts (h : Sending limit s) (hcancel : s.tcb.isOtherTimerCancel = false)
    {r : Segment} (hp : p ∈ s.rtoTimeouts) (hr : r ∈ s.queued) (hseq : r.seqNum = p.seqNum) :
    p = r := by
  have hmem : p ∈ timersOf s r.seqNum := List.mem_filter.2 ⟨hp, by simp [hseq]⟩
  rw [h.timers hcancel r hr] at hmem
  exact List.mem_singleton.1 hmem

theorem retransmit (h : Sending limit s) (hcancel : s.tcb.isOtherTimerCancel = false)
    {r : Segment} {q : TcpQueue} (hp : p ∈ s.rtoTimeouts)
    (hget : s.tcb.retransmissionQueue.getSegmentFromQueue p.seqNum = some (r, q))
    (huna : s'.tcb.SND.UNA = s.tcb.SND.UNA) (hnxt : s'.tcb.SND.NXT = s.tcb.SND.NXT)
    (hiss : s'.tcb.ISS = s.tcb.ISS) (time : Nat)
    (hqueue : s'.tcb.retransmissionQueue = q.addPacketToQueue r time)
    (hrto : s'.rtoTimeouts = s.rtoTimeouts.erase p ++ [r]) (hsId : s'.sId = s.sId) :
    Sending limit s' := by
  have hseq := (TcpQueue.getSegmentFromQueue_some hget).1
  have hr : r ∈ s.queued := by
    obtain ⟨-, l1, l2, hsplit, -⟩ := TcpQueue.getSegmentFromQueue_some hget
    unfold Conn.queued
    rw [hsplit]
    simp
  obtain rfl := h.eq_of_mem_rtoTimeouts hcancel hp hr hseq
  have hqueued : s'.queued = s.queued := by
    unfold Conn.queued
    rw [hqueue]
    exact segments_addPacketToQueue_get h.pairwise hget
  constructor
  · rw [huna, hnxt]
    exact h.una_le
  · rw [huna, hqueued, hnxt]
    exact h.tiles
  · rw [huna, hqueued]
    exact h.unacked
  · rw [hqueued, hiss]
    exact h.data
  · intro r hr
    rw [hrto, List.mem_append, List.mem_singleton] at hr
    rw [hnxt]
    rcases hr with hr | rfl
    · exact h.sent r (List.mem_of_mem_erase hr)
    · exact h.sent _ hp
  · intro _ r hr'
    rw [hqueued] at hr'
    have htimers := h.timers hcancel r hr'
    unfold timersOf
    rw [hrto, List.filter_append]
    change (timersOf (s.expire p) r.seqNum) ++ _ = _
    rw [timersOf_expire, htimers]
    by_cases hpr : p.seqNum = r.seqNum
    · obtain rfl := h.eq_of_mem_rtoTimeouts hcancel hp hr' hpr.symm
      simp
    · have hne : p ≠ r := fun heq => hpr (by rw [heq])
      rw [List.erase_of_not_mem (by simpa using hne)]
      simp [hpr]
  · rw [hnxt, hsId]
    exact h.room

end Sending

/-! ## Runs -/

structure Sends (limit : Nat) (s : Conn) : Prop where
  sending : Sending limit s
  opening : isOpening s.tcb.tcpState = true → NothingSent s

namespace Sends

variable {limit : Nat} {s s' : Conn}

theorem of_same (h : Sends limit s) (hs : SameSender s s') (ho : StillOpening s s') :
    Sends limit s' ∧ s.tcb.SND.UNA ≤ s'.tcb.SND.UNA := by
  refine ⟨⟨hs.sending h.sending, ?_⟩, Nat.le_of_eq hs.una.symm⟩
  intro hopening
  exact (ho hopening).2 (h.opening (ho hopening).1)

theorem of_sending (h : Sending limit s') (hs : isOpening s'.tcb.tcpState = false) :
    Sends limit s' :=
  ⟨h, fun ho => by rw [hs] at ho; cases ho⟩

variable {p : Segment}

theorem processAckAndSend_state {s : Conn} (hp : p.syn = false)
    (hs : isOpening s.tcb.tcpState = false) :
    isOpening (s.processAckAndSend p).tcb.tcpState = false := by
  have h := (s.effects_afterAckReceived hp).isOpening hs
  have hprocessed := s.ackProcessed p
  generalize s.processAckAndSend p = s2 at hprocessed
  cases hprocessed with
  | new _ _ effects => exact effects.isOpening h
  | old _ => exact h
  | early _ => exact h

theorem processAckPacket (h : Sends limit s) (hlimit : limit < 2 ^ 32) (hp : p.syn = false) :
    Sends limit (s.processAckPacket p) ∧ s.tcb.SND.UNA ≤ (s.processAckPacket p).tcb.SND.UNA := by
  obtain ⟨hack, huna⟩ := h.sending.processAckAndSend hlimit hp
  unfold Conn.processAckPacket
  split
  · split
    · have hupdate : SameSender s (s.mapTcb Tcb.updateSendWindow) :=
        ⟨rfl, rfl, rfl, rfl, rfl, rfl, id⟩
      have hwindow := hupdate.trans (SameSender.changeState _ .established)
      obtain ⟨hack', huna'⟩ := (hwindow.sending h.sending).processAckAndSend hlimit hp
      rw [hwindow.una] at huna'
      exact ⟨of_sending hack' (processAckAndSend_state hp (by simp [isOpening])), huna'⟩
    · exact h.of_same (SameSender.sendToNetwork _ _) (.of_eq rfl rfl rfl rfl rfl)
  · next hstate =>
    exact ⟨of_sending hack (processAckAndSend_state hp (by simp [hstate, isOpening])), huna⟩
  · next hstate =>
    exact ⟨of_sending hack (processAckAndSend_state hp (by simp [hstate, isOpening])), huna⟩
  · next hstate =>
    exact ⟨of_sending hack (processAckAndSend_state hp (by simp [hstate, isOpening])), huna⟩
  · next hstate =>
    have hafter : Sends limit (s.processAckAndSend p) :=
      of_sending hack (processAckAndSend_state hp (by simp [hstate, isOpening]))
    split
    · obtain ⟨hclosed, huna'⟩ := hafter.of_same (SameSender.changeState _ .finWait2)
        (.changeState _ rfl)
      exact ⟨hclosed, Nat.le_trans huna huna'⟩
    · exact ⟨hafter, huna⟩
  · next hstate =>
    have hafter : Sends limit (s.processAckAndSend p) :=
      of_sending hack (processAckAndSend_state hp (by simp [hstate, isOpening]))
    split
    · obtain ⟨hclosed, huna'⟩ := hafter.of_same
        ((SameSender.startTimewaitTimer _).trans (SameSender.changeState _ .timeWait))
        (.of_state (Conn.tcpState_changeState _ _) rfl)
      exact ⟨hclosed, Nat.le_trans huna huna'⟩
    · exact ⟨hafter, huna⟩
  · next hstate =>
    apply h.of_same
    · have hanswer := SameSender.sendToNetwork s
        { s.createAck s.tcb.SEG.SEQ s.tcb.SEG.ACK with fin := true }
      apply (hanswer.trans (SameSender.startTimewaitTimer _)).trans
      exact ⟨rfl, rfl, rfl, rfl, rfl, rfl, id⟩
    · exact .of_state hstate rfl
  all_goals exact h.of_same .refl .refl

theorem synAckArrives (h : Sends limit s) (hlimit : limit < 2 ^ 32)
    (hstate : s.tcb.tcpState = .synSent) (hiss : s.tcb.ISS < s.tcb.SEG.ACK)
    (hnxt : s.tcb.SEG.ACK ≤ s.tcb.SND.NXT) :
    Sends limit (s.synAckArrives p) ∧ s.tcb.SND.UNA ≤ (s.synAckArrives p).tcb.SND.UNA := by
  have hn := h.opening (by rw [hstate]; rfl)
  obtain ⟨c, isTSopt, tsVal, heq⟩ := s.synAckArrives_eq p hiss
  rw [heq]
  have hacked := h.sending.acknowledge hlimit (by rwa [hn.una]) hnxt
  have htaken : SameSender s.acknowledge (s.synAckTaken c isTSopt tsVal) :=
    ⟨rfl, rfl, rfl, rfl, rfl, rfl, id⟩
  have hsame := (htaken.trans (SameSender.sendToNetwork _
    ((s.synAckTaken c isTSopt tsVal).createAck s.tcb.SND.NXT (u32 (s.tcb.SEG.SEQ + 1))))).trans
    (SameSender.changeState _ .established)
  have heffects := Conn.effects_sendSegment (((s.synAckTaken c isTSopt tsVal).sendAck s.tcb.SND.NXT
    (u32 (s.tcb.SEG.SEQ + 1))).changeState .established)
  obtain ⟨hsent, huna⟩ := (hsame.sending hacked).effects hlimit heffects
  refine ⟨of_sending hsent (heffects.isOpening (by simp [isOpening])), ?_⟩
  have hle : s.tcb.SND.UNA ≤ s.tcb.SEG.ACK := by
    rw [hn.una]
    exact Nat.le_of_lt hiss
  exact Nat.le_trans hle (Nat.le_of_eq (huna.trans hsame.una).symm)

theorem expired (h : Sends limit s) (hp : p ∈ s.rtoTimeouts)
    (hwhy : s.tcb.isOtherTimerCancel = true ∨
      s.tcb.retransmissionQueue.isSegmentInQueue p = false ∨
      (p.isTCPControl = true ∧ p.syn = false)) : Sending limit (s.expire p) := by
  apply h.sending.expire_stale
  intro hcancel r hr hseq
  rcases hwhy with hcancel' | hnone | ⟨hctrl, hsyn⟩
  · rw [hcancel] at hcancel'
    cases hcancel'
  · have hin := TcpQueue.isSegmentInQueue_iff.2 ⟨r, hr, hseq⟩
    rw [hnone] at hin
    cases hin
  · obtain rfl := h.sending.eq_of_mem_rtoTimeouts hcancel hp hr hseq
    rcases h.sending.data _ hr with hdata | ⟨hsyn', -⟩
    · simp [Segment.isData, hctrl] at hdata
    · rw [hsyn] at hsyn'
      cases hsyn'

theorem synAgain (h : Sends limit s) (hlimit : limit < 2 ^ 32) {syn : Segment} {q : TcpQueue}
    (hp : p ∈ s.rtoTimeouts) (hstate : isOpening s.tcb.tcpState = true)
    (hcancel : s.tcb.isOtherTimerCancel = false)
    (hq : s.tcb.retransmissionQueue.getSegmentFromQueue p.seqNum = some (syn, q)) :
    Sends limit ((s.expire p).synAgain syn q) ∧
      s.tcb.SND.UNA ≤ ((s.expire p).synAgain syn q).tcb.SND.UNA := by
  have hn := h.opening hstate
  have hle := h.sending.nxt_le
  have hnxt := hn.nxt
  have huna' : ((s.expire p).synAgain syn q).tcb.SND.UNA = s.tcb.SND.UNA := hn.una.symm
  have hnxt' : ((s.expire p).synAgain syn q).tcb.SND.NXT = s.tcb.SND.NXT := by
    change u32 (s.tcb.ISS + 1) = _
    rw [u32_of_lt (by omega), hnxt]
  have hsending : Sending limit ((s.expire p).synAgain syn q) :=
    h.sending.retransmit hcancel hp hq huna' hnxt' rfl s.dEventTime rfl rfl rfl
  exact ⟨⟨hsending, fun _ => ⟨hn.wait, rfl, hnxt'.trans hnxt⟩⟩, Nat.le_of_eq huna'.symm⟩

theorem resent (h : Sends limit s) (hp : p ∈ s.rtoTimeouts)
    (hcancel : s.tcb.isOtherTimerCancel = false)
    (hq : s.tcb.retransmissionQueue.isSegmentInQueue p = true) :
    Sends limit ((s.expire p).congestionRtoTimeout.resendSegment p) ∧
      s.tcb.SND.UNA ≤ ((s.expire p).congestionRtoTimeout.resendSegment p).tcb.SND.UNA := by
  change Sends limit ((s.congestionRtoTimeout.expire p).resendSegment p) ∧
    s.tcb.SND.UNA ≤ ((s.congestionRtoTimeout.expire p).resendSegment p).tcb.SND.UNA
  have hcore := s.core_congestionRtoTimeout
  have hsame := SameSender.of_core hcore
  have hcancel' : s.congestionRtoTimeout.tcb.isOtherTimerCancel = false :=
    (Conn.eq_of_core (g := fun s => s.tcb.isOtherTimerCancel) (fun _ => rfl) hcore).trans hcancel
  obtain ⟨h', -⟩ := h.of_same hsame (.of_core hcore)
  obtain ⟨r, hr, hseq⟩ := TcpQueue.isSegmentInQueue_iff.1 hq
  have hr' : r ∈ s.congestionRtoTimeout.queued := by rwa [hsame.queued]
  have hp' : p ∈ s.congestionRtoTimeout.rtoTimeouts := hp
  rw [← hsame.una]
  generalize s.congestionRtoTimeout = s1 at h' hr' hp' hcancel' ⊢
  unfold Conn.resendSegment
  split
  · next hnone =>
    exact absurd hseq (TcpQueue.getSegmentFromQueue_eq_none.1 hnone r hr')
  · next q hget =>
    refine ⟨⟨h'.sending.retransmit hcancel' hp' hget rfl rfl rfl s1.dEventTime rfl rfl rfl, ?_⟩,
      Nat.le_refl _⟩
    intro hopening
    obtain ⟨hw, hu, hn⟩ := h'.opening hopening
    exact ⟨hw, hu, hn⟩

def passedBytes : EventKind → Nat
  | .passPacket a => a.dPacketSize
  | _ => 0

theorem handled {c : Conn} {e : EventKind} {s' : Socket} (h : Sends limit c)
    (hlimit : limit + passedBytes e < 2 ^ 32) (hh : Handled c e s') :
    (s'.Live → Sends (limit + passedBytes e) s'.conn) ∧ c.tcb.SND.UNA ≤ s'.conn.tcb.SND.UNA := by
  have hread (p : Segment) : Sends limit (c.read p) :=
    have hsame : SameSender c (c.read p) := ⟨rfl, rfl, rfl, rfl, rfl, rfl, id⟩
    (h.of_same hsame (.of_eq rfl rfl rfl rfl rfl)).1
  have hlive {s : Socket} (h : Sends limit s.conn ∧ c.tcb.SND.UNA ≤ s.conn.tcb.SND.UNA) :
      (s.Live → Sends (limit + 0) s.conn) ∧ c.tcb.SND.UNA ≤ s.conn.tcb.SND.UNA :=
    ⟨fun _ => h.1, h.2⟩
  cases hh with
  | @ignored p => exact hlive ⟨hread p, Nat.le_refl _⟩
  | @answered p a _ =>
    exact hlive ((hread p).of_same (SameSender.sendToNetwork _ a) (.of_eq rfl rfl rfl rfl rfl))
  | @opened p hstate _ _ hiss hnxt =>
    exact hlive ((hread p).synAckArrives hlimit hstate hiss hnxt)
  | @relistens p _ =>
    exact hlive ((hread p).of_same (SameSender.changeState _ .listen) (.changeState _ rfl))
  | @reset p _ _ =>
    refine ⟨fun hs => absurd hs.freed (by simp), Nat.le_of_eq ?_⟩
    exact (SameSender.changeState (c.read p) .closed).una.symm
  | @finished p _ _ _ _ _ =>
    refine ⟨fun hs => absurd hs.tcbDeleted (by simp), Nat.le_of_eq ?_⟩
    exact (SameSender.changeState (c.read p) .closed).una.symm
  | @ack p _ _ _ hsyn _ => exact hlive ((hread p).processAckPacket hlimit hsyn)
  | @text p _ _ hsyn _ =>
    exact hlive ((hread p).of_same (SameSender.processText _ hsyn) (.processText _ hsyn))
  | @expired p hp hwhy =>
    refine hlive ⟨⟨h.expired hp hwhy, fun hopening => ?_⟩, Nat.le_refl _⟩
    obtain ⟨hw, hu, hn⟩ := h.opening hopening
    exact ⟨hw, hu, hn⟩
  | synAgain hp hstate hcancel hq =>
    apply hlive
    apply h.synAgain hlimit hp _ hcancel hq
    rcases hstate with hstate | hstate
    · rw [hstate]
      rfl
    · rw [hstate]
      rfl
  | @synGivenUp p syn q _ _ _ =>
    refine ⟨fun hs => absurd hs.freed (by simp), Nat.le_of_eq ?_⟩
    exact (SameSender.changeState ((c.expire p).mapTcb fun t => { t with
      retransmissionQueue := q }) .closed).una.symm
  | resent hp hcancel hq _ => exact hlive (h.resent hp hcancel hq)
  | timeWaitRestarts _ =>
    exact hlive (h.of_same ⟨rfl, rfl, rfl, rfl, rfl, rfl, id⟩ (.of_eq rfl rfl rfl rfl rfl))
  | timeWaitEnds _ =>
    refine ⟨fun hs => absurd hs.tcbDeleted (by simp), Nat.le_of_eq ?_⟩
    exact (SameSender.changeState { c with
      timeWaitTimeouts := c.timeWaitTimeouts - 1 } .closed).una.symm
  | woken hwait =>
    have hnot : isOpening c.tcb.tcpState = false := by
      by_contra hopening
      rw [Bool.not_eq_false] at hopening
      have := (h.opening hopening).wait
      rw [hwait] at this
      cases this
    have heffects := c.effects_sendSegment
    obtain ⟨hsent, huna⟩ := h.sending.effects hlimit heffects
    have hawake : SameSender c.sendSegment { c.sendSegment with waitFromApp := false } :=
      ⟨rfl, rfl, rfl, rfl, rfl, rfl, id⟩
    exact hlive ⟨of_sending (hawake.sending hsent) (heffects.isOpening hnot),
      Nat.le_of_eq huna.symm⟩
  | notWoken _ => exact hlive ⟨h, Nat.le_refl _⟩
  | @passed a =>
    refine ⟨fun _ => ⟨?_, fun hopening => ?_⟩, Nat.le_refl _⟩
    · have hroom := h.sending.room
      refine { h.sending with room := ?_ }
      change c.tcb.SND.NXT + bytes (c.sId ++ [a]) ≤ limit + a.dPacketSize
      simp only [bytes, List.map_append, List.sum_append, List.map_cons, List.map_nil,
        List.sum_cons, List.sum_nil] at hroom ⊢
      omega
    · obtain ⟨hw, hu, hn⟩ := h.opening hopening
      exact ⟨hw, hu, hn⟩

theorem of_syn (hlimit : s.tcb.ISS + 1 + bytes s.sId < 2 ^ 32) {syn : Segment}
    (huna : s.tcb.SND.UNA = s.tcb.ISS) (hnxt : s.tcb.SND.NXT = u32 (s.tcb.ISS + 1))
    (hqueued : s.queued = [syn]) (hsyn : syn.syn = true) (hseq : syn.seqNum = s.tcb.ISS)
    (hrto : s.rtoTimeouts = [syn]) (hwait : s.waitFromApp = false) :
    Sends (s.tcb.ISS + 1 + bytes s.sId) s := by
  rw [u32_of_lt (by omega)] at hnxt
  have hlen : syn.segLen = 1 := by
    unfold Segment.segLen
    rw [if_pos hsyn]
  refine ⟨⟨?_, ?_, ?_, ?_, ?_, ?_, ?_⟩, fun _ => ⟨hwait, huna, hnxt⟩⟩
  · omega
  · refine ⟨s.tcb.ISS, Nat.le_of_eq huna.symm, ?_⟩
    rw [hqueued, hnxt, tiles_cons, tiles_nil, hseq, hlen]
    omega
  · intro p hp
    rw [hqueued, List.mem_singleton] at hp
    rw [hp, hseq, hlen]
    omega
  · intro p hp
    rw [hqueued, List.mem_singleton] at hp
    rw [hp]
    exact .inr ⟨hsyn, hseq⟩
  · intro p hp
    rw [hrto, List.mem_singleton] at hp
    rw [hp, hseq]
    omega
  · intro _ p hp
    rw [hqueued, List.mem_singleton] at hp
    unfold timersOf
    rw [hrto, hp]
    simp
  · rw [hnxt]

theorem answerSyn (s : Conn) (hlimit : s.answerSyn.tcb.ISS + 1 + bytes s.answerSyn.sId < 2 ^ 32)
    (hempty : s.tcb.retransmissionQueue = .empty) (hrto : s.rtoTimeouts = [])
    (hwait : s.waitFromApp = false) :
    Sends (s.answerSyn.tcb.ISS + 1 + bytes s.answerSyn.sId) s.answerSyn := by
  obtain ⟨prev, heq⟩ := s.answerSyn_eq
  have hqueued : s.answerSyn.queued = [s.createSynAck] := by
    unfold Conn.queued
    rw [heq, hempty, TcpQueue.segments_addPacketToQueue]
    rfl
  apply of_syn hlimit _ _ hqueued
  · rfl
  · rw [heq]
    rfl
  · rw [heq, hrto]
    rfl
  · exact hwait
  · rw [heq]
  · rw [heq]

theorem opened {s₀ : Socket} (h0 : Socket.Opened s₀)
    (hlimit : s₀.conn.tcb.ISS + 1 + bytes s₀.conn.sId < 2 ^ 32) :
    Sends (s₀.conn.tcb.ISS + 1 + bytes s₀.conn.sId) s₀.conn := by
  cases h0 with
  | connect dev dEventTime sId => exact of_syn hlimit rfl rfl rfl rfl rfl rfl rfl
  | accept dev dEventTime sId syn =>
    obtain ⟨-, hqueue, -⟩ := Tcb.readSyn_keeps
      (((Tcb.create dev dEventTime).updateSeqNumOnReceiving syn).changeState .listen) dev syn
    exact answerSyn (Socket.acceptConn dev dEventTime sId syn) hlimit hqueue rfl rfl
  | listen dev dEventTime =>
    refine of_sending ⟨?_, ?_, ?_, ?_, ?_, ?_, ?_⟩ rfl
    · exact Nat.le_refl _
    · exact ⟨0, Nat.le_refl _, rfl⟩
    · exact fun p hp => absurd hp List.not_mem_nil
    · exact fun p hp => absurd hp List.not_mem_nil
    · exact fun p hp => absurd hp List.not_mem_nil
    · exact fun _ p hp => absurd hp List.not_mem_nil
    · exact Nat.zero_le _

end Sends

def passed (tr : List (World × Event)) : Nat := (tr.map fun x => Sends.passedBytes x.2.kind).sum

/-- What has been sent and not acknowledged can be sent again. -/
structure Retransmittable (s : Conn) : Prop where
  una_le : s.tcb.SND.UNA ≤ s.tcb.SND.NXT
  tiles : ∃ first ≤ s.tcb.SND.UNA, Tiles Segment.seqNum (fun p => p.seqNum + p.segLen) first
    s.queued s.tcb.SND.NXT
  covers : ∀ n, s.tcb.SND.UNA ≤ n → n < s.tcb.SND.NXT →
    ∃ p ∈ s.queued, p.seqNum ≤ n ∧ n < p.seqNum + p.segLen
  data : ∀ p ∈ s.queued, p.isData = true ∨ (p.syn = true ∧ p.seqNum = s.tcb.ISS)
  unacked : ∀ p ∈ s.queued, s.tcb.SND.UNA < p.seqNum + p.segLen
  timers : s.tcb.isOtherTimerCancel = false → ∀ p ∈ s.queued, timersOf s p.seqNum = [p]

theorem Sending.retransmittable {limit : Nat} {s : Conn} (h : Sending limit s) :
    Retransmittable s := by
  refine ⟨h.una_le, h.tiles, ?_, h.data, h.unacked, h.timers⟩
  intro n huna hnxt
  obtain ⟨first, hfirst, htiles⟩ := h.tiles
  exact htiles.exists_mem (Nat.le_trans hfirst huna) hnxt

def exampleSender : Socket :=
  Socket.accept DevVar.config 0
    [{ nPacketId := 1, nAppEndFlag := false, dPacketSize := 100, size_pos := by decide }] exampleSyn

/-- An acknowledgment by the client of `exampleSender`. -/
def exampleAck (ackNum : Nat) : Segment :=
  { createTcpCtrlPacket .ack with ack := true, seqNum := 2, ackNum := ackNum }

end NetSim.Tcp
