import NetSim.Tcp.Sender

/-!
# Closing (`TCP_Socket.c`, `TCP_Incoming.c`, `TCP_Packet.c`)

`tcp_close` looks at the retransmission queue before it sends the FIN; `process_fin_packet`,
`start_timewait_timer` and LAST_ACK do not. They abandon nothing under `CloseSafe`.
-/

namespace NetSim.Tcp

open NetSim.Lib

def NoData (l : List Segment) : Prop := ∀ p ∈ l, p.isData = false

structure Tidy (c : Conn) : Prop where
  closings : ∀ r ∈ c.closings, NoData r.2
  positive : ∀ p ∈ c.queued, 0 < p.dPacketSize

/-- The bytes that are queued, and those that the application has left, with the largest header for
each packet. -/
def Conn.load (c : Conn) : Nat :=
  (c.queued.map Segment.dPacketSize).sum + (c.sId.map fun a => a.dPacketSize + 60).sum

theorem TcpQueue.queueBytes_le (q : TcpQueue) :
    queueBytes q.queue ≤ (q.segments.map Segment.dPacketSize).sum := by
  unfold segments queueBytes
  induction q.queue with
  | nil => exact Nat.le_refl _
  | cons info l ih =>
    simp only [List.map_cons, List.sum_cons]
    have : u32 info.packet.dPacketSize ≤ info.packet.dPacketSize := Nat.mod_le _ _
    omega

namespace Tidy

variable {s s' : Conn}

theorem of_eq (h : Tidy s) (hclosings : s'.closings = s.closings) (hqueued : s'.queued = s.queued) :
    Tidy s' := by
  obtain ⟨h1, h2⟩ := h
  constructor
  · rwa [hclosings]
  · rwa [hqueued]

theorem queued_eq_nil (h : Tidy s) (hload : s.load < 2 ^ 32)
    (hnone : s.tcb.retransmissionQueue.isAnySegmentInQueue = false) : s.queued = [] := by
  have hsum : (s.queued.map Segment.dPacketSize).sum < 2 ^ 32 := by
    unfold Conn.load at hload
    omega
  apply TcpQueue.segments_eq_nil hnone
  · exact Nat.lt_of_le_of_lt (TcpQueue.queueBytes_le _) hsum
  · intro p hp
    have hle : p.dPacketSize ≤ (s.queued.map Segment.dPacketSize).sum :=
      List.single_le_sum (by simp) _ (List.mem_map_of_mem hp)
    rw [u32_of_lt (by omega)]
    exact h.positive p hp

theorem record (h : Tidy s) (hnone : NoData s.queued) (c : Closing) : Tidy (s.record c) := by
  refine ⟨?_, h.positive⟩
  intro r hr
  rcases List.mem_append.1 hr with hr | hr
  · exact h.closings r hr
  · obtain rfl := List.mem_singleton.1 hr
    exact hnone

theorem changeState (h : Tidy s) (state : TcpState)
    (hnone : state = .finWait1 ∨ state = .lastAck → NoData s.queued) :
    Tidy (s.changeState state) := by
  obtain ⟨prev, heq⟩ := s.changeState_eq state
  rw [heq]
  refine ⟨?_, h.positive⟩
  intro r hr
  rcases List.mem_append.1 hr with hr | hr
  · exact h.closings r hr
  · unfold Conn.closingsOf at hr
    split at hr
    · obtain rfl := List.mem_singleton.1 hr
      exact hnone (.inl rfl)
    · obtain rfl := List.mem_singleton.1 hr
      exact hnone (.inr rfl)
    · cases hr

theorem queued_changeState (s : Conn) (state : TcpState) :
    (s.changeState state).queued = s.queued := by
  obtain ⟨prev, heq⟩ := s.changeState_eq state
  rw [heq]
  rfl

theorem startTimewaitTimer (h : Tidy s) (hnone : NoData s.queued) : Tidy s.startTimewaitTimer := by
  have htimer : Tidy ({ s with timeWaitTimeouts := s.timeWaitTimeouts + 1 }.mapTcb fun t =>
      { t with isOtherTimerCancel := true }) := h.of_eq rfl rfl
  exact htimer.record hnone .cancelTimers

/-! ### Sending -/

theorem hdrLength_addTcpHdr (s : Conn) (p : AppPacket) : (s.addTcpHdr p).hdrLength ≤ 60 := by
  unfold Conn.addTcpHdr Conn.timestampOption
  split
  · simp [Segment.setOptions, optionsLen, tcpHdrSize, TcpOption.len, paddedLen]
  · simp [Segment.setOptions, optionsLen, tcpHdrSize, paddedLen]

theorem push (h : Tidy s) {p : AppPacket} {rest : List AppPacket} (hsId : s.sId = p :: rest) :
    Tidy { s.sendPacket p with sId := rest } ∧ { s.sendPacket p with sId := rest }.load ≤ s.load := by
  have hperm := s.queued_sendPacket p rest
  refine ⟨⟨h.closings, ?_⟩, ?_⟩
  · intro q hq
    rcases List.mem_cons.1 (hperm.mem_iff.1 hq) with rfl | hq
    · have := p.size_pos
      change 0 < p.dPacketSize + (s.addTcpHdr p).hdrLength
      omega
    · exact h.positive q hq
  · have hsum := (hperm.map Segment.dPacketSize).sum_eq
    have hhdr := hdrLength_addTcpHdr s p
    have hsize : (s.addTcpHdr p).dPacketSize = p.dPacketSize + (s.addTcpHdr p).hdrLength := rfl
    unfold Conn.load
    rw [hsum, hsId]
    simp only [List.map_cons, List.sum_cons]
    omega

theorem effect (h : Tidy s) (hload : s.load < 2 ^ 32) (he : Effect s s') :
    Tidy s' ∧ s'.load ≤ s.load := by
  cases he with
  | adjust hcore =>
    have hqueued := Conn.queued_of_core hcore
    have hsId : s'.sId = s.sId := Conn.eq_of_core (g := fun s => s.sId) (fun _ => rfl) hcore
    have hclosings : s'.closings = s.closings :=
      Conn.eq_of_core (g := fun s => s.closings) (fun _ => rfl) hcore
    refine ⟨h.of_eq hclosings hqueued, ?_⟩
    unfold Conn.load
    rw [hqueued, hsId]
  | resend _ => exact ⟨h.of_eq rfl rfl, Nat.le_refl _⟩
  | wait _ => exact ⟨h.of_eq rfl rfl, Nat.le_refl _⟩
  | openWindow => exact ⟨h.of_eq rfl rfl, Nat.le_refl _⟩
  | push hsId _ => exact h.push hsId
  | close _ hnone =>
    have hempty := h.queued_eq_nil hload hnone
    have hno : NoData s.queued := by simp [hempty, NoData]
    have hfin : Tidy s.sendFin :=
      ((h.of_eq rfl rfl : Tidy (s.sendToNetwork s.createFin))).record hno .fin
    refine ⟨hfin.changeState _ fun _ => hno, Nat.le_of_eq ?_⟩
    obtain ⟨prev, heq⟩ := s.sendFin.changeState_eq .finWait1
    rw [heq]
    rfl

theorem effects (h : Tidy s) (hload : s.load < 2 ^ 32) (he : Effects s s') :
    Tidy s' ∧ s'.load ≤ s.load := by
  induction he with
  | refl => exact ⟨h, Nat.le_refl _⟩
  | tail _ he ih =>
    obtain ⟨h', hle⟩ := ih.1.effect (Nat.lt_of_le_of_lt ih.2 hload) he
    exact ⟨h', Nat.le_trans hle ih.2⟩

theorem acknowledge (h : Tidy s) : Tidy s.acknowledge ∧ s.acknowledge.load ≤ s.load := by
  refine ⟨⟨h.closings, ?_⟩, ?_⟩
  · intro p hp
    rw [Conn.queued_acknowledge] at hp
    exact h.positive p (List.mem_filter.1 hp).1
  · have hle := List.Sublist.sum_le_sum
      ((List.filter_sublist (p := fun p => s.tcb.SEG.ACK < p.seqEnd) (l := s.queued)).map
        Segment.dPacketSize) (by simp)
    have hsId : s.acknowledge.sId = s.sId := rfl
    unfold Conn.load
    rw [Conn.queued_acknowledge, hsId]
    omega

theorem processAckAndSend (h : Tidy s) (hload : s.load < 2 ^ 32) {p : Segment}
    (hp : p.syn = false) : Tidy (s.processAckAndSend p) := by
  obtain ⟨h1, hle⟩ := h.effects hload (s.effects_afterAckReceived hp)
  have hprocessed := s.ackProcessed p
  generalize s.processAckAndSend p = s2 at hprocessed
  cases hprocessed with
  | new _ _ effects =>
    obtain ⟨h2, hle2⟩ := h1.acknowledge
    exact (h2.effects (by omega) effects).1
  | old _ => exact h1
  | early _ => exact h1.of_eq rfl rfl

end Tidy

/-! ## The condition on an event -/

/-- The states in which `process_fin_packet` cancels the timers. -/
def finCancels (state : TcpState) : Bool :=
  match state with
  | .synReceived | .established | .finWait2 | .timeWait => true
  | _ => false

/-- The acknowledgment of `p` is a new one that covers the segment `q`. -/
def Covers (c : Conn) (p q : Segment) : Prop :=
  c.tcb.SND.UNA < p.ackNum ∧ p.ackNum ≤ c.tcb.SND.NXT ∧ q.seqEnd ≤ p.ackNum

@[mk_iff]
structure SegmentSafe (c : Conn) (p : Segment) : Prop where
  fin : p.ack = false → p.fin = true → finCancels c.tcb.tcpState = true → NoData c.queued
  timeWait : p.ack = true → c.tcb.tcpState = .timeWait → NoData c.queued
  closing : p.ack = true → p.fin = true → c.tcb.tcpState = .closing →
    c.sId = [] ∧ ∀ q ∈ c.queued, q.isData = true → Covers c p q
  lastAck : c.tcb.tcpState = .lastAck → p.rst = false ∧ p.syn = false ∧
    (p.ack = true → ∀ q ∈ c.network, q.controlDataType = some .fin → q.seqNum < p.ackNum)

/-- The condition on an event. -/
structure CloseSafe (c : Conn) (e : EventKind) : Prop where
  load : c.load < 2 ^ 32
  segment : ∀ p, e = .segment p → Accepted c p → SegmentSafe c p

section Decidable

instance (l : List Segment) : Decidable (NoData l) :=
  inferInstanceAs (Decidable (∀ p ∈ l, p.isData = false))

instance (c : Conn) (p q : Segment) : Decidable (Covers c p q) :=
  inferInstanceAs (Decidable (_ ∧ _ ∧ _))

instance (c : Conn) (p : Segment) : Decidable (Accepted c p) :=
  decidable_of_iff' _ (accepted_iff c p)

set_option synthInstance.maxSize 256 in
instance (c : Conn) (p : Segment) : Decidable (SegmentSafe c p) :=
  decidable_of_iff' _ (segmentSafe_iff c p)

theorem closeSafe_segment {c : Conn} {p : Segment} (hload : c.load < 2 ^ 32)
    (hp : Accepted c p → SegmentSafe c p) : CloseSafe c (.segment p) := by
  refine ⟨hload, fun p' heq => ?_⟩
  obtain rfl := EventKind.segment.inj heq
  exact hp

end Decidable

structure Still (s s' : Conn) : Prop where
  sId : s'.sId = []
  queued : s'.queued = s.queued
  una : s'.tcb.SND.UNA = s.tcb.SND.UNA
  nxt : s'.tcb.SND.NXT = s.tcb.SND.NXT
  segAck : s'.tcb.SEG.ACK = s.tcb.SEG.ACK

theorem Effect.still {s s' : Conn} (he : Effect s s') (h : s.sId = []) : Still s s' := by
  cases he with
  | adjust hcore =>
    exact ⟨(Conn.eq_of_core (g := fun s => s.sId) (fun _ => rfl) hcore).trans h,
      Conn.queued_of_core hcore, Conn.eq_of_core (g := fun s => s.tcb.SND.UNA) (fun _ => rfl) hcore,
      Conn.eq_of_core (g := fun s => s.tcb.SND.NXT) (fun _ => rfl) hcore,
      Conn.eq_of_core (g := fun s => s.tcb.SEG.ACK) (fun _ => rfl) hcore⟩
  | resend _ => exact ⟨h, rfl, rfl, rfl, rfl⟩
  | wait _ => exact ⟨h, rfl, rfl, rfl, rfl⟩
  | openWindow => exact ⟨h, rfl, rfl, rfl, rfl⟩
  | push hsId _ =>
    rw [h] at hsId
    cases hsId
  | close _ _ =>
    obtain ⟨prev, heq⟩ := s.sendFin.changeState_eq .finWait1
    rw [heq]
    exact ⟨h, rfl, rfl, rfl, rfl⟩

theorem Effects.still {s s' : Conn} (he : Effects s s') (h : s.sId = []) : Still s s' := by
  induction he with
  | refl => exact ⟨h, rfl, rfl, rfl, rfl⟩
  | tail _ he ih =>
    obtain ⟨h1, h2, h3, h4, h5⟩ := he.still ih.sId
    exact ⟨h1, h2.trans ih.queued, h3.trans ih.una, h4.trans ih.nxt, h5.trans ih.segAck⟩

theorem noData_processAckAndSend {s : Conn} {p : Segment} (hp : p.syn = false)
    (hack : s.tcb.SEG.ACK = p.ackNum) (hsId : s.sId = [])
    (hcovers : ∀ q ∈ s.queued, q.isData = true → Covers s p q) :
    NoData (s.processAckAndSend p).queued := by
  obtain ⟨hsId1, hqueued1, huna1, hnxt1, hack1⟩ := (s.effects_afterAckReceived hp).still hsId
  have hprocessed := s.ackProcessed p
  generalize s.afterAckReceived p = s1 at hsId1 hqueued1 huna1 hnxt1 hack1 hprocessed
  generalize s.processAckAndSend p = s2 at hprocessed
  have hnone (h : ∀ q, ¬ Covers s p q) : NoData s1.queued := by
    intro q hq
    by_contra hdata
    rw [hqueued1] at hq
    exact h q (hcovers q hq (by simpa using hdata))
  cases hprocessed with
  | new _ _ effects =>
    have hstill := effects.still hsId1
    rw [hstill.queued, Conn.queued_acknowledge, hqueued1, hack1, hack]
    intro q hq
    obtain ⟨hq, hlt⟩ := List.mem_filter.1 hq
    by_contra hdata
    have hcov := (hcovers q hq (by simpa using hdata)).2.2
    have hlt := of_decide_eq_true hlt
    omega
  | old hle =>
    apply hnone
    rintro q ⟨hlt, -, -⟩
    omega
  | early hlt =>
    apply hnone
    rintro q ⟨-, hle, -⟩
    omega

namespace Tidy

variable {s : Conn} {p : Segment}

theorem processFinPacket (h : Tidy s)
    (hnone : finCancels s.tcb.tcpState = true → NoData s.queued) : Tidy s.processFinPacket := by
  have hpassive (hno : NoData s.queued) :
      Tidy ((((s.sendFinAck s.tcb.SND.NXT s.tcb.RCV.NXT).changeState .closeWait).sendFin.changeState
        .lastAck).cancelOtherTimers) := by
    have hanswer : Tidy (s.sendFinAck s.tcb.SND.NXT s.tcb.RCV.NXT) := h.of_eq rfl rfl
    have hwait := hanswer.changeState .closeWait (by simp)
    have hqueued : ((s.sendFinAck s.tcb.SND.NXT s.tcb.RCV.NXT).changeState .closeWait).queued =
        s.queued := queued_changeState _ _
    generalize (s.sendFinAck s.tcb.SND.NXT s.tcb.RCV.NXT).changeState .closeWait = s1 at hwait hqueued ⊢
    rw [← hqueued] at hno
    have hsent : Tidy (s1.sendToNetwork s1.createFin) := hwait.of_eq rfl rfl
    have hfin : Tidy s1.sendFin := hsent.record hno .fin
    have hlast := hfin.changeState .lastAck fun _ => hno
    have hqueued' : (s1.sendFin.changeState .lastAck).queued = s1.queued := queued_changeState _ _
    generalize s1.sendFin.changeState .lastAck = s2 at hlast hqueued' ⊢
    rw [← hqueued'] at hno
    have hcancel : Tidy (s2.mapTcb fun t => { t with isOtherTimerCancel := true }) :=
      hlast.of_eq rfl rfl
    exact hcancel.record hno .cancelTimers
  unfold Conn.processFinPacket
  split
  · next hstate => exact hpassive (hnone (by rw [hstate]; rfl))
  · next hstate => exact hpassive (hnone (by rw [hstate]; rfl))
  · exact (h.changeState .closing (by simp)).of_eq rfl rfl
  · next hstate =>
    have hwait := h.changeState .timeWait (by simp)
    have hno := hnone (by rw [hstate]; rfl)
    rw [← queued_changeState s .timeWait] at hno
    exact (hwait.startTimewaitTimer hno).of_eq rfl rfl
  · next hstate =>
    have hflag : Tidy (s.mapTcb fun t => { t with istimewaittimerrestarted := true }) :=
      h.of_eq rfl rfl
    exact hflag.startTimewaitTimer (hnone (by rw [hstate]; rfl))
  all_goals exact h

theorem of_receives {s' : Conn} (h : Tidy s) (hr : Receives s s') : Tidy s' :=
  h.of_eq (Conn.eq_of_outgoing (g := fun s => s.closings) (fun _ => rfl) hr.outgoing)
    (Conn.eq_of_outgoing (g := Conn.queued) (fun _ => rfl) hr.outgoing)

theorem processText (h : Tidy s) (hp : p.syn = false)
    (hnone : p.fin = true → finCancels s.tcb.tcpState = true → NoData s.queued) :
    Tidy (s.processText p) := by
  obtain ⟨_, s1, hr, htext⟩ := Receives.processText s hp
  rw [htext]
  have hstate : s1.tcb.tcpState = s.tcb.tcpState :=
    Conn.eq_of_outgoing (g := fun s => s.tcb.tcpState) (fun _ => rfl) hr.outgoing
  have hqueued : s1.queued = s.queued :=
    Conn.eq_of_outgoing (g := Conn.queued) (fun _ => rfl) hr.outgoing
  split
  · next hfin =>
    apply (h.of_receives hr).processFinPacket
    rw [hstate, hqueued]
    exact hnone (Bool.and_eq_true_iff.1 hfin).2
  · exact h.of_receives hr

theorem processAckPacket (h : Tidy s) (hload : s.load < 2 ^ 32) (hp : p.syn = false)
    (hack : s.tcb.SEG.ACK = p.ackNum) (htimeWait : s.tcb.tcpState = .timeWait → NoData s.queued)
    (hclosing : p.fin = true → s.tcb.tcpState = .closing →
      s.sId = [] ∧ ∀ q ∈ s.queued, q.isData = true → Covers s p q) :
    Tidy (s.processAckPacket p) := by
  have hprocessed := h.processAckAndSend hload hp
  unfold Conn.processAckPacket
  split
  · split
    · have hupdate : Tidy (s.mapTcb Tcb.updateSendWindow) := h.of_eq rfl rfl
      have hopen := hupdate.changeState .established (by simp)
      apply hopen.processAckAndSend _ hp
      obtain ⟨prev, heq⟩ := (s.mapTcb Tcb.updateSendWindow).changeState_eq .established
      rw [heq]
      exact hload
    · exact h.of_eq rfl rfl
  · exact hprocessed
  · exact hprocessed
  · exact hprocessed
  · split
    · exact hprocessed.changeState .finWait2 (by simp)
    · exact hprocessed
  · next hstate =>
    split
    · next hfin =>
      obtain ⟨hsId, hcovers⟩ := hclosing hfin hstate
      have hno := noData_processAckAndSend hp hack hsId hcovers
      exact (hprocessed.startTimewaitTimer hno).changeState .timeWait (by simp)
    · exact hprocessed
  · next hstate =>
    have hanswer : Tidy (s.sendFinAck s.tcb.SEG.SEQ s.tcb.SEG.ACK) := h.of_eq rfl rfl
    exact (hanswer.startTimewaitTimer (htimeWait hstate)).of_eq rfl rfl
  all_goals exact h

theorem of_requeue {s' : Conn} (h : Tidy s) {q : TcpQueue} {r : Segment} {seqNum time : Nat}
    (hget : s.tcb.retransmissionQueue.getSegmentFromQueue seqNum = some (r, q))
    (hclosings : s'.closings = s.closings)
    (hqueue : s'.tcb.retransmissionQueue = q.addPacketToQueue r time) : Tidy s' := by
  obtain ⟨hr, hrest⟩ := TcpQueue.mem_of_getSegmentFromQueue hget
  refine ⟨by rw [hclosings]; exact h.closings, ?_⟩
  intro p hp
  unfold Conn.queued at hp
  rw [hqueue] at hp
  rcases TcpQueue.mem_addPacketToQueue hp with rfl | hp
  · exact h.positive _ hr
  · exact h.positive _ (hrest p hp)

theorem resendSegment (h : Tidy s) (p : Segment) : Tidy (s.resendSegment p) := by
  unfold Conn.resendSegment
  split
  · exact h
  · next r q hget => exact h.of_requeue hget rfl rfl

theorem handled {c : Conn} {e : EventKind} {s' : Socket} (h : Tidy c) (hsafe : CloseSafe c e)
    (hh : Handled c e s') : Tidy s'.conn := by
  have hread (p : Segment) : Tidy (c.read p) := h.of_eq rfl rfl
  cases hh with
  | @ignored p => exact hread p
  | @answered p a _ => exact (hread p).of_eq rfl rfl
  | @opened p _ _ _ hiss _ =>
    obtain ⟨v, isTSopt, tsVal, heq⟩ := (c.read p).synAckArrives_eq p hiss
    rw [heq]
    obtain ⟨hacked, hle⟩ := (hread p).acknowledge
    have htaken : Tidy (((c.read p).synAckTaken v isTSopt tsVal).sendAck (c.read p).tcb.SND.NXT
        (u32 ((c.read p).tcb.SEG.SEQ + 1))) := hacked.of_eq rfl rfl
    have hopen := htaken.changeState .established (by simp)
    refine (hopen.effects ?_ (Conn.effects_sendSegment _)).1
    obtain ⟨prev, hstate⟩ := Conn.changeState_eq (((c.read p).synAckTaken v isTSopt tsVal).sendAck
      (c.read p).tcb.SND.NXT (u32 ((c.read p).tcb.SEG.SEQ + 1))) .established
    rw [hstate]
    exact Nat.lt_of_le_of_lt hle hsafe.load
  | @relistens p _ => exact (hread p).changeState .listen (by simp)
  | @reset p _ _ => exact (hread p).changeState .closed (by simp)
  | @finished p _ _ _ _ _ => exact (hread p).changeState .closed (by simp)
  | @ack p haccepted _ _ hsyn hack =>
    have hp := hsafe.segment p rfl haccepted
    exact (hread p).processAckPacket hsafe.load hsyn rfl (hp.timeWait hack) (hp.closing hack)
  | @text p haccepted _ hsyn hack =>
    exact (hread p).processText hsyn ((hsafe.segment p rfl haccepted).fin hack)
  | expired _ _ => exact h.of_eq rfl rfl
  | @synAgain p syn q _ _ _ hq => exact h.of_requeue hq rfl rfl
  | @synGivenUp p syn q _ _ hq =>
    have hrest := (TcpQueue.mem_of_getSegmentFromQueue hq).2
    have htaken : Tidy ((c.expire p).mapTcb fun t => { t with retransmissionQueue := q }) :=
      ⟨h.closings, fun r hr => h.positive r (hrest r hr)⟩
    exact htaken.changeState .closed (by simp)
  | @resent p _ _ _ _ =>
    have hexpire : Tidy (c.expire p) := h.of_eq rfl rfl
    have hcore := (c.expire p).core_congestionRtoTimeout
    have hadjusted : Tidy (c.expire p).congestionRtoTimeout :=
      hexpire.of_eq (Conn.eq_of_core (g := fun s => s.closings) (fun _ => rfl) hcore)
        (Conn.queued_of_core hcore)
    exact hadjusted.resendSegment p
  | timeWaitRestarts _ => exact h.of_eq rfl rfl
  | timeWaitEnds _ =>
    have hfired : Tidy { c with timeWaitTimeouts := c.timeWaitTimeouts - 1 } := h.of_eq rfl rfl
    exact hfired.changeState .closed (by simp)
  | woken _ => exact (h.effects hsafe.load c.effects_sendSegment).1.of_eq rfl rfl
  | notWoken _ => exact h
  | passed => exact h.of_eq rfl rfl

end Tidy

/-! ## LAST_ACK -/

/-- The states before `start_timewait_timer` can be called. -/
def beforeTimeWait (state : TcpState) : Bool :=
  match state with
  | .finWait1 | .finWait2 | .closing | .timeWait => false
  | _ => true

def FinSent (c : Conn) : Prop := ∃ q ∈ c.network, q.controlDataType = some .fin

structure Closer (c : Conn) : Prop where
  finSent : c.tcb.tcpState = .lastAck → FinSent c
  noTimeWait : beforeTimeWait c.tcb.tcpState = true → c.timeWaitTimeouts = 0

structure Toward (s s' : Conn) : Prop where
  network : ∀ q ∈ s.network, q ∈ s'.network
  lastAck : s'.tcb.tcpState = .lastAck → s.tcb.tcpState = .lastAck ∨ FinSent s'
  before : beforeTimeWait s'.tcb.tcpState = true →
    beforeTimeWait s.tcb.tcpState = true ∧ s'.timeWaitTimeouts = s.timeWaitTimeouts

namespace Toward

variable {s s' s'' : Conn}

theorem of_eq (hnetwork : ∀ q ∈ s.network, q ∈ s'.network)
    (hstate : s'.tcb.tcpState = s.tcb.tcpState)
    (htimers : s'.timeWaitTimeouts = s.timeWaitTimeouts) : Toward s s' := by
  refine ⟨hnetwork, fun h => .inl ?_, fun h => ⟨?_, htimers⟩⟩
  · rwa [← hstate]
  · rwa [← hstate]

theorem refl : Toward s s := of_eq (fun _ => id) rfl rfl

theorem trans (h : Toward s s') (h' : Toward s' s'') : Toward s s'' := by
  refine ⟨fun q hq => h'.network q (h.network q hq), fun hl => ?_, fun hb => ?_⟩
  · rcases h'.lastAck hl with hl | hsent
    · rcases h.lastAck hl with hl | ⟨q, hq, hfin⟩
      · exact .inl hl
      · exact .inr ⟨q, h'.network q hq, hfin⟩
    · exact .inr hsent
  · obtain ⟨hb', htimers⟩ := h'.before hb
    exact ⟨(h.before hb').1, htimers.trans (h.before hb').2⟩

theorem closer (h : Toward s s') (hs : Closer s) : Closer s' := by
  refine ⟨fun hl => ?_, fun hb => ?_⟩
  · rcases h.lastAck hl with hl | hsent
    · obtain ⟨q, hq, hfin⟩ := hs.finSent hl
      exact ⟨q, h.network q hq, hfin⟩
    · exact hsent
  · rw [(h.before hb).2]
    exact hs.noTimeWait (h.before hb).1

theorem of_core (h : s'.core = s.core) : Toward s s' := by
  have hnetwork : s'.network = s.network := Conn.eq_of_core (g := fun s => s.network) (fun _ => rfl) h
  exact of_eq (by rw [hnetwork]; exact fun _ => id)
    (Conn.eq_of_core (g := fun s => s.tcb.tcpState) (fun _ => rfl) h)
    (Conn.eq_of_core (g := fun s => s.timeWaitTimeouts) (fun _ => rfl) h)

theorem of_receives (h : Receives s s') : Toward s s' := by
  obtain ⟨l, hl, -⟩ := h.network
  exact of_eq (fun q hq => by rw [hl]; exact List.mem_append_left _ hq)
    (Conn.eq_of_outgoing (g := fun s => s.tcb.tcpState) (fun _ => rfl) h.outgoing)
    (Conn.eq_of_outgoing (g := fun s => s.timeWaitTimeouts) (fun _ => rfl) h.outgoing)

theorem sendToNetwork (s : Conn) (p : Segment) : Toward s (s.sendToNetwork p) :=
  of_eq (fun _ hq => List.mem_append_left _ hq) rfl rfl

theorem sendFin (s : Conn) : Toward s s.sendFin :=
  of_eq (fun _ hq => List.mem_append_left _ hq) rfl rfl

theorem changeState (s : Conn) {state : TcpState} (hlast : state ≠ .lastAck)
    (hbefore : beforeTimeWait state = true → beforeTimeWait s.tcb.tcpState = true) :
    Toward s (s.changeState state) := by
  obtain ⟨prev, heq⟩ := s.changeState_eq state
  rw [heq]
  exact ⟨fun _ => id, fun h => absurd h hlast, fun h => ⟨hbefore h, rfl⟩⟩

theorem effect (he : Effect s s') : Toward s s' := by
  cases he with
  | adjust hcore => exact of_core hcore
  | resend _ => exact sendToNetwork s _
  | wait _ => exact of_eq (fun _ => id) rfl rfl
  | openWindow => exact of_eq (fun _ => id) rfl rfl
  | push _ _ => exact of_eq (fun _ hq => List.mem_append_left _ hq) rfl rfl
  | close _ _ => exact (sendFin s).trans (changeState _ (by simp) (by simp [beforeTimeWait]))

theorem effects (he : Effects s s') : Toward s s' := by
  induction he with
  | refl => exact refl
  | tail _ he ih => exact ih.trans (effect he)

section

variable (s : Conn)

theorem startTimewaitTimer (h : beforeTimeWait s.tcb.tcpState = false) :
    Toward s s.startTimewaitTimer := by
  refine ⟨fun _ => id, fun hl => .inl hl, fun hb => ?_⟩
  have hb : beforeTimeWait s.tcb.tcpState = true := hb
  rw [h] at hb
  cases hb

variable {p : Segment}

theorem processAckAndSend (hp : p.syn = false) : Toward s (s.processAckAndSend p) := by
  have h := effects (s.effects_afterAckReceived hp)
  have hprocessed := s.ackProcessed p
  generalize s.afterAckReceived p = s1 at h hprocessed
  generalize s.processAckAndSend p = s2 at hprocessed
  cases hprocessed with
  | new _ _ he =>
    have hacked : Toward s1 s1.acknowledge := of_eq (fun _ => id) rfl rfl
    exact (h.trans hacked).trans (effects he)
  | old _ => exact h
  | early _ => exact h.trans (sendToNetwork _ _)

theorem processFinPacket : Toward s s.processFinPacket := by
  have hpassive (hb : beforeTimeWait s.tcb.tcpState = true) :
      Toward s ((((s.sendFinAck s.tcb.SND.NXT s.tcb.RCV.NXT).changeState .closeWait).sendFin.changeState
        .lastAck).cancelOtherTimers) := by
    have hwait : Toward s ((s.sendFinAck s.tcb.SND.NXT s.tcb.RCV.NXT).changeState .closeWait) :=
      (sendToNetwork s _).trans (changeState _ (by simp) fun _ => hb)
    have hstate : ((s.sendFinAck s.tcb.SND.NXT s.tcb.RCV.NXT).changeState .closeWait).tcb.tcpState =
        .closeWait := Conn.tcpState_changeState _ _
    generalize (s.sendFinAck s.tcb.SND.NXT s.tcb.RCV.NXT).changeState .closeWait = s1 at hwait hstate ⊢
    have hfin := hwait.trans (sendFin s1)
    have hsent : FinSent s1.sendFin :=
      ⟨s1.createFin, List.mem_append_right _ (List.mem_singleton.2 rfl), rfl⟩
    have hbefore : beforeTimeWait s1.sendFin.tcb.tcpState = true := by
      change beforeTimeWait s1.tcb.tcpState = true
      rw [hstate]
      rfl
    exact ⟨hfin.network, fun _ => .inr hsent, fun _ => hfin.before hbefore⟩
  unfold Conn.processFinPacket
  split
  · next hstate => exact hpassive (by rw [hstate]; rfl)
  · next hstate => exact hpassive (by rw [hstate]; rfl)
  · exact (changeState s (by simp) (by simp [beforeTimeWait])).trans (sendToNetwork _ _)
  · next hstate =>
    have hwait : Toward s (s.changeState .timeWait) :=
      changeState s (by simp) (by simp [beforeTimeWait])
    exact (hwait.trans (startTimewaitTimer _ (by simp [beforeTimeWait]))).trans (sendToNetwork _ _)
  · next hstate =>
    have hflag : Toward s (s.mapTcb fun t => { t with istimewaittimerrestarted := true }) :=
      of_eq (fun _ => id) rfl rfl
    apply hflag.trans (startTimewaitTimer _ _)
    change beforeTimeWait s.tcb.tcpState = false
    rw [hstate]
    rfl
  all_goals exact refl

theorem processText (hp : p.syn = false) : Toward s (s.processText p) := by
  obtain ⟨_, t, ht, htext⟩ := Receives.processText s hp
  rw [htext]
  split
  · exact (of_receives ht).trans (processFinPacket _)
  · exact of_receives ht

theorem processAckAndSend_changeState (hp : p.syn = false)
    {state : TcpState} (hlast : state ≠ .lastAck) (hbefore : beforeTimeWait state = false) :
    Toward s ((s.processAckAndSend p).changeState state) := by
  apply (processAckAndSend s hp).trans (changeState _ hlast _)
  rw [hbefore]
  simp

theorem processAckPacket (hp : p.syn = false) : Toward s (s.processAckPacket p) := by
  have hack := processAckAndSend s hp
  unfold Conn.processAckPacket
  split
  · next hstate =>
    split
    · have hupdate : Toward s (s.mapTcb Tcb.updateSendWindow) := of_eq (fun _ => id) rfl rfl
      have hopen : Toward s ((s.mapTcb Tcb.updateSendWindow).changeState .established) := by
        refine hupdate.trans (changeState _ (by simp) fun _ => ?_)
        change beforeTimeWait s.tcb.tcpState = true
        rw [hstate]
        rfl
      exact hopen.trans (processAckAndSend _ hp)
    · exact sendToNetwork _ _
  · exact hack
  · exact hack
  · exact hack
  · split
    · exact processAckAndSend_changeState s hp (by simp) rfl
    · exact hack
  · split
    · refine ⟨hack.network, fun hl => ?_, fun hb => ?_⟩
      · simp at hl
      · simp [beforeTimeWait] at hb
    · exact hack
  · next hstate =>
    have hanswer := sendToNetwork s { s.createAck s.tcb.SEG.SEQ s.tcb.SEG.ACK with fin := true }
    have htimer : Toward s (s.sendFinAck s.tcb.SEG.SEQ s.tcb.SEG.ACK).startTimewaitTimer := by
      apply hanswer.trans (startTimewaitTimer _ _)
      change beforeTimeWait s.tcb.tcpState = false
      rw [hstate]
      rfl
    exact htimer.trans (of_eq (fun _ => id) rfl rfl)
  all_goals exact refl

theorem synAckArrives (hstate : s.tcb.tcpState = .synSent)
    (hiss : s.tcb.ISS < s.tcb.SEG.ACK) : Toward s (s.synAckArrives p) := by
  obtain ⟨v, isTSopt, tsVal, heq⟩ := s.synAckArrives_eq p hiss
  rw [heq]
  have htaken : Toward s ((s.synAckTaken v isTSopt tsVal).sendAck s.tcb.SND.NXT
      (u32 (s.tcb.SEG.SEQ + 1))) := of_eq (fun _ hq => List.mem_append_left _ hq) rfl rfl
  refine (htaken.trans (changeState _ (by simp) fun _ => ?_)).trans
    (effects (Conn.effects_sendSegment _))
  change beforeTimeWait s.tcb.tcpState = true
  rw [hstate]
  rfl

theorem resendSegment (p : Segment) : Toward s (s.resendSegment p) := by
  unfold Conn.resendSegment
  split
  · exact refl
  · exact of_eq (fun _ hq => List.mem_append_left _ hq) rfl rfl

end

end Toward

theorem Closer.handled {c : Conn} {e : EventKind} {s' : Socket} (h : Closer c)
    (hh : Handled c e s') (hlive : s'.Live) : Closer s'.conn := by
  have hread (p : Segment) : Toward c (c.read p) := .of_eq (fun _ => id) rfl rfl
  cases hh with
  | @ignored p => exact (hread p).closer h
  | @answered p a _ => exact ((hread p).trans (.sendToNetwork _ a)).closer h
  | @opened p hstate _ _ hiss _ => exact ((hread p).trans (.synAckArrives _ hstate hiss)).closer h
  | @relistens p hstate =>
    have hlisten : Toward (c.read p) ((c.read p).changeState .listen) := by
      refine .changeState _ (by simp) fun _ => ?_
      change beforeTimeWait c.tcb.tcpState = true
      rw [hstate]
      rfl
    exact ((hread p).trans hlisten).closer h
  | reset _ _ => exact absurd hlive.freed (by simp)
  | finished _ _ _ _ _ => exact absurd hlive.tcbDeleted (by simp)
  | @ack p _ _ _ hsyn _ => exact ((hread p).trans (.processAckPacket _ hsyn)).closer h
  | @text p _ _ hsyn _ => exact ((hread p).trans (.processText _ hsyn)).closer h
  | expired _ _ =>
    refine Toward.closer (s := c) ?_ h
    exact .of_eq (fun _ => id) rfl rfl
  | synAgain _ _ _ _ =>
    refine Toward.closer (s := c) ?_ h
    exact .of_eq (fun _ hq => List.mem_append_left _ hq) rfl rfl
  | synGivenUp _ _ _ => exact absurd hlive.freed (by simp)
  | @resent p _ _ _ _ =>
    have hexpire : Toward c (c.expire p) := .of_eq (fun _ => id) rfl rfl
    have hadjusted := hexpire.trans (.of_core (c.expire p).core_congestionRtoTimeout)
    exact (hadjusted.trans (.resendSegment _ p)).closer h
  | timeWaitRestarts hpending =>
    refine ⟨h.finSent, fun hb => ?_⟩
    have := h.noTimeWait hb
    omega
  | timeWaitEnds _ => exact absurd hlive.tcbDeleted (by simp)
  | woken _ =>
    have hawake : Toward c.sendSegment { c.sendSegment with waitFromApp := false } :=
      .of_eq (fun _ => id) rfl rfl
    exact ((Toward.effects c.effects_sendSegment).trans hawake).closer h
  | notWoken _ => exact h
  | passed =>
    refine Toward.closer (s := c) ?_ h
    exact .of_eq (fun _ => id) rfl rfl

theorem Effects.ne_closed {s s' : Conn} (he : Effects s s') (h : s.tcb.tcpState ≠ .closed) :
    s'.tcb.tcpState ≠ .closed := by
  induction he with
  | refl => exact h
  | tail _ he ih =>
    cases he with
    | adjust hcore => rwa [Conn.eq_of_core (g := fun s => s.tcb.tcpState) (fun _ => rfl) hcore]
    | resend _ => exact ih
    | wait _ => exact ih
    | openWindow => exact ih
    | push _ _ => exact ih
    | close _ _ => simp

theorem CloseSafe.finAcked {c : Conn} {e : EventKind} {s' : Socket} (hsafe : CloseSafe c e)
    (h : Closer c) (hh : Handled c e s') (hlast : c.tcb.tcpState = .lastAck)
    (hclosed : s'.conn.tcb.tcpState = .closed) :
    ∃ p, e = .segment p ∧ p.ack = true ∧
      ∃ q ∈ c.network, q.controlDataType = some .fin ∧ q.seqNum < p.ackNum := by
  have hstay {s : Conn} (hs : s.tcb.tcpState = c.tcb.tcpState) : s.tcb.tcpState ≠ .closed := by
    rw [hs, hlast]
    simp
  cases hh with
  | ignored => exact absurd hclosed (hstay rfl)
  | answered _ => exact absurd hclosed (hstay rfl)
  | opened hstate _ _ _ _ =>
    rw [hlast] at hstate
    cases hstate
  | relistens _ => simp at hclosed
  | @reset p haccepted hflag =>
    obtain ⟨hrst, hsyn, -⟩ := (hsafe.segment p rfl haccepted).lastAck hlast
    rw [hrst, hsyn] at hflag
    simp at hflag
  | @finished p haccepted _ _ _ hack =>
    obtain ⟨-, -, hacked⟩ := (hsafe.segment p rfl haccepted).lastAck hlast
    obtain ⟨q, hq, hfin⟩ := h.finSent hlast
    exact ⟨p, rfl, hack, q, hq, hfin, hacked hack q hq hfin⟩
  | ack _ hne _ _ _ => exact absurd hlast hne
  | @text p _ _ hsyn _ =>
    obtain ⟨_, s1, hr, htext⟩ := Receives.processText (c.read p) hsyn
    refine absurd hclosed (hstay ?_)
    rw [htext]
    have hread : s1.tcb.tcpState = (c.read p).tcb.tcpState :=
      Conn.eq_of_outgoing (g := fun s => s.tcb.tcpState) (fun _ => rfl) hr.outgoing
    have hstate : s1.tcb.tcpState = c.tcb.tcpState := hread
    split
    · unfold Conn.processFinPacket
      rw [hstate, hlast]
      exact hstate.trans hlast
    · exact hstate
  | expired _ _ => exact absurd hclosed (hstay rfl)
  | synAgain _ _ _ _ => exact absurd hclosed (hstay rfl)
  | synGivenUp _ hstate _ =>
    rw [hlast] at hstate
    simp at hstate
  | @resent p _ _ _ _ =>
    refine absurd hclosed (hstay ?_)
    have hcore := (c.expire p).core_congestionRtoTimeout
    have hstate : (c.expire p).congestionRtoTimeout.tcb.tcpState = (c.expire p).tcb.tcpState :=
      Conn.eq_of_core (g := fun s => s.tcb.tcpState) (fun _ => rfl) hcore
    unfold Conn.resendSegment
    split
    · exact hstate
    · exact hstate
  | timeWaitRestarts _ => exact absurd hclosed (hstay rfl)
  | timeWaitEnds hpending =>
    have := h.noTimeWait (by rw [hlast]; rfl)
    omega
  | woken _ => exact absurd hclosed (c.effects_sendSegment.ne_closed (hstay rfl))
  | notWoken _ => exact absurd hclosed (hstay rfl)
  | passed => exact absurd hclosed (hstay rfl)

/-! ## Runs -/

theorem dPacketSize_setOptions (p : Segment) (option : List TcpOption) :
    0 < (p.setOptions option).dPacketSize := by
  have hpad : optionsLen option ≤ paddedLen (optionsLen option) := by
    unfold paddedLen
    split
    · exact Nat.le_refl _
    · exact Nat.le_add_right _ _
  have hlen : 20 ≤ optionsLen option := Nat.le_add_right _ _
  change 0 < p.dPayload + paddedLen (optionsLen option)
  omega

theorem tidy_closer_of_opened {s₀ : Socket} (h0 : Socket.Opened s₀) :
    Tidy s₀.conn ∧ Closer s₀.conn := by
  have hnone : ∀ r ∈ ([] : List (Closing × List Segment)), NoData r.2 := by simp
  cases h0 with
  | connect dev dEventTime sId =>
    have hfresh : Closer (Socket.connect dev dEventTime sId).conn := ⟨nofun, fun _ => rfl⟩
    refine ⟨⟨hnone, ?_⟩, hfresh⟩
    intro p hp
    obtain rfl := List.mem_singleton.1 hp
    exact dPacketSize_setOptions _ _
  | accept dev dEventTime sId syn =>
    obtain ⟨-, hqueue, -⟩ := Tcb.readSyn_keeps
      (((Tcb.create dev dEventTime).updateSeqNumOnReceiving syn).changeState .listen) dev syn
    obtain ⟨prev, heq⟩ := (Socket.acceptConn dev dEventTime sId syn).answerSyn_eq
    rw [Socket.accept_eq]
    rw [heq]
    refine ⟨⟨hnone, ?_⟩, nofun, fun _ => rfl⟩
    intro p hp
    have hp : p ∈ (((((Tcb.create dev dEventTime).updateSeqNumOnReceiving syn).changeState
        .listen).readSyn dev syn).retransmissionQueue.addPacketToQueue
          (Socket.acceptConn dev dEventTime sId syn).createSynAck dEventTime).segments := hp
    rw [hqueue, TcpQueue.segments_addPacketToQueue] at hp
    obtain rfl := List.mem_singleton.1 hp
    exact dPacketSize_setOptions _ _
  | listen dev dEventTime =>
    have hfresh : Closer (Socket.listen dev dEventTime).conn := ⟨nofun, fun _ => rfl⟩
    exact ⟨⟨hnone, fun p hp => absurd hp List.not_mem_nil⟩, hfresh⟩

def World.CloseSafe (w : World) (e : Event) : Prop :=
  ∀ s, w = .ok s → s.Live → NetSim.Tcp.CloseSafe (connAt s e.dEventTime) e.kind

/-- If a step leads from LAST_ACK to CLOSED, it is an acknowledgment of everything up to the FIN. -/
def LastAckAcked (x : World × Event) : Prop :=
  ∀ s s', x.1 = .ok s → World.step x.1 x.2 = some (.ok s') → s.Live →
    s.conn.tcb.tcpState = .lastAck → s'.conn.tcb.tcpState = .closed →
      ∃ p, x.2.kind = .segment p ∧ p.ack = true ∧
        ∃ q ∈ s.conn.network, q.controlDataType = some .fin ∧ q.seqNum < p.ackNum

/-- A run whose events all meet the condition abandons no data: none was queued whenever the socket
closed or cancelled its timers, and LAST_ACK ended with an acknowledgment of everything. -/
theorem abandonsNothing_of_run {s₀ : Socket} {w : World} {tr : List (World × Event)}
    (h₀ : Socket.Opened s₀) (run : Run World.step (.ok s₀) tr w)
    (hsafe : ∀ x ∈ tr, x.1.CloseSafe x.2) :
    (∀ s, w = .ok s → ∀ r ∈ s.conn.closings, NoData r.2) ∧ ∀ x ∈ tr, LastAckAcked x := by
  have hrun : (∀ s, w = .ok s → (∀ r ∈ s.conn.closings, NoData r.2) ∧
      (s.Live → Tidy s.conn ∧ Closer s.conn)) ∧ ∀ x ∈ tr, LastAckAcked x := by
    apply run.induction (P := fun tr w => (∀ s, w = .ok s →
        (∀ r ∈ s.conn.closings, NoData r.2) ∧ (s.Live → Tidy s.conn ∧ Closer s.conn)) ∧
        ∀ x ∈ tr, LastAckAcked x)
      (Q := fun w e => w.CloseSafe e) _ _ hsafe
    · have h := tidy_closer_of_opened h₀
      refine ⟨?_, by simp⟩
      rintro s ⟨⟩
      exact ⟨h.1.closings, fun _ => h⟩
    · rintro tr w e w' - ⟨hw, htr⟩ hq hstep
      cases w with
      | error f => cases hstep
      | ok s =>
        obtain ⟨hclosings, hinv⟩ := hw s rfl
        constructor
        · rintro s' rfl
          by_cases hlive : s.Live
          · obtain ⟨htidy, hcloser⟩ := hinv hlive
            have hh := World.step_handled hstep hlive
            have hclock : Tidy (World.connAt s e.dEventTime) := htidy.of_eq rfl rfl
            have hclock' : Closer (World.connAt s e.dEventTime) :=
              ⟨hcloser.finSent, hcloser.noTimeWait⟩
            have htidy' := hclock.handled (hq s rfl hlive) hh
            exact ⟨htidy'.closings, fun hlive' => ⟨htidy', hclock'.handled hh hlive'⟩⟩
          · have hgone := World.step_gone hstep hlive
            rw [hgone.closings]
            exact ⟨hclosings, fun hlive' => absurd hlive' hgone.notLive⟩
        · intro x hx
          rcases List.mem_cons.1 hx with rfl | hx
          · rintro s₁ s' ⟨⟩ hstep' hlive hlast hclosed
            obtain ⟨-, hcloser⟩ := hinv hlive
            have hclock' : Closer (World.connAt s e.dEventTime) :=
              ⟨hcloser.finSent, hcloser.noTimeWait⟩
            exact (hq s rfl hlive).finAcked hclock' (World.step_handled hstep' hlive) hlast hclosed
          · exact htr x hx
  exact ⟨fun s hs => (hrun.1 s hs).1, hrun.2⟩

/-- The FIN of the client of `exampleSender`. -/
def exampleFin : Segment := { createTcpCtrlPacket .fin with fin := true, seqNum := 2 }

def closeSafeTest (s : Conn) : EventKind → Bool
  | .segment p => decide (s.load < 2 ^ 32 ∧ (Accepted s p → SegmentSafe s p))
  | _ => false

/-- The client acknowledges the SYN-ACK and the packet before it sends its FIN, and then the FIN of
the server. -/
theorem abandonsNothing_exampleSender :
    ∃ tr s, Run World.step (.ok exampleSender) tr (.ok s) ∧ s.conn.tcb.tcpState = .closed ∧
      s.conn.closings.length = 3 ∧ (∀ r ∈ s.conn.closings, NoData r.2) ∧
      ∀ x ∈ tr, LastAckAcked x := by
  have hexec : (exec World.step (.ok exampleSender)
      [fun _ => some ⟨1, .segment (exampleAck 2)⟩, fun _ => some ⟨2, .segment (exampleAck 102)⟩,
        fun _ => some ⟨3, .segment exampleFin⟩, fun _ => some ⟨4, .segment (exampleAck 103)⟩]).any
      (fun r => (r.1.all fun x => x.1.toOption.any fun s =>
          closeSafeTest (World.connAt s x.2.dEventTime) x.2.kind) &&
        r.2.toOption.any fun s =>
          s.conn.tcb.tcpState = .closed ∧ s.conn.closings.length = 3) = true := by decide +kernel
  obtain ⟨tr, w, run, htest⟩ := run_of_exec hexec
  rw [Bool.and_eq_true, List.all_eq_true] at htest
  obtain ⟨hall, hlast⟩ := htest
  have hsafe : ∀ x ∈ tr, x.1.CloseSafe x.2 := by
    intro x hx s hs _
    have hx := hall x hx
    rw [hs] at hx
    cases hkind : x.2.kind with
    | segment p =>
      rw [hkind] at hx
      obtain ⟨hload, hsegment⟩ := of_decide_eq_true hx
      exact closeSafe_segment hload hsegment
    | _ => rw [hkind] at hx; cases hx
  cases w with
  | error f => cases hlast
  | ok s =>
    obtain ⟨hclosed, hlength⟩ := of_decide_eq_true hlast
    obtain ⟨hnone, hacked⟩ := abandonsNothing_of_run (.accept _ _ _ _) run hsafe
    exact ⟨tr, s, run, hclosed, hlength, hnone s rfl, hacked⟩

/-- The client sends its FIN while the packet is queued, and then acknowledges the SYN-ACK again. -/
theorem abandons_exampleSender :
    ∃ tr s e, Run World.step (.ok exampleSender) tr (.ok s) ∧
      (∃ r ∈ s.conn.closings, ¬ NoData r.2) ∧ ¬ LastAckAcked (.ok s, e) := by
  have hexec : (exec World.step (.ok exampleSender)
      [fun _ => some ⟨1, .segment (exampleAck 2)⟩, fun _ => some ⟨2, .segment exampleFin⟩]).any
      (fun r => r.2.toOption.any fun s =>
        (!s.freed && !s.tcbDeleted && decide (s.conn.tcb.tcpState = .lastAck)) &&
          (s.conn.closings.any fun r => r.2.any Segment.isData) &&
          (s.conn.network.all fun q => q.controlDataType ≠ some .fin || decide (2 ≤ q.seqNum)) &&
          (World.step (.ok s) ⟨3, .segment (exampleAck 2)⟩).any fun w =>
            w.toOption.any fun s' => s'.conn.tcb.tcpState = .closed) = true := by decide +kernel
  obtain ⟨tr, w, run, htest⟩ := run_of_exec hexec
  cases w with
  | error f => cases htest
  | ok s =>
    simp only [Except.toOption, Option.any_some, Bool.and_eq_true, Bool.not_eq_true',
      decide_eq_true_eq, List.any_eq_true, List.all_eq_true, Bool.or_eq_true] at htest
    obtain ⟨⟨⟨⟨⟨hfreed, hdeleted⟩, hlast⟩, r, hr, p, hp, hdata⟩, hfins⟩, hnext⟩ := htest
    refine ⟨tr, s, ⟨3, .segment (exampleAck 2)⟩, run, ⟨r, hr, fun hno => ?_⟩, fun hacked => ?_⟩
    · rw [hno p hp] at hdata
      cases hdata
    · obtain ⟨w, hstep, hclosed⟩ := (Option.any_eq_true _ _).1 hnext
      cases w with
      | error f => cases hclosed
      | ok s' =>
        obtain ⟨p, hp, -, q, hq, hfin, hlt⟩ := hacked s s' rfl hstep ⟨hfreed, hdeleted⟩ hlast
          (of_decide_eq_true hclosed)
        obtain rfl := EventKind.segment.inj hp
        have hle := hfins q hq
        simp only [hfin, ne_eq, not_true_eq_false, false_or] at hle
        exact absurd hlt (Nat.not_lt.2 hle)

end NetSim.Tcp
