import NetSim.Tcp.Incoming

/-!
# What the sending functions do

`Effect` lists what the functions that react to an acknowledgment or to the application do to a
connection; `Effects` is a sequence of these.
-/

namespace NetSim.Tcp

def CongestionVar.fixed (c : CongestionVar) : CongestionVar :=
  { zeroCongestionVar with SMSS := c.SMSS, RMSS := c.RMSS, IW := c.IW, LW := c.LW }

/-- The TCB without the variables of the congestion control, of SACK, of delayed acknowledgments and
of the send window, and the flags of the queued packets. -/
def Tcb.core (t : Tcb) : Tcb :=
  { t with
    SND := ⟨t.SND.UNA, t.SND.NXT, 0, 0, 0⟩
    retransmissionQueue := t.retransmissionQueue.mapSacked fun _ => false
    congestionData := t.congestionData.fixed
    lastAckSendTime := 0
    isAckSentLastTime := false
    istimewaittimerrestarted := false
    scoreboard := []
    pipe := 0
    highRxt := 0
    rescueRxt := 0
    isSackOption := false
    recoveryPoint := 0
    tsVal := 0 }

def Conn.core (s : Conn) : Conn := s.mapTcb Tcb.core

theorem Conn.eq_of_core {α : Type} {g : Conn → α} (hg : ∀ s, g s.core = g s) {s s' : Conn}
    (h : s'.core = s.core) : g s' = g s := by
  rw [← hg s', h, hg s]

theorem Tcb.eq_of_core {α : Type} {g : Tcb → α} (hg : ∀ t, g t.core = g t) {t t' : Tcb}
    (h : t'.core = t.core) : g t' = g t := by
  rw [← hg t', h, hg t]

theorem Conn.queued_of_core {s s' : Conn} (h : s'.core = s.core) : s'.queued = s.queued := by
  apply Conn.eq_of_core _ h
  intro s
  exact TcpQueue.segments_mapSacked _ _

/-! ## The congestion control functions -/

namespace Tcb

@[simp] theorem core_mapCongestion (t : Tcb) (f : CongestionVar → CongestionVar)
    (hf : (f t.congestionData).fixed = t.congestionData.fixed) :
    (t.mapCongestion f).core = t.core := by
  simp only [core, mapCongestion, hf]

@[simp] theorem core_withCwnd (t : Tcb) (cwnd : Nat) : (t.withCwnd cwnd).core = t.core := rfl

@[simp] theorem core_setSsthres (t : Tcb) (n : Nat) : (t.setSsthres n).core = t.core := rfl

@[simp] theorem core_setCwnd (t : Tcb) (n : Nat) : (t.setCwnd n).core = t.core := by
  unfold setCwnd
  split <;> rfl

@[simp] theorem core_increaseCwnd (t : Tcb) (n : Nat) : (t.increaseCwnd n).core = t.core := by
  unfold increaseCwnd
  split <;> rfl

@[simp] theorem core_slowStart (t : Tcb) : t.slowStart.core = t.core := core_increaseCwnd t _

@[simp] theorem core_congestionAvoidance (t : Tcb) (now : Nat) :
    (t.congestionAvoidance now).core = t.core := by
  unfold congestionAvoidance
  dsimp only
  split
  · rw [core_increaseCwnd]
    rfl
  · rfl

@[simp] theorem core_growCwnd (t : Tcb) (now : Nat) : (t.growCwnd now).core = t.core := by
  unfold growCwnd
  split
  · exact core_slowStart t
  · exact core_congestionAvoidance t now

@[simp] theorem core_bictcpRecalcSsthresh (t : Tcb) : t.bictcpRecalcSsthresh.2.core = t.core := by
  unfold bictcpRecalcSsthresh
  dsimp only
  split <;> rfl

@[simp] theorem core_bictcpUpdate (t : Tcb) (now : Nat) : (t.bictcpUpdate now).core = t.core := by
  apply core_mapCongestion
  dsimp only
  split <;> rfl

@[simp] theorem core_bictcpCongAvoid (t : Tcb) (now segmentAcked : Nat) :
    (t.bictcpCongAvoid now segmentAcked).core = t.core := by
  unfold bictcpCongAvoid
  have hpair : (if t.inSlowStart then (t.slowStart, sub32 segmentAcked 1)
      else (t, segmentAcked)).1.core = t.core := by
    split
    · exact core_slowStart t
    · rfl
  generalize (if t.inSlowStart then (t.slowStart, sub32 segmentAcked 1)
    else (t, segmentAcked)) = pair at hpair ⊢
  obtain ⟨t', acked⟩ := pair
  rw [← hpair]
  dsimp only
  split
  · have hupdate : ((t'.mapCongestion fun c => { c with bic := { c.bic with
        cwndcnt := u32 (c.bic.cwndcnt + acked) } }).bictcpUpdate now).core = t'.core := by
      rw [core_bictcpUpdate]
      rfl
    split
    · rw [core_mapCongestion _ _ rfl, core_increaseCwnd]
      exact hupdate
    · exact hupdate
  · rfl

/-! ### CUBIC -/

@[simp] theorem core_mapCubic (t : Tcb) (f : Cubic → Cubic) : (t.mapCubic f).core = t.core := rfl

@[simp] theorem core_cubicSetCwnd (t : Tcb) (n : Nat) : (t.cubicSetCwnd n).core = t.core := by
  unfold cubicSetCwnd
  split <;> rfl

@[simp] theorem core_cubicIncreaseCwnd (t : Tcb) (n : Nat) :
    (t.cubicIncreaseCwnd n).core = t.core := by
  unfold cubicIncreaseCwnd
  split <;> rfl

@[simp] theorem core_cubicSlowStart (t : Tcb) : t.cubicSlowStart.core = t.core :=
  core_cubicIncreaseCwnd t _

@[simp] theorem core_cubictcpRecalcSsthresh (t : Tcb) :
    t.cubictcpRecalcSsthresh.2.core = t.core := rfl

@[simp] theorem core_cubictcpUpdate (t : Tcb) (now acked : Nat) :
    (t.cubictcpUpdate now acked).core = t.core := rfl

@[simp] theorem core_cubictcpCongAvoid (t : Tcb) (now segmentAcked : Nat) :
    (t.cubictcpCongAvoid now segmentAcked).core = t.core := by
  unfold cubictcpCongAvoid
  have hpair : (if t.inSlowStart then
        ((if toInt32 (sub32 t.congestionData.cubic.endSeq t.SEG.ACK) < 0 then
          t.mapCubic (cubictcpHystartReset now t.SND.NXT) else t).cubicSlowStart,
          sub32 segmentAcked 1)
      else (t, segmentAcked)).1.core = t.core := by
    split
    · rw [core_cubicSlowStart]
      split <;> rfl
    · rfl
  generalize (if t.inSlowStart then
        ((if toInt32 (sub32 t.congestionData.cubic.endSeq t.SEG.ACK) < 0 then
          t.mapCubic (cubictcpHystartReset now t.SND.NXT) else t).cubicSlowStart,
          sub32 segmentAcked 1)
      else (t, segmentAcked)) = pair at hpair ⊢
  rw [← hpair]
  dsimp only
  split
  · split
    · rw [core_mapCubic, core_cubicIncreaseCwnd]
      rfl
    · rfl
  · rfl

@[simp] theorem core_hystartAckTrain (t : Tcb) (now : Nat) :
    (t.hystartAckTrain now).core = t.core := by
  unfold hystartAckTrain
  dsimp only
  split
  · split
    · split
      · rw [core_cubicSetCwnd]
        rfl
      · rfl
    · rfl
  · rfl

@[simp] theorem core_hystartDelay (t : Tcb) (delay : Nat) :
    (t.hystartDelay delay).core = t.core := by
  unfold hystartDelay
  dsimp only
  split
  · rfl
  · split <;> rfl

@[simp] theorem core_hystartUpdate (t : Tcb) (now delay : Nat) :
    (t.hystartUpdate now delay).core = t.core := by
  unfold hystartUpdate
  split
  · rfl
  · rw [core_hystartDelay, core_hystartAckTrain]

@[simp] theorem core_cubictcpAcked (t : Tcb) (now : Nat) : (t.cubictcpAcked now).core = t.core := by
  unfold cubictcpAcked
  split
  · rw [core_hystartUpdate]
  · rfl

theorem mapSacked_mapSacked (q : TcpQueue) (f : QueueInfo → Bool) :
    (q.mapSacked f).mapSacked (fun _ => false) = q.mapSacked fun _ => false := by
  simp [TcpQueue.mapSacked, Function.comp_def]

@[simp] theorem core_updateSackFlag (t : Tcb) (left right : Nat) :
    (t.updateSackFlag left right).core = t.core := by
  unfold core updateSackFlag
  simp only [mapSacked_mapSacked]

@[simp] theorem core_receiveSackOption (t : Tcb) (option : List TcpOption) :
    (t.receiveSackOption option).core = t.core := by
  have hfold : ∀ (l : List SackData) (t : Tcb),
      (l.foldl (fun t data => t.updateSackFlag data.leftEdge data.rightEdge) t).core = t.core := by
    intro l
    induction l with
    | nil => exact fun _ => rfl
    | cons d l ih =>
      intro t
      rw [List.foldl_cons, ih, core_updateSackFlag]
  unfold receiveSackOption
  dsimp only
  split
  · rfl
  · split
    · rfl
    · split
      · rfl
      · exact hfold _ _

@[simp] theorem core_sackSetPipe (t : Tcb) : t.sackSetPipe.core = t.core := rfl

@[simp] theorem core_updateSendWindow (t : Tcb) : t.updateSendWindow.core = t.core := rfl

theorem core_readTimestamp (t : Tcb) {p : Segment} (hp : p.syn = false) :
    (t.readTimestamp p).core = t.core := by
  unfold readTimestamp setTimestampValue
  simp only [hp, Bool.false_eq_true, if_false]
  split
  · split <;> rfl
  · rfl

end Tcb

/-! ## Effects -/

inductive Effect : Conn → Conn → Prop
  | adjust {s s' : Conn} (h : s'.core = s.core) : Effect s s'
  | resend {s : Conn} {p : Segment} (hp : p ∈ s.queued) : Effect s (s.sendToNetwork p)
  | wait {s : Conn} (h : s.sId = []) : Effect s { s with waitFromApp := true }
  | openWindow {s : Conn} : Effect s s.openWindow
  | push {s : Conn} {p : AppPacket} {rest : List AppPacket} (h : s.sId = p :: rest)
      (hroom : s.windowHasRoom p = true) : Effect s { s.sendPacket p with sId := rest }
  | close {s : Conn} (hend : s.isAPPClose = true)
      (hnone : s.tcb.retransmissionQueue.isAnySegmentInQueue = false) :
      Effect s (s.sendFin.changeState .finWait1)

abbrev Effects : Conn → Conn → Prop := Relation.ReflTransGen Effect

namespace Conn

theorem effects_adjust {s s' : Conn} (h : s'.core = s.core) : Effects s s' :=
  .single (.adjust h)

theorem effects_mapTcb {s : Conn} {f : Tcb → Tcb} (h : (f s.tcb).core = s.tcb.core) :
    Effects s (s.mapTcb f) := by
  apply effects_adjust
  unfold core mapTcb
  rw [h]

theorem effects_tcpClose {s : Conn} (hend : s.isAPPClose = true) : Effects s s.tcpClose := by
  unfold tcpClose
  split
  · exact .refl
  · next hnone => exact .single (.close hend (by simpa using hnone))

theorem sendLoop_congr_sId (l sId : List AppPacket) (s : Conn) :
    { s with sId := sId }.sendLoop l = s.sendLoop l := by
  induction l generalizing s with
  | nil => rfl
  | cons p rest ih =>
    unfold sendLoop
    split
    · next hroom =>
      rw [if_pos (by exact hroom)]
      exact ih (s.sendPacket p)
    · next hroom =>
      rw [if_neg (by exact hroom)]

theorem effects_sendLoop {l : List AppPacket} {s : Conn} (h : s.sId = l) :
    Effects s (s.sendLoop l) := by
  induction l generalizing s with
  | nil =>
    have : s.sendLoop [] = s := by
      unfold sendLoop
      rw [← h]
    rw [this]
  | cons p rest ih =>
    unfold sendLoop
    split
    · next hroom =>
      rw [← sendLoop_congr_sId rest rest (s.sendPacket p)]
      exact .head (.push h hroom) (ih rfl)
    · rw [← h]

theorem effects_sendSegment (s : Conn) : Effects s s.sendSegment := by
  unfold sendSegment
  have hwait : Effects s (if s.sId = [] then { s with waitFromApp := true } else s) := by
    split
    · next hempty => exact .single (.wait hempty)
    · exact .refl
  generalize (if s.sId = [] then { s with waitFromApp := true } else s) = s1 at hwait ⊢
  dsimp only
  have hloop : Effects s (s1.openWindow.sendLoop s1.openWindow.sId) :=
    (hwait.tail .openWindow).trans (effects_sendLoop rfl)
  split
  · next hend => exact hloop.trans (effects_tcpClose hend)
  · exact hloop

theorem mem_queued_of_getCopy {s : Conn} {seq : Nat} {p : Segment} {isSacked : Bool}
    (h : s.tcb.retransmissionQueue.getCopySegmentFromQueue seq = some (p, isSacked)) :
    p ∈ s.queued := by
  unfold TcpQueue.getCopySegmentFromQueue at h
  rw [Option.map_eq_some_iff] at h
  obtain ⟨info, hfind, heq⟩ := h
  obtain rfl := congrArg Prod.fst heq
  exact List.mem_map_of_mem (List.mem_of_find?_eq_some hfind)

theorem effects_resendSegmentWithoutTimeout (s : Conn) (seq : Nat) :
    Effects s (s.resendSegmentWithoutTimeout seq) := by
  unfold resendSegmentWithoutTimeout
  split
  · exact .refl
  · next p isSacked hcopy =>
    split
    · exact .refl
    · have hadjust : Effects s ((s.setHighRxt seq).setRescueRxt seq) := effects_adjust rfl
      exact hadjust.tail (.resend (mem_queued_of_getCopy hcopy))

theorem effects_sackNextSeg (s : Conn) : Effects s s.sackNextSeg.2 := by
  unfold sackNextSeg
  dsimp only
  split
  · exact .refl
  · split <;> exact effects_adjust rfl

theorem effects_sackFastRetransmit (s : Conn) : Effects s s.sackFastRetransmit := by
  unfold sackFastRetransmit
  split
  · exact effects_adjust rfl
  · exact .refl

theorem effects_lossRecoveryLoop (wnd mss : Nat) :
    ∀ (rounds pipe : Nat) (s : Conn), Effects s (lossRecoveryLoop wnd mss rounds pipe s) := by
  intro rounds
  induction rounds with
  | zero => exact fun _ s => .refl
  | succ rounds ih =>
    intro pipe s
    have hnext := effects_sackNextSeg s
    unfold lossRecoveryLoop
    split
    · exact .refl
    · split
      · next s' heq =>
        rw [heq] at hnext
        exact hnext
      · next nextSeg s' heq =>
        rw [heq] at hnext
        split
        · have hresend := effects_resendSegmentWithoutTimeout s' nextSeg
          have hrxt : Effects (s'.resendSegmentWithoutTimeout nextSeg)
              ((s'.resendSegmentWithoutTimeout nextSeg).setHighRxt nextSeg) := effects_adjust rfl
          exact ((hnext.trans hresend).trans hrxt).trans (ih _ _)
        · have hsend := effects_sendSegment s'
          refine Relation.ReflTransGen.trans ?_ (ih _ _)
          exact (hnext.trans hsend).trans (effects_adjust rfl)

theorem effects_sackLossRecoveryPhase (s : Conn) : Effects s s.sackLossRecoveryPhase.2 := by
  unfold sackLossRecoveryPhase
  split
  · exact .refl
  · refine Relation.ReflTransGen.trans ?_ (effects_lossRecoveryLoop _ _ _ _ _)
    exact effects_adjust rfl

theorem effects_enterRecovery (s : Conn) (isFastRecovery : Bool) :
    Effects s (s.enterRecovery isFastRecovery) := by
  unfold enterRecovery
  have hresend := effects_resendSegmentWithoutTimeout s s.tcb.SEG.ACK
  dsimp only
  generalize s.resendSegmentWithoutTimeout s.tcb.SEG.ACK = s1 at hresend ⊢
  have hflag : Effects s (s1.mapTcb (·.mapCongestion fun c => { c with
      isFastRecovery := isFastRecovery })) := hresend.trans (effects_adjust rfl)
  generalize (s1.mapTcb (·.mapCongestion fun c => { c with
    isFastRecovery := isFastRecovery })) = s2 at hflag ⊢
  split
  · exact (hflag.trans (effects_sackFastRetransmit s2)).trans (effects_adjust rfl)
  · exact hflag

theorem effects_stayInRecovery (s : Conn) : Effects s s.stayInRecovery := by
  unfold stayInRecovery
  split
  · exact (effects_sackLossRecoveryPhase s).trans (effects_adjust rfl)
  · exact .refl

theorem effects_fastRetransmit (s : Conn) : Effects s s.fastRetransmit := by
  unfold fastRetransmit
  split
  · have hset : Effects s ((s.mapTcb fun t =>
        t.setSsthres (max (t.flightSize / 2) (2 * t.congestionData.SMSS))).mapTcb fun t =>
        t.setCwnd (u32 (t.getSsthres + tcpDupThresh * t.congestionData.SMSS))) :=
      (effects_mapTcb (Tcb.core_setSsthres _ _)).trans (effects_mapTcb (Tcb.core_setCwnd _ _))
    exact hset.trans (effects_enterRecovery _ _)
  · exact (effects_mapTcb (Tcb.core_increaseCwnd _ _)).trans (effects_stayInRecovery _)

theorem effects_fastRecovery (s : Conn) : Effects s s.fastRecovery := by
  apply effects_mapTcb
  rw [Tcb.core_setCwnd]
  rfl

theorem effects_newRenoFastRecovery (s : Conn) : Effects s s.newRenoFastRecovery := by
  unfold newRenoFastRecovery
  have hcount : Effects s (s.mapTcb (·.mapCongestion fun c => { c with dupAckCount := 0 })) :=
    effects_adjust rfl
  dsimp only
  split
  · apply hcount.trans
    apply effects_mapTcb
    rw [Tcb.core_mapCongestion _ _ rfl, Tcb.core_setCwnd]
  · exact (hcount.trans (effects_mapTcb (Tcb.core_increaseCwnd _ _))).trans
      (effects_resendSegmentWithoutTimeout _ _)

theorem effects_countDupAck (s : Conn) : Effects s s.countDupAck := effects_adjust rfl

theorem effects_dupAck {s : Conn} {f : Conn → Conn} (hf : ∀ s, Effects s (f s)) :
    Effects s (if s.countDupAck.tcb.congestionData.dupAckCount < tcpDupThresh then
        if s.countDupAck.sackReportsLoss then f s.countDupAck else s.countDupAck
      else f s.countDupAck) := by
  have hcount := effects_countDupAck s
  split
  · split
    · exact hcount.trans (hf _)
    · exact hcount
  · exact hcount.trans (hf _)

section

variable (s : Conn)

theorem effects_growCwnd : Effects s (s.mapTcb (·.growCwnd s.dEventTime)) :=
  effects_mapTcb (Tcb.core_growCwnd _ _)

theorem effects_tahoeAckReceived : Effects s s.tahoeAckReceived := by
  unfold tahoeAckReceived
  split
  · exact effects_dupAck effects_fastRetransmit
  · split
    · apply effects_mapTcb
      rw [Tcb.core_setCwnd]
      rfl
    · exact effects_growCwnd s

theorem effects_renoAckReceived : Effects s s.renoAckReceived := by
  unfold renoAckReceived
  split
  · exact effects_dupAck effects_fastRetransmit
  · split
    · exact effects_fastRecovery s
    · exact effects_growCwnd s

theorem effects_newrenoAckReceived : Effects s s.newrenoAckReceived := by
  unfold newrenoAckReceived
  split
  · have hcount := effects_countDupAck s
    generalize s.countDupAck = s1 at hcount ⊢
    dsimp only
    split
    · split
      · exact hcount.trans (effects_fastRetransmit s1)
      · exact hcount
    · split
      · refine Relation.ReflTransGen.trans ?_ (effects_fastRetransmit _)
        exact hcount.trans (effects_adjust rfl)
      · exact hcount
  · split
    · exact effects_newRenoFastRecovery s
    · exact effects_growCwnd s

theorem effects_bictcpFastretransmit : Effects s s.bictcpFastretransmit := by
  unfold bictcpFastretransmit
  split
  · have hssthresh : Effects s (s.mapTcb fun t =>
        t.bictcpRecalcSsthresh.2.setSsthres (u16 t.bictcpRecalcSsthresh.1)) := by
      apply effects_mapTcb
      rw [Tcb.core_setSsthres, Tcb.core_bictcpRecalcSsthresh]
    exact (hssthresh.trans (effects_mapTcb (Tcb.core_setCwnd _ _))).trans
      (effects_enterRecovery _ _)
  · exact (effects_mapTcb (Tcb.core_increaseCwnd _ _)).trans (effects_stayInRecovery _)

theorem effects_bicAckReceived : Effects s s.bicAckReceived := by
  unfold bicAckReceived
  split
  · exact effects_dupAck effects_bictcpFastretransmit
  · split
    · exact effects_fastRecovery s
    · exact effects_mapTcb (Tcb.core_bictcpCongAvoid _ _ _)

theorem effects_cubictcpFastretransmit : Effects s s.cubictcpFastretransmit := by
  unfold cubictcpFastretransmit
  split
  · have hssthresh : Effects s (s.mapTcb fun t =>
        t.cubictcpRecalcSsthresh.2.setSsthres
          (u32 (t.cubictcpRecalcSsthresh.1 * t.cubictcpRecalcSsthresh.2.getMSS))) :=
      effects_adjust rfl
    exact (hssthresh.trans (effects_mapTcb (Tcb.core_cubicSetCwnd _ _))).trans
      (effects_enterRecovery _ _)
  · exact (effects_mapTcb (Tcb.core_cubicIncreaseCwnd _ _)).trans (effects_stayInRecovery _)

theorem effects_cubicAckReceived : Effects s s.cubicAckReceived := by
  unfold cubicAckReceived
  split
  · exact effects_dupAck effects_cubictcpFastretransmit
  · split
    · apply effects_mapTcb
      rw [Tcb.core_cubicSetCwnd]
      rfl
    · apply effects_mapTcb
      rw [Tcb.core_cubictcpCongAvoid, Tcb.core_cubictcpAcked]

theorem effects_ackReceived : Effects s s.ackReceived := by
  unfold ackReceived
  split
  · exact effects_growCwnd s
  · exact effects_tahoeAckReceived s
  · exact effects_renoAckReceived s
  · exact effects_newrenoAckReceived s
  · exact effects_bicAckReceived s
  · exact effects_cubicAckReceived s

theorem core_congestionRtoTimeout : s.congestionRtoTimeout.core = s.core := by
  unfold congestionRtoTimeout core mapTcb
  dsimp only
  congr 1
  split
  · rw [Tcb.core_mapCongestion _ _ rfl, Tcb.core_setCwnd, Tcb.core_setSsthres]
  · rw [Tcb.core_setCwnd, Tcb.core_setSsthres]

end

/-! ## Acknowledgments -/

def acknowledge (s : Conn) : Conn :=
  s.mapTcb fun t => { t with
    SND.UNA := t.SEG.ACK
    retransmissionQueue := t.retransmissionQueue.deleteSegmentFromQueue t.SEG.ACK }

theorem queued_acknowledge (s : Conn) :
    s.acknowledge.queued = s.queued.filter fun p => s.tcb.SEG.ACK < p.seqEnd :=
  TcpQueue.segments_deleteSegmentFromQueue _ _

theorem queued_sendPacket (s : Conn) (p : AppPacket) (rest : List AppPacket) :
    { s.sendPacket p with sId := rest }.queued.Perm (s.addTcpHdr p :: s.queued) := by
  have h : { s.sendPacket p with sId := rest }.queued =
      s.queued.orderedInsert (fun a b => a.seqNum ≤ b.seqNum) (s.addTcpHdr p) :=
    TcpQueue.segments_addPacketToQueue _ _ _
  rw [h]
  exact List.perm_orderedInsert _ _ _

/-- The state in which `process_ack_in_establishedState` looks at the acknowledgment. -/
def afterAckReceived (s : Conn) (p : Segment) : Conn :=
  (s.mapTcb fun t => (t.receiveSackOption p.option).readTimestamp p).ackReceived

theorem effects_afterAckReceived (s : Conn) {p : Segment} (hp : p.syn = false) :
    Effects s (s.afterAckReceived p) := by
  have hread : Effects s (s.mapTcb fun t => (t.receiveSackOption p.option).readTimestamp p) := by
    apply effects_mapTcb
    rw [Tcb.core_readTimestamp _ hp, Tcb.core_receiveSackOption]
  exact hread.trans (effects_ackReceived _)

/-- `process_ack_in_establishedState` with `send_segment`, for a new, an old and an unsent
acknowledgment. -/
inductive AckProcessed (s₁ : Conn) : Conn → Prop
  | new {s' : Conn} (hlt : s₁.tcb.SND.UNA < s₁.tcb.SEG.ACK) (hle : s₁.tcb.SEG.ACK ≤ s₁.tcb.SND.NXT)
      (effects : Effects s₁.acknowledge s') : AckProcessed s₁ s'
  | old (hle : s₁.tcb.SEG.ACK ≤ s₁.tcb.SND.UNA) : AckProcessed s₁ s₁
  | early (hlt : s₁.tcb.SND.NXT < s₁.tcb.SEG.ACK) :
      AckProcessed s₁ (s₁.sendAck s₁.tcb.SEG.SEQ s₁.tcb.SEG.ACK)

theorem ackProcessed (s : Conn) (p : Segment) :
    AckProcessed (s.afterAckReceived p) (s.processAckAndSend p) := by
  unfold processAckAndSend processAckInEstablishedState afterAckReceived
  dsimp only
  generalize (s.mapTcb fun t => (t.receiveSackOption p.option).readTimestamp p).ackReceived = s1
  by_cases hnew : s1.tcb.SND.UNA < s1.tcb.SEG.ACK ∧ s1.tcb.SEG.ACK ≤ s1.tcb.SND.NXT
  · rw [if_pos hnew]
    apply AckProcessed.new hnew.1 hnew.2
    split
    · next heq =>
      split at heq
      · obtain rfl := congrArg Prod.snd heq
        refine Relation.ReflTransGen.trans ?_ (effects_sendSegment _)
        exact effects_adjust rfl
      · obtain rfl := congrArg Prod.snd heq
        exact effects_sendSegment _
    · next heq =>
      split at heq <;> cases heq
  · rw [if_neg hnew]
    split
    · next heq =>
      split at heq <;> cases heq
    · next heq =>
      split at heq
      · next hle =>
        obtain rfl := congrArg Prod.snd heq
        exact .old hle
      · next hle =>
        obtain rfl := congrArg Prod.snd heq
        exact .early (by omega)

end Conn

/-! ## Opening -/

theorem Tcb.setTimestampValue_eq (t : Tcb) (syn : Bool) (opt : Option Nat) :
    ∃ isTSopt tsVal, t.setTimestampValue syn opt =
      { t with isTSopt := isTSopt, tsVal := tsVal } := by
  unfold setTimestampValue
  by_cases hsyn : syn = true
  · simp only [if_pos hsyn]
    split
    · split <;> exact ⟨_, _, rfl⟩
    · exact ⟨_, _, rfl⟩
  · simp only [if_neg hsyn]
    split
    · split <;> exact ⟨_, _, rfl⟩
    · exact ⟨_, _, rfl⟩

theorem Tcb.readTimestamp_eq (t : Tcb) (p : Segment) :
    ∃ isTSopt tsVal, t.readTimestamp p = { t with isTSopt := isTSopt, tsVal := tsVal } := by
  unfold readTimestamp
  split
  · exact t.setTimestampValue_eq _ _
  · exact ⟨_, _, rfl⟩

theorem Tcb.congestionSetMSS_eq (t : Tcb) (dev : DevVar) (mss : Nat) :
    ∃ c, t.congestionSetMSS dev mss = { t with congestionData := c } := by
  unfold congestionSetMSS congestionSetIW setCwnd withCwnd
  dsimp only
  split <;> exact ⟨_, rfl⟩

def Tcb.readMss (t : Tcb) (dev : DevVar) (opt : Option UInt16) : Tcb :=
  match opt with
  | some mss => t.congestionSetMSS dev mss.toNat
  | none => t

theorem Tcb.readMss_eq (t : Tcb) (dev : DevVar) (opt : Option UInt16) :
    ∃ c, t.readMss dev opt = { t with congestionData := c } := by
  unfold readMss
  split
  · exact t.congestionSetMSS_eq dev _
  · exact ⟨t.congestionData, rfl⟩

def Conn.synAckTaken (s : Conn) (c : CongestionVar) (isTSopt : Bool) (tsVal : Nat) : Conn :=
  s.mapTcb fun t => { t with
    RCV.NXT := u32 (t.SEG.SEQ + 1), IRS := t.SEG.SEQ
    SND := ⟨t.SEG.ACK, t.SND.NXT, t.SEG.WND, t.SEG.SEQ, t.SEG.ACK⟩
    congestionData := c, isTSopt := isTSopt, tsVal := tsVal
    retransmissionQueue := t.retransmissionQueue.deleteSegmentFromQueue t.SEG.ACK }

theorem Tcb.setWindowScaling_eq (t : Tcb) (opt : Option UInt8) :
    ∃ isWindowScaling snd rcv, t.setWindowScaling opt = { t with
      isWindowScaling := isWindowScaling, sndWindShift := snd, rcvWindShift := rcv } := by
  unfold setWindowScaling
  split
  · exact ⟨_, _, _, rfl⟩
  · exact ⟨_, _, _, rfl⟩

/-- The variables that `rcv_SYN` sets from a SYN. -/
def Tcb.readSyn (t : Tcb) (dev : DevVar) (syn : Segment) : Tcb :=
  let t := { t with RCV.NXT := u32 (t.SEG.SEQ + 1), IRS := t.SEG.SEQ }
  let t := t.setWindowScaling (getWindowScaleOption syn.option)
  let t := t.readMss dev (getMssOption syn.option)
  let t := t.setTimestampValue syn.syn (getTimestampOption syn.option)
  { t with isSackPermitted := t.isSackPermitted && getSackPermittedOption syn.option }

theorem Tcb.readSyn_keeps (t : Tcb) (dev : DevVar) (syn : Segment) :
    (t.readSyn dev syn).ISS = t.ISS ∧
      (t.readSyn dev syn).retransmissionQueue = t.retransmissionQueue ∧
      (t.readSyn dev syn).tcpState = t.tcpState := by
  obtain ⟨isWindowScaling, snd, rcv, hscale⟩ := Tcb.setWindowScaling_eq { t with
    RCV.NXT := u32 (t.SEG.SEQ + 1), IRS := t.SEG.SEQ } (getWindowScaleOption syn.option)
  obtain ⟨c, hc⟩ := Tcb.readMss_eq { t with
    RCV.NXT := u32 (t.SEG.SEQ + 1), IRS := t.SEG.SEQ
    isWindowScaling := isWindowScaling, sndWindShift := snd, rcvWindShift := rcv } dev
    (getMssOption syn.option)
  obtain ⟨isTSopt, tsVal, htime⟩ := Tcb.setTimestampValue_eq { t with
    RCV.NXT := u32 (t.SEG.SEQ + 1), IRS := t.SEG.SEQ
    isWindowScaling := isWindowScaling, sndWindShift := snd, rcvWindShift := rcv
    congestionData := c } syn.syn (getTimestampOption syn.option)
  unfold readSyn
  dsimp only at hscale hc htime ⊢
  rw [hscale, hc, htime]
  exact ⟨rfl, rfl, rfl⟩

/-- What `rcv_SYN` does after it has read the SYN. -/
def Conn.answerSyn (s : Conn) : Conn :=
  let synAck := s.createSynAck
  let s := s.changeState .synReceived
  let s := s.mapTcb fun t => { t with SND := { t.SND with UNA := t.ISS, NXT := u32 (t.ISS + 1) } }
  let s := s.mapTcb fun t => { t with synRetries := t.synRetries + 1 }
  (s.sendToNetwork synAck).addTimeoutEvent synAck

theorem Conn.answerSyn_eq (s : Conn) :
    ∃ prev, s.answerSyn = { s with
      tcb := { s.tcb with
        tcpState := .synReceived, tcpPrevState := prev
        SND := { s.tcb.SND with UNA := s.tcb.ISS, NXT := u32 (s.tcb.ISS + 1) }
        synRetries := s.tcb.synRetries + 1
        retransmissionQueue :=
          s.tcb.retransmissionQueue.addPacketToQueue s.createSynAck s.dEventTime }
      network := s.network ++ [s.createSynAck]
      rtoTimeouts := s.rtoTimeouts ++ [s.createSynAck] } := by
  obtain ⟨prev, hstate⟩ := s.changeState_eq .synReceived
  refine ⟨prev, ?_⟩
  unfold answerSyn
  rw [hstate]
  simp [closingsOf, mapTcb, sendToNetwork, addTimeoutEvent]

def Tcb.readSynAck (t : Tcb) (dev : DevVar) (p : Segment) : Tcb :=
  let t := { t with RCV.NXT := u32 (t.SEG.SEQ + 1), IRS := t.SEG.SEQ, SND.UNA := t.SEG.ACK }
  let t := t.readMss dev (getMssOption p.option)
  let t := t.readTimestamp p
  { t with retransmissionQueue := t.retransmissionQueue.deleteSegmentFromQueue t.SEG.ACK }

theorem Tcb.readSynAck_eq (t : Tcb) (dev : DevVar) (p : Segment) :
    ∃ c isTSopt tsVal, t.readSynAck dev p = { t with
      RCV.NXT := u32 (t.SEG.SEQ + 1), IRS := t.SEG.SEQ, SND.UNA := t.SEG.ACK
      congestionData := c, isTSopt := isTSopt, tsVal := tsVal
      retransmissionQueue := t.retransmissionQueue.deleteSegmentFromQueue t.SEG.ACK } := by
  obtain ⟨c, hc⟩ := Tcb.readMss_eq { t with
    RCV.NXT := u32 (t.SEG.SEQ + 1), IRS := t.SEG.SEQ, SND.UNA := t.SEG.ACK } dev
    (getMssOption p.option)
  obtain ⟨isTSopt, tsVal, hread⟩ := Tcb.readTimestamp_eq { t with
    RCV.NXT := u32 (t.SEG.SEQ + 1), IRS := t.SEG.SEQ, SND.UNA := t.SEG.ACK
    congestionData := c } p
  refine ⟨c, isTSopt, tsVal, ?_⟩
  unfold readSynAck
  dsimp only at hc hread ⊢
  rw [hc, hread]

theorem Conn.synAckArrives_readSynAck (s : Conn) (p : Segment) :
    s.synAckArrives p =
      if (s.tcb.readSynAck s.dev p).ISS < (s.tcb.readSynAck s.dev p).SND.UNA then
        ((({ s with tcb := s.tcb.readSynAck s.dev p }.mapTcb Tcb.updateSendWindow).sendAck
          (s.tcb.readSynAck s.dev p).SND.NXT
          (s.tcb.readSynAck s.dev p).RCV.NXT).changeState .established).sendSegment
      else { s with tcb := s.tcb.readSynAck s.dev p } := rfl

theorem Conn.synAckArrives_eq (s : Conn) (p : Segment) (h : s.tcb.ISS < s.tcb.SEG.ACK) :
    ∃ c isTSopt tsVal, s.synAckArrives p =
      (((s.synAckTaken c isTSopt tsVal).sendAck s.tcb.SND.NXT
        (u32 (s.tcb.SEG.SEQ + 1))).changeState .established).sendSegment := by
  obtain ⟨c, isTSopt, tsVal, hread⟩ := s.tcb.readSynAck_eq s.dev p
  rw [s.synAckArrives_readSynAck, hread, if_pos (by exact h)]
  exact ⟨c, isTSopt, tsVal, rfl⟩

/-! ## Receiving -/

structure Segment.IsAnswer (a : Segment) : Prop where
  syn : a.syn = false
  type : a.controlDataType = some .ack ∨ a.controlDataType = some .rst

theorem isAnswer_createRst (p : Segment) (c : Nat) : (Conn.createRst p c).IsAnswer := by
  unfold Conn.createRst
  split
  · exact ⟨rfl, .inr rfl⟩
  · exact ⟨rfl, .inr rfl⟩

theorem isAnswer_createAck (c : Conn) (seqNo ackNo : Nat) : (c.createAck seqNo ackNo).IsAnswer :=
  ⟨rfl, .inl rfl⟩

def Conn.outgoing (s : Conn) : Conn :=
  { s with
    tcb := { s.tcb with
      RCV := ⟨0, 0⟩, outOfOrderSegment := .empty, tsVal := 0
      lastAckSendTime := 0, isAckSentLastTime := false }
    network := []
    application := [] }

theorem Conn.eq_of_outgoing {α : Type} {g : Conn → α} (hg : ∀ s, g s.outgoing = g s) {s s' : Conn}
    (h : s'.outgoing = s.outgoing) : g s' = g s := by
  rw [← hg s', h, hg s]

structure Receives (s s' : Conn) : Prop where
  outgoing : s'.outgoing = s.outgoing
  network : ∃ l, s'.network = s.network ++ l ∧ ∀ a ∈ l, a.IsAnswer

namespace Receives

variable {s s' s'' : Conn}

theorem of_eq (h : s'.outgoing = s.outgoing) (hn : s'.network = s.network) : Receives s s' :=
  ⟨h, [], by rw [hn, List.append_nil], by simp⟩

theorem refl : Receives s s := of_eq rfl rfl

theorem trans (h : Receives s s') (h' : Receives s' s'') : Receives s s'' := by
  obtain ⟨l, hl, ha⟩ := h.network
  obtain ⟨l', hl', ha'⟩ := h'.network
  refine ⟨h'.outgoing.trans h.outgoing, l ++ l', by rw [hl', hl, List.append_assoc], ?_⟩
  intro a hmem
  rcases List.mem_append.1 hmem with hmem | hmem
  · exact ha a hmem
  · exact ha' a hmem

theorem sendToNetwork (s : Conn) {a : Segment} (ha : a.IsAnswer) : Receives s (s.sendToNetwork a) :=
  ⟨rfl, [a], rfl, by simpa using ha⟩

theorem deliver (s : Conn) (p : Segment) : Receives s (s.deliver p) := by
  unfold Conn.deliver
  split
  · exact of_eq rfl rfl
  · exact refl

theorem drainQueue (rounds : Nat) (s : Conn) : Receives s (Conn.drainQueue rounds s) := by
  induction rounds generalizing s with
  | zero => exact refl
  | succ rounds ih =>
    unfold Conn.drainQueue
    split
    · exact refl
    · next pr q _ =>
      have hpop : Receives s (s.mapTcb fun t => { t with outOfOrderSegment := q }) := of_eq rfl rfl
      exact (hpop.trans (deliver _ _)).trans (ih _)

theorem sendAckOrNot (s : Conn) : Receives s s.sendAckOrNot.2 := by
  unfold Conn.sendAckOrNot
  dsimp only
  split
  · exact refl
  · split
    · exact of_eq rfl rfl
    · split <;> exact of_eq rfl rfl

theorem checkSegment (s : Conn) (p : Segment) :
    Receives s { s with tcb := (s.tcb.checkSegment s.dEventTime p).2 } := by
  unfold Tcb.checkSegment
  split
  · exact of_eq rfl rfl
  · split
    · exact refl
    · split
      · exact refl
      · exact of_eq rfl rfl

theorem readTimestamp (s : Conn) {p : Segment} (hp : p.syn = false) :
    Receives s (s.mapTcb (·.readTimestamp p)) := by
  refine of_eq ?_ rfl
  unfold Conn.mapTcb Tcb.readTimestamp Tcb.setTimestampValue
  simp only [hp, Bool.false_eq_true, if_false]
  split
  · split <;> rfl
  · rfl

theorem processSegmentText (s : Conn) {p : Segment} (hp : p.syn = false) :
    Receives s (s.processSegmentText p).2 := by
  have hread := readTimestamp s hp
  unfold Conn.processSegmentText
  dsimp only
  generalize s.mapTcb (·.readTimestamp p) = s1 at hread ⊢
  split
  · have hcheck := hread.trans (checkSegment s1 p)
    generalize (s1.tcb.checkSegment s1.dEventTime p) = result at hcheck ⊢
    obtain ⟨isinorder, t⟩ := result
    have hack : Receives s (if isinorder then { s1 with tcb := t }.sendAckOrNot
        else (true, { s1 with tcb := t })).2 := by
      split
      · exact hcheck.trans (sendAckOrNot _)
      · exact hcheck
    generalize (if isinorder then { s1 with tcb := t }.sendAckOrNot
      else (true, { s1 with tcb := t })) = result at hack ⊢
    obtain ⟨isAck, s2⟩ := result
    have hsend : Receives s (if isAck && !p.fin then s2.sendAck s2.tcb.SND.NXT s2.tcb.RCV.NXT
        else s2) := by
      split
      · exact hack.trans (sendToNetwork _ (isAnswer_createAck _ _ _))
      · exact hack
    split
    · exact (hsend.trans (deliver _ _)).trans (drainQueue _ _)
    · exact hsend
  · exact hread

/-- `Conn.processText` takes the text and may handle the FIN. -/
theorem processText (s : Conn) {p : Segment} (hp : p.syn = false) :
    ∃ b t, Receives s t ∧ s.processText p = if b && p.fin then t.processFinPacket else t :=
  ⟨_, _, processSegmentText s hp, rfl⟩

end Receives

end NetSim.Tcp
