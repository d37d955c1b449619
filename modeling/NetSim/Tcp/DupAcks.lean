import NetSim.Tcp.AckRun
import NetSim.Tcp.WindowArithmetic

/-!
# Counting duplicate acknowledgments (`Congestion.c`, `CUBIC.c`)

Fast retransmit is due at the third duplicate since `SND.UNA` advanced. Tahoe sets `dupAckCount`
back at every other acknowledgment; the others only when that finds them in fast recovery.
-/

namespace NetSim.Tcp

namespace Tcb

def recovery (t : Tcb) : Nat × Bool × Nat × List SackData × SndVar × SegVar :=
  (t.congestionData.dupAckCount, t.congestionData.isFastRecovery, t.congestionData.recover,
    t.scoreboard, t.SND, t.SEG)

def kept (t : Tcb) : Nat × Nat × Bool × Nat × List SackData × SndVar × SegVar :=
  (t.congestionData.ssthresh, t.recovery)

def retransmitThreshold (t : Tcb) : Nat :=
  match t.variant with
  | .bic => u16 t.bictcpRecalcSsthresh.1
  | .cubic => u32 (t.cubictcpRecalcSsthresh.1 * t.getMSS)
  | _ => t.lossThreshold

def withCounters (t : Tcb) (dupAckCount recover : Nat) : Tcb :=
  t.mapCongestion fun c => { c with dupAckCount := dupAckCount, recover := recover }

theorem retransmitThreshold_withCounters (t : Tcb) (dupAckCount recover : Nat) :
    (t.withCounters dupAckCount recover).retransmitThreshold = t.retransmitThreshold := by
  have hvariant : (t.withCounters dupAckCount recover).variant = t.variant := rfl
  have hbic : (t.withCounters dupAckCount recover).bictcpRecalcSsthresh.1 =
      t.bictcpRecalcSsthresh.1 := by
    unfold bictcpRecalcSsthresh
    rw [apply_ite Prod.fst, apply_ite Prod.fst]
    rfl
  unfold retransmitThreshold
  rw [hvariant]
  cases t.variant with
  | bic => exact congrArg u16 hbic
  | cubic => rfl
  | _ => rfl

def guarded (t : Tcb) : Bool :=
  t.variant = .newReno && !(t.congestionData.recover < sub32 t.SEG.ACK 1)

def resetsDupAcks (t : Tcb) : Bool :=
  match t.variant with
  | .oldTahoe => false
  | .tahoe => true
  | _ => t.congestionData.isFastRecovery

/-! ## Growing the window -/

theorem kept_increaseCwnd (t : Tcb) (n : Nat) : (t.increaseCwnd n).kept = t.kept := by
  obtain ⟨cwnd, hcwnd⟩ := t.increaseCwnd_frame n
  rw [hcwnd]
  rfl

theorem kept_cubicIncreaseCwnd (t : Tcb) (n : Nat) : (t.cubicIncreaseCwnd n).kept = t.kept := by
  obtain ⟨cwnd, hcwnd⟩ := t.cubicIncreaseCwnd_frame n
  rw [hcwnd]
  rfl

theorem kept_growCwnd (t : Tcb) (now : Nat) : (t.growCwnd now).kept = t.kept := by
  unfold growCwnd
  split
  · exact kept_increaseCwnd t _
  · unfold congestionAvoidance
    dsimp only
    split
    · rw [kept_increaseCwnd]
      rfl
    · rfl

theorem kept_bictcpUpdate (t : Tcb) (now : Nat) : (t.bictcpUpdate now).kept = t.kept := by
  unfold bictcpUpdate
  dsimp only [mapCongestion]
  split
  · rfl
  · rfl

theorem kept_bictcpCongAvoid (t : Tcb) (now segmentAcked : Nat) :
    (t.bictcpCongAvoid now segmentAcked).kept = t.kept := by
  unfold bictcpCongAvoid
  have hpair : (if t.inSlowStart then (t.slowStart, sub32 segmentAcked 1)
      else (t, segmentAcked)).1.kept = t.kept := by
    split
    · exact kept_increaseCwnd t _
    · rfl
  generalize (if t.inSlowStart then (t.slowStart, sub32 segmentAcked 1)
    else (t, segmentAcked)) = pair at hpair ⊢
  obtain ⟨t', acked⟩ := pair
  rw [← hpair]
  dsimp only
  split
  · have hupdate : ((t'.mapCongestion fun c => { c with bic := { c.bic with
        cwndcnt := u32 (c.bic.cwndcnt + acked) } }).bictcpUpdate now).kept = t'.kept :=
      kept_bictcpUpdate _ now
    split
    · exact (kept_increaseCwnd _ _).trans hupdate
    · exact hupdate
  · rfl

theorem kept_mapCubic (t : Tcb) (f : Cubic → Cubic) : (t.mapCubic f).kept = t.kept := rfl

theorem kept_cubicUpdated (t : Tcb) (now acked : Nat) :
    (t.cubicUpdated now acked).kept = t.kept := rfl

theorem kept_cubictcpCongAvoid (t : Tcb) (now segmentAcked : Nat) :
    (t.cubictcpCongAvoid now segmentAcked).kept = t.kept := by
  have hpair : (t.cubicSlowStarted now segmentAcked).1.kept = t.kept := by
    unfold cubicSlowStarted
    split
    · refine (kept_cubicIncreaseCwnd _ _).trans ?_
      split
      · rfl
      · rfl
    · rfl
  rw [Wide.cubictcpCongAvoid_eq, ← hpair]
  dsimp only
  split
  · split
    · rw [kept_mapCubic, kept_cubicIncreaseCwnd, kept_cubicUpdated]
    · exact kept_cubicUpdated _ _ _
  · rfl

theorem recovery_of_kept {t t' : Tcb} (h : t'.kept = t.kept) : t'.recovery = t.recovery :=
  congrArg Prod.snd h

theorem recovery_cubictcpAcked (t : Tcb) (now : Nat) :
    (t.cubictcpAcked now).recovery = t.recovery := by
  have htrain (t : Tcb) (clock : Nat) : (t.hystartAckTrain clock).recovery = t.recovery := by
    unfold hystartAckTrain
    dsimp only
    split
    · split
      · split
        · rw [cubicSetCwnd_eq]
          rfl
        · rfl
      · rfl
    · rfl
  have hdelay (t : Tcb) (delay : Nat) : (t.hystartDelay delay).recovery = t.recovery := by
    unfold hystartDelay
    dsimp only
    split
    · rfl
    · split
      · rfl
      · rfl
  unfold cubictcpAcked
  split
  · unfold hystartUpdate
    split
    · rfl
    · rw [hdelay, htrain]
  · rfl

theorem bictcpRecalcSsthresh_frame (t : Tcb) :
    ∃ bic, t.bictcpRecalcSsthresh.2 =
      { t with congestionData := { t.congestionData with bic := bic } } := by
  refine ⟨{ t.congestionData.bic with
    epochStart := 0
    lastMaxCwnd :=
      if t.segCwnd < t.congestionData.bic.lastMaxCwnd && t.congestionData.bic.fastConvergence then
        floorU32 (t.segCwnd * t.congestionData.bic.beta)
      else t.segCwnd
    lossCwnd := t.segCwnd }, ?_⟩
  unfold bictcpRecalcSsthresh
  dsimp only
  split
  · rfl
  · rfl

theorem cubictcpRecalcSsthresh_frame (t : Tcb) :
    ∃ cubic, t.cubictcpRecalcSsthresh.2 =
      { t with congestionData := { t.congestionData with cubic := cubic } } :=
  ⟨_, rfl⟩

theorem cubicSetCwnd_frame (t : Tcb) (n : Nat) : ∃ cwnd, t.cubicSetCwnd n = t.withCwnd cwnd :=
  ⟨_, t.cubicSetCwnd_eq n⟩

end Tcb

/-! ## Fast retransmit -/

namespace Conn

variable {s s' : Conn}

/-- The entry action: the threshold is set, and the segment that the acknowledgment asks for is sent
again. -/
structure EntersRecovery (s s' : Conn) : Prop where
  ssthresh : s'.tcb.congestionData.ssthresh =
    (s.tcb.setSsthres s.tcb.retransmitThreshold).congestionData.ssthresh
  resent : s'.network = (s.resendSegmentWithoutTimeout s.tcb.SEG.ACK).network

structure StaysOut (s s' : Conn) : Prop where
  ssthresh : s'.tcb.congestionData.ssthresh = s.tcb.congestionData.ssthresh
  network : s'.network = s.network

/-- The variables of the congestion control are `c`. -/
def withCongestion (s : Conn) (c : CongestionVar) : Conn :=
  { s with tcb := { s.tcb with congestionData := c } }

theorem network_resend_withCongestion (s : Conn) (c : CongestionVar) (seq : Nat) :
    ((s.withCongestion c).resendSegmentWithoutTimeout seq).network =
      (s.resendSegmentWithoutTimeout seq).network := by
  have hqueue : (s.withCongestion c).tcb.retransmissionQueue = s.tcb.retransmissionQueue := rfl
  have hsack : (s.withCongestion c).tcb.isSackPermitted = s.tcb.isSackPermitted := rfl
  unfold resendSegmentWithoutTimeout
  rw [hqueue, hsack]
  split
  · rfl
  · split
    · rfl
    · rfl

theorem resend_frame (s : Conn) (seq : Nat) :
    (s.resendSegmentWithoutTimeout seq).tcb.congestionData = s.tcb.congestionData ∧
      (s.resendSegmentWithoutTimeout seq).tcb.isSackOption = s.tcb.isSackOption := by
  unfold resendSegmentWithoutTimeout
  split
  · exact ⟨rfl, rfl⟩
  · split
    · exact ⟨rfl, rfl⟩
    · exact ⟨rfl, rfl⟩

theorem enterRecovery_of_sackOff (c : CongestionVar) (hsack : s.tcb.isSackOption = false)
    (isFastRecovery : Bool) :
    ((s.withCongestion c).enterRecovery isFastRecovery).network =
        (s.resendSegmentWithoutTimeout s.tcb.SEG.ACK).network ∧
      ((s.withCongestion c).enterRecovery isFastRecovery).tcb.congestionData =
        { c with isFastRecovery := isFastRecovery } := by
  obtain ⟨hcong, hoption⟩ := resend_frame (s.withCongestion c) s.tcb.SEG.ACK
  have hnetwork := network_resend_withCongestion s c s.tcb.SEG.ACK
  have hoff : ((s.withCongestion c).resendSegmentWithoutTimeout s.tcb.SEG.ACK).tcb.isSackOption =
      false := hoption.trans hsack
  have hshape : (s.withCongestion c).enterRecovery isFastRecovery =
      ((s.withCongestion c).resendSegmentWithoutTimeout s.tcb.SEG.ACK).mapTcb
        (·.mapCongestion fun c => { c with isFastRecovery := isFastRecovery }) :=
    if_neg fun hon => absurd (hoff.symm.trans hon) (by decide)
  rw [hshape]
  refine ⟨hnetwork, ?_⟩
  change { ((s.withCongestion c).resendSegmentWithoutTimeout s.tcb.SEG.ACK).tcb.congestionData with
    isFastRecovery := isFastRecovery } = _
  rw [hcong]
  rfl

theorem stayInRecovery_of_sackOff (hsack : s.tcb.isSackOption = false) : s.stayInRecovery = s := by
  unfold stayInRecovery
  rw [hsack]
  rfl

/-- The call of the fast retransmit function in the `ack_received` of the variant. -/
def retransmitCall (s : Conn) : Conn :=
  match s.tcb.variant with
  | .newReno =>
    (s.mapTcb fun t => t.mapCongestion fun c => { c with recover := t.SND.NXT }).fastRetransmit
  | .bic => s.bictcpFastretransmit
  | .cubic => s.cubictcpFastretransmit
  | _ => s.fastRetransmit

structure Retransmits (F : Conn → Conn) (threshold : Tcb → Nat) : Prop where
  atThreshold : ∀ s : Conn, s.tcb.isSackOption = false →
    s.tcb.congestionData.dupAckCount = tcpDupThresh →
      ((F s).tcb.congestionData.ssthresh =
          (s.tcb.setSsthres (threshold s.tcb)).congestionData.ssthresh ∧
        (F s).network = (s.resendSegmentWithoutTimeout s.tcb.SEG.ACK).network) ∧
        (F s).tcb.congestionData.dupAckCount = s.tcb.congestionData.dupAckCount
  elsewhere : ∀ s : Conn, s.tcb.isSackOption = false →
    s.tcb.congestionData.dupAckCount ≠ tcpDupThresh →
      StaysOut s (F s) ∧
        (F s).tcb.congestionData.dupAckCount = s.tcb.congestionData.dupAckCount

theorem atThreshold_of_shape {c : CongestionVar} {n cwnd : Nat} {isFastRecovery : Bool}
    (hsack : s.tcb.isSackOption = false) (hcount : c.dupAckCount = s.tcb.congestionData.dupAckCount)
    (hshape : s' = Conn.enterRecovery { s with
      tcb := (Tcb.setSsthres { s.tcb with congestionData := c } n).withCwnd cwnd }
        isFastRecovery) :
    (s'.tcb.congestionData.ssthresh = (s.tcb.setSsthres n).congestionData.ssthresh ∧
        s'.network = (s.resendSegmentWithoutTimeout s.tcb.SEG.ACK).network) ∧
      s'.tcb.congestionData.dupAckCount = s.tcb.congestionData.dupAckCount := by
  obtain ⟨hnetwork, hcong⟩ := enterRecovery_of_sackOff
    ((Tcb.setSsthres { s.tcb with congestionData := c } n).withCwnd cwnd).congestionData hsack
      isFastRecovery
  have hwith : s' = (s.withCongestion ((Tcb.setSsthres { s.tcb with congestionData := c }
      n).withCwnd cwnd).congestionData).enterRecovery isFastRecovery := hshape
  rw [hwith, hcong]
  exact ⟨⟨rfl, hnetwork⟩, hcount⟩

theorem elsewhere_of_shape {f : Tcb → Tcb} {cwnd : Nat} (hsack : s.tcb.isSackOption = false)
    (hf : f s.tcb = s.tcb.withCwnd cwnd) (hshape : s' = (s.mapTcb f).stayInRecovery) :
    StaysOut s s' ∧ s'.tcb.congestionData.dupAckCount = s.tcb.congestionData.dupAckCount := by
  have hmap : s.mapTcb f = { s with tcb := s.tcb.withCwnd cwnd } := by rw [mapTcb, hf]
  have hoff : (s.mapTcb f).tcb.isSackOption = false := by rw [hmap]; exact hsack
  rw [hshape, stayInRecovery_of_sackOff hoff, hmap]
  exact ⟨⟨rfl, rfl⟩, rfl⟩

theorem retransmits_fastRetransmit : Retransmits fastRetransmit Tcb.lossThreshold := by
  constructor
  · intro s hsack hcount
    let t := s.tcb.setSsthres s.tcb.lossThreshold
    obtain ⟨cwnd, hcwnd⟩ := t.setCwnd_frame (u32 (t.getSsthres + tcpDupThresh * t.getMSS))
    have hshape : ∃ isFastRecovery, s.fastRetransmit =
        Conn.enterRecovery { s with
          tcb := t.setCwnd (u32 (t.getSsthres + tcpDupThresh * t.getMSS)) } isFastRecovery :=
      ⟨_, if_pos hcount⟩
    obtain ⟨isFastRecovery, hshape⟩ := hshape
    rw [hcwnd] at hshape
    exact atThreshold_of_shape (c := s.tcb.congestionData) hsack rfl hshape
  · intro s hsack hcount
    obtain ⟨cwnd, hcwnd⟩ := s.tcb.increaseCwnd_frame s.tcb.congestionData.SMSS
    exact elsewhere_of_shape (f := fun t => t.increaseCwnd t.congestionData.SMSS) hsack hcwnd
      (if_neg hcount)

theorem retransmits_bictcpFastretransmit :
    Retransmits bictcpFastretransmit fun t => u16 t.bictcpRecalcSsthresh.1 := by
  constructor
  · intro s hsack hcount
    let t := s.tcb.bictcpRecalcSsthresh.2.setSsthres (u16 s.tcb.bictcpRecalcSsthresh.1)
    obtain ⟨cwnd, hcwnd⟩ := t.setCwnd_frame (u32 (t.getSsthres + tcpDupThresh * t.getMSS))
    have hshape : ∃ isFastRecovery, s.bictcpFastretransmit =
        Conn.enterRecovery { s with
          tcb := t.setCwnd (u32 (t.getSsthres + tcpDupThresh * t.getMSS)) } isFastRecovery :=
      ⟨_, if_pos hcount⟩
    obtain ⟨isFastRecovery, hshape⟩ := hshape
    obtain ⟨bic, hbic⟩ := s.tcb.bictcpRecalcSsthresh_frame
    have ht : t = Tcb.setSsthres { s.tcb with
        congestionData := { s.tcb.congestionData with bic := bic } }
          (u16 s.tcb.bictcpRecalcSsthresh.1) := congrArg (Tcb.setSsthres · _) hbic
    rw [hcwnd, ht] at hshape
    exact atThreshold_of_shape (c := { s.tcb.congestionData with bic := bic }) hsack rfl hshape
  · intro s hsack hcount
    obtain ⟨cwnd, hcwnd⟩ := s.tcb.increaseCwnd_frame s.tcb.congestionData.SMSS
    exact elsewhere_of_shape (f := fun t => t.increaseCwnd t.congestionData.SMSS) hsack hcwnd
      (if_neg hcount)

theorem retransmits_cubictcpFastretransmit :
    Retransmits cubictcpFastretransmit fun t =>
      u32 (t.cubictcpRecalcSsthresh.1 * t.getMSS) := by
  constructor
  · intro s hsack hcount
    obtain ⟨cubic, hcubic⟩ := s.tcb.cubictcpRecalcSsthresh_frame
    let t := s.tcb.cubictcpRecalcSsthresh.2.setSsthres
      (u32 (s.tcb.cubictcpRecalcSsthresh.1 * s.tcb.cubictcpRecalcSsthresh.2.getMSS))
    obtain ⟨cwnd, hcwnd⟩ := t.cubicSetCwnd_frame (u32 (t.getSsthres + tcpDupThresh * t.getMSS))
    have hshape : s.cubictcpFastretransmit =
        Conn.enterRecovery { s with
          tcb := t.cubicSetCwnd (u32 (t.getSsthres + tcpDupThresh * t.getMSS)) } true :=
      if_pos hcount
    have hmss : s.tcb.cubictcpRecalcSsthresh.2.getMSS = s.tcb.getMSS := by
      rfl
    have ht : t = Tcb.setSsthres { s.tcb with
        congestionData := { s.tcb.congestionData with cubic := cubic } }
          (u32 (s.tcb.cubictcpRecalcSsthresh.1 * s.tcb.getMSS)) := by
      rw [← hcubic, ← hmss]
    rw [hcwnd, ht] at hshape
    exact atThreshold_of_shape (c := { s.tcb.congestionData with cubic := cubic }) hsack rfl hshape
  · intro s hsack hcount
    obtain ⟨cwnd, hcwnd⟩ := s.tcb.cubicIncreaseCwnd_frame s.tcb.congestionData.SMSS
    exact elsewhere_of_shape (f := fun t => t.cubicIncreaseCwnd t.congestionData.SMSS) hsack hcwnd
      (if_neg hcount)

theorem retransmits_retransmitCall : Retransmits retransmitCall Tcb.retransmitThreshold := by
  constructor
  · intro s hsack hcount
    unfold retransmitCall Tcb.retransmitThreshold
    cases s.tcb.variant with
    | oldTahoe => exact retransmits_fastRetransmit.atThreshold s hsack hcount
    | tahoe => exact retransmits_fastRetransmit.atThreshold s hsack hcount
    | reno => exact retransmits_fastRetransmit.atThreshold s hsack hcount
    | newReno =>
      obtain ⟨⟨hssthresh, hnetwork⟩, hkept⟩ := retransmits_fastRetransmit.atThreshold
        (s.mapTcb fun t => t.mapCongestion fun c => { c with recover := t.SND.NXT }) hsack hcount
      exact ⟨⟨hssthresh, hnetwork.trans (network_resend_withCongestion s _ _)⟩, hkept⟩
    | bic => exact retransmits_bictcpFastretransmit.atThreshold s hsack hcount
    | cubic => exact retransmits_cubictcpFastretransmit.atThreshold s hsack hcount
  · intro s hsack hcount
    unfold retransmitCall
    cases s.tcb.variant with
    | oldTahoe => exact retransmits_fastRetransmit.elsewhere s hsack hcount
    | tahoe => exact retransmits_fastRetransmit.elsewhere s hsack hcount
    | reno => exact retransmits_fastRetransmit.elsewhere s hsack hcount
    | newReno =>
      obtain ⟨hout, hkept⟩ := retransmits_fastRetransmit.elsewhere
        (s.mapTcb fun t => t.mapCongestion fun c => { c with recover := t.SND.NXT }) hsack hcount
      exact ⟨⟨hout.ssthresh, hout.network⟩, hkept⟩
    | bic => exact retransmits_bictcpFastretransmit.elsewhere s hsack hcount
    | cubic => exact retransmits_cubictcpFastretransmit.elsewhere s hsack hcount

theorem ackReceived_of_dup (hvariant : s.tcb.variant ≠ .oldTahoe)
    (hsack : s.tcb.isSackOption = false) (hdup : s.tcb.isDupAck = true) :
    s.ackReceived =
      if s.countDupAck.tcb.congestionData.dupAckCount < tcpDupThresh ∨ s.tcb.guarded = true then
        s.countDupAck
      else s.countDupAck.retransmitCall := by
  have hloss : s.countDupAck.sackReportsLoss = false := by
    change (s.tcb.isSackOption && _) = false
    rw [hsack, Bool.false_and]
  have hv : s.countDupAck.tcb.variant = s.tcb.variant := rfl
  unfold ackReceived retransmitCall Tcb.guarded
  rw [hv]
  cases hvar : s.tcb.variant with
  | oldTahoe => exact absurd hvar hvariant
  | tahoe =>
    unfold tahoeAckReceived
    simp [hdup, hloss]
  | reno =>
    unfold renoAckReceived
    simp [hdup, hloss]
  | newReno =>
    have hrecover : s.countDupAck.tcb.congestionData.recover = s.tcb.congestionData.recover := rfl
    have hseg : s.countDupAck.tcb.SEG = s.tcb.SEG := rfl
    unfold newrenoAckReceived
    rw [if_pos hdup]
    simp only [hloss, hrecover, hseg]
    by_cases hcount : s.countDupAck.tcb.congestionData.dupAckCount < tcpDupThresh
    · simp [hcount]
    · by_cases hopen : s.tcb.congestionData.recover < sub32 s.tcb.SEG.ACK 1
      · simp [hcount, hopen]
      · simp [hcount, hopen]
  | bic =>
    unfold bicAckReceived
    simp [hdup, hloss]
  | cubic =>
    unfold cubicAckReceived
    simp [hdup, hloss]

theorem newRenoFastRecovery_frame (s : Conn) :
    s.newRenoFastRecovery.tcb.congestionData.dupAckCount = 0 ∧
      s.newRenoFastRecovery.tcb.congestionData.ssthresh = s.tcb.congestionData.ssthresh := by
  let t := s.tcb.mapCongestion fun c => { c with dupAckCount := 0 }
  have hshape : s.newRenoFastRecovery =
      if s.tcb.congestionData.recover ≤ s.tcb.SEG.ACK then
        { s with
          tcb := (t.setCwnd (min (u16 t.getSsthres)
            (max t.flightSize t.getMSS + t.getMSS))).mapCongestion
              fun c => { c with isFastRecovery := false } }
      else
        Conn.resendSegmentWithoutTimeout
          { s with tcb := t.increaseCwnd (u16 (sub32 t.SEG.ACK t.congestionData.recover)) }
          t.SEG.ACK := rfl
  rw [hshape]
  split
  · obtain ⟨cwnd, hcwnd⟩ := t.setCwnd_frame (min (u16 t.getSsthres)
      (max t.flightSize t.getMSS + t.getMSS))
    rw [hcwnd]
    exact ⟨rfl, rfl⟩
  · obtain ⟨cwnd, hcwnd⟩ := t.increaseCwnd_frame (u16 (sub32 t.SEG.ACK t.congestionData.recover))
    rw [(resend_frame _ _).1, hcwnd]
    exact ⟨rfl, rfl⟩

theorem fastRecovery_frame (s : Conn) :
    ∃ cwnd, s.fastRecovery = { s with
      tcb := (s.tcb.mapCongestion fun c =>
        { c with isFastRecovery := false, dupAckCount := 0 }).withCwnd cwnd } := by
  let t := s.tcb.mapCongestion fun c => { c with isFastRecovery := false, dupAckCount := 0 }
  obtain ⟨cwnd, hcwnd⟩ := t.setCwnd_frame t.getSsthres
  have hshape : s.fastRecovery = { s with tcb := t.setCwnd t.getSsthres } := rfl
  exact ⟨cwnd, by rw [hshape, hcwnd]⟩

theorem cubicFastRecovery_frame (s : Conn) :
    ∃ cwnd, s.cubicFastRecovery = { s with
      tcb := (s.tcb.mapCongestion fun c =>
        { c with isFastRecovery := false, dupAckCount := 0 }).withCwnd cwnd } := by
  let t := s.tcb.mapCongestion fun c => { c with isFastRecovery := false, dupAckCount := 0 }
  obtain ⟨cwnd, hcwnd⟩ := t.cubicSetCwnd_frame t.getSsthres
  have hshape : s.cubicFastRecovery = { s with tcb := t.cubicSetCwnd t.getSsthres } := rfl
  exact ⟨cwnd, by rw [hshape, hcwnd]⟩

theorem dupAckCount_of_recovery {f : Tcb → Tcb} (hf : (f s.tcb).recovery = s.tcb.recovery) :
    (s.mapTcb f).tcb.congestionData.dupAckCount = s.tcb.congestionData.dupAckCount :=
  congrArg Prod.fst hf

theorem ackReceived_of_not_dup (hvariant : s.tcb.variant ≠ .oldTahoe)
    (hdup : s.tcb.isDupAck = false) :
    s.ackReceived.tcb.congestionData.dupAckCount =
        (if s.tcb.resetsDupAcks then 0 else s.tcb.congestionData.dupAckCount) ∧
      (s.ackReceived.network = s.network ∨
        s.ackReceived.tcb.congestionData.ssthresh = s.tcb.congestionData.ssthresh) := by
  have hnot : ¬s.tcb.isDupAck = true := by
    rw [hdup]
    decide
  have hgrow := dupAckCount_of_recovery (Tcb.recovery_of_kept (s.tcb.kept_growCwnd s.dEventTime))
  unfold ackReceived Tcb.resetsDupAcks
  cases hvar : s.tcb.variant with
  | oldTahoe => exact absurd hvar hvariant
  | tahoe =>
    unfold tahoeAckReceived
    dsimp only
    rw [if_neg hnot, if_pos rfl]
    split
    · obtain ⟨cwnd, hcwnd⟩ :=
        (s.tcb.mapCongestion fun c => { c with dupAckCount := 0 }).setCwnd_frame
          s.tcb.congestionData.LW
      refine ⟨?_, .inl rfl⟩
      rw [mapTcb, hcwnd]
      rfl
    · next hzero => exact ⟨hgrow.trans (not_not.1 hzero), .inl rfl⟩
  | reno =>
    unfold renoAckReceived
    dsimp only
    rw [if_neg hnot]
    split
    · obtain ⟨cwnd, hframe⟩ := s.fastRecovery_frame
      rw [hframe]
      exact ⟨rfl, .inl rfl⟩
    · exact ⟨hgrow, .inl rfl⟩
  | newReno =>
    unfold newrenoAckReceived
    dsimp only
    rw [if_neg hnot]
    split
    · exact ⟨(newRenoFastRecovery_frame s).1, .inr (newRenoFastRecovery_frame s).2⟩
    · exact ⟨hgrow, .inl rfl⟩
  | bic =>
    unfold bicAckReceived
    dsimp only
    rw [if_neg hnot]
    split
    · obtain ⟨cwnd, hframe⟩ := s.fastRecovery_frame
      rw [hframe]
      exact ⟨rfl, .inl rfl⟩
    · have hkept := Tcb.recovery_of_kept
        (s.tcb.kept_bictcpCongAvoid s.dEventTime (sub32 s.tcb.SEG.ACK s.tcb.SND.UNA / s.tcb.getMSS))
      exact ⟨dupAckCount_of_recovery hkept, .inl rfl⟩
  | cubic =>
    unfold cubicAckReceived
    dsimp only
    rw [if_neg hnot]
    split
    · obtain ⟨cwnd, hframe⟩ := s.cubicFastRecovery_frame
      rw [hframe]
      exact ⟨rfl, .inl rfl⟩
    · have hkept := Tcb.recovery_of_kept ((s.tcb.cubictcpAcked s.dEventTime).kept_cubictcpCongAvoid
        s.dEventTime (sub32 s.tcb.SEG.ACK s.tcb.SND.UNA / s.tcb.getMSS))
      exact ⟨dupAckCount_of_recovery (hkept.trans (s.tcb.recovery_cubictcpAcked _)), .inl rfl⟩

end Conn

end NetSim.Tcp
