import NetSim.Tcp.CubicKept

/-!
# The window after a duplicate acknowledgment (`Congestion.c`, `CUBIC.c`, `SACK.c`)

A duplicate acknowledgment leaves the window alone, inflates it by a segment, or sets it as fast
retransmit does. The recovery of SACK does not touch it.
-/

namespace NetSim.Tcp

namespace Conn

variable {s s' : Conn}

/-! ## The recovery of SACK -/

theorem congestionData_sackNextSeg (s : Conn) :
    s.sackNextSeg.2.tcb.congestionData = s.tcb.congestionData := by
  unfold sackNextSeg
  dsimp only
  split
  · rfl
  · split
    · rfl
    · rfl

theorem congestionData_sendSegment (s : Conn) :
    s.sendSegment.tcb.congestionData = s.tcb.congestionData :=
  congrArg Prod.fst (controls_sendSegment s)

theorem congestionData_lossRecoveryLoop (wnd mss rounds pipe : Nat) (s : Conn) :
    (lossRecoveryLoop wnd mss rounds pipe s).tcb.congestionData = s.tcb.congestionData := by
  induction rounds generalizing pipe s with
  | zero => rfl
  | succ rounds ih =>
    rw [lossRecoveryLoop]
    split
    · rfl
    · have hnext := congestionData_sackNextSeg s
      generalize s.sackNextSeg = r at hnext
      obtain ⟨next, s1⟩ := r
      cases next with
      | none => exact hnext
      | some nextSeg =>
        dsimp only
        split
        · refine (ih _ _).trans ?_
          exact (resend_frame s1 nextSeg).1.trans hnext
        · refine (ih _ _).trans ?_
          exact (congestionData_sendSegment s1).trans hnext

theorem congestionData_sackLossRecoveryPhase (s : Conn) :
    s.sackLossRecoveryPhase.2.tcb.congestionData = s.tcb.congestionData := by
  unfold sackLossRecoveryPhase
  split
  · rfl
  · exact congestionData_lossRecoveryLoop _ _ _ _ _

def windowAndCount (s : Conn) : Nat × Nat :=
  (s.tcb.congestionData.cwnd, s.tcb.congestionData.dupAckCount)

theorem windowAndCount_stayInRecovery (s : Conn) :
    s.stayInRecovery.windowAndCount = s.windowAndCount := by
  unfold stayInRecovery
  split
  · have hphase := congestionData_sackLossRecoveryPhase s
    generalize s.sackLossRecoveryPhase = r at hphase
    obtain ⟨goesOn, s1⟩ := r
    have hsame : s1.windowAndCount = s.windowAndCount := by
      rw [windowAndCount, hphase, windowAndCount]
    exact hsame
  · rfl

theorem windowAndCount_enterRecovery (s : Conn) (isFastRecovery : Bool) :
    (s.enterRecovery isFastRecovery).windowAndCount = s.windowAndCount := by
  have hresend : (s.resendSegmentWithoutTimeout s.tcb.SEG.ACK).windowAndCount =
      s.windowAndCount := by
    rw [windowAndCount, (resend_frame s s.tcb.SEG.ACK).1, windowAndCount]
  rw [← hresend]
  unfold enterRecovery
  dsimp only
  split
  · unfold sackFastRetransmit
    split
    · rfl
    · rfl
  · rfl

end Conn

/-! ## The window -/

namespace Tcb

def entryWindow (t : Tcb) : Nat :=
  u32 ((t.setSsthres t.retransmitThreshold).getSsthres + tcpDupThresh * t.congestionData.SMSS)

/-- What fast retransmit sets `cwnd` to. -/
def entryCwnd (t : Tcb) : Nat :=
  match t.variant with
  | .cubic => u16 (t.entryWindow >>> t.windShift)
  | _ => (t.setCwnd t.entryWindow).congestionData.cwnd

/-- What a further duplicate acknowledgment makes of `cwnd`. -/
def inflatedCwnd (t : Tcb) : Nat :=
  match t.variant with
  | .cubic => (t.cubicIncreaseCwnd t.congestionData.SMSS).congestionData.cwnd
  | _ => (t.increaseCwnd t.congestionData.SMSS).congestionData.cwnd

theorem setCwnd_of_scaling {t t' : Tcb} (hscaling : t'.isWindowScaling = t.isWindowScaling)
    (hshift : t'.sndWindShift = t.sndWindShift) (n : Nat) :
    (t'.setCwnd n).congestionData.cwnd = (t.setCwnd n).congestionData.cwnd := by
  unfold setCwnd
  rw [hscaling, hshift]
  split
  · rfl
  · rfl

theorem windows_withCounters (t : Tcb) (dupAckCount recover : Nat) :
    (t.withCounters dupAckCount recover).entryCwnd = t.entryCwnd ∧
      (t.withCounters dupAckCount recover).inflatedCwnd = t.inflatedCwnd := by
  have hvariant : (t.withCounters dupAckCount recover).variant = t.variant := rfl
  have hwindow : (t.withCounters dupAckCount recover).entryWindow = t.entryWindow := by
    unfold entryWindow
    rw [retransmitThreshold_withCounters]
    rfl
  have hwnd : (t.withCounters dupAckCount recover).wnd = t.wnd := rfl
  have hscaling : (t.withCounters dupAckCount recover).isWindowScaling = t.isWindowScaling := rfl
  have hset := setCwnd_of_scaling hscaling rfl t.entryWindow
  have hincrease := increaseCwnd_of_wnd hwnd t.congestionData.SMSS
  have hcubic := cubicIncreaseCwnd_of_wnd hwnd t.congestionData.SMSS
  unfold entryCwnd inflatedCwnd
  rw [hvariant, hwindow]
  cases t.variant with
  | cubic => exact ⟨rfl, hcubic⟩
  | _ => exact ⟨hset, hincrease⟩

end Tcb

namespace Conn

variable {s s' : Conn}

def variantRetransmit (s : Conn) : Conn :=
  match s.tcb.variant with
  | .bic => s.bictcpFastretransmit
  | .cubic => s.cubictcpFastretransmit
  | _ => s.fastRetransmit

/-- Window and count after a fast retransmit function: `entry` is the window at the threshold. -/
structure Inflates (F : Conn → Conn) (entry inflated : Tcb → Nat) : Prop where
  atThreshold : ∀ s : Conn, s.tcb.congestionData.dupAckCount = tcpDupThresh →
    (F s).windowAndCount = (entry s.tcb, s.tcb.congestionData.dupAckCount)
  elsewhere : ∀ s : Conn, s.tcb.congestionData.dupAckCount ≠ tcpDupThresh →
    (F s).windowAndCount = (inflated s.tcb, s.tcb.congestionData.dupAckCount)

theorem windowAndCount_entry {c : CongestionVar} {n : Nat} {isFastRecovery : Bool}
    (hsmss : c.SMSS = s.tcb.congestionData.SMSS)
    (hcount : c.dupAckCount = s.tcb.congestionData.dupAckCount)
    (hshape : s' = enterRecovery { s with
      tcb := (Tcb.setSsthres { s.tcb with congestionData := c } n).setCwnd
        (u32 ((Tcb.setSsthres { s.tcb with congestionData := c } n).getSsthres +
          tcpDupThresh * c.SMSS)) } isFastRecovery) :
    s'.windowAndCount = ((s.tcb.setCwnd (u32 ((s.tcb.setSsthres n).getSsthres +
      tcpDupThresh * s.tcb.congestionData.SMSS))).congestionData.cwnd,
        s.tcb.congestionData.dupAckCount) := by
  have hget : (Tcb.setSsthres { s.tcb with congestionData := c } n).getSsthres =
    (s.tcb.setSsthres n).getSsthres := rfl
  rw [hget, hsmss] at hshape
  generalize u32 ((s.tcb.setSsthres n).getSsthres +
    tcpDupThresh * s.tcb.congestionData.SMSS) = bytes at hshape ⊢
  obtain ⟨cwnd, hcwnd⟩ := (Tcb.setSsthres { s.tcb with congestionData := c } n).setCwnd_frame bytes
  have hscaling : (Tcb.setSsthres { s.tcb with congestionData := c } n).isWindowScaling =
    s.tcb.isWindowScaling := rfl
  have hsame := Tcb.setCwnd_of_scaling hscaling rfl bytes
  rw [hcwnd] at hshape hsame
  rw [hshape, windowAndCount_enterRecovery, ← hsame, ← hcount]
  rfl

theorem windowAndCount_inflated (s : Conn) :
    ((s.mapTcb fun t => t.increaseCwnd t.congestionData.SMSS).stayInRecovery).windowAndCount =
      ((s.tcb.increaseCwnd s.tcb.congestionData.SMSS).congestionData.cwnd,
        s.tcb.congestionData.dupAckCount) := by
  obtain ⟨cwnd, hcwnd⟩ := s.tcb.increaseCwnd_frame s.tcb.congestionData.SMSS
  rw [windowAndCount_stayInRecovery, mapTcb, hcwnd]
  rfl

theorem inflates_fastRetransmit : Inflates fastRetransmit
    (fun t => (t.setCwnd (u32 ((t.setSsthres t.lossThreshold).getSsthres +
      tcpDupThresh * t.congestionData.SMSS))).congestionData.cwnd)
    (fun t => (t.increaseCwnd t.congestionData.SMSS).congestionData.cwnd) := by
  constructor
  · intro s hcount
    have hshape : ∃ isFastRecovery, s.fastRetransmit = enterRecovery { s with
        tcb := (s.tcb.setSsthres s.tcb.lossThreshold).setCwnd
          (u32 ((s.tcb.setSsthres s.tcb.lossThreshold).getSsthres +
            tcpDupThresh * s.tcb.congestionData.SMSS)) } isFastRecovery := ⟨_, if_pos hcount⟩
    obtain ⟨isFastRecovery, hshape⟩ := hshape
    exact windowAndCount_entry (c := s.tcb.congestionData) rfl rfl hshape
  · intro s hcount
    rw [fastRetransmit, if_neg hcount]
    exact windowAndCount_inflated s

theorem inflates_bictcpFastretransmit : Inflates bictcpFastretransmit
    (fun t => (t.setCwnd (u32 ((t.setSsthres (u16 t.bictcpRecalcSsthresh.1)).getSsthres +
      tcpDupThresh * t.congestionData.SMSS))).congestionData.cwnd)
    (fun t => (t.increaseCwnd t.congestionData.SMSS).congestionData.cwnd) := by
  constructor
  · intro s hcount
    have hshape : ∃ isFastRecovery, s.bictcpFastretransmit =
        enterRecovery { s with
          tcb := (s.tcb.bictcpRecalcSsthresh.2.setSsthres (u16 s.tcb.bictcpRecalcSsthresh.1)).setCwnd
            (u32 ((s.tcb.bictcpRecalcSsthresh.2.setSsthres
              (u16 s.tcb.bictcpRecalcSsthresh.1)).getSsthres +
                tcpDupThresh * s.tcb.bictcpRecalcSsthresh.2.congestionData.SMSS)) }
          isFastRecovery := ⟨_, if_pos hcount⟩
    obtain ⟨isFastRecovery, hshape⟩ := hshape
    obtain ⟨bic, hbic⟩ := s.tcb.bictcpRecalcSsthresh_frame
    rw [hbic] at hshape
    exact windowAndCount_entry (c := { s.tcb.congestionData with bic := bic }) rfl rfl hshape
  · intro s hcount
    rw [bictcpFastretransmit, if_neg hcount]
    exact windowAndCount_inflated s

theorem inflates_cubictcpFastretransmit : Inflates cubictcpFastretransmit
    (fun t => u16 (u32 ((t.setSsthres (u32 (t.cubictcpRecalcSsthresh.1 * t.getMSS))).getSsthres +
      tcpDupThresh * t.congestionData.SMSS) >>> t.windShift))
    (fun t => (t.cubicIncreaseCwnd t.congestionData.SMSS).congestionData.cwnd) := by
  constructor
  · intro s hcount
    have hshape : s.cubictcpFastretransmit =
        enterRecovery { s with
          tcb := (s.tcb.cubictcpRecalcSsthresh.2.setSsthres
            (u32 (s.tcb.cubictcpRecalcSsthresh.1 *
              s.tcb.cubictcpRecalcSsthresh.2.getMSS))).cubicSetCwnd
              (u32 ((s.tcb.cubictcpRecalcSsthresh.2.setSsthres
                (u32 (s.tcb.cubictcpRecalcSsthresh.1 *
                  s.tcb.cubictcpRecalcSsthresh.2.getMSS))).getSsthres +
                tcpDupThresh * s.tcb.cubictcpRecalcSsthresh.2.congestionData.SMSS)) } true :=
      if_pos hcount
    obtain ⟨cubic, hcubic⟩ := s.tcb.cubictcpRecalcSsthresh_frame
    rw [hshape, hcubic, windowAndCount_enterRecovery, Tcb.cubicSetCwnd_eq]
    rfl
  · intro s hcount
    obtain ⟨cwnd, hcwnd⟩ := s.tcb.cubicIncreaseCwnd_frame s.tcb.congestionData.SMSS
    rw [cubictcpFastretransmit, if_neg hcount, windowAndCount_stayInRecovery, mapTcb, hcwnd]
    rfl

theorem inflates_variantRetransmit : Inflates variantRetransmit Tcb.entryCwnd Tcb.inflatedCwnd := by
  constructor
  · intro s hcount
    unfold variantRetransmit Tcb.entryCwnd Tcb.entryWindow Tcb.retransmitThreshold
    cases s.tcb.variant with
    | bic => exact inflates_bictcpFastretransmit.atThreshold s hcount
    | cubic => exact inflates_cubictcpFastretransmit.atThreshold s hcount
    | _ => exact inflates_fastRetransmit.atThreshold s hcount
  · intro s hcount
    unfold variantRetransmit Tcb.inflatedCwnd
    cases s.tcb.variant with
    | bic => exact inflates_bictcpFastretransmit.elsewhere s hcount
    | cubic => exact inflates_cubictcpFastretransmit.elsewhere s hcount
    | _ => exact inflates_fastRetransmit.elsewhere s hcount

theorem retransmitCall_eq (s : Conn) :
    ∃ recover, s.retransmitCall =
      (s.mapTcb (·.withCounters s.tcb.congestionData.dupAckCount recover)).variantRetransmit := by
  have hvariant (recover : Nat) : (s.mapTcb (·.withCounters s.tcb.congestionData.dupAckCount
    recover)).tcb.variant = s.tcb.variant := rfl
  unfold retransmitCall variantRetransmit
  simp only [hvariant]
  cases s.tcb.variant with
  | newReno => exact ⟨s.tcb.SND.NXT, rfl⟩
  | _ => exact ⟨s.tcb.congestionData.recover, rfl⟩

theorem inflates_retransmitCall : Inflates retransmitCall Tcb.entryCwnd Tcb.inflatedCwnd := by
  constructor
  · intro s hcount
    obtain ⟨recover, hcall⟩ := s.retransmitCall_eq
    obtain ⟨hentry, -⟩ := s.tcb.windows_withCounters s.tcb.congestionData.dupAckCount recover
    rw [hcall, ← hentry]
    exact inflates_variantRetransmit.atThreshold _ hcount
  · intro s hcount
    obtain ⟨recover, hcall⟩ := s.retransmitCall_eq
    obtain ⟨-, hinflated⟩ := s.tcb.windows_withCounters s.tcb.congestionData.dupAckCount recover
    rw [hcall, ← hinflated]
    exact inflates_variantRetransmit.elsewhere _ hcount

/-! ## A duplicate acknowledgment -/

/-- The duplicate is below the threshold and reports no loss, or NewReno does not start another
recovery. -/
def holdsBack (s : Conn) : Prop :=
  if s.countDupAck.tcb.congestionData.dupAckCount < tcpDupThresh then
    s.countDupAck.sackReportsLoss = false
  else s.tcb.guarded = true

theorem holdsBack_spec {F : Conn → Conn} {r : Conn} (hvariant : s.tcb.variant ≠ .newReno)
    (hbody : r = if s.countDupAck.tcb.congestionData.dupAckCount < tcpDupThresh then
      if s.countDupAck.sackReportsLoss then F s.countDupAck else s.countDupAck
      else F s.countDupAck) :
    (s.holdsBack → r = s.countDupAck) ∧ (¬s.holdsBack → r = F s.countDupAck) := by
  have hfree : s.tcb.guarded = false := by simp [Tcb.guarded, hvariant]
  rw [hbody]
  unfold holdsBack
  split
  · cases s.countDupAck.sackReportsLoss with
    | true => exact ⟨fun h => absurd h (by decide), fun _ => rfl⟩
    | false => exact ⟨fun _ => rfl, fun h => absurd rfl h⟩
  · rw [hfree]
    exact ⟨fun h => absurd h (by decide), fun _ => rfl⟩

theorem ackReceived_of_dupAck (hvariant : s.tcb.variant ≠ .oldTahoe)
    (hdup : s.tcb.isDupAck = true) :
    (s.holdsBack → s.ackReceived = s.countDupAck) ∧
      (¬s.holdsBack → s.ackReceived = s.countDupAck.variantRetransmit ∨
        s.ackReceived = s.countDupAck.retransmitCall) := by
  have hv : s.countDupAck.tcb.variant = s.tcb.variant := rfl
  unfold ackReceived retransmitCall variantRetransmit
  rw [hv]
  cases hvar : s.tcb.variant with
  | oldTahoe => exact absurd hvar hvariant
  | tahoe =>
    obtain ⟨hholds, hcalls⟩ := holdsBack_spec (F := fastRetransmit) (r := s.tahoeAckReceived)
      (by rw [hvar]; decide) (if_pos hdup)
    exact ⟨hholds, fun h => .inl (hcalls h)⟩
  | reno =>
    obtain ⟨hholds, hcalls⟩ := holdsBack_spec (F := fastRetransmit) (r := s.renoAckReceived)
      (by rw [hvar]; decide) (if_pos hdup)
    exact ⟨hholds, fun h => .inl (hcalls h)⟩
  | newReno =>
    have hguarded : s.tcb.guarded = !decide (s.tcb.congestionData.recover <
        sub32 s.tcb.SEG.ACK 1) := by
      simp [Tcb.guarded, hvar]
    have hrecover : s.countDupAck.tcb.congestionData.recover = s.tcb.congestionData.recover := rfl
    have hseg : s.countDupAck.tcb.SEG = s.tcb.SEG := rfl
    unfold newrenoAckReceived holdsBack
    dsimp only
    rw [if_pos hdup, hguarded, hrecover, hseg]
    split
    · cases s.countDupAck.sackReportsLoss with
      | true => exact ⟨fun h => absurd h (by decide), fun _ => .inl rfl⟩
      | false => exact ⟨fun _ => rfl, fun h => absurd rfl h⟩
    · split
      · next hopen =>
        rw [decide_eq_true hopen]
        exact ⟨fun h => absurd h (by decide), fun _ => .inr rfl⟩
      · next hclosed =>
        rw [decide_eq_false hclosed]
        exact ⟨fun _ => rfl, fun h => absurd rfl h⟩
  | bic =>
    obtain ⟨hholds, hcalls⟩ := holdsBack_spec (F := bictcpFastretransmit) (r := s.bicAckReceived)
      (by rw [hvar]; decide) (if_pos hdup)
    exact ⟨hholds, fun h => .inl (hcalls h)⟩
  | cubic =>
    obtain ⟨hholds, hcalls⟩ := holdsBack_spec (F := cubictcpFastretransmit)
      (r := s.cubicAckReceived) (by rw [hvar]; decide) (if_pos hdup)
    exact ⟨hholds, fun h => .inl (hcalls h)⟩

theorem windowAndCount_of_dupAck (hvariant : s.tcb.variant ≠ .oldTahoe)
    (hdup : s.tcb.isDupAck = true) :
    s.ackReceived.tcb.congestionData.dupAckCount =
        u32 (s.tcb.congestionData.dupAckCount + 1) ∧
      (s.holdsBack → s.ackReceived.tcb.congestionData.cwnd = s.tcb.congestionData.cwnd) ∧
      (¬s.holdsBack → s.ackReceived.tcb.congestionData.cwnd =
        if u32 (s.tcb.congestionData.dupAckCount + 1) = tcpDupThresh then s.tcb.entryCwnd
        else s.tcb.inflatedCwnd) := by
  obtain ⟨hholds, hcalls⟩ := ackReceived_of_dupAck hvariant hdup
  obtain ⟨hentry, hinflated⟩ := s.tcb.windows_withCounters
    (u32 (s.tcb.congestionData.dupAckCount + 1)) s.tcb.congestionData.recover
  -- both calls leave the same window and count
  have hcall (h : ¬s.holdsBack) : s.ackReceived.windowAndCount =
      (if u32 (s.tcb.congestionData.dupAckCount + 1) = tcpDupThresh then s.tcb.entryCwnd
        else s.tcb.inflatedCwnd, u32 (s.tcb.congestionData.dupAckCount + 1)) := by
    have hboth {F : Conn → Conn} (hF : Inflates F Tcb.entryCwnd Tcb.inflatedCwnd) :
        (F s.countDupAck).windowAndCount =
          (if u32 (s.tcb.congestionData.dupAckCount + 1) = tcpDupThresh then s.tcb.entryCwnd
            else s.tcb.inflatedCwnd, u32 (s.tcb.congestionData.dupAckCount + 1)) := by
      rw [← hentry, ← hinflated]
      split
      · next hcount => exact hF.atThreshold s.countDupAck hcount
      · next hcount => exact hF.elsewhere s.countDupAck hcount
    rcases hcalls h with heq | heq
    · rw [heq]
      exact hboth inflates_variantRetransmit
    · rw [heq]
      exact hboth inflates_retransmitCall
  by_cases h : s.holdsBack
  · rw [hholds h]
    exact ⟨rfl, fun _ => rfl, fun hno => absurd h hno⟩
  · exact ⟨congrArg Prod.snd (hcall h), fun hyes => absurd hyes h,
      fun _ => congrArg Prod.fst (hcall h)⟩

end Conn

end NetSim.Tcp
