import NetSim.Tcp.DupAckWindow
import NetSim.Tcp.NewRenoRecovery

/-!
# Acknowledgments that are not acceptable (`TCP_Incoming.c`)

`process_ack_in_establishedState` answers an acknowledgment for data never sent, and ignores one
below `SND.UNA`, but has called SACK and the congestion control by then.
-/

namespace NetSim.Tcp

namespace Tcb

variable {t t' : Tcb}

def control (t : Tcb) : Nat × Nat × Nat × Bool :=
  (t.congestionData.cwnd, t.congestionData.ssthresh, t.congestionData.dupAckCount,
    t.congestionData.isFastRecovery)

def testView (t : Tcb) : List SackData × SndVar × SegVar := (t.scoreboard, t.SND, t.SEG)

theorem control_eq_iff_of_kept (h : t'.kept = t.kept) :
    t'.control = t.control ↔ t'.congestionData.cwnd = t.congestionData.cwnd := by
  simp only [kept, recovery, Prod.mk.injEq] at h
  obtain ⟨hssthresh, hcount, hfast, -⟩ := h
  simp only [control, Prod.mk.injEq, hssthresh, hcount, hfast, and_true]

theorem testView_of_recovery (h : t'.recovery = t.recovery) : t'.testView = t.testView :=
  congrArg (fun r => r.2.2.2) h

/-! ## Data never sent -/

def PartialKeeps (t : Tcb) : Prop :=
  ¬t.IsFullAck ∧ t.congestionData.dupAckCount = 0 ∧ t.SumLt t.recoverAmount ∧
    t.NoRoom t.recoverAmount

/-- The acknowledgment is no duplicate, ends no recovery, sets no count back, and adds nothing to
the window. -/
def ControlKept (t : Tcb) (dEventTime : Nat) : Prop :=
  let c := t.congestionData
  match t.variant with
  | .oldTahoe => t.GrowKeeps dEventTime
  | .tahoe => t.isDupAck = false ∧ c.dupAckCount = 0 ∧ t.GrowKeeps dEventTime
  | .reno => t.isDupAck = false ∧ c.isFastRecovery = false ∧ t.GrowKeeps dEventTime
  | .newReno =>
    t.isDupAck = false ∧ if c.isFastRecovery then t.PartialKeeps else t.GrowKeeps dEventTime
  | .bic => t.isDupAck = false ∧ c.isFastRecovery = false ∧ t.BicKeeps dEventTime
  | .cubic => t.isDupAck = false ∧ c.isFastRecovery = false ∧ t.CubicKeeps dEventTime

/-- CUBIC in slow start with a scaled window: HyStart and a window that wraps may cancel out. -/
def CubicMayWrap (t : Tcb) : Prop :=
  t.variant = .cubic ∧ t.inSlowStart = true ∧ t.isWindowScaling = true

theorem control_ne_of_count (h : t'.congestionData.dupAckCount ≠ t.congestionData.dupAckCount) :
    t'.control ≠ t.control := fun heq => h (congrArg (fun c => c.2.2.1) heq)

theorem control_ne_of_fast
    (h : t'.congestionData.isFastRecovery ≠ t.congestionData.isFastRecovery) :
    t'.control ≠ t.control := fun heq => h (congrArg (fun c => c.2.2.2) heq)

theorem u32_succ_ne (n : Nat) : u32 (n + 1) ≠ n := by
  unfold u32
  omega

end Tcb

namespace Conn

variable {s : Conn}

theorem control_growCwnd_iff (hfits : s.tcb.Fits) (dEventTime : Nat) :
    (s.mapTcb (·.growCwnd dEventTime)).tcb.control = s.tcb.control ↔
      s.tcb.GrowKeeps dEventTime :=
  (Tcb.control_eq_iff_of_kept (s.tcb.kept_growCwnd dEventTime)).trans
    (Tcb.growCwnd_kept_iff hfits.cwnd_lt dEventTime)

theorem testView_resend (s : Conn) (seq : Nat) :
    (s.resendSegmentWithoutTimeout seq).tcb.testView = s.tcb.testView := by
  unfold resendSegmentWithoutTimeout
  split
  · rfl
  · split
    · rfl
    · rfl

theorem sId_newRenoFastRecovery (s : Conn) : s.newRenoFastRecovery.sId = s.sId := by
  have hresend (s' : Conn) (seq : Nat) : (s'.resendSegmentWithoutTimeout seq).sId = s'.sId := by
    unfold resendSegmentWithoutTimeout
    split
    · rfl
    · split
      · rfl
      · rfl
  by_cases h : s.tcb.IsFullAck
  · rw [newRenoFastRecovery_full h]
    rfl
  · rw [newRenoFastRecovery_notFull h, hresend]
    rfl

theorem newRenoFastRecovery_of_full (h : s.tcb.IsFullAck) :
    s.newRenoFastRecovery.tcb.congestionData.isFastRecovery = false ∧
      s.newRenoFastRecovery.tcb.testView = s.tcb.testView := by
  let t := s.tcb.mapCongestion fun c => { c with dupAckCount := 0 }
  obtain ⟨cwnd, hcwnd⟩ := t.setCwnd_frame (min (u16 t.getSsthres)
    (max t.flightSize t.congestionData.SMSS + t.congestionData.SMSS))
  have hshape : s.newRenoFastRecovery = { s with
      tcb := (t.withCwnd cwnd).mapCongestion fun c => { c with isFastRecovery := false } } := by
    rw [newRenoFastRecovery_full h, ← hcwnd]
    rfl
  rw [hshape]
  exact ⟨rfl, rfl⟩

theorem newRenoFastRecovery_of_notFull (h : ¬s.tcb.IsFullAck) :
    s.newRenoFastRecovery.tcb.control =
        ((s.tcb.increaseCwnd s.tcb.recoverAmount).congestionData.cwnd,
          s.tcb.congestionData.ssthresh, 0, s.tcb.congestionData.isFastRecovery) ∧
      s.newRenoFastRecovery.tcb.testView = s.tcb.testView := by
  let t := s.tcb.mapCongestion fun c => { c with dupAckCount := 0 }
  have hwnd : t.wnd = s.tcb.wnd := rfl
  have hsame := Tcb.increaseCwnd_of_wnd hwnd s.tcb.recoverAmount
  obtain ⟨cwnd, hcwnd⟩ := t.increaseCwnd_frame s.tcb.recoverAmount
  have hshape : s.newRenoFastRecovery =
      resendSegmentWithoutTimeout { s with tcb := t.withCwnd cwnd } s.tcb.SEG.ACK := by
    rw [newRenoFastRecovery_notFull h, ← hcwnd]
    rfl
  rw [hcwnd] at hsame
  rw [hshape, Tcb.control, (resend_frame _ _).1, testView_resend, ← hsame]
  exact ⟨rfl, rfl⟩

/-! ## `ack_received` -/

theorem control_ne_of_dupAck (hvariant : s.tcb.variant ≠ .oldTahoe)
    (hdup : s.tcb.isDupAck = true) : s.ackReceived.tcb.control ≠ s.tcb.control := by
  apply Tcb.control_ne_of_count
  rw [(windowAndCount_of_dupAck hvariant hdup).1]
  exact Tcb.u32_succ_ne _

theorem control_fastRecovery_ne (h : s.tcb.congestionData.isFastRecovery = true) :
    s.fastRecovery.tcb.control ≠ s.tcb.control := by
  obtain ⟨cwnd, hframe⟩ := s.fastRecovery_frame
  apply Tcb.control_ne_of_fast
  rw [hframe, h]
  exact Bool.false_ne_true

theorem control_cubicFastRecovery_ne (h : s.tcb.congestionData.isFastRecovery = true) :
    s.cubicFastRecovery.tcb.control ≠ s.tcb.control := by
  obtain ⟨cwnd, hframe⟩ := s.cubicFastRecovery_frame
  apply Tcb.control_ne_of_fast
  rw [hframe, h]
  exact Bool.false_ne_true

theorem control_tahoe_iff (hfits : s.tcb.Fits) (hdup : ¬s.tcb.isDupAck = true) :
    s.tahoeAckReceived.tcb.control = s.tcb.control ↔
      s.tcb.congestionData.dupAckCount = 0 ∧ s.tcb.GrowKeeps s.dEventTime := by
  unfold tahoeAckReceived
  rw [if_neg hdup]
  split
  · next hne =>
    refine iff_of_false (Tcb.control_ne_of_count ?_) fun h => hne h.1
    obtain ⟨cwnd, hcwnd⟩ :=
      (s.tcb.mapCongestion fun c => { c with dupAckCount := 0 }).setCwnd_frame
        s.tcb.congestionData.LW
    rw [mapTcb, hcwnd]
    exact Ne.symm hne
  · next hzero =>
    rw [and_iff_right (not_not.1 hzero)]
    exact control_growCwnd_iff hfits s.dEventTime

theorem control_reno_iff (hfits : s.tcb.Fits) (hdup : ¬s.tcb.isDupAck = true) :
    s.renoAckReceived.tcb.control = s.tcb.control ↔
      s.tcb.congestionData.isFastRecovery = false ∧ s.tcb.GrowKeeps s.dEventTime := by
  unfold renoAckReceived
  rw [if_neg hdup]
  split
  · next hfast =>
    refine iff_of_false (control_fastRecovery_ne hfast) fun h => ?_
    rw [hfast] at h
    exact Bool.false_ne_true h.1.symm
  · next hfast =>
    rw [and_iff_right (Bool.eq_false_of_not_eq_true hfast)]
    exact control_growCwnd_iff hfits s.dEventTime

theorem control_newreno_iff (hfits : s.tcb.Fits) (hdup : ¬s.tcb.isDupAck = true) :
    s.newrenoAckReceived.tcb.control = s.tcb.control ↔
      if s.tcb.congestionData.isFastRecovery then s.tcb.PartialKeeps
      else s.tcb.GrowKeeps s.dEventTime := by
  unfold newrenoAckReceived
  rw [if_neg hdup]
  split
  · next hfast =>
    unfold Tcb.PartialKeeps
    by_cases hfull : s.tcb.IsFullAck
    · refine iff_of_false (Tcb.control_ne_of_fast ?_) fun h => h.1 hfull
      rw [(newRenoFastRecovery_of_full hfull).1, hfast]
      exact Bool.false_ne_true
    · rw [and_iff_right hfull, (newRenoFastRecovery_of_notFull hfull).1,
        ← Tcb.increaseCwnd_kept_iff hfits.cwnd_lt s.tcb.recoverAmount_lt]
      simp only [Tcb.control, Prod.mk.injEq, true_and, and_true]
      rw [and_comm, eq_comm]
  · exact control_growCwnd_iff hfits s.dEventTime

theorem control_bic_iff (hfits : s.tcb.Fits) (hdup : ¬s.tcb.isDupAck = true) :
    s.bicAckReceived.tcb.control = s.tcb.control ↔
      s.tcb.congestionData.isFastRecovery = false ∧ s.tcb.BicKeeps s.dEventTime := by
  unfold bicAckReceived
  rw [if_neg hdup]
  split
  · next hfast =>
    refine iff_of_false (control_fastRecovery_ne hfast) fun h => ?_
    rw [hfast] at h
    exact Bool.false_ne_true h.1.symm
  · next hfast =>
    rw [and_iff_right (Bool.eq_false_of_not_eq_true hfast)]
    exact (Tcb.control_eq_iff_of_kept (s.tcb.kept_bictcpCongAvoid s.dEventTime
      s.tcb.segmentAcked)).trans
        (Tcb.bictcpCongAvoid_kept_iff hfits.cwnd_lt hfits.smss_lt s.dEventTime)

theorem control_cubic (hfits : s.tcb.Fits) (hdup : ¬s.tcb.isDupAck = true) :
    (s.tcb.congestionData.isFastRecovery = false ∧ s.tcb.CubicKeeps s.dEventTime →
        s.cubicAckReceived.tcb.control = s.tcb.control) ∧
      ((s.tcb.inSlowStart = true → ¬s.tcb.isWindowScaling = true) →
        s.cubicAckReceived.tcb.control = s.tcb.control →
          s.tcb.congestionData.isFastRecovery = false ∧ s.tcb.CubicKeeps s.dEventTime) := by
  unfold cubicAckReceived
  rw [if_neg hdup]
  split
  · next hfast =>
    refine ⟨fun h => ?_, fun _ h => absurd h (control_cubicFastRecovery_ne hfast)⟩
    rw [hfast] at h
    exact absurd h.1.symm Bool.false_ne_true
  · next hfast =>
    have hrecovery : (s.tcb.cubicNewAck s.dEventTime).recovery = s.tcb.recovery :=
      (Tcb.recovery_of_kept (Tcb.kept_cubictcpCongAvoid _ _ _)).trans
        (s.tcb.recovery_cubictcpAcked _)
    have hiff : (s.tcb.cubicNewAck s.dEventTime).control = s.tcb.control ↔
        (s.tcb.cubicNewAck s.dEventTime).congestionData.cwnd = s.tcb.congestionData.cwnd ∧
          (s.tcb.cubicNewAck s.dEventTime).congestionData.ssthresh =
            s.tcb.congestionData.ssthresh := by
      simp only [Tcb.recovery, Prod.mk.injEq] at hrecovery
      simp only [Tcb.control, Prod.mk.injEq, hrecovery.1, hrecovery.2.1, and_true]
    have hno := Bool.eq_false_of_not_eq_true hfast
    refine ⟨fun h => hiff.2 (Tcb.cubicNewAck_kept hfits _ h.2), fun hwraps h => ⟨hno, ?_⟩⟩
    obtain ⟨hcwnd, hssthresh⟩ := hiff.1 h
    exact Tcb.cubicKeeps_of_kept hfits hwraps _ hcwnd hssthresh

theorem control_of_not_dup {P W : Prop} (hvariant : s.tcb.variant ≠ .oldTahoe)
    (hother : ¬s.tcb.isDupAck = true → (P → s.ackReceived.tcb.control = s.tcb.control) ∧
      (W → s.ackReceived.tcb.control = s.tcb.control → P)) :
    (s.tcb.isDupAck = false ∧ P → s.ackReceived.tcb.control = s.tcb.control) ∧
      (W → s.ackReceived.tcb.control = s.tcb.control → s.tcb.isDupAck = false ∧ P) := by
  by_cases hdup : s.tcb.isDupAck = true
  · have hne := control_ne_of_dupAck hvariant hdup
    refine ⟨fun h => ?_, fun _ h => absurd h hne⟩
    rw [hdup] at h
    exact absurd h.1.symm Bool.false_ne_true
  · obtain ⟨henough, hneeded⟩ := hother hdup
    exact ⟨fun h => henough h.2, fun hw h => ⟨Bool.eq_false_of_not_eq_true hdup, hneeded hw h⟩⟩

theorem control_ackReceived (hfits : s.tcb.Fits) :
    (s.tcb.ControlKept s.dEventTime → s.ackReceived.tcb.control = s.tcb.control) ∧
      (¬s.tcb.CubicMayWrap → s.ackReceived.tcb.control = s.tcb.control →
        s.tcb.ControlKept s.dEventTime) := by
  have hcall : s.ackReceived = match s.tcb.variant with
    | .oldTahoe => s.oldtahoeAckReceived
    | .tahoe => s.tahoeAckReceived
    | .reno => s.renoAckReceived
    | .newReno => s.newrenoAckReceived
    | .bic => s.bicAckReceived
    | .cubic => s.cubicAckReceived := rfl
  unfold Tcb.ControlKept
  cases hvar : s.tcb.variant with
  | oldTahoe =>
    rw [hvar] at hcall
    have hiff := control_growCwnd_iff hfits s.dEventTime
    rw [hcall]
    exact ⟨hiff.2, fun _ => hiff.1⟩
  | tahoe =>
    rw [hvar] at hcall
    refine control_of_not_dup (by rw [hvar]; decide) fun hdup => ?_
    rw [hcall]
    exact ⟨(control_tahoe_iff hfits hdup).2, fun _ => (control_tahoe_iff hfits hdup).1⟩
  | reno =>
    rw [hvar] at hcall
    refine control_of_not_dup (by rw [hvar]; decide) fun hdup => ?_
    rw [hcall]
    exact ⟨(control_reno_iff hfits hdup).2, fun _ => (control_reno_iff hfits hdup).1⟩
  | newReno =>
    rw [hvar] at hcall
    refine control_of_not_dup (by rw [hvar]; decide) fun hdup => ?_
    rw [hcall]
    exact ⟨(control_newreno_iff hfits hdup).2, fun _ => (control_newreno_iff hfits hdup).1⟩
  | bic =>
    rw [hvar] at hcall
    refine control_of_not_dup (by rw [hvar]; decide) fun hdup => ?_
    rw [hcall]
    exact ⟨(control_bic_iff hfits hdup).2, fun _ => (control_bic_iff hfits hdup).1⟩
  | cubic =>
    rw [hvar] at hcall
    refine control_of_not_dup (by rw [hvar]; decide) fun hdup => ?_
    rw [hcall]
    obtain ⟨henough, hneeded⟩ := control_cubic hfits hdup
    exact ⟨henough, fun hno => hneeded fun hin hscaling => hno ⟨hvar, hin, hscaling⟩⟩

theorem testView_ackReceived (h : s.tcb.variant = .oldTahoe ∨ s.tcb.isDupAck = false) :
    s.ackReceived.tcb.testView = s.tcb.testView ∧ s.ackReceived.sId = s.sId := by
  have hgrow : (s.mapTcb (·.growCwnd s.dEventTime)).tcb.testView = s.tcb.testView :=
    Tcb.testView_of_recovery (Tcb.recovery_of_kept (s.tcb.kept_growCwnd s.dEventTime))
  have hnot (hvariant : s.tcb.variant ≠ .oldTahoe) : ¬s.tcb.isDupAck = true := by
    rw [h.resolve_left hvariant]
    exact Bool.false_ne_true
  unfold ackReceived
  cases hvar : s.tcb.variant with
  | oldTahoe => exact ⟨hgrow, rfl⟩
  | tahoe =>
    unfold tahoeAckReceived
    dsimp only
    rw [if_neg (hnot (by rw [hvar]; decide))]
    split
    · obtain ⟨cwnd, hcwnd⟩ :=
        (s.tcb.mapCongestion fun c => { c with dupAckCount := 0 }).setCwnd_frame
          s.tcb.congestionData.LW
      rw [mapTcb, hcwnd]
      exact ⟨rfl, rfl⟩
    · exact ⟨hgrow, rfl⟩
  | reno =>
    unfold renoAckReceived
    dsimp only
    rw [if_neg (hnot (by rw [hvar]; decide))]
    split
    · obtain ⟨cwnd, hframe⟩ := s.fastRecovery_frame
      rw [hframe]
      exact ⟨rfl, rfl⟩
    · exact ⟨hgrow, rfl⟩
  | newReno =>
    unfold newrenoAckReceived
    dsimp only
    rw [if_neg (hnot (by rw [hvar]; decide))]
    split
    · by_cases hfull : s.tcb.IsFullAck
      · exact ⟨(newRenoFastRecovery_of_full hfull).2, s.sId_newRenoFastRecovery⟩
      · exact ⟨(newRenoFastRecovery_of_notFull hfull).2, s.sId_newRenoFastRecovery⟩
    · exact ⟨hgrow, rfl⟩
  | bic =>
    unfold bicAckReceived
    dsimp only
    rw [if_neg (hnot (by rw [hvar]; decide))]
    split
    · obtain ⟨cwnd, hframe⟩ := s.fastRecovery_frame
      rw [hframe]
      exact ⟨rfl, rfl⟩
    · exact ⟨Tcb.testView_of_recovery (Tcb.recovery_of_kept (s.tcb.kept_bictcpCongAvoid _ _)), rfl⟩
  | cubic =>
    unfold cubicAckReceived
    dsimp only
    rw [if_neg (hnot (by rw [hvar]; decide))]
    split
    · obtain ⟨cwnd, hframe⟩ := s.cubicFastRecovery_frame
      rw [hframe]
      exact ⟨rfl, rfl⟩
    · have hkept := (s.tcb.cubictcpAcked s.dEventTime).kept_cubictcpCongAvoid s.dEventTime
        s.tcb.segmentAcked
      have hrecovery := (Tcb.recovery_of_kept hkept).trans
        (s.tcb.recovery_cubictcpAcked s.dEventTime)
      exact ⟨Tcb.testView_of_recovery hrecovery, rfl⟩

end Conn

end NetSim.Tcp
