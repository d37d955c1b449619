import NetSim.Tcp.WindowArithmetic

/-!
# The fast recovery of NewReno (`Congestion.c`)

A partial acknowledgment adds `SEG.ACK - recover`, cast to `UINT16`, to the window: that is not what
it covers, and as it lies below `recover` the difference always wraps.
-/

namespace NetSim.Tcp

theorem kept_min_le (ssthresh s n : Nat) :
    u16 (min (u16 (u32 (ssthresh <<< s))) n >>> s) ≤ ssthresh := by
  have hback : (ssthresh <<< s) >>> s = ssthresh := by
    rw [Nat.shiftLeft_eq, Nat.shiftRight_eq_div_pow, Nat.mul_div_cancel _ (Nat.two_pow_pos _)]
  have hle : min (u16 (u32 (ssthresh <<< s))) n ≤ ssthresh <<< s := by
    apply Nat.le_trans (Nat.min_le_left _ _)
    exact Nat.le_trans (Nat.mod_le _ _) (Nat.mod_le _ _)
  have hshift : min (u16 (u32 (ssthresh <<< s))) n >>> s ≤ (ssthresh <<< s) >>> s := by
    rw [Nat.shiftRight_eq_div_pow, Nat.shiftRight_eq_div_pow]
    exact Nat.div_le_div_right hle
  rw [hback] at hshift
  exact Nat.le_trans (Nat.mod_le _ _) hshift

namespace Tcb

/-- The amount that `newReno_FastRecovery` adds to the window. -/
def recoverAmount (t : Tcb) : Nat := u16 (sub32 t.SEG.ACK t.congestionData.recover)

theorem recoverAmount_lt (t : Tcb) : t.recoverAmount < 2 ^ 16 := u16_lt _

def IsFullAck (t : Tcb) : Prop := t.congestionData.recover ≤ t.SEG.ACK

/-- The units of the window that the amount comes to, before the window is full. -/
def recoverUnits (t : Tcb) : Nat :=
  min (65535 - t.congestionData.cwnd) (t.recoverAmount / 2 ^ t.windShift)

end Tcb

namespace Conn

variable {s : Conn}

/-- A partial acknowledgment retransmits its segment, adds the difference, and at most one segment.
-/
structure DeflatesPartially (s : Conn) : Prop where
  resends : ∀ p isSacked,
    s.tcb.retransmissionQueue.getCopySegmentFromQueue s.tcb.SEG.ACK = some (p, isSacked) →
      (s.tcb.isSackPermitted && isSacked) = false →
        s.newRenoFastRecovery.network = s.network ++ [p]
  bounded : s.newRenoFastRecovery.tcb.getCwnd ≤ s.tcb.getCwnd + s.tcb.congestionData.SMSS
  amount : (s.tcb.recoverAmount : Int) = s.tcb.SEG.ACK - s.tcb.congestionData.recover

structure DeflatesFully (s : Conn) : Prop where
  bounded : s.newRenoFastRecovery.tcb.congestionData.cwnd ≤ s.tcb.congestionData.ssthresh
  leaves : s.newRenoFastRecovery.tcb.congestionData.isFastRecovery = false

/-- What is asked of `newReno_FastRecovery`. -/
def Deflates (s : Conn) : Prop :=
  (¬s.tcb.IsFullAck → s.DeflatesPartially) ∧ (s.tcb.IsFullAck → s.DeflatesFully)

theorem newRenoFastRecovery_full (h : s.tcb.IsFullAck) : s.newRenoFastRecovery =
    s.mapTcb fun t =>
      let t := t.mapCongestion fun c => { c with dupAckCount := 0 }
      (t.setCwnd (min (u16 t.getSsthres)
        (max t.flightSize t.congestionData.SMSS + t.congestionData.SMSS))).mapCongestion
          fun c => { c with isFastRecovery := false } := by
  unfold Tcb.IsFullAck at h
  change ite (s.tcb.congestionData.recover ≤ s.tcb.SEG.ACK) _ _ = _
  rw [if_pos h]
  rfl

theorem fullCwnd_le_iff (t : Tcb) (n : Nat) :
    (t.setCwnd (min (u16 t.getSsthres) n)).congestionData.cwnd ≤ t.congestionData.ssthresh ↔
      (t.isWindowScaling = true → t.congestionData.ssthresh ≠ 0) := by
  by_cases hscaling : t.isWindowScaling = true
  · have hkept := kept_min_le t.congestionData.ssthresh t.sndWindShift n
    have hssthres : t.getSsthres = u32 (t.congestionData.ssthresh <<< t.sndWindShift) :=
      if_pos hscaling
    rw [Tcb.setCwnd_scaled hscaling, Tcb.withCwnd_cwnd, hssthres]
    generalize u16 (min (u16 (u32 (t.congestionData.ssthresh <<< t.sndWindShift))) n >>>
      t.sndWindShift) = cwnd at hkept ⊢
    split
    · exact ⟨fun hle _ hzero => by omega, fun hne => Nat.pos_of_ne_zero (hne hscaling)⟩
    · exact ⟨fun hle _ hzero => by omega, fun _ => hkept⟩
  · have hssthres : t.getSsthres = t.congestionData.ssthresh := if_neg hscaling
    rw [Tcb.setCwnd_unscaled hscaling, Tcb.withCwnd_cwnd, hssthres]
    refine iff_of_true ?_ (fun h => absurd h hscaling)
    apply Nat.le_trans (Nat.mod_le _ _)
    exact Nat.le_trans (Nat.min_le_left _ _) (Nat.mod_le _ _)

theorem deflatesFully_iff (h : s.tcb.IsFullAck) : s.DeflatesFully ↔
    (s.tcb.isWindowScaling = true → s.tcb.congestionData.ssthresh ≠ 0) := by
  have hbounded := fullCwnd_le_iff (s.tcb.mapCongestion fun c => { c with dupAckCount := 0 })
    (max s.tcb.flightSize s.tcb.congestionData.SMSS + s.tcb.congestionData.SMSS)
  constructor
  · rintro ⟨hle, -⟩
    rw [newRenoFastRecovery_full h] at hle
    exact hbounded.1 hle
  · intro hne
    constructor
    · rw [newRenoFastRecovery_full h]
      exact hbounded.2 hne
    · rw [newRenoFastRecovery_full h]
      rfl

/-! ## A partial acknowledgment -/

theorem newRenoFastRecovery_notFull (h : ¬s.tcb.IsFullAck) : s.newRenoFastRecovery =
    (s.mapTcb fun t =>
      (t.mapCongestion fun c => { c with dupAckCount := 0 }).increaseCwnd
        t.recoverAmount).resendSegmentWithoutTimeout s.tcb.SEG.ACK := by
  unfold Tcb.IsFullAck at h
  change ite (s.tcb.congestionData.recover ≤ s.tcb.SEG.ACK) _ _ = _
  rw [if_neg h]
  rfl

theorem resend_network {seq : Nat} {p : Segment} {isSacked : Bool}
    (hget : s.tcb.retransmissionQueue.getCopySegmentFromQueue seq = some (p, isSacked))
    (hsacked : (s.tcb.isSackPermitted && isSacked) = false) :
    (s.resendSegmentWithoutTimeout seq).network = s.network ++ [p] := by
  unfold resendSegmentWithoutTimeout
  rw [hget]
  dsimp only
  rw [if_neg (by rw [hsacked]; decide)]
  rfl

theorem resends_partially (h : ¬s.tcb.IsFullAck) {p : Segment} {isSacked : Bool}
    (hget : s.tcb.retransmissionQueue.getCopySegmentFromQueue s.tcb.SEG.ACK = some (p, isSacked))
    (hsacked : (s.tcb.isSackPermitted && isSacked) = false) :
    s.newRenoFastRecovery.network = s.network ++ [p] := by
  obtain ⟨cwnd, hcwnd⟩ := Tcb.increaseCwnd_frame
    (s.tcb.mapCongestion fun c => { c with dupAckCount := 0 }) s.tcb.recoverAmount
  rw [newRenoFastRecovery_notFull h, mapTcb, hcwnd]
  exact resend_network hget hsacked

theorem amount_wraps (h : ¬s.tcb.IsFullAck) :
    (s.tcb.recoverAmount : Int) ≠ s.tcb.SEG.ACK - s.tcb.congestionData.recover := by
  unfold Tcb.IsFullAck at h
  omega

theorem resendSegmentWithoutTimeout_getCwnd (s : Conn) (seq : Nat) :
    (s.resendSegmentWithoutTimeout seq).tcb.getCwnd = s.tcb.getCwnd := by
  unfold resendSegmentWithoutTimeout
  split
  · rfl
  · split
    · rfl
    · rfl

theorem bounded_partially_iff (h : ¬s.tcb.IsFullAck) (hs : s.tcb.sndWindShift ≤ 14)
    (hcwnd : s.tcb.congestionData.cwnd < 2 ^ 16) :
    s.newRenoFastRecovery.tcb.getCwnd ≤ s.tcb.getCwnd + s.tcb.congestionData.SMSS ↔
      s.tcb.recoverUnits * 2 ^ s.tcb.windShift ≤ s.tcb.congestionData.SMSS := by
  have hgrown := Tcb.increaseCwnd_eq_grown (t := s.tcb.mapCongestion fun c =>
    { c with dupAckCount := 0 }) hs hcwnd s.tcb.recoverAmount_lt
  have hunits := Tcb.grownCwnd_eq hcwnd s.tcb.recoverAmount
  have hlt : s.tcb.grownCwnd s.tcb.recoverAmount < 2 ^ 16 := by
    rw [hunits]
    omega
  have hafter : s.newRenoFastRecovery.tcb.getCwnd =
      s.tcb.grownCwnd s.tcb.recoverAmount <<< s.tcb.windShift := by
    rw [newRenoFastRecovery_notFull h, resendSegmentWithoutTimeout_getCwnd, mapTcb]
    rw [hgrown]
    exact Tcb.windowScaleGetCwnd_eq (t := s.tcb.withCwnd _) hs hlt
  have hbefore : s.tcb.getCwnd = s.tcb.congestionData.cwnd <<< s.tcb.windShift :=
    Tcb.windowScaleGetCwnd_eq hs hcwnd
  rw [hafter, hbefore, hunits, Nat.shiftLeft_eq, Nat.shiftLeft_eq, Nat.add_mul,
    Nat.add_le_add_iff_left]
  rfl

/-! ## Both kinds -/

theorem deflates_iff (s : Conn) : s.Deflates ↔
    s.tcb.IsFullAck ∧ (s.tcb.isWindowScaling = true → s.tcb.congestionData.ssthresh ≠ 0) := by
  by_cases h : s.tcb.IsFullAck
  · rw [and_iff_right h, ← deflatesFully_iff h]
    exact ⟨fun hd => hd.2 h, fun hfull => ⟨fun hnotFull => absurd h hnotFull, fun _ => hfull⟩⟩
  · refine iff_of_false ?_ fun hc => h hc.1
    rintro ⟨hnotFull, -⟩
    exact amount_wraps h (hnotFull h).amount

/-- `newReno_FastRecovery` is right exactly at a full acknowledgment with a threshold above 0, or an
unscaled window. A partial one retransmits, and adds at most one segment exactly when the wrapped
amount does. -/
theorem newRenoFastRecovery_iff (s : Conn) :
    (s.Deflates ↔
      s.tcb.IsFullAck ∧ (s.tcb.isWindowScaling = true → s.tcb.congestionData.ssthresh ≠ 0)) ∧
    (¬s.tcb.IsFullAck →
      (∀ p isSacked,
        s.tcb.retransmissionQueue.getCopySegmentFromQueue s.tcb.SEG.ACK = some (p, isSacked) →
          (s.tcb.isSackPermitted && isSacked) = false →
            s.newRenoFastRecovery.network = s.network ++ [p]) ∧
      (s.tcb.sndWindShift ≤ 14 → s.tcb.congestionData.cwnd < 2 ^ 16 →
        (s.newRenoFastRecovery.tcb.getCwnd ≤ s.tcb.getCwnd + s.tcb.congestionData.SMSS ↔
          s.tcb.recoverUnits * 2 ^ s.tcb.windShift ≤ s.tcb.congestionData.SMSS))) :=
  ⟨s.deflates_iff, fun h => ⟨fun _ _ hget hsacked => resends_partially h hget hsacked,
    fun hs hcwnd => bounded_partially_iff h hs hcwnd⟩⟩

/-- A connection in fast recovery with `recover` 5001, at an acknowledgment up to `ackNo`. -/
def recovering (ackNo : Nat) : Conn where
  dev := .config
  dEventTime := 0
  tcb := { zeroTcb with
    variant := .newReno
    SND := ⟨1, 8001, 0, 0, 0⟩
    SEG := ⟨0, ackNo, 0, 0⟩
    congestionData := { zeroCongestionVar with
      SMSS := 1460, cwnd := 7300, ssthresh := 2920, recover := 5001, isFastRecovery := true } }
  waitFromApp := false
  isAPPClose := false
  sId := []
  listenCallback := false
  network := []
  application := []
  rtoTimeouts := []
  timeWaitTimeouts := 0
  windows := []
  closings := []

/-- A full acknowledgment sets the window to the threshold, and a partial one retransmits. -/
theorem newRenoFastRecovery_recovering :
    (recovering 5001).Deflates ∧
      (recovering 5001).newRenoFastRecovery.tcb.congestionData.cwnd = 2920 ∧
      ¬((recovering 1461).newRenoFastRecovery.tcb.getCwnd ≤ 7300 + 1460) := by
  refine ⟨(newRenoFastRecovery_iff (recovering 5001)).1.2 ⟨by unfold Tcb.IsFullAck; decide, ?_⟩,
    by decide, ?_⟩
  · exact fun hscaling => absurd hscaling (by decide)
  · intro hle
    have hnotFull : ¬(recovering 1461).tcb.IsFullAck := by unfold Tcb.IsFullAck; decide
    have hbound := ((newRenoFastRecovery_iff (recovering 1461)).2 hnotFull).2
      (by decide) (by decide)
    have hunits := hbound.1 hle
    revert hunits
    decide

/-- The claimed law, over the acknowledgments of new data in fast recovery. -/
def DeflatesAlways : Prop :=
  ∀ s : Conn, s.tcb.congestionData.isFastRecovery = true → s.tcb.SND.UNA < s.tcb.SEG.ACK →
    s.Deflates

/-- The acknowledgment of the first 1460 bytes grows the window from 7300 to 65535: the difference
to `recover` is -3540. -/
theorem not_deflatesAlways : ¬DeflatesAlways := by
  intro h
  have hd := (h (recovering 1461) rfl (by decide)).1 (by unfold Tcb.IsFullAck; decide)
  have hbounded := hd.bounded
  revert hbounded
  decide

end Conn

end NetSim.Tcp
