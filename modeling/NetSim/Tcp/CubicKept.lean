import NetSim.Tcp.WindowKept

/-!
# When CUBIC leaves the window alone (`CUBIC.c`)

A new acknowledgment first runs HyStart, which may set the window to the threshold or the threshold
to the window, and then `cubictcp_cong_avoid`.
-/

namespace NetSim.Tcp

namespace Tcb

variable {t : Tcb} {n : Nat}

/-! ## HyStart -/

/-- The test of `hystart_update` on the ack train, before it sets the window to the threshold. -/
def TrainSets (t : Tcb) (now : Nat) : Prop :=
  let ca := t.congestionData.cubic
  toInt32 (sub32 now ca.lastAck) ≤ ca.hystartAckDelta ∧
    ca.delayMin >>> 4 < sub32 now ca.roundStart ∧ t.getSsthres ≠ ca.initialSsthresh

/-- The test of `hystart_update` on the delay, before it sets the threshold to the window. -/
def DelaySets (t : Tcb) : Prop :=
  let ca := t.congestionData.cubic
  hystartMinSamples ≤ ca.sampleCnt ∧
    u32 (ca.delayMin + hystartDelayThresh (ca.delayMin >>> 3)) < ca.currRtt

/-- `cubictcp_acked` calls `hystart_update`, which has not found the end of slow start yet. -/
def HystartRuns (t : Tcb) : Prop :=
  (t.inSlowStart && t.congestionData.cubic.hystartLowWindow ≤ t.segCwnd) = true ∧
    t.congestionData.cubic.found &&& 3 = 0

def HystartKeeps (t : Tcb) (dEventTime : Nat) : Prop :=
  t.HystartRuns →
    (t.TrainSets (cubictcpClock dEventTime) →
        u16 (t.getSsthres >>> t.windShift) = t.congestionData.cwnd) ∧
      (t.DelaySets → (t.setSsthres t.getCwnd).congestionData.ssthresh = t.congestionData.ssthresh)

def ackView (t : Tcb) : Nat × Bool × Nat × Nat × Nat :=
  (t.congestionData.SMSS, t.isWindowScaling, t.sndWindShift, t.SEG.ACK, t.SND.UNA)

def delayView (t : Tcb) : Nat × Nat × Nat × Nat :=
  let ca := t.congestionData.cubic
  (ca.delayMin, ca.sampleCnt, ca.currRtt, t.congestionData.ssthresh)

theorem hystartAckTrain_spec (t : Tcb) (now : Nat) :
    (t.hystartAckTrain now).ackView = t.ackView ∧
      (t.hystartAckTrain now).delayView = t.delayView ∧
      (t.TrainSets now → (t.hystartAckTrain now).congestionData.cwnd =
        u16 (t.getSsthres >>> t.windShift)) ∧
      (¬t.TrainSets now → (t.hystartAckTrain now).congestionData.cwnd =
        t.congestionData.cwnd) := by
  unfold hystartAckTrain TrainSets
  dsimp only
  split
  · next hdelta =>
    rw [and_iff_right hdelta]
    split
    · next hround =>
      rw [and_iff_right hround]
      split
      · next hne =>
        rw [cubicSetCwnd_eq]
        exact ⟨rfl, rfl, fun _ => rfl, fun hno => absurd hne hno⟩
      · next heq => exact ⟨rfl, rfl, fun hne => absurd hne heq, fun _ => rfl⟩
    · next hround => exact ⟨rfl, rfl, fun h => absurd h.1 hround, fun _ => rfl⟩
  · next hdelta => exact ⟨rfl, rfl, fun h => absurd h.1 hdelta, fun _ => rfl⟩

theorem hystartDelay_spec (t : Tcb) (delay : Nat) :
    (t.hystartDelay delay).ackView = t.ackView ∧
      (t.hystartDelay delay).congestionData.cwnd = t.congestionData.cwnd ∧
      (t.DelaySets → (t.hystartDelay delay).congestionData.ssthresh =
        (t.setSsthres t.getCwnd).congestionData.ssthresh) ∧
      (¬t.DelaySets → (t.hystartDelay delay).congestionData.ssthresh =
        t.congestionData.ssthresh) := by
  unfold hystartDelay DelaySets
  dsimp only
  split
  · next hfew =>
    exact ⟨rfl, rfl, fun h => absurd h.1 (Nat.not_le.2 hfew), fun _ => rfl⟩
  · next hmany =>
    rw [and_iff_right (Nat.le_of_not_lt hmany)]
    split
    · next hlong => exact ⟨rfl, rfl, fun _ => rfl, fun hno => absurd hlong hno⟩
    · next hshort => exact ⟨rfl, rfl, fun h => absurd h hshort, fun _ => rfl⟩

variable {t' : Tcb}

theorem setSsthres_getCwnd_of (hview : t'.ackView = t.ackView)
    (hcwnd : t'.congestionData.cwnd = t.congestionData.cwnd) :
    (t'.setSsthres t'.getCwnd).congestionData.ssthresh =
      (t.setSsthres t.getCwnd).congestionData.ssthresh := by
  simp only [ackView, Prod.mk.injEq] at hview
  obtain ⟨-, hscaling, hshift, -, -⟩ := hview
  unfold setSsthres getCwnd
  rw [hscaling, hshift, hcwnd]

theorem delaySets_of_view (hview : t'.delayView = t.delayView) : t'.DelaySets ↔ t.DelaySets := by
  simp only [delayView, Prod.mk.injEq] at hview
  obtain ⟨hmin, hcnt, hrtt, -⟩ := hview
  unfold DelaySets
  dsimp only
  rw [hmin, hcnt, hrtt]

theorem hystartUpdate_kept_iff (t : Tcb) (now delay : Nat) :
    (((t.hystartAckTrain now).hystartDelay delay).congestionData.cwnd = t.congestionData.cwnd ∧
        ((t.hystartAckTrain now).hystartDelay delay).congestionData.ssthresh =
          t.congestionData.ssthresh) ↔
      (t.TrainSets now → u16 (t.getSsthres >>> t.windShift) = t.congestionData.cwnd) ∧
        (t.DelaySets →
          (t.setSsthres t.getCwnd).congestionData.ssthresh = t.congestionData.ssthresh) := by
  obtain ⟨hack, hdelay, htrain, hnotrain⟩ := t.hystartAckTrain_spec now
  obtain ⟨-, hcwnd, hsets, hnotsets⟩ := (t.hystartAckTrain now).hystartDelay_spec delay
  have hssthresh : (t.hystartAckTrain now).congestionData.ssthresh =
      t.congestionData.ssthresh := by
    simp only [delayView, Prod.mk.injEq] at hdelay
    exact hdelay.2.2.2
  rw [delaySets_of_view hdelay] at hsets hnotsets
  rw [hcwnd]
  constructor
  · rintro ⟨hsame, hthresh⟩
    refine ⟨fun h => (htrain h).symm.trans hsame, fun h => ?_⟩
    rw [← setSsthres_getCwnd_of hack hsame, ← hsets h, hthresh]
  · rintro ⟨hkeepsTrain, hkeepsDelay⟩
    have hsame : (t.hystartAckTrain now).congestionData.cwnd = t.congestionData.cwnd := by
      by_cases h : t.TrainSets now
      · exact (htrain h).trans (hkeepsTrain h)
      · exact hnotrain h
    refine ⟨hsame, ?_⟩
    by_cases h : t.DelaySets
    · rw [hsets h, setSsthres_getCwnd_of hack hsame, hkeepsDelay h]
    · rw [hnotsets h, hssthresh]

theorem cubictcpAcked_kept_iff (t : Tcb) (dEventTime : Nat) :
    ((t.cubictcpAcked dEventTime).congestionData.cwnd = t.congestionData.cwnd ∧
        (t.cubictcpAcked dEventTime).congestionData.ssthresh = t.congestionData.ssthresh) ↔
      t.HystartKeeps dEventTime := by
  unfold HystartKeeps HystartRuns cubictcpAcked
  split
  · next hstart =>
    rw [and_iff_right hstart]
    unfold hystartUpdate
    split
    · next hfound => exact iff_of_true ⟨rfl, rfl⟩ fun h => absurd h hfound
    · next hfound =>
      rw [forall_prop_of_true (not_not.1 hfound)]
      exact hystartUpdate_kept_iff t _ _
  · next hstart => exact iff_of_true ⟨rfl, rfl⟩ fun h => absurd h.1 hstart

theorem ackView_cubictcpAcked (t : Tcb) (dEventTime : Nat) :
    (t.cubictcpAcked dEventTime).ackView = t.ackView := by
  unfold cubictcpAcked
  split
  · unfold hystartUpdate
    split
    · rfl
    · exact (hystartDelay_spec _ _).1.trans (hystartAckTrain_spec _ _).1
  · rfl

/-! ## `cubictcp_cong_avoid` -/

/-- `cubictcp_cong_avoid` adds a segment outside slow start. -/
def CubicPays (t : Tcb) (dEventTime : Nat) : Prop :=
  0 < t.segmentAcked ∧
    (t.cubicUpdated dEventTime t.segmentAcked).congestionData.cubic.cnt <
      (t.cubicUpdated dEventTime t.segmentAcked).congestionData.cubic.cwndcnt

def CubicKeeps (t : Tcb) (dEventTime : Nat) : Prop :=
  if t.inSlowStart then
    t.HystartKeeps dEventTime ∧ t.SumLt (min t.ackedBytes t.congestionData.SMSS) ∧
      t.CubicNoRoom (min t.ackedBytes t.congestionData.SMSS)
  else
    t.CubicPays dEventTime → t.SumLt t.congestionData.SMSS ∧ t.CubicNoRoom t.congestionData.SMSS

theorem wnd_of_ackView (hview : t'.ackView = t.ackView)
    (hcwnd : t'.congestionData.cwnd = t.congestionData.cwnd) : t'.wnd = t.wnd := by
  simp only [ackView, Prod.mk.injEq] at hview
  obtain ⟨hsmss, hscaling, hshift, -, -⟩ := hview
  rw [wnd, hcwnd, hsmss, hscaling, hshift, wnd]

theorem acked_of_ackView (hview : t'.ackView = t.ackView) :
    t'.segmentAcked = t.segmentAcked ∧ t'.ackedBytes = t.ackedBytes ∧
      t'.congestionData.SMSS = t.congestionData.SMSS ∧
      t'.isWindowScaling = t.isWindowScaling := by
  simp only [ackView, Prod.mk.injEq] at hview
  obtain ⟨hsmss, hscaling, -, hack, huna⟩ := hview
  rw [segmentAcked, ackedBytes, getMSS, hack, huna, hsmss, hscaling]
  exact ⟨rfl, rfl, rfl, rfl⟩

theorem inSlowStart_of_ackView (hview : t'.ackView = t.ackView)
    (hcwnd : t'.congestionData.cwnd = t.congestionData.cwnd)
    (hssthresh : t'.congestionData.ssthresh = t.congestionData.ssthresh) :
    t'.inSlowStart = t.inSlowStart := by
  have hget := getCwnd_of_wnd (wnd_of_ackView hview hcwnd)
  simp only [ackView, Prod.mk.injEq] at hview
  obtain ⟨-, hscaling, hshift, -, -⟩ := hview
  rw [inSlowStart, hget, getSsthres, hscaling, hshift, hssthresh, inSlowStart, getSsthres]

theorem cubicBehind_spec (t : Tcb) (dEventTime : Nat) :
    (t.cubicBehind dEventTime).ackView = t.ackView ∧
      (t.cubicBehind dEventTime).congestionData.ssthresh = t.congestionData.ssthresh ∧
      (t.cubicBehind dEventTime).congestionData.cwnd =
        if t.inSlowStart then
          (t.cubicIncreaseCwnd (min t.ackedBytes t.congestionData.SMSS)).congestionData.cwnd
        else t.congestionData.cwnd := by
  have hstart (t' : Tcb) : t'.cubicSlowStart.ackView = t'.ackView ∧
      t'.cubicSlowStart.congestionData.ssthresh = t'.congestionData.ssthresh := by
    obtain ⟨cwnd, hframe⟩ := t'.cubicIncreaseCwnd_frame (min t'.ackedBytes t'.congestionData.SMSS)
    rw [cubicSlowStart, hframe]
    exact ⟨rfl, rfl⟩
  unfold cubicBehind cubicSlowStarted
  split
  · split
    · refine ⟨(hstart _).1, (hstart _).2, ?_⟩
      refine cubicIncreaseCwnd_of_wnd (t := t) ?_ _
      rfl
    · exact ⟨(hstart t).1, (hstart t).2, rfl⟩
  · exact ⟨rfl, rfl, rfl⟩

theorem cubicPaid_cwnd (t : Tcb) :
    t.cubicPaid.congestionData.cwnd =
      if t.congestionData.cubic.cnt < t.congestionData.cubic.cwndcnt then
        (t.cubicIncreaseCwnd t.congestionData.SMSS).congestionData.cwnd
      else t.congestionData.cwnd := by
  unfold cubicPaid
  split
  · rfl
  · rfl

theorem wnd_cubicUpdated (t : Tcb) (dEventTime acked : Nat) :
    (t.cubicUpdated dEventTime acked).wnd = t.wnd :=
  (cubictcpUpdate_frame dEventTime acked
    (t.mapCubic fun ca => { ca with cwndcnt := u32 (ca.cwndcnt + acked) })).1

theorem cubictcpCongAvoid_cwnd (hin : ¬t.inSlowStart = true) (dEventTime : Nat) :
    (t.CubicPays dEventTime →
        (t.cubictcpCongAvoid dEventTime t.segmentAcked).congestionData.cwnd =
          (t.cubicIncreaseCwnd t.congestionData.SMSS).congestionData.cwnd) ∧
      (¬t.CubicPays dEventTime →
        (t.cubictcpCongAvoid dEventTime t.segmentAcked).congestionData.cwnd =
          t.congestionData.cwnd) := by
  have hbehind : t.cubicBehind dEventTime = t := by
    unfold cubicBehind cubicSlowStarted
    rw [if_neg hin]
  have hcredit : t.cubicCredit dEventTime = t.segmentAcked := by
    rw [cubicCredit, hbehind, creditBehind, if_neg hin, if_neg hin]
  have hwnd := wnd_cubicUpdated t dEventTime t.segmentAcked
  have hgrown := cubicIncreaseCwnd_of_wnd hwnd t.congestionData.SMSS
  simp only [wnd, Prod.mk.injEq] at hwnd
  obtain ⟨hcwnd, hsmss, -, -⟩ := hwnd
  rw [cubictcpCongAvoid_eq, hcredit, hbehind]
  constructor
  · rintro ⟨hpos, hlt⟩
    rw [if_pos hpos, cubicPaid_cwnd, if_pos hlt, hsmss, hgrown]
  · intro hpays
    split
    · next hpos => rw [cubicPaid_cwnd, if_neg fun hlt => hpays ⟨hpos, hlt⟩, hcwnd]
    · rfl

theorem cubictcpCongAvoid_of_noRoom (hin : t.inSlowStart = true) (dEventTime : Nat)
    (hsame : (t.cubicIncreaseCwnd (min t.ackedBytes t.congestionData.SMSS)).congestionData.cwnd =
      t.congestionData.cwnd) :
    (t.cubictcpCongAvoid dEventTime t.segmentAcked).congestionData.cwnd =
      t.congestionData.cwnd := by
  obtain ⟨hview, hssthresh, hcwnd⟩ := t.cubicBehind_spec dEventTime
  rw [if_pos hin, hsame] at hcwnd
  have hstays : (t.cubicBehind dEventTime).inSlowStart = true :=
    (inSlowStart_of_ackView hview hcwnd hssthresh).trans hin
  have hcredit : t.cubicCredit dEventTime = 0 := by
    rw [cubicCredit, creditBehind, if_pos hstays]
  rw [cubictcpCongAvoid_eq, hcredit, if_neg (Nat.lt_irrefl 0), hcwnd]

def cubicNewAck (t : Tcb) (dEventTime : Nat) : Tcb :=
  (t.cubictcpAcked dEventTime).cubictcpCongAvoid dEventTime t.segmentAcked

theorem cubicNewAck_ssthresh (t : Tcb) (dEventTime : Nat) :
    (t.cubicNewAck dEventTime).congestionData.ssthresh =
      (t.cubictcpAcked dEventTime).congestionData.ssthresh :=
  congrArg Prod.fst ((t.cubictcpAcked dEventTime).kept_cubictcpCongAvoid dEventTime t.segmentAcked)

theorem cubictcpAcked_of_not_slowStart (hin : ¬t.inSlowStart = true) (dEventTime : Nat) :
    t.cubictcpAcked dEventTime = t := by
  unfold cubictcpAcked
  rw [if_neg]
  intro h
  exact hin (Bool.and_eq_true_iff.1 h).1

theorem cubicNewAck_kept (hfits : t.Fits) (dEventTime : Nat) (h : t.CubicKeeps dEventTime) :
    (t.cubicNewAck dEventTime).congestionData.cwnd = t.congestionData.cwnd ∧
      (t.cubicNewAck dEventTime).congestionData.ssthresh = t.congestionData.ssthresh := by
  rw [cubicNewAck_ssthresh]
  unfold CubicKeeps at h
  by_cases hin : t.inSlowStart = true
  · rw [if_pos hin] at h
    obtain ⟨hhystart, hroom⟩ := h
    obtain ⟨hcwnd, hssthresh⟩ := (t.cubictcpAcked_kept_iff dEventTime).2 hhystart
    have hview := t.ackView_cubictcpAcked dEventTime
    obtain ⟨hseg, hbytes, hsmss, -⟩ := acked_of_ackView hview
    have hwnd := wnd_of_ackView hview hcwnd
    have hsame := (cubicIncreaseCwnd_kept_iff hfits.cwnd_lt (ackedBytes_lt t)).2 hroom
    refine ⟨?_, hssthresh⟩
    rw [cubicNewAck, ← hseg, ← hcwnd]
    apply cubictcpCongAvoid_of_noRoom ((inSlowStart_of_ackView hview hcwnd hssthresh).trans hin)
    rw [cubicIncreaseCwnd_of_wnd hwnd, hbytes, hsmss, hsame, hcwnd]
  · rw [if_neg hin] at h
    rw [cubicNewAck, cubictcpAcked_of_not_slowStart hin]
    refine ⟨?_, rfl⟩
    obtain ⟨hpays, hkeeps⟩ := cubictcpCongAvoid_cwnd hin dEventTime
    by_cases hpay : t.CubicPays dEventTime
    · rw [hpays hpay, cubicIncreaseCwnd_kept_iff hfits.cwnd_lt hfits.smss_lt]
      exact h hpay
    · exact hkeeps hpay

/-! ## The converse without window scaling -/

theorem le_cubicIncreaseCwnd (hscaling : ¬t.isWindowScaling = true)
    (hcwnd : t.congestionData.cwnd < 2 ^ 16) (n : Nat) :
    t.congestionData.cwnd ≤ (t.cubicIncreaseCwnd n).congestionData.cwnd := by
  rw [cubicIncreaseCwnd_unscaled hscaling, withCwnd_cwnd]
  exact le_grownCwnd hcwnd n

theorem cubictcpAcked_cwnd (t : Tcb) (dEventTime : Nat) :
    (t.cubictcpAcked dEventTime).congestionData.cwnd = t.congestionData.cwnd ∨
      t.inSlowStart = true ∧ (t.cubictcpAcked dEventTime).congestionData.cwnd =
        u16 (t.getSsthres >>> t.windShift) := by
  unfold cubictcpAcked
  split
  · next hstart =>
    unfold hystartUpdate
    split
    · exact .inl rfl
    · obtain ⟨-, -, htrain, hnotrain⟩ := t.hystartAckTrain_spec (cubictcpClock dEventTime)
      rw [(hystartDelay_spec _ _).2.1]
      by_cases h : t.TrainSets (cubictcpClock dEventTime)
      · exact .inr ⟨(Bool.and_eq_true_iff.1 hstart).1, htrain h⟩
      · exact .inl (hnotrain h)
  · exact .inl rfl

theorem le_cubictcpAcked (hfits : t.Fits) (hscaling : ¬t.isWindowScaling = true)
    (dEventTime : Nat) :
    t.congestionData.cwnd ≤ (t.cubictcpAcked dEventTime).congestionData.cwnd ∧
      (t.cubictcpAcked dEventTime).congestionData.cwnd < 2 ^ 16 := by
  have hcwnd : t.getCwnd = t.congestionData.cwnd := if_neg hscaling
  have hssthresh : t.getSsthres = t.congestionData.ssthresh := if_neg hscaling
  have hlt := hfits.cwnd_lt
  rcases t.cubictcpAcked_cwnd dEventTime with hsame | ⟨hin, hset⟩
  · omega
  · rw [inSlowStart_iff, hcwnd, hssthresh] at hin
    rw [hset, windShift_of_not_scaling hscaling, Nat.shiftRight_zero, hssthresh,
      u16_of_lt hfits.ssthresh_lt]
    exact ⟨hin, hfits.ssthresh_lt⟩

theorem le_cubictcpCongAvoid (hscaling : ¬t.isWindowScaling = true)
    (hcwnd : t.congestionData.cwnd < 2 ^ 16) (dEventTime : Nat) :
    (t.cubicBehind dEventTime).congestionData.cwnd ≤
      (t.cubictcpCongAvoid dEventTime t.segmentAcked).congestionData.cwnd := by
  obtain ⟨hview, -, hbehind⟩ := t.cubicBehind_spec dEventTime
  have hlt : (t.cubicBehind dEventTime).congestionData.cwnd < 2 ^ 16 := by
    rw [hbehind]
    split
    · exact cubicIncreaseCwnd_lt t _
    · exact hcwnd
  rw [cubictcpCongAvoid_eq]
  split
  · have hwnd := wnd_cubicUpdated (t.cubicBehind dEventTime) dEventTime (t.cubicCredit dEventTime)
    simp only [wnd, Prod.mk.injEq] at hwnd
    obtain ⟨hcwnd', -, hscaling', -⟩ := hwnd
    rw [cubicPaid_cwnd, ← hcwnd']
    split
    · apply le_cubicIncreaseCwnd
      · rw [hscaling', (acked_of_ackView hview).2.2.2]
        exact hscaling
      · exact hlt
    · exact Nat.le_refl _
  · exact Nat.le_refl _

theorem cubicKeeps_of_kept (hfits : t.Fits)
    (hwraps : t.inSlowStart = true → ¬t.isWindowScaling = true) (dEventTime : Nat)
    (hcwnd : (t.cubicNewAck dEventTime).congestionData.cwnd = t.congestionData.cwnd)
    (hssthresh : (t.cubicNewAck dEventTime).congestionData.ssthresh =
      t.congestionData.ssthresh) : t.CubicKeeps dEventTime := by
  unfold CubicKeeps
  by_cases hin : t.inSlowStart = true
  · rw [if_pos hin, ← cubicIncreaseCwnd_kept_iff hfits.cwnd_lt (ackedBytes_lt t),
      ← cubictcpAcked_kept_iff]
    have hscaling := hwraps hin
    have hview := t.ackView_cubictcpAcked dEventTime
    obtain ⟨hseg, hbytes, hsmss, hscaling'⟩ := acked_of_ackView hview
    obtain ⟨hle, hlt⟩ := le_cubictcpAcked hfits hscaling dEventTime
    have hscaled : ¬(t.cubictcpAcked dEventTime).isWindowScaling = true := by rwa [hscaling']
    have hlast := le_cubictcpCongAvoid hscaled hlt dEventTime
    rw [hseg] at hlast
    have hlast' : ((t.cubictcpAcked dEventTime).cubicBehind dEventTime).congestionData.cwnd ≤
        t.congestionData.cwnd := hlast.trans hcwnd.le
    obtain ⟨-, -, hbehind⟩ := (t.cubictcpAcked dEventTime).cubicBehind_spec dEventTime
    have hmiddle : (t.cubictcpAcked dEventTime).congestionData.cwnd ≤
        ((t.cubictcpAcked dEventTime).cubicBehind dEventTime).congestionData.cwnd := by
      rw [hbehind]
      split
      · exact le_cubicIncreaseCwnd hscaled hlt _
      · exact Nat.le_refl _
    -- the window has not moved on the way
    have hsame : (t.cubictcpAcked dEventTime).congestionData.cwnd = t.congestionData.cwnd := by
      omega
    rw [cubicNewAck_ssthresh] at hssthresh
    refine ⟨⟨hsame, hssthresh⟩, ?_⟩
    rw [if_pos ((inSlowStart_of_ackView hview hsame hssthresh).trans hin), hbytes, hsmss,
      cubicIncreaseCwnd_of_wnd (wnd_of_ackView hview hsame)] at hbehind
    omega
  · rw [if_neg hin, ← cubicIncreaseCwnd_kept_iff hfits.cwnd_lt hfits.smss_lt]
    intro hpay
    rw [cubicNewAck, cubictcpAcked_of_not_slowStart hin] at hcwnd
    rw [← (cubictcpCongAvoid_cwnd hin dEventTime).1 hpay, hcwnd]

end Tcb

end NetSim.Tcp
