import NetSim.Tcp.Handled

/-!
# The window of one segment (`Congestion.c`, `CUBIC.c`, `TCP_Outgoing.c`)

`send_segment` asserts that the congestion window holds one segment, but what is written to the
window loses the bits below the shift and those beyond the sixteenth. `AckSafe` and `HoldsSegment`
say which values still do.
-/

namespace NetSim.Tcp

/-- What is left of `n` when a `UINT16` holds its bits above the shift `s`. -/
def kept (s n : Nat) : Nat := u16 (n >>> s) <<< s

theorem kept_lt {s : Nat} (hs : s ≤ 14) (n : Nat) : kept s n < 2 ^ 30 := by
  have hlt : u16 (n >>> s) < 2 ^ 16 := Nat.mod_lt _ (by decide)
  have hpow : 2 ^ s ≤ 2 ^ 14 := Nat.pow_le_pow_right (by decide) hs
  unfold kept
  rw [Nat.shiftLeft_eq]
  calc u16 (n >>> s) * 2 ^ s ≤ u16 (n >>> s) * 2 ^ 14 := Nat.mul_le_mul_left _ hpow
    _ < 2 ^ 16 * 2 ^ 14 := Nat.mul_lt_mul_of_pos_right hlt (by decide)
    _ = 2 ^ 30 := by decide

namespace Tcb

/-- `set_cwnd n` leaves a window of at least one segment. A scaled window is at least one unit. -/
def HoldsSegment (t : Tcb) (n : Nat) : Prop :=
  t.congestionData.SMSS ≤ kept t.windShift n ∨
    t.isWindowScaling = true ∧ t.congestionData.SMSS ≤ 2 ^ t.sndWindShift

structure Wide (t : Tcb) : Prop where
  shift_le : t.sndWindShift ≤ 14
  cwnd_lt : t.congestionData.cwnd < 2 ^ 16
  smss_lt : t.congestionData.SMSS < 2 ^ 16
  smss_le : t.congestionData.SMSS ≤ t.windowScaleGetCwnd

def wnd (t : Tcb) : Nat × Nat × Bool × Nat :=
  (t.congestionData.cwnd, t.congestionData.SMSS, t.isWindowScaling, t.sndWindShift)

variable {t : Tcb}

theorem Wide.of_wnd {t' : Tcb} (h : Wide t) (hw : t'.wnd = t.wnd) : Wide t' := by
  simp only [wnd, Prod.mk.injEq] at hw
  obtain ⟨hcwnd, hsmss, hscaling, hshift⟩ := hw
  obtain ⟨h1, h2, h3, h4⟩ := h
  refine ⟨by rwa [hshift], by rwa [hcwnd], by rwa [hsmss], ?_⟩
  unfold windowScaleGetCwnd getWND at h4 ⊢
  rwa [hsmss, hscaling, hcwnd, hshift]

theorem shiftLeft_lt {cwnd s : Nat} (hcwnd : cwnd < 2 ^ 16) (hs : s ≤ 14) : cwnd <<< s < 2 ^ 30 := by
  have h := kept_lt hs (cwnd <<< s)
  unfold kept at h
  have hback : (cwnd <<< s) >>> s = cwnd := by
    rw [Nat.shiftLeft_eq, Nat.shiftRight_eq_div_pow, Nat.mul_div_cancel _ (Nat.two_pow_pos _)]
  rwa [hback, u16, Nat.mod_eq_of_lt hcwnd] at h

theorem windowScaleGetCwnd_eq (hs : t.sndWindShift ≤ 14) (hcwnd : t.congestionData.cwnd < 2 ^ 16) :
    t.windowScaleGetCwnd = t.congestionData.cwnd <<< t.windShift := by
  have hlt := shiftLeft_lt hcwnd hs
  unfold windowScaleGetCwnd windShift getWND
  split
  · exact u32_of_lt (by omega)
  · rfl

theorem Wide.withCwnd (hs : t.sndWindShift ≤ 14) (hsmss : t.congestionData.SMSS < 2 ^ 16)
    {cwnd : Nat} (hcwnd : cwnd < 2 ^ 16) (hle : t.congestionData.SMSS ≤ cwnd <<< t.windShift) :
    Wide (t.withCwnd cwnd) := by
  refine ⟨hs, hcwnd, hsmss, ?_⟩
  have heq : (t.withCwnd cwnd).windowScaleGetCwnd = cwnd <<< t.windShift :=
    windowScaleGetCwnd_eq (t := t.withCwnd cwnd) hs hcwnd
  rw [heq]
  exact hle

theorem wide_setCwnd (hs : t.sndWindShift ≤ 14) (hsmss : t.congestionData.SMSS < 2 ^ 16)
    {n : Nat} (hn : t.HoldsSegment n) : Wide (t.setCwnd n) := by
  have hlt : ∀ m, u16 m < 2 ^ 16 := fun m => Nat.mod_lt _ (by decide)
  unfold HoldsSegment at hn
  unfold setCwnd
  split
  · next hscaling =>
    have hshift : t.windShift = t.sndWindShift := by rw [windShift, if_pos hscaling]
    dsimp only
    split
    · next hzero =>
      apply Wide.withCwnd hs hsmss (by decide)
      rw [hshift] at hn ⊢
      rw [Nat.one_shiftLeft]
      rcases hn with hle | ⟨-, hle⟩
      · rw [kept, hzero, Nat.zero_shiftLeft] at hle
        exact Nat.le_trans hle (Nat.zero_le _)
      · exact hle
    · next hne =>
      apply Wide.withCwnd hs hsmss (hlt _)
      rw [hshift] at hn ⊢
      rcases hn with hle | ⟨-, hle⟩
      · exact hle
      · apply Nat.le_trans hle
        rw [Nat.shiftLeft_eq]
        exact Nat.le_mul_of_pos_left _ (Nat.pos_of_ne_zero hne)
  · next hscaling =>
    have hshift : t.windShift = 0 := by rw [windShift, if_neg hscaling]
    apply Wide.withCwnd hs hsmss (hlt _)
    rw [hshift] at hn ⊢
    rcases hn with hle | ⟨hscaling', -⟩
    · exact hle
    · exact absurd hscaling' hscaling

theorem Wide.increaseCwnd (h : Wide t) {increase : Nat} (hincrease : increase < 2 ^ 16) :
    Wide (t.increaseCwnd increase) := by
  have hle := h.smss_le
  rw [windowScaleGetCwnd_eq h.shift_le h.cwnd_lt] at hle
  have hgrows : ∀ cwnd, t.congestionData.cwnd ≤ cwnd → cwnd < 2 ^ 16 → Wide (t.withCwnd cwnd) := by
    intro cwnd hcwnd hlt
    apply Wide.withCwnd h.shift_le h.smss_lt hlt
    apply Nat.le_trans hle
    rw [Nat.shiftLeft_eq, Nat.shiftLeft_eq]
    exact Nat.mul_le_mul_right _ hcwnd
  have hcwnd := h.cwnd_lt
  unfold Tcb.increaseCwnd
  split
  · next hscaling =>
    dsimp only
    have hlt := shiftLeft_lt hcwnd h.shift_le
    have hshift : t.windShift = t.sndWindShift := by rw [windShift, if_pos hscaling]
    have hle : t.congestionData.cwnd ≤
        u32 (t.windowScaleGetCwnd + increase) >>> t.sndWindShift := by
      rw [windowScaleGetCwnd_eq h.shift_le hcwnd, hshift, u32_of_lt (by omega), Nat.shiftLeft_eq,
        Nat.shiftRight_eq_div_pow, Nat.le_div_iff_mul_le (Nat.two_pow_pos _)]
      exact Nat.le_add_right _ _
    split
    · exact hgrows _ (by omega) (by decide)
    · exact hgrows _ hle (by omega)
  · dsimp only
    split
    · exact hgrows _ (by omega) (by decide)
    · exact hgrows _ (Nat.le_add_right _ _) (by omega)

/-- `increase_cwnd` of CUBIC leaves a window of at least one segment: unscaled it saturates. -/
def CubicRoom (t : Tcb) (increase : Nat) : Prop :=
  t.isWindowScaling = true →
    t.congestionData.SMSS ≤ kept t.sndWindShift (t.windowScaleGetCwnd + increase)

theorem wide_cubicSetCwnd (hs : t.sndWindShift ≤ 14)
    (hsmss : t.congestionData.SMSS < 2 ^ 16) {n : Nat}
    (hn : t.congestionData.SMSS ≤ kept t.windShift n) : Wide (t.cubicSetCwnd n) := by
  have hlt : ∀ m, u16 m < 2 ^ 16 := fun m => Nat.mod_lt _ (by decide)
  unfold cubicSetCwnd
  split
  · next hscaling =>
    have hshift : t.windShift = t.sndWindShift := by rw [windShift, if_pos hscaling]
    apply Wide.withCwnd hs hsmss (hlt _)
    rw [hshift] at hn ⊢
    exact hn
  · next hscaling =>
    have hshift : t.windShift = 0 := by rw [windShift, if_neg hscaling]
    apply Wide.withCwnd hs hsmss (hlt _)
    rw [hshift] at hn ⊢
    exact hn

theorem Wide.cubicIncreaseCwnd (h : Wide t) {increase : Nat}
    (hincrease : increase < 2 ^ 16) (hroom : t.CubicRoom increase) :
    Wide (t.cubicIncreaseCwnd increase) := by
  unfold Tcb.cubicIncreaseCwnd
  split
  · next hscaling =>
    have hle := hroom hscaling
    have hlt := shiftLeft_lt h.cwnd_lt h.shift_le
    have hshift : t.windShift = t.sndWindShift := by rw [windShift, if_pos hscaling]
    have hwindow := windowScaleGetCwnd_eq h.shift_le h.cwnd_lt
    rw [hshift] at hwindow
    apply Wide.withCwnd h.shift_le h.smss_lt (Nat.mod_lt _ (by decide))
    rw [hshift, u32_of_lt (by omega)]
    exact hle
  · next hscaling =>
    have heq : t.increaseCwnd increase = t.withCwnd
        (if 65535 ≤ t.congestionData.cwnd + increase then 65535
          else t.congestionData.cwnd + increase) := by
      unfold Tcb.increaseCwnd
      rw [if_neg hscaling]
    rw [← heq]
    exact h.increaseCwnd hincrease

end Tcb

/-! ## The sending functions -/

/-- The window of the connection holds one segment, and did so whenever `send_segment` ran. -/
structure Conn.Wide (c : Conn) : Prop where
  tcb : c.tcb.Wide
  windows : ∀ w ∈ c.windows, w.2 ≤ w.1

namespace Conn.Wide

variable {s s' : Conn}

section

variable (h : s.Wide)

include h

theorem of_eq (hwnd : s'.tcb.wnd = s.tcb.wnd) (hwindows : s'.windows = s.windows) : s'.Wide :=
  ⟨h.tcb.of_wnd hwnd, by rw [hwindows]; exact h.windows⟩

theorem changeState (state : TcpState) : (s.changeState state).Wide := by
  obtain ⟨prev, heq⟩ := s.changeState_eq state
  rw [heq]
  exact h.of_eq rfl rfl

theorem openWindow : s.openWindow.Wide := by
  refine ⟨h.tcb.of_wnd rfl, ?_⟩
  intro w hw
  rcases List.mem_append.1 hw with hw | hw
  · exact h.windows w hw
  · obtain rfl := List.mem_singleton.1 hw
    exact h.tcb.smss_le

theorem sendLoop {l : List AppPacket} : (s.sendLoop l).Wide := by
  induction l generalizing s with
  | nil => exact h.of_eq rfl rfl
  | cons p rest ih =>
    unfold Conn.sendLoop
    split
    · have hsent : (s.sendPacket p).Wide := h.of_eq rfl rfl
      exact ih hsent
    · exact h.of_eq rfl rfl

theorem tcpClose : s.tcpClose.Wide := by
  unfold Conn.tcpClose
  split
  · exact h
  · have hfin : s.sendFin.Wide := h.of_eq rfl rfl
    exact hfin.changeState _

theorem sendSegment : s.sendSegment.Wide := by
  unfold Conn.sendSegment
  have hwait : (if s.sId = [] then { s with waitFromApp := true } else s).Wide := by
    split
    · exact h.of_eq rfl rfl
    · exact h
  generalize (if s.sId = [] then { s with waitFromApp := true } else s) = s1 at hwait ⊢
  dsimp only
  split
  · exact hwait.openWindow.sendLoop.tcpClose
  · exact hwait.openWindow.sendLoop

theorem resendSegmentWithoutTimeout (seq : Nat) : (s.resendSegmentWithoutTimeout seq).Wide := by
  unfold Conn.resendSegmentWithoutTimeout
  split
  · exact h
  · split
    · exact h
    · exact h.of_eq rfl rfl

theorem sackNextSeg : s.sackNextSeg.2.Wide := by
  unfold Conn.sackNextSeg
  dsimp only
  split
  · exact h
  · split <;> exact h.of_eq rfl rfl

theorem sackFastRetransmit : s.sackFastRetransmit.Wide := by
  unfold Conn.sackFastRetransmit
  split
  · exact h.of_eq rfl rfl
  · exact h

end

theorem lossRecoveryLoop (wnd mss : Nat) :
    ∀ (rounds pipe : Nat) (s : Conn), s.Wide → (Conn.lossRecoveryLoop wnd mss rounds pipe s).Wide := by
  intro rounds
  induction rounds with
  | zero => exact fun _ _ h => h
  | succ rounds ih =>
    intro pipe s h
    have hnext := h.sackNextSeg
    unfold Conn.lossRecoveryLoop
    split
    · exact h
    · split
      · next s' heq =>
        rw [heq] at hnext
        exact hnext
      · next nextSeg s' heq =>
        rw [heq] at hnext
        split
        · apply ih
          exact (hnext.resendSegmentWithoutTimeout nextSeg).of_eq rfl rfl
        · apply ih
          exact hnext.sendSegment.of_eq rfl rfl

theorem sackLossRecoveryPhase (h : s.Wide) : s.sackLossRecoveryPhase.2.Wide := by
  unfold Conn.sackLossRecoveryPhase
  split
  · exact h
  · apply lossRecoveryLoop
    exact h.of_eq rfl rfl

theorem enterRecovery (h : s.Wide) (isFastRecovery : Bool) : (s.enterRecovery isFastRecovery).Wide := by
  unfold Conn.enterRecovery
  have hresend := h.resendSegmentWithoutTimeout s.tcb.SEG.ACK
  dsimp only
  generalize s.resendSegmentWithoutTimeout s.tcb.SEG.ACK = s1 at hresend ⊢
  have hflag : (s1.mapTcb (·.mapCongestion fun c => { c with
      isFastRecovery := isFastRecovery })).Wide := hresend.of_eq rfl rfl
  split
  · exact hflag.sackFastRetransmit.of_eq rfl rfl
  · exact hflag

theorem stayInRecovery (h : s.Wide) : s.stayInRecovery.Wide := by
  unfold Conn.stayInRecovery
  split
  · exact h.sackLossRecoveryPhase.of_eq rfl rfl
  · exact h

theorem mapTcb (h : s.Wide) {f : Tcb → Tcb} (hf : (f s.tcb).Wide) : (s.mapTcb f).Wide :=
  ⟨hf, h.windows⟩

end Conn.Wide

/-! ## The condition on an acknowledgment -/

namespace Tcb

def lossThreshold (t : Tcb) : Nat := max (t.flightSize / 2) (2 * t.congestionData.SMSS)

/-- The window that a fast retransmit sets after it has set the threshold to `n`. -/
def inflated (t : Tcb) (n : Nat) : Nat :=
  kept t.windShift n + tcpDupThresh * t.congestionData.SMSS

def isThirdDupAck (t : Tcb) : Prop := u32 (t.congestionData.dupAckCount + 1) = tcpDupThresh

/-- The next duplicate acknowledgment lets the window grow: it is a later one, or the SACK option
reports a loss. -/
def growsOnDupAck (t : Tcb) : Prop :=
  let t := t.mapCongestion fun c => { c with dupAckCount := u32 (c.dupAckCount + 1) }
  ¬ t.congestionData.dupAckCount = tcpDupThresh ∧ (tcpDupThresh ≤ t.congestionData.dupAckCount ∨
    (t.isSackOption && t.sackIsLost (u32 (t.SND.UNA + 1))) = true)

def trainFound (dEventTime : Nat) (t : Tcb) : Prop :=
  let ca := t.congestionData.cubic
  let now := cubictcpClock dEventTime
  t.inSlowStart = true ∧ ca.hystartLowWindow ≤ t.segCwnd ∧ ca.found &&& 3 = 0 ∧
    toInt32 (sub32 now ca.lastAck) ≤ ca.hystartAckDelta ∧
    ca.delayMin >>> 4 < sub32 now ca.roundStart ∧ t.getSsthres ≠ ca.initialSsthresh

/-- The slow start of `cubictcp_cong_avoid`, with the segments that remain acknowledged. -/
def cubicSlowStarted (dEventTime segmentAcked : Nat) (t : Tcb) : Tcb × Nat :=
  if t.inSlowStart then
    let t :=
      if toInt32 (sub32 t.congestionData.cubic.endSeq t.SEG.ACK) < 0 then
        t.mapCubic (cubictcpHystartReset dEventTime t.SND.NXT)
      else t
    (t.cubicSlowStart, sub32 segmentAcked 1)
  else (t, segmentAcked)

/-- The update of `cubictcp_cong_avoid` outside slow start. -/
def cubicUpdated (dEventTime segmentAcked : Nat) (t : Tcb) : Tcb :=
  (t.mapCubic fun ca => { ca with cwndcnt := u32 (ca.cwndcnt + segmentAcked) }).cubictcpUpdate
    dEventTime segmentAcked

def cubicAdds (dEventTime segmentAcked : Nat) (t : Tcb) : Prop :=
  (!t.inSlowStart && 0 < segmentAcked) = true ∧
    (t.cubicUpdated dEventTime segmentAcked).congestionData.cubic.cnt <
      (t.cubicUpdated dEventTime segmentAcked).congestionData.cubic.cwndcnt

/-- The increases of `cubictcp_cong_avoid` leave room for a segment. -/
def CubicAvoidSafe (dEventTime segmentAcked : Nat) (t : Tcb) : Prop :=
  (t.inSlowStart = true → t.CubicRoom (min t.ackedBytes t.congestionData.SMSS)) ∧
    let (t, segmentAcked) := t.cubicSlowStarted dEventTime segmentAcked
    t.cubicAdds dEventTime segmentAcked → t.CubicRoom t.congestionData.SMSS

/-- What `ack_received` may write to `cwnd` holds a segment. -/
def AckSafe (dEventTime : Nat) (t : Tcb) : Prop :=
  let c := t.congestionData
  match t.variant with
  | .oldTahoe => True
  | .tahoe =>
    if t.isDupAck then t.isThirdDupAck → t.HoldsSegment (t.inflated t.lossThreshold)
    else c.dupAckCount ≠ 0 → t.HoldsSegment c.LW
  | .reno =>
    if t.isDupAck then t.isThirdDupAck → t.HoldsSegment (t.inflated t.lossThreshold)
    else c.isFastRecovery = true → t.HoldsSegment t.getSsthres
  | .newReno =>
    if t.isDupAck then t.isThirdDupAck → c.recover < sub32 t.SEG.ACK 1 →
      t.HoldsSegment (t.inflated t.lossThreshold)
    else c.isFastRecovery = true → c.recover ≤ t.SEG.ACK →
      t.HoldsSegment (min (u16 t.getSsthres) (max t.flightSize c.SMSS + c.SMSS))
  | .bic =>
    if t.isDupAck then t.isThirdDupAck →
      t.HoldsSegment (t.inflated (u16 t.bictcpRecalcSsthresh.1))
    else c.isFastRecovery = true → t.HoldsSegment t.getSsthres
  | .cubic =>
    if t.isDupAck then
      (t.isThirdDupAck → c.SMSS ≤ kept t.windShift
        (t.inflated (u32 (t.cubictcpRecalcSsthresh.1 * t.getMSS)))) ∧
      (t.growsOnDupAck → t.CubicRoom c.SMSS)
    else if c.isFastRecovery then c.SMSS ≤ kept t.windShift t.getSsthres
    else (t.trainFound dEventTime → c.SMSS ≤ kept t.windShift t.getSsthres) ∧
      (t.cubictcpAcked dEventTime).CubicAvoidSafe dEventTime
        (sub32 t.SEG.ACK t.SND.UNA / t.getMSS)

theorem getSsthres_setSsthres {t : Tcb} (hs : t.sndWindShift ≤ 14) (n : Nat) :
    (t.setSsthres n).getSsthres = kept t.windShift n := by
  unfold getSsthres setSsthres windShift kept
  dsimp only
  split
  · next hscaling =>
    have hlt := shiftLeft_lt (Nat.mod_lt (n >>> t.sndWindShift) (by decide : 0 < 2 ^ 16)) hs
    exact u32_of_lt (by unfold u16; omega)
  · rfl

theorem ackedBytes_lt (t : Tcb) : min t.ackedBytes t.congestionData.SMSS < 2 ^ 16 := by
  have : t.ackedBytes < 2 ^ 16 := Nat.mod_lt _ (by decide)
  omega

theorem holds_inflated {t t' : Tcb} (hw : t'.wnd = t.wnd) (n : Nat) :
    t'.HoldsSegment (t'.inflated n) ↔ t.HoldsSegment (t.inflated n) := by
  simp only [wnd, Prod.mk.injEq] at hw
  obtain ⟨-, hsmss, hscaling, hshift⟩ := hw
  unfold HoldsSegment inflated windShift
  rw [hsmss, hscaling, hshift]

theorem keeps_inflated {t t' : Tcb} (hw : t'.wnd = t.wnd) (n : Nat) :
    t'.congestionData.SMSS ≤ kept t'.windShift (t'.inflated n) ↔
      t.congestionData.SMSS ≤ kept t.windShift (t.inflated n) := by
  simp only [wnd, Prod.mk.injEq] at hw
  obtain ⟨-, hsmss, hscaling, hshift⟩ := hw
  unfold inflated windShift
  rw [hsmss, hscaling, hshift]

theorem wnd_bictcpRecalcSsthresh (t : Tcb) : t.bictcpRecalcSsthresh.2.wnd = t.wnd := by
  unfold bictcpRecalcSsthresh
  dsimp only
  split <;> rfl

namespace Wide

variable {t : Tcb}

theorem growCwnd (h : Wide t) (dEventTime : Nat) : Wide (t.growCwnd dEventTime) := by
  unfold Tcb.growCwnd
  split
  · exact h.increaseCwnd (ackedBytes_lt t)
  · unfold Tcb.congestionAvoidance
    dsimp only
    split
    · have hupdated : Wide (t.mapCongestion fun c => { c with lastWinUpdateTime := dEventTime }) :=
        h.of_wnd rfl
      exact hupdated.increaseCwnd (ackedBytes_lt t)
    · exact h

theorem restart_eq (h : Wide t) (n : Nat) :
    u32 ((t.setSsthres n).getSsthres + tcpDupThresh * (t.setSsthres n).congestionData.SMSS) =
      t.inflated n := by
  have hshift : t.windShift ≤ 14 := by
    have := h.shift_le
    unfold windShift
    split <;> omega
  have hkept := kept_lt hshift n
  have hsmss := h.smss_lt
  rw [getSsthres_setSsthres h.shift_le]
  apply u32_of_lt
  change kept t.windShift n + 3 * t.congestionData.SMSS < 2 ^ 32
  omega

theorem inflate (h : Wide t) {n : Nat} (hn : t.HoldsSegment (t.inflated n)) :
    Wide ((t.setSsthres n).setCwnd
      (u32 ((t.setSsthres n).getSsthres + tcpDupThresh * (t.setSsthres n).congestionData.SMSS))) := by
  have hset : Wide (t.setSsthres n) := h.of_wnd rfl
  apply wide_setCwnd hset.shift_le hset.smss_lt
  rw [h.restart_eq n]
  exact hn

theorem bictcpCongAvoid (h : Wide t) (dEventTime segmentAcked : Nat) :
    Wide (t.bictcpCongAvoid dEventTime segmentAcked) := by
  unfold Tcb.bictcpCongAvoid
  have hpair : Wide (if t.inSlowStart then (t.slowStart, sub32 segmentAcked 1)
      else (t, segmentAcked)).1 := by
    split
    · exact h.increaseCwnd (ackedBytes_lt t)
    · exact h
  generalize (if t.inSlowStart then (t.slowStart, sub32 segmentAcked 1)
    else (t, segmentAcked)) = pair at hpair ⊢
  obtain ⟨t1, acked⟩ := pair
  dsimp only at hpair ⊢
  split
  · have hupdate : Wide ((t1.mapCongestion fun c => { c with bic := { c.bic with
        cwndcnt := u32 (c.bic.cwndcnt + acked) } }).bictcpUpdate dEventTime) := by
      have hwnd : ((t1.mapCongestion fun c => { c with bic := { c.bic with
          cwndcnt := u32 (c.bic.cwndcnt + acked) } }).bictcpUpdate dEventTime).wnd = t1.wnd := by
        unfold Tcb.bictcpUpdate wnd Tcb.mapCongestion
        dsimp only
        split <;> rfl
      exact hpair.of_wnd hwnd
    split
    · exact (hupdate.increaseCwnd hupdate.smss_lt).of_wnd rfl
    · exact hupdate
  · exact hpair

/-! ### CUBIC -/

theorem hystartAckTrain (h : Wide t) {now : Nat}
    (htrain : toInt32 (sub32 now t.congestionData.cubic.lastAck) ≤
        t.congestionData.cubic.hystartAckDelta →
      t.congestionData.cubic.delayMin >>> 4 < sub32 now t.congestionData.cubic.roundStart →
      t.getSsthres ≠ t.congestionData.cubic.initialSsthresh →
      t.congestionData.SMSS ≤ kept t.windShift t.getSsthres) : Wide (t.hystartAckTrain now) := by
  unfold Tcb.hystartAckTrain
  dsimp only
  split
  · next hlast =>
    split
    · next hround =>
      split
      · next hne =>
        apply wide_cubicSetCwnd
        · exact h.shift_le
        · exact h.smss_lt
        · exact htrain hlast hround hne
      · exact h.of_wnd rfl
    · exact h.of_wnd rfl
  · exact h

theorem hystartDelay (h : Wide t) (delay : Nat) : Wide (t.hystartDelay delay) := by
  unfold Tcb.hystartDelay
  dsimp only
  split
  · exact h.of_wnd rfl
  · split
    · exact h.of_wnd rfl
    · exact h

theorem cubictcpAcked (h : Wide t) {dEventTime : Nat}
    (htrain : t.trainFound dEventTime → t.congestionData.SMSS ≤ kept t.windShift t.getSsthres) :
    Wide (t.cubictcpAcked dEventTime) := by
  unfold Tcb.cubictcpAcked
  split
  · next hstart =>
    rw [Bool.and_eq_true, decide_eq_true_eq] at hstart
    unfold Tcb.hystartUpdate
    split
    · exact h
    · next hfound =>
      apply hystartDelay
      apply h.hystartAckTrain
      intro hlast hround hne
      exact htrain ⟨hstart.1, hstart.2, not_not.1 hfound, hlast, hround, hne⟩
  · exact h

theorem cubictcpCongAvoid_eq (t : Tcb) (dEventTime segmentAcked : Nat) :
    t.cubictcpCongAvoid dEventTime segmentAcked =
      let (t, segmentAcked) := t.cubicSlowStarted dEventTime segmentAcked
      if !t.inSlowStart && 0 < segmentAcked then
        let t := t.cubicUpdated dEventTime segmentAcked
        if t.congestionData.cubic.cnt < t.congestionData.cubic.cwndcnt then
          (t.cubicIncreaseCwnd t.congestionData.SMSS).mapCubic fun ca => { ca with cwndcnt := 0 }
        else t
      else t := rfl

theorem cubictcpCongAvoid (h : Wide t) {dEventTime segmentAcked : Nat}
    (hsafe : t.CubicAvoidSafe dEventTime segmentAcked) :
    Wide (t.cubictcpCongAvoid dEventTime segmentAcked) := by
  rw [cubictcpCongAvoid_eq]
  obtain ⟨hslow, hadds⟩ := hsafe
  have hstarted : Wide (t.cubicSlowStarted dEventTime segmentAcked).1 := by
    unfold cubicSlowStarted
    split
    · next hstart =>
      have hroom := hslow hstart
      split
      · have hreset : Wide (t.mapCubic (cubictcpHystartReset dEventTime t.SND.NXT)) := h.of_wnd rfl
        exact hreset.cubicIncreaseCwnd (ackedBytes_lt t) hroom
      · exact h.cubicIncreaseCwnd (ackedBytes_lt t) hroom
    · exact h
  generalize t.cubicSlowStarted dEventTime segmentAcked = pair at hstarted hadds ⊢
  obtain ⟨t1, acked⟩ := pair
  dsimp only at hstarted hadds ⊢
  split
  · next hgrow =>
    have hupdated : Wide (t1.cubicUpdated dEventTime acked) := hstarted.of_wnd rfl
    split
    · next hcnt =>
      have hroom : (t1.cubicUpdated dEventTime acked).CubicRoom
          (t1.cubicUpdated dEventTime acked).congestionData.SMSS := hadds ⟨hgrow, hcnt⟩
      exact (hupdated.cubicIncreaseCwnd hupdated.smss_lt hroom).of_wnd rfl
    · exact hupdated
  · exact hstarted

theorem cubicInflate (h : Wide t) {n : Nat}
    (hn : t.congestionData.SMSS ≤ kept t.windShift (t.inflated n)) :
    Wide ((t.setSsthres n).cubicSetCwnd
      (u32 ((t.setSsthres n).getSsthres + tcpDupThresh * (t.setSsthres n).congestionData.SMSS))) := by
  have hset : Wide (t.setSsthres n) := h.of_wnd rfl
  apply wide_cubicSetCwnd hset.shift_le hset.smss_lt
  rw [h.restart_eq n]
  exact hn

end Wide

theorem bictcpRecalcSsthresh_fst (t : Tcb) : t.bictcpRecalcSsthresh.1 =
    if t.segCwnd ≤ t.congestionData.bic.lowWindow then max (2 * t.getMSS) (t.flightSize / 2)
    else floorU32 ((if t.segCwnd * t.congestionData.bic.beta < 2 then 2
      else t.segCwnd * t.congestionData.bic.beta) * t.getMSS) := by
  unfold bictcpRecalcSsthresh
  dsimp only
  split <;> rfl

end Tcb

theorem Conn.bictcpRecalcSsthresh_countDupAck (s : Conn) :
    s.countDupAck.tcb.bictcpRecalcSsthresh.1 = s.tcb.bictcpRecalcSsthresh.1 := by
  rw [Tcb.bictcpRecalcSsthresh_fst, Tcb.bictcpRecalcSsthresh_fst]
  rfl

namespace Conn.Wide

variable {s : Conn}

section

variable (h : s.Wide)

include h

theorem growCwnd : (s.mapTcb (·.growCwnd s.dEventTime)).Wide :=
  h.mapTcb (h.tcb.growCwnd _)

theorem increaseAndStay :
    (s.mapTcb fun t => t.increaseCwnd t.congestionData.SMSS).stayInRecovery.Wide :=
  (h.mapTcb (h.tcb.increaseCwnd h.tcb.smss_lt)).stayInRecovery

theorem fastRetransmit (hsafe : s.tcb.congestionData.dupAckCount = tcpDupThresh →
      s.tcb.HoldsSegment (s.tcb.inflated s.tcb.lossThreshold)) : s.fastRetransmit.Wide := by
  unfold Conn.fastRetransmit
  split
  · next hthird =>
    have hset := h.mapTcb (f := fun t => (t.setSsthres t.lossThreshold).setCwnd
      (u32 ((t.setSsthres t.lossThreshold).getSsthres +
        tcpDupThresh * (t.setSsthres t.lossThreshold).congestionData.SMSS)))
      (h.tcb.inflate (hsafe hthird))
    exact hset.enterRecovery _
  · exact h.increaseAndStay

theorem dupAck {f : Conn → Conn} (hf : s.countDupAck.Wide → (f s.countDupAck).Wide) :
    (if s.countDupAck.tcb.congestionData.dupAckCount < tcpDupThresh then
        if s.countDupAck.sackReportsLoss then f s.countDupAck else s.countDupAck
      else f s.countDupAck).Wide := by
  have hcount : s.countDupAck.Wide := h.of_eq rfl rfl
  split
  · split
    · exact hf hcount
    · exact hcount
  · exact hf hcount

theorem fastRecovery (hsafe : s.tcb.HoldsSegment s.tcb.getSsthres) : s.fastRecovery.Wide := by
  apply h.mapTcb
  apply Tcb.wide_setCwnd
  · exact h.tcb.shift_le
  · exact h.tcb.smss_lt
  · exact hsafe

theorem tahoeAckReceived (hvariant : s.tcb.variant = .tahoe)
    (hsafe : s.tcb.AckSafe s.dEventTime) : s.tahoeAckReceived.Wide := by
  simp only [Tcb.AckSafe, hvariant] at hsafe
  unfold Conn.tahoeAckReceived
  split
  · next hdup =>
    rw [if_pos hdup] at hsafe
    exact h.dupAck fun hcount => hcount.fastRetransmit hsafe
  · next hdup =>
    rw [if_neg hdup] at hsafe
    split
    · next hne =>
      apply h.mapTcb
      apply Tcb.wide_setCwnd
      · exact h.tcb.shift_le
      · exact h.tcb.smss_lt
      · exact hsafe hne
    · exact h.growCwnd

theorem renoAckReceived (hvariant : s.tcb.variant = .reno)
    (hsafe : s.tcb.AckSafe s.dEventTime) : s.renoAckReceived.Wide := by
  simp only [Tcb.AckSafe, hvariant] at hsafe
  unfold Conn.renoAckReceived
  split
  · next hdup =>
    rw [if_pos hdup] at hsafe
    exact h.dupAck fun hcount => hcount.fastRetransmit hsafe
  · next hdup =>
    rw [if_neg hdup] at hsafe
    split
    · next hrecovery => exact h.fastRecovery (hsafe hrecovery)
    · exact h.growCwnd

theorem newrenoAckReceived (hvariant : s.tcb.variant = .newReno)
    (hsafe : s.tcb.AckSafe s.dEventTime) : s.newrenoAckReceived.Wide := by
  simp only [Tcb.AckSafe, hvariant] at hsafe
  unfold Conn.newrenoAckReceived
  split
  · next hdup =>
    rw [if_pos hdup] at hsafe
    have hcount : s.countDupAck.Wide := h.of_eq rfl rfl
    dsimp only
    split
    · next hlt =>
      split
      · apply hcount.fastRetransmit
        intro hthird
        rw [hthird] at hlt
        exact absurd hlt (Nat.lt_irrefl _)
      · exact hcount
    · split
      · next hrecover =>
        have hmarked : (s.countDupAck.mapTcb fun t => t.mapCongestion fun c =>
            { c with recover := t.SND.NXT }).Wide := hcount.of_eq rfl rfl
        exact hmarked.fastRetransmit fun hthird => hsafe hthird hrecover
      · exact hcount
  · next hdup =>
    rw [if_neg hdup] at hsafe
    split
    · next hrecovery =>
      unfold Conn.newRenoFastRecovery
      have hcount : (s.mapTcb (·.mapCongestion fun c => { c with dupAckCount := 0 })).Wide :=
        h.of_eq rfl rfl
      dsimp only
      split
      · next hrecover =>
        have hset : (s.tcb.mapCongestion fun c => { c with dupAckCount := 0 }).setCwnd
            (min (u16 s.tcb.getSsthres) (max s.tcb.flightSize s.tcb.congestionData.SMSS +
              s.tcb.congestionData.SMSS)) |>.Wide := by
          apply Tcb.wide_setCwnd
          · exact h.tcb.shift_le
          · exact h.tcb.smss_lt
          · exact hsafe hrecovery hrecover
        exact hcount.mapTcb (hset.of_wnd rfl)
      · have hlt : u16 (sub32 s.tcb.SEG.ACK s.tcb.congestionData.recover) < 2 ^ 16 :=
          Nat.mod_lt _ (by decide)
        have hincrease := hcount.tcb.increaseCwnd hlt
        exact (hcount.mapTcb hincrease).resendSegmentWithoutTimeout _
    · exact h.growCwnd

theorem bictcpFastretransmit (hsafe : s.tcb.congestionData.dupAckCount = tcpDupThresh →
      s.tcb.HoldsSegment (s.tcb.inflated (u16 s.tcb.bictcpRecalcSsthresh.1))) :
    s.bictcpFastretransmit.Wide := by
  unfold Conn.bictcpFastretransmit
  split
  · next hthird =>
    have hn := hsafe hthird
    have hwnd := s.tcb.wnd_bictcpRecalcSsthresh
    dsimp only [Conn.mapTcb]
    generalize s.tcb.bictcpRecalcSsthresh = pair at hn hwnd ⊢
    have hset := (h.tcb.of_wnd hwnd).inflate ((Tcb.holds_inflated hwnd _).2 hn)
    have hconn : Conn.Wide { s with tcb := _ } := ⟨hset, h.windows⟩
    exact hconn.enterRecovery _
  · exact h.increaseAndStay

theorem bicAckReceived (hvariant : s.tcb.variant = .bic)
    (hsafe : s.tcb.AckSafe s.dEventTime) : s.bicAckReceived.Wide := by
  simp only [Tcb.AckSafe, hvariant] at hsafe
  unfold Conn.bicAckReceived
  split
  · next hdup =>
    rw [if_pos hdup] at hsafe
    apply h.dupAck
    intro hcount
    apply hcount.bictcpFastretransmit
    intro hthird
    rw [s.bictcpRecalcSsthresh_countDupAck]
    exact (Tcb.holds_inflated rfl _).2 (hsafe hthird)
  · next hdup =>
    rw [if_neg hdup] at hsafe
    split
    · next hrecovery => exact h.fastRecovery (hsafe hrecovery)
    · exact h.mapTcb (h.tcb.bictcpCongAvoid _ _)

theorem cubictcpFastretransmit (hthird : s.tcb.congestionData.dupAckCount = tcpDupThresh →
      s.tcb.congestionData.SMSS ≤ kept s.tcb.windShift
        (s.tcb.inflated (u32 (s.tcb.cubictcpRecalcSsthresh.1 * s.tcb.getMSS))))
    (hlater : s.tcb.congestionData.dupAckCount ≠ tcpDupThresh →
      s.tcb.CubicRoom s.tcb.congestionData.SMSS) : s.cubictcpFastretransmit.Wide := by
  unfold Conn.cubictcpFastretransmit
  split
  · next heq =>
    have hn := hthird heq
    have hwnd : s.tcb.cubictcpRecalcSsthresh.2.wnd = s.tcb.wnd := rfl
    have hmss : s.tcb.cubictcpRecalcSsthresh.2.getMSS = s.tcb.getMSS := rfl
    rw [← hmss] at hn
    dsimp only [Conn.mapTcb]
    generalize s.tcb.cubictcpRecalcSsthresh = pair at hn hwnd ⊢
    have hset := (h.tcb.of_wnd hwnd).cubicInflate ((Tcb.keeps_inflated hwnd _).2 hn)
    have hconn : Conn.Wide { s with tcb := _ } := ⟨hset, h.windows⟩
    exact hconn.enterRecovery true
  · next hne =>
    exact (h.mapTcb (h.tcb.cubicIncreaseCwnd h.tcb.smss_lt (hlater hne))).stayInRecovery

theorem cubicAckReceived (hvariant : s.tcb.variant = .cubic)
    (hsafe : s.tcb.AckSafe s.dEventTime) : s.cubicAckReceived.Wide := by
  simp only [Tcb.AckSafe, hvariant] at hsafe
  unfold Conn.cubicAckReceived
  dsimp only
  split
  · next hdup =>
    rw [if_pos hdup] at hsafe
    obtain ⟨hthird, hgrows⟩ := hsafe
    have hcount : s.countDupAck.Wide := h.of_eq rfl rfl
    have hretransmit : (s.countDupAck.tcb.congestionData.dupAckCount ≠ tcpDupThresh →
        s.tcb.growsOnDupAck) → s.countDupAck.cubictcpFastretransmit.Wide := by
      intro hgrowth
      apply hcount.cubictcpFastretransmit
      · intro heq
        exact (Tcb.keeps_inflated rfl _).2 (hthird heq)
      · exact fun hne => hgrows (hgrowth hne)
    split
    · split
      · next hloss => exact hretransmit fun hne => ⟨hne, .inr hloss⟩
      · exact hcount
    · next hle => exact hretransmit fun hne => ⟨hne, .inl (Nat.le_of_not_lt hle)⟩
  · next hdup =>
    rw [if_neg hdup] at hsafe
    split
    · next hrecovery =>
      rw [if_pos hrecovery] at hsafe
      apply h.mapTcb
      apply Tcb.wide_cubicSetCwnd
      · exact h.tcb.shift_le
      · exact h.tcb.smss_lt
      · exact hsafe
    · next hrecovery =>
      rw [if_neg hrecovery] at hsafe
      exact h.mapTcb ((h.tcb.cubictcpAcked hsafe.1).cubictcpCongAvoid hsafe.2)

theorem ackReceived (hsafe : s.tcb.AckSafe s.dEventTime) : s.ackReceived.Wide := by
  unfold Conn.ackReceived
  split
  · exact h.growCwnd
  · next hvariant => exact h.tahoeAckReceived hvariant hsafe
  · next hvariant => exact h.renoAckReceived hvariant hsafe
  · next hvariant => exact h.newrenoAckReceived hvariant hsafe
  · next hvariant => exact h.bicAckReceived hvariant hsafe
  · next hvariant => exact h.cubicAckReceived hvariant hsafe

end

end Conn.Wide

/-! ## Opening and timeouts -/

namespace Tcb

def withMss (t : Tcb) (mss : Nat) : Tcb :=
  { t with congestionData := { t.congestionData with
    SMSS := min t.congestionData.SMSS mss, RMSS := min t.congestionData.RMSS mss } }

def OpenSafe (dev : DevVar) (t : Tcb) (opt : Option UInt16) : Prop :=
  ∃ mss, opt = some mss ∧ (t.withMss mss.toNat).HoldsSegment
    ((t.withMss mss.toNat).congestionSetIW dev).congestionData.IW

theorem OpenSafe.readMss {dev : DevVar} {t : Tcb} {opt : Option UInt16} (hs : t.sndWindShift ≤ 14)
    (hsafe : t.OpenSafe dev opt) : Wide (t.readMss dev opt) := by
  obtain ⟨mss, rfl, hholds⟩ := hsafe
  have hlt : (t.withMss mss.toNat).congestionData.SMSS < 2 ^ 16 :=
    Nat.lt_of_le_of_lt (Nat.min_le_right _ _) mss.toNat_lt
  have hset : Wide ((((t.withMss mss.toNat).congestionSetIW dev).mapCongestion fun c =>
      { c with LW := c.SMSS }).setCwnd
        ((t.withMss mss.toNat).congestionSetIW dev).congestionData.IW) := by
    apply wide_setCwnd
    · exact hs
    · exact hlt
    · exact hholds
  exact hset.of_wnd rfl

theorem wnd_receiveSackOption (t : Tcb) (option : List TcpOption) :
    (t.receiveSackOption option).wnd = t.wnd := by
  have hfold : ∀ (l : List SackData) (t : Tcb),
      (l.foldl (fun t data => t.updateSackFlag data.leftEdge data.rightEdge) t).wnd = t.wnd := by
    intro l
    induction l with
    | nil => exact fun _ => rfl
    | cons d l ih =>
      intro t
      rw [List.foldl_cons, ih]
      rfl
  unfold receiveSackOption
  dsimp only
  split
  · rfl
  · split
    · rfl
    · split
      · rfl
      · exact hfold _ _

theorem wnd_readTimestamp (t : Tcb) (p : Segment) : (t.readTimestamp p).wnd = t.wnd := by
  obtain ⟨isTSopt, tsVal, hread⟩ := t.readTimestamp_eq p
  rw [hread]
  rfl

/-- The TCB with which `ack_received` runs on the acknowledgment `p`. -/
def readAck (t : Tcb) (p : Segment) : Tcb := (t.receiveSackOption p.option).readTimestamp p

theorem Wide.readAck {t : Tcb} (h : Wide t) (p : Segment) : Wide (t.readAck p) := by
  apply h.of_wnd
  rw [Tcb.readAck, wnd_readTimestamp, wnd_receiveSackOption]

end Tcb

namespace Conn.Wide

variable {s : Conn}

theorem congestionRtoTimeout (h : s.Wide) (hsafe : s.tcb.HoldsSegment s.tcb.congestionData.LW) :
    s.congestionRtoTimeout.Wide := by
  apply h.mapTcb
  dsimp only
  have hset : ((s.tcb.setSsthres (max (s.tcb.flightSize / 2)
      (2 * s.tcb.congestionData.SMSS))).setCwnd s.tcb.congestionData.LW).Wide := by
    apply Tcb.wide_setCwnd
    · exact h.tcb.shift_le
    · exact h.tcb.smss_lt
    · exact hsafe
  split
  · exact hset.of_wnd rfl
  · exact hset

theorem resendSegment (h : s.Wide) (p : Segment) : (s.resendSegment p).Wide := by
  unfold Conn.resendSegment
  split
  · exact h
  · exact h.of_eq rfl rfl

theorem processAckAndSend {p : Segment} (h : s.Wide)
    (hsafe : (s.tcb.readAck p).AckSafe s.dEventTime) : (s.processAckAndSend p).Wide := by
  have hread : (s.mapTcb (·.readAck p)).Wide := h.mapTcb (h.tcb.readAck p)
  have hreceived : (s.mapTcb (·.readAck p)).ackReceived.Wide := hread.ackReceived hsafe
  unfold Conn.processAckAndSend Conn.processAckInEstablishedState
  dsimp only
  split
  · next s2 heq =>
    apply sendSegment
    split at heq
    · split at heq
      · obtain rfl := congrArg Prod.snd heq
        exact hreceived.of_eq rfl rfl
      · obtain rfl := congrArg Prod.snd heq
        exact hreceived.of_eq rfl rfl
    · split at heq <;> cases heq
  · next s2 heq =>
    split at heq
    · split at heq <;> cases heq
    · split at heq
      · obtain rfl := congrArg Prod.snd heq
        exact hreceived
      · obtain rfl := congrArg Prod.snd heq
        exact hreceived.of_eq rfl rfl

theorem of_outgoing {s' : Conn} (h : s.Wide) (ho : s'.outgoing = s.outgoing) : s'.Wide := by
  apply h.of_eq
  · exact Conn.eq_of_outgoing (g := fun s => s.tcb.wnd) (fun _ => rfl) ho
  · exact Conn.eq_of_outgoing (g := fun s => s.windows) (fun _ => rfl) ho

theorem processFinPacket (h : s.Wide) : s.processFinPacket.Wide := by
  unfold Conn.processFinPacket
  split
  case h_1 | h_2 =>
    have hacked : (s.sendFinAck s.tcb.SND.NXT s.tcb.RCV.NXT).Wide := h.of_eq rfl rfl
    have hwait := hacked.changeState .closeWait
    generalize (s.sendFinAck s.tcb.SND.NXT s.tcb.RCV.NXT).changeState .closeWait = s1 at hwait ⊢
    have hfin : s1.sendFin.Wide := hwait.of_eq rfl rfl
    exact (hfin.changeState .lastAck).of_eq rfl rfl
  case h_3 => exact (h.changeState .closing).of_eq rfl rfl
  case h_4 => exact (h.changeState .timeWait).of_eq rfl rfl
  case h_5 => exact h.of_eq rfl rfl
  all_goals exact h

theorem processText {p : Segment} (h : s.Wide) (hp : p.syn = false) : (s.processText p).Wide := by
  obtain ⟨_, t, ht, htext⟩ := Receives.processText s hp
  rw [htext]
  split
  · exact (h.of_outgoing ht.outgoing).processFinPacket
  · exact h.of_outgoing ht.outgoing

end Conn.Wide

end NetSim.Tcp
