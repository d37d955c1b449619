import NetSim.Tcp.ThirdDupAck
import NetSim.Tcp.Unacceptable

/-!
# What a rejected acknowledgment leaves behind (`TCP_Incoming.c`, `RTO.c`)

When an acknowledgment for data never sent leaves the congestion control, the scoreboard and the
timer as they were, and one below `SND.UNA` does not enlarge the window.
-/

namespace NetSim.Tcp

namespace Tcb

variable {t : Tcb}

def InflatesNone (t : Tcb) : Prop :=
  let n := t.congestionData.SMSS
  match t.variant with
  | .cubic =>
    ¬t.SumLt n ∨ t.CubicNoRoom n ∨
      t.isWindowScaling = true ∧ 2 ^ 16 ≤ t.congestionData.cwnd + n / 2 ^ t.windShift
  | _ => ¬t.SumLt n ∨ t.NoRoom n

theorem inflatedCwnd_le_iff (hfits : t.Fits) :
    t.inflatedCwnd ≤ t.congestionData.cwnd ↔ t.InflatesNone := by
  have hother := increaseCwnd_le_iff hfits.cwnd_lt hfits.smss_lt
  unfold inflatedCwnd InflatesNone
  cases t.variant with
  | cubic => exact cubicIncreaseCwnd_le_iff hfits.cwnd_lt hfits.smss_lt
  | _ => exact hother

/-! ## The scoreboard -/

/-- The SACK option of the acknowledgment is not for this connection, or reports what the
scoreboard holds. -/
def SackKept (t : Tcb) (option : List TcpOption) : Prop :=
  t.isSackPermitted = true → ∀ sackData, getSackOption option = some sackData → sackData ≠ [] →
    sackData ++ List.replicate (4 - sackData.length) ⟨0, 0⟩ = t.scoreboard

theorem scoreboard_receiveSackOption_iff (t : Tcb) (option : List TcpOption) :
    (t.receiveSackOption option).scoreboard = t.scoreboard ↔ t.SackKept option := by
  unfold SackKept receiveSackOption
  dsimp only
  split
  · next hoff => exact iff_of_true rfl fun hon => absurd (hoff.symm.trans hon) Bool.false_ne_true
  · next hon =>
    rw [forall_prop_of_true (Bool.eq_true_of_not_eq_false hon)]
    split
    · next hnone => exact iff_of_true rfl fun _ hsome => absurd (hnone.symm.trans hsome) nofun
    · next sackData hsome =>
      split
      · next hnil =>
        refine iff_of_true rfl fun data hdata hne => ?_
        obtain rfl := Option.some.inj (hsome.symm.trans hdata)
        exact absurd hnil hne
      · next hne =>
        constructor
        · intro hsame data hdata _
          obtain rfl := Option.some.inj (hsome.symm.trans hdata)
          exact hsame
        · intro h
          exact h sackData hsome hne

theorem scoreboard_readAck_iff (t : Tcb) (p : Segment) :
    (t.readAck p).scoreboard = t.scoreboard ↔ t.SackKept p.option := by
  obtain ⟨isTSopt, tsVal, hread⟩ := (t.receiveSackOption p.option).readTimestamp_eq p
  rw [← scoreboard_receiveSackOption_iff, readAck, hread]

theorem seq_readAck (t : Tcb) (p : Segment) :
    (t.readAck p).SND = t.SND ∧ (t.readAck p).SEG = t.SEG := by
  have hfold (l : List SackData) (t : Tcb) :
      (l.foldl (fun t data => t.updateSackFlag data.leftEdge data.rightEdge) t).SND = t.SND ∧
        (l.foldl (fun t data => t.updateSackFlag data.leftEdge data.rightEdge) t).SEG =
          t.SEG := by
    induction l generalizing t with
    | nil => exact ⟨rfl, rfl⟩
    | cons data l ih => exact ih _
  obtain ⟨isTSopt, tsVal, hread⟩ := (t.receiveSackOption p.option).readTimestamp_eq p
  rw [readAck, hread]
  unfold receiveSackOption
  dsimp only
  split
  · exact ⟨rfl, rfl⟩
  · split
    · exact ⟨rfl, rfl⟩
    · split
      · exact ⟨rfl, rfl⟩
      · exact hfold _ _

end Tcb

namespace Conn

variable {s : Conn}

/-- The condition on an acknowledgment below `SND.UNA`, outside fast recovery. -/
def WindowHeld (s : Conn) : Prop :=
  match s.tcb.variant with
  | .oldTahoe => s.tcb.GrowLe s.dEventTime
  | _ =>
    s.holdsBack ∨
      if u32 (s.tcb.congestionData.dupAckCount + 1) = tcpDupThresh then
        s.tcb.entryCwnd ≤ s.tcb.congestionData.cwnd
      else s.tcb.InflatesNone

theorem cwnd_ackReceived_le_iff (hfits : s.tcb.Fits) (hdup : s.tcb.isDupAck = true) :
    s.ackReceived.tcb.congestionData.cwnd ≤ s.tcb.congestionData.cwnd ↔ s.WindowHeld := by
  have hother (hvariant : s.tcb.variant ≠ .oldTahoe) :
      s.ackReceived.tcb.congestionData.cwnd ≤ s.tcb.congestionData.cwnd ↔
        s.holdsBack ∨ if u32 (s.tcb.congestionData.dupAckCount + 1) = tcpDupThresh then
          s.tcb.entryCwnd ≤ s.tcb.congestionData.cwnd else s.tcb.InflatesNone := by
    obtain ⟨-, hholds, hcalls⟩ := windowAndCount_of_dupAck hvariant hdup
    by_cases h : s.holdsBack
    · rw [hholds h]
      exact iff_of_true (Nat.le_refl _) (.inl h)
    · rw [hcalls h, or_iff_right h]
      split
      · rfl
      · exact Tcb.inflatedCwnd_le_iff hfits
  unfold WindowHeld
  cases hvar : s.tcb.variant with
  | oldTahoe =>
    unfold ackReceived
    rw [hvar]
    exact Tcb.growCwnd_le_iff hfits.cwnd_lt s.dEventTime
  | _ => exact hother (by rw [hvar]; decide)

/-! ## Acknowledgments for data never sent -/

/-- `TCP_TIMER` after `process_ack_in_establishedState`, where `calculate_RTO` computes with
`double`s. -/
def timerAfterAck {ρ : Type} (calculateRTO : Nat → ρ → ρ) (s : Conn) (p : Segment)
    (timer : ρ) : ρ :=
  let s := (s.mapTcb (·.readAck p)).ackReceived
  if s.tcb.SND.UNA < s.tcb.SEG.ACK ∧ s.tcb.SEG.ACK ≤ s.tcb.SND.NXT then
    calculateRTO (s.tcb.retransmissionQueue.getRTT s.dEventTime s.tcb.SEG.ACK) timer
  else timer

/-- The acknowledgment `p` leaves congestion control, scoreboard and timer as they were. -/
structure Ignores {ρ : Type} (calculateRTO : Nat → ρ → ρ) (s : Conn) (p : Segment)
    (timer : ρ) : Prop where
  control : (s.processAckInEstablishedState p).2.tcb.control = s.tcb.control
  scoreboard : (s.processAckInEstablishedState p).2.tcb.scoreboard = s.tcb.scoreboard
  timer : s.timerAfterAck calculateRTO p timer = timer

theorem scoreboard_processAck (s : Conn) (p : Segment) :
    (s.processAckInEstablishedState p).2.tcb.scoreboard =
      (s.mapTcb (·.readAck p)).ackReceived.tcb.scoreboard := by
  change (ite _ _ _ : Bool × Conn).2.tcb.scoreboard = _
  split
  · dsimp only
    split
    · rfl
    · rfl
  · split
    · rfl
    · rfl

theorem congestionData_processAck (s : Conn) (p : Segment) :
    (s.processAckInEstablishedState p).2.tcb.congestionData =
      (s.mapTcb (·.readAck p)).ackReceived.tcb.congestionData :=
  congrArg Prod.fst (controls_processAckInEstablishedState s p)

theorem not_dup_of_controlKept (h : s.tcb.ControlKept s.dEventTime) :
    s.tcb.variant = .oldTahoe ∨ s.tcb.isDupAck = false := by
  unfold Tcb.ControlKept at h
  cases hvar : s.tcb.variant with
  | oldTahoe => exact .inl rfl
  | _ =>
    rw [hvar] at h
    exact .inr h.1

variable {ρ : Type} {calculateRTO : Nat → ρ → ρ} {p : Segment} {timer : ρ}

theorem congestionData_readAck (t : Tcb) (p : Segment) :
    (t.readAck p).congestionData = t.congestionData := congrArg Prod.fst (t.controls_readAck p)

theorem fits_readAck (hfits : s.tcb.Fits) (p : Segment) : (s.tcb.readAck p).Fits := by
  obtain ⟨hcwnd, hssthresh, hsmss⟩ := hfits
  rw [← congestionData_readAck s.tcb p] at hcwnd hssthresh hsmss
  exact ⟨hcwnd, hssthresh, hsmss⟩

theorem control_processAck_iff (s : Conn) (p : Segment) :
    (s.processAckInEstablishedState p).2.tcb.control = s.tcb.control ↔
      (s.mapTcb (·.readAck p)).ackReceived.tcb.control = (s.tcb.readAck p).control := by
  rw [Tcb.control, Tcb.control, Tcb.control, Tcb.control, congestionData_processAck,
    congestionData_readAck]

theorem ignores_of_kept (hfits : s.tcb.Fits) (hunsent : s.tcb.SND.NXT < s.tcb.SEG.ACK)
    (hsack : s.tcb.SackKept p.option) (hkept : (s.tcb.readAck p).ControlKept s.dEventTime) :
    s.Ignores calculateRTO p timer := by
  have htest : (s.mapTcb (·.readAck p)).ackReceived.tcb.testView = (s.tcb.readAck p).testView :=
    (testView_ackReceived (not_dup_of_controlKept (s := s.mapTcb (·.readAck p)) hkept)).1
  simp only [Tcb.testView, Prod.mk.injEq] at htest
  obtain ⟨hscoreboard, hsnd, hseg⟩ := htest
  obtain ⟨hsnd', hseg'⟩ := s.tcb.seq_readAck p
  refine ⟨?_, ?_, ?_⟩
  · rw [control_processAck_iff]
    exact (control_ackReceived (s := s.mapTcb (·.readAck p)) (fits_readAck hfits p)).1 hkept
  · rw [scoreboard_processAck, hscoreboard]
    exact (s.tcb.scoreboard_readAck_iff p).2 hsack
  · have hfails : ¬(s.tcb.SND.UNA < s.tcb.SEG.ACK ∧ s.tcb.SEG.ACK ≤ s.tcb.SND.NXT) :=
      fun h => absurd h.2 (Nat.not_le.2 hunsent)
    unfold timerAfterAck
    dsimp only
    rw [hsnd, hseg, hsnd', hseg', if_neg hfails]

theorem kept_of_ignores (hfits : s.tcb.Fits)
    (hwraps : ¬(s.tcb.readAck p).CubicMayWrap) (h : s.Ignores calculateRTO p timer) :
    s.tcb.SackKept p.option ∧ (s.tcb.readAck p).ControlKept s.dEventTime := by
  have hkept : (s.tcb.readAck p).ControlKept s.dEventTime :=
    (control_ackReceived (s := s.mapTcb (·.readAck p)) (fits_readAck hfits p)).2 hwraps
      ((control_processAck_iff s p).1 h.control)
  have htest : (s.mapTcb (·.readAck p)).ackReceived.tcb.testView = (s.tcb.readAck p).testView :=
    (testView_ackReceived (not_dup_of_controlKept (s := s.mapTcb (·.readAck p)) hkept)).1
  refine ⟨?_, hkept⟩
  rw [← Tcb.scoreboard_readAck_iff, ← h.scoreboard, scoreboard_processAck]
  exact (congrArg Prod.fst htest).symm

/-- A Tahoe sender whose window is at its limit, at an acknowledgment of `ackNum`. -/
def atLimit (variant : TcpVariant) (cwnd ackNum : Nat) : Conn :=
  ((Watched.inFlight variant).conn.mapTcb (·.withCwnd cwnd)).read (Watched.ackOf ackNum)

/-- The claimed law: a rejected acknowledgment moves nothing. -/
def RejectedIgnored : Prop :=
  ∀ (calculateRTO : Nat → Nat → Nat) (s : Conn) (p : Segment) (timer : Nat), s.tcb.Fits →
    (s.tcb.SND.NXT < s.tcb.SEG.ACK → s.Ignores calculateRTO p timer) ∧
      (s.tcb.SEG.ACK < s.tcb.SND.UNA → s.tcb.congestionData.isFastRecovery = false →
        (s.processAckInEstablishedState p).2.tcb.congestionData.cwnd ≤
          s.tcb.congestionData.cwnd)

end Conn

end NetSim.Tcp
