import NetSim.Tcp.DupAcks

/-!
# Fast retransmit at the third duplicate acknowledgment (`Congestion.c`, `CUBIC.c`)

The runs of a sender without SACK. Fast retransmit comes at the third duplicate as long as
`dupAckCount` counts; outside fast recovery only Tahoe sets it back when `SND.UNA` advances.
-/

namespace NetSim.Tcp

open NetSim.Lib

/-- A sender, and the duplicate acknowledgments since the last one that advanced `SND.UNA`. -/
structure Watched where
  conn : Conn
  dupAcks : Nat

namespace Conn

variable {s : Conn} {n : Nat}

/-- The duplicates after an acknowledgment, when there were `n` before it. -/
def dupAcksAfter (s : Conn) (n : Nat) : Nat :=
  if s.tcb.isDupAck then n + 1 else if s.tcb.SEG.ACK ≤ s.tcb.SND.NXT then 0 else n

/-- Fast retransmit fires at this acknowledgment when it is the third duplicate, and only then. -/
structure FiresAtThird (n : Nat) (s : Conn) : Prop where
  third : s.tcb.isDupAck = true → n + 1 = tcpDupThresh → s.tcb.guarded = false →
    EntersRecovery s s.ackReceived
  otherDup : s.tcb.isDupAck = true → n + 1 ≠ tcpDupThresh ∨ s.tcb.guarded = true →
    StaysOut s s.ackReceived
  notDup : s.tcb.isDupAck = false → s.ackReceived.network = s.network ∨
    s.ackReceived.tcb.congestionData.ssthresh = s.tcb.congestionData.ssthresh

/-- An advance finds the count at 0 or sets it back, and data never sent does not. -/
structure CountsDups (s : Conn) : Prop where
  dup : s.tcb.isDupAck = true → s.tcb.congestionData.dupAckCount + 1 < 2 ^ 32
  advance : s.tcb.isDupAck = false → s.tcb.SEG.ACK ≤ s.tcb.SND.NXT →
    s.tcb.resetsDupAcks = true ∨ s.tcb.congestionData.dupAckCount = 0
  unsent : s.tcb.isDupAck = false → s.tcb.SND.NXT < s.tcb.SEG.ACK →
    s.tcb.resetsDupAcks = false ∨ s.tcb.congestionData.dupAckCount = 0

theorem retransmitThreshold_countDupAck (s : Conn) :
    s.countDupAck.tcb.retransmitThreshold = s.tcb.retransmitThreshold :=
  s.tcb.retransmitThreshold_withCounters _ s.tcb.congestionData.recover

theorem firesAtThird_of_count (hvariant : s.tcb.variant ≠ .oldTahoe)
    (hsack : s.tcb.isSackOption = false) (hcounts : s.CountsDups) :
    FiresAtThird s.tcb.congestionData.dupAckCount s := by
  have hnext (hdup : s.tcb.isDupAck = true) :
      s.countDupAck.tcb.congestionData.dupAckCount = s.tcb.congestionData.dupAckCount + 1 :=
    Nat.mod_eq_of_lt (hcounts.dup hdup)
  refine ⟨?_, ?_, fun hdup => (ackReceived_of_not_dup hvariant hdup).2⟩
  · intro hdup hthird hopen
    have hcount : s.countDupAck.tcb.congestionData.dupAckCount = tcpDupThresh :=
      (hnext hdup).trans hthird
    obtain ⟨⟨hssthresh, hnetwork⟩, -⟩ :=
      retransmits_retransmitCall.atThreshold s.countDupAck hsack hcount
    rw [ackReceived_of_dup hvariant hsack hdup, if_neg (by rw [hcount, hopen]; decide)]
    refine ⟨?_, hnetwork.trans (network_resend_withCongestion s _ _)⟩
    rw [hssthresh, retransmitThreshold_countDupAck]
    rfl
  · intro hdup hother
    rw [ackReceived_of_dup hvariant hsack hdup]
    split
    · exact ⟨rfl, rfl⟩
    · next hcall =>
      have hcount : s.countDupAck.tcb.congestionData.dupAckCount ≠ tcpDupThresh := by
        rw [hnext hdup]
        exact hother.resolve_right fun hguarded => hcall (.inr hguarded)
      obtain ⟨hout, -⟩ := retransmits_retransmitCall.elsewhere s.countDupAck hsack hcount
      exact ⟨hout.ssthresh, hout.network⟩

theorem dupAckCount_ackReceived_of_dup (hvariant : s.tcb.variant ≠ .oldTahoe)
    (hsack : s.tcb.isSackOption = false) (hdup : s.tcb.isDupAck = true) :
    s.ackReceived.tcb.congestionData.dupAckCount =
      u32 (s.tcb.congestionData.dupAckCount + 1) := by
  rw [ackReceived_of_dup hvariant hsack hdup]
  split
  · rfl
  · by_cases hcount : s.countDupAck.tcb.congestionData.dupAckCount = tcpDupThresh
    · exact (retransmits_retransmitCall.atThreshold s.countDupAck hsack hcount).2
    · exact (retransmits_retransmitCall.elsewhere s.countDupAck hsack hcount).2

theorem dupAckCount_ackReceived (hvariant : s.tcb.variant ≠ .oldTahoe)
    (hsack : s.tcb.isSackOption = false) (hcounts : s.CountsDups) :
    s.ackReceived.tcb.congestionData.dupAckCount =
      s.dupAcksAfter s.tcb.congestionData.dupAckCount := by
  unfold dupAcksAfter
  split
  · next hdup =>
    rw [dupAckCount_ackReceived_of_dup hvariant hsack hdup]
    exact Nat.mod_eq_of_lt (hcounts.dup hdup)
  · next hdup =>
    have hnot : s.tcb.isDupAck = false := Bool.eq_false_of_not_eq_true hdup
    rw [(ackReceived_of_not_dup hvariant hnot).1]
    by_cases hack : s.tcb.SEG.ACK ≤ s.tcb.SND.NXT
    · rw [if_pos hack]
      rcases hcounts.advance hnot hack with hresets | hzero
      · rw [if_pos hresets]
      · rw [hzero, ite_self]
    · rw [if_neg hack]
      rcases hcounts.unsent hnot (Nat.lt_of_not_le hack) with hkeeps | hzero
      · rw [if_neg (by rw [hkeeps]; decide)]
      · rw [hzero, ite_self]

end Conn

/-! ## Runs -/

namespace Watched

def after (w : Watched) (a : SenderAction) : Watched where
  conn := w.conn.senderStep a
  dupAcks :=
    match a with
    | .ack dEventTime p => (w.conn.heard dEventTime p).dupAcksAfter w.dupAcks
    | .app _ _ => w.dupAcks

def step (w : Watched) (a : SenderAction) : Option Watched := some (w.after a)

def CountsDups (w : Watched) : SenderAction → Prop
  | .ack dEventTime p => (w.conn.heard dEventTime p).CountsDups
  | .app _ _ => True

/-- A sender with fast retransmit and without SACK whose count is the counter. -/
structure Counted (w : Watched) : Prop where
  variant : w.conn.tcb.variant ≠ .oldTahoe
  sackOff : w.conn.tcb.isSackPermitted = false
  count : w.conn.tcb.congestionData.dupAckCount = w.dupAcks

variable {w w' w₀ : Watched} {a : SenderAction} {tr : List (Watched × SenderAction)}

theorem isSackOption_heard (h : Counted w) (dEventTime : Nat) (p : Segment) :
    (w.conn.heard dEventTime p).tcb.isSackOption = false := by
  have hoff : (w.conn.tcb.updateSeqNumOnReceiving p).isSackPermitted = false := h.sackOff
  have htcb : (w.conn.heard dEventTime p).tcb =
    ((w.conn.tcb.updateSeqNumOnReceiving p).receiveSackOption p.option).readTimestamp p := rfl
  obtain ⟨isTSopt, tsVal, hread⟩ :=
    ((w.conn.tcb.updateSeqNumOnReceiving p).receiveSackOption p.option).readTimestamp_eq p
  rw [htcb, hread]
  unfold Tcb.receiveSackOption
  rw [if_pos hoff]

theorem Counted.heard (h : Counted w) (dEventTime : Nat) (p : Segment) :
    (w.conn.heard dEventTime p).tcb.variant ≠ .oldTahoe ∧
      (w.conn.heard dEventTime p).tcb.congestionData.dupAckCount = w.dupAcks := by
  have hcontrols := Conn.controls_heard w.conn dEventTime p
  simp only [Tcb.controls, Prod.mk.injEq] at hcontrols
  obtain ⟨hcong, hvariant, -⟩ := hcontrols
  rw [hcong, hvariant]
  exact ⟨h.variant, h.count⟩

theorem Counted.step (h : Counted w) (hcounts : w.CountsDups a) (hstep : w.step a = some w') :
    Counted w' := by
  obtain rfl := Option.some.inj hstep
  cases a with
  | app dEventTime packets =>
    have hcontrols := Conn.controls_senderStep_app w.conn dEventTime packets
    simp only [Tcb.controls, Prod.mk.injEq] at hcontrols
    obtain ⟨hcong, hvariant, hsack, -⟩ := hcontrols
    exact ⟨hvariant ▸ h.variant, hsack.trans h.sackOff,
      (congrArg CongestionVar.dupAckCount hcong).trans h.count⟩
  | ack dEventTime p =>
    obtain ⟨hvariant, hcount⟩ := h.heard dEventTime p
    have hdups := Conn.dupAckCount_ackReceived hvariant (isSackOption_heard h dEventTime p) hcounts
    have hheard := Conn.controls_heard w.conn dEventTime p
    have hagreed := Conn.agreed_of_effects (w.conn.heard dEventTime p).effects_ackReceived
    have hcontrols := Conn.controls_senderStep_ack w.conn dEventTime p
    simp only [Tcb.controls, Prod.mk.injEq] at hcontrols hheard
    obtain ⟨hcong, hvariant', hsack', -⟩ := hcontrols
    refine ⟨?_, ?_, ?_⟩
    · change (w.conn.senderStep _).tcb.variant ≠ _
      rw [hvariant', hagreed.1]
      exact hvariant
    · change (w.conn.senderStep _).tcb.isSackPermitted = _
      rw [hsack', hagreed.2, hheard.2.2.1]
      exact h.sackOff
    · change (w.conn.senderStep _).tcb.congestionData.dupAckCount = _
      rw [hcong, hdups, hcount]
      rfl

/-- In every run whose acknowledgments leave the count a counter, fast retransmit fires at the third
duplicate, and only then. -/
theorem fastRetransmit_at_third (h₀ : Counted w₀) (run : Run step w₀ tr w)
    (hcounts : ∀ x ∈ tr, x.1.CountsDups x.2) :
    ∀ x ∈ tr, ∀ dEventTime p, x.2 = .ack dEventTime p →
      (x.1.conn.heard dEventTime p).FiresAtThird x.1.dupAcks := by
  intro x hx dEventTime p hack
  obtain ⟨pre, post, w', rfl, hpre, -⟩ := run.prefix_of_mem hx
  have hcounted : Counted x.1 :=
    Run.induction (P := fun _ w => Counted w) (Q := CountsDups) h₀
      (fun _ _ _ _ _ h hcounts hstep => h.step hcounts hstep) hpre
      fun y hy => hcounts y (List.mem_append_right _ (List.mem_cons_of_mem _ hy))
  obtain ⟨hvariant, hcount⟩ := hcounted.heard dEventTime p
  have hcond := hcounts x hx
  rw [hack] at hcond
  rw [← hcount]
  exact Conn.firesAtThird_of_count hvariant (isSackOption_heard hcounted dEventTime p) hcond

def inFlight (variant : TcpVariant) : Watched where
  conn :=
    { dev := .config
      dEventTime := 0
      tcb := { zeroTcb with
        variant := variant
        SND := ⟨1000, 5000, 4000, 0, 0⟩
        congestionData := { zeroCongestionVar with SMSS := 1000, cwnd := 4000, ssthresh := 60000 } }
      waitFromApp := false
      isAPPClose := false
      sId := []
      listenCallback := false
      network := []
      application := []
      rtoTimeouts := []
      timeWaitTimeouts := 0
      windows := []
      closings := [] }
  dupAcks := 0

/-- An acknowledgment of everything below `ackNum`. -/
def ackOf (ackNum : Nat) : Segment :=
  { createTcpCtrlPacket .ack with ackNum := ackNum, ack := true, window := 4000 }

theorem counted_inFlight (variant : TcpVariant) (h : variant ≠ .oldTahoe) :
    Counted (inFlight variant) := ⟨h, rfl, rfl⟩

/-- Three duplicates in a row. -/
theorem fastRetransmit_at_third_reno :
    let w := ((inFlight .reno).after (.ack 0 (ackOf 1000))).after (.ack 0 (ackOf 1000))
    Conn.EntersRecovery (w.conn.heard 0 (ackOf 1000)) (w.conn.heard 0 (ackOf 1000)).ackReceived := by
  intro w
  have hcounts₀ : (inFlight .reno).CountsDups (.ack 0 (ackOf 1000)) := by
    constructor <;> decide +kernel
  have hcounts₁ : ((inFlight .reno).after (.ack 0 (ackOf 1000))).CountsDups
      (.ack 0 (ackOf 1000)) := by
    constructor <;> decide +kernel
  have hcounts₂ : w.CountsDups (.ack 0 (ackOf 1000)) := by
    constructor <;> decide +kernel
  have hfires := fastRetransmit_at_third (counted_inFlight .reno (by decide))
    (.snoc (.snoc (.snoc .nil rfl) rfl) rfl)
    (by simp only [List.forall_mem_cons]; exact ⟨hcounts₂, hcounts₁, hcounts₀, by simp⟩)
    (w, .ack 0 (ackOf 1000)) List.mem_cons_self 0 (ackOf 1000) rfl
  exact hfires.third (by decide +kernel) (by decide +kernel) (by decide +kernel)

/-- The claimed law: fast retransmit fires at the third duplicate in every run. -/
def FiresAtThirdAlways : Prop :=
  ∀ (w₀ w : Watched) (tr : List (Watched × SenderAction)), Counted w₀ → Run step w₀ tr w →
    ∀ x ∈ tr, ∀ dEventTime p, x.2 = .ack dEventTime p →
      (x.1.conn.heard dEventTime p).FiresAtThird x.1.dupAcks

/-- Two duplicates, an advance, and one more duplicate: Reno halves its threshold. -/
theorem not_firesAtThirdAlways : ¬FiresAtThirdAlways := by
  intro h
  let w := (((inFlight .reno).after (.ack 0 (ackOf 1000))).after (.ack 0 (ackOf 1000))).after
    (.ack 0 (ackOf 2000))
  have run : Run step (inFlight .reno) _ (w.after (.ack 0 (ackOf 2000))) :=
    .snoc (.snoc (.snoc (.snoc .nil rfl) rfl) rfl) rfl
  have hfires := h _ _ _ (counted_inFlight .reno (by decide)) run (w, .ack 0 (ackOf 2000))
    List.mem_cons_self 0 (ackOf 2000) rfl
  have hssthresh := (hfires.otherDup (by decide +kernel) (.inl (by decide +kernel))).ssthresh
  revert hssthresh
  decide +kernel

end Watched

end NetSim.Tcp
