import NetSim.Tcp.SackLost
import NetSim.Lib.CyclicWindow

/-!
# The loops of the loss recovery phase (`SACK.c`)

The loop of `tcp_sack_setPipe` may step over `SND.NXT` at the end of the sequence space. That of
`tcp_sack_lossRecoveryPhase` does not end once it picks a segment at or above `SND.NXT` with nothing
to send.
-/

namespace NetSim.Tcp

open NetSim.Lib

/-! ## The estimate of the pipe -/

namespace Tcb

variable {t : Tcb}

/-- Some number that the steps from `SND.UNA` come to lies at or above `SND.NXT`. -/
def StepsReachNxt (t : Tcb) : Prop :=
  t.SND.NXT ≤ 2 ^ 32 - Nat.gcd t.getMSS (2 ^ 32) + t.SND.UNA % Nat.gcd t.getMSS (2 ^ 32)

theorem setPipeRound_of_lt {s1 : Nat} (h : s1 < t.SND.NXT) (pipe : Nat) :
    ∃ pipe', t.setPipeRound (s1, pipe) = .inr (u32 (s1 + t.getMSS), pipe') := by
  change ∃ pipe', (if s1 < t.SND.NXT then _ else _) = _
  rw [if_pos h]
  exact ⟨_, rfl⟩

theorem setPipeRound_of_le {s1 : Nat} (h : t.SND.NXT ≤ s1) (pipe : Nat) :
    t.setPipeRound (s1, pipe) = .inl pipe := if_neg (Nat.not_lt.2 h)

theorem step_succ (s1 k mss : Nat) : (u32 (s1 + mss) + k * mss) % 2 ^ 32 =
    (s1 + (k + 1) * mss) % 2 ^ 32 := by
  have heq : s1 + (k + 1) * mss = s1 + mss + k * mss := by
    rw [Nat.add_mul, Nat.one_mul]
    omega
  rw [u32, Nat.mod_add_mod, heq]

theorem runLoop_setPipe {k : Nat} {s1 : Nat} (hs1 : s1 < 2 ^ 32)
    (hk : t.SND.NXT ≤ (s1 + k * t.getMSS) % 2 ^ 32) (pipe : Nat) :
    ∃ e, runLoop t.setPipeRound (k + 1) (s1, pipe) = some e := by
  induction k generalizing s1 pipe with
  | zero =>
    rw [Nat.zero_mul, Nat.add_zero, Nat.mod_eq_of_lt hs1] at hk
    exact ⟨pipe, runLoop_of_inl (setPipeRound_of_le hk pipe) 0⟩
  | succ k ih =>
    rcases Nat.lt_or_ge s1 t.SND.NXT with hlt | hge
    · obtain ⟨pipe', hround⟩ := setPipeRound_of_lt hlt pipe
      rw [runLoop_of_inr hround]
      rw [← step_succ] at hk
      exact ih (u32_lt _) hk pipe'
    · exact ⟨pipe, runLoop_of_inl (setPipeRound_of_le hge pipe) _⟩

theorem exists_step_of_runLoop {rounds s1 pipe e : Nat} (hs1 : s1 < 2 ^ 32)
    (hrun : runLoop t.setPipeRound rounds (s1, pipe) = some e) :
    ∃ k, t.SND.NXT ≤ (s1 + k * t.getMSS) % 2 ^ 32 := by
  induction rounds generalizing s1 pipe with
  | zero => cases hrun
  | succ rounds ih =>
    rcases Nat.lt_or_ge s1 t.SND.NXT with hlt | hge
    · obtain ⟨pipe', hround⟩ := setPipeRound_of_lt hlt pipe
      rw [runLoop_of_inr hround] at hrun
      obtain ⟨k, hk⟩ := ih (u32_lt _) hrun
      exact ⟨k + 1, by rwa [← step_succ]⟩
    · exact ⟨0, by rwa [Nat.zero_mul, Nat.add_zero, Nat.mod_eq_of_lt hs1]⟩

theorem setPipe_ends_iff (huna : t.SND.UNA < 2 ^ 32) :
    LoopEnds t.setPipeRound (t.SND.UNA, 0) ↔ t.StepsReachNxt := by
  unfold StepsReachNxt
  rw [← exists_step_ge_iff (by decide)]
  constructor
  · rintro ⟨rounds, e, hrun⟩
    exact exists_step_of_runLoop huna hrun
  · rintro ⟨k, hk⟩
    obtain ⟨e, he⟩ := runLoop_setPipe huna hk 0
    exact ⟨k + 1, e, he⟩

theorem runLoop_setPipe_of_ends (huna : t.SND.UNA < 2 ^ 32)
    (hends : LoopEnds t.setPipeRound (t.SND.UNA, 0)) :
    ∃ e, runLoop t.setPipeRound (2 ^ 32) (t.SND.UNA, 0) = some e := by
  obtain ⟨rounds, e, hrun⟩ := hends
  obtain ⟨k, hk⟩ := exists_step_of_runLoop huna hrun
  have hsame : (t.SND.UNA + k % 2 ^ 32 * t.getMSS) % 2 ^ 32 =
      (t.SND.UNA + k * t.getMSS) % 2 ^ 32 := by
    simp [Nat.add_mod, Nat.mul_mod]
  rw [← hsame] at hk
  obtain ⟨e', he'⟩ := runLoop_setPipe huna hk 0
  exact ⟨e', runLoop_mono he' (by omega)⟩

end Tcb

/-! ## The rounds of the recovery loop -/

namespace Conn

/-- One round of the loop of `tcp_sack_lossRecoveryPhase`, with the local copy of the estimate. -/
def recoveryRound (wnd mss : Nat) : Nat × Conn → Conn ⊕ (Nat × Conn)
  | (pipe, s) =>
    if wnd < u32 (mss + pipe) then .inl s
    else
      match s.sackNextSeg with
      | (none, s) => .inl s
      | (some nextSeg, s) =>
        if nextSeg < s.tcb.SND.NXT then
          .inr (pipe, (s.resendSegmentWithoutTimeout nextSeg).setHighRxt nextSeg)
        else
          let prev := s.tcb.SND.NXT
          let s := s.sendSegment
          let len := sub32 s.tcb.SND.NXT prev
          .inr (u32 (pipe + len), s.mapTcb fun t => { t with pipe := u32 (t.pipe + len) })

theorem lossRecoveryLoop_eq {wnd mss rounds pipe : Nat} {s s' : Conn}
    (hrun : runLoop (recoveryRound wnd mss) rounds (pipe, s) = some s') :
    lossRecoveryLoop wnd mss rounds pipe s = s' := by
  induction rounds generalizing pipe s with
  | zero => cases hrun
  | succ rounds ih =>
    rw [runLoop, recoveryRound] at hrun
    rw [lossRecoveryLoop]
    by_cases hfull : wnd < u32 (mss + pipe)
    · rw [if_pos hfull] at hrun ⊢
      exact Option.some.inj hrun
    · rw [if_neg hfull] at hrun ⊢
      cases hnext : s.sackNextSeg with
      | mk found s1 =>
        rw [hnext] at hrun
        cases found with
        | none => exact Option.some.inj hrun
        | some nextSeg =>
          dsimp only at hrun ⊢
          by_cases hlow : nextSeg < s1.tcb.SND.NXT
          · rw [if_pos hlow] at hrun ⊢
            exact ih hrun
          · rw [if_neg hlow] at hrun ⊢
            exact ih hrun

/-- The first packet in the socket interface fits the window that `send_segment` computes. -/
def firstFits (s : Conn) : Bool := s.sId.head?.any s.openWindow.windowHasRoom

/-- The segment that a round picks is not below `SND.NXT`, and `send_segment` has no packet that
fits. -/
def Stalls (wnd mss : Nat) : Nat × Conn → Prop
  | (pipe, s) => ¬wnd < u32 (mss + pipe) ∧
    (∃ nextSeg, s.sackNextSeg.1 = some nextSeg ∧ s.tcb.SND.NXT ≤ nextSeg) ∧ s.firstFits = false

def recoveryMeasure : Nat × Conn → Nat
  | (_, s) => s.tcb.retransmissionQueue.queue.countP
      (fun info => s.tcb.highRxt < info.packet.seqNum) + 2 * s.sId.length

/-! ## What a round reads -/

def recoveryView (s : Conn) : List QueueInfo × List SackData × Nat × CongestionVar ×
    List AppPacket × Nat × Nat × Bool × Nat :=
  (s.tcb.retransmissionQueue.queue, s.tcb.scoreboard, s.tcb.highRxt, s.tcb.congestionData, s.sId,
    s.tcb.SND.NXT, s.tcb.SND.UNA, s.tcb.isWindowScaling, s.tcb.sndWindShift)

variable {s s' : Conn} {wnd mss pipe : Nat}

theorem sackIsLost_congr {t t' : Tcb} (hboard : t'.scoreboard = t.scoreboard)
    (hmss : t'.congestionData = t.congestionData) : t'.sackIsLost = t.sackIsLost := by
  funext seqNum
  have hget : t'.getMSS = t.getMSS := by rw [Tcb.getMSS, hmss, Tcb.getMSS]
  have hedges : t'.edges = t.edges := by
    funext i
    rw [Tcb.edges, hboard, Tcb.edges]
  unfold Tcb.sackIsLost
  rw [Tcb.isLostFrom_eq, Tcb.isLostFrom_eq, hget, hedges]

theorem sackNextSeg_fst (s : Conn) : s.sackNextSeg.1 =
    match Tcb.firstUnsacked (fun s2 => s.tcb.highRxt < s2 && s.tcb.sackIsLost s2)
        s.tcb.retransmissionQueue.queue with
    | some s2 => some s2
    | none =>
      if s.sId.head?.any fun p => u32 (s.tcb.SND.NXT + u32 p.dPacketSize) ≤
          u32 (s.tcb.congestionData.cwnd + s.tcb.SND.UNA) then
        if s.tcb.SND.NXT = 0 then none else some s.tcb.SND.NXT
      else Tcb.firstUnsacked (fun s2 => s.tcb.highRxt < s2) s.tcb.retransmissionQueue.queue := by
  unfold sackNextSeg
  dsimp only
  cases Tcb.firstUnsacked (fun s2 => s.tcb.highRxt < s2 && s.tcb.sackIsLost s2)
      s.tcb.retransmissionQueue.queue with
  | some s2 => rfl
  | none => exact apply_ite Prod.fst _ _ _

theorem sackNextSeg_of_view (h : s'.recoveryView = s.recoveryView) :
    s'.sackNextSeg.1 = s.sackNextSeg.1 := by
  simp only [recoveryView, Prod.mk.injEq] at h
  obtain ⟨hqueue, hboard, hrxt, hcong, hsId, hnxt, huna, -, -⟩ := h
  have hlost := sackIsLost_congr hboard hcong
  simp only [sackNextSeg_fst, hqueue, hlost, hrxt, hsId, hcong, hnxt, huna]

theorem firstFits_eq (s : Conn) : s.firstFits = s.sId.head?.any fun p =>
    u32 (s.tcb.SND.NXT + u32 p.dPacketSize) ≤ u32 (s.tcb.windowScaleGetCwnd + s.tcb.SND.UNA) := rfl

theorem firstFits_of_view (h : s'.recoveryView = s.recoveryView) : s'.firstFits = s.firstFits := by
  simp only [recoveryView, Prod.mk.injEq] at h
  obtain ⟨-, -, -, hcong, hsId, hnxt, huna, hscaling, hshift⟩ := h
  have hwindow : s'.tcb.windowScaleGetCwnd = s.tcb.windowScaleGetCwnd := by
    unfold Tcb.windowScaleGetCwnd Tcb.getWND
    rw [hcong, hscaling, hshift]
  simp only [firstFits_eq, hwindow, hsId, hnxt, huna]

theorem recoveryView_sackNextSeg (s : Conn) : s.sackNextSeg.2.recoveryView = s.recoveryView := by
  unfold sackNextSeg
  dsimp only
  split
  · rfl
  · split
    · rfl
    · rfl

theorem recoveryView_tcpClose (s : Conn) : s.tcpClose.recoveryView = s.recoveryView := by
  unfold tcpClose
  split
  · rfl
  · obtain ⟨prev, heq⟩ := s.sendFin.changeState_eq .finWait1
    rw [heq]
    rfl

/-! ## Sending new data -/

theorem sendLoop_of_not_room {l : List AppPacket} (h : l.head?.any s.windowHasRoom = false) :
    s.sendLoop l = { s with sId := l } := by
  cases l with
  | nil => rfl
  | cons p rest =>
    have hroom : s.windowHasRoom p = false := h
    rw [sendLoop, if_neg (by simp [hroom])]

theorem measure_sendPacket (s : Conn) (p : AppPacket) (rest : List AppPacket) :
    recoveryMeasure (pipe, { s.sendPacket p with sId := rest }) <
      recoveryMeasure (pipe, { s with sId := p :: rest }) := by
  have hqueue : (s.sendPacket p).tcb.retransmissionQueue.queue =
      s.tcb.retransmissionQueue.queue.orderedInsert TcpQueue.seqLe
        ⟨s.addTcpHdr p, s.dEventTime, false⟩ := rfl
  have hrxt : (s.sendPacket p).tcb.highRxt = s.tcb.highRxt := rfl
  have hperm := List.perm_orderedInsert TcpQueue.seqLe ⟨s.addTcpHdr p, s.dEventTime, false⟩
    s.tcb.retransmissionQueue.queue
  unfold recoveryMeasure
  dsimp only
  rw [hqueue, hrxt, hperm.countP_eq, List.countP_cons, List.length_cons]
  split
  · omega
  · omega

theorem measure_sendLoop (l : List AppPacket) (s : Conn) :
    recoveryMeasure (pipe, s.sendLoop l) ≤ recoveryMeasure (pipe, { s with sId := l }) := by
  induction l generalizing s with
  | nil => exact Nat.le_refl _
  | cons p rest ih =>
    rw [sendLoop]
    split
    · exact Nat.le_trans (ih _) (Nat.le_of_lt (measure_sendPacket s p rest))
    · exact Nat.le_refl _

theorem measure_sendLoop_of_room {p : AppPacket} {rest : List AppPacket}
    (hroom : s.windowHasRoom p = true) :
    recoveryMeasure (pipe, s.sendLoop (p :: rest)) <
      recoveryMeasure (pipe, { s with sId := p :: rest }) := by
  rw [sendLoop, if_pos hroom]
  exact Nat.lt_of_le_of_lt (measure_sendLoop rest _) (measure_sendPacket s p rest)

theorem measure_of_view (h : s'.recoveryView = s.recoveryView) (pipe pipe' : Nat) :
    recoveryMeasure (pipe, s') = recoveryMeasure (pipe', s) := by
  simp only [recoveryView, Prod.mk.injEq] at h
  obtain ⟨hqueue, -, hrxt, -, hsId, -⟩ := h
  unfold recoveryMeasure
  dsimp only
  rw [hqueue, hrxt, hsId]

/-- The state in which the loop of `send_segment` starts. -/
def sendStart (s : Conn) : Conn :=
  (if s.sId = [] then { s with waitFromApp := true } else s).openWindow

theorem recoveryView_sendStart (s : Conn) : s.sendStart.recoveryView = s.recoveryView := by
  unfold sendStart
  split
  · rfl
  · rfl

theorem sendStart_sId (s : Conn) : s.sendStart.sId = s.sId := by
  unfold sendStart
  split
  · rfl
  · rfl

theorem sendStart_windowHasRoom (s : Conn) :
    s.sendStart.windowHasRoom = s.openWindow.windowHasRoom := by
  unfold sendStart
  split
  · rfl
  · rfl

theorem recoveryView_sendSegment (s : Conn) :
    s.sendSegment.recoveryView = (s.sendStart.sendLoop s.sId).recoveryView := by
  have hshape : s.sendSegment =
      if (s.sendStart.sendLoop s.sendStart.sId).isAPPClose then
        (s.sendStart.sendLoop s.sendStart.sId).tcpClose
      else s.sendStart.sendLoop s.sendStart.sId := rfl
  rw [hshape, sendStart_sId]
  split
  · exact recoveryView_tcpClose _
  · rfl

theorem measure_sendSegment (h : s.firstFits = true) (pipe pipe' : Nat) :
    recoveryMeasure (pipe, s.sendSegment) < recoveryMeasure (pipe', s) := by
  rw [measure_of_view (recoveryView_sendSegment s) pipe pipe']
  unfold firstFits at h
  rw [← sendStart_windowHasRoom] at h
  cases hsId : s.sId with
  | nil =>
    rw [hsId] at h
    cases h
  | cons p rest =>
    rw [hsId] at h
    have hlt : recoveryMeasure (pipe', s.sendStart.sendLoop (p :: rest)) <
        recoveryMeasure (pipe', { s.sendStart with sId := p :: rest }) :=
      measure_sendLoop_of_room h
    have hview : { s.sendStart with sId := p :: rest }.recoveryView = s.recoveryView := by
      rw [← recoveryView_sendStart s, ← hsId, ← sendStart_sId s]
    rwa [measure_of_view hview pipe' pipe'] at hlt

theorem recoveryView_sendSegment_of_not_fits (h : s.firstFits = false) :
    s.sendSegment.recoveryView = s.recoveryView := by
  unfold firstFits at h
  rw [← sendStart_windowHasRoom] at h
  rw [recoveryView_sendSegment, sendLoop_of_not_room h, ← sendStart_sId s]
  exact recoveryView_sendStart s

/-! ## Sending again -/

theorem firstUnsacked_some {test : Nat → Bool} {queue : List QueueInfo} {seqNum : Nat}
    (h : Tcb.firstUnsacked test queue = some seqNum) :
    ∃ info ∈ queue, info.packet.seqNum = seqNum ∧ test seqNum = true := by
  induction queue with
  | nil => cases h
  | cons info queue ih =>
    rw [Tcb.firstUnsacked] at h
    split at h
    · next hfound =>
      obtain rfl := Option.some.inj h
      simp only [Bool.and_eq_true] at hfound
      exact ⟨info, List.mem_cons_self, rfl, hfound.1.2⟩
    · obtain ⟨found, hmem, hrest⟩ := ih h
      exact ⟨found, List.mem_cons_of_mem _ hmem, hrest⟩

theorem exists_queued_of_sackNextSeg {nextSeg : Nat} (h : s.sackNextSeg.1 = some nextSeg)
    (hlow : nextSeg < s.tcb.SND.NXT) :
    ∃ info ∈ s.tcb.retransmissionQueue.queue, info.packet.seqNum = nextSeg ∧
      s.tcb.highRxt < nextSeg := by
  rw [sackNextSeg_fst] at h
  split at h
  · next s2 hfirst =>
    obtain rfl := Option.some.inj h
    obtain ⟨info, hmem, hseq, htest⟩ := firstUnsacked_some hfirst
    exact ⟨info, hmem, hseq, by simpa using (Bool.and_eq_true_iff.1 htest).1⟩
  · split at h
    · -- rule 2 picks `SND.NXT` itself
      split at h
      · cases h
      · obtain rfl := Option.some.inj h
        exact absurd hlow (Nat.lt_irrefl _)
    · obtain ⟨info, hmem, hseq, htest⟩ := firstUnsacked_some h
      exact ⟨info, hmem, hseq, by simpa using htest⟩

theorem highRxt_resend (s : Conn) (seq : Nat) :
    ((s.resendSegmentWithoutTimeout seq).setHighRxt seq).tcb.highRxt = max s.tcb.highRxt seq := by
  unfold resendSegmentWithoutTimeout
  split
  · rfl
  · split
    · rfl
    · change max (max s.tcb.highRxt seq) seq = _
      omega

theorem queue_resend (s : Conn) (seq : Nat) :
    ((s.resendSegmentWithoutTimeout seq).setHighRxt seq).tcb.retransmissionQueue =
      s.tcb.retransmissionQueue ∧
      ((s.resendSegmentWithoutTimeout seq).setHighRxt seq).sId = s.sId := by
  unfold resendSegmentWithoutTimeout
  split
  · exact ⟨rfl, rfl⟩
  · split
    · exact ⟨rfl, rfl⟩
    · exact ⟨rfl, rfl⟩

theorem countP_lt_of_mem {queue : List QueueInfo} {low high : Nat} {info : QueueInfo}
    (hmem : info ∈ queue) (hseq : info.packet.seqNum = high) (hlow : low < high) :
    queue.countP (fun info => high < info.packet.seqNum) <
      queue.countP fun info => low < info.packet.seqNum := by
  obtain ⟨l1, l2, rfl⟩ := List.append_of_mem hmem
  have hmono (l : List QueueInfo) : l.countP (fun info => high < info.packet.seqNum) ≤
      l.countP fun info => low < info.packet.seqNum := by
    apply List.countP_mono_left
    intro x _ hx
    simp only [decide_eq_true_eq] at hx ⊢
    omega
  have h1 := hmono l1
  have h2 := hmono l2
  rw [List.countP_append, List.countP_append, List.countP_cons, List.countP_cons,
    if_neg (by simp [hseq]), if_pos (by simpa [hseq] using hlow)]
  omega

theorem measure_resend {nextSeg : Nat} (h : s.sackNextSeg.1 = some nextSeg)
    (hlow : nextSeg < s.tcb.SND.NXT) (hview : s'.recoveryView = s.recoveryView) :
    recoveryMeasure (pipe, (s'.resendSegmentWithoutTimeout nextSeg).setHighRxt nextSeg) <
      recoveryMeasure (pipe, s) := by
  obtain ⟨info, hmem, hseq, hrxt⟩ := exists_queued_of_sackNextSeg h hlow
  rw [← measure_of_view hview pipe pipe]
  simp only [recoveryView, Prod.mk.injEq] at hview
  obtain ⟨hqueue', -, hrxt', -⟩ := hview
  obtain ⟨hqueue, hsId⟩ := queue_resend s' nextSeg
  unfold recoveryMeasure
  dsimp only
  rw [hqueue, hsId, highRxt_resend, hrxt', hqueue', Nat.max_eq_right (Nat.le_of_lt hrxt)]
  have hlt := countP_lt_of_mem hmem hseq hrxt
  omega

/-! ## The loop -/

theorem recoveryRound_of_full (h : wnd < u32 (mss + pipe)) (s : Conn) :
    recoveryRound wnd mss (pipe, s) = .inl s := by
  rw [recoveryRound, if_pos h]

theorem recoveryRound_inr {y : Nat × Conn} (h : recoveryRound wnd mss (pipe, s) = .inr y) :
    ¬wnd < u32 (mss + pipe) ∧ ∃ nextSeg, s.sackNextSeg.1 = some nextSeg ∧
      (nextSeg < s.tcb.SND.NXT ∧
          y = (pipe, (s.sackNextSeg.2.resendSegmentWithoutTimeout nextSeg).setHighRxt nextSeg) ∨
        s.tcb.SND.NXT ≤ nextSeg ∧ ∃ len, y = (u32 (pipe + len),
          s.sackNextSeg.2.sendSegment.mapTcb fun t => { t with pipe := u32 (t.pipe + len) })) := by
  have hview := recoveryView_sackNextSeg s
  simp only [recoveryView, Prod.mk.injEq] at hview
  obtain ⟨-, -, -, -, -, hnxt, -⟩ := hview
  rw [recoveryRound] at h
  split at h
  · cases h
  · next hroom =>
    refine ⟨hroom, ?_⟩
    split at h
    · cases h
    · next nextSeg s1 heq =>
      rw [heq] at hnxt ⊢
      dsimp only at hnxt ⊢
      refine ⟨nextSeg, rfl, ?_⟩
      split at h
      · next hlow => exact Or.inl ⟨by rwa [← hnxt], (Sum.inr.inj h).symm⟩
      · next hlow => exact Or.inr ⟨by rw [← hnxt]; omega, _, (Sum.inr.inj h).symm⟩

theorem recoveryRound_falls (x y : Nat × Conn) (h : recoveryRound wnd mss x = .inr y)
    (hstall : ¬Stalls wnd mss x) : recoveryMeasure y < recoveryMeasure x := by
  obtain ⟨pipe, s⟩ := x
  obtain ⟨hroom, nextSeg, hnext, ⟨hlow, rfl⟩ | ⟨hhigh, len, rfl⟩⟩ := recoveryRound_inr h
  · exact measure_resend hnext hlow (recoveryView_sackNextSeg s)
  · have hfits : s.firstFits = true := by
      by_contra hno
      exact hstall ⟨hroom, ⟨nextSeg, hnext, hhigh⟩, by simpa using hno⟩
    rw [← firstFits_of_view (recoveryView_sackNextSeg s)] at hfits
    rw [← measure_of_view (recoveryView_sackNextSeg s) pipe pipe]
    exact measure_sendSegment hfits (u32 (pipe + len)) pipe

theorem recoveryRound_of_stalls (x : Nat × Conn) (h : Stalls wnd mss x) :
    ∃ y, recoveryRound wnd mss x = .inr y ∧ Stalls wnd mss y := by
  obtain ⟨pipe, s⟩ := x
  obtain ⟨hroom, ⟨nextSeg, hnext, hhigh⟩, hfits⟩ := h
  have hview := recoveryView_sackNextSeg s
  have hsent := recoveryView_sendSegment_of_not_fits ((firstFits_of_view hview).trans hfits)
  have hafter := hsent.trans hview
  have hnxt : s.sackNextSeg.2.tcb.SND.NXT = s.tcb.SND.NXT := by
    simp only [recoveryView, Prod.mk.injEq] at hview
    exact hview.2.2.2.2.2.1
  have hnxt' : s.sackNextSeg.2.sendSegment.tcb.SND.NXT = s.tcb.SND.NXT := by
    simp only [recoveryView, Prod.mk.injEq] at hafter
    exact hafter.2.2.2.2.2.1
  let len := sub32 s.sackNextSeg.2.sendSegment.tcb.SND.NXT s.sackNextSeg.2.tcb.SND.NXT
  have hlen : u32 (mss + u32 (pipe + len)) = u32 (mss + pipe) := by
    have hzero : len = 0 := by
      change sub32 _ _ = 0
      unfold sub32
      omega
    unfold u32
    omega
  refine ⟨(u32 (pipe + len), s.sackNextSeg.2.sendSegment.mapTcb fun t =>
    { t with pipe := u32 (t.pipe + len) }), ?_, ?_⟩
  · rw [recoveryRound, if_neg hroom]
    have hpair : s.sackNextSeg = (some nextSeg, s.sackNextSeg.2) := by rw [← hnext]
    rw [hpair]
    dsimp only
    rw [if_neg (by rw [hnxt]; omega)]
  · have hsame : (s.sackNextSeg.2.sendSegment.mapTcb fun t =>
        { t with pipe := u32 (t.pipe + len) }).recoveryView = s.recoveryView := hafter
    refine ⟨by rw [hlen]; exact hroom, ⟨nextSeg, ?_, ?_⟩, ?_⟩
    · rw [sackNextSeg_of_view hsame, hnext]
    · change s.sackNextSeg.2.sendSegment.tcb.SND.NXT ≤ nextSeg
      rw [hnxt']
      exact hhigh
    · rw [firstFits_of_view hsame, hfits]

theorem recoveryLoop_ends_iff (wnd mss pipe : Nat) (s : Conn) :
    LoopEnds (recoveryRound wnd mss) (pipe, s) ↔
      ∀ x, LoopReaches (recoveryRound wnd mss) (pipe, s) x → ¬Stalls wnd mss x :=
  loopEnds_iff_of_measure recoveryMeasure recoveryRound_falls recoveryRound_of_stalls

theorem lossRecoveryLoop_of_ends {wnd mss pipe : Nat}
    (hends : LoopEnds (recoveryRound wnd mss) (pipe, s)) :
    runLoop (recoveryRound wnd mss) s.lossRecoveryRounds (pipe, s) =
      some (lossRecoveryLoop wnd mss s.lossRecoveryRounds pipe s) := by
  obtain ⟨e, he⟩ := runLoop_of_measure recoveryMeasure fun x y hreach hround =>
    recoveryRound_falls x y hround ((recoveryLoop_ends_iff wnd mss pipe s).1 hends x hreach)
  have hle : recoveryMeasure (pipe, s) + 1 ≤ s.lossRecoveryRounds := by
    have hcount : s.tcb.retransmissionQueue.queue.countP
        (fun info => s.tcb.highRxt < info.packet.seqNum) ≤ _ := List.countP_le_length
    unfold recoveryMeasure lossRecoveryRounds
    dsimp only
    omega
  have hrun := runLoop_mono he hle
  rw [hrun, lossRecoveryLoop_eq hrun]

/-! ## Both loops -/

def recoveryStart (s : Conn) : Nat × Conn :=
  ((s.mapTcb Tcb.sackSetPipe).tcb.pipe, s.mapTcb Tcb.sackSetPipe)

/-- The loop of `tcp_sack_setPipe` ends exactly when it comes to a number at or above `SND.NXT`,
that of `tcp_sack_lossRecoveryPhase` exactly when no round picks a segment at or above `SND.NXT`
with nothing that fits. -/
theorem lossRecovery_ends_iff (s : Conn) (huna : s.tcb.SND.UNA ≤ s.tcb.SND.NXT) (hnxt : s.tcb.SND.NXT < 2 ^ 32) :
    (LoopEnds s.tcb.setPipeRound (s.tcb.SND.UNA, 0) ↔ s.tcb.StepsReachNxt) ∧
    (LoopEnds (recoveryRound s.tcb.getWND s.tcb.getMSS) s.recoveryStart ↔
      ∀ x, LoopReaches (recoveryRound s.tcb.getWND s.tcb.getMSS) s.recoveryStart x →
        ¬Stalls s.tcb.getWND s.tcb.getMSS x) :=
  ⟨Tcb.setPipe_ends_iff (by omega), recoveryLoop_ends_iff _ _ _ _⟩

/-- A connection with nothing queued, segments of 1024 bytes and these numbers in flight. -/
def inFlight (una nxt : Nat) : Conn where
  dev := .config
  dEventTime := 0
  tcb := { zeroTcb with
    SND := ⟨una, nxt, 0, 0, 0⟩
    congestionData := { zeroCongestionVar with SMSS := 1024, cwnd := 2048 } }
  waitFromApp := false
  isAPPClose := false
  sId := []
  listenCallback := false
  network := []
  application := []
  rtoTimeouts := []
  timeWaitTimeouts := 0
  windows := []
  closings := []

/-- Two segments from number 1 on fill the window: both loops end. -/
theorem lossRecovery_ends_inFlight :
    LoopEnds (inFlight 1 2049).tcb.setPipeRound (1, 0) ∧
      LoopEnds (recoveryRound 2048 1024) (inFlight 1 2049).recoveryStart := by
  obtain ⟨hpipe, hloop⟩ := lossRecovery_ends_iff (inFlight 1 2049) (by decide) (by decide)
  refine ⟨hpipe.2 (by unfold Tcb.StepsReachNxt; decide +kernel), hloop.2 ?_⟩
  have hround : recoveryRound 2048 1024 (inFlight 1 2049).recoveryStart =
      .inl (inFlight 1 2049).recoveryStart.2 :=
    recoveryRound_of_full (by decide +kernel : 2048 < u32 (1024 + (inFlight 1 2049).recoveryStart.1)) _
  intro x hreach
  rcases Relation.ReflTransGen.cases_head hreach with rfl | ⟨y, hy, -⟩
  · rintro hstall
    obtain ⟨y, hy, -⟩ := recoveryRound_of_stalls _ hstall
    exact absurd (hround.symm.trans hy) (by simp)
  · exact absurd (hround.symm.trans hy) (by simp)

def LossRecoveryEnds : Prop :=
  ∀ s : Conn, 1 ≤ s.tcb.congestionData.SMSS → s.tcb.SND.UNA ≤ s.tcb.SND.NXT →
    s.tcb.SND.NXT < 2 ^ 32 →
      LoopEnds s.tcb.setPipeRound (s.tcb.SND.UNA, 0) ∧
        LoopEnds (recoveryRound s.tcb.getWND s.tcb.getMSS) s.recoveryStart

/-- Every step that stays on the grid of 1024 misses the last 500 numbers. -/
theorem not_lossRecoveryEnds : ¬LossRecoveryEnds := by
  intro h
  obtain ⟨hends, -⟩ := h (inFlight (2 ^ 32 - 2048) (2 ^ 32 - 500)) (by decide) (by decide)
    (by decide)
  have hreach := (Tcb.setPipe_ends_iff (by decide)).1 hends
  unfold Tcb.StepsReachNxt at hreach
  revert hreach
  decide +kernel

/-- If the loop of `tcp_sack_setPipe` ends, it does within `2 ^ 32` rounds; that of
`tcp_sack_lossRecoveryPhase` within one for each queued segment, two for each waiting packet, and
one. -/
theorem lossRecovery_rounds (hack : s.tcb.SEG.ACK ≤ s.tcb.recoveryPoint)
    (huna : s.tcb.SND.UNA < 2 ^ 32) (hpipe : LoopEnds s.tcb.setPipeRound (s.tcb.SND.UNA, 0))
    (hloop : LoopEnds (recoveryRound s.tcb.getWND s.tcb.getMSS) s.recoveryStart) :
    runLoop s.tcb.setPipeRound (2 ^ 32) (s.tcb.SND.UNA, 0) = some s.recoveryStart.1 ∧
      runLoop (recoveryRound s.tcb.getWND s.tcb.getMSS) s.lossRecoveryRounds s.recoveryStart =
        some s.sackLossRecoveryPhase.2 := by
  obtain ⟨pipe, hrun⟩ := Tcb.runLoop_setPipe_of_ends huna hpipe
  constructor
  · change _ = some ((runLoop _ _ _).getD 0)
    rw [hrun]
    rfl
  · rw [sackLossRecoveryPhase, if_neg (Nat.not_lt.2 hack)]
    exact lossRecoveryLoop_of_ends hloop

/-- The pipe is as large as the window. -/
theorem lossRecovery_rounds_inFlight : runLoop (inFlight 1 2049).tcb.setPipeRound (2 ^ 32) (1, 0) =
    some 2048 := by
  have hround : recoveryRound 2048 1024 (inFlight 1 2049).recoveryStart =
      .inl (inFlight 1 2049).recoveryStart.2 := recoveryRound_of_full (by decide +kernel) _
  refine (lossRecovery_rounds (s := inFlight 1 2049) (by decide) (by decide) ?_
    ⟨1, _, runLoop_of_inl hround 0⟩).1
  exact (Tcb.setPipe_ends_iff (by decide)).2 (by unfold Tcb.StepsReachNxt; decide +kernel)

end Conn

end NetSim.Tcp
