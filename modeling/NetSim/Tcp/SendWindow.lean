import NetSim.Tcp.CongestionWindow
import NetSim.Tcp.Sender

/-!
# The send window over whole runs (`TCP_Outgoing.c`)

`WindowSafe` is the condition on an event under which its handler keeps a window of one segment.
-/

namespace NetSim.Tcp

open NetSim.Lib

/-- `process_ack_packet` hands the acknowledgment `p` to the congestion control. -/
def Conn.TakesAck (c : Conn) (p : Segment) : Prop :=
  match c.tcb.tcpState with
  | .established | .finWait1 | .finWait2 | .closeWait | .closing => True
  | .synReceived => c.tcb.SND.UNA ≤ p.ackNum ∧ p.ackNum ≤ c.tcb.SND.NXT
  | .closed | .listen | .synSent | .lastAck | .timeWait => False

/-- The connection with which `process_ack_in_establishedState` starts on `p`. -/
def Conn.ackConn (c : Conn) (p : Segment) : Conn :=
  if c.tcb.tcpState = .synReceived then
    ((c.read p).mapTcb Tcb.updateSendWindow).changeState .established
  else c.read p

/-- The initial window, what an acknowledgment leaves, and the loss window hold a segment. -/
structure WindowSafe (c : Conn) (e : EventKind) : Prop where
  opens : ∀ p, e = .segment p → c.tcb.tcpState = .synSent → p.rst = false → p.syn = true →
    c.tcb.ISS < p.ackNum → p.ackNum ≤ c.tcb.SND.NXT →
      c.tcb.OpenSafe c.dev (getMssOption p.option)
  acks : ∀ p, e = .segment p → Accepted c p → p.rst = false → p.syn = false → p.ack = true →
    c.TakesAck p → ((c.ackConn p).tcb.readAck p).AckSafe c.dEventTime
  timeouts : ∀ p, e = .rtoTimeout p → p.isTCPControl = false → c.tcb.isOtherTimerCancel = false →
    c.tcb.retransmissionQueue.isSegmentInQueue p = true →
      c.tcb.HoldsSegment c.tcb.congestionData.LW

/-! ## What a step preserves -/

structure Unopened (c : Conn) : Prop where
  state : Socket.isSynchronized c.tcb.tcpState = false
  asleep : c.waitFromApp = false
  control : ∀ p ∈ c.rtoTimeouts, p.isTCPControl = true
  windows : c.windows = []
  queued : ∀ p ∈ c.queued, p.isTCPControl = true
  shift_le : c.tcb.sndWindShift ≤ 14

namespace Conn.Wide

variable {s : Conn} {p : Segment}

theorem read (h : s.Wide) (p : Segment) : (s.read p).Wide := h.of_eq rfl rfl

theorem processAckPacket (h : s.Wide)
    (hsafe : s.TakesAck p → ((s.ackConn p).tcb.readAck p).AckSafe s.dEventTime) :
    ((s.read p).processAckPacket p).Wide := by
  have hread := h.read p
  have hsend : s.tcb.tcpState ≠ .synReceived → s.TakesAck p →
      ((s.read p).processAckAndSend p).Wide := by
    intro hne htakes
    have hsafe := hsafe htakes
    rw [Conn.ackConn, if_neg hne] at hsafe
    exact hread.processAckAndSend hsafe
  have hsame : (s.read p).tcb.tcpState = s.tcb.tcpState := rfl
  unfold Conn.processAckPacket
  rw [hsame]
  cases hstate : s.tcb.tcpState with
  | synReceived =>
    dsimp only
    split
    · next htakes =>
      have hsafe := hsafe (by rw [Conn.TakesAck, hstate]; exact htakes)
      rw [Conn.ackConn, if_pos hstate] at hsafe
      have hupdated : ((s.read p).mapTcb Tcb.updateSendWindow).Wide := hread.of_eq rfl rfl
      have hopen := hupdated.changeState .established
      exact hopen.processAckAndSend hsafe
    · exact hread.of_eq rfl rfl
  | established | finWait2 | closeWait =>
    have hsent := hsend (by simp [hstate]) (by simp [Conn.TakesAck, hstate])
    exact hsent
  | finWait1 =>
    have hsent := hsend (by simp [hstate]) (by simp [Conn.TakesAck, hstate])
    dsimp only
    split
    · exact hsent.changeState _
    · exact hsent
  | closing =>
    have hsent := hsend (by simp [hstate]) (by simp [Conn.TakesAck, hstate])
    dsimp only
    split
    · have htimer : ((s.read p).processAckAndSend p).startTimewaitTimer.Wide := hsent.of_eq rfl rfl
      exact htimer.changeState _
    · exact hsent
  | timeWait =>
    exact hread.of_eq rfl rfl
  | closed | listen | synSent | lastAck =>
    exact hread

theorem synAckArrives (hshift : s.tcb.sndWindShift ≤ 14) (hwindows : ∀ w ∈ s.windows, w.2 ≤ w.1)
    (hsafe : s.tcb.OpenSafe s.dev (getMssOption p.option)) : (s.synAckArrives p).Wide := by
  have hmss : Tcb.Wide (Tcb.readMss { s.tcb with
      RCV.NXT := u32 (s.tcb.SEG.SEQ + 1), IRS := s.tcb.SEG.SEQ, SND.UNA := s.tcb.SEG.ACK } s.dev
      (getMssOption p.option)) := by
    apply Tcb.OpenSafe.readMss
    · exact hshift
    · exact hsafe
  have hread : (s.tcb.readSynAck s.dev p).Wide := by
    have hwnd := Tcb.wnd_readTimestamp (Tcb.readMss { s.tcb with
      RCV.NXT := u32 (s.tcb.SEG.SEQ + 1), IRS := s.tcb.SEG.SEQ, SND.UNA := s.tcb.SEG.ACK } s.dev
      (getMssOption p.option)) p
    exact (hmss.of_wnd hwnd).of_wnd rfl
  have htaken : Conn.Wide { s with tcb := s.tcb.readSynAck s.dev p } := ⟨hread, hwindows⟩
  rw [s.synAckArrives_readSynAck]
  split
  · apply sendSegment
    apply changeState
    exact htaken.of_eq rfl rfl
  · exact htaken

end Conn.Wide

structure Fit (s : Socket) : Prop where
  windows : ∀ w ∈ s.conn.windows, w.2 ≤ w.1
  live : s.Live → Unopened s.conn ∨ s.conn.Wide

variable {c : Conn}

theorem Fit.of_wide {deleted freed : Bool} (h : c.Wide) : Fit ⟨c, deleted, freed⟩ :=
  ⟨h.windows, fun _ => .inr h⟩

theorem Fit.of_unopened (h : Unopened c) : Fit ⟨c, false, false⟩ :=
  ⟨by rw [h.windows]; exact nofun, fun _ => .inl h⟩

theorem Unopened.of_eq {c' : Conn} (h : Unopened c) (hstate : c'.tcb.tcpState = c.tcb.tcpState)
    (hwait : c'.waitFromApp = c.waitFromApp) (htimeouts : c'.rtoTimeouts = c.rtoTimeouts)
    (hwindows : c'.windows = c.windows) (hqueue : c'.queued = c.queued)
    (hshift : c'.tcb.sndWindShift = c.tcb.sndWindShift) : Unopened c' :=
  ⟨by rw [hstate]; exact h.state, hwait.trans h.asleep, by rw [htimeouts]; exact h.control,
    hwindows.trans h.windows, by rw [hqueue]; exact h.queued, by rw [hshift]; exact h.shift_le⟩

theorem Unopened.handled {e : EventKind} {s' : Socket} (h : Unopened c)
    (hsafe : WindowSafe c e) (hh : Handled c e s') : Fit s' := by
  have hnone : ∀ w ∈ c.windows, w.2 ≤ w.1 := by rw [h.windows]; exact nofun
  have hclosed {p : Segment} (ha : Accepted c p) : Fit s' := by
    have hstate := ha.state
    rw [h.state] at hstate
    cases hstate
  cases hh with
  | ignored => exact .of_unopened (h.of_eq rfl rfl rfl rfl rfl rfl)
  | answered _ => exact .of_unopened (h.of_eq rfl rfl rfl rfl rfl rfl)
  | @opened p hstate hrst hsyn hiss hnxt =>
    exact .of_wide (.synAckArrives h.shift_le hnone (hsafe.opens p rfl hstate hrst hsyn hiss hnxt))
  | relistens hstate =>
    have hstate' := h.state
    rw [hstate] at hstate'
    cases hstate'
  | reset ha _ => exact hclosed ha
  | finished ha _ _ _ _ => exact hclosed ha
  | ack ha _ _ _ _ => exact hclosed ha
  | text ha _ _ _ => exact hclosed ha
  | expired _ _ =>
    exact .of_unopened ⟨h.state, h.asleep, fun q hq => h.control q (List.mem_of_mem_erase hq),
      h.windows, h.queued, h.shift_le⟩
  | @synAgain p syn q _ _ _ hq =>
    obtain ⟨hsyn, hrest⟩ := TcpQueue.mem_of_getSegmentFromQueue hq
    refine .of_unopened ⟨h.state, h.asleep, ?_, h.windows, ?_, h.shift_le⟩
    · intro r hr
      rcases List.mem_append.1 hr with hr | hr
      · exact h.control r (List.mem_of_mem_erase hr)
      · obtain rfl := List.mem_singleton.1 hr
        exact h.queued r hsyn
    · intro r hr
      rcases TcpQueue.mem_addPacketToQueue hr with rfl | hr
      · exact h.queued _ hsyn
      · exact h.queued r (hrest r hr)
  | synGivenUp _ _ _ =>
    refine ⟨?_, fun hlive => absurd hlive.freed (by simp)⟩
    exact hnone
  | resent hp _ _ hctrl =>
    rw [h.control _ hp] at hctrl
    cases hctrl
  | timeWaitRestarts _ => exact .of_unopened (h.of_eq rfl rfl rfl rfl rfl rfl)
  | timeWaitEnds _ =>
    refine ⟨?_, fun hlive => absurd hlive.tcbDeleted (by simp)⟩
    exact hnone
  | woken hwait =>
    rw [h.asleep] at hwait
    cases hwait
  | notWoken _ => exact .of_unopened h
  | passed => exact .of_unopened (h.of_eq rfl rfl rfl rfl rfl rfl)

theorem Conn.Wide.handled {e : EventKind} {s' : Socket} (h : c.Wide)
    (hsafe : WindowSafe c e) (hh : Handled c e s') : s'.conn.Wide := by
  cases hh with
  | ignored => exact h.read _
  | answered _ => exact h.of_eq rfl rfl
  | @opened p hstate hrst hsyn hiss hnxt =>
    exact synAckArrives h.tcb.shift_le h.windows (hsafe.opens p rfl hstate hrst hsyn hiss hnxt)
  | @relistens p _ => exact (h.read p).changeState .listen
  | @reset p _ _ => exact (h.read p).changeState .closed
  | @finished p _ _ _ _ _ => exact (h.read p).changeState .closed
  | @ack p ha _ hrst hsyn hack => exact h.processAckPacket (hsafe.acks p rfl ha hrst hsyn hack)
  | @text p _ _ hsyn _ => exact (h.read p).processText hsyn
  | expired _ _ => exact h.of_eq rfl rfl
  | synAgain _ _ _ _ => exact h.of_eq rfl rfl
  | synGivenUp _ _ _ =>
    dsimp only
    apply changeState
    exact h.of_eq rfl rfl
  | @resent p hp hcancel hq hctrl =>
    have hexpired : (c.expire p).Wide := h.of_eq rfl rfl
    exact (hexpired.congestionRtoTimeout (hsafe.timeouts p rfl hctrl hcancel hq)).resendSegment p
  | timeWaitRestarts _ => exact h.of_eq rfl rfl
  | timeWaitEnds _ =>
    dsimp only
    apply changeState
    exact h.of_eq rfl rfl
  | woken _ => exact h.sendSegment.of_eq rfl rfl
  | notWoken _ => exact h
  | passed => exact h.of_eq rfl rfl

/-! ## Runs -/

/-- A socket as it is opened, with a shift that RFC 1323 allows; a SYN carries an MSS option. -/
inductive OpenedSafely : Socket → Prop
  | connect (dev : DevVar) (dEventTime : Nat) (sId : List AppPacket)
      (hshift : dev.shiftCount.toNat ≤ 14) : OpenedSafely (Socket.connect dev dEventTime sId)
  | accept (dev : DevVar) (dEventTime : Nat) (sId : List AppPacket) (syn : Segment)
      (hshift : dev.shiftCount.toNat ≤ 14)
      (hsafe : ((Tcb.create dev dEventTime).setWindowScaling
        (getWindowScaleOption syn.option)).OpenSafe dev (getMssOption syn.option)) :
      OpenedSafely (Socket.accept dev dEventTime sId syn)
  | listen (dev : DevVar) (dEventTime : Nat) (hshift : dev.shiftCount.toNat ≤ 14) :
      OpenedSafely (Socket.listen dev dEventTime)

variable {dev : DevVar}

theorem sndWindShift_create (h : dev.shiftCount.toNat ≤ 14) (dEventTime : Nat) :
    (Tcb.create dev dEventTime).sndWindShift ≤ 14 := by
  change (if dev.isWindowScaling then dev.shiftCount.toNat else 0) ≤ 14
  split
  · exact h
  · exact Nat.zero_le _

theorem sndWindShift_setWindowScaling_le {t : Tcb} (h : t.sndWindShift ≤ 14) (opt : Option UInt8) :
    (t.setWindowScaling opt).sndWindShift ≤ 14 := by
  unfold Tcb.setWindowScaling
  split
  · exact Nat.le_trans (Nat.min_le_left _ _) h
  · exact Nat.zero_le _

theorem Tcb.OpenSafe.setWindowScaling {t t' : Tcb} {scale : Option UInt8}
    {opt : Option UInt16} (hcongestion : t'.congestionData = t.congestionData)
    (hscaling : t'.isWindowScaling = t.isWindowScaling) (hshift : t'.sndWindShift = t.sndWindShift)
    (h : (t.setWindowScaling scale).OpenSafe dev opt) :
    (t'.setWindowScaling scale).OpenSafe dev opt := by
  obtain ⟨mss, hmss, hholds⟩ := h
  refine ⟨mss, hmss, ?_⟩
  cases scale <;> cases hscales : t.isWindowScaling <;>
    simpa [HoldsSegment, windShift, congestionSetIW, withMss, Tcb.setWindowScaling, hcongestion,
      hscaling, hshift, hscales] using hholds

theorem Tcb.Wide.readSyn {t : Tcb} {syn : Segment} (hs : t.sndWindShift ≤ 14)
    (hsafe : (t.setWindowScaling (getWindowScaleOption syn.option)).OpenSafe dev
      (getMssOption syn.option)) : (t.readSyn dev syn).Wide := by
  let t1 := { t with RCV.NXT := u32 (t.SEG.SEQ + 1), IRS := t.SEG.SEQ }
  have hsafe1 : (t1.setWindowScaling (getWindowScaleOption syn.option)).OpenSafe dev
      (getMssOption syn.option) :=
    Tcb.OpenSafe.setWindowScaling (t := t) rfl rfl rfl hsafe
  have hmss := hsafe1.readMss (sndWindShift_setWindowScaling_le (t := t1) hs _)
  obtain ⟨isTSopt, tsVal, htime⟩ := Tcb.setTimestampValue_eq
    ((t1.setWindowScaling (getWindowScaleOption syn.option)).readMss dev (getMssOption syn.option))
    syn.syn (getTimestampOption syn.option)
  unfold Tcb.readSyn
  dsimp only
  rw [htime]
  exact hmss.of_wnd rfl

theorem fit_of_opened {s₀ : Socket} (h0 : OpenedSafely s₀) : Fit s₀ := by
  cases h0 with
  | connect dev dEventTime sId hshift =>
    have hsyn : ∀ p ∈ [(Socket.create dev dEventTime sId).conn.createSyn],
        p.isTCPControl = true := by
      intro p hp
      obtain rfl := List.mem_singleton.1 hp
      rfl
    exact .of_unopened ⟨rfl, rfl, hsyn, rfl, hsyn, sndWindShift_create hshift dEventTime⟩
  | accept dev dEventTime sId syn hshift hsafe =>
    have hread : (Socket.acceptConn dev dEventTime sId syn).tcb.Wide := by
      exact .readSyn (sndWindShift_create hshift dEventTime)
        (Tcb.OpenSafe.setWindowScaling (t := Tcb.create dev dEventTime) rfl rfl rfl hsafe)
    obtain ⟨prev, heq⟩ := (Socket.acceptConn dev dEventTime sId syn).answerSyn_eq
    rw [Socket.accept_eq, heq]
    exact .of_wide ⟨hread.of_wnd rfl, nofun⟩
  | listen dev dEventTime hshift =>
    have hnone : ∀ p ∈ ([] : List Segment), p.isTCPControl = true := nofun
    exact .of_unopened ⟨rfl, rfl, hnone, rfl, hnone, sndWindShift_create hshift dEventTime⟩

def World.WindowSafe (w : World) (e : Event) : Prop :=
  ∀ s, w = .ok s → s.Live → NetSim.Tcp.WindowSafe (connAt s e.dEventTime) e.kind

section Decidable

instance (t : Tcb) (n : Nat) : Decidable (t.HoldsSegment n) :=
  inferInstanceAs (Decidable (_ ∨ _ ∧ _))

instance (t : Tcb) : Decidable t.isThirdDupAck := inferInstanceAs (Decidable (_ = _))

def Tcb.NewRenoSafe (t : Tcb) : Prop :=
  (t.isDupAck = true → t.isThirdDupAck → t.congestionData.recover < sub32 t.SEG.ACK 1 →
    t.HoldsSegment (t.inflated t.lossThreshold)) ∧
  (t.isDupAck = false → t.congestionData.isFastRecovery = true →
    t.congestionData.recover ≤ t.SEG.ACK → t.HoldsSegment (min (u16 t.getSsthres)
      (max t.flightSize t.congestionData.SMSS + t.congestionData.SMSS)))

instance (t : Tcb) : Decidable t.NewRenoSafe := inferInstanceAs (Decidable (_ ∧ _))

theorem Tcb.NewRenoSafe.ackSafe {t : Tcb} {dEventTime : Nat} (hvariant : t.variant = .newReno)
    (h : t.NewRenoSafe) : t.AckSafe dEventTime := by
  simp only [AckSafe, hvariant]
  split
  · next hdup => exact h.1 hdup
  · next hdup => exact h.2 (by simpa using hdup)

def windowSafeTest (c : Conn) : EventKind → Bool
  | .segment p => decide (c.tcb.tcpState ≠ .synSent ∧
      ((c.ackConn p).tcb.readAck p).variant = .newReno ∧ ((c.ackConn p).tcb.readAck p).NewRenoSafe)
  | .rtoTimeout _ => decide (c.tcb.HoldsSegment c.tcb.congestionData.LW)
  | _ => true

theorem windowSafe_of_test {c : Conn} {e : EventKind} (h : windowSafeTest c e = true) :
    WindowSafe c e := by
  refine ⟨?_, ?_, ?_⟩
  · rintro p rfl hstate
    exact absurd hstate (of_decide_eq_true h).1
  · rintro p rfl - - - - -
    obtain ⟨-, hvariant, hsafe⟩ := of_decide_eq_true h
    exact hsafe.ackSafe hvariant
  · rintro p rfl - - -
    exact of_decide_eq_true h

end Decidable

/-- `DevVar.config` with window scaling. -/
def scalingDev : DevVar := { DevVar.config with isWindowScaling := true, shiftCount := 5 }

/-- A server with window scaling that has one packet for its client. -/
def scalingSender : Socket :=
  Socket.accept scalingDev 0
    [{ nPacketId := 1, nAppEndFlag := false, dPacketSize := 10, size_pos := by decide }]
    (Socket.create scalingDev 0 []).conn.createSyn

end NetSim.Tcp
