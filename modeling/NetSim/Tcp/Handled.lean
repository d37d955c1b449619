import NetSim.Tcp.Effect
import NetSim.Tcp.Lifetime

/-!
# What a handler does

`Handled` lists, for each kind of event, what its handler does to a socket that has a TCB, with the
tests that lead there.
-/

namespace NetSim.Tcp

namespace Conn

/-- `update_seq_num_on_receiving`. -/
def read (c : Conn) (p : Segment) : Conn := c.mapTcb (·.updateSeqNumOnReceiving p)

/-- The retransmission timeout of `p` has expired. -/
def expire (c : Conn) (p : Segment) : Conn := { c with rtoTimeouts := c.rtoTimeouts.erase p }

/-- The SYN `syn` is sent again; `q` is the queue without it. -/
def synAgain (c : Conn) (syn : Segment) (q : TcpQueue) : Conn :=
  let c := c.mapTcb fun t =>
    { t with retransmissionQueue := q, SND := { t.SND with UNA := t.ISS, NXT := u32 (t.ISS + 1) } }
  ((c.sendToNetwork syn).addTimeoutEvent syn).mapTcb fun t => { t with synRetries := t.synRetries + 1 }

end Conn

/-- A segment that `packet_arrives_at_incoming_tcp` accepts. -/
@[mk_iff]
structure Accepted (c : Conn) (p : Segment) : Prop where
  state : Socket.isSynchronized c.tcb.tcpState = true
  valid : (c.read p).tcb.validateSegment = true

/-- What the handler of an event does to the connection `c`. -/
inductive Handled (c : Conn) : EventKind → Socket → Prop
  | ignored {p : Segment} : Handled c (.segment p) ⟨c.read p, false, false⟩
  | answered {p a : Segment} (ha : a.IsAnswer) :
      Handled c (.segment p) ⟨(c.read p).sendToNetwork a, false, false⟩
  | opened {p : Segment} (hstate : c.tcb.tcpState = .synSent) (hrst : p.rst = false)
      (hsyn : p.syn = true) (hiss : c.tcb.ISS < p.ackNum) (hnxt : p.ackNum ≤ c.tcb.SND.NXT) :
      Handled c (.segment p) ⟨(c.read p).synAckArrives p, false, false⟩
  | relistens {p : Segment} (hstate : c.tcb.tcpState = .synReceived) :
      Handled c (.segment p) ⟨(c.read p).changeState .listen, false, false⟩
  | reset {p : Segment} (h : Accepted c p) (hflag : p.rst = true ∨ p.syn = true) :
      Handled c (.segment p) ⟨(c.read p).changeState .closed, true, true⟩
  | finished {p : Segment} (h : Accepted c p) (hstate : c.tcb.tcpState = .lastAck)
      (hrst : p.rst = false) (hsyn : p.syn = false) (hack : p.ack = true) :
      Handled c (.segment p) ⟨(c.read p).changeState .closed, true, false⟩
  | ack {p : Segment} (h : Accepted c p) (hstate : c.tcb.tcpState ≠ .lastAck)
      (hrst : p.rst = false) (hsyn : p.syn = false) (hack : p.ack = true) :
      Handled c (.segment p) ⟨(c.read p).processAckPacket p, false, false⟩
  | text {p : Segment} (h : Accepted c p) (hrst : p.rst = false) (hsyn : p.syn = false)
      (hack : p.ack = false) : Handled c (.segment p) ⟨(c.read p).processText p, false, false⟩
  | expired {p : Segment} (hp : p ∈ c.rtoTimeouts)
      (h : c.tcb.isOtherTimerCancel = true ∨
        c.tcb.retransmissionQueue.isSegmentInQueue p = false ∨
        (p.isTCPControl = true ∧ p.syn = false)) :
      Handled c (.rtoTimeout p) ⟨c.expire p, false, false⟩
  | synAgain {p syn : Segment} {q : TcpQueue} (hp : p ∈ c.rtoTimeouts)
      (hstate : c.tcb.tcpState = .synSent ∨ c.tcb.tcpState = .synReceived)
      (hcancel : c.tcb.isOtherTimerCancel = false)
      (hq : c.tcb.retransmissionQueue.getSegmentFromQueue p.seqNum = some (syn, q)) :
      Handled c (.rtoTimeout p) ⟨(c.expire p).synAgain syn q, false, false⟩
  | synGivenUp {p syn : Segment} {q : TcpQueue} (hp : p ∈ c.rtoTimeouts)
      (hstate : c.tcb.tcpState = .synSent ∨ c.tcb.tcpState = .synReceived)
      (hq : c.tcb.retransmissionQueue.getSegmentFromQueue p.seqNum = some (syn, q)) :
      Handled c (.rtoTimeout p) ⟨((c.expire p).mapTcb fun t => { t with
        retransmissionQueue := q }).changeState .closed, true, true⟩
  | resent {p : Segment} (hp : p ∈ c.rtoTimeouts) (hcancel : c.tcb.isOtherTimerCancel = false)
      (hq : c.tcb.retransmissionQueue.isSegmentInQueue p = true) (hctrl : p.isTCPControl = false) :
      Handled c (.rtoTimeout p)
        ⟨(c.expire p).congestionRtoTimeout.resendSegment p, false, false⟩
  | timeWaitRestarts (hpending : 0 < c.timeWaitTimeouts) :
      Handled c .timeWaitTimeout ⟨{ c with timeWaitTimeouts := c.timeWaitTimeouts - 1 }.mapTcb
        fun t => { t with istimewaittimerrestarted := false }, false, false⟩
  | timeWaitEnds (hpending : 0 < c.timeWaitTimeouts) :
      Handled c .timeWaitTimeout ⟨{ c with
        timeWaitTimeouts := c.timeWaitTimeouts - 1 }.changeState .closed, true, false⟩
  | woken (hwait : c.waitFromApp = true) :
      Handled c .transportOut ⟨{ c.sendSegment with waitFromApp := false }, false, false⟩
  | notWoken (hwait : c.waitFromApp = false) : Handled c .transportOut ⟨c, false, false⟩
  | passed {a : AppPacket} : Handled c (.passPacket a) ⟨{ c with sId := c.sId ++ [a] }, false, false⟩

namespace Socket

def acceptConn (dev : DevVar) (dEventTime : Nat) (sId : List AppPacket) (syn : Segment) : Conn :=
  { (create dev dEventTime sId).conn with
    tcb := (((Tcb.create dev dEventTime).updateSeqNumOnReceiving syn).changeState .listen).readSyn
      dev syn }

theorem accept_eq (dev : DevVar) (dEventTime : Nat) (sId : List AppPacket) (syn : Segment) :
    accept dev dEventTime sId syn = ⟨(acceptConn dev dEventTime sId syn).answerSyn, false, false⟩ :=
  rfl

section Segments

variable {s s' : Socket} {p : Segment} (h : s.Live)
include h

theorem Live.eq : s = ⟨s.conn, false, false⟩ := by
  obtain ⟨c, deleted, freed⟩ := s
  obtain ⟨rfl, rfl⟩ := h
  rfl

theorem ok_onTcb {f : Conn → Conn} (hs : s.onTcb f = .ok s') : s' = ⟨f s.conn, false, false⟩ := by
  rw [onTcb_live h] at hs
  obtain rfl := Except.ok.inj hs
  rw [h.freed, h.tcbDeleted]

theorem ok_tcpCloseSocket (hs : s.tcpCloseSocket = .ok s') :
    s' = ⟨s.conn.changeState .closed, true, true⟩ := by
  rw [tcpCloseSocket_live h] at hs
  exact (Except.ok.inj hs).symm

theorem ok_changeState_deleteTcb {state : TcpState}
    (hs : (do
      let s ← s.changeState state
      s.deleteTcb) = .ok s') : s' = ⟨s.conn.changeState state, true, false⟩ := by
  have hlive : Live { s with conn := s.conn.changeState state } := ⟨h.freed, h.tcbDeleted⟩
  unfold changeState at hs
  rw [onTcb_live h] at hs
  change deleteTcb { s with conn := s.conn.changeState state } = _ at hs
  rw [deleteTcb_live hlive] at hs
  obtain rfl := Except.ok.inj hs
  rw [h.freed]

end Segments

section Dispatch

variable {c : Conn} {p : Segment} {s' : Socket}

theorem handled_packetArriveAtClosedState
    (hs : packetArriveAtClosedState ⟨c.read p, false, false⟩ p = .ok s') :
    Handled c (.segment p) s' := by
  unfold packetArriveAtClosedState at hs
  split at hs
  · obtain rfl := ok_onTcb ⟨rfl, rfl⟩ hs
    exact .answered (isAnswer_createRst _ _)
  · obtain rfl := Except.ok.inj hs
    exact .ignored

theorem handled_packetArrivesAtListenState
    (hs : packetArrivesAtListenState ⟨c.read p, false, false⟩ p = .ok s') :
    Handled c (.segment p) s' := by
  have hignored {s : Socket} (hs : (pure ⟨c.read p, false, false⟩ : World) = .ok s) :
      Handled c (.segment p) s := by
    obtain rfl := Except.ok.inj hs
    exact .ignored
  unfold packetArrivesAtListenState at hs
  split at hs
  · exact hignored hs
  · split at hs
    · obtain rfl := ok_onTcb ⟨rfl, rfl⟩ hs
      exact .answered (isAnswer_createRst _ _)
    · split at hs
      · unfold processSyn at hs
        rw [useTcb_live ⟨rfl, rfl⟩] at hs
        simp only [bind, Except.bind] at hs
        split at hs
        · obtain rfl := ok_onTcb ⟨rfl, rfl⟩ hs
          exact .answered (isAnswer_createRst _ _)
        · split at hs
          · exact hignored hs
          · cases hs
      · exact hignored hs

theorem handled_packetArrivesAtSynsentState (hstate : c.tcb.tcpState = .synSent)
    (hs : packetArrivesAtSynsentState ⟨c.read p, false, false⟩ p = .ok s') :
    Handled c (.segment p) s' := by
  unfold packetArrivesAtSynsentState at hs
  rw [useTcb_live ⟨rfl, rfl⟩] at hs
  simp only [bind, Except.bind] at hs
  split at hs
  · obtain rfl := ok_onTcb ⟨rfl, rfl⟩ hs
    exact .answered (isAnswer_createRst _ _)
  · next hrefused =>
    split at hs
    · split at hs
      · cases hs
      · obtain rfl := Except.ok.inj hs
        exact .ignored
    · next hrst =>
      split at hs
      · next haccept =>
        obtain rfl := ok_onTcb ⟨rfl, rfl⟩ hs
        rw [Bool.and_eq_true] at haccept
        obtain ⟨haccept, hsyn⟩ := haccept
        simp only [ackAcceptable, Bool.and_eq_true, decide_eq_true_eq] at haccept
        simp only [ackRefused, haccept.1.1, Bool.true_and, Bool.or_eq_true, decide_eq_true_eq,
          not_or, Nat.not_le] at hrefused
        exact .opened hstate (by simpa using hrst) hsyn hrefused.1 haccept.2
      · obtain rfl := Except.ok.inj hs
        exact .ignored

theorem handled_processRstPacket (h : Accepted c p) (hrst : p.rst = true)
    (hs : processRstPacket ⟨c.read p, false, false⟩ = .ok s') : Handled c (.segment p) s' := by
  have hclose {s : Socket} (hs : tcpCloseSocket ⟨c.read p, false, false⟩ = .ok s) :
      Handled c (.segment p) s := by
    obtain rfl := ok_tcpCloseSocket ⟨rfl, rfl⟩ hs
    exact .reset h (.inl hrst)
  unfold processRstPacket at hs
  rw [useTcb_live ⟨rfl, rfl⟩] at hs
  simp only [bind, Except.bind] at hs
  split at hs
  case h_1 hstate =>
    rw [onTcb_live ⟨rfl, rfl⟩] at hs
    dsimp only at hs
    split at hs
    · obtain rfl := ok_onTcb ⟨rfl, rfl⟩ hs
      exact .relistens hstate
    · exact hclose hs
  case h_9 hstate | h_10 hstate | h_11 hstate =>
    have hsync : isSynchronized (c.read p).tcb.tcpState = true := h.state
    rw [hstate] at hsync
    cases hsync
  all_goals exact hclose hs

theorem handled_processSynPacket (h : Accepted c p) (hsyn : p.syn = true)
    (hs : processSynPacket ⟨c.read p, false, false⟩ = .ok s') : Handled c (.segment p) s' := by
  unfold processSynPacket at hs
  rw [useTcb_live ⟨rfl, rfl⟩] at hs
  simp only [bind, Except.bind] at hs
  split at hs
  case h_1 hstate =>
    obtain rfl := ok_onTcb ⟨rfl, rfl⟩ hs
    exact .relistens hstate
  case h_9 hstate | h_10 hstate | h_11 hstate =>
    have hsync : isSynchronized (c.read p).tcb.tcpState = true := h.state
    rw [hstate] at hsync
    cases hsync
  all_goals
    obtain rfl := ok_tcpCloseSocket ⟨rfl, rfl⟩ hs
    exact .reset h (.inr hsyn)

theorem handled_packetArrivesAtIncomingTcp (hstate : isSynchronized c.tcb.tcpState = true)
    (hs : packetArrivesAtIncomingTcp ⟨c.read p, false, false⟩ p = .ok s') :
    Handled c (.segment p) s' := by
  unfold packetArrivesAtIncomingTcp at hs
  rw [useTcb_live ⟨rfl, rfl⟩] at hs
  simp only [bind, Except.bind] at hs
  split at hs
  · next hvalid =>
    have h : Accepted c p := ⟨hstate, hvalid⟩
    split at hs
    · next hrst => exact handled_processRstPacket h hrst hs
    · next hrst =>
      rw [Bool.not_eq_true] at hrst
      split at hs
      · next hsyn => exact handled_processSynPacket h hsyn hs
      · next hsyn =>
        rw [Bool.not_eq_true] at hsyn
        split at hs
        · next hack =>
          unfold processAckPacket at hs
          rw [useTcb_live ⟨rfl, rfl⟩] at hs
          simp only [bind, Except.bind] at hs
          split at hs
          · next hlast =>
            obtain rfl := ok_changeState_deleteTcb (s := ⟨c.read p, false, false⟩) ⟨rfl, rfl⟩ hs
            exact .finished h hlast hrst hsyn hack
          · next hlast =>
            obtain rfl := ok_onTcb ⟨rfl, rfl⟩ hs
            exact .ack h hlast hrst hsyn hack
        · next hack =>
          obtain rfl := ok_onTcb ⟨rfl, rfl⟩ hs
          exact .text h hrst hsyn (by simpa using hack)
  · split at hs
    · obtain rfl := Except.ok.inj hs
      exact .ignored
    · obtain rfl := ok_onTcb ⟨rfl, rfl⟩ hs
      exact .answered (isAnswer_createAck _ _ _)

theorem handled_packetArriveFromNetworkLayer
    (hs : packetArriveFromNetworkLayer ⟨c, false, false⟩ p = .ok s') :
    Handled c (.segment p) s' := by
  unfold packetArriveFromNetworkLayer at hs
  rw [if_neg (by simp), onTcb_live ⟨rfl, rfl⟩] at hs
  simp only [bind, Except.bind] at hs
  rw [useTcb_live ⟨rfl, rfl⟩] at hs
  dsimp only at hs
  split at hs
  · exact handled_packetArriveAtClosedState hs
  · exact handled_packetArrivesAtListenState hs
  · next hstate => exact handled_packetArrivesAtSynsentState hstate hs
  · next hclosed hlisten hsent =>
    apply handled_packetArrivesAtIncomingTcp _ hs
    cases hstate : c.tcb.tcpState
    case closed => exact absurd hstate hclosed
    case listen => exact absurd hstate hlisten
    case synSent => exact absurd hstate hsent
    all_goals rfl

theorem handled_resendSyn (hp : p ∈ c.rtoTimeouts) (hcancel : c.tcb.isOtherTimerCancel = false)
    (hs : resendSyn ⟨c.expire p, false, false⟩ p = some (.ok s')) :
    Handled c (.rtoTimeout p) s' := by
  unfold resendSyn at hs
  rw [useTcb_live ⟨rfl, rfl⟩] at hs
  dsimp only at hs
  split at hs
  · cases hs
  · next hstate =>
    have hstate' : c.tcb.tcpState = .synSent ∨ c.tcb.tcpState = .synReceived := by
      by_contra hne
      exact hstate (not_or.1 hne)
    split at hs
    · cases hs
    · next syn q hq =>
      split at hs
      · obtain rfl := Except.ok.inj (Option.some.inj hs)
        exact .synAgain hp hstate' hcancel hq
      · obtain rfl := ok_tcpCloseSocket ⟨rfl, rfl⟩ (Option.some.inj hs)
        exact .synGivenUp hp hstate' hq

theorem handled_handleRtoTimer (hp : p ∈ c.rtoTimeouts)
    (hs : handleRtoTimer ⟨c.expire p, false, false⟩ p = some (.ok s')) :
    Handled c (.rtoTimeout p) s' := by
  unfold handleRtoTimer at hs
  split at hs
  · next hcancel =>
    obtain rfl := Except.ok.inj (Option.some.inj hs)
    exact .expired hp (.inl (by simpa [Conn.expire] using hcancel))
  · next hcancel =>
    have hcancel' : c.tcb.isOtherTimerCancel = false := by simpa [Conn.expire] using hcancel
    split at hs
    · next hq =>
      split at hs
      · next hctrl =>
        split at hs
        · exact handled_resendSyn hp hcancel' hs
        · next hsyn =>
          obtain rfl := Except.ok.inj (Option.some.inj hs)
          exact .expired hp (.inr (.inr ⟨hctrl, by simpa using hsyn⟩))
      · next hctrl =>
        obtain rfl := ok_onTcb ⟨rfl, rfl⟩ (Option.some.inj hs)
        exact .resent hp hcancel' hq (by simpa using hctrl)
    · next hq =>
      obtain rfl := Except.ok.inj (Option.some.inj hs)
      exact .expired hp (.inr (.inl (by simpa [Conn.expire] using hq)))

theorem handled {e : EventKind} (hs : handle ⟨c, false, false⟩ e = some (.ok s')) :
    Handled c e s' := by
  cases e with
  | segment p => exact handled_packetArriveFromNetworkLayer (Option.some.inj hs)
  | rtoTimeout p =>
    simp only [handle] at hs
    split at hs
    · next hp => exact handled_handleRtoTimer hp hs
    · cases hs
  | timeWaitTimeout =>
    simp only [handle] at hs
    split at hs
    · next hpending =>
      have hs := Option.some.inj hs
      unfold handleTimeWaitTimeout at hs
      rw [useTcb_live ⟨rfl, rfl⟩] at hs
      simp only [bind, Except.bind] at hs
      split at hs
      · obtain rfl := ok_onTcb ⟨rfl, rfl⟩ hs
        exact .timeWaitRestarts hpending
      · obtain rfl := ok_changeState_deleteTcb (s := ⟨{ c with
          timeWaitTimeouts := c.timeWaitTimeouts - 1 }, false, false⟩) ⟨rfl, rfl⟩ hs
        exact .timeWaitEnds hpending
    · cases hs
  | transportOut =>
    have hs := Option.some.inj hs
    unfold packetArriveFromApplicationLayer at hs
    rw [if_neg (by simp)] at hs
    split at hs
    · next hwait =>
      obtain rfl := ok_onTcb ⟨rfl, rfl⟩ hs
      unfold Conn.packetArriveFromApplicationLayer
      rw [if_pos hwait]
      exact .woken hwait
    · next hwait =>
      obtain rfl := Except.ok.inj hs
      exact .notWoken (by simpa using hwait)
  | passPacket a =>
    obtain rfl := Except.ok.inj (Option.some.inj hs)
    exact .passed

end Dispatch

structure Gone (s s' : Socket) : Prop where
  notLive : ¬ s'.Live
  tcb : s'.conn.tcb = s.conn.tcb
  network : s'.conn.network = s.conn.network
  application : s'.conn.application = s.conn.application
  windows : s'.conn.windows = s.conn.windows
  closings : s'.conn.closings = s.conn.closings

theorem gone {s s' : Socket} {e : EventKind} (h : ¬ s.Live) (hs : s.handle e = some (.ok s')) :
    Gone s s' := by
  have hdead : s.freed = true ∨ s.tcbDeleted = true := by
    by_contra hne
    rw [not_or, Bool.not_eq_true, Bool.not_eq_true] at hne
    exact h ⟨hne.1, hne.2⟩
  have huse (s : Socket) (hdead : s.freed = true ∨ s.tcbDeleted = true) :
      ∃ f, s.useTcb = .error f := by
    unfold useTcb
    split
    · exact ⟨_, rfl⟩
    · next hfreed =>
      rw [if_pos (hdead.resolve_left hfreed)]
      exact ⟨_, rfl⟩
  have hlive {s' : Socket} (hfreed : s'.freed = s.freed) (hdeleted : s'.tcbDeleted = s.tcbDeleted) :
      ¬ s'.Live := fun hlive =>
    h ⟨hfreed ▸ hlive.freed, hdeleted ▸ hlive.tcbDeleted⟩
  have hsame : Gone s s := ⟨h, rfl, rfl, rfl, rfl, rfl⟩
  cases e with
  | segment p =>
    have hs := Option.some.inj hs
    unfold packetArriveFromNetworkLayer at hs
    rw [if_pos (by simpa using hdead)] at hs
    obtain rfl := Except.ok.inj hs
    exact hsame
  | rtoTimeout p =>
    simp only [handle] at hs
    split at hs
    · unfold handleRtoTimer at hs
      rw [if_pos (by
        rcases hdead with hfreed | hdeleted
        · simp [hfreed]
        · simp [hdeleted])] at hs
      obtain rfl := Except.ok.inj (Option.some.inj hs)
      exact ⟨hlive rfl rfl, rfl, rfl, rfl, rfl, rfl⟩
    · cases hs
  | timeWaitTimeout =>
    simp only [handle] at hs
    split at hs
    · unfold handleTimeWaitTimeout at hs
      obtain ⟨f, hf⟩ := huse { s with conn := { s.conn with
        timeWaitTimeouts := s.conn.timeWaitTimeouts - 1 } } hdead
      rw [hf] at hs
      cases hs
    · cases hs
  | transportOut =>
    have hs := Option.some.inj hs
    unfold packetArriveFromApplicationLayer at hs
    split at hs
    · obtain rfl := Except.ok.inj hs
      exact hsame
    · split at hs
      · unfold onTcb at hs
        obtain ⟨f, hf⟩ := huse s hdead
        rw [hf] at hs
        cases hs
      · obtain rfl := Except.ok.inj hs
        exact hsame
  | passPacket a =>
    obtain rfl := Except.ok.inj (Option.some.inj hs)
    exact ⟨hlive rfl rfl, rfl, rfl, rfl, rfl, rfl⟩

end Socket

namespace World

/-- The connection once the time has come to `dEventTime`. -/
abbrev connAt (s : Socket) (dEventTime : Nat) : Conn := { s.conn with dEventTime := dEventTime }

theorem step_ok {s : Socket} {w : World} {e : Event} (hstep : World.step (.ok s) e = some w) :
    (s.atTime e.dEventTime).handle e.kind = some w := by
  simp only [World.step] at hstep
  split at hstep
  · exact hstep
  · cases hstep

section

variable {s s' : Socket} {e : Event} (hstep : World.step (.ok s) e = some (.ok s'))

include hstep

theorem step_handled (h : s.Live) : Handled (connAt s e.dEventTime) e.kind s' := by
  apply Socket.handled
  have hs := step_ok hstep
  have hlive : (s.atTime e.dEventTime).Live := ⟨h.freed, h.tcbDeleted⟩
  rw [hlive.eq] at hs
  exact hs

theorem step_gone (h : ¬ s.Live) : Socket.Gone s s' := by
  have hnot : ¬ (s.atTime e.dEventTime).Live := fun hlive => h ⟨hlive.freed, hlive.tcbDeleted⟩
  obtain ⟨h1, h2, h3, h4, h5, h6⟩ := Socket.gone hnot (step_ok hstep)
  exact ⟨h1, h2, h3, h4, h5, h6⟩

theorem step_text {p : Segment} (h : s.Live) (he : e.kind = .segment p)
    (haccepted : Accepted (connAt s e.dEventTime) p) (hrst : p.rst = false) (hsyn : p.syn = false)
    (hack : p.ack = false) :
    s' = ⟨((connAt s e.dEventTime).read p).processText p, false, false⟩ := by
  have hs := step_ok hstep
  have hlive : (s.atTime e.dEventTime).Live := ⟨h.freed, h.tcbDeleted⟩
  rw [hlive.eq, he] at hs
  have hs := Option.some.inj hs
  unfold Socket.packetArriveFromNetworkLayer at hs
  rw [if_neg (by simp), Socket.onTcb_live ⟨rfl, rfl⟩] at hs
  simp only [bind, Except.bind] at hs
  rw [Socket.useTcb_live ⟨rfl, rfl⟩] at hs
  have hincoming : Socket.packetArrivesAtIncomingTcp
      ⟨(connAt s e.dEventTime).read p, false, false⟩ p = .ok s' := by
    have hstate := haccepted.state
    dsimp only at hs
    split at hs
    · next hclosed =>
      change s.conn.tcb.tcpState = _ at hclosed
      simp [hclosed, Socket.isSynchronized] at hstate
    · next hlisten =>
      change s.conn.tcb.tcpState = _ at hlisten
      simp [hlisten, Socket.isSynchronized] at hstate
    · next hsent =>
      change s.conn.tcb.tcpState = _ at hsent
      simp [hsent, Socket.isSynchronized] at hstate
    · exact hs
  unfold Socket.packetArrivesAtIncomingTcp at hincoming
  rw [Socket.useTcb_live ⟨rfl, rfl⟩] at hincoming
  simp only [bind, Except.bind, haccepted.valid, hrst, hsyn, hack, if_true, Bool.false_eq_true,
    if_false] at hincoming
  exact Socket.ok_onTcb ⟨rfl, rfl⟩ hincoming

end

end World

end NetSim.Tcp
