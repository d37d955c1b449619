import NetSim.Tcp.CongestionWindow

/-!
# A sender between acknowledgments (`TCP_Incoming.c`, `TCP_Outgoing.c`)

Acknowledgments arrive at a sender in ESTABLISHED and the application leaves packets. The congestion
control is left as `ack_received` leaves it.
-/

namespace NetSim.Tcp

namespace Tcb

def controls (t : Tcb) : CongestionVar × TcpVariant × Bool × Bool × Nat :=
  (t.congestionData, t.variant, t.isSackPermitted, t.isWindowScaling, t.sndWindShift)

theorem controls_receiveSackOption (t : Tcb) (option : List TcpOption) :
    (t.receiveSackOption option).controls = t.controls := by
  have hfold (l : List SackData) (t : Tcb) :
      (l.foldl (fun t data => t.updateSackFlag data.leftEdge data.rightEdge) t).controls =
        t.controls := by
    induction l generalizing t with
    | nil => rfl
    | cons data l ih => exact ih _
  unfold receiveSackOption
  dsimp only
  split
  · rfl
  · split
    · rfl
    · split
      · rfl
      · exact hfold _ _

theorem controls_readTimestamp (t : Tcb) (p : Segment) :
    (t.readTimestamp p).controls = t.controls := by
  obtain ⟨isTSopt, tsVal, hread⟩ := t.readTimestamp_eq p
  rw [hread]
  rfl

theorem controls_readAck (t : Tcb) (p : Segment) : (t.readAck p).controls = t.controls := by
  rw [readAck, controls_readTimestamp, controls_receiveSackOption]

end Tcb

inductive SenderAction
  | ack (dEventTime : Nat) (p : Segment)
  | app (dEventTime : Nat) (packets : List AppPacket)

namespace Conn

variable {s : Conn}

theorem controls_sendLoop (l : List AppPacket) (s : Conn) :
    (s.sendLoop l).tcb.controls = s.tcb.controls := by
  induction l generalizing s with
  | nil => rfl
  | cons p rest ih =>
    rw [sendLoop]
    split
    · exact ih _
    · rfl

theorem controls_tcpClose (s : Conn) : s.tcpClose.tcb.controls = s.tcb.controls := by
  unfold tcpClose
  split
  · rfl
  · obtain ⟨prev, heq⟩ := s.sendFin.changeState_eq .finWait1
    rw [heq]
    rfl

theorem controls_sendSegment (s : Conn) : s.sendSegment.tcb.controls = s.tcb.controls := by
  have hwait : (if s.sId = [] then { s with waitFromApp := true } else s).tcb = s.tcb := by
    split
    · rfl
    · rfl
  unfold sendSegment
  generalize (if s.sId = [] then { s with waitFromApp := true } else s) = s1 at hwait ⊢
  have hstart : s1.openWindow.tcb.controls = s.tcb.controls := by
    rw [← hwait]
    rfl
  dsimp only
  split
  · rw [controls_tcpClose, controls_sendLoop, hstart]
  · rw [controls_sendLoop, hstart]

theorem agreed_of_effect {s s' : Conn} (h : Effect s s') :
    s'.tcb.variant = s.tcb.variant ∧ s'.tcb.isSackPermitted = s.tcb.isSackPermitted := by
  cases h with
  | adjust hcore =>
    have htcb : s'.tcb.core = s.tcb.core := congrArg Conn.tcb hcore
    exact ⟨Tcb.eq_of_core (g := Tcb.variant) (fun _ => rfl) htcb,
      Tcb.eq_of_core (g := Tcb.isSackPermitted) (fun _ => rfl) htcb⟩
  | resend _ => exact ⟨rfl, rfl⟩
  | wait _ => exact ⟨rfl, rfl⟩
  | openWindow => exact ⟨rfl, rfl⟩
  | push _ _ => exact ⟨rfl, rfl⟩
  | close _ _ =>
    obtain ⟨prev, heq⟩ := s.sendFin.changeState_eq .finWait1
    rw [heq]
    exact ⟨rfl, rfl⟩

theorem agreed_of_effects {s s' : Conn} (h : Effects s s') :
    s'.tcb.variant = s.tcb.variant ∧ s'.tcb.isSackPermitted = s.tcb.isSackPermitted := by
  induction h with
  | refl => exact ⟨rfl, rfl⟩
  | tail _ heffect ih =>
    obtain ⟨hvariant, hsack⟩ := agreed_of_effect heffect
    exact ⟨hvariant.trans ih.1, hsack.trans ih.2⟩

/-! ## The steps -/

/-- The state in which `ack_received` is called, for an acknowledgment `p` at this time. -/
def heard (s : Conn) (dEventTime : Nat) (p : Segment) : Conn :=
  (({ s with dEventTime := dEventTime }.read p).mapTcb (·.readAck p))

def senderStep (s : Conn) : SenderAction → Conn
  | .ack dEventTime p => ({ s with dEventTime := dEventTime }.read p).processAckAndSend p
  | .app dEventTime packets =>
    { s with
      dEventTime := dEventTime, sId := s.sId ++ packets }.packetArriveFromApplicationLayer

theorem controls_processAckInEstablishedState (s : Conn) (p : Segment) :
    (s.processAckInEstablishedState p).2.tcb.controls =
      (s.mapTcb (·.readAck p)).ackReceived.tcb.controls := by
  change (ite _ _ _ : Bool × Conn).2.tcb.controls = _
  split
  · split
    · rfl
    · rfl
  · split
    · rfl
    · rfl

theorem controls_processAckAndSend (s : Conn) (p : Segment) :
    (s.processAckAndSend p).tcb.controls = (s.mapTcb (·.readAck p)).ackReceived.tcb.controls := by
  rw [← controls_processAckInEstablishedState]
  unfold processAckAndSend
  cases s.processAckInEstablishedState p with
  | mk isNew s' =>
    cases isNew with
    | true => exact controls_sendSegment s'
    | false => rfl

theorem controls_senderStep_ack (s : Conn) (dEventTime : Nat) (p : Segment) :
    (s.senderStep (.ack dEventTime p)).tcb.controls =
      (s.heard dEventTime p).ackReceived.tcb.controls :=
  controls_processAckAndSend _ p

theorem controls_senderStep_app (s : Conn) (dEventTime : Nat) (packets : List AppPacket) :
    (s.senderStep (.app dEventTime packets)).tcb.controls = s.tcb.controls := by
  unfold senderStep packetArriveFromApplicationLayer
  dsimp only
  split
  · exact controls_sendSegment _
  · rfl

theorem controls_heard (s : Conn) (dEventTime : Nat) (p : Segment) :
    (s.heard dEventTime p).tcb.controls = s.tcb.controls :=
  Tcb.controls_readAck _ p

end Conn

end NetSim.Tcp
