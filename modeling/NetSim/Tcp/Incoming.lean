import NetSim.Tcp.Cubic

/-!
# Incoming segments (`TCP_Incoming.c`, `TCP_ApplicationInterface.c`, `TCP.c`)

What an acknowledgment, a data segment and a FIN do to a connection whose TCB exists.
-/

namespace NetSim.Tcp

namespace Tcb

/-- `Validate_segment`, the acceptability test of RFC 793. -/
def validateSegment (t : Tcb) : Bool :=
  let first := t.SEG.SEQ
  let last := sub32 (u32 (t.SEG.SEQ + t.SEG.LEN)) 1
  let inWindow (n : Nat) : Bool := t.RCV.NXT ≤ n && n < u32 (t.RCV.NXT + t.RCV.WND)
  if t.SEG.LEN = 0 then
    if t.RCV.WND = 0 then t.SEG.SEQ = t.RCV.NXT else inWindow first
  else if t.RCV.WND = 0 then false
  else inWindow first || inWindow last

/-- One step of `check_segment_in_queue`. -/
def advanceOver (nxt : Nat) (p : Segment) : Nat :=
  if p.seqNum = nxt then u32 (nxt + p.segLen) else nxt

/-- `check_segment_in_queue`: one pass over the out of order segments. -/
def checkSegmentInQueue (t : Tcb) : Tcb :=
  { t with RCV.NXT := t.outOfOrderSegment.segments.foldl advanceOver t.RCV.NXT }

/-- `check_segment`: whether the segment is in order. -/
def checkSegment (dEventTime : Nat) (p : Segment) (t : Tcb) : Bool × Tcb :=
  if t.RCV.NXT = p.seqNum then
    (true, { t with RCV.NXT := u32 (t.RCV.NXT + t.SEG.LEN) }.checkSegmentInQueue)
  else if p.seqNum < t.RCV.NXT then (false, t)
  else if t.outOfOrderSegment.isSegmentInQueue p then (false, t)
  else (false, { t with outOfOrderSegment := t.outOfOrderSegment.addPacketToQueue p dEventTime })

def readTimestamp (t : Tcb) (p : Segment) : Tcb :=
  if t.isTSopt then t.setTimestampValue p.syn (getTimestampOption p.option) else t

end Tcb

namespace Conn

/-! ## Acknowledgments -/

/-- `process_ack_in_establishedState`: whether the acknowledgment is new. -/
def processAckInEstablishedState (s : Conn) (p : Segment) : Bool × Conn :=
  let s := s.mapTcb fun t => (t.receiveSackOption p.option).readTimestamp p
  let s := s.ackReceived
  let t := s.tcb
  if t.SND.UNA < t.SEG.ACK ∧ t.SEG.ACK ≤ t.SND.NXT then
    let s := s.mapTcb fun t => { t with
      SND.UNA := t.SEG.ACK
      retransmissionQueue := t.retransmissionQueue.deleteSegmentFromQueue t.SEG.ACK }
    if t.SND.WL1 < t.SEG.SEQ ∨ t.SND.WL1 = t.SEG.SEQ ∧ t.SND.WL2 ≤ t.SEG.ACK then
      (true, s.mapTcb Tcb.updateSendWindow)
    else (true, s)
  else if t.SEG.ACK ≤ t.SND.UNA then (false, s)
  else (false, s.sendAck t.SEG.SEQ t.SEG.ACK)

/-- `process_ack_in_establishedState`, and `send_segment` after a new acknowledgment. -/
def processAckAndSend (s : Conn) (p : Segment) : Conn :=
  match s.processAckInEstablishedState p with
  | (true, s) => s.sendSegment
  | (false, s) => s

def startTimewaitTimer (s : Conn) : Conn :=
  { s with timeWaitTimeouts := s.timeWaitTimeouts + 1 }.cancelOtherTimers

/-- `process_ack_packet`, in the states in which it keeps the TCB. -/
def processAckPacket (s : Conn) (p : Segment) : Conn :=
  match s.tcb.tcpState with
  | .synReceived =>
    if s.tcb.SND.UNA ≤ s.tcb.SEG.ACK ∧ s.tcb.SEG.ACK ≤ s.tcb.SND.NXT then
      ((s.mapTcb Tcb.updateSendWindow).changeState .established).processAckAndSend p
    else s.sendRst p 1
  | .established | .finWait2 | .closeWait => s.processAckAndSend p
  | .finWait1 =>
    let s := s.processAckAndSend p
    if p.fin then s.changeState .finWait2 else s
  | .closing =>
    let s := s.processAckAndSend p
    if p.fin then s.startTimewaitTimer.changeState .timeWait else s
  | .timeWait =>
    let s := (s.sendFinAck s.tcb.SEG.SEQ s.tcb.SEG.ACK).startTimewaitTimer
    s.mapTcb fun t => { t with istimewaittimerrestarted := true }
  | .closed | .listen | .synSent | .lastAck => s

/-! ## Data -/

/-- An `APPLICATION_IN_EVENT`, if the packet comes from an application. -/
def deliver (s : Conn) (p : Segment) : Conn :=
  if p.appData.isSome then { s with application := s.application ++ [p] } else s

/-- The loop of `send_to_application` over the queued segments below `RCV.NXT`. -/
def drainQueue : Nat → Conn → Conn
  | 0, s => s
  | rounds + 1, s =>
    match s.tcb.outOfOrderSegment.popBelow s.tcb.RCV.NXT with
    | none => s
    | some (pr, q) =>
      drainQueue rounds ((s.mapTcb fun t => { t with outOfOrderSegment := q }).deliver pr)

def sendToApplication (s : Conn) (p : Segment) : Conn :=
  drainQueue s.tcb.outOfOrderSegment.queue.length (s.deliver p)

def receivesData (state : TcpState) : Bool :=
  match state with
  | .established | .finWait1 | .finWait2 => true
  | _ => false

/-- `process_segment_text`: whether the processing goes on with the FIN bit. -/
def processSegmentText (s : Conn) (p : Segment) : Bool × Conn :=
  let s := s.mapTcb (·.readTimestamp p)
  if receivesData s.tcb.tcpState then
    let (isinorder, t) := s.tcb.checkSegment s.dEventTime p
    let s := { s with tcb := t }
    let (isAck, s) := if isinorder then s.sendAckOrNot else (true, s)
    let s := if isAck && !p.fin then s.sendAck s.tcb.SND.NXT s.tcb.RCV.NXT else s
    (true, if isinorder then s.sendToApplication p else s)
  else (p.fin, s)

def processFinPacket (s : Conn) : Conn :=
  match s.tcb.tcpState with
  | .synReceived | .established =>
    let s := (s.sendFinAck s.tcb.SND.NXT s.tcb.RCV.NXT).changeState .closeWait
    (s.sendFin.changeState .lastAck).cancelOtherTimers
  | .finWait1 =>
    let s := s.changeState .closing
    s.sendFinAck s.tcb.SND.NXT s.tcb.RCV.NXT
  | .finWait2 =>
    let s := (s.changeState .timeWait).startTimewaitTimer
    s.sendAck (u32 (s.tcb.SND.NXT + 1)) (u32 (s.tcb.SEG.SEQ + 1))
  | .timeWait =>
    (s.mapTcb fun t => { t with istimewaittimerrestarted := true }).startTimewaitTimer
  | .closed | .listen | .synSent | .closeWait | .closing | .lastAck => s

/-- The last branch of `packet_arrives_at_incoming_tcp`, for a segment without RST, SYN and ACK. -/
def processText (s : Conn) (p : Segment) : Conn :=
  match s.processSegmentText p with
  | (isContinue, s) => if isContinue && p.fin then s.processFinPacket else s

/-! ## Opening -/

def sendSyn (s : Conn) : Conn :=
  let syn := s.createSyn
  let s := s.mapTcb fun t => { t with SND := { t.SND with UNA := t.ISS, NXT := u32 (t.ISS + 1) } }
  let s := s.changeState .synSent
  let s := s.mapTcb fun t => { t with synRetries := t.synRetries + 1 }
  (s.sendToNetwork syn).addTimeoutEvent syn

def rcvSYN (s : Conn) (syn : Segment) : Conn :=
  let s := s.mapTcb fun t =>
    let t := { t with RCV.NXT := u32 (t.SEG.SEQ + 1), IRS := t.SEG.SEQ }
    let t := t.setWindowScaling (getWindowScaleOption syn.option)
    let t := match getMssOption syn.option with
      | some mss => t.congestionSetMSS s.dev mss.toNat
      | none => t
    let t := t.setTimestampValue syn.syn (getTimestampOption syn.option)
    { t with isSackPermitted := t.isSackPermitted && getSackPermittedOption syn.option }
  let synAck := s.createSynAck
  let s := s.changeState .synReceived
  let s := s.mapTcb fun t => { t with SND := { t.SND with UNA := t.ISS, NXT := u32 (t.ISS + 1) } }
  let s := s.mapTcb fun t => { t with synRetries := t.synRetries + 1 }
  (s.sendToNetwork synAck).addTimeoutEvent synAck

/-- The part of `packet_arrives_at_synsent_state` for a SYN whose acknowledgment is acceptable. -/
def synAckArrives (s : Conn) (p : Segment) : Conn :=
  let s := s.mapTcb fun t =>
    let t := { t with RCV.NXT := u32 (t.SEG.SEQ + 1), IRS := t.SEG.SEQ, SND.UNA := t.SEG.ACK }
    let t := match getMssOption p.option with
      | some mss => t.congestionSetMSS s.dev mss.toNat
      | none => t
    let t := t.readTimestamp p
    { t with retransmissionQueue := t.retransmissionQueue.deleteSegmentFromQueue t.SEG.ACK }
  if s.tcb.ISS < s.tcb.SND.UNA then
    let s := s.mapTcb Tcb.updateSendWindow
    let s := s.sendAck s.tcb.SND.NXT s.tcb.RCV.NXT
    (s.changeState .established).sendSegment
  else s

/-- `packet_arrive_from_application_layer`, on an existing socket. -/
def packetArriveFromApplicationLayer (s : Conn) : Conn :=
  if s.waitFromApp then { s.sendSegment with waitFromApp := false } else s

end Conn

end NetSim.Tcp
