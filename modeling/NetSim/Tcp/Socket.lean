import NetSim.Tcp.Incoming
import NetSim.Lib.Run

/-!
# The socket and its events (`TCP_Connection.c`, `TCP_Socket.c`, `TCP_NetworkInterface.c`, `RTO.c`)

The handlers that may delete the TCB or free the socket, and `World.step`, which hands one event to
its handler. A handler that uses either afterwards, or a callback that was never set, ends the run
with a `Fault`.
-/

namespace NetSim.Tcp

inductive Fault
  /-- `s->tcb` is used after `delete_tcb`. -/
  | tcbDeleted
  /-- `s` is used after `tcp_close_socket`. -/
  | socketFreed
  /-- `s->listen_callback` is called and was never set. -/
  | listenCallbackNull
deriving DecidableEq

/-- `NETSIM_SOCKET`. The connection keeps its last contents when its TCB is deleted. -/
structure Socket where
  conn : Conn
  tcbDeleted : Bool
  freed : Bool
deriving DecidableEq

namespace Socket

/-- Reading `s->tcb`. -/
def useTcb (s : Socket) : Except Fault Conn :=
  if s.freed then .error .socketFreed
  else if s.tcbDeleted then .error .tcbDeleted
  else .ok s.conn

def onTcb (s : Socket) (f : Conn → Conn) : Except Fault Socket :=
  s.useTcb.map fun c => { s with conn := f c }

def deleteTcb (s : Socket) : Except Fault Socket :=
  s.useTcb.map fun _ => { s with tcbDeleted := true }

def changeState (s : Socket) (state : TcpState) : Except Fault Socket :=
  s.onTcb (·.changeState state)

def tcpCloseSocket (s : Socket) : Except Fault Socket :=
  if s.freed then .error .socketFreed
  else do
    let s ← if s.tcbDeleted then pure s else s.changeState .closed
    pure { s with tcbDeleted := true, freed := true }

/-! ## Segments -/

def packetArriveAtClosedState (s : Socket) (p : Segment) : Except Fault Socket :=
  if p.isTCPControl && !p.rst then s.onTcb (·.sendRst p 0) else pure s

/-- `process_syn`. A callback that is set creates another socket and leaves this one as it is. -/
def processSyn (s : Socket) (p : Segment) : Except Fault Socket := do
  let c ← s.useTcb
  let t := c.tcb
  if (t.IRS ≠ 0 ∧ t.IRS ≠ t.SEG.SEQ) ∨ (t.RCV.NXT ≠ 0 ∧ t.RCV.NXT ≠ u32 (t.SEG.SEQ + 1)) then
    s.onTcb (·.sendRst p 2)
  else if c.listenCallback then pure s
  else .error .listenCallbackNull

def packetArrivesAtListenState (s : Socket) (p : Segment) : Except Fault Socket :=
  if p.rst then pure s
  else if p.ack then s.onTcb (·.sendRst p 0)
  else if p.syn then s.processSyn p
  else pure s

/-- The acknowledgment of a segment is one that `packet_arrives_at_synsent_state` refuses. -/
def ackRefused (t : Tcb) (p : Segment) : Bool :=
  p.ack && (t.SEG.ACK ≤ t.ISS || t.SND.NXT < t.SEG.ACK)

/-- `isAckAcceptable` of `packet_arrives_at_synsent_state`. -/
def ackAcceptable (t : Tcb) (p : Segment) : Bool :=
  p.ack && t.SND.UNA ≤ t.SEG.ACK && t.SEG.ACK ≤ t.SND.NXT

def packetArrivesAtSynsentState (s : Socket) (p : Segment) : Except Fault Socket := do
  let c ← s.useTcb
  if ackRefused c.tcb p then s.onTcb (·.sendRst p 0)
  else if p.rst then
    if ackAcceptable c.tcb p then
      let s ← s.deleteTcb
      let s ← s.changeState .closed
      s.tcpCloseSocket
    else pure s
  else if ackAcceptable c.tcb p && p.syn then s.onTcb (·.synAckArrives p)
  else pure s

def processRstPacket (s : Socket) : Except Fault Socket := do
  let c ← s.useTcb
  match c.tcb.tcpState with
  | .synReceived =>
    let s ← s.onTcb (·.mapTcb fun t => { t with
      retransmissionQueue := t.retransmissionQueue.deleteAllSegmentFromQueue })
    if c.tcb.tcpPrevState = .listen then s.changeState .listen else s.tcpCloseSocket
  | .established | .finWait1 | .finWait2 | .closeWait | .closing | .lastAck | .timeWait =>
    s.tcpCloseSocket
  | .closed | .listen | .synSent => pure s

def processSynPacket (s : Socket) : Except Fault Socket := do
  let c ← s.useTcb
  match c.tcb.tcpState with
  | .synReceived => s.changeState .listen
  | .established | .finWait1 | .finWait2 | .closeWait | .closing | .lastAck | .timeWait =>
    s.tcpCloseSocket
  | .closed | .listen | .synSent => pure s

def processAckPacket (s : Socket) (p : Segment) : Except Fault Socket := do
  let c ← s.useTcb
  if c.tcb.tcpState = .lastAck then
    let s ← s.changeState .closed
    s.deleteTcb
  else s.onTcb (·.processAckPacket p)

def packetArrivesAtIncomingTcp (s : Socket) (p : Segment) : Except Fault Socket := do
  let c ← s.useTcb
  if c.tcb.validateSegment then
    if p.rst then s.processRstPacket
    else if p.syn then s.processSynPacket
    else if p.ack then s.processAckPacket p
    else s.onTcb (·.processText p)
  else if p.rst then pure s
  else s.onTcb fun c => c.sendAck c.tcb.SND.NXT c.tcb.RCV.NXT

/-- `packet_arrive_from_network_layer`, for a segment whose addresses are those of the socket. -/
def packetArriveFromNetworkLayer (s : Socket) (p : Segment) : Except Fault Socket :=
  if s.freed || s.tcbDeleted then pure s
  else do
    let s ← s.onTcb (·.mapTcb (·.updateSeqNumOnReceiving p))
    let c ← s.useTcb
    match c.tcb.tcpState with
    | .closed => s.packetArriveAtClosedState p
    | .listen => s.packetArrivesAtListenState p
    | .synSent => s.packetArrivesAtSynsentState p
    | _ => s.packetArrivesAtIncomingTcp p

/-! ## Timers and the application -/

/-- `resend_syn`. There is no result when its assertion on the state fails. -/
def resendSyn (s : Socket) (p : Segment) : Option (Except Fault Socket) :=
  match s.useTcb with
  | .error f => some (.error f)
  | .ok c =>
    if c.tcb.tcpState ≠ .synSent ∧ c.tcb.tcpState ≠ .synReceived then none
    else
      match c.tcb.retransmissionQueue.getSegmentFromQueue p.seqNum with
      | none => none
      | some (syn, q) =>
        let c := c.mapTcb fun t => { t with retransmissionQueue := q }
        if c.tcb.synRetries < c.dev.maxSynRetries then
          let c := c.mapTcb fun t =>
            { t with SND := { t.SND with UNA := t.ISS, NXT := u32 (t.ISS + 1) } }
          let c := (c.sendToNetwork syn).addTimeoutEvent syn
          let c := c.mapTcb fun t => { t with synRetries := t.synRetries + 1 }
          some (.ok { s with conn := c })
        else some { s with conn := c }.tcpCloseSocket

/-- `handle_rto_timer`. A control packet that is not a SYN is never queued. -/
def handleRtoTimer (s : Socket) (p : Segment) : Option (Except Fault Socket) :=
  if s.freed || s.tcbDeleted || s.conn.tcb.isOtherTimerCancel then some (.ok s)
  else if s.conn.tcb.retransmissionQueue.isSegmentInQueue p then
    if p.isTCPControl then
      if p.syn then s.resendSyn p else some (.ok s)
    else some (s.onTcb fun c => c.congestionRtoTimeout.resendSegment p)
  else some (.ok s)

def handleTimeWaitTimeout (s : Socket) : Except Fault Socket := do
  let c ← s.useTcb
  if c.tcb.istimewaittimerrestarted then
    s.onTcb (·.mapTcb fun t => { t with istimewaittimerrestarted := false })
  else
    let s ← s.changeState .closed
    s.deleteTcb

/-- `packet_arrive_from_application_layer`, while the socket is in the list of its device. -/
def packetArriveFromApplicationLayer (s : Socket) : Except Fault Socket :=
  if s.freed then pure s
  else if s.conn.waitFromApp then s.onTcb Conn.packetArriveFromApplicationLayer
  else pure s

/-! ## New sockets -/

/-- A socket as `tcp_create_socket` leaves it, with the TCB of `create_TCB`. -/
def create (dev : DevVar) (dEventTime : Nat) (sId : List AppPacket) : Socket where
  conn :=
    { dev := dev
      dEventTime := dEventTime
      tcb := Tcb.create dev dEventTime
      waitFromApp := false
      isAPPClose := false
      sId := sId
      listenCallback := false
      network := []
      application := []
      rtoTimeouts := []
      timeWaitTimeouts := 0
      windows := []
      closings := [] }
  tcbDeleted := false
  freed := false

/-- `tcp_connect`, with `tcp_active_open`. -/
def connect (dev : DevVar) (dEventTime : Nat) (sId : List AppPacket) : Socket :=
  let s := create dev dEventTime sId
  { s with conn := s.conn.sendSyn }

/-- `tcp_accept`, with `tcp_passive_open`, on the SYN that a listening socket has received. -/
def accept (dev : DevVar) (dEventTime : Nat) (sId : List AppPacket) (syn : Segment) : Socket :=
  let s := create dev dEventTime sId
  let c := (s.conn.mapTcb (·.updateSeqNumOnReceiving syn)).changeState .listen
  { s with conn := c.rcvSYN syn }

/-- `tcp_init`: the listening socket of a device, with `tcp_bind` and `tcp_listen`. -/
def listen (dev : DevVar) (dEventTime : Nat) : Socket :=
  let s := create dev dEventTime []
  { s with conn := { s.conn with listenCallback := true }.changeState .listen }

/-- A socket as one of the functions that open it leaves it. -/
inductive Opened : Socket → Prop
  | connect (dev : DevVar) (dEventTime : Nat) (sId : List AppPacket) :
      Opened (connect dev dEventTime sId)
  | accept (dev : DevVar) (dEventTime : Nat) (sId : List AppPacket) (syn : Segment) :
      Opened (accept dev dEventTime sId syn)
  | listen (dev : DevVar) (dEventTime : Nat) : Opened (listen dev dEventTime)

end Socket

/-! ## Events -/

inductive EventKind
  /-- `TRANSPORT_IN_EVENT`. -/
  | segment (p : Segment)
  /-- `TIMER_EVENT` with `TCP_RTO_TIMEOUT`. -/
  | rtoTimeout (p : Segment)
  /-- `TIMER_EVENT` with `TCP_TIME_WAIT_TIMEOUT`. -/
  | timeWaitTimeout
  /-- `TRANSPORT_OUT_EVENT`. -/
  | transportOut
  | passPacket (p : AppPacket)
deriving DecidableEq

/-- An event and its time. -/
structure Event where
  dEventTime : Nat
  kind : EventKind
deriving DecidableEq

/-- The socket, or the fault that has ended the run. -/
abbrev World := Except Fault Socket

namespace Socket

/-- The socket once the time has come to `dEventTime`. -/
def atTime (s : Socket) (dEventTime : Nat) : Socket :=
  { s with conn := { s.conn with dEventTime := dEventTime } }

/-- The handler of an event. A timer event is taken from the pending ones. -/
def handle (s : Socket) : EventKind → Option World
  | .segment p => some (s.packetArriveFromNetworkLayer p)
  | .rtoTimeout p =>
    if p ∈ s.conn.rtoTimeouts then
      { s with conn := { s.conn with rtoTimeouts := s.conn.rtoTimeouts.erase p } }.handleRtoTimer p
    else none
  | .timeWaitTimeout =>
    if 0 < s.conn.timeWaitTimeouts then
      some { s with conn := { s.conn with
        timeWaitTimeouts := s.conn.timeWaitTimeouts - 1 } }.handleTimeWaitTimeout
    else none
  | .transportOut => some s.packetArriveFromApplicationLayer
  | .passPacket p => some (.ok { s with conn := { s.conn with sId := s.conn.sId ++ [p] } })

end Socket

/-- One event. Time does not go back, and nothing happens after a fault. -/
def World.step : World → Event → Option World
  | .error _, _ => none
  | .ok s, e =>
    if s.conn.dEventTime ≤ e.dEventTime then (s.atTime e.dEventTime).handle e.kind else none

end NetSim.Tcp
