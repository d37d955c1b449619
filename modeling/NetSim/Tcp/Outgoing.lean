import NetSim.Tcp.Tcb

/-!
# Outgoing segments (`TCP_Packet.c`, `TCP_Outgoing.c`, `TCP_Socket.c`, and parts of `SACK.c`)

`send_segment` takes packets of the application while the send window has room, `resend_segment`
sends one again after a timeout, and `tcp_close` ends the connection once nothing is queued.
-/

namespace NetSim.Tcp

/-! ## Creating packets -/

def createTcpCtrlPacket (type : TcpPacket) : Segment where
  seqNum := 0
  ackNum := 0
  hdrLength := tcpHdrSize
  fin := false
  syn := false
  rst := false
  ack := false
  window := 0
  option := []
  controlDataType := some type
  dPayload := 0
  appData := none

/-- A data segment of `len` bytes without options. -/
def dataSegment (seqNum len : Nat) : Segment :=
  { createTcpCtrlPacket .ack with
    seqNum := seqNum, controlDataType := none, dPayload := len, appData := some seqNum }

/-- The header with its options, after `set_tcp_packet_size`. -/
def Segment.setOptions (p : Segment) (option : List TcpOption) : Segment :=
  { p with option := option, hdrLength := paddedLen (optionsLen option) }

/-- `get_max_sack_data`, for a header with these options. -/
def getMaxSackData (option : List TcpOption) : Nat :=
  (maxTcpHdrSize - optionsLen option - sackOptionFixLen) / sackDataLen

/-- The loop of `set_sack_option`: the blocks finished, the one being filled, and `lastSeq` and
`len` of its last packet. -/
def sackBlocks (maxData : Nat) :
    List Segment → List SackData → SackData → Nat → Nat → List SackData
  | [], done, cur, _, _ => done ++ [cur]
  | p :: rest, done, cur, lastSeq, len =>
    if lastSeq ≠ 0 then
      if p.seqNum = u32 (lastSeq + len) then
        sackBlocks maxData rest done { cur with rightEdge := p.seqEnd } p.seqNum p.segLen
      else if done.length < maxData - 1 then
        sackBlocks maxData rest (done ++ [cur]) ⟨p.seqNum, p.seqEnd⟩ p.seqNum p.segLen
      else done ++ [cur]
    else if done.length < maxData then
      sackBlocks maxData rest done ⟨p.seqNum, p.seqEnd⟩ p.seqNum p.segLen
    else done ++ [cur]

/-- `set_sack_option`, on a header that already has the options `option`. -/
def Tcb.setSackOption (t : Tcb) (option : List TcpOption) : List TcpOption :=
  if t.isSackPermitted = false then option
  else if t.outOfOrderSegment.size = 0 then option
  else if getMaxSackData option = 0 then option
  else
    option ++
      [.sack (sackBlocks (getMaxSackData option) t.outOfOrderSegment.segments [] ⟨0, 0⟩ 0 0)]

namespace Conn

/-- `add_tcp_timestamp_option`, for a header whose ACK bit is `ack`. -/
def timestampOption (s : Conn) (ack : Bool) : List TcpOption :=
  if s.tcb.isTSopt then [.timestamp (u32 s.dEventTime) (if ack then s.tcb.tsVal else 0)] else []

def windowScaleOption (s : Conn) : List TcpOption :=
  if s.tcb.isWindowScaling then [.windowScale (.ofNat s.tcb.sndWindShift)] else []

def sackPermittedOption (s : Conn) : List TcpOption :=
  if s.tcb.isSackPermitted then [.sackPermitted] else []

def mssOption (s : Conn) : List TcpOption := [.mss (.ofNat s.tcb.getMSS)]

def createSyn (s : Conn) : Segment :=
  { createTcpCtrlPacket .syn with syn := true, seqNum := s.tcb.ISS, window := s.tcb.getWND }
    |>.setOptions (s.mssOption ++ s.sackPermittedOption ++ s.timestampOption false ++
      s.windowScaleOption)

def createSynAck (s : Conn) : Segment :=
  { createTcpCtrlPacket .synAck with
    syn := true, ack := true, seqNum := s.tcb.ISS, ackNum := s.tcb.RCV.NXT
    window := s.tcb.getWND }
    |>.setOptions (s.mssOption ++ s.windowScaleOption ++ s.sackPermittedOption ++
      s.timestampOption true)

def createAck (s : Conn) (seqno ackno : Nat) : Segment :=
  { createTcpCtrlPacket .ack with
    ack := true, seqNum := seqno, ackNum := ackno, window := s.tcb.getWND }
    |>.setOptions (s.tcb.setSackOption (s.timestampOption true))

def createFin (s : Conn) : Segment :=
  { createTcpCtrlPacket .fin with
    fin := true
    seqNum := if u32 (s.tcb.ISS + 1) = s.tcb.SND.NXT then u32 (s.tcb.SND.NXT + 1) else s.tcb.SND.NXT
    window := s.tcb.windowScaleGetWnd }
    |>.setOptions []

/-- `create_rst`, in answer to `seg`. -/
def createRst (seg : Segment) (c : Nat) : Segment :=
  if seg.ack || c = 1 then
    { createTcpCtrlPacket .rst with rst := true, seqNum := seg.ackNum }
  else
    { createTcpCtrlPacket .rst with
      rst := true, ack := true, ackNum := u32 (seg.seqNum + seg.hdrLength) }

/-- `add_tcp_hdr`: the segment that carries a packet of the application. -/
def addTcpHdr (s : Conn) (p : AppPacket) : Segment :=
  { createTcpCtrlPacket .ack with
    seqNum := s.tcb.SND.NXT, window := s.tcb.windowScaleGetWnd, controlDataType := none
    dPayload := p.dPacketSize, appData := some p.nPacketId }
    |>.setOptions (s.timestampOption false)

/-! ## Sending -/

def sendToNetwork (s : Conn) (p : Segment) : Conn := { s with network := s.network ++ [p] }

def addTimeoutEvent (s : Conn) (p : Segment) : Conn :=
  { s with
    tcb := { s.tcb with
      retransmissionQueue := s.tcb.retransmissionQueue.addPacketToQueue p s.dEventTime }
    rtoTimeouts := s.rtoTimeouts ++ [p] }

def sendRst (s : Conn) (p : Segment) (c : Nat) : Conn := s.sendToNetwork (createRst p c)

def sendAck (s : Conn) (seqNo ackNo : Nat) : Conn := s.sendToNetwork (s.createAck seqNo ackNo)

def sendFinAck (s : Conn) (seqNo ackNo : Nat) : Conn :=
  s.sendToNetwork { s.createAck seqNo ackNo with fin := true }

/-- `send_fin`. The FIN gets no timeout. -/
def sendFin (s : Conn) : Conn := (s.sendToNetwork s.createFin).record .fin

def tcpClose (s : Conn) : Conn :=
  if s.tcb.retransmissionQueue.isAnySegmentInQueue then s else s.sendFin.changeState .finWait1

/-- One round of the loop of `send_segment`: the packet `p` leaves the socket interface. -/
def sendPacket (s : Conn) (p : AppPacket) : Conn :=
  let pt := s.addTcpHdr p
  let s := { s with isAPPClose := s.isAPPClose || p.nAppEndFlag }
  let s := s.mapTcb fun t => { t with SND.NXT := u32 (t.SND.NXT + u32 p.dPacketSize) }
  (s.sendToNetwork pt).addTimeoutEvent pt

/-- The test of `send_segment` on the next packet. -/
def windowHasRoom (s : Conn) (p : AppPacket) : Bool :=
  u32 (s.tcb.SND.NXT + u32 p.dPacketSize) ≤ u32 (s.tcb.SND.WND + s.tcb.SND.UNA)

/-- The loop of `send_segment`, over the packets in the socket interface. -/
def sendLoop (s : Conn) : List AppPacket → Conn
  | [] => { s with sId := [] }
  | p :: rest => if s.windowHasRoom p then (s.sendPacket p).sendLoop rest
      else { s with sId := p :: rest }

/-- The window that `send_segment` computes and asserts to hold one segment. -/
def openWindow (s : Conn) : Conn :=
  let s := s.mapTcb fun t => { t with SND.WND := t.windowScaleGetCwnd }
  { s with windows := s.windows ++ [(s.tcb.SND.WND, s.tcb.getMSS)] }

def sendSegment (s : Conn) : Conn :=
  let s := if s.sId = [] then { s with waitFromApp := true } else s
  let s := s.openWindow
  let s := s.sendLoop s.sId
  if s.isAPPClose then s.tcpClose else s

def resendSegment (s : Conn) (expired : Segment) : Conn :=
  match s.tcb.retransmissionQueue.getSegmentFromQueue expired.seqNum with
  | none => s
  | some (p, q) =>
    ((s.mapTcb fun t => { t with retransmissionQueue := q }).sendToNetwork p).addTimeoutEvent p

def setHighRxt (s : Conn) (seq : Nat) : Conn :=
  s.mapTcb fun t => { t with highRxt := max t.highRxt seq }

def setRescueRxt (s : Conn) (seq : Nat) : Conn :=
  s.mapTcb fun t => { t with rescueRxt := max t.rescueRxt seq }

def resendSegmentWithoutTimeout (s : Conn) (seq : Nat) : Conn :=
  match s.tcb.retransmissionQueue.getCopySegmentFromQueue seq with
  | none => s
  | some (p, isSacked) =>
    if s.tcb.isSackPermitted && isSacked then s
    else ((s.setHighRxt seq).setRescueRxt seq).sendToNetwork p

end Conn

end NetSim.Tcp
