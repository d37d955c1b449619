import NetSim.Rlc.Pdu
import NetSim.Lib.Run
import NetSim.Lib.SplitFirst

/-!
# The transmitting side of an AM entity (`LTENR_RLC_AM.c`, `LTENR_RLCBuffer.c`)

`TransmittingEntity` has the transmitting half of `LTENR_RLCENTITY`, the PDUs handed to the MAC
sublayer, and for the reader those that are not sent again.
-/

namespace NetSim.Rlc

open NetSim.Lib NetSim.Tcp

/-- `LTENR_RLCBUFFER`. The header of a packet that has been sent has the `si`, `SN` and `SO` of its
buffer. -/
structure RlcBuffer where
  si : SI
  SN : Nat
  SO : Nat
  retxCount : Nat
  channel : LogicalChannel
  nPacketId : Nat
  dPayload : Nat
  isFragmented : Bool
deriving DecidableEq

def RlcBuffer.pdu (b : RlcBuffer) : AmdPdu where
  P := false
  si := b.si
  SN := b.SN
  SO := b.SO
  nPacketId := b.nPacketId
  dPayload := b.dPayload

/-- `LTENR_RLC_AM_FRAGMENT_PACKET`: the buffer to send, and the one that is left. -/
def RlcBuffer.fragment (b : RlcBuffer) (size : Nat) : RlcBuffer × Option RlcBuffer :=
  if size < b.dPayload then
    ({ b with
        si := if b.isFragmented then .middle else .first
        SO := if b.isFragmented then b.SO else 0
        retxCount := 0
        dPayload := size
        isFragmented := true },
      some { b with
        si := .last
        SO := if b.isFragmented then u16 (b.SO + 1) else 1
        dPayload := b.dPayload - size
        isFragmented := true })
  else ({ b with si := if b.isFragmented then .last else .all }, none)

/-- The transmitting half of `LTENR_RLCENTITY`. -/
structure TransmittingEntity where
  TX_Next_Ack : Nat
  TX_Next : Nat
  POLL_SN : Nat
  TX_HighestSN : Nat
  PDU_WITHOUT_POLL : Nat
  BYTE_WITHOUT_POLL : Nat
  isPollRetransmitTimerStarted : Bool
  maxRetxThreshold : Nat
  pollPDU : Nat
  pollByte : Nat
  transmissionBuffer : List RlcBuffer
  transmittedBuffer : List RlcBuffer
  retransmissionBuffer : List RlcBuffer
  mac : List AmdPdu
  produced : List AmdPdu
deriving DecidableEq

namespace TransmittingEntity

/-- An entity as `LTENR_RLC_ESTABLISHENTITY` leaves it. -/
def establish (maxRetxThreshold pollPDU pollByte : Nat) : TransmittingEntity where
  TX_Next_Ack := 0
  TX_Next := 0
  POLL_SN := 0
  TX_HighestSN := 0
  PDU_WITHOUT_POLL := 0
  BYTE_WITHOUT_POLL := 0
  isPollRetransmitTimerStarted := false
  maxRetxThreshold := maxRetxThreshold
  pollPDU := pollPDU
  pollByte := pollByte
  transmissionBuffer := []
  transmittedBuffer := []
  retransmissionBuffer := []
  mac := []
  produced := []

def isSNFallsInTransmittingWindow (s : TransmittingEntity) (sn : Nat) : Bool :=
  s.TX_Next_Ack ≤ sn && sn < u32 (s.TX_Next_Ack + amWindowSize)

def handlePDUFromUpperLayer (s : TransmittingEntity) (channel : LogicalChannel)
    (nPacketId dPayload : Nat) : TransmittingEntity :=
  { s with
    transmissionBuffer := s.transmissionBuffer ++ [{
      si := .all
      SN := s.TX_Next
      SO := 0
      retxCount := 0
      channel := channel
      nPacketId := nPacketId
      dPayload := dPayload
      isFragmented := false }]
    TX_Next := u32 (s.TX_Next + 1) }

/-! ## Grants -/

def isPollIncluded (s : TransmittingEntity) : Bool :=
  s.pollPDU ≤ s.PDU_WITHOUT_POLL || s.pollByte ≤ s.BYTE_WITHOUT_POLL ||
    (s.transmissionBuffer = [] && s.retransmissionBuffer = [])

def sendPDUToMac (s : TransmittingEntity) (amdpdu : AmdPdu) : TransmittingEntity :=
  let s := { s with
    TX_HighestSN := max s.TX_HighestSN amdpdu.SN
    BYTE_WITHOUT_POLL := u32 (s.BYTE_WITHOUT_POLL + amdpdu.dPayload) }
  if amdpdu.si.isEnd then
    let s := { s with PDU_WITHOUT_POLL := u32 (s.PDU_WITHOUT_POLL + 1) }
    if s.isPollIncluded then
      { s with
        BYTE_WITHOUT_POLL := 0
        PDU_WITHOUT_POLL := 0
        POLL_SN := s.TX_HighestSN
        isPollRetransmitTimerStarted := true
        mac := s.mac ++ [{ amdpdu with P := true }] }
    else { s with mac := s.mac ++ [amdpdu] }
  else { s with mac := s.mac ++ [amdpdu] }

/-- The loop of `LTENR_RLCAM_SendPDUFromRetransmissionBuffer` does not go on to the next buffer. -/
def retransmits (s : TransmittingEntity) (channel : LogicalChannel) (left : Nat) (b : RlcBuffer) :
    Bool :=
  b.channel = channel && (left < minRlcPduSize ||
    (s.isSNFallsInTransmittingWindow b.SN && b.dPayload ≤ left))

/-- The buffer `buf` of the retransmission buffer is sent. -/
def sendAgain (s : TransmittingEntity) (pre : List RlcBuffer) (buf : RlcBuffer)
    (post : List RlcBuffer) : TransmittingEntity :=
  let s := s.sendPDUToMac buf.pdu
  { s with
    retransmissionBuffer := pre ++ post
    transmittedBuffer := s.transmittedBuffer ++ [buf] }

/-- `LTENR_RLCAM_SendPDUFromRetransmissionBuffer`, with a bound on the PDUs and the bytes left.
After each PDU the loop starts again at the head. -/
def sendPDUFromRetransmissionBuffer (channel : LogicalChannel) :
    Nat → TransmittingEntity → Nat → TransmittingEntity × Nat
  | 0, s, left => (s, left)
  | n + 1, s, left =>
    match splitFirst (s.retransmits channel left) s.retransmissionBuffer with
    | none => (s, left)
    | some (pre, buf, post) =>
      if left < minRlcPduSize then (s, left)
      else
        sendPDUFromRetransmissionBuffer channel n (s.sendAgain pre buf post) (left - buf.dPayload)

/-- The loop of `LTENR_RLCAM_SendPDUFromTransmissionBuffer` does not go on to the next buffer. -/
def transmits (s : TransmittingEntity) (channel : LogicalChannel) (left : Nat) (b : RlcBuffer) :
    Bool :=
  b.channel = channel && (left < minRlcPduSize || s.isSNFallsInTransmittingWindow b.SN)

/-- The packet at `buf` in the transmission buffer is sent, or a segment of it. -/
def sendNew (s : TransmittingEntity) (left : Nat) (pre : List RlcBuffer) (buf : RlcBuffer)
    (post : List RlcBuffer) : TransmittingEntity :=
  let (ret, rest) := buf.fragment left
  let s := { s with transmissionBuffer := pre ++ (rest.toList ++ post) }
  let s := s.sendPDUToMac ret.pdu
  { s with
    transmittedBuffer := s.transmittedBuffer ++ [ret]
    produced := s.produced ++ [ret.pdu] }

/-- `LTENR_RLCAM_SendPDUFromTransmissionBuffer`, with a bound on the PDUs and the bytes left. The
loop starts again at the head; after a segment no bytes are left. -/
def sendPDUFromTransmissionBuffer (channel : LogicalChannel) :
    Nat → TransmittingEntity → Nat → TransmittingEntity × Nat
  | 0, s, left => (s, left)
  | n + 1, s, left =>
    match splitFirst (s.transmits channel left) s.transmissionBuffer with
    | none => (s, left)
    | some (pre, buf, post) =>
      if left < minRlcPduSize then (s, left)
      else
        sendPDUFromTransmissionBuffer channel n (s.sendNew left pre buf post)
          (left - (buf.fragment left).1.dPayload)

/-- `LTENR_RLCAM_SEND_PDU`. A loop sends at most one PDU for each buffer in its list. -/
def sendPdu (s : TransmittingEntity) (size : Nat) (channel : LogicalChannel) :
    TransmittingEntity :=
  let (s, left) := sendPDUFromRetransmissionBuffer channel s.retransmissionBuffer.length s size
  (sendPDUFromTransmissionBuffer channel s.transmissionBuffer.length s left).1

/-! ## Status PDUs and the poll timer -/

/-- `LTENR_RLCAM_MovePacketFromTransmittedBuffer`, on a buffer that is no longer in the transmitted
buffer. -/
def movePacketFromTransmittedBuffer (s : TransmittingEntity) (b : RlcBuffer) :
    TransmittingEntity :=
  if b.retxCount = s.maxRetxThreshold then s
  else { s with
    retransmissionBuffer :=
      s.retransmissionBuffer ++ [{ b with retxCount := u32 (b.retxCount + 1) }] }

/-- `LTENR_RLCAM_UpdateBufferBasedOnNACK0`, with `LTENR_RLCBUFFER_FindAndRemoveAllBySN`. -/
def updateBufferBasedOnNACK0 (s : TransmittingEntity) (sn : Nat) : TransmittingEntity :=
  (s.transmittedBuffer.filter (·.SN = sn)).foldl movePacketFromTransmittedBuffer
    { s with transmittedBuffer := s.transmittedBuffer.filter (·.SN ≠ sn) }

/-- A round of the loop of `LTENR_RLCAM_UpdateBufferBasedOnNACK1`, with
`LTENR_RLCBUFFER_FindAndRemoveBySNSO`. -/
def nackOffset (sn : Nat) (s : TransmittingEntity) (so : Nat) : TransmittingEntity :=
  match splitFirst (fun b => b.SN = sn && b.SO = so) s.transmittedBuffer with
  | none => s
  | some (pre, b, post) =>
    { s with transmittedBuffer := pre ++ post }.movePacketFromTransmittedBuffer b

/-- `LTENR_RLCAM_UpdateBufferBasedOnNACK1`, whose `UINT16` loop does not end if `soEnd` is the
highest one. -/
def updateBufferBasedOnNACK1 (s : TransmittingEntity) (nack : Nack) : Option TransmittingEntity :=
  if nack.soEnd + 1 < 2 ^ 16 then
    some ((List.range' nack.soStart (nack.soEnd + 1 - nack.soStart)).foldl
      (nackOffset nack.NAck_SN) s)
  else none

/-- `LTENR_RLCAM_UpdateBufferBasedOnNACK2`, whose loop does not end if the last SN is the highest
`UINT`. -/
def updateBufferBasedOnNACK2 (s : TransmittingEntity) (nack : Nack) : Option TransmittingEntity :=
  let last := u32 (nack.NAck_SN + nack.NAckRange)
  if last + 1 < 2 ^ 32 then
    some ((List.range' nack.NAck_SN (last + 1 - nack.NAck_SN)).foldl updateBufferBasedOnNACK0 s)
  else none

/-- What `LTENR_RLCAM_ReceiveStatusPDU` does with a NACK. -/
def handleNack (s : TransmittingEntity) (nack : Nack) : Option TransmittingEntity :=
  if nack.E3 then s.updateBufferBasedOnNACK2 nack
  else if nack.E2 then s.updateBufferBasedOnNACK1 nack
  else some (s.updateBufferBasedOnNACK0 nack.NAck_SN)

def clearTransmittedBuffer (s : TransmittingEntity) (sn : Nat) : TransmittingEntity :=
  { s with transmittedBuffer := s.transmittedBuffer.filter fun b => ¬ b.SN < sn }

/-- The value that `LTENR_RLCAM_ReceiveStatusPDU` gives to `TX_Next_Ack`. -/
def nextAck (s : TransmittingEntity) : Nat :=
  match s.transmissionBuffer with
  | b :: _ => b.SN
  | [] => s.TX_Next

/-- `LTENR_RLCAM_ReceiveStatusPDU`. Starting the poll timer again changes nothing here. -/
def receiveStatusPdu (s : TransmittingEntity) (pdu : StatusPdu) : Option TransmittingEntity :=
  (pdu.nacks.foldlM handleNack s).map fun s =>
    let s := s.clearTransmittedBuffer pdu.Ack_SN
    let s := { s with TX_Next_Ack := s.nextAck }
    if s.POLL_SN < pdu.Ack_SN then { s with isPollRetransmitTimerStarted := false } else s

/-- `LTENR_RLCAM_Handle_t_PollRetransmitTimer`. -/
def handlePollRetransmitTimer (s : TransmittingEntity) : TransmittingEntity :=
  let polled := (s.transmittedBuffer.filter (·.SN ≤ s.POLL_SN)).map fun b =>
    { b with retxCount := u32 (b.retxCount + 1) }
  { s with
    isPollRetransmitTimerStarted := false
    transmittedBuffer := s.transmittedBuffer.filter fun b => ¬ b.SN ≤ s.POLL_SN
    retransmissionBuffer :=
      s.retransmissionBuffer ++ polled.filter fun b => ¬ s.maxRetxThreshold < b.retxCount }

end TransmittingEntity

/-- What happens to the transmitting side of an entity. -/
inductive TxEvent
  | upper (channel : LogicalChannel) (nPacketId dPayload : Nat)
  | grant (size : Nat) (channel : LogicalChannel)
  | statusPdu (pdu : StatusPdu)
  /-- `LTENR_SUBEVNT_RLC_TPOLLRETRANSMITTIMER`. -/
  | pollRetransmitTimeout
deriving DecidableEq

/-- One event; `none` is also a status PDU with a NACK whose loop does not end. -/
def TransmittingEntity.step (s : TransmittingEntity) : TxEvent → Option TransmittingEntity
  | .upper channel nPacketId dPayload =>
    some (s.handlePDUFromUpperLayer channel nPacketId dPayload)
  | .grant size channel => some (s.sendPdu size channel)
  | .statusPdu pdu => s.receiveStatusPdu pdu
  | .pollRetransmitTimeout =>
    if s.isPollRetransmitTimerStarted then some s.handlePollRetransmitTimer else none

end NetSim.Rlc
