import NetSim.Rlc.Grants
import NetSim.Rlc.NackDecoding

/-!
# The buffer status (`LTENR_RLC.c`, `LTENR_RLC_UM.c`, `LTENR_RLC_AM.c`)

`bufferStatus` is a `UINT` for each logical channel that is counted by hand: packets from PDCP and
PDUs to send again are added, and what goes to the MAC sublayer is taken off, but for the TM entity.
-/

namespace NetSim.Rlc

open NetSim.Lib NetSim.Tcp

def BufferStatus : Type := LogicalChannel → Nat

namespace BufferStatus

/-- `bufferStatus[channel] += dPayload`. -/
def add (status : BufferStatus) (channel : LogicalChannel) (dPayload : Nat) : BufferStatus :=
  fun c => if c = channel then u32 (status c + dPayload) else status c

/-- `bufferStatus[channel] -= dPayload`. -/
def sub (status : BufferStatus) (channel : LogicalChannel) (dPayload : Nat) : BufferStatus :=
  fun c => if c = channel then sub32 (status c) dPayload else status c

/-- The status that `calloc` makes. -/
def zero : BufferStatus := fun _ => 0

end BufferStatus

/-! ## TM entities -/

structure TmBuffer where
  channel : LogicalChannel
  isUplane : Bool
  nPacketId : Nat
  dPayload : Nat
deriving DecidableEq

/-- A TM `LTENR_RLCENTITY` that transmits, with the packets handed to the MAC sublayer. -/
structure TmTransmitter where
  transmissionBuffer : List TmBuffer
  bufferStatus : BufferStatus
  mac : List TmBuffer

namespace TmTransmitter

/-- An entity as `LTENR_RLC_ESTABLISHENTITY` leaves it. -/
def establish : TmTransmitter where
  transmissionBuffer := []
  bufferStatus := .zero
  mac := []

def handlePDUFromUpperLayer (s : TmTransmitter) (b : TmBuffer) : TmTransmitter :=
  { s with
    transmissionBuffer := s.transmissionBuffer ++ [b]
    bufferStatus := s.bufferStatus.add b.channel b.dPayload }

/-- The loop of `LTENR_RLC_TM_SEND_PDU`. Packets of the user plane that are too long are freed. -/
def sendPdus (channel : LogicalChannel) : Nat → List TmBuffer → List TmBuffer
  | _, [] => []
  | left, b :: l =>
    if b.channel ≠ channel then sendPdus channel left l
    else if b.isUplane && left < b.dPayload then sendPdus channel left l
    else b :: sendPdus channel (sub32 left b.dPayload) l

/-- `LTENR_RLC_TM_SEND_PDU`. -/
def sendPdu (s : TmTransmitter) (size : Nat) (channel : LogicalChannel) : TmTransmitter :=
  { s with
    transmissionBuffer := s.transmissionBuffer.filter (·.channel ≠ channel)
    mac := s.mac ++ sendPdus channel size s.transmissionBuffer }

end TmTransmitter

inductive TmEvent
  | upper (b : TmBuffer)
  | grant (size : Nat) (channel : LogicalChannel)
deriving DecidableEq

def TmTransmitter.step (s : TmTransmitter) : TmEvent → TmTransmitter
  | .upper b => s.handlePDUFromUpperLayer b
  | .grant size channel => s.sendPdu size channel

/-! ## UM entities -/

structure UmAccount where
  entity : UmTransmitter
  bufferStatus : BufferStatus

namespace UmAccount

/-- An entity as `LTENR_RLC_ESTABLISHENTITY` leaves it. -/
def establish : UmAccount where
  entity := .establish
  bufferStatus := .zero

def handlePDUFromUpperLayer (s : UmAccount) (channel : LogicalChannel) (isUplane : Bool)
    (nPacketId dPayload : Nat) : UmAccount where
  entity := s.entity.handlePDUFromUpperLayer channel isUplane nPacketId dPayload
  bufferStatus := s.bufferStatus.add channel dPayload

/-- The loop of `LTENR_RLC_UM_SEND_PDU`, as `UmTransmitter.sendPdus` has it. -/
def sendPdus (channel : LogicalChannel) :
    UmAccount → Nat → List UmBuffer → UmAccount × List UmBuffer
  | s, _, [] => (s, [])
  | s, left, b :: l =>
    if b.channel ≠ channel then
      let (s, l) := sendPdus channel s left l
      (s, b :: l)
    else if left < minRlcPduSize then (s, b :: l)
    else if UmTransmitter.isCut left b then
      let (pdu, b) := b.fragment left s.entity.TX_Next
      (⟨{ s.entity with mac := s.entity.mac ++ [pdu] }, s.bufferStatus.sub channel pdu.dPayload⟩,
        b :: l)
    else
      sendPdus channel ⟨s.entity.sendLast b, s.bufferStatus.sub channel b.dPayload⟩
        (sub32 left b.dPayload) l

/-- `LTENR_RLC_UM_SEND_PDU`. -/
def sendPdu (s : UmAccount) (size : Nat) (channel : LogicalChannel) : UmAccount :=
  let (s, l) := sendPdus channel s size s.entity.transmissionBuffer
  { s with entity := { s.entity with transmissionBuffer := l } }

def step (s : UmAccount) : UmEvent → UmAccount
  | .upper channel isUplane nPacketId dPayload =>
    s.handlePDUFromUpperLayer channel isUplane nPacketId dPayload
  | .grant size channel => s.sendPdu size channel

end UmAccount

/-! ## AM entities -/

structure AmAccount where
  entity : TransmittingEntity
  bufferStatus : BufferStatus

namespace AmAccount

/-- An entity as `LTENR_RLC_ESTABLISHENTITY` leaves it. -/
def establish (maxRetxThreshold pollPDU pollByte : Nat) : AmAccount where
  entity := .establish maxRetxThreshold pollPDU pollByte
  bufferStatus := .zero

def handlePDUFromUpperLayer (s : AmAccount) (channel : LogicalChannel) (nPacketId dPayload : Nat) :
    AmAccount where
  entity := s.entity.handlePDUFromUpperLayer channel nPacketId dPayload
  bufferStatus := s.bufferStatus.add channel dPayload

/-- `LTENR_RLCAM_SendPDUFromRetransmissionBuffer`, as `TransmittingEntity` has it. -/
def sendPDUFromRetransmissionBuffer (channel : LogicalChannel) :
    Nat → AmAccount → Nat → AmAccount × Nat
  | 0, s, left => (s, left)
  | n + 1, s, left =>
    match splitFirst (s.entity.retransmits channel left) s.entity.retransmissionBuffer with
    | none => (s, left)
    | some (pre, buf, post) =>
      if left < minRlcPduSize then (s, left)
      else
        sendPDUFromRetransmissionBuffer channel n
          ⟨s.entity.sendAgain pre buf post, s.bufferStatus.sub channel buf.dPayload⟩
          (left - buf.dPayload)

/-- `LTENR_RLCAM_SendPDUFromTransmissionBuffer`, as `TransmittingEntity` has it. -/
def sendPDUFromTransmissionBuffer (channel : LogicalChannel) :
    Nat → AmAccount → Nat → AmAccount × Nat
  | 0, s, left => (s, left)
  | n + 1, s, left =>
    match splitFirst (s.entity.transmits channel left) s.entity.transmissionBuffer with
    | none => (s, left)
    | some (pre, buf, post) =>
      if left < minRlcPduSize then (s, left)
      else
        sendPDUFromTransmissionBuffer channel n
          ⟨s.entity.sendNew left pre buf post,
            s.bufferStatus.sub channel (buf.fragment left).1.dPayload⟩
          (left - (buf.fragment left).1.dPayload)

/-- `LTENR_RLCAM_SEND_PDU`. -/
def sendPdu (s : AmAccount) (size : Nat) (channel : LogicalChannel) : AmAccount :=
  let (s, left) :=
    sendPDUFromRetransmissionBuffer channel s.entity.retransmissionBuffer.length s size
  (sendPDUFromTransmissionBuffer channel s.entity.transmissionBuffer.length s left).1

def movePacketFromTransmittedBuffer (s : AmAccount) (b : RlcBuffer) : AmAccount :=
  if b.retxCount = s.entity.maxRetxThreshold then s
  else ⟨s.entity.movePacketFromTransmittedBuffer b, s.bufferStatus.add b.channel b.dPayload⟩

def updateBufferBasedOnNACK0 (s : AmAccount) (sn : Nat) : AmAccount :=
  (s.entity.transmittedBuffer.filter (·.SN = sn)).foldl movePacketFromTransmittedBuffer
    { s with entity := { s.entity with
      transmittedBuffer := s.entity.transmittedBuffer.filter (·.SN ≠ sn) } }

/-- A round of the loop of `LTENR_RLCAM_UpdateBufferBasedOnNACK1`. -/
def nackOffset (sn : Nat) (s : AmAccount) (so : Nat) : AmAccount :=
  match splitFirst (fun b => b.SN = sn && b.SO = so) s.entity.transmittedBuffer with
  | none => s
  | some (pre, b, post) =>
    { s with entity := { s.entity with
      transmittedBuffer := pre ++ post } }.movePacketFromTransmittedBuffer b

/-- What `LTENR_RLCAM_ReceiveStatusPDU` does with a NACK. -/
def handleNack (s : AmAccount) (nack : Nack) : Option AmAccount :=
  if nack.E3 then
    let last := u32 (nack.NAck_SN + nack.NAckRange)
    if last + 1 < 2 ^ 32 then
      some ((List.range' nack.NAck_SN (last + 1 - nack.NAck_SN)).foldl updateBufferBasedOnNACK0 s)
    else none
  else if nack.E2 then
    if nack.soEnd + 1 < 2 ^ 16 then
      some ((List.range' nack.soStart (nack.soEnd + 1 - nack.soStart)).foldl
        (nackOffset nack.NAck_SN) s)
    else none
  else some (s.updateBufferBasedOnNACK0 nack.NAck_SN)

def receiveStatusPdu (s : AmAccount) (pdu : StatusPdu) : Option AmAccount :=
  (pdu.nacks.foldlM handleNack s).map fun s =>
    { s with entity :=
      let s := s.entity.clearTransmittedBuffer pdu.Ack_SN
      let s := { s with TX_Next_Ack := s.nextAck }
      if s.POLL_SN < pdu.Ack_SN then { s with isPollRetransmitTimerStarted := false } else s }

/-- The buffers that `LTENR_RLCAM_Handle_t_PollRetransmitTimer` moves, with one retransmission more.
-/
def polled (s : TransmittingEntity) : List RlcBuffer :=
  ((s.transmittedBuffer.filter (·.SN ≤ s.POLL_SN)).map RlcBuffer.again).filter fun b =>
    ¬ s.maxRetxThreshold < b.retxCount

/-- `LTENR_RLCAM_Handle_t_PollRetransmitTimer`. -/
def handlePollRetransmitTimer (s : AmAccount) : AmAccount where
  entity := s.entity.handlePollRetransmitTimer
  bufferStatus := (polled s.entity).foldl (fun status b => status.add b.channel b.dPayload)
    s.bufferStatus

def step (s : AmAccount) : TxEvent → Option AmAccount
  | .upper channel nPacketId dPayload =>
    some (s.handlePDUFromUpperLayer channel nPacketId dPayload)
  | .grant size channel => some (s.sendPdu size channel)
  | .statusPdu pdu => s.receiveStatusPdu pdu
  | .pollRetransmitTimeout =>
    if s.entity.isPollRetransmitTimerStarted then some s.handlePollRetransmitTimer else none

end AmAccount

/-! ## The entities of a link -/

/-- The transmitting entities that `LTENR_RLC_ESTABLISHENTITYALL` makes for a peer. -/
structure Transmitters where
  tm : TmTransmitter
  um : UmAccount
  am : AmAccount

/-- What happens to one of them. -/
inductive TransmitterEvent
  | tm (e : TmEvent)
  | um (e : UmEvent)
  | am (e : TxEvent)
deriving DecidableEq

namespace Transmitters

/-- `LTENR_RLC_ESTABLISHENTITYALL`. -/
def establish (maxRetxThreshold pollPDU pollByte : Nat) : Transmitters where
  tm := .establish
  um := .establish
  am := .establish maxRetxThreshold pollPDU pollByte

def step (s : Transmitters) : TransmitterEvent → Option Transmitters
  | .tm e => some { s with tm := s.tm.step e }
  | .um e => some { s with um := s.um.step e }
  | .am e => (s.am.step e).map fun am => { s with am := am }

end Transmitters

end NetSim.Rlc
