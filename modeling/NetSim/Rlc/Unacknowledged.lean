import NetSim.Rlc.Pdu
import NetSim.Lib.KeyedList
import NetSim.Lib.Run

/-!
# UM entities (`LTENR_RLC_UM.c`, `LTENR_RLC.h`)

In unacknowledged mode nothing is sent again. The sequence number of a segment is that of the entity
when the segment is cut; an SDU that is sent whole has none.
-/

namespace NetSim.Rlc

open NetSim.Lib NetSim.Tcp

/-- `UM_Window_Size`, for sequence numbers of 6 bits. -/
def umWindowSize : Nat := 0x20

/-- A UMD PDU: `LTENR_RLCMSG_UMDHDR`, and the part of the packet that RLC reads. -/
structure UmdPdu where
  si : SI
  SN : Nat
  SO : Nat
  nPacketId : Nat
  dPayload : Nat
deriving DecidableEq

/-! ## The transmitting side -/

/-- A packet in the transmission buffer, with the UMD header of the last segment cut from it. -/
structure UmBuffer where
  channel : LogicalChannel
  isUplane : Bool
  nPacketId : Nat
  dPayload : Nat
  hdr : Option (Nat × Nat)
deriving DecidableEq

/-- The transmitting half of a UM `LTENR_RLCENTITY`, with the PDUs handed to the MAC sublayer. -/
structure UmTransmitter where
  TX_Next : Nat
  transmissionBuffer : List UmBuffer
  mac : List UmdPdu
deriving DecidableEq

/-- `LTENR_RLC_UM_FRAGMENT_PACKET`: the PDU, and what is left of the packet. -/
def UmBuffer.fragment (b : UmBuffer) (size sn : Nat) : UmdPdu × UmBuffer :=
  match b.hdr with
  | some (_, so) =>
    (⟨.middle, sn, so, b.nPacketId, size⟩,
      { b with dPayload := b.dPayload - size, hdr := some (sn, u16 (so + 1)) })
  | none =>
    (⟨.first, sn, 0, b.nPacketId, size⟩,
      { b with dPayload := b.dPayload - size, hdr := some (sn, 1) })

/-- `LTENR_RLC_UM_ADD_HDR`: the PDU, and the sequence number returned as an `int`. -/
def UmBuffer.addHdr (b : UmBuffer) : UmdPdu × Int :=
  match b.hdr with
  | some (sn, so) =>
    (⟨.last, sn, so, b.nPacketId, b.dPayload⟩, if sn < 2 ^ 31 then sn else (sn : Int) - 2 ^ 32)
  | none => (⟨.all, 0, 0, b.nPacketId, b.dPayload⟩, -1)

namespace UmTransmitter

/-- An entity as `LTENR_RLC_ESTABLISHENTITY` leaves it. -/
def establish : UmTransmitter where
  TX_Next := 0
  transmissionBuffer := []
  mac := []

def handlePDUFromUpperLayer (s : UmTransmitter) (channel : LogicalChannel) (isUplane : Bool)
    (nPacketId dPayload : Nat) : UmTransmitter :=
  { s with transmissionBuffer :=
      s.transmissionBuffer ++ [⟨channel, isUplane, nPacketId, dPayload, none⟩] }

/-- The packet is cut, for `left` bytes. -/
def isCut (left : Nat) (b : UmBuffer) : Bool := b.isUplane && left < b.dPayload

def sendLast (s : UmTransmitter) (b : UmBuffer) : UmTransmitter :=
  let (pdu, sn) := b.addHdr
  { s with
    TX_Next := if sn = -1 then s.TX_Next else u32 (s.TX_Next + 1)
    mac := s.mac ++ [pdu] }

/-- The loop of `LTENR_RLC_UM_SEND_PDU`: the packets given, and those left in the buffer. -/
def sendPdus (channel : LogicalChannel) :
    UmTransmitter → Nat → List UmBuffer → UmTransmitter × List UmBuffer
  | s, _, [] => (s, [])
  | s, left, b :: l =>
    if b.channel ≠ channel then
      let (s, l) := sendPdus channel s left l
      (s, b :: l)
    else if left < minRlcPduSize then (s, b :: l)
    else if isCut left b then
      let (pdu, b) := b.fragment left s.TX_Next
      ({ s with mac := s.mac ++ [pdu] }, b :: l)
    else sendPdus channel (s.sendLast b) (sub32 left b.dPayload) l

/-- `LTENR_RLC_UM_SEND_PDU`. -/
def sendPdu (s : UmTransmitter) (size : Nat) (channel : LogicalChannel) : UmTransmitter :=
  let (s, l) := sendPdus channel s size s.transmissionBuffer
  { s with transmissionBuffer := l }

end UmTransmitter

/-- What happens to the transmitting side of a UM entity. -/
inductive UmEvent
  | upper (channel : LogicalChannel) (isUplane : Bool) (nPacketId dPayload : Nat)
  | grant (size : Nat) (channel : LogicalChannel)
deriving DecidableEq

def UmTransmitter.step (s : UmTransmitter) : UmEvent → Option UmTransmitter
  | .upper channel isUplane nPacketId dPayload =>
    some (s.handlePDUFromUpperLayer channel isUplane nPacketId dPayload)
  | .grant size channel => some (s.sendPdu size channel)

/-! ## The receiving side -/

/-- `LTENR_RLC_RECEPTIONBUFFER`, with UMD PDUs. -/
structure UmReceptionBuffer where
  SN : Nat
  lastSDUSO : Nat
  isLastSDUReceived : Bool
  packets : List UmdPdu
deriving DecidableEq

structure UmDelivery where
  nPacketId : Nat
  dPayload : Nat
deriving DecidableEq

/-- The receiving half of a UM `LTENR_RLCENTITY`. -/
structure UmReceiver where
  RX_Timer_Trigger : Nat
  RX_Next_Reassembly : Nat
  RX_Next_Highest : Nat
  receptionBuffer : List UmReceptionBuffer
  isReassemblyTimerStarted : Bool
  pdcp : List UmDelivery
deriving DecidableEq

namespace UmReceptionBuffer

/-- A buffer as `LTENR_RLC_UM_CREATERECEPTIONBUFFER` leaves it. -/
def create (sn : Nat) : UmReceptionBuffer :=
  { SN := sn, lastSDUSO := 0, isLastSDUReceived := false, packets := [] }

/-- `LTENR_RLC_UM_AddToReceptionBuffer`. -/
def add (b : UmReceptionBuffer) (p : UmdPdu) : UmReceptionBuffer :=
  { b with
    packets := b.packets ++ [p]
    isLastSDUReceived := p.si = .last || b.isLastSDUReceived
    lastSDUSO := if p.si = .last then p.SO else b.lastSDUSO }

/-- `LTENR_RLC_UM_isAllByteSegmentReceived`, or `none` where its assertion fails. -/
def isAllByteSegmentReceived (b : UmReceptionBuffer) : Option Bool :=
  if b.isLastSDUReceived then
    if b.packets.all (·.SO ≤ b.lastSDUSO) then
      some ((List.range b.lastSDUSO).all fun i => b.packets.any (·.SO = i))
    else none
  else some false

/-- `LTENR_RLC_UM_ReassembleAllBytes`. The head is there whenever a PDU has been added. -/
def reassembleAllBytes (b : UmReceptionBuffer) : UmDelivery where
  nPacketId := (b.packets.head?.map UmdPdu.nPacketId).getD 0
  dPayload := (b.packets.map UmdPdu.dPayload).sum

end UmReceptionBuffer

namespace UmReceiver

/-- An entity as `LTENR_RLC_ESTABLISHENTITY` leaves it. -/
def establish : UmReceiver where
  RX_Timer_Trigger := 0
  RX_Next_Reassembly := 0
  RX_Next_Highest := 0
  receptionBuffer := []
  isReassemblyTimerStarted := false
  pdcp := []

/-- `RX_Next_Highest - UM_Window_Size`. -/
def windowStart (s : UmReceiver) : Nat := sub32 s.RX_Next_Highest umWindowSize

def isSNFallsInReassemblyWindows (s : UmReceiver) (sn : Nat) : Bool :=
  s.windowStart ≤ sn && sn < s.RX_Next_Highest

def findReceptionBuffer (s : UmReceiver) (sn : Nat) : Option UmReceptionBuffer :=
  lookup UmReceptionBuffer.SN sn s.receptionBuffer

def isAllBytesReceivedForSN (s : UmReceiver) (sn : Nat) : Option Bool :=
  match s.findReceptionBuffer sn with
  | none => some true
  | some b => b.isAllByteSegmentReceived

def updateRXNextReassembly (s : UmReceiver) : UmReceiver :=
  match s.receptionBuffer.find? fun b => s.RX_Next_Reassembly < b.SN with
  | some b => { s with RX_Next_Reassembly := b.SN }
  | none => s

/-- The buffer of `LTENR_RLC_UM_PLACE_UMDPDU_IN_RECEPTIONBUFFER`, with the PDU. -/
def filled (s : UmReceiver) (p : UmdPdu) : UmReceptionBuffer :=
  ((s.findReceptionBuffer p.SN).getD (.create p.SN)).add p

/-- The part of `LTENR_RLC_UM_PLACE_UMDPDU_IN_RECEPTIONBUFFER` up to the test of the buffer. -/
def place (s : UmReceiver) (p : UmdPdu) : UmReceiver :=
  { s with receptionBuffer :=
      match s.findReceptionBuffer p.SN with
      | none => s.receptionBuffer ++ [s.filled p]
      | some _ => modifyFirst UmReceptionBuffer.SN p.SN (·.add p) s.receptionBuffer }

def deliver (s : UmReceiver) (b : UmReceptionBuffer) : UmReceiver :=
  let s := { s with
    receptionBuffer := eraseFirst UmReceptionBuffer.SN b.SN s.receptionBuffer
    pdcp := s.pdcp ++ [b.reassembleAllBytes] }
  if b.SN = s.RX_Next_Reassembly then s.updateRXNextReassembly else s

def placeUmdPduInReceptionBuffer (s : UmReceiver) (p : UmdPdu) : Option UmReceiver :=
  (s.filled p).isAllByteSegmentReceived.map fun all =>
    if all then (s.place p).deliver (s.filled p) else s.place p

/-- `LTENR_RLC_UM_NextRXReassembly`, whose loop ends only if the first buffer is in the window. -/
def nextRXReassembly (s : UmReceiver) : Option Nat :=
  match s.receptionBuffer with
  | [] => some 0
  | b :: _ => if s.windowStart ≤ b.SN then some b.SN else none

/-- The part of `LTENR_RLC_UM_RECEIVE_PDU_WITH_SN` for a PDU whose SN is in the reassembly window.
-/
def dropPdu (s : UmReceiver) (p : UmdPdu) : Option UmReceiver :=
  let s := { s with RX_Next_Highest := u32 (p.SN + 1) }
  if s.isSNFallsInReassemblyWindows s.RX_Next_Reassembly then
    s.nextRXReassembly.map fun sn => { s with RX_Next_Reassembly := sn }
  else some s

def resetsTimer (s : UmReceiver) : Option Bool :=
  if s.RX_Timer_Trigger ≤ s.RX_Next_Reassembly || (s.windowStart ≤ s.RX_Timer_Trigger &&
      s.RX_Timer_Trigger ≠ s.RX_Next_Highest) then some true
  else if s.RX_Next_Highest = u32 (s.RX_Next_Reassembly + 1) then
    s.isAllBytesReceivedForSN s.RX_Next_Reassembly
  else some false

def hasGap (s : UmReceiver) : Option Bool :=
  if u32 (s.RX_Next_Reassembly + 1) < s.RX_Next_Highest then some true
  else if s.RX_Next_Highest = u32 (s.RX_Next_Reassembly + 1) then
    (s.isAllBytesReceivedForSN s.RX_Next_Reassembly).map not
  else some false

/-- The reassembly timer in `LTENR_RLC_UM_RECEIVE_PDU_WITH_SN`. One that is started again goes on.
-/
def updateReassemblyTimer (s : UmReceiver) : Option UmReceiver :=
  if s.isReassemblyTimerStarted then s.resetsTimer.map fun _ => s
  else s.hasGap.map fun gap =>
    if gap then
      { s with isReassemblyTimerStarted := true, RX_Timer_Trigger := s.RX_Next_Highest }
    else s

def receivePduWithSn (s : UmReceiver) (p : UmdPdu) : Option UmReceiver :=
  (if s.isSNFallsInReassemblyWindows p.SN then s.dropPdu p
    else s.placeUmdPduInReceptionBuffer p).bind updateReassemblyTimer

/-- `LTENR_RLC_UM_RECEIVE_PDU`, or `none` where it does not return. -/
def receivePdu (s : UmReceiver) (p : UmdPdu) : Option UmReceiver :=
  if p.si = .all then some { s with pdcp := s.pdcp ++ [⟨p.nPacketId, p.dPayload⟩] }
  else s.receivePduWithSn p

end UmReceiver

end NetSim.Rlc
