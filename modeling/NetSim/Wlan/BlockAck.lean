import Mathlib

/-!
# Block acknowledgments

The receiver sets a bit for every subframe of an A-MPDU that arrives, in a block ack that it keeps
until the last one, and the sender takes the packets whose bit is set off its list.
-/

namespace NetSim.Wlan

inductive HdrType
  | data
  | ack
  | rts
  | cts
  | blockAck
deriving DecidableEq

structure MacHeader where
  address2 : ℕ
  moreFragment : Bool
  sequenceNumber : ℕ

/-- `IEEE802_11_ACK`. -/
structure AckFrame where
  ra : ℕ

/-- `IEEE802_11_BLOCKACK`. -/
structure BlockAckFrame where
  ra : ℕ
  ta : ℕ
  startingSequenceNumber : ℕ
  bitMap : BitVec 64

/-- What `hdr` points to. -/
inductive HdrBody
  | mac (header : MacHeader)
  | ack (frame : AckFrame)
  | blockAck (frame : BlockAckFrame)

/-- `IEEE802_11_HDR`. -/
structure Hdr where
  hdrType : HdrType
  hdr : HdrBody
  sendInterfaceId : ℕ
  recvInterfaceId : ℕ

/-- The bitmap of the block ack a header points to, if it is one. -/
def Hdr.bitMap (hdr : Hdr) : Option (BitVec 64) :=
  match hdr.hdr with
  | .blockAck frame => some frame.bitMap
  | _ => none

def setBit64 (val : BitVec 64) (bitIndex : ℕ) : BitVec 64 := val ||| (1#64 <<< bitIndex)

def bitIsSet64 (val : BitVec 64) (bitIndex : ℕ) : Bool := (val &&& (1#64 <<< bitIndex)) != 0#64

/-- `copy_ack_header`: as many bytes as an ACK has. Those of a block ack begin with the same fields.
-/
def copyAckHeader : HdrBody → HdrBody
  | .blockAck frame => .ack { ra := frame.ra }
  | .mac header => .ack { ra := header.address2 }
  | .ack frame => .ack frame

/-- `ieee802_11_hdr_copy`. -/
def hdrCopy (src : Hdr) : Hdr :=
  match src.hdrType with
  | .ack => { src with hdr := copyAckHeader src.hdr }
  | _ => src

/-- The headers that `fn_NetSim_IEEE802_11_SendToPhy` adds to a list of packets, numbered from `i`.
-/
def addMacHeaders {α : Type} (address2 : ℕ) : ℕ → List α → List MacHeader
  | _, [] => []
  | i, _ :: rest =>
    { address2, moreFragment := !rest.isEmpty, sequenceNumber := i % 2 ^ 12 } ::
      addMacHeaders address2 (i + 1) rest

/-! ## The receiver -/

structure Receiver where
  address : ℕ
  interfaceId : ℕ
  blockAckPacket : Option Hdr

def Receiver.createBlockAckPacket (mac : Receiver) (data : MacHeader) (sendInterfaceId : ℕ) : Hdr :=
  { hdrType := .ack
    hdr := .blockAck
      { ra := data.address2
        ta := mac.address
        startingSequenceNumber := data.sequenceNumber
        bitMap := 0#64 }
    sendInterfaceId := mac.interfaceId
    recvInterfaceId := sendInterfaceId }

def setBlockAckBitmap (ackPacket : Hdr) (data : MacHeader) : Hdr :=
  match ackPacket.hdr with
  | .blockAck frame =>
    { ackPacket with
      hdr := .blockAck { frame with bitMap := setBit64 frame.bitMap (data.sequenceNumber - 1) } }
  | _ => ackPacket

/-- `fn_NetSim_IEEE802_11_CSMACA_SendBlockACK`: a subframe has arrived. The block ack goes out with
the last one. -/
def Receiver.sendBlockAck (mac : Receiver) (data : MacHeader) (sendInterfaceId : ℕ) :
    Option Hdr × Receiver :=
  let packet :=
    match mac.blockAckPacket with
    | some packet => packet
    | none => mac.createBlockAckPacket data sendInterfaceId
  let packet := setBlockAckBitmap packet data
  if data.moreFragment then (none, { mac with blockAckPacket := some packet })
  else (some packet, { mac with blockAckPacket := none })

/-- The walk of `fn_NetSim_IEEE802_11_CSMACA_ProcessBlockAck`: the packets taken off, and those that
stay. Its index `i` stays zero. -/
def processBlockAckLoop {α : Type} (bitMap : BitVec 64) (i : ℕ) : List α → List α × List α
  | [] => ([], [])
  | t :: p =>
    let r := processBlockAckLoop bitMap i p
    if bitIsSet64 bitMap i then (t :: r.1, r.2) else (r.1, t :: r.2)

/-- `fn_NetSim_IEEE802_11_CSMACA_ProcessBlockAck`, the walk. -/
def processBlockAck {α : Type} (bitMap : BitVec 64) (currentProcessingPacket : List α) :
    List α × List α :=
  processBlockAckLoop bitMap 0 currentProcessingPacket

end NetSim.Wlan
