import NetSim.Tcp.Segment
import NetSim.Lib.Run

/-!
# PDCP entities (`LTENR_PDCP.c`, `LTENR_PDCP.h`)

The transmitting entity numbers its SDUs with COUNTs; a PDU carries the low bits as its SN. The
receiving entity guesses the COUNT back from the SN and from `RX_DELIV`.
-/

namespace NetSim.Pdcp

open NetSim.Tcp

def pdcpSnSize : Nat := 12

def pdcpWindowSize : Nat := 0x800

def pow2SnSize : Nat := 0xFFF

/-- `LTENR_PDCP_SN`. -/
def pdcpSn (state : Nat) : Nat := state % 2 ^ pdcpSnSize

/-- `LTENR_PDCP_HFN`. -/
def pdcpHfn (state : Nat) : Nat := state / 2 ^ pdcpSnSize

def pdcpCount (hfn sn : Nat) : Nat := u32 (hfn * 2 ^ pdcpSnSize + sn)

/-! ## Packets -/

inductive DcBit
  | control | data
deriving DecidableEq

/-- `LTENR_PDCP_HDR`. -/
structure PdcpHdr where
  dcBit : DcBit
  SN : Nat
deriving DecidableEq

/-- What `LTENR_PDCP_SendUp` tells apart. -/
inductive Message
  | uPlane | handoverCommand | other
deriving DecidableEq

/-- A packet. No function reads `count`, the COUNT that the transmitting entity gave to the SDU. -/
structure Packet where
  isControl : Bool
  message : Message
  pdcpHdr : Option PdcpHdr
  count : Nat
deriving DecidableEq

/-- A packet of `receiveBuffer`, under the COUNT in its `LTENR_PDCPRXBUFFER_OPTIONAL`. -/
structure BufferedPacket where
  packet : Packet
  count : Nat
deriving DecidableEq

def rxBufferSort (cbp nbp : BufferedPacket) : Bool := cbp.count > nbp.count

/-- `LTENR_BUFFER_ADDPACKET_SORTED` of another library: the packets and the new one, in some order.
-/
structure SortedBuffer where
  addPacketSorted :
    (BufferedPacket → BufferedPacket → Bool) → BufferedPacket → List BufferedPacket →
      List BufferedPacket
  perm : ∀ fnSort b l, (addPacketSorted fnSort b l).Perm (b :: l)

/-- The buffer that puts a packet before the first one that `fnSort` wants behind it. -/
def SortedBuffer.linear : SortedBuffer where
  addPacketSorted fnSort b l :=
    l.takeWhile (fun c => !fnSort c b) ++ b :: l.dropWhile (fun c => !fnSort c b)
  perm fnSort b l := by
    have h := @List.perm_middle _ b (l.takeWhile fun c => !fnSort c b)
      (l.dropWhile fun c => !fnSort c b)
    rwa [List.takeWhile_append_dropWhile] at h

/-- `LTENR_PDCPVAR`. -/
structure PdcpVar where
  isoutOfOrderDelivery : Bool
deriving DecidableEq

structure PdcpEntity where
  TX_NEXT : Nat
  RX_NEXT : Nat
  RX_DELIV : Nat
  RX_REORD : Nat
  receiveBuffer : List BufferedPacket
  isT_ReorderingRunning : Bool
deriving DecidableEq

def createNewEntity : PdcpEntity := ⟨0, 0, 0, 0, [], false⟩

inductive Layer
  | sdap | rrc | nas
deriving DecidableEq

inductive Action
  | sendUp (layer : Layer) (packet : Packet)
  | freePacket (packet : Packet)
deriving DecidableEq

/-- `LTENR_PDCP_ADDHDR`. -/
def addHdr (sn : Nat) (packet : Packet) : Packet :=
  { packet with pdcpHdr := some ⟨.data, sn % pow2SnSize⟩ }

/-- `fn_NetSim_LTENR_PDCP_TransmitPDCPSDU`, with `LTENR_PDCP_SET_SN`: the packet for the RLC
sublayer. -/
def PdcpEntity.transmitPdcpSdu (entity : PdcpEntity) (packet : Packet) : PdcpEntity × Packet :=
  ({ entity with TX_NEXT := u32 (entity.TX_NEXT + 1) },
    addHdr entity.TX_NEXT { packet with count := entity.TX_NEXT })

namespace PdcpEntity

/-! ## Receiving -/

/-- `LTENR_PDCP_CALCULATE_STATE_VARIABLE`: the COUNT of a received PDU. The comparisons are between
`int`s. -/
def calculateStateVariable (entity : PdcpEntity) (hdr : PdcpHdr) : Nat :=
  let delvSN := pdcpSn entity.RX_DELIV
  let delvHFN := pdcpHfn entity.RX_DELIV
  let hfn :=
    if (hdr.SN : Int) < (delvSN : Int) - pdcpWindowSize then u32 (delvHFN + 1)
    else if (hdr.SN : Int) ≥ (delvSN : Int) + pdcpWindowSize then u32 (delvHFN + (2 ^ 32 - 1))
    else delvHFN
  pdcpCount hfn hdr.SN

def isDuplicatePdu (entity : PdcpEntity) (recvCount : Nat) : Bool := recvCount < entity.RX_DELIV

def rxBufferEnqueue (B : SortedBuffer) (entity : PdcpEntity) (packet : Packet) (recvCount : Nat) :
    PdcpEntity :=
  let buffer := B.addPacketSorted rxBufferSort ⟨packet, recvCount⟩ entity.receiveBuffer
  { entity with
    receiveBuffer := buffer
    RX_DELIV := (buffer.head?.map BufferedPacket.count).getD 0 }

def updateStateVariable (entity : PdcpEntity) (recvCount : Nat) : PdcpEntity :=
  if recvCount ≥ entity.RX_NEXT then { entity with RX_NEXT := u32 (recvCount + 1) } else entity

/-- The loop of `LTENR_PDCP_DeliverSDUToUpperLayer` and of the timer: the packets at the head whose
COUNTs follow one another, from `next` if it is set. -/
def drain (entity : PdcpEntity) : Nat → List BufferedPacket → PdcpEntity × List Packet
  | _, [] => ({ entity with receiveBuffer := [] }, [])
  | next, opt :: rest =>
    let next := if next = 0 then opt.count else next
    if next = opt.count then
      let r := entity.drain (u32 (next + 1)) rest
      (r.1, opt.packet :: r.2)
    else ({ entity with receiveBuffer := opt :: rest, RX_DELIV := opt.count }, [])

/-- `LTENR_PDCP_SendUp`. -/
def sendUp (packet : Packet) : Action :=
  match packet.message with
  | .uPlane => .sendUp .sdap packet
  | .handoverCommand => .sendUp .nas packet
  | .other => .sendUp .rrc packet

def deliverSduToUpperLayer (pdcp : PdcpVar) (entity : PdcpEntity) (recvCount : Nat) :
    PdcpEntity × List Action :=
  if pdcp.isoutOfOrderDelivery then
    match entity.receiveBuffer with
    | [] => (entity, [])
    | opt :: rest => ({ entity with receiveBuffer := rest }, [sendUp opt.packet])
  else if recvCount = entity.RX_DELIV then
    let r := entity.drain 0 entity.receiveBuffer
    (r.1, r.2.map sendUp)
  else (entity, [])

/-- `LTENR_PDCP_ACTION_FOR_TREORDERING_ONRECEV`. Where the timer runs already it is stopped and
started. -/
def actionForTReorderingOnRecev (entity : PdcpEntity) : PdcpEntity :=
  if entity.isT_ReorderingRunning && entity.RX_DELIV ≥ entity.RX_REORD then
    { entity with isT_ReorderingRunning := true }
  else if !entity.isT_ReorderingRunning && entity.RX_DELIV < entity.RX_REORD then
    { entity with RX_REORD := entity.RX_NEXT, isT_ReorderingRunning := true }
  else entity

/-- `fn_NetSim_LTENR_PDCP_ReceivePDCPSDU`, once the entity has been found. -/
def receivePdcpSdu (B : SortedBuffer) (pdcp : PdcpVar) (entity : PdcpEntity) (packet : Packet) :
    PdcpEntity × List Action :=
  match packet.pdcpHdr with
  | none => (entity, [.freePacket packet])
  | some hdr =>
    let recvCount := entity.calculateStateVariable hdr
    if entity.isDuplicatePdu recvCount && !packet.isControl then (entity, [.freePacket packet])
    else
      let entity := (entity.rxBufferEnqueue B packet recvCount).updateStateVariable recvCount
      let r := entity.deliverSduToUpperLayer pdcp recvCount
      (r.1.actionForTReorderingOnRecev, r.2)

def handleTReorderingTimer (entity : PdcpEntity) : PdcpEntity × List Action :=
  let r := { entity with isT_ReorderingRunning := false }.drain 0 entity.receiveBuffer
  (if r.1.RX_DELIV < r.1.RX_NEXT then
    { r.1 with RX_REORD := r.1.RX_NEXT, isT_ReorderingRunning := true } else r.1,
    r.2.map (.sendUp .rrc))

end PdcpEntity

/-! ## Runs -/

def userPdu (count : Nat) : Packet := addHdr count ⟨false, .uPlane, none, count⟩

/-- The COUNT that a receiver has: the transmitter counts in rounds of `POW_2_SN_SIZE`, the receiver
of one more. -/
def rcvdCount (count : Nat) : Nat := count + count / pow2SnSize

def PdcpEntity.InWindow (entity : PdcpEntity) (count : Nat) : Prop :=
  entity.RX_DELIV ≤ rcvdCount count + pdcpWindowSize ∧
    rcvdCount count < entity.RX_DELIV + pdcpWindowSize ∧ rcvdCount count < 2 ^ 32

instance (entity : PdcpEntity) (count : Nat) : Decidable (entity.InWindow count) :=
  inferInstanceAs (Decidable (_ ∧ _))

/-- A receiving entity with the COUNTs of the PDUs that arrived and of the SDUs that it passed up,
in order. -/
structure Reception where
  entity : PdcpEntity
  arrived : List Nat
  passedUp : List Nat
deriving DecidableEq

/-- What happens to a receiving entity. -/
inductive RxEvent
  | pdu (count : Nat)
  | tReorderingTimeout
deriving DecidableEq

def RxEvent.counts : RxEvent → List Nat
  | .pdu count => [count]
  | .tReorderingTimeout => []

def Action.passedUp : Action → Option Nat
  | .sendUp _ packet => some packet.count
  | .freePacket _ => none

namespace Reception

def handle (B : SortedBuffer) (pdcp : PdcpVar) (s : Reception) :
    RxEvent → PdcpEntity × List Action
  | .pdu count => s.entity.receivePdcpSdu B pdcp (userPdu count)
  | .tReorderingTimeout => s.entity.handleTReorderingTimer

def Enabled (s : Reception) : RxEvent → Prop
  | .pdu count => s.entity.InWindow count
  | .tReorderingTimeout => s.entity.isT_ReorderingRunning = true

instance (s : Reception) (e : RxEvent) : Decidable (s.Enabled e) := by
  unfold Enabled
  split <;> infer_instance

def step (B : SortedBuffer) (pdcp : PdcpVar) (s : Reception) (e : RxEvent) : Option Reception :=
  if s.Enabled e then
    some ⟨(s.handle B pdcp e).1, s.arrived ++ e.counts,
      s.passedUp ++ (s.handle B pdcp e).2.filterMap Action.passedUp⟩
  else none

def start : Reception := ⟨createNewEntity, [], []⟩

def Discards (B : SortedBuffer) (pdcp : PdcpVar) (s : Reception) (e : RxEvent) (packet : Packet) :
    Prop :=
  .freePacket packet ∈ (s.handle B pdcp e).2

end Reception

end NetSim.Pdcp
