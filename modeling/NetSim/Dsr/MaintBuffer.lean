import NetSim.Lib.KeyedList

/-!
# DSR route maintenance

A node keeps a copy of every packet it passes on, in a buffer with a timer for its next hop, source
and destination. The timer sends the packets again, or reports the next hop as unreachable.
-/

namespace NetSim.Dsr

open NetSim.Lib

def maxMaintRexmt : Nat := 2

/-- `MAINT_HOLD_OFF_TIME`, in microseconds. -/
def maintHoldOffTime : ℚ := 250000

/-! ## Buffers -/

structure MaintPacket where
  nPacketId : Nat
  nSourceId : Nat
  /-- `get_first_dest_from_packet`. -/
  dest : Nat
  nReceiverId : Nat
  nIdentification : Nat
  sent : List (Nat × Nat)
deriving DecidableEq

def MaintPacket.key (packet : MaintPacket) : Nat × Nat × Nat :=
  (packet.nReceiverId, packet.nSourceId, packet.dest)

structure MaintBuffer where
  dAckTime : ℚ
  count : Nat
  nextHop : Nat
  source : Nat
  dest : Nat
  packetList : List MaintPacket
deriving DecidableEq

def MaintBuffer.key (buffer : MaintBuffer) : Nat × Nat × Nat :=
  (buffer.nextHop, buffer.source, buffer.dest)

inductive MaintEvent
  | maintTimeout (dEventTime : ℚ) (source dest nextHop : Nat)
  | networkOut (dEventTime : ℚ) (packet : MaintPacket)
deriving DecidableEq

def MaintEvent.dEventTime : MaintEvent → ℚ
  | .maintTimeout dEventTime .. => dEventTime
  | .networkOut dEventTime _ => dEventTime

structure MaintError where
  source : Nat
  nextHop : Nat
  packetList : List MaintPacket
  acked : List (Nat × Nat)

/-- A node with `NETWORK_LAYER_ACK`. -/
structure MaintNode where
  now : ℚ
  /-- The next value of the counter of `fn_NetSim_DSR_Add_Ack_request_Option`. -/
  nIdentification : Nat
  pstruMaintBuffer : List MaintBuffer
  events : List MaintEvent
  transmitted : List MaintPacket
  acked : List (Nat × Nat)
  errors : List MaintError

namespace MaintNode

/-! ## The functions -/

/-- `fn_NetSim_DSR_AddToMaintBuffer`. The first buffer of a node is a new last one. -/
def addToMaintBuffer (s : MaintNode) (packet : MaintPacket) (dTime : ℚ) : MaintNode :=
  let timer : MaintEvent :=
    .maintTimeout (dTime + maintHoldOffTime) packet.nSourceId packet.dest packet.nReceiverId
  match lookup MaintBuffer.key packet.key s.pstruMaintBuffer with
  | some buffer =>
    if buffer.packetList = [] then
      -- `count` stays as the last packets of the buffer left it
      { s with
        pstruMaintBuffer := modifyFirst MaintBuffer.key packet.key
          (fun buffer =>
            { buffer with dAckTime := dTime + maintHoldOffTime, packetList := [packet] })
          s.pstruMaintBuffer
        events := s.events ++ [timer] }
    else
      { s with
        pstruMaintBuffer := modifyFirst MaintBuffer.key packet.key
          (fun buffer => { buffer with packetList := buffer.packetList ++ [packet] })
          s.pstruMaintBuffer }
  | none =>
    { s with
      pstruMaintBuffer := s.pstruMaintBuffer ++
        [{ dAckTime := dTime + maintHoldOffTime, count := 0, nextHop := packet.nReceiverId,
           source := packet.nSourceId, dest := packet.dest, packetList := [packet] }]
      events := s.events ++ [timer] }

def emptyMaintBuffer (s : MaintNode) (nextHop : Nat) : MaintNode :=
  { s with
    pstruMaintBuffer := s.pstruMaintBuffer.map fun buffer =>
      if buffer.nextHop = nextHop then { buffer with packetList := [] } else buffer }

/-- The packets that `fn_NetSim_DSR_RetransmitBuffer` sends out again. -/
def retransmitBuffer (buffer : MaintBuffer) (dEventTime : ℚ) : List MaintEvent :=
  buffer.packetList.map (.networkOut dEventTime)

def generateRERR (s : MaintNode) (buffer : MaintBuffer) : MaintNode :=
  { s with
    errors :=
      { source := buffer.source, nextHop := buffer.nextHop, packetList := buffer.packetList,
        acked := s.acked } :: s.errors }

def maintTimeout (s : MaintNode) (dEventTime : ℚ) (source dest nextHop : Nat) : MaintNode :=
  match lookup MaintBuffer.key (nextHop, source, dest) s.pstruMaintBuffer with
  | none => s
  | some buffer =>
    if buffer.dAckTime ≤ dEventTime then
      if buffer.packetList = [] then
        s
      else if buffer.count < maxMaintRexmt then
        { s with
          pstruMaintBuffer := modifyFirst MaintBuffer.key (nextHop, source, dest)
            (fun buffer => { buffer with count := buffer.count + 1, packetList := [] })
            s.pstruMaintBuffer
          events := s.events ++ retransmitBuffer buffer dEventTime }
      else
        let s := generateRERR s buffer
        emptyMaintBuffer
          { s with
            pstruMaintBuffer := modifyFirst MaintBuffer.key (nextHop, source, dest)
              (fun buffer => { buffer with count := 0 }) s.pstruMaintBuffer } nextHop
    else s

/-- `fn_NetSim_DSR_ProcessAckOption`: the identification that the acknowledgment carries is not
looked at. -/
def processAckOption (s : MaintNode) (nSourceId nIdentification : Nat) : MaintNode :=
  { s.emptyMaintBuffer nSourceId with acked := (nSourceId, nIdentification) :: s.acked }

/-- `fn_NetSim_DSR_GeneralPacketProcessing`, where the route cache gives the next hop `route`. -/
def generalPacketProcessing (s : MaintNode) (packet : MaintPacket) (route : Option Nat)
    (dEventTime : ℚ) : MaintNode :=
  match route with
  | none => s
  | some nextHop =>
    let packet :=
      { packet with
        nReceiverId := nextHop
        nIdentification := s.nIdentification
        sent := (nextHop, s.nIdentification) :: packet.sent }
    addToMaintBuffer
      { s with
        nIdentification := (s.nIdentification + 1) % 2 ^ 32
        transmitted := packet :: s.transmitted } packet dEventTime

/-! ## Steps -/

/-- A packet is routed, a pending event is handled, an acknowledgment arrives, or other nodes take
identifications from the counter. -/
inductive Step
  | send (dEventTime : ℚ) (nPacketId nSourceId dest : Nat) (route : Option Nat)
  | handle (event : MaintEvent) (route : Option Nat)
  | ack (dEventTime : ℚ) (nSourceId nIdentification : Nat)
  | others (n : Nat)

def canHappenAt (s : MaintNode) (dEventTime : ℚ) : Bool :=
  decide (s.now ≤ dEventTime) && s.events.all fun event => decide (dEventTime ≤ event.dEventTime)

/-- The step, or `none` where it cannot happen. An acknowledgment answers a packet passed on. -/
def step (s : MaintNode) : Step → Option MaintNode
  | .send dEventTime nPacketId nSourceId dest route =>
    if s.canHappenAt dEventTime then
      some (generalPacketProcessing { s with now := dEventTime }
        { nPacketId := nPacketId, nSourceId := nSourceId, dest := dest, nReceiverId := 0,
          nIdentification := 0, sent := [] } route dEventTime)
    else none
  | .handle event route =>
    if event ∈ s.events ∧ s.canHappenAt event.dEventTime then
      let s := { s with now := event.dEventTime, events := s.events.erase event }
      match event with
      | .maintTimeout dEventTime source dest nextHop =>
        some (s.maintTimeout dEventTime source dest nextHop)
      | .networkOut dEventTime packet =>
        some (s.generalPacketProcessing packet route dEventTime)
    else none
  | .ack dEventTime nSourceId nIdentification =>
    if s.canHappenAt dEventTime ∧ ∃ packet ∈ s.transmitted,
        packet.nReceiverId = nSourceId ∧ packet.nIdentification = nIdentification then
      some ({ s with now := dEventTime }.processAckOption nSourceId nIdentification)
    else none
  | .others n => some { s with nIdentification := (s.nIdentification + n) % 2 ^ 32 }

def start : MaintNode :=
  { now := 0, nIdentification := 1, pstruMaintBuffer := [], events := [], transmitted := [],
    acked := [], errors := [] }

end MaintNode

end NetSim.Dsr
