import NetSim.Lib.KeyedList

/-!
# OLSR: the sets of a node and its TC messages

What a node keeps of its neighbours, of the topology and of the messages it has seen, and the
handlers of a TC message.
-/

namespace NetSim.Zrp

open NetSim.Lib

/-- `NOT_SYM` is `NOT_NEIGH` and `SYM` is `SYM_NEIGH`. -/
inductive NeighborType
  | notNeigh
  | symNeigh
  | mprNeigh
deriving DecidableEq

inductive Willingness
  | never
  | low
  | default
  | high
  | always
deriving DecidableEq

/-- `OLSR_LINK_SET`. -/
structure LinkTuple (Addr : Type) where
  lNeighborIfaceAddr : Addr
  lSymTime : ℚ
  lAsymTime : ℚ
  lTime : ℚ
deriving DecidableEq

/-- `OLSR_NEIGHBOR_SET`. -/
structure NeighborTuple (Addr : Type) where
  nNeighborMainAddr : Addr
  nStatus : NeighborType
  nWillingness : Willingness
deriving DecidableEq

/-- `OLSR_2HOP_NEIGHBOR_SET`. -/
structure TwoHopTuple (Addr : Type) where
  nNeighborMainAddr : Addr
  n2hopAddr : Addr
  nTime : ℚ
deriving DecidableEq

/-- `OLSR_MPR_SELECTION_SET`. -/
structure MprSelector (Addr : Type) where
  msMainAddr : Addr
  msTime : ℚ
deriving DecidableEq

/-- `OLSR_TOPOLOGY_INFORMATION_BASE`. -/
structure TopologyTuple (Addr : Type) where
  tDestAddr : Addr
  tLastAddr : Addr
  tSeq : ℕ
  tTime : ℚ
deriving DecidableEq

/-- `OLSR_DUPLICATE_SET`. A node receives on one interface. -/
structure DuplicateTuple (Addr : Type) where
  dAddr : Addr
  dSeqNum : ℕ
  dRetransmitted : Bool
  dIfaceList : Addr
  dTime : ℚ
deriving DecidableEq

/-- `OLSR_TC_MESSAGE` and its `OLSR_HEADER_MESSAGE`. -/
structure TcMessage (Addr : Type) where
  originatorAddress : Addr
  messageSequenceNumber : ℕ
  timeToLive : ℕ
  hopCount : ℕ
  vtime : ℕ
  ansn : ℕ
  advertisedNeighborMainAddress : List Addr
deriving DecidableEq

structure NodeOlsr (Addr : Type) where
  mainAddress : Addr
  nZoneRadius : ℕ
  linkSet : List (LinkTuple Addr)
  neighborSet : List (NeighborTuple Addr)
  twoHopNeighborSet : List (TwoHopTuple Addr)
  mprSelectionSet : List (MprSelector Addr)
  topologyInfoBase : List (TopologyTuple Addr)
  duplicateSet : List (DuplicateTuple Addr)
  nMessageSequenceNumber : ℕ
  ansn : ℕ
  bRoutingTableUpdate : Bool
  bTCUpdateFlag : Bool
deriving DecidableEq

def second : ℚ := 1000000

def topHoldTime : ℚ := 15 * second

def dupHoldTime : ℚ := 30 * second

def tcMessageTtl : ℕ := 255

def maxvalueSequenceNumber : ℕ := 0xFFFF

def SequenceNumberGreaterThan (s1 s2 : ℕ) : Prop :=
  (s1 > s2 ∧ s1 - s2 ≤ maxvalueSequenceNumber / 2) ∨ (s2 > s1 ∧ s2 - s1 > maxvalueSequenceNumber / 2)

instance (s1 s2 : ℕ) : Decidable (SequenceNumberGreaterThan s1 s2) :=
  inferInstanceAs (Decidable (_ ∧ _ ∨ _ ∧ _))

theorem SequenceNumberGreaterThan.total {a b : ℕ} (h : a ≠ b) :
    SequenceNumberGreaterThan a b ∨ SequenceNumberGreaterThan b a := by
  unfold SequenceNumberGreaterThan maxvalueSequenceNumber
  omega

theorem SequenceNumberGreaterThan.asymm {a b : ℕ} (h : SequenceNumberGreaterThan a b) :
    ¬ SequenceNumberGreaterThan b a := by
  unfold SequenceNumberGreaterThan maxvalueSequenceNumber at *
  omega

variable {Addr : Type} [DecidableEq Addr]

/-! ## Look-ups -/

def olsrFindNeighborSet (neighborSet : List (NeighborTuple Addr)) (ip : Addr) :
    Option (NeighborTuple Addr) :=
  lookup NeighborTuple.nNeighborMainAddr ip neighborSet

def olsrFindMPRSelectorSet (set : List (MprSelector Addr)) (ip : Addr) : Option (MprSelector Addr) :=
  lookup MprSelector.msMainAddr ip set

def DuplicateTuple.key (d : DuplicateTuple Addr) : Addr × ℕ := (d.dAddr, d.dSeqNum)

def olsrFindDuplicateSet (duplicate : List (DuplicateTuple Addr)) (ip : Addr) (seqNo : ℕ) :
    Option (DuplicateTuple Addr) :=
  lookup DuplicateTuple.key (ip, seqNo) duplicate

def olsrExistInDuplicateSet (set : List (DuplicateTuple Addr)) (message : TcMessage Addr) : Bool :=
  (olsrFindDuplicateSet set message.originatorAddress message.messageSequenceNumber).isSome

def TopologyTuple.key (t : TopologyTuple Addr) : Addr × Addr := (t.tLastAddr, t.tDestAddr)

def olsrFindTopologyInfo (topology : List (TopologyTuple Addr)) (originator neighbor : Addr) :
    Option (TopologyTuple Addr) :=
  lookup TopologyTuple.key (originator, neighbor) topology

/-! ## TC messages -/

/-- `fn_NetSim_OLSR_TransmitTCMessage`: the node, and the message it sends. -/
def transmitTCMessage (convertDoubleToME : ℚ → ℕ) (olsr : NodeOlsr Addr) :
    NodeOlsr Addr × TcMessage Addr :=
  let olsr :=
    { olsr with
      bTCUpdateFlag := false
      ansn := (olsr.ansn + 1) % 2 ^ 16
      nMessageSequenceNumber := (olsr.nMessageSequenceNumber + 1) % 2 ^ 16 }
  (olsr,
    { originatorAddress := olsr.mainAddress
      messageSequenceNumber := olsr.nMessageSequenceNumber
      timeToLive := min olsr.nZoneRadius tcMessageTtl
      hopCount := (min olsr.nZoneRadius tcMessageTtl + 1) % 2 ^ 8
      vtime := convertDoubleToME topHoldTime
      ansn := olsr.ansn
      advertisedNeighborMainAddress := olsr.mprSelectionSet.map MprSelector.msMainAddr })

/-- `olsrValidateTopologyInfoOnCondition2`: the message is to be dropped. -/
def olsrValidateTopologyInfoOnCondition2 (topology : List (TopologyTuple Addr)) (originator : Addr)
    (ansn : ℕ) : Bool :=
  topology.any fun t => t.tLastAddr = originator ∧ t.tSeq > ansn

/-- One advertised neighbour in the loop of `olsrUpdateTopologySet`. -/
def updateTopologyTuple (originator : Addr) (ansn : ℕ) (tTime : ℚ) (topology : List (TopologyTuple Addr))
    (dest : Addr) : List (TopologyTuple Addr) :=
  match olsrFindTopologyInfo topology originator dest with
  | some _ => modifyFirst TopologyTuple.key (originator, dest) (fun t => { t with tTime }) topology
  | none =>
    topology ++ [{ tDestAddr := dest, tLastAddr := originator, tSeq := ansn, tTime }]

/-- `olsrUpdateTopologySet`. A new tuple also schedules a TC message of the node. -/
def olsrUpdateTopologySet (convertMEToDouble : ℕ → ℚ) (now : ℚ) (message : TcMessage Addr)
    (olsr : NodeOlsr Addr) : NodeOlsr Addr :=
  let tTime := convertMEToDouble message.vtime * second + now
  let topology := message.advertisedNeighborMainAddress.foldl
    (updateTopologyTuple message.originatorAddress message.ansn tTime) olsr.topologyInfoBase
  let flag := decide (topology.length ≠ olsr.topologyInfoBase.length)
  { olsr with
    topologyInfoBase := topology
    bRoutingTableUpdate := olsr.bRoutingTableUpdate || flag
    bTCUpdateFlag := olsr.bTCUpdateFlag || flag }

structure TcPacket (Addr : Type) where
  szGatewayIP : Addr
  message : TcMessage Addr
deriving DecidableEq

def recordDuplicate (now : ℚ) (message : TcMessage Addr) (forwardFlag : Bool) (olsr : NodeOlsr Addr) :
    NodeOlsr Addr :=
  match olsrFindDuplicateSet olsr.duplicateSet message.originatorAddress message.messageSequenceNumber with
  | some _ =>
    { olsr with
      duplicateSet := modifyFirst DuplicateTuple.key
        (message.originatorAddress, message.messageSequenceNumber)
        (fun d =>
          { d with
            dTime := now + dupHoldTime
            dIfaceList := olsr.mainAddress
            dRetransmitted := d.dRetransmitted || forwardFlag }) olsr.duplicateSet }
  | none =>
    { olsr with
      duplicateSet := olsr.duplicateSet ++
        [{ dAddr := message.originatorAddress
           dSeqNum := message.messageSequenceNumber
           dIfaceList := olsr.mainAddress
           dTime := now + dupHoldTime
           dRetransmitted := forwardFlag }] }

/-- `fn_NetSim_OLSR_PacketForwarding`: the node, and the packet it sends. -/
def packetForwarding (now : ℚ) (packet : TcPacket Addr) (olsr : NodeOlsr Addr) :
    NodeOlsr Addr × Option (TcPacket Addr) :=
  let message := packet.message
  if (olsrFindNeighborSet olsr.neighborSet packet.szGatewayIP).any fun n => n.nStatus = .notNeigh then
    (olsr, none) -- Condition 1
  else if (olsrFindDuplicateSet olsr.duplicateSet message.originatorAddress
      message.messageSequenceNumber).any fun d =>
        d.dRetransmitted || decide (olsr.mainAddress = d.dIfaceList) then
    (olsr, none) -- Conditions 2 and 3
  else
    let forwardFlag := (olsrFindMPRSelectorSet olsr.mprSelectionSet packet.szGatewayIP).isSome &&
      decide (message.timeToLive > 1)
    let retransmitted :=
      if forwardFlag then
        { message with
          timeToLive := message.timeToLive - 1
          hopCount := (message.hopCount + 1) % 2 ^ 8 }
      else message
    (recordDuplicate now message forwardFlag olsr,
      some { szGatewayIP := olsr.mainAddress, message := retransmitted })

/-- Condition 1 of `fn_NetSim_OLSR_ReceiveTC`: the message is to be dropped. -/
def receiveTCCondition1 (neighborSet : List (NeighborTuple Addr)) (packet : TcPacket Addr) : Bool :=
  decide (packet.message.originatorAddress ≠ packet.szGatewayIP) &&
    (olsrFindNeighborSet neighborSet packet.szGatewayIP).any fun n => n.nStatus = .symNeigh

/-- The message passes the conditions of `fn_NetSim_OLSR_ReceiveTC`. -/
def tcAccepted (olsr : NodeOlsr Addr) (packet : TcPacket Addr) : Bool :=
  !receiveTCCondition1 olsr.neighborSet packet &&
    !olsrValidateTopologyInfoOnCondition2 olsr.topologyInfoBase packet.message.originatorAddress
      packet.message.ansn

/-- `fn_NetSim_OLSR_ReceiveTC`: the node, and the packet it sends. -/
def receiveTC (convertMEToDouble : ℕ → ℚ) (now : ℚ) (packet : TcPacket Addr) (olsr : NodeOlsr Addr) :
    NodeOlsr Addr × Option (TcPacket Addr) :=
  if receiveTCCondition1 olsr.neighborSet packet then (olsr, none)
  else if olsrValidateTopologyInfoOnCondition2 olsr.topologyInfoBase packet.message.originatorAddress
      packet.message.ansn then (olsr, none)
  else
    packetForwarding now packet (olsrUpdateTopologySet convertMEToDouble now packet.message olsr)

/-- `fn_NetSim_OLSR_PacketProcessing` of a TC message. -/
def packetProcessing (convertMEToDouble : ℕ → ℚ) (now : ℚ) (packet : TcPacket Addr)
    (olsr : NodeOlsr Addr) : NodeOlsr Addr × Option (TcPacket Addr) :=
  if packet.message.timeToLive = 0 then (olsr, none)
  else if packet.message.originatorAddress = olsr.mainAddress then (olsr, none)
  else if olsrExistInDuplicateSet olsr.duplicateSet packet.message then (olsr, none)
  else receiveTC convertMEToDouble now packet olsr

end NetSim.Zrp
