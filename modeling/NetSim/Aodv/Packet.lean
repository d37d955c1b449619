import NetSim.Lib.KeyedList

/-!
# AODV constants, messages and device state (`AODV.h`)

Widths follow the header: `unsigned int` is `UInt32`, the 8-bit fields `HopCount`, `nTTL` and
`DestCount` are `UInt8`. An address is an opaque value with equality (`IP_COMPARE`), and serves as
device id. Fields that no handler reads are left out.
-/

namespace NetSim.Aodv

/-- An IP address, and the device that owns it. -/
abbrev IPAddress := ℕ

def broadcastIP : IPAddress := 0xFFFFFFFF

abbrev Time := ℚ

/-! ## Time constants -/

def millisecond : Time := 1000

def aodvActiveRouteTimeout : Time := 3000 * millisecond
def aodvAllowedHelloLoss : UInt32 := 2
def aodvHelloInterval : Time := 1000 * millisecond
def aodvNetDiameter : ℕ := 35
def aodvNodeTraversalTime : Time := 40 * millisecond
def aodvNetTraversalTime : Time := 2 * aodvNodeTraversalTime * aodvNetDiameter
def aodvMyRouteTimeout : Time := 2 * aodvActiveRouteTimeout
def aodvPathDiscoveryTime : Time := 2 * aodvNetTraversalTime
def aodvTimeoutBuffer : ℕ := 2
def aodvRingTraversalTime (ttl : ℕ) : Time := 2 * aodvNodeTraversalTime * (ttl + aodvTimeoutBuffer)
def aodvRreqRetries : ℕ := 2
def aodvTtlStart : ℕ := 1
def aodvTtlIncrement : ℕ := 2
def aodvTtlThreshold : ℕ := 7

/-- The macro `max`. -/
def maxTime (a b : Time) : Time := if b < a then a else b

/-- `AODV_DELETE_PERIOD`: `K` is 5. -/
def aodvDeletePeriod : Time := 5 * maxTime aodvActiveRouteTimeout aodvHelloInterval

/-- The conversion of a non-negative `double` to `unsigned int`. -/
def toUnsigned (t : Time) : UInt32 := UInt32.ofNat t.floor.toNat

/-! ## Messages -/

/-- `AODV_RREQ`. `jrgdu` holds the flags J, R, G, D, U and a terminator. -/
structure RREQ where
  jrgdu : Vector Char 6
  hopCount : UInt8
  rreqId : UInt32
  destinationIPAddress : IPAddress
  destinationSequenceNumber : UInt32
  originatorIPAddress : IPAddress
  originatorSequenceNumber : UInt32
  lastAddress : IPAddress
  deriving DecidableEq

def noFlags : Vector Char 6 := Vector.replicate 6 '\x00'

/-- `JRGDU[3] == '1'`: only the destination may answer. -/
def RREQ.destinationOnly (rreq : RREQ) : Bool := rreq.jrgdu[3] = '1'

/-- `JRGDU[4] == '1'`: the destination sequence number is unknown. -/
def RREQ.unknownSequenceNumber (rreq : RREQ) : Bool := rreq.jrgdu.get 4 = '1'

theorem four_lt_six : 4 < 6 := by decide

/-- `AODV_RREP`; a hello message is an RREP that is broadcast. -/
structure RREP where
  hopCount : UInt8
  destinationIPaddress : IPAddress
  destinationSequenceNumber : UInt32
  originatorIPaddress : IPAddress
  lifetime : UInt32
  lastAddress : IPAddress
  congestionflag : Bool
  deriving DecidableEq

/-- `AODV_RERR`. `destCount` has 8 bits, the two arrays may be longer. -/
structure RERR where
  destCount : UInt8
  unreachableDestinationIPAddress : List IPAddress
  unreachableDestinationSequenceNumber : List UInt32
  deriving DecidableEq

/-- What a packet carries: an AODV message (`nControlDataType`), or data known by its id. -/
inductive Payload where
  | rreq (rreq : RREQ)
  | rrep (rrep : RREP)
  | rerr (rerr : RERR)
  | data (nPacketId : ℕ)
  deriving DecidableEq

/-- `NetSim_PACKET` with its network layer. `nReceiverId` is `none` for 0, the broadcast receiver;
`szNextHopIp` is `none` for `NULL`. -/
structure Packet where
  szSourceIP : IPAddress
  szDestIP : IPAddress
  nTransmitterId : IPAddress
  nReceiverId : Option IPAddress
  szNextHopIp : Option IPAddress
  nTTL : UInt8
  payload : Payload
  deriving DecidableEq

def isBroadcastPacket (packet : Packet) : Bool := packet.szDestIP = broadcastIP

/-- `aodv_get_dev_ip`: id 0 stands for the broadcast address. -/
def getDevIP : Option IPAddress → IPAddress
  | none => broadcastIP
  | some d => d

/-- `fn_NetSim_AODV_GenerateCtrlPacket`, which leaves the TTL to its caller. -/
def generateCtrlPacket (src : IPAddress) (dest recv : Option IPAddress) (nTTL : UInt8)
    (payload : Payload) : Packet where
  szSourceIP := src
  szDestIP := getDevIP dest
  nTransmitterId := src
  nReceiverId := recv
  szNextHopIp := some (getDevIP recv)
  nTTL := nTTL
  payload := payload

/-! ## Tables of a device -/

inductive RoutingFlag where
  | valid
  | inValid
  | repairable
  | beingRepaired
  deriving DecidableEq

/-- `AODV_ROUTETABLE`: one entry of the route table. -/
structure RouteTable where
  destinationIPAddress : IPAddress
  destinationSequenceNumber : UInt32
  validDestinationSequenceNumberflag : Bool
  routingFlags : RoutingFlag
  hopCount : UInt32
  nextHop : IPAddress
  lifetime : Time
  deriving DecidableEq

/-- `AODV_FIFO`: the packets that wait for a route to one destination. -/
structure FIFO where
  destination : IPAddress
  packetList : List Packet
  time : Time
  deriving DecidableEq

structure RREQSeenTable where
  orginatingNode : IPAddress
  nRREQId : UInt32
  time : Time
  deriving DecidableEq

structure RREQSentTable where
  destAddress : IPAddress
  ttl : ℕ
  times : ℕ
  dTimeoutTime : Time
  deriving DecidableEq

structure DeviceVar where
  nSequenceNumber : UInt32
  fifo : List FIFO
  routeTable : List RouteTable
  rreqSeenTable : List RREQSeenTable
  rreqSentTable : List RREQSentTable
  precursorsList : Option (List IPAddress)
  dLastBroadcastTime : Time
  nRerrCount : UInt32
  ncounter : UInt32
  deriving DecidableEq

/-- The device variable as `fn_NetSim_AODV_Configure_F` callocs it. -/
def DeviceVar.init : DeviceVar where
  nSequenceNumber := 0
  fifo := []
  routeTable := []
  rreqSeenTable := []
  rreqSentTable := []
  precursorsList := none
  dLastBroadcastTime := 0
  nRerrCount := 0
  ncounter := 0

/-- The events that AODV adds: a packet for `NETWORK_OUT_EVENT`, or a timer. -/
inductive SubEvent where
  | networkOut (pPacket : Packet)
  | rreqTimeout (dest : IPAddress)
  | transmitHello
  | activeRouteTimeout (dest : IPAddress)
  deriving DecidableEq

/-- `NetSim_EVENTDETAILS` of one device. -/
structure EventDetails where
  dEventTime : Time
  subEvent : SubEvent
  deriving DecidableEq

end NetSim.Aodv
