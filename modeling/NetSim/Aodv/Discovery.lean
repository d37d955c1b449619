import NetSim.Aodv.RouteTable

/-!
# Route discovery (`FIFOBuffer.c`, `RREQ.c`, `RREP.c`)

The buffer of packets without a route and the tables of sent and seen RREQs. A handler returns
`none` where the source goes on with a packet it has freed.
-/

namespace NetSim.Aodv

open NetSim.Lib

/-- `fn_NetSim_AODV_AddToFIFOBuffer`: the new buffer, and `true` if packets were waiting before. -/
def addToFIFOBuffer (packet : Packet) (time : Time) (fifoBuffer : List FIFO) : List FIFO × Bool :=
  match lookup FIFO.destination packet.szDestIP fifoBuffer with
  | some fifo =>
    match fifo.packetList with
    | [] => (modifyFirst FIFO.destination packet.szDestIP
        (fun fifo => { fifo with packetList := [packet], time := time }) fifoBuffer, false)
    | _ :: _ => (modifyFirst FIFO.destination packet.szDestIP
        (fun fifo => { fifo with packetList := fifo.packetList ++ [packet] }) fifoBuffer, true)
  | none => (fifoBuffer ++ [⟨packet.szDestIP, [packet], time⟩], false)

/-- `fnEmptyFIFOBuffer`: the packets for `dest` are freed. -/
def emptyFIFOBuffer (dest : IPAddress) (s : Sim) : Sim :=
  s.modifyVar fun v => { v with fifo := eraseFirst FIFO.destination dest v.fifo }

/-- `fn_NetSim_AODV_TransmitFIFOBuffer`: every packet with a route goes back to `NETWORK_OUT`. -/
def transmitFIFOBuffer (c : Curr) (s : Sim) : Sim :=
  { s with
    devVar := { s.devVar with
      fifo := s.devVar.fifo.map fun fifo =>
        if checkRouteFound c fifo.destination s.devVar then { fifo with packetList := [] }
        else fifo }
    added := s.added ++ s.devVar.fifo.flatMap fun fifo =>
      if checkRouteFound c fifo.destination s.devVar then
        fifo.packetList.map fun packet => ⟨c.dEventTime, .networkOut packet⟩
      else [] }

/-! ## The tables of sent and seen RREQs -/

def findSentTable (devVar : DeviceVar) (ip : IPAddress) : Option RREQSentTable :=
  lookup RREQSentTable.destAddress ip devVar.rreqSentTable

def interstInRREQSentTable (dest : IPAddress) (ttl : ℕ) (dTimout : Time) (s : Sim) : Sim :=
  let assign (table : RREQSentTable) : RREQSentTable :=
    { table with
      times := if ttl = aodvNetDiameter then table.times + 1 else table.times
      ttl := ttl
      dTimeoutTime := dTimout }
  s.modifyVar fun v => { v with
    rreqSentTable :=
      match findSentTable v dest with
      | some _ => modifyFirst RREQSentTable.destAddress dest assign v.rreqSentTable
      | none => v.rreqSentTable ++ [assign ⟨dest, 0, 1, 0⟩] }

/-- `fnDeleteRREQSentTable`, for the first entry for `dest`. -/
def deleteRREQSentTable (dest : IPAddress) (s : Sim) : Sim :=
  s.modifyVar fun v =>
    { v with rreqSentTable := eraseFirst RREQSentTable.destAddress dest v.rreqSentTable }

def increaseTTL (devVar : DeviceVar) (ip : IPAddress) : ℕ :=
  match findSentTable devVar ip with
  | none => aodvTtlStart
  | some table =>
    if aodvTtlThreshold ≤ table.ttl then aodvNetDiameter
    else if aodvTtlThreshold < table.ttl + aodvTtlIncrement then aodvTtlThreshold
    else table.ttl + aodvTtlIncrement

def getTimeoutTime (ttl count : ℕ) : Time :=
  if ttl ≠ aodvNetDiameter then aodvRingTraversalTime ttl else count * aodvNetTraversalTime

def insertInRREQSeenTable (orginator : IPAddress) (nRREQId : UInt32) (dTime : Time) (s : Sim) :
    Sim :=
  s.modifyVar fun v => { v with
    rreqSeenTable := v.rreqSeenTable ++ [⟨orginator, nRREQId, dTime + aodvPathDiscoveryTime⟩] }

def checkRREQSeenTable (devVar : DeviceVar) (rreq : RREQ) : Bool :=
  devVar.rreqSeenTable.any fun table =>
    table.orginatingNode = rreq.originatorIPAddress && table.nRREQId = rreq.rreqId

/-! ## Sending an RREQ -/

/-- The RREQ that `GenerateRREQ` and `RetryRREQ` fill in, once the two counters are increased. -/
def newRREQ (c : Curr) (dest : IPAddress) (s : Sim) : RREQ where
  jrgdu := if findSequenceNumber s.devVar dest = 0 then noFlags.set 4 '1' four_lt_six else noFlags
  hopCount := 0
  rreqId := s.nRREQId + 1
  destinationIPAddress := dest
  destinationSequenceNumber := findSequenceNumber s.devVar dest
  originatorIPAddress := c.ip
  originatorSequenceNumber := s.devVar.nSequenceNumber + 1
  lastAddress := c.ip

/-- `++nSequenceNumber`, `++nRREQId` and the seen-table entry of one's own RREQ. -/
def countRREQ (c : Curr) (s : Sim) : Sim :=
  insertInRREQSeenTable c.ip (s.nRREQId + 1) c.dEventTime
    { s with
      devVar := { s.devVar with nSequenceNumber := s.devVar.nSequenceNumber + 1 }
      nRREQId := s.nRREQId + 1 }

def addTimeOut (c : Curr) (dest : IPAddress) (time : Time) (s : Sim) : Sim :=
  s.addEvent (c.dEventTime + time) (.rreqTimeout dest)

/-- `fn_NetSim_AODV_GenerateRREQ`, for the destination of the packet being routed; the RREQ takes
that packet's place. -/
def generateRREQ (c : Curr) (dest : IPAddress) (s : Sim) : Sim :=
  let nTTL := increaseTTL s.devVar dest + 1 + 1
  let time := getTimeoutTime (nTTL - 1) 1
  let packet := generateCtrlPacket c.ip none none (.ofNat nTTL) (.rreq (newRREQ c dest s))
  let s := addTimeOut c dest time (countRREQ c s)
  let s := interstInRREQSentTable dest (nTTL - 1) (c.dEventTime + time) s
  { s with pPacket := some packet }

/-- `fn_NetSim_AODV_RetryRREQ`, run by the `RREQ_TIMEOUT` event for `dest`. -/
def retryRREQ (c : Curr) (dest : IPAddress) (s : Sim) : Sim :=
  match findSentTable s.devVar dest with
  | none => s
  | some table =>
    if c.dEventTime < table.dTimeoutTime then s
    else if aodvRreqRetries < table.times then
      emptyFIFOBuffer dest (deleteRREQSentTable dest s)
    else
      let nTTL := increaseTTL s.devVar dest + 1
      let time := getTimeoutTime nTTL table.times
      let packet := { generateCtrlPacket c.ip none none (.ofNat nTTL) (.rreq (newRREQ c dest s)) with
        szNextHopIp := none }
      let s := addTimeOut c dest time (countRREQ c s)
      let s := interstInRREQSentTable dest (nTTL - 1) (c.dEventTime + time) s
      s.addEvent c.dEventTime (.networkOut packet)

/-- `fn_NetSim_AODV_ForwardRREQ`, on the packet being processed. With TTL 1 the packet is freed. -/
def forwardRREQ (c : Curr) (s : Sim) : Option Sim :=
  match s.pPacket with
  | some packet =>
    match packet.payload with
    | .rreq rreq =>
      if packet.nTTL = 1 then some { s with pPacket := none }
      else
        let nSeq := findSequenceNumber s.devVar rreq.destinationIPAddress
        let seq :=
          if rreq.destinationSequenceNumber < nSeq then nSeq else rreq.destinationSequenceNumber
        some { s with pPacket := some { packet with
          nTransmitterId := c.ip
          nReceiverId := none
          szNextHopIp := none
          payload := .rreq { rreq with
            hopCount := rreq.hopCount + 1
            destinationSequenceNumber := seq
            jrgdu := if seq ≠ 0 then rreq.jrgdu.set 4 '1' four_lt_six else rreq.jrgdu
            lastAddress := c.ip } } }.addPacketEvent
    | _ => none
  | none => none

/-! ## Answering an RREQ -/

def generateRREP (c : Curr) (rreq : RREQ) (s : Sim) : Sim :=
  let s := s.modifyVar fun v => { v with nSequenceNumber := v.nSequenceNumber + 1 }
  s.addEvent c.dEventTime <| .networkOut <|
    generateCtrlPacket c.ip (some rreq.originatorIPAddress) (some rreq.lastAddress)
      (rreq.hopCount + 2) <| .rrep {
        hopCount := 1
        destinationIPaddress := rreq.destinationIPAddress
        destinationSequenceNumber := s.devVar.nSequenceNumber
        originatorIPaddress := rreq.originatorIPAddress
        lifetime := toUnsigned aodvMyRouteTimeout
        lastAddress := c.ip
        congestionflag := false }

/-- The RREP of `fn_NetSim_AODV_GenerateRREPByIntermediate`. -/
def intermediateRREP (c : Curr) (rreq : RREQ) (table : RouteTable) (s : Sim) : RREP where
  hopCount := table.hopCount.toUInt8
  destinationIPaddress := rreq.destinationIPAddress
  destinationSequenceNumber := findSequenceNumber s.devVar rreq.destinationIPAddress
  originatorIPaddress := rreq.originatorIPAddress
  lifetime := toUnsigned (table.lifetime - c.dEventTime)
  lastAddress := c.ip
  congestionflag := false

/-- `fn_NetSim_AODV_GenerateRREPByIntermediate`. When the stored next hop is the node the RREQ came
from, it forwards the RREQ and returns `false`. -/
def generateRREPByIntermediate (c : Curr) (rreq : RREQ) (s : Sim) : Option (Sim × Bool) :=
  match findRouteTable s.devVar.routeTable rreq.destinationIPAddress with
  | none => none
  | some table =>
    if table.nextHop = rreq.lastAddress then (forwardRREQ c s).map (·, false)
    else
      some (s.addEvent c.dEventTime <| .networkOut <|
        generateCtrlPacket c.ip (some rreq.originatorIPAddress) (some rreq.lastAddress)
          (.ofNat aodvNetDiameter) (.rrep (intermediateRREP c rreq table s)), true)

/-- What `fn_NetSim_AODV_ProcessRREQ` does before it looks at the destination. -/
def acceptRREQ (c : Curr) (rreq : RREQ) (s : Sim) : Sim :=
  insertInRouteTable c rreq.originatorIPAddress rreq.originatorSequenceNumber
    rreq.hopCount.toUInt32 rreq.lastAddress
    (c.dEventTime + 2 * aodvNetTraversalTime - 2 * rreq.hopCount.toNat * aodvNodeTraversalTime)
    (insertInPrecursorsList rreq.lastAddress
      (insertInRREQSeenTable rreq.originatorIPAddress rreq.rreqId c.dEventTime s))

/-- The `int` that `dev_counter = ncounter` gives. -/
def devCounter (ncounter : UInt32) : ℤ := ncounter.toInt32.toInt

/-- `fn_NetSim_AODV_ProcessRREQ`. Without a usable route the packet is neither freed nor forwarded.
-/
def processRREQ (c : Curr) (rreq : RREQ) (s : Sim) : Option Sim :=
  if checkRREQSeenTable s.devVar rreq then some { s with pPacket := none }
  else
    let s := acceptRREQ c rreq s
    if c.ip = rreq.destinationIPAddress then
      some { generateRREP c rreq s with pPacket := none }
    else if 25 < devCounter s.devVar.ncounter then some { s with pPacket := none }
    else if checkRouteFound c rreq.destinationIPAddress s.devVar && !rreq.destinationOnly then
      match generateRREPByIntermediate c rreq s with
      | none => none
      | some (s, true) => some { s with pPacket := none }
      | some (s, false) => forwardRREQ c s
    else some s

/-- `fn_NetSim_AODV_ForwardRREP`, on the packet being processed. -/
def forwardRREP (c : Curr) (packet : Packet) (rrep : RREP) (s : Sim) : Sim :=
  match findNextHop s.devVar rrep.originatorIPaddress with
  | some nextHop =>
    if checkRouteFound c rrep.originatorIPaddress s.devVar && !isBroadcastPacket packet then
      { s with pPacket := some { packet with
        nTransmitterId := c.ip
        nReceiverId := some nextHop
        szNextHopIp := none
        payload := .rrep { rrep with hopCount := rrep.hopCount + 1, lastAddress := c.ip } }
      }.addPacketEvent
    else { s with pPacket := none }
  | none => { s with pPacket := none }

/-- The congestion count of `fn_NetSim_AODV_ProcessRREP`. -/
def countCongestion (rrep : RREP) (s : Sim) : Sim :=
  if rrep.congestionflag then s.modifyVar fun v => { v with ncounter := v.ncounter + 1 } else s

/-- `fn_NetSim_AODV_ProcessRREP`. `UpdateRouteTable` is given `rrep->Lifetime` as it is, as a
time. -/
def processRREP (c : Curr) (packet : Packet) (rrep : RREP) (s : Sim) : Sim :=
  if rrep.destinationIPaddress = c.ip then s
  else
    let s := countCongestion rrep s
    let s := insertInRouteTable c rrep.destinationIPaddress rrep.destinationSequenceNumber
      rrep.hopCount.toUInt32 rrep.lastAddress (c.dEventTime + aodvActiveRouteTimeout) s
    let s := transmitFIFOBuffer c s
    let s := insertInPrecursorsList rrep.lastAddress s
    let s := updateRouteTable rrep.lastAddress rrep.lifetime.toNat s
    if c.ip = rrep.originatorIPaddress then
      { deleteRREQSentTable rrep.destinationIPaddress s with pPacket := none }
    else forwardRREP c packet rrep s

end NetSim.Aodv
