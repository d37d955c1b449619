import NetSim.Lib.KeyedList

/-!
# Route discovery of a DSR node

The route cache, the send buffer and the request table of a node. Each handler gives the node
afterwards and what it puts out; `none` stands for a read of memory that is not there.
-/

namespace NetSim.Dsr

open NetSim.Lib

/-! ## Constants -/

/-- `ROUTE_CACHE_TIMEOUT`, in microseconds as all times. -/
def routeCacheTimeout : ℚ := 300000000

def nonpropRequestTimeout : ℚ := 30000

def requestPeriod : ℚ := 500000

def maxRequestPeriod : ℚ := 10000000

def maxRequestRexmt : Nat := 16

/-! ## Packets -/

structure Rreq where
  initiator : Nat
  nOptDataLen : Nat
  nIdentification : Nat
  targetAddress : Nat
  address : List Nat
deriving DecidableEq

/-- `DSR_RREQ_LEN`. -/
def Rreq.len (rreq : Rreq) : Int := ((rreq.nOptDataLen : Int) - 6).tdiv 4

def Rreq.key (rreq : Rreq) : Nat × Nat × Nat :=
  (rreq.initiator, rreq.nIdentification, rreq.targetAddress)

structure Rrep where
  nReceiverId : Nat
  nOptDataLen : Nat
  address : List Nat
  replier : Nat
  request : Nat × Nat × Nat
deriving DecidableEq

/-- `DSR_RREP_LEN`. -/
def Rrep.len (rrep : Rrep) : Int := ((rrep.nOptDataLen : Int) - 3).tdiv 4 + 1

structure DataPacket where
  nPacketId : Nat
  szDestIP : Nat
deriving DecidableEq

/-- Packets on the network, and packets that the own network layer routes again. -/
inductive Output
  | rreq (rreq : Rreq)
  | rrep (rrep : Rrep)
  | data (packet : DataPacket) (nextHop : Option Nat)
  | networkOut (packet : DataPacket)
deriving DecidableEq

/-! ## Tables -/

structure RouteCache where
  dTimeOutTime : ℚ
  address : List Nat
deriving DecidableEq

structure SendBuffer where
  target : Nat
  packet : List DataPacket
deriving DecidableEq

structure RreqTable where
  dBackoff : ℚ
  nCount : Nat
  target : Nat
  nIdentification : Nat
  nEventId : Nat
  flag : Bool
  initiator : Nat
deriving DecidableEq

/-- A pending `subevent_RREQ_TIMEOUT`. -/
structure RreqTimeout where
  nEventId : Nat
  dEventTime : ℚ
  target : Nat
deriving DecidableEq

structure Node where
  address : Nat
  nRREQIdentification : Nat
  pstruRouteCache : List RouteCache
  pstruSendBuffer : List SendBuffer
  pstruRREQTable : List RreqTable
  events : List RreqTimeout
  /-- The last event number given by `fnpAddEvent`; the first is 1. -/
  lastEventId : Nat
  handled : List (Nat × Nat × Nat)
deriving DecidableEq

def Node.start (address : Nat) : Node :=
  { address := address, nRREQIdentification := 0, pstruRouteCache := [], pstruSendBuffer := [],
    pstruRREQTable := [], events := [], lastEventId := 0, handled := [] }

/-! ## The route cache -/

/-- `fn_NetSim_DSR_FindCache`: the route found, and the cache without the expired entries passed
over. -/
def findCache (dTime : ℚ) (address : Nat) : List RouteCache → Option RouteCache × List RouteCache
  | [] => (none, [])
  | cache :: caches =>
    if cache.dTimeOutTime ≤ dTime then
      findCache dTime address caches
    else if address ∈ cache.address then
      let cache := { cache with dTimeOutTime := dTime + routeCacheTimeout }
      (some cache, cache :: caches)
    else
      let r := findCache dTime address caches
      (r.1, cache :: r.2)

def validateRouteCache (cache : RouteCache) (addList : List Nat) : Bool :=
  cache.address.all fun address => !addList.contains address

/-- `determine_position`: the places after `myIP` and after `dest`. The scan ends at `dest`. -/
def determinePosition (myIP dest : Nat) : (i : Nat) → (my : Option Nat) → List Nat →
    Option Nat × Option Nat
  | _, my, [] => (my, none)
  | i, my, address :: rest =>
    let my := if address = myIP then some (i + 1) else my
    if address = dest then (my, some (i + 1)) else determinePosition myIP dest (i + 1) my rest

def getRREQTable (target : Nat) (table : List RreqTable) : Option RreqTable :=
  table.find? fun entry => entry.target = target && !entry.flag

/-- The update of the entry that `getRREQTable` gives. -/
def modifyRREQTable (target : Nat) (f : RreqTable → RreqTable) : List RreqTable → List RreqTable
  | [] => []
  | entry :: table =>
    if entry.target = target && !entry.flag then f entry :: table
    else entry :: modifyRREQTable target f table

/-- `getRREQBackoff`: the next backoff of an entry. -/
def getRREQBackoff (dBackoff : ℚ) : ℚ :=
  if dBackoff = 0 then requestPeriod else min (dBackoff * 2) maxRequestPeriod

def checkEntryInRREQTable (rreq : Rreq) (table : List RreqTable) : Bool :=
  table.any fun entry =>
    entry.nIdentification = rreq.nIdentification && entry.target = rreq.targetAddress

namespace Node

/-- `fn_NetSim_DSR_CheckRouteFound`: the route found. Its next hop is the second address. -/
def checkRouteFound (node : Node) (destAddress : Nat) (dTime : ℚ) : Option RouteCache × Node :=
  let r := findCache dTime destAddress node.pstruRouteCache
  (r.1, { node with pstruRouteCache := r.2 })

/-- `fn_NetSim_DSR_UpdateRouteCache`: the addresses from the node's own on. -/
def updateRouteCache (node : Node) (length : Nat) (address : List Nat) (dTime : ℚ) : Node :=
  { node with
    pstruRouteCache := node.pstruRouteCache ++
      [{ dTimeOutTime := dTime + routeCacheTimeout
         address := (address.take length).dropWhile fun x => x ≠ node.address }] }

/-! ## The send buffer -/

/-- `fn_NetSim_DSR_AddToSendBuffer`: whether the buffer is new. -/
def addToSendBuffer (node : Node) (packet : DataPacket) : Bool × Node :=
  match lookup SendBuffer.target packet.szDestIP node.pstruSendBuffer with
  | some _ =>
    (false, { node with
      pstruSendBuffer := modifyFirst SendBuffer.target packet.szDestIP
        (fun buffer => { buffer with packet := buffer.packet ++ [packet] }) node.pstruSendBuffer })
  | none =>
    (true, { node with
      pstruSendBuffer := node.pstruSendBuffer ++ [⟨packet.szDestIP, [packet]⟩] })

def emptySendBuffer (target : Nat) (sendBuffer : List SendBuffer) : List SendBuffer :=
  eraseFirst SendBuffer.target target sendBuffer

/-- The walk of `fn_NetSim_DSR_CheckSendBuffer` over the buffers, with the part of the route cache
that is still to be searched. -/
def checkSendBufferLoop : (routeCache : List RouteCache) → (visit : List SendBuffer) →
    (sendBuffer : List SendBuffer) → List DataPacket × List SendBuffer
  | _, [], sendBuffer => ([], sendBuffer)
  | routeCache, buffer :: visit, sendBuffer =>
    -- the inner loop runs to the end of the cache, and nothing sets `routeCache` back
    if routeCache.any fun cache => cache.address.contains buffer.target then
      let r := checkSendBufferLoop [] visit (emptySendBuffer buffer.target sendBuffer)
      (buffer.packet ++ r.1, r.2)
    else checkSendBufferLoop [] visit sendBuffer

def checkSendBuffer (node : Node) : List DataPacket × Node :=
  let r := checkSendBufferLoop node.pstruRouteCache node.pstruSendBuffer node.pstruSendBuffer
  (r.1, { node with pstruSendBuffer := r.2 })

/-! ## Route requests -/

def initRouteRequest (node : Node) (target : Nat) (dTime : ℚ) : Rreq × Node :=
  let nRREQIdentification := (node.nRREQIdentification + 1) % 2 ^ 32
  let rreq : Rreq :=
    { initiator := node.address, nOptDataLen := 6
      nIdentification := nRREQIdentification % 2 ^ 16, targetAddress := target, address := [] }
  let nEventId := node.lastEventId + 1
  (rreq, { node with
    nRREQIdentification := nRREQIdentification
    pstruRREQTable := node.pstruRREQTable ++
      [{ dBackoff := 0, nCount := 1, target := target, nIdentification := rreq.nIdentification,
         nEventId := nEventId, flag := false, initiator := node.address }]
    events := node.events ++ [⟨nEventId, dTime + nonpropRequestTimeout, target⟩]
    lastEventId := nEventId
    handled := rreq.key :: node.handled })

def retryRREQ (node : Node) (target : Nat) (dTime : ℚ) : Option (Rreq × Node) :=
  match getRREQTable target node.pstruRREQTable with
  | none => none
  | some entry =>
    let nRREQIdentification := (node.nRREQIdentification + 1) % 2 ^ 32
    let rreq : Rreq :=
      { initiator := node.address, nOptDataLen := 6
        nIdentification := nRREQIdentification % 2 ^ 16, targetAddress := target, address := [] }
    let nEventId := node.lastEventId + 1
    some (rreq, { node with
      nRREQIdentification := nRREQIdentification
      pstruRREQTable := modifyRREQTable target
        (fun entry =>
          { entry with
            nCount := entry.nCount + 1
            nIdentification := rreq.nIdentification
            dBackoff := getRREQBackoff entry.dBackoff
            nEventId := nEventId
            initiator := node.address }) node.pstruRREQTable
      events := node.events ++ [⟨nEventId, dTime + getRREQBackoff entry.dBackoff, target⟩]
      lastEventId := nEventId
      handled := rreq.key :: node.handled })

def deleteRREQTable (node : Node) (target : Nat) : Node :=
  { node with pstruRREQTable := eraseFirst RreqTable.target target node.pstruRREQTable }

/-- `fn_NetSim_DSR_RREQTimeout`, of an event that has been taken from the pending ones. -/
def rreqTimeout (node : Node) (target : Nat) (dEventTime : ℚ) : Option (List Output × Node) :=
  match node.checkRouteFound target dEventTime with
  | (some _, node) => some ([], node)
  | (none, node) =>
    match getRREQTable target node.pstruRREQTable with
    | none => none
    | some table =>
      if table.nCount < maxRequestRexmt then
        (node.retryRREQ target dEventTime).map fun r => ([.rreq r.1], r.2)
      else
        let node := { node with pstruSendBuffer := emptySendBuffer target node.pstruSendBuffer }
        some ([], node.deleteRREQTable target)

def generalPacketProcessing (node : Node) (packet : DataPacket) (dEventTime : ℚ) :
    List Output × Node :=
  match node.checkRouteFound packet.szDestIP dEventTime with
  | (some cache, node) => ([.data packet cache.address[1]?], node)
  | (none, node) =>
    match node.addToSendBuffer packet with
    | (true, node) =>
      let r := node.initRouteRequest packet.szDestIP dEventTime
      ([.rreq r.1], r.2)
    | (false, node) => ([], node)

/-! ## Route replies -/

def makeRREP (node : Node) (rreq : Rreq) (nReceiverId : Nat) (address : List Nat) : Rrep :=
  { nReceiverId := nReceiverId, nOptDataLen := ((address.length - 1) * 4 + 3) % 2 ^ 8
    address := address, replier := node.address, request := rreq.key }

def generateRREP (node : Node) (rreq : Rreq) : Option Rrep :=
  if rreq.len < 0 then none
  else
    let address := rreq.initiator :: rreq.address.take rreq.len.toNat ++ [node.address]
    some (node.makeRREP rreq (address.getD (address.length - 2) 0) address)

/-- `fn_NetSim_DSR_GenerateRREPUsingRouteCache`, for the route that was found. -/
def generateRREPUsingRouteCache (node : Node) (rreq : Rreq) (cache : RouteCache) : Option Rrep :=
  let addList := rreq.address.take rreq.len.toNat
  if validateRouteCache cache addList then
    match determinePosition rreq.initiator rreq.targetAddress 0 none cache.address with
    | (my, some de) =>
      let first := rreq.initiator :: addList
      let address := first ++ (cache.address.take de).drop (my.getD 0)
      some (node.makeRREP rreq (first.getLastD 0) address)
    | (_, none) => none
  else none

def forwardRREP (node : Node) (rrep : Rrep) : List Output × Node :=
  let address := rrep.address.take rrep.len.toNat
  if address.head? = some node.address then
    match getRREQTable (address.getLastD 0) node.pstruRREQTable with
    | some table =>
      ([], { node with
        pstruRREQTable := modifyRREQTable (address.getLastD 0)
          (fun entry => { entry with flag := true }) node.pstruRREQTable
        events := node.events.filter fun event => event.nEventId ≠ table.nEventId })
    | none => ([], node)
  else
    match address.idxOf? node.address with
    | some n => ([.rrep { rrep with nReceiverId := address.getD (n - 1) 0 }], node)
    | none => ([], node)

def processRREP (node : Node) (rrep : Rrep) (dEventTime : ℚ) : List Output × Node :=
  let node := node.updateRouteCache rrep.len.toNat rrep.address dEventTime
  let r := node.checkSendBuffer
  let r' := r.2.forwardRREP rrep
  (r.1.map .networkOut ++ r'.1, r'.2)

def entryFor (rreq : Rreq) (nCount : Nat) : RreqTable :=
  { dBackoff := 0, nCount := nCount, target := rreq.targetAddress
    nIdentification := rreq.nIdentification, nEventId := 0, flag := false
    initiator := rreq.initiator }

def processRREQ (node : Node) (rreq : Rreq) (dEventTime : ℚ) : Option (List Output × Node) :=
  if checkEntryInRREQTable rreq node.pstruRREQTable then
    some ([], node)
  else
    let node :=
      { node with
        pstruRREQTable := node.pstruRREQTable ++ [entryFor rreq 1]
        handled := rreq.key :: node.handled }
    if rreq.targetAddress = node.address then
      (node.generateRREP rreq).map fun rrep => ([.rrep rrep], node)
    -- the scan of the list counts down to 0
    else if rreq.len < 0 then
      none
    else if node.address ∈ rreq.address.take rreq.len.toNat then
      some ([], node)
    else
      let node := { node with pstruRREQTable := node.pstruRREQTable ++ [entryFor rreq 0] }
      match node.checkRouteFound rreq.targetAddress dEventTime with
      | (some cache, node) =>
        -- a reply that is declined leaves the request neither answered nor forwarded
        some ((node.generateRREPUsingRouteCache rreq cache).toList.map .rrep, node)
      | (none, node) =>
        some ([.rreq { rreq with
          address := rreq.address.take rreq.len.toNat ++ [node.address]
          nOptDataLen := (rreq.nOptDataLen + 4) % 2 ^ 8 }], node)

end Node

end NetSim.Dsr
