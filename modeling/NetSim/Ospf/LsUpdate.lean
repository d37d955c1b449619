import NetSim.Lib.Loop
import NetSim.Ospf.Lsdb

/-!
# Receiving an LS update (`OSPF_LSUPDATE.c`, `OSPF_LSREQ.c`, `OSPF_LSAACK.c`)

The event `OSPF_BadLSReq` has no handler. Assertions are taken as compiled out.
-/

namespace NetSim.Ospf

open NetSim.Lib

/-! ## Link-state requests -/

/-- The test of `ospf_lsreq_createLSReqObject`. -/
def LsReqItem.isDue (item : LsReqItem) (seqNum : UInt32) (retx : Bool) : Bool :=
  item.seqNum == seqNum || (!retx && item.seqNum == 0)

/-- `ospf_lsreq_createLSReqObject` on the request list: the item found, and the list with it marked
as requested. -/
def createLSReqObject (seqNum : UInt32) (retx : Bool) :
    List LsReqItem → Option (LsReqItem × List LsReqItem)
  | [] => none
  | item :: rest =>
    if item.isDue seqNum retx then some (item, { item with seqNum := seqNum + 1 } :: rest)
    else (createLSReqObject seqNum retx rest).map fun found => (found.1, item :: found.2)

/-- The loop of `ospf_lsreq_send`, for at most as many objects as fit into a packet. -/
def lsReqObjects (seqNum : UInt32) (retx : Bool) :
    Nat → List LsReqItem → List LsReqObj × List LsReqItem
  | 0, list => ([], list)
  | count + 1, list =>
    match createLSReqObject seqNum retx list with
    | none => ([], list)
    | some (item, list) =>
      let (objs, list) := lsReqObjects seqNum retx count list
      (⟨item.lsHdr.LSType, item.lsHdr.LinkStateID, item.lsHdr.AdvertisingRouter⟩ :: objs, list)

namespace Router

variable (cfg : Config) (now current : Nat)

/-- `ospf_lsreq_send`, which compares the type of the interface with `OSPFIFSTATE_P2P`. -/
def lsreqSend (r : Router) (interfaceId : Nat) (nbrAddr : Ip) (retx : Bool) :
    Option Router := do
  let i ← r.ifGet interfaceId
  let thisInterface ← r.inter? i
  let n ← thisInterface.neighborFindByIp nbrAddr
  let neigh ← r.neigh? i n
  let (objs, list) := lsReqObjects neigh.LSReqTimerSequenceNumber retx
    ((cfg.maxIpPayload - packetHdrLen) / lsReqLenSingle) neigh.neighLSReqList
  let rxmtSeqNum := neigh.LSReqTimerSequenceNumber + 1
  let r := r.modifyNeigh i n fun neigh =>
    { neigh with neighLSReqList := list, LSReqTimerSequenceNumber := rxmtSeqNum }
  let r := r.addEvent (.rxmtTimer interfaceId nbrAddr rxmtSeqNum .lsRequest)
  some (r.send (.lsRequest objs (if thisInterface.ifType = .p2mp then cfg.allSPFRouters else nbrAddr)))

def sendDirectAck (r : Router) (ackList : List Lsa) (nbrAddr : Ip) : Router :=
  let maxCount := (cfg.maxIpPayload - packetHdrLen) / lsaHdrLen
  (ackList.toChunks maxCount).foldl (fun r ackLSA => r.send (.lsAck ackLSA nbrAddr)) r

/-! ## One LSA of an update -/

def validateLsa (lsa : Lsa) (area : Area) : Bool :=
  lsa.LSType != .unknown && !(lsa.LSType == .asExternal && !area.extRoutingCapability)

def isAnyNeighborInExchangeOrLoadingState (r : Router) : Bool :=
  r.ospfIf.any fun inter =>
    inter.neighborRouterList.any fun neigh => neigh.state == .exchange || neigh.state == .loading

end Router

/-- Step 7 of `ospf_handle_LSUPDATE`: the first LSA of the list that differs in recency is removed.
-/
def Neighbor.impliedAck (cfg : Config) (lsa : Lsa) (neigh : Neighbor) : Neighbor :=
  let rxt := neigh.neighLSRxtList.eraseP fun rxlsa => cfg.lsaCompare rxlsa lsa != 0
  if rxt.isEmpty then
    { neigh with neighLSRxtList := rxt, LSRxtTimer := false, LSRxtSeqNum := neigh.LSRxtSeqNum + 1 }
  else { neigh with neighLSRxtList := rxt }

def searchSendList (list : List Lsa) (lsa : Lsa) : Option Lsa := list.find? fun l => l.sameLsa lsa

/-- `sendLSA->time = OSPF_CURR_TIME()` for what `ospf_neighbor_searchSendList` finds. -/
def touchSendList (now : Nat) (lsa : Lsa) : List Lsa → List Lsa
  | [] => []
  | l :: rest =>
    if l.sameLsa lsa then { l with time := now } :: rest else l :: touchSendList now lsa rest

def insertToSendList (now : Nat) (lsa : Lsa) (list : List Lsa) : List Lsa :=
  list ++ [{ lsa.hdrCopy with time := now }]

/-- What the body of the loop of `ospf_handle_LSUPDATE` leaves. -/
structure LsuState where
  router : Router
  directAckList : List Lsa
  /-- The function has returned after `OSPF_BadLSReq`. -/
  isBadLSReq : Bool

namespace Router

variable (cfg : Config) (now current : Nat)

/-- Step 7 of `ospf_handle_LSUPDATE`. -/
def ackEqual (r : Router) (i n : Nat) (srcAddr : Ip) (directAckList : List Lsa) (lsa : Lsa) :
    Option LsuState := do
  let neigh ← r.neigh? i n
  if neigh.neighLSRxtList.any fun rxlsa => cfg.lsaCompare rxlsa lsa != 0 then
    let r := r.modifyNeigh i n (Neighbor.impliedAck cfg lsa)
    let thisInterface ← r.inter? i
    if thisInterface.State = .backup then
      (sameIp thisInterface.designaterRouter (some srcAddr)).map fun isDr =>
        ⟨if isDr then r.sendDelayedAck i lsa else r, directAckList, false⟩
    else some ⟨r, directAckList, false⟩
  else some ⟨r, directAckList ++ [lsa.hdrCopy], false⟩

/-- Step 8 of `ospf_handle_LSUPDATE`. -/
def answerOlder (r : Router) (i n : Nat) (srcAddr : Ip) (oldLsa lsa : Lsa) : Option Router := do
  let neigh ← r.neigh? i n
  if cfg.hasMaxAge oldLsa && oldLsa.LSSequenceNumber == maxSequenceNumber then some r
  else
    match searchSendList neigh.linkStateSendList lsa with
    | some sendLSA =>
      if sendLSA.time + cfg.minLSInterval < now then
        some ((r.modifyNeigh i n fun neigh =>
          { neigh with linkStateSendList := touchSendList now lsa neigh.linkStateSendList }).send
            (.lsUpdate [oldLsa] srcAddr))
      else some r
    | none =>
      some ((r.modifyNeigh i n fun neigh =>
        { neigh with linkStateSendList := insertToSendList now lsa neigh.linkStateSendList }).send
          (.lsUpdate [oldLsa] srcAddr))

/-- The body of the loop of `ospf_handle_LSUPDATE`. -/
def processLsa (i n a : Nat) (srcAddr : Ip) (s : LsuState) (lsa : Lsa) : Option LsuState := do
  let r := s.router
  let area ← r.area? a
  if !validateLsa lsa area then some s
  else
    let oldLsa := area.lsdbLookup lsa.LSType lsa.AdvertisingRouter lsa.LinkStateID
    if cfg.hasMaxAge lsa && oldLsa.isNone && !r.isAnyNeighborInExchangeOrLoadingState then
      some { s with directAckList := s.directAckList ++ [lsa.hdrCopy] }
    else
      let isMoreRecent := cfg.isMoreRecent lsa oldLsa
      if isMoreRecent ≠ 0 then
        (r.update cfg now current i a lsa srcAddr).map fun r => { s with router := r }
      else
        let neigh ← r.neigh? i n
        if (neigh.searchFromList lsa).isSome then some { s with isBadLSReq := true }
        else if isMoreRecent = 0 then r.ackEqual cfg i n srcAddr s.directAckList lsa
        else
          match oldLsa with
          | none => none
          | some oldLsa =>
            (r.answerOlder cfg now i n srcAddr oldLsa lsa).map fun r => { s with router := r }

/-! ## The update -/

/-- The loop of `ospf_handle_LSUPDATE`. -/
def lsuLoop (i n a : Nat) (srcAddr : Ip) : LsuState → List Lsa → Option LsuState :=
  loop (processLsa cfg now current i n a srcAddr) LsuState.isBadLSReq

/-- `ospf_neighbor_handle_LoadingDoneEvent`. -/
def loadingDone (r : Router) (i n : Nat) : Option Router := do
  let neigh ← r.neigh? i n
  if neigh.state = .loading then
    (r.modifyNeigh i n fun neigh => { neigh with state := .full }).changeFull current
  else some r

/-- The end of `ospf_handle_LSUPDATE`. `isRequestedLSAReceived` is what
`ospf_lsreq_isRequestedLSAReceived` returns. -/
def lsuEnd (i n : Nat) (srcAddr : Ip) (isRequestedLSAReceived : Bool) (s : LsuState) :
    Option Router := do
  let r := s.router.sendDirectAck cfg s.directAckList srcAddr
  let neigh ← r.neigh? i n
  if !neigh.neighLSReqList.isEmpty then
    if isRequestedLSAReceived then
      let thisInterface ← r.inter? i
      r.lsreqSend cfg thisInterface.id neigh.neighborIPAddr false
    else some r
  else
    (r.modifyNeigh i n fun neigh =>
      { neigh with LSReqTimerSequenceNumber := neigh.LSReqTimerSequenceNumber + 1 }).loadingDone
        current i n

/-- Where `ospf_handle_LSUPDATE` finds the interface, the neighbour and the area; nothing if it
discards the packet. -/
def lsuTarget (srcAddr : Ip) (r : Router) : Option (Option (Nat × Nat × Nat)) := do
  let i ← r.ifGet current
  let thisInterface ← r.inter? i
  match thisInterface.neighborFind srcAddr with
  | none => some none
  | some n =>
    let neigh ← r.neigh? i n
    if neigh.state.toNat < NeighState.exchange.toNat then some none
    else
      let a ← r.areaGetIn current
      some (some (i, n, a))

/-- `ospf_handle_LSUPDATE`, on the interface `current`. -/
def handleLSUPDATE (srcAddr : Ip) (LSAs : List Lsa) (isRequestedLSAReceived : Bool) (r : Router) :
    Option Router :=
  match r.lsuTarget current srcAddr with
  | none => none
  | some none => some r
  | some (some (i, n, a)) =>
    match lsuLoop cfg now current i n a srcAddr ⟨r, [], false⟩ LSAs with
    | none => none
    | some s =>
      if s.isBadLSReq then some s.router
      else lsuEnd cfg current i n srcAddr isRequestedLSAReceived s

end Router

/-! ## A small router -/

def exampleConfig : Config where
  routerId := ⟨10, 10⟩
  minLSInterval := 5 * second
  supportDC := false
  LSAMaxAge := 3600
  LSRefreshTime := 1800 * second
  incrementTime := second
  isMyAddr := fun ip => ip == 10
  interfaceIdFromIP := fun ip => if ip = 10 then 1 else 0
  nwAddress := fun _ => ⟨10, 10⟩
  subnetMask := fun _ => ⟨255, 255⟩
  isMacP2p := fun _ => true
  broadcastIp := ⟨0xFFFFFFFF, 0xFFFFFFFF⟩
  allSPFRouters := ⟨5, 5⟩
  invalidAreaId := ⟨0xFFFFFFFE, 0xFFFFFFFE⟩
  maxIpPayload := 1480

def exampleNeighbor : Neighbor where
  neighborId := ⟨20, 20⟩
  neighborIPAddr := ⟨20, 20⟩
  state := .full
  neighLSReqList := []
  neighDBSummaryList := []
  neighLSRxtList := []
  linkStateSendList := []
  LSRxtTimer := false
  LSRxtSeqNum := 0
  LSReqTimerSequenceNumber := 0

def exampleLink : Interface where
  id := 1
  ifType := .p2p
  State := .p2p
  IPIfAddr := ⟨10, 10⟩
  areaId := ⟨1, 1⟩
  interfaceOutputCost := 1
  InfTransDelay := second
  RxmtInterval := 5
  neighborRouterList := [exampleNeighbor]
  designaterRouter := none
  backupDesignaterRouter := none
  updateLSAList := []
  delayedAckList := []

def exampleRouter : Router where
  ospfIf := [exampleLink]
  areaDS :=
    [{ areaId := ⟨1, 1⟩, assocRouterInterfaceId := [1], routerLSAList := [], nwLSAList := [],
       routerSummaryLSAList := [], nwSummaryLSAList := [], maxAgeList := [],
       extRoutingCapability := false, isRouterLSTimer := false }]
  isMaxAgeRemovalTimerSet := false
  events := []
  sent := []
  floods := []

end NetSim.Ospf
