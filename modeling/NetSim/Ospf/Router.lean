import NetSim.Lib.KeyedList
import NetSim.Ospf.Lsa

/-!
# The router (`OSPF.h`, `OSPF_Interface.h`, `OSPF_Neighbor.h`)

What flooding reads and writes of an `OSPF_PDS`. Pointers are places in lists, times are
microseconds, and a pending event is kept without its time. The list of calls of `ospf_lsa_flood` is
there to speak about them.
-/

namespace NetSim.Ospf

open NetSim.Lib

structure LsReqItem where
  seqNum : UInt32
  lsHdr : Lsa
deriving DecidableEq

/-- An `OSPF_NEIGHBOR`. -/
structure Neighbor where
  neighborId : Ip
  neighborIPAddr : Ip
  state : NeighState
  neighLSReqList : List LsReqItem
  neighDBSummaryList : List Lsa
  neighLSRxtList : List Lsa
  linkStateSendList : List Lsa
  LSRxtTimer : Bool
  LSRxtSeqNum : UInt32
  LSReqTimerSequenceNumber : UInt32
deriving DecidableEq

/-- An `OSPF_IF`. -/
structure Interface where
  id : Nat
  ifType : IfType
  State : IfState
  IPIfAddr : Ip
  areaId : Ip
  interfaceOutputCost : Nat
  InfTransDelay : Nat
  RxmtInterval : Nat
  neighborRouterList : List Neighbor
  designaterRouter : IpPtr
  backupDesignaterRouter : IpPtr
  updateLSAList : List Lsa
  delayedAckList : List Lsa
deriving DecidableEq

/-- An `OSPFAREA_DS`. -/
structure Area where
  areaId : Ip
  assocRouterInterfaceId : List Nat
  routerLSAList : List Lsa
  nwLSAList : List Lsa
  routerSummaryLSAList : List Lsa
  nwSummaryLSAList : List Lsa
  maxAgeList : List Lsa
  extRoutingCapability : Bool
  isRouterLSTimer : Bool
deriving DecidableEq

inductive RxmtMsg
  | lsUpdate | lsRequest
deriving DecidableEq

/-- The pending events that matter here. -/
inductive Event
  /-- `OSPF_RXMTTIMER` of an interface, with its `LSRXTTIMERDETAILS`. -/
  | rxmtTimer (interface : Nat) (neighborIP : Ip) (rxmtSeqNum : UInt32) (msgType : RxmtMsg)
  /-- `OSPF_SCHEDULELSDB` of an interface for the router LSA of an area. -/
  | scheduleLSDB (interface : Nat) (area : Nat) (isFlush : Bool)
  | maxAgeRemovalTimer
deriving DecidableEq

structure LsReqObj where
  LSType : LsType
  LinkStateId : Ip
  AdvertisingRouter : Ip
deriving DecidableEq

/-- The packets that are sent, with their destination. -/
inductive Packet
  | lsUpdate (LSAs : List Lsa) (dest : Ip)
  | lsAck (LSAHeader : List Lsa) (dest : Ip)
  | lsRequest (lsrObj : List LsReqObj) (dest : Ip)
deriving DecidableEq

/-- Which function calls `ospf_lsa_flood`. -/
inductive FloodCause
  /-- `ospf_lsdb_updateLSAList`. -/
  | update
  /-- `ospf_rlsa_originateRouterLSA`. -/
  | originate
  /-- `ospf_lsdb_refreshLSA`. -/
  | refresh
  /-- `ospf_LSDB_IncrementLSAgeInLSAList`. -/
  | age
  /-- `ospf_lsa_flush`. -/
  | flush
deriving DecidableEq

/-- A call of `ospf_lsa_flood` for an area, with the interfaces it finds. -/
structure Flooded where
  cause : FloodCause
  area : Nat
  areaId : Ip
  lsa : Lsa
  srcAddr : IpPtr
  inId : Nat
  ospfIf : List Interface
deriving DecidableEq

/-- The call is made by the function `cause` for the LSA. -/
def Flooded.IsOf (f : Flooded) (cause : FloodCause) (area : Nat) (lsa : Lsa) : Prop :=
  f.cause = cause ∧ f.area = area ∧ f.lsa = lsa

/-- An `OSPF_PDS` without its constants, the pending events, what has been sent and the calls of
`ospf_lsa_flood`. -/
structure Router where
  ospfIf : List Interface
  areaDS : List Area
  isMaxAgeRemovalTimerSet : Bool
  events : List Event
  sent : List Packet
  floods : List Flooded
deriving DecidableEq

/-! ## Link-state advertisements in lists -/

def Lsa.key (lsa : Lsa) : Nat × Nat := (lsa.AdvertisingRouter.int_ip, lsa.LinkStateID.int_ip)

theorem Lsa.sameId_iff (a b : Lsa) : a.sameId b = true ↔ a.key = b.key := by
  simp [Lsa.sameId, Lsa.key]

/-- `ospf_lsdb_lookup_lsaList` and `ospf_lsa_find_old_lsa`. -/
def lookupLsaList (list : List Lsa) (adverRouter linkStateId : Ip) : Option Lsa :=
  lookup Lsa.key (adverRouter.int_ip, linkStateId.int_ip) list

def Area.lsaList (area : Area) : LsType → Option (List Lsa)
  | .router => some area.routerLSAList
  | .network => some area.nwLSAList
  | .summaryRouter => some area.routerSummaryLSAList
  | .summaryNetwork => some area.nwSummaryLSAList
  | _ => none

def Area.setLsaList (area : Area) (list : List Lsa) : LsType → Area
  | .router => { area with routerLSAList := list }
  | .network => { area with nwLSAList := list }
  | .summaryRouter => { area with routerSummaryLSAList := list }
  | .summaryNetwork => { area with nwSummaryLSAList := list }
  | _ => area

def Area.lsdbLookup (area : Area) (lsType : LsType) (adveRouter linkStateID : Ip) : Option Lsa :=
  (area.lsaList lsType).bind fun list => lookupLsaList list adveRouter linkStateID

/-! ## Looking up -/

/-- `OSPF_NEIGHBOR_FIND`, by router id or address. -/
def Interface.neighborFind (inter : Interface) (id : Ip) : Option Nat :=
  inter.neighborRouterList.findIdx? fun neigh =>
    neigh.neighborId.int_ip == id.int_ip || neigh.neighborIPAddr.int_ip == id.int_ip

def Interface.neighborFindByIp (inter : Interface) (ip : Ip) : Option Nat :=
  inter.neighborRouterList.findIdx? fun neigh => neigh.neighborIPAddr.int_ip == ip.int_ip

namespace Router

/-- `OSPF_IF_GET`. -/
def ifGet (r : Router) (ifId : Nat) : Option Nat := r.ospfIf.findIdx? fun inter => inter.id == ifId

def areaGetIn (r : Router) (interface : Nat) : Option Nat :=
  if interface = 0 then none
  else r.areaDS.findIdx? fun area => area.assocRouterInterfaceId.contains interface

def areaGetId (r : Router) (areaId : Ip) : Option Nat :=
  r.areaDS.findIdx? fun area => area.areaId.int_ip == areaId.int_ip

def inter? (r : Router) (i : Nat) : Option Interface := r.ospfIf[i]?

def neigh? (r : Router) (i n : Nat) : Option Neighbor :=
  (r.inter? i).bind fun inter => inter.neighborRouterList[n]?

def area? (r : Router) (a : Nat) : Option Area := r.areaDS[a]?

def lsdbList (r : Router) (a : Nat) (lsType : LsType) : Option (List Lsa) :=
  (r.area? a).bind fun area => area.lsaList lsType

def stored (r : Router) (a : Nat) (lsType : LsType) (key : Nat × Nat) : Option Lsa :=
  (r.lsdbList a lsType).bind (lookup Lsa.key key)

def modifyInter (r : Router) (i : Nat) (f : Interface → Interface) : Router :=
  { r with ospfIf := r.ospfIf.modify i f }

def modifyNeigh (r : Router) (i n : Nat) (f : Neighbor → Neighbor) : Router :=
  r.modifyInter i fun inter =>
    { inter with neighborRouterList := inter.neighborRouterList.modify n f }

def modifyArea (r : Router) (a : Nat) (f : Area → Area) : Router :=
  { r with areaDS := r.areaDS.modify a f }

def addEvent (r : Router) (ev : Event) : Router := { r with events := ev :: r.events }

def send (r : Router) (packet : Packet) : Router := { r with sent := packet :: r.sent }

end Router

end NetSim.Ospf
