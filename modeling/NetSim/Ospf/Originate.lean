import NetSim.Lib.Loop
import NetSim.Ospf.Lsdb

/-!
# The router's own LSAs and ageing (`OSPF_RLSA.c`, `OSPF_LSA.c`, `OSPF_LSDB.c`)

`none` is the crash of a router that reads through a null pointer.
-/

namespace NetSim.Ospf

open NetSim.Lib

def rlsaLenFixed : Nat := 4

def rlsaLinkLenFixed : Nat := 12

/-! ## The links of a router LSA -/

/-- `ospf_is_router_fullAdjacentWithDR`. -/
def Interface.isFullAdjacentWithDR (inter : Interface) : Option Bool :=
  match inter.designaterRouter with
  | none => if inter.neighborRouterList.isEmpty then some false else none
  | some dr =>
    some (inter.neighborRouterList.any fun neigh =>
      neigh.neighborId.int_ip == dr.int_ip && neigh.state == .full)

/-- `ospf_is_dr_router_fulladjacentwithAnother`. -/
def Interface.isFullAdjacentWithAnother (inter : Interface) : Bool :=
  inter.neighborRouterList.any fun neigh => neigh.state == .full

namespace Config

variable (cfg : Config) (inter : Interface)

def type1link (neigh : Neighbor) : RlsaLink :=
  ⟨neigh.neighborId, cfg.nwAddress inter.id, .pointToPoint, inter.interfaceOutputCost⟩

def type2link (dr : Ip) : RlsaLink :=
  ⟨dr, cfg.subnetMask inter.id, .transit, inter.interfaceOutputCost⟩

/-- `ospf_rlsa_add_type3link`, on a broadcast or a point-to-point interface. -/
def type3link : RlsaLink :=
  ⟨cfg.nwAddress inter.id, cfg.subnetMask inter.id, .stub, inter.interfaceOutputCost⟩

def selflink : RlsaLink := ⟨inter.IPIfAddr, cfg.broadcastIp, .stub, 0⟩

def hostRoute (neigh : Neighbor) : RlsaLink :=
  ⟨neigh.neighborIPAddr, cfg.broadcastIp, .stub, inter.interfaceOutputCost⟩

def broadcastLinks : Option (List RlsaLink) :=
  if inter.State = .waiting then some [cfg.type3link inter]
  else if inter.State = .dr then
    if inter.isFullAdjacentWithAnother then
      inter.designaterRouter.map fun dr => [cfg.type2link inter dr]
    else some [cfg.type3link inter]
  else
    match inter.isFullAdjacentWithDR, inter.designaterRouter with
    | none, _ => none
    | some true, some dr => some [cfg.type2link inter dr]
    | some _, _ => some [cfg.type3link inter]

def p2mpLinks : List RlsaLink :=
  cfg.selflink inter ::
    (inter.neighborRouterList.filter fun neigh => neigh.state == .full).map (cfg.type1link inter)

def p2pNeighborLinks (neigh : Neighbor) : List RlsaLink :=
  (if neigh.state = .full then [cfg.type1link inter neigh] else []) ++
    if inter.State = .p2p then
      [if cfg.isMacP2p inter.id then cfg.type3link inter else cfg.hostRoute inter neigh]
    else []

def p2pLinks : List RlsaLink :=
  if inter.neighborRouterList.isEmpty && inter.State = .p2p then
    if cfg.isMacP2p inter.id then [cfg.type3link inter] else []
  else inter.neighborRouterList.flatMap (cfg.p2pNeighborLinks inter)

/-- The body of the loop of `ospf_rlsa_add_foreach_interface`. -/
def interfaceLinks (area : Area) : Option (List RlsaLink) :=
  if inter.State = .down ∨ inter.areaId.int_ip ≠ area.areaId.int_ip then some []
  else
    match inter.ifType with
    | .broadcast => cfg.broadcastLinks inter
    | .p2mp => some (cfg.p2mpLinks inter)
    | .p2p => some (cfg.p2pLinks inter)
    | _ => some []

def addForeachInterface (area : Area) : List Interface → Option (List RlsaLink)
  | [] => some []
  | inter :: rest =>
    match cfg.interfaceLinks inter area, addForeachInterface area rest with
    | some links, some others => some (links ++ others)
    | _, _ => none

end Config

namespace Router

variable (cfg : Config) (now current : Nat)

/-! ## Originating -/

def newRouterLSA (r : Router) (area : Area) : Option Lsa :=
  (cfg.addForeachInterface area r.ospfIf).map fun links =>
    { LSAge := 0
      Options := 0
      LSType := .router
      LinkStateID := cfg.routerId
      AdvertisingRouter := cfg.routerId
      LSSequenceNumber := initialSequenceNumber
      length := lsaHdrLen + (rlsaLenFixed + rlsaLinkLenFixed * links.length)
      lsaInfo := some ⟨0, links⟩
      time := 0 }

def setStored (r : Router) (a : Nat) (list : List Lsa) (lsa : Lsa) : Router :=
  r.modifyArea a fun area =>
    area.setLsaList (modifyFirst Lsa.key lsa.key (fun _ => lsa) list) lsa.LSType

/-- `ospf_lsa_update_lsahdr` for a router LSA: the new sequence number, if there is one to use. -/
def updateLsahdr (r : Router) (a : Nat) (list : List Lsa) (old : Option Lsa) :
    Option (Router × Option UInt32) :=
  match old with
  | none => some (r, some initialSequenceNumber)
  | some old =>
    if old.LSSequenceNumber = maxSequenceNumber ∧ cfg.maskDoNotAge old.LSAge < cfg.LSAMaxAge then
      (r.flush cfg current a old).map fun flushed =>
        (flushed.1.setStored a list flushed.2, none)
    else if cfg.hasMaxAge old then some (r, none)
    else some (r, some (old.LSSequenceNumber + 1))

/-- The part of `ospf_rlsa_originateRouterLSA` that floods and installs the new LSA. -/
def originate (r : Router) (a : Nat) (lsa : Lsa) : Option Router := do
  let r := r.modifyArea a fun area => { area with isRouterLSTimer := false }
  let (r, _) ← r.flood cfg .originate a lsa (some (cfg.nwAddress current)) current current
  (r.install cfg now a lsa).map Prod.fst

def originateRouterLSA (r : Router) (a : Nat) (isFlush : Bool) : Option Router := do
  let area ← r.area? a
  let lsa ← r.newRouterLSA cfg area
  let old := lookupLsaList area.routerLSAList cfg.routerId cfg.routerId
  let (r, seqNum) ← r.updateLsahdr cfg current a area.routerLSAList old
  match seqNum with
  | none => r.scheduleRouterLSA current a false
  | some seqNum =>
    r.originate cfg now current a
      { lsa with LSSequenceNumber := seqNum, LSAge := if isFlush then cfg.LSAMaxAge else 0 }

/-! ## Ageing -/

def lsaAt (r : Router) (a : Nat) (t : LsType) (idx : Nat) : Option Lsa :=
  (r.lsdbList a t).bind fun list => list[idx]?

def modifyLsa (r : Router) (a : Nat) (t : LsType) (idx : Nat) (f : Lsa → Lsa) : Router :=
  r.modifyArea a fun area =>
    match area.lsaList t with
    | none => area
    | some list => area.setLsaList (list.modify idx f) t

def refreshLSA (r : Router) (a : Nat) (t : LsType) (idx : Nat) : Option Router := do
  let lsa ← r.lsaAt a t idx
  if lsa.LSSequenceNumber = maxSequenceNumber then
    let (r, flushed) ← r.flush cfg current a lsa
    (r.modifyLsa a t idx fun _ => flushed).schedule current none a lsa.LSType
  else
    let lsa := { lsa with LSSequenceNumber := lsa.LSSequenceNumber + 1, LSAge := 0, time := now }
    ((r.modifyLsa a t idx fun _ => lsa).flood cfg .refresh a lsa none current 0).map Prod.fst

/-- The new age in `ospf_LSDB_IncrementLSAgeInLSAList`, a `UINT16`. -/
def incrementedAge (lsa : Lsa) : Nat :=
  let age := cfg.maskDoNotAge lsa.LSAge
  min (if cfg.checkForDoNotAge lsa.LSAge then age
    else (age + cfg.incrementTime / second) % 2 ^ 16) cfg.LSAMaxAge

/-- The body of the loop of `ospf_LSDB_IncrementLSAgeInLSAList`. -/
def incrementLSAge (r : Router) (place : Nat × LsType × Nat) : Option Router := do
  let (a, t, idx) := place
  let lsa ← r.lsaAt a t idx
  if cfg.hasMaxAge lsa then some r
  else
    let tempAge := incrementedAge cfg lsa
    let lsa := { lsa with LSAge := cfg.assignNewLSAge lsa.LSAge tempAge }
    let r := r.modifyLsa a t idx fun _ => lsa
    if lsa.AdvertisingRouter.int_ip = cfg.routerId.int_ip ∧
        cfg.maskDoNotAge tempAge * second = cfg.LSRefreshTime then
      r.refreshLSA cfg now current a t idx
    else if cfg.maskDoNotAge tempAge = cfg.LSAMaxAge then
      let area ← r.area? a
      let (r, _) ← r.flood cfg .age a lsa (some cfg.anyDest) current 0
      r.addToMaxAgeLSAList cfg area.areaId lsa
    else some r

/-- The places of the LSAs of an area, in the order of `ospf_lsdb_incrementLSAge`. -/
def areaPlaces (area : Area) (a : Nat) : List (Nat × LsType × Nat) :=
  (List.range area.nwLSAList.length).map (fun idx => (a, .network, idx)) ++
    (List.range area.routerLSAList.length).map (fun idx => (a, .router, idx)) ++
    (List.range area.nwSummaryLSAList.length).map (fun idx => (a, .summaryNetwork, idx)) ++
    (List.range area.routerSummaryLSAList.length).map fun idx => (a, .summaryRouter, idx)

/-- A loop of `ospf_LSDB_removeStaleDoNotAgeLSA`: microseconds are compared with `LSAMaxAge`, in
seconds. -/
def removeStale (r : Router) (stored : Nat × Lsa) : Option Router := do
  let (a, lsa) := stored
  if cfg.checkForDoNotAge lsa.LSAge ∧ lsa.time + cfg.LSAMaxAge ≤ now then
    let (r, lsa) ← r.flush cfg current a lsa
    r.removeLSA cfg a lsa
  else some r

/-- The LSAs of an area, in the order of `ospf_LSDB_removeStaleDoNotAgeLSA`. -/
def areaLsas (area : Area) (a : Nat) : List (Nat × Lsa) :=
  (area.nwLSAList ++ area.routerLSAList ++ area.nwSummaryLSAList ++ area.routerSummaryLSAList).map
    fun lsa => (a, lsa)

def places (r : Router) : List (Nat × LsType × Nat) :=
  (r.areaDS.mapIdx fun a area => areaPlaces area a).flatten

def storedLsas (r : Router) : List (Nat × Lsa) :=
  (r.areaDS.mapIdx fun a area => areaLsas area a).flatten

/-- `ospf_lsdb_incrementLSAge`, whose loops do not change the lengths of the lists before they come
to the stale LSAs. -/
def incrementAge (r : Router) : Option Router := do
  let r ← loop (incrementLSAge cfg now current) (fun _ => false) r r.places
  if cfg.supportDC then loop (removeStale cfg now current) (fun _ => false) r r.storedLsas
  else some r

end Router

end NetSim.Ospf
