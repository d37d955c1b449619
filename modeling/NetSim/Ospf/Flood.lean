import NetSim.Ospf.Router

/-!
# Flooding (`OSPF_LSA.c`, `OSPF_LSREQ.c`)

`none` is the crash of a router that reads through a null pointer. Of a change of a neighbour's
state only what concerns router LSAs is kept: network LSAs, the election and the flood timer are
left out.
-/

namespace NetSim.Ospf

def Config.anyDest (cfg : Config) : Ip := cfg.broadcastIp

/-- The item of a request list that `ospf_lsReq_searchFromList` finds. -/
def LsReqItem.isFor (item : LsReqItem) (lsa : Lsa) : Bool := item.lsHdr.sameLsa lsa

def Neighbor.searchFromList (neigh : Neighbor) (lsa : Lsa) : Option Lsa :=
  (neigh.neighLSReqList.find? fun item => item.isFor lsa).map LsReqItem.lsHdr

def Neighbor.removeFromReqList (neigh : Neighbor) (lsa : Lsa) : Neighbor :=
  { neigh with neighLSReqList := neigh.neighLSReqList.eraseP fun item => item.isFor lsa }

/-! ## One neighbour -/

/-- The body of the inner loop of `ospf_lsa_removeFromRxtList`. -/
def Neighbor.removeFromRxtList (neigh : Neighbor) (lsa : Lsa) : Neighbor :=
  let rxt := neigh.neighLSRxtList.filter fun hdr => !lsa.sameLsa hdr
  if rxt.isEmpty && neigh.LSRxtTimer then
    { neigh with neighLSRxtList := rxt, LSRxtTimer := false, LSRxtSeqNum := neigh.LSRxtSeqNum + 1 }
  else { neigh with neighLSRxtList := rxt }

/-- What the loop of `ospf_lsa_flood` makes of a neighbour. -/
structure NeighborFlood where
  neigh : Neighbor
  isAddedToRxtList : Bool
  /-- The event `OSPF_LoadingDone` is raised. -/
  isLoadingDone : Bool

/-- The end of the body of the inner loop of `ospf_lsa_flood`. -/
def Neighbor.addFlooded (neigh : Neighbor) (lsa : Lsa) (srcAddr : IpPtr) (isLoadingDone : Bool) :
    NeighborFlood :=
  match srcAddr with
  | none => ⟨neigh, false, isLoadingDone⟩
  | some src =>
    if src.int_ip = neigh.neighborIPAddr.int_ip then ⟨neigh, false, isLoadingDone⟩
    else ⟨{ neigh with neighLSRxtList := neigh.neighLSRxtList ++ [lsa] }, true, isLoadingDone⟩

/-- The body of the inner loop of `ospf_lsa_flood`. The state after `OSPF_LoadingDone` is set at
once. -/
def Neighbor.floodStep (cfg : Config) (lsa : Lsa) (srcAddr : IpPtr) (neigh : Neighbor) :
    NeighborFlood :=
  if neigh.state.toNat < NeighState.exchange.toNat then ⟨neigh, false, false⟩
  else if neigh.state = .full then neigh.addFlooded lsa srcAddr false
  else
    match neigh.searchFromList lsa with
    | none => neigh.addFlooded lsa srcAddr false
    | some lsHdr =>
      let isRecent := cfg.lsaCompare lsHdr lsa
      if isRecent < 0 then ⟨neigh, false, false⟩
      else
        let neigh := neigh.removeFromReqList lsHdr
        if neigh.neighLSReqList.isEmpty && neigh.state = .loading then
          let neigh := { neigh with LSRxtSeqNum := neigh.LSRxtSeqNum + 1, state := .full }
          if isRecent = 0 then ⟨neigh, false, true⟩ else neigh.addFlooded lsa srcAddr true
        else neigh.addFlooded lsa srcAddr false

/-! ## One interface -/

/-- The loop of `ospf_lsa_queueToFlood`: the first LSA queued with the same age and identity is
replaced if it is older. -/
def Config.queueLoop (cfg : Config) (lsa : Lsa) : List Lsa → Option (List Lsa)
  | [] => none
  | hdr :: rest =>
    if hdr.LSAge = lsa.LSAge ∧ hdr.key = lsa.key then
      some (if cfg.lsaCompare hdr lsa > 0 then rest ++ [lsa] else hdr :: rest)
    else (cfg.queueLoop lsa rest).map (hdr :: ·)

def Config.queueToFlood (cfg : Config) (thisInterface : Interface) (lsa : Lsa) : Interface :=
  { thisInterface with
    updateLSAList :=
      (cfg.queueLoop lsa thisInterface.updateLSAList).getD (thisInterface.updateLSAList ++ [lsa]) }

/-- What the loop of `ospf_lsa_flood` makes of an interface. -/
structure InterfaceFlood where
  inter : Interface
  floodBack : Bool
  isLoadingDone : Bool

def Interface.isDesignated (inter : Interface) (src : Ip) : Option Bool :=
  match sameIp src inter.designaterRouter with
  | none => none
  | some true => some true
  | some false => sameIp src inter.backupDesignaterRouter

/-- The body of the outer loop of `ospf_lsa_flood`, after the loop over the neighbours. -/
def Interface.queueFlooded (cfg : Config) (lsa : Lsa) (src : Ip) (inId : Nat)
    (inter : Interface) (isLoadingDone : Bool) : Option InterfaceFlood :=
  let floodBack := src.int_ip ≠ cfg.anyDest.int_ip ∧ inter.id = inId
  if inter.ifType = .broadcast ∧ floodBack then
    match inter.isDesignated src with
    | none => none
    | some true => some ⟨inter, false, isLoadingDone⟩
    | some false =>
      if inter.State = .backup then some ⟨inter, false, isLoadingDone⟩
      else some ⟨cfg.queueToFlood inter lsa, true, isLoadingDone⟩
  else some ⟨cfg.queueToFlood inter lsa, floodBack, isLoadingDone⟩

/-- The body of the outer loop of `ospf_lsa_flood`. -/
def Interface.floodStep (cfg : Config) (area : Ip) (lsa : Lsa) (srcAddr : IpPtr) (inId : Nat)
    (inter : Interface) : Option InterfaceFlood :=
  if inter.State = .down ∨ inter.areaId.int_ip ≠ area.int_ip then some ⟨inter, false, false⟩
  else
    let flooded := inter.neighborRouterList.map (Neighbor.floodStep cfg lsa srcAddr)
    let inter := { inter with neighborRouterList := flooded.map NeighborFlood.neigh }
    let isLoadingDone := flooded.any NeighborFlood.isLoadingDone
    match srcAddr with
    | some src =>
      if flooded.any NeighborFlood.isAddedToRxtList then
        inter.queueFlooded cfg lsa src inId isLoadingDone
      else some ⟨inter, false, isLoadingDone⟩
    | none => some ⟨inter, false, isLoadingDone⟩

/-! ## The router -/

namespace Router

def scheduleRouterLSA (r : Router) (current : Nat) (a : Nat) (isFlush : Bool) : Option Router :=
  match r.area? a with
  | none => none
  | some area =>
    if area.isRouterLSTimer then some r
    else
      some ((r.modifyArea a fun area => { area with isRouterLSTimer := true }).addEvent
        (.scheduleLSDB current a isFlush))

/-- The part of `ospf_neighbor_change_state` for a neighbour that becomes `Full` or was so. -/
def changeFull (r : Router) (current : Nat) : Option Router :=
  (r.areaGetIn current).bind fun a => r.scheduleRouterLSA current a false

def removeFromRxtList (r : Router) (area : Ip) (lsa : Lsa) : Router :=
  { r with
    ospfIf := r.ospfIf.map fun inter =>
      if inter.areaId.int_ip = area.int_ip then
        { inter with
          neighborRouterList := inter.neighborRouterList.map (·.removeFromRxtList lsa) }
      else inter }

/-- The loop of `ospf_lsa_flood`. -/
def floodLoop (cfg : Config) (area : Ip) (lsa : Lsa) (srcAddr : IpPtr) (inId : Nat) :
    List Interface → Option (List InterfaceFlood)
  | [] => some []
  | inter :: rest =>
    match inter.floodStep cfg area lsa srcAddr inId, floodLoop cfg area lsa srcAddr inId rest with
    | some flooded, some others => some (flooded :: others)
    | _, _ => none

/-- `ospf_lsa_flood`, with its caller, and whether the LSA goes back to the network it came from. -/
def flood (cfg : Config) (cause : FloodCause) (r : Router) (a : Nat) (lsa : Lsa)
    (srcAddr : IpPtr) (current : Nat) (inId : Nat) : Option (Router × Bool) := do
  let area ← r.area? a
  let call : Flooded := ⟨cause, a, area.areaId, lsa, srcAddr, inId, r.ospfIf⟩
  let r := r.removeFromRxtList area.areaId lsa
  let flooded ← floodLoop cfg area.areaId lsa srcAddr inId r.ospfIf
  let r := { r with ospfIf := flooded.map InterfaceFlood.inter, floods := call :: r.floods }
  let floodBack := flooded.any InterfaceFlood.floodBack
  if flooded.any InterfaceFlood.isLoadingDone then
    (r.changeFull current).map fun r => (r, floodBack)
  else some (r, floodBack)

end Router

end NetSim.Ospf
