import NetSim.Lib.ScanBest
import NetSim.Ospf.Types

/-!
# The election of the designated router (`OSPF_DR.c`)

`none` is the crash of a router that reads through a null pointer.
-/

namespace NetSim.Ospf

/-- What the election reads of an `OSPF_NEIGHBOR`. -/
structure DrNeighbor where
  state : NeighState
  neighborId : Ip
  neighborPriority : Nat
  neighborIPAddr : Ip
  neighborDesignateRouter : IpPtr
  neighborDesignateBackupRouter : IpPtr
deriving DecidableEq

/-- What the election reads and writes of an `OSPF_IF`. -/
structure DrInterface where
  State : IfState
  IPIfAddr : Ip
  RouterPriority : Nat
  neighborRouterList : List DrNeighbor
  designaterRouter : IpPtr
  designaterRouterAddr : IpPtr
  backupDesignaterRouter : IpPtr
  backupDesignaterRouterAddr : IpPtr
deriving DecidableEq

structure EligibleRouter where
  routerId : Ip
  routerPriority : Nat
  routerAddr : Ip
  DesignatedRouter : IpPtr
  BackupDesignatedRouter : IpPtr
deriving DecidableEq

def DrInterface.self (thisInterface : DrInterface) (routerId : Ip) : EligibleRouter where
  routerId := routerId
  routerPriority := thisInterface.RouterPriority
  routerAddr := thisInterface.IPIfAddr
  DesignatedRouter := thisInterface.designaterRouterAddr
  BackupDesignatedRouter := thisInterface.backupDesignaterRouterAddr

def DrNeighbor.entry (neigh : DrNeighbor) : EligibleRouter where
  routerId := neigh.neighborId
  routerPriority := neigh.neighborPriority
  routerAddr := neigh.neighborIPAddr
  DesignatedRouter := neigh.neighborDesignateRouter
  BackupDesignatedRouter := neigh.neighborDesignateBackupRouter

def DrNeighbor.isEligible (neigh : DrNeighbor) : Bool :=
  neigh.state.toNat ≥ NeighState.twoWay.toNat && neigh.neighborPriority > 0

def DrInterface.listEligibleRouter (thisInterface : DrInterface) (routerId : Ip) :
    List EligibleRouter :=
  (if thisInterface.RouterPriority > 0 then [thisInterface.self routerId] else []) ++
    (thisInterface.neighborRouterList.filter DrNeighbor.isEligible).map DrNeighbor.entry

/-- The comparison of `ospf_DR_electBDR` and `ospf_DR_electDR`: at equal priority the places of the
ids. -/
def keeps (temp routerInfo : EligibleRouter) : Bool :=
  temp.routerPriority > routerInfo.routerPriority ||
    (temp.routerPriority == routerInfo.routerPriority &&
      temp.routerId.place > routerInfo.routerId.place)

/-- The loop of `ospf_DR_electBDR`. -/
def electBdrLoop : Bool → Option EligibleRouter → List EligibleRouter →
    Option (Option EligibleRouter)
  | _, tempBDR, [] => some tempBDR
  | flag, tempBDR, routerInfo :: rest => do
    if ← sameIp (some routerInfo.routerId) routerInfo.DesignatedRouter then
      electBdrLoop flag tempBDR rest
    else if ← sameIp (some routerInfo.routerId) routerInfo.BackupDesignatedRouter then
      if flag && tempBDR.any (keeps · routerInfo) then electBdrLoop flag tempBDR rest
      else electBdrLoop true (some routerInfo) rest
    else if !flag then
      if tempBDR.any (keeps · routerInfo) then electBdrLoop flag tempBDR rest
      else electBdrLoop flag (some routerInfo) rest
    else electBdrLoop flag tempBDR rest

def DrInterface.electBdr (thisInterface : DrInterface) (eligibleRouter : List EligibleRouter) :
    Option DrInterface := do
  let tempBDR ← electBdrLoop false none eligibleRouter
  return { thisInterface with
    backupDesignaterRouter := tempBDR.map EligibleRouter.routerId
    backupDesignaterRouterAddr := tempBDR.map EligibleRouter.routerAddr }

/-- The loop of `ospf_DR_electDR`. -/
def electDrLoop : Option EligibleRouter → List EligibleRouter → Option (Option EligibleRouter)
  | tempDR, [] => some tempDR
  | tempDR, routerInfo :: rest => do
    if ← sameIp (some routerInfo.routerAddr) routerInfo.DesignatedRouter then
      if tempDR.any (keeps · routerInfo) then electDrLoop tempDR rest
      else electDrLoop (some routerInfo) rest
    else electDrLoop tempDR rest

/-- The state that `ospf_DR_electDR` returns. -/
def DrInterface.newState (thisInterface : DrInterface) (routerId : Ip) : Option IfState := do
  if ← sameIp thisInterface.designaterRouter (some routerId) then return .dr
  else if ← sameIp thisInterface.backupDesignaterRouter (some routerId) then return .backup
  else return .drOther

/-- `ospf_DR_electDR`. -/
def DrInterface.electDr (thisInterface : DrInterface) (routerId : Ip)
    (eligibleRouter : List EligibleRouter) : Option (DrInterface × IfState) := do
  let tempDR ← electDrLoop none eligibleRouter
  let thisInterface := match tempDR with
    | some r => { thisInterface with
        designaterRouter := some r.routerId, designaterRouterAddr := some r.routerAddr }
    | none => { thisInterface with
        designaterRouter := thisInterface.backupDesignaterRouter
        designaterRouterAddr := thisInterface.backupDesignaterRouterAddr }
  return (thisInterface, ← thisInterface.newState routerId)

def DrInterface.elect (thisInterface : DrInterface) (routerId : Ip) :
    Option (DrInterface × IfState) := do
  let eligibleRoutersList := thisInterface.listEligibleRouter routerId
  (← thisInterface.electBdr eligibleRoutersList).electDr routerId eligibleRoutersList

def repeats (oldState newState : IfState) : Bool :=
  newState != oldState && (newState != .drOther || oldState.toNat > IfState.drOther.toNat)

/-- The interface, the state to change to and the neighbours that get the event `OSPF_Adjok`. -/
structure ElectionResult where
  thisInterface : DrInterface
  newState : IfState
  adjok : List DrNeighbor
deriving DecidableEq

/-- `ospf_DR_election`. The log reads the names of both routers. -/
def DrInterface.election (thisInterface : DrInterface) (routerId : Ip) : Option ElectionResult := do
  let r ← thisInterface.elect routerId
  let r ← if repeats thisInterface.State r.2 then r.1.elect routerId else some r
  let _ ← r.1.designaterRouter
  let _ ← r.1.backupDesignaterRouter
  let isSame ← if ← sameIp thisInterface.designaterRouter r.1.designaterRouter then
    sameIp thisInterface.backupDesignaterRouter r.1.backupDesignaterRouter else some false
  return ⟨r.1, r.2,
    if isSame then [] else r.1.neighborRouterList.filter fun neigh => neigh.state == .twoWay⟩

end NetSim.Ospf
