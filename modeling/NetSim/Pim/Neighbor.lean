import Mathlib

/-!
# Hellos and designated routers (`PIM_Hello.c`, `PIM_Neighbor.c`, `PIM_Route_Msg.c`)

What a router keeps of the hellos it receives, and how it elects a designated router. An address is
a number and the place in memory of its text: `dr_is_better` compares the places.
-/

namespace NetSim.Pim

/-! ## Data -/

/-- `NETSIM_IPAddress`: the address, and where the array `str_ip` of the object lies. -/
structure IpAddress where
  ip : Nat
  strIp : Nat
deriving DecidableEq

/-- `IP_COMPARE` finds no difference. -/
def IpAddress.same (a b : IpAddress) : Bool := a.ip = b.ip

inductive InterfaceType
  | lan8023 | lan80211 | lan802154 | lan80222 | wanRouter | virtual | gsm | cdma | lte | lteNR
deriving DecidableEq

/-- A router and the parameters in its `PIM_VAR`. -/
structure Device where
  nNumOfInterface : Nat
  nwAddress : Nat → IpAddress
  nInterfaceType : Nat → InterfaceType
  genId : UInt32
  helloPeriod : ℚ
  tPeriodic : ℚ
  drPriority : UInt32
  propagationDelay : UInt16
  overrideInterval : UInt16

structure Neighbor where
  neighborAddr : IpAddress
  incomingInterface : Nat
  genId : UInt32
  drPriority : UInt16
  drPriorityPresent : Bool
  isTimeoutAdded : Bool
  timeout : ℚ
  lanPruneDelayPresent : Bool
  trackingSupport : Bool
  propagationDelay : UInt16
  overrideInterval : UInt16
  secondaryAddressList : List IpAddress

/-- A zeroed `PIM_NEIGHBOR` with an address and an interface. -/
def Neighbor.zeroed (address : IpAddress) (ifId : Nat) : Neighbor where
  neighborAddr := address
  incomingInterface := ifId
  genId := 0
  drPriority := 0
  drPriorityPresent := false
  isTimeoutAdded := false
  timeout := 0
  lanPruneDelayPresent := false
  trackingSupport := false
  propagationDelay := 0
  overrideInterval := 0
  secondaryAddressList := []

/-- The timer events of `IP_SUBEVENT`. -/
inductive PimTimer
  | sendHello
  | neighborTimeout
  | jt (groupAddress : IpAddress)
  | et (groupAddress : IpAddress)
deriving DecidableEq

inductive JPS | ni | j | pp | p | jp
deriving DecidableEq

/-- `PIM_JP_STATE`. -/
structure JPState where
  state : JPS
  et : ℚ
deriving DecidableEq

/-- `PIM_GROUP`. -/
structure Group where
  groupAddress : IpAddress
  rp : IpAddress
  rpId : Nat
  jpState : Nat → Option JPState
  ifid : List Nat

/-- What a router learns: the lists of `PIM_VAR`, the designated routers, and the timer events that
are pending. -/
structure PimVar where
  neighCount : Nat
  neighborList : List Neighbor
  dr : Nat → Option IpAddress
  groupList : List Group
  timers : List (ℚ × PimTimer)

def PimVar.init (groupList : List Group) : PimVar := ⟨0, [], fun _ => none, groupList, []⟩

def millisecond : ℚ := 1000
def second : ℚ := 1000 * millisecond

def addTimeoutEvent (var : PimVar) (time : ℚ) (eve : PimTimer) : PimVar :=
  { var with timers := var.timers ++ [(time, eve)] }

/-! ## `PIM_Neighbor.c` -/

def Neighbor.hasAddress (neigh : Neighbor) (ip : IpAddress) : Bool :=
  neigh.neighborAddr.same ip || neigh.secondaryAddressList.any fun a => ip.same a

/-- `find_neighbor`: the place of the first neighbor with the address. -/
def findNeighbor (var : PimVar) (ip : IpAddress) : Option Nat :=
  var.neighborList.findIdx? fun neigh => neigh.hasAddress ip

def createAndAddNeighbor (var : PimVar) (ifId : Nat) (address : IpAddress) : PimVar :=
  { var with
    neighCount := var.neighCount + 1
    neighborList := var.neighborList ++ [.zeroed address ifId] }

/-- `get_all_neigh_for_interface`. With no neighbor on the interface the pointer it returns is not
set. -/
def getAllNeighForInterface (var : PimVar) (ifid : Nat) : Option (List Neighbor) :=
  match var.neighborList.filter fun neigh => neigh.incomingInterface = ifid with
  | [] => none
  | neigh :: l => some (neigh :: l)

def drIsBetter (a b : Neighbor) : Bool :=
  if !a.drPriorityPresent || !b.drPriorityPresent then a.neighborAddr.strIp > b.neighborAddr.strIp
  else a.drPriority > b.drPriority ||
    (a.drPriority = b.drPriority && a.neighborAddr.strIp > b.neighborAddr.strIp)

/-- The loop of `elect_DR`. -/
def bestDR (dr : Neighbor) (neigh : List Neighbor) : Neighbor :=
  neigh.foldl (fun dr n => if drIsBetter n dr then n else dr) dr

/-- `elect_DR`, which frees the pointer that `get_all_neigh_for_interface` returns. -/
def electDR (d : Device) (var : PimVar) (ifid : Nat) : Option PimVar :=
  (getAllNeighForInterface var ifid).map fun neigh =>
    { var with
      dr := Function.update var.dr ifid
        (some (bestDR (.zeroed (d.nwAddress ifid) 0) neigh).neighborAddr) }

/-! ## `PIM_Hello.c` -/

inductive HelloOption
  | holdTime (holdTime : UInt16)
  | lanPruneDelay (t : Bool) (propagationDelay : Nat) (overrideInterval : UInt16)
  | drPriority (drPriority : UInt32)
  | generationId (generationId : UInt32)
  | addrList (c : Nat) (secondaryAddr : List IpAddress)

/-- `get_option_from_hello` for `PIM_OPTION_HOLDTIME_TYPE`. -/
def getHoldTime (hello : List HelloOption) : Option UInt16 :=
  hello.findSome? fun o => match o with | .holdTime h => some h | _ => none

/-- `get_option_from_hello` for `PIM_OPTION_LANPRUNEDELAY_TYPE`. -/
def getLanPruneDelay (hello : List HelloOption) : Option (Bool × Nat × UInt16) :=
  hello.findSome? fun o => match o with | .lanPruneDelay t p v => some (t, p, v) | _ => none

/-- `get_option_from_hello` for `PIM_OPTION_DRPRIORITY_TYPE`. -/
def getDRPriority (hello : List HelloOption) : Option UInt32 :=
  hello.findSome? fun o => match o with | .drPriority p => some p | _ => none

/-- `get_option_from_hello` for `PIM_OPTION_GENERATIONID_TYPE`. -/
def getGenerationId (hello : List HelloOption) : Option UInt32 :=
  hello.findSome? fun o => match o with | .generationId g => some g | _ => none

/-- `get_option_from_hello` for `PIM_OPTION_ADDRLIST_TYPE`. -/
def getAddrList (hello : List HelloOption) : Option (Nat × List IpAddress) :=
  hello.findSome? fun o => match o with | .addrList c l => some (c, l) | _ => none

/-- `DEVICE_NWADDRESS` of every interface. -/
def Device.addresses (d : Device) : List IpAddress :=
  (List.range d.nNumOfInterface).map fun i => d.nwAddress (i + 1)

/-- `add_addresslist_option`: all addresses, with a count that leaves the source address out. -/
def addAddresslistOption (d : Device) (hello : List HelloOption) : List HelloOption :=
  if d.nNumOfInterface ≤ 1 then hello
  else hello ++ [.addrList (d.nNumOfInterface - 1) d.addresses]

/-- The options of `send_hello_msg`. -/
def helloMsg (d : Device) : List HelloOption :=
  addAddresslistOption d
    [.drPriority d.drPriority, .generationId d.genId,
      .lanPruneDelay false (d.propagationDelay.toNat % 2 ^ 15) d.overrideInterval]

/-- The source address of `create_pim_hello`. -/
def helloSource (d : Device) : IpAddress := d.nwAddress 1

/-- The loop over the address list: `c` addresses other than the source. A read behind the list
fails. -/
def secondaryAddresses (src : IpAddress) : Nat → List IpAddress → Option (List IpAddress)
  | 0, _ => some []
  | _ + 1, [] => none
  | c + 1, a :: l =>
    if a.same src then secondaryAddresses src (c + 1) l
    else (secondaryAddresses src c l).map (a :: ·)

def secondaryOfHello (src : IpAddress) (hello : List HelloOption) : Option (List IpAddress) :=
  match getAddrList hello with
  | some (c, l) => secondaryAddresses src c l
  | none => some []

def neighborTime (d : Device) (hello : List HelloOption) : ℚ :=
  match getHoldTime hello with
  | some h => h.toNat * millisecond
  | none => d.helloPeriod * (7 / 2)

/-- What `process_pim_hello_packet` writes to the neighbor before the election. -/
def Neighbor.hear (neigh : Neighbor) (hello : List HelloOption) (timeout : ℚ) : Neighbor :=
  { neigh with
    genId := (getGenerationId hello).getD neigh.genId
    drPriority := ((getDRPriority hello).map UInt32.toUInt16).getD neigh.drPriority
    drPriorityPresent := (getDRPriority hello).isSome || neigh.drPriorityPresent
    timeout := timeout
    isTimeoutAdded := true }

def Neighbor.hearLan (neigh : Neighbor) (hello : List HelloOption) (secondary : List IpAddress) :
    Neighbor :=
  match getLanPruneDelay hello with
  | some (t, propagationDelay, overrideInterval) =>
    { neigh with
      lanPruneDelayPresent := true
      overrideInterval := overrideInterval
      propagationDelay := .ofNat propagationDelay
      trackingSupport := t
      secondaryAddressList := secondary }
  | none => { neigh with lanPruneDelayPresent := false, secondaryAddressList := secondary }

/-- `neigh` of `process_pim_hello_packet`, and the list it is in. -/
def findOrCreateNeighbor (var : PimVar) (ifid : Nat) (src : IpAddress) : Nat × PimVar :=
  match findNeighbor var src with
  | some i => (i, var)
  | none => (var.neighborList.length, createAndAddNeighbor var ifid src)

def processPimHelloPacket (d : Device) (var : PimVar) (ifid : Nat) (src : IpAddress)
    (hello : List HelloOption) (dEventTime : ℚ) : Option PimVar :=
  let (i, var) := findOrCreateNeighbor var ifid src
  let timeout := dEventTime + neighborTime d hello
  let var :=
    if (var.neighborList[i]?).any Neighbor.isTimeoutAdded then var
    else addTimeoutEvent var timeout .neighborTimeout
  let heard := { var with neighborList := var.neighborList.modify i fun n => n.hear hello timeout }
  match electDR d heard ifid with
  | none => none
  | some elected =>
    (secondaryOfHello src hello).map fun secondary =>
      { elected with
        neighborList := elected.neighborList.modify i fun n => n.hearLan hello secondary }

def isBroadcastInterface (d : Device) (i : Nat) : Bool := d.nInterfaceType i ≠ .wanRouter

def isIamDR (d : Device) (var : PimVar) (i : Nat) : Bool :=
  if isBroadcastInterface d i then
    match var.dr i with
    | none => true
    | some dr => dr.same (d.nwAddress i)
  else true

end NetSim.Pim
