import NetSim.Lib.Run
import NetSim.Pim.Join

/-!
# The shared tree of a group

Routers with static routes towards the rendezvous points, in any order of IGMP joins, arriving
messages and timers. The tree has one join timer for each router as long as no join is taken up
while one is pending.
-/

namespace NetSim.Pim

open NetSim.Lib Function

/-! ## Networks -/

inductive UnicastPath (hop : Nat → Option Nat) (dest : Nat) : Nat → List Nat → Prop
  | here : UnicastPath hop dest dest [dest]
  | hop {v w : Nat} {path : List Nat} (hne : v ≠ dest) (hhop : hop v = some w)
      (path_w : UnicastPath hop dest w path) : UnicastPath hop dest v (v :: path)

/-- Routers that have exchanged hellos, with the groups of `PIM_Config.txt`. `nexthop` is
`pimroute_find_nexthop`. -/
structure JoinNetwork where
  device : Nat → Device
  learnt : Nat → PimVar
  groups : List (IpAddress × IpAddress)
  nexthop : Nat → IpAddress → Option IpAddress
  stationOf : IpAddress → Nat
  noJt : ∀ v t a, (t, .jt a) ∉ (learnt v).timers
  routed : ∀ e ∈ groups, ∀ v,
    ∃ path, UnicastPath (fun u => (nexthop u e.2).map stationOf) (stationOf e.2) v path

inductive Place
  | toward (router : Nat)
  | reached
  | lost
deriving DecidableEq

structure Journey where
  packet : JoinPacket
  visited : List Nat
  place : Place
deriving DecidableEq

/-- The routers and the joins. Kept besides: whether a router has crashed, the last joins heard, the
times of joins sent upstream, and every message built. -/
structure JoinState where
  routers : Nat → PimVar
  joins : List Journey
  crashed : Bool
  heard : Nat → Nat → Nat → Option (ℚ × UInt16)
  sends : Nat → Nat → List ℚ
  built : List (Nat × JoinMsg)

inductive JoinAction
  | igmp (v : Nat) (group : IpAddress) (time : ℚ)
  | arrive (k ifid : Nat) (time : ℚ)
  | timer (v : Nat) (eve : PimTimer) (time : ℚ)

namespace JoinNetwork

variable (net : JoinNetwork)

/-- The router that the next hop towards the address belongs to. -/
def hop (dest : IpAddress) (v : Nat) : Option Nat := (net.nexthop v dest).map net.stationOf

def start (v : Nat) : PimVar :=
  { net.learnt v with groupList := net.groups.map fun e => createGroup net.stationOf e.1 e.2 }

def init : JoinState := ⟨net.start, [], false, fun _ _ _ => none, fun _ _ => [], []⟩

/-- `NETWORK_OUT_EVENT`: a packet whose time to live is used up is dropped. -/
def networkOut (v : Nat) (packet : JoinPacket) : Place :=
  if packet.nTTL = 0 then .lost
  else
    match net.hop packet.szDestIP v with
    | some w => .toward w
    | none => .lost

end JoinNetwork

namespace JoinState

def logSend (s : JoinState) (v : Nat) (group : Nat) (time : ℚ) : Nat → Nat → List ℚ :=
  update s.sends v (update (s.sends v) group (s.sends v group ++ [time]))

def logHeard (s : JoinState) (v group ifid : Nat) (time : ℚ) (holdTime : UInt16) :
    Nat → Nat → Nat → Option (ℚ × UInt16) :=
  update s.heard v (update (s.heard v) group
    (update (s.heard v group) ifid (some (time, holdTime))))

def groupOf (packet : JoinPacket) : Nat := (packet.msg.maddr.map IpAddress.ip).getD 0

def setRouter (s : JoinState) (v : Nat) (var : PimVar) : JoinState :=
  { s with routers := update s.routers v var }

/-- Router `v` sends a join of its own. -/
def send (net : JoinNetwork) (s : JoinState) (v : Nat) (time : ℚ) (packet : JoinPacket) :
    JoinState :=
  { s with
    joins := s.joins ++ [⟨packet, [v], net.networkOut v packet⟩]
    sends := s.logSend v (groupOf packet) time
    built := s.built ++ [(v, packet.msg)] }

def asked (net : JoinNetwork) (s : JoinState) (v : Nat) (time : ℚ) :
    Option (PimVar × Option JoinPacket) → JoinState
  | none => { s with crashed := true }
  | some (var, none) => s.setRouter v var
  | some (var, some packet) => (s.setRouter v var).send net v time packet

/-- Join `k` has been taken up by router `w`. -/
def taken (s : JoinState) (k w : Nat) (journey : Journey) (packet : JoinPacket) (place : Place) :
    JoinState :=
  { s with joins := s.joins.set k ⟨packet, journey.visited ++ [w], place⟩ }

/-- Join `k` has arrived at router `w`. -/
def arrived (net : JoinNetwork) (s : JoinState) (k w ifid : Nat) (time : ℚ) (journey : Journey)
    (packet : JoinPacket) : Option (PimVar × Outcome) → JoinState
  | none => { s with crashed := true }
  | some (var, .rpNotMatched) => (s.setRouter w var).taken k w journey packet .lost
  | some (var, .atRP) =>
    { (s.setRouter w var).taken k w journey packet .reached with
      heard := s.logHeard w (groupOf packet) ifid time packet.msg.holdTime }
  | some (var, .forwarded packet') =>
    { (s.setRouter w var).taken k w journey packet' (net.networkOut w packet') with
      heard := s.logHeard w (groupOf packet) ifid time packet.msg.holdTime
      sends := s.logSend w (groupOf packet') time
      built := s.built ++ [(w, packet'.msg)] }

end JoinState

namespace JoinNetwork

variable (net : JoinNetwork)

/-- `NETWORK_IN_EVENT` decreases the time to live. -/
def networkIn (packet : JoinPacket) : JoinPacket := { packet with nTTL := packet.nTTL - 1 }

def step (s : JoinState) : JoinAction → Option JoinState
  | .igmp v group time =>
    if s.crashed then none
    else some (s.asked net v time
      (pimJoinGroup (net.device v) (net.nexthop v) v (s.routers v) time group))
  | .arrive k ifid time =>
    if s.crashed then none
    else
      match s.joins[k]? with
      | none => none
      | some journey =>
        match journey.place with
        | .toward w =>
          if ifid = 0 ∨ (net.device w).nNumOfInterface < ifid then none
          else
            let packet := networkIn journey.packet
            some (s.arrived net k w ifid time journey packet
              (pimProcessJoin (net.device w) (net.nexthop w) w (s.routers w) ifid time packet))
        | _ => none
  | .timer v eve time =>
    if s.crashed then none
    else if (time, eve) ∈ (s.routers v).timers then
      let var := { s.routers v with timers := (s.routers v).timers.erase (time, eve) }
      some (s.asked net v time
        (pimHandleTimerEvent (net.device v) (net.nexthop v) var time eve))
    else none

end JoinNetwork

/-! ## What should hold -/

def jtPending (var : PimVar) (group : Nat) : List ℚ :=
  var.timers.filterMap fun x =>
    match x.2 with
    | .jt a => if a.ip = group then some x.1 else none
    | _ => none

/-- How often join `k` has arrived at a router. -/
def arrivals (k : Nat) (tr : List (JoinState × JoinAction)) : Nat :=
  tr.countP fun x =>
    match x.2 with
    | .arrive k' _ _ => k' = k
    | _ => false

section Specification

variable (net : JoinNetwork)

/-- After `n` arrivals the join has passed the first routers of the path to the rendezvous point,
and is on its way to the next one, if any. -/
def Travels (n : Nat) (j : Journey) : Prop :=
  ∃ v path, UnicastPath (net.hop j.packet.szDestIP) (net.stationOf j.packet.szDestIP) v path ∧
    n < path.length ∧ j.visited = path.take (n + 1) ∧
    j.place = match path[n + 1]? with
      | some w => .toward w
      | none => .reached

/-- The interface is in the forwarding list and in the join state as the last join heard on it says.
-/
def Listed (g : Group) (i : Nat) : Option (ℚ × UInt16) → Prop
  | none => i ∉ g.ifid ∧ g.jpState i = none
  | some (time, holdTime) =>
    g.ifid.count i = 1 ∧ g.jpState i = some ⟨.j, time + holdTime.toNat * second⟩

/-- Each group once, with the counts of what is there, and the address of the neighbor upstream. -/
def WellFormed (v : Nat) (msg : JoinMsg) : Prop :=
  ∃ es : List MsgGroup, msg.groups = es.map .entry ∧
    (es.map fun e => e.multicastAddr.ip).Nodup ∧ msg.numGroups.toNat = es.length ∧
    (∀ e ∈ es, e.numJoinedSource.toNat = e.joinedSourceAddr.length) ∧
    ∀ e ∈ es, ∃ g neighbor, pimFindGroup (net.start v) e.multicastAddr = some g ∧
      pimjoinFindNeighbor (net.nexthop v) (net.start v) g.rp = some neighbor ∧
      msg.unicastAddr = some neighbor.neighborAddr

/-- No crash, every join on its way, the forwarding lists, one join timer for each router on the
tree and one join sent at each expiry. -/
structure SharedTree (tr : List (JoinState × JoinAction)) (s : JoinState) : Prop where
  alive : s.crashed = false
  travels : ∀ k j, s.joins[k]? = some j → Travels net (arrivals k tr) j
  lists : ∀ v a g, pimFindGroup (s.routers v) a = some g → ∀ i, Listed g i (s.heard v a.ip i)
  onTree : ∀ v a g, pimFindGroup (s.routers v) a = some g → v ≠ g.rpId → g.ifid ≠ [] →
    s.sends v a.ip ≠ []
  timers : ∀ v group, jtPending (s.routers v) group =
    match (s.sends v group).getLast? with
    | some time => [time + (net.device v).tPeriodic]
    | none => []
  periodic : ∀ v group,
    (s.sends v group).IsChain fun t t' => t' = t + (net.device v).tPeriodic
  messages : ∀ x ∈ s.built, WellFormed net x.1 x.2

def BuildsSharedTrees : Prop := ∀ tr s, Run net.step net.init tr s → SharedTree net tr s

/-- A router that takes up a join, but the rendezvous point, has no join timer of the group, its
next hop is a PIM neighbor, and the time to live is not used up. -/
def Meets (s : JoinState) : JoinAction → Prop
  | .igmp v group _ =>
    isReservedGroup group = false → ∀ g, pimFindGroup (s.routers v) group = some g → v ≠ g.rpId →
      jtPending (s.routers v) group.ip = [] ∧
        pimjoinFindNeighbor (net.nexthop v) (s.routers v) g.rp ≠ none
  | .arrive k _ _ =>
    ∀ j w a g, s.joins[k]? = some j → j.place = .toward w → j.packet.msg.maddr = some a →
      pimFindGroup (s.routers w) a = some g → w ≠ g.rpId →
        jtPending (s.routers w) a.ip = [] ∧
          pimjoinFindNeighbor (net.nexthop w) (s.routers w) g.rp ≠ none ∧ j.packet.nTTL ≠ 1
  | .timer _ _ _ => True

end Specification

end NetSim.Pim
