import NetSim.Lib.KeyedList
import NetSim.Pim.Neighbor

/-!
# Join messages (`PIM_Join.c`, `PIM_Group.c`, and the timers of `PIM_SM.c`)

A router that has a member sends a join towards the rendezvous point; every router on the way takes
it up, writes itself into it and sends it on. `none` is a read of a slot or through a pointer that
is not set.
-/

namespace NetSim.Pim

open NetSim.Lib

/-! ## Data -/

structure MsgGroup where
  multicastAddr : IpAddress
  numJoinedSource : UInt32
  joinedSourceAddr : List IpAddress
deriving DecidableEq

/-- A slot of the array `groups`: as `realloc` leaves it, as `calloc` leaves it, or written. -/
inductive Slot
  | unwritten
  | null
  | entry (g : MsgGroup)
deriving DecidableEq

/-- `PIM_JOINPRUNE_MSG`. The array is empty until it is allocated. -/
structure JoinMsg where
  unicastAddr : Option IpAddress
  numGroups : UInt8
  holdTime : UInt16
  groups : List Slot
deriving DecidableEq

structure JoinPacket where
  szDestIP : IpAddress
  nTTL : UInt8
  msg : JoinMsg
deriving DecidableEq

def maxTTL : UInt8 := 255

def allocPimJoinprune : JoinMsg := ⟨none, 0, 0, []⟩

def createPimJoinprune (group : Group) : JoinPacket := ⟨group.rp, maxTTL, allocPimJoinprune⟩

/-! ## `PIM_Group.c` -/

/-- What `IP_COMPARE` compares of a group. -/
def Group.ip (g : Group) : Nat := g.groupAddress.ip

def pimFindGroup (var : PimVar) (addr : IpAddress) : Option Group :=
  lookup Group.ip addr.ip var.groupList

/-- A change of the group that `pim_find_group` returns. -/
def modifyGroup (var : PimVar) (addr : IpAddress) (f : Group → Group) : PimVar :=
  { var with groupList := modifyFirst Group.ip addr.ip f var.groupList }

/-- `create_group`, where `stationOf` is `fn_NetSim_Stack_GetDeviceId_asIP`. -/
def createGroup (stationOf : IpAddress → Nat) (addr rp : IpAddress) : Group where
  groupAddress := addr
  rp := rp
  rpId := stationOf rp
  jpState := fun _ => none
  ifid := []

def pimAddInterfaceToGroup (i : Nat) (g : Group) : Group :=
  if i ∈ g.ifid then g else { g with ifid := g.ifid ++ [i] }

/-! ## Building a message -/

/-- `holdTime` as `pim_join_add_group` computes it. -/
def joinHoldTime (d : Device) : UInt16 := .ofNat ⌊7 / 2 * (d.tPeriodic / second)⌋.toNat

/-- `pim_join_add_group_member`: the slot, resized for the router as one more source. -/
def pimJoinAddGroupMember (d : Device) (groupAddr : IpAddress) : Slot → Option MsgGroup
  | .unwritten => none
  | .null => some ⟨groupAddr, 1, [d.nwAddress 1]⟩
  | .entry msg =>
    some { msg with
      numJoinedSource := msg.numJoinedSource + 1
      joinedSourceAddr :=
        msg.joinedSourceAddr.take msg.numJoinedSource.toNat ++ [d.nwAddress 1] }

/-- `jP_find_groups` over the first `n` slots: the place of the group, if it is there. -/
def jpFindGroups (m : IpAddress) : Nat → List Slot → Option (Option Nat)
  | 0, _ => some none
  | n + 1, .entry g :: l =>
    if g.multicastAddr.same m then some (some 0) else (jpFindGroups m n l).map (·.map (· + 1))
  | _ + 1, _ => none

/-- One more slot: `calloc` for the first, `realloc` for the others. -/
def moreSlots (jp : JoinMsg) : List Slot :=
  if jp.groups = [] then [.null] else jp.groups.take jp.numGroups.toNat ++ [.unwritten]

/-- `jp->groups[i] = pim_join_add_group_member(...)`. -/
def writeSlot (d : Device) (groupAddr : IpAddress) (jp : JoinMsg) (i : Nat) : Option JoinMsg :=
  (jp.groups[i]?).bind fun slot =>
    (pimJoinAddGroupMember d groupAddr slot).map fun msg =>
      { jp with groups := jp.groups.set i (.entry msg) }

/-- `pim_join_add_group` of a packet that has a message. -/
def pimJoinAddGroup (d : Device) (msg : JoinMsg) (group : Group) (neighbor : Neighbor) :
    Option JoinMsg :=
  let jp := { msg with
    holdTime := joinHoldTime d
    unicastAddr := some neighbor.neighborAddr }
  match jpFindGroups group.groupAddress jp.numGroups.toNat jp.groups with
  | none => none
  | some (some i) => writeSlot d group.groupAddress jp i
  | some none =>
    let jp := { jp with groups := moreSlots jp, numGroups := jp.numGroups + 1 }
    -- `i = jp->numGroups - 1`, an unsigned number
    writeSlot d group.groupAddress jp ((jp.numGroups.toNat + (2 ^ 32 - 1)) % 2 ^ 32)

/-! ## Sending -/

/-- `pimjoin_find_neighbor`, where `nexthop` is `pimroute_find_nexthop` of the router. -/
def pimjoinFindNeighbor (nexthop : IpAddress → Option IpAddress) (var : PimVar) (rp : IpAddress) :
    Option Neighbor :=
  (nexthop rp).bind fun a => (findNeighbor var a).bind fun i => var.neighborList[i]?

/-- `pim_send_joinprune` and `pim_forward_join`: the message is sent, and the next one is due after
`t_periodic`. -/
def sendJoin (d : Device) (nexthop : IpAddress → Option IpAddress) (var : PimVar) (time : ℚ)
    (group : Group) (packet : JoinPacket) : Option (PimVar × JoinPacket) :=
  (pimjoinFindNeighbor nexthop var group.rp).bind fun neighbor =>
    (pimJoinAddGroup d packet.msg group neighbor).map fun msg =>
      (addTimeoutEvent var (time + d.tPeriodic) (.jt group.groupAddress), { packet with msg := msg })

def pimSendJoinprune (d : Device) (nexthop : IpAddress → Option IpAddress) (var : PimVar) (time : ℚ)
    (group : Group) : Option (PimVar × JoinPacket) :=
  sendJoin d nexthop var time group (createPimJoinprune group)

/-- `msg->groups[0]->multicastAddr->GroupMulticastAddr`. -/
def JoinMsg.maddr (msg : JoinMsg) : Option IpAddress :=
  match msg.groups with
  | .entry g :: _ => some g.multicastAddr
  | _ => none

def pimForwardJoin (d : Device) (nexthop : IpAddress → Option IpAddress) (var : PimVar) (time : ℚ)
    (packet : JoinPacket) : Option (PimVar × JoinPacket) :=
  packet.msg.maddr.bind fun maddr =>
    (pimFindGroup var maddr).bind fun g => sendJoin d nexthop var time g packet

/-! ## Receiving -/

/-- `get_Pim_jp_state`: the state of the interface, zeroed at its first use. -/
def getPimJpState (i : Nat) (g : Group) : JPState := (g.jpState i).getD ⟨.ni, 0⟩

/-- What `pim_process_join` writes to the state of the interface. -/
def joinState (et : ℚ) (state : JPState) : JPState :=
  if state.state = .ni then ⟨.j, et⟩ else { state with et := et }

/-- What `pim_process_join` writes to the group. -/
def joinGroup (i : Nat) (et : ℚ) (g : Group) : Group :=
  pimAddInterfaceToGroup i
    { g with jpState := Function.update g.jpState i (some (joinState et (getPimJpState i g))) }

def addExpiryTimer (i : Nat) (et : ℚ) (g : Group) (var : PimVar) : PimVar :=
  if (getPimJpState i g).state = .ni then addTimeoutEvent var et (.et g.groupAddress) else var

/-- `pim_process_join` of a packet whose rendezvous point is that of the group, up to the test
`amIRP`. -/
def acceptJoin (var : PimVar) (i : Nat) (time : ℚ) (g : Group) (holdTime : UInt16) : PimVar :=
  let et := time + holdTime.toNat * second
  modifyGroup (addExpiryTimer i et g var) g.groupAddress (joinGroup i et)

/-- What becomes of a packet. -/
inductive Outcome
  | rpNotMatched
  | atRP
  | forwarded (packet : JoinPacket)
deriving DecidableEq

/-- `pim_process_join` at router `v`. -/
def pimProcessJoin (d : Device) (nexthop : IpAddress → Option IpAddress) (v : Nat) (var : PimVar)
    (i : Nat) (time : ℚ) (packet : JoinPacket) : Option (PimVar × Outcome) :=
  packet.msg.maddr.bind fun maddr =>
    (pimFindGroup var maddr).bind fun g =>
      if g.rp.same packet.szDestIP then
        let var := acceptJoin var i time g packet.msg.holdTime
        if g.rpId = v then some (var, .atRP)
        else (pimForwardJoin d nexthop var time packet).map fun r => (r.1, .forwarded r.2)
      else some (var, .rpNotMatched)

/-- `isReservedGroup`: 224.0.0.0 and 224.0.0.1. -/
def isReservedGroup (addr : IpAddress) : Bool :=
  addr.ip = 224 * 2 ^ 24 || addr.ip = 224 * 2 ^ 24 + 1

/-- `pim_join_group` at router `v`, called when IGMP has learnt of a member. -/
def pimJoinGroup (d : Device) (nexthop : IpAddress → Option IpAddress) (v : Nat) (var : PimVar)
    (time : ℚ) (group : IpAddress) : Option (PimVar × Option JoinPacket) :=
  if isReservedGroup group then some (var, none)
  else
    match pimFindGroup var group with
    | none => some (var, none)
    | some gr =>
      if v = gr.rpId then some (var, none)
      else (pimSendJoinprune d nexthop var time gr).map fun r => (r.1, some r.2)

/-- `pim_handle_timer_event`, with the join that is sent. -/
def pimHandleTimerEvent (d : Device) (nexthop : IpAddress → Option IpAddress) (var : PimVar)
    (time : ℚ) : PimTimer → Option (PimVar × Option JoinPacket)
  | .jt gAddr =>
    (pimFindGroup var gAddr).bind fun group =>
      (pimSendJoinprune d nexthop var time group).map fun r => (r.1, some r.2)
  | .sendHello =>
    some (addTimeoutEvent var (time + d.helloPeriod + d.helloPeriod) .sendHello, none)
  | .et _ | .neighborTimeout => some (var, none)

/-! ## What the functions do -/

section Functions

variable {d : Device} {var : PimVar} {g : Group} {a : IpAddress} {neighbor : Neighbor} {i : Nat}
  {time et : ℚ} {nexthop : IpAddress → Option IpAddress} {packet packet' : JoinPacket} {e : MsgGroup}

@[simp] theorem addTimeoutEvent_groupList (eve : PimTimer) :
    (addTimeoutEvent var time eve).groupList = var.groupList := rfl

@[simp] theorem addTimeoutEvent_neighborList (eve : PimTimer) :
    (addTimeoutEvent var time eve).neighborList = var.neighborList := rfl

theorem pimJoinAddGroup_alloc :
    pimJoinAddGroup d allocPimJoinprune g neighbor =
      some ⟨some neighbor.neighborAddr, 1, joinHoldTime d,
        [.entry ⟨g.groupAddress, 1, [d.nwAddress 1]⟩]⟩ := by
  have hfind : jpFindGroups g.groupAddress (0 : UInt8).toNat [] = some none := rfl
  have hlast : (((0 : UInt8) + 1).toNat + (2 ^ 32 - 1)) % 2 ^ 32 = 0 := by decide
  unfold pimJoinAddGroup allocPimJoinprune
  dsimp only
  rw [hfind]
  rw [hlast]
  rfl

theorem pimJoinAddGroup_extend {msg : JoinMsg} (hgroups : msg.groups = [.entry e])
    (hnum : msg.numGroups = 1) (hip : e.multicastAddr.ip = g.ip) :
    pimJoinAddGroup d msg g neighbor =
      some ⟨some neighbor.neighborAddr, 1, joinHoldTime d,
        [.entry { e with
          numJoinedSource := e.numJoinedSource + 1
          joinedSourceAddr :=
            e.joinedSourceAddr.take e.numJoinedSource.toNat ++ [d.nwAddress 1] }]⟩ := by
  have hsame : e.multicastAddr.same g.groupAddress = true := decide_eq_true hip
  have hfind : jpFindGroups g.groupAddress msg.numGroups.toNat msg.groups = some (some 0) := by
    rw [hgroups, hnum]
    exact if_pos hsame
  unfold pimJoinAddGroup
  dsimp only
  rw [hfind]
  simp only [writeSlot, hgroups, hnum, pimJoinAddGroupMember, List.getElem?_cons_zero,
    Option.bind_some, Option.map_some, List.set_cons_zero]

theorem sendJoin_eq {msg : JoinMsg} (hn : pimjoinFindNeighbor nexthop var g.rp = some neighbor)
    (hmsg : pimJoinAddGroup d packet.msg g neighbor = some msg) :
    sendJoin d nexthop var time g packet =
      some (addTimeoutEvent var (time + d.tPeriodic) (.jt g.groupAddress),
        { packet with msg := msg }) := by
  unfold sendJoin
  rw [hn, Option.bind_some, hmsg, Option.map_some]

theorem sendJoin_spec {var' : PimVar}
    (h : sendJoin d nexthop var time g packet = some (var', packet')) :
    pimjoinFindNeighbor nexthop var g.rp ≠ none ∧
      var' = addTimeoutEvent var (time + d.tPeriodic) (.jt g.groupAddress) ∧
      packet'.nTTL = packet.nTTL := by
  obtain ⟨neighbor, hn, h⟩ := Option.bind_eq_some_iff.1 h
  obtain ⟨msg, -, h⟩ := Option.map_eq_some_iff.1 h
  rw [Prod.mk.injEq] at h
  refine ⟨?_, h.1.symm, ?_⟩
  · rw [hn]
    exact Option.some_ne_none _
  · rw [← h.2]

theorem pimFindGroup_some (h : pimFindGroup var a = some g) : g.ip = a.ip := (lookup_some h).2

@[simp] theorem pimFindGroup_addTimeoutEvent (eve : PimTimer) :
    pimFindGroup (addTimeoutEvent var time eve) a = pimFindGroup var a := rfl

@[simp] theorem joinGroup_ip : (joinGroup i et g).ip = g.ip := by
  unfold joinGroup pimAddInterfaceToGroup
  split <;> rfl

@[simp] theorem addExpiryTimer_groupList : (addExpiryTimer i et g var).groupList = var.groupList := by
  unfold addExpiryTimer
  split <;> rfl

@[simp] theorem addExpiryTimer_neighborList :
    (addExpiryTimer i et g var).neighborList = var.neighborList := by
  unfold addExpiryTimer
  split <;> rfl

@[simp] theorem acceptJoin_neighborList (holdTime : UInt16) :
    (acceptJoin var i time g holdTime).neighborList = var.neighborList := addExpiryTimer_neighborList

@[simp] theorem acceptJoin_timers (holdTime : UInt16) :
    (acceptJoin var i time g holdTime).timers =
      (addExpiryTimer i (time + holdTime.toNat * second) g var).timers := rfl

theorem pimFindGroup_acceptJoin (h : pimFindGroup var a = some g) (holdTime : UInt16)
    (b : IpAddress) :
    pimFindGroup (acceptJoin var i time g holdTime) b =
      if b.ip = a.ip then some (joinGroup i (time + holdTime.toNat * second) g)
      else pimFindGroup var b := by
  have hip : g.groupAddress.ip = a.ip := pimFindGroup_some h
  unfold pimFindGroup at h ⊢
  unfold acceptJoin modifyGroup
  dsimp only
  rw [addExpiryTimer_groupList, hip, lookup_modifyFirst fun _ => joinGroup_ip, h, Option.map_some]

theorem pimjoinFindNeighbor_congr {var' : PimVar} (h : var'.neighborList = var.neighborList) :
    pimjoinFindNeighbor nexthop var' = pimjoinFindNeighbor nexthop var := by
  funext rp
  unfold pimjoinFindNeighbor findNeighbor
  rw [h]

end Functions

end NetSim.Pim
