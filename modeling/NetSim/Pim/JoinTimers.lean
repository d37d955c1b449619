import NetSim.Pim.SharedTree

/-!
# One join timer for each router on the tree

What a join does to one router (`RouterOk`) and to the join itself (`JourneyOk`), as long as no
router takes up a join while its timer is pending.
-/

namespace NetSim.Pim

open NetSim.Lib Function

/-! ## The pending join timers -/

section Pending

variable {var var' : PimVar} {group i : Nat} {a : IpAddress} {t time : ℚ} {eve : PimTimer}
  {g : Group}

def jtTime (group : Nat) (x : ℚ × PimTimer) : Option ℚ :=
  match x.2 with
  | .jt a => if a.ip = group then some x.1 else none
  | _ => none

theorem jtPending_eq (var : PimVar) (group : Nat) :
    jtPending var group = var.timers.filterMap (jtTime group) := rfl

theorem jtTime_jt : jtTime group (t, .jt a) = if a.ip = group then some t else none := rfl

theorem jtPending_addTimeoutEvent :
    jtPending (addTimeoutEvent var t eve) group =
      jtPending var group ++ (jtTime group (t, eve)).toList := by
  rw [jtPending_eq, jtPending_eq]
  unfold addTimeoutEvent
  rw [List.filterMap_append]
  cases h : jtTime group (t, eve) with
  | none => rw [List.filterMap_cons_none h]; rfl
  | some u => rw [List.filterMap_cons_some h]; rfl

variable (group) in
theorem jtPending_perm (h : (t, eve) ∈ var.timers) :
    (jtPending var group).Perm ((jtTime group (t, eve)).toList ++
      jtPending { var with timers := var.timers.erase (t, eve) } group) := by
  have hperm := (List.perm_cons_erase h).filterMap (jtTime group)
  rw [jtPending_eq, jtPending_eq]
  cases ht : jtTime group (t, eve) with
  | none =>
    rw [List.filterMap_cons_none ht] at hperm
    exact hperm
  | some u =>
    rw [List.filterMap_cons_some ht] at hperm
    exact hperm

theorem jtPending_addExpiryTimer :
    jtPending (addExpiryTimer i t g var) group = jtPending var group := by
  unfold addExpiryTimer
  split
  · exact jtPending_addTimeoutEvent.trans (List.append_nil _)
  · rfl

theorem jtPending_acceptJoin (holdTime : UInt16) :
    jtPending (acceptJoin var i time g holdTime) group = jtPending var group :=
  jtPending_addExpiryTimer

theorem mem_timers_acceptJoin {holdTime : UInt16}
    (h : (t, .jt a) ∈ (acceptJoin var i time g holdTime).timers) : (t, .jt a) ∈ var.timers := by
  rw [acceptJoin_timers] at h
  unfold addExpiryTimer at h
  split at h
  · rcases List.mem_append.1 h with h | h
    · exact h
    · cases List.mem_singleton.1 h
  · exact h

end Pending

/-! ## Groups -/

def Group.bare (g : Group) : Group := { g with jpState := fun _ => none, ifid := [] }

def JoinNetwork.groupList (net : JoinNetwork) : List Group :=
  net.groups.map fun e => createGroup net.stationOf e.1 e.2

section Groups

variable {net : JoinNetwork} {var : PimVar} {a b : IpAddress} {g : Group} {i v : Nat} {et time : ℚ}
  {holdTime : UInt16}

/-- The groups are those of `PIM_Config.txt`. -/
def Configured (net : JoinNetwork) (var : PimVar) : Prop :=
  var.groupList.map Group.bare = net.groupList

theorem configured_start (v : Nat) : Configured net (net.start v) := by
  change (net.groupList).map Group.bare = net.groupList
  unfold JoinNetwork.groupList
  rw [List.map_map]
  rfl

theorem pimFindGroup_start (v : Nat) (a : IpAddress) :
    pimFindGroup (net.start v) a = lookup Group.ip a.ip net.groupList := rfl

theorem Configured.find (h : Configured net var) (a : IpAddress) (v : Nat) :
    pimFindGroup (net.start v) a = (pimFindGroup var a).map Group.bare := by
  rw [pimFindGroup_start, ← h]
  exact lookup_map fun _ => rfl

theorem Configured.acceptJoin (h : Configured net var) :
    Configured net (acceptJoin var i time g holdTime) := by
  unfold Configured at h ⊢
  unfold Pim.acceptJoin modifyGroup
  rw [map_modifyFirst, addExpiryTimer_groupList, h]
  intro g
  unfold joinGroup pimAddInterfaceToGroup
  split <;> rfl

theorem mem_groups (h : pimFindGroup (net.start v) a = some g) :
    ∃ e ∈ net.groups, g = createGroup net.stationOf e.1 e.2 := by
  obtain ⟨e, he, hg⟩ := List.mem_map.1 (lookup_some h).1
  exact ⟨e, he, hg.symm⟩

theorem listed_joinGroup {h : Nat → Option (ℚ × UInt16)} (hg : ∀ i, Listed g i (h i)) (ifid : Nat) :
    ∀ i, Listed (joinGroup ifid (time + holdTime.toNat * second) g) i
      (update h ifid (some (time, holdTime)) i) := by
  intro i
  have hjp : (joinGroup ifid (time + holdTime.toNat * second) g).jpState =
      update g.jpState ifid
        (some (joinState (time + holdTime.toNat * second) (getPimJpState ifid g))) := by
    unfold joinGroup pimAddInterfaceToGroup
    split <;> rfl
  have hif : (joinGroup ifid (time + holdTime.toNat * second) g).ifid =
      if ifid ∈ g.ifid then g.ifid else g.ifid ++ [ifid] := by
    unfold joinGroup pimAddInterfaceToGroup
    split <;> rfl
  by_cases hi : i = ifid
  · subst hi
    rw [update_self]
    constructor
    · rw [hif]
      have hgi := hg i
      cases hhi : h i with
      | none =>
        rw [hhi] at hgi
        rw [if_neg hgi.1, List.count_append, List.count_eq_zero.2 hgi.1, List.count_singleton_self]
      | some x =>
        rw [hhi] at hgi
        have hmem : i ∈ g.ifid := List.count_pos_iff.1 (by rw [hgi.1]; exact Nat.one_pos)
        rw [if_pos hmem]
        exact hgi.1
    · rw [hjp, update_self]
      have hgi := hg i
      unfold joinState getPimJpState
      cases hhi : h i with
      | none =>
        rw [hhi] at hgi
        rw [hgi.2]
        rfl
      | some x =>
        rw [hhi] at hgi
        rw [hgi.2]
        rfl
  · rw [update_of_ne hi]
    have hcount : (joinGroup ifid (time + holdTime.toNat * second) g).ifid.count i =
        g.ifid.count i := by
      rw [hif]
      split
      · rfl
      · rw [List.count_append, List.count_singleton, if_neg (by simpa using Ne.symm hi), Nat.add_zero]
    have hstate : (joinGroup ifid (time + holdTime.toNat * second) g).jpState i = g.jpState i := by
      rw [hjp, update_of_ne hi]
    have hgi := hg i
    cases hhi : h i with
    | none =>
      rw [hhi] at hgi
      exact ⟨List.count_eq_zero.1 (hcount.trans (List.count_eq_zero.2 hgi.1)), hstate.trans hgi.2⟩
    | some x =>
      rw [hhi] at hgi
      exact ⟨hcount.trans hgi.1, hstate.trans hgi.2⟩

end Groups

/-! ## One router -/

structure RouterOk (net : JoinNetwork) (v : Nat) (var : PimVar)
    (heard : Nat → Nat → Option (ℚ × UInt16)) (sends : Nat → List ℚ) : Prop where
  neighbors : var.neighborList = (net.start v).neighborList
  groups : Configured net var
  lists : ∀ a g, pimFindGroup var a = some g → ∀ i, Listed g i (heard a.ip i)
  timers : ∀ group, jtPending var group =
    match (sends group).getLast? with
    | some time => [time + (net.device v).tPeriodic]
    | none => []
  periodic : ∀ group, (sends group).IsChain fun t t' => t' = t + (net.device v).tPeriodic
  armed : ∀ t a, (t, .jt a) ∈ var.timers →
    ∃ g, pimFindGroup (net.start v) a = some g ∧ v ≠ g.rpId ∧
      pimjoinFindNeighbor (net.nexthop v) (net.start v) g.rp ≠ none

def OnTree (v : Nat) (var : PimVar) (sends : Nat → List ℚ) : Prop :=
  ∀ a g, pimFindGroup var a = some g → v ≠ g.rpId → g.ifid ≠ [] → sends a.ip ≠ []

namespace RouterOk

variable {net : JoinNetwork} {v i : Nat} {var var' : PimVar}
  {heard : Nat → Nat → Option (ℚ × UInt16)} {sends : Nat → List ℚ} {a : IpAddress} {g : Group}
  {t time : ℚ}

theorem start (v : Nat) : RouterOk net v (net.start v) (fun _ _ => none) fun _ => [] where
  neighbors := rfl
  groups := configured_start v
  lists a g hg i := by
    obtain ⟨e, -, rfl⟩ := mem_groups hg
    exact ⟨List.not_mem_nil, rfl⟩
  timers group := by
    rw [jtPending_eq, List.filterMap_eq_nil_iff.2]
    · rfl
    · rintro ⟨t, eve⟩ hmem
      cases eve with
      | jt a => exact (net.noJt v t a hmem).elim
      | _ => rfl
  periodic _ := List.isChain_nil
  armed t a hmem := (net.noJt v t a hmem).elim

section

variable (h : RouterOk net v var heard sends)

include h

theorem find_start (hg : pimFindGroup var a = some g) (w : Nat) :
    pimFindGroup (net.start w) a = some g.bare := by
  rw [h.groups.find a w, hg, Option.map_some]

theorem neighbor_eq :
    pimjoinFindNeighbor (net.nexthop v) var = pimjoinFindNeighbor (net.nexthop v) (net.start v) :=
  pimjoinFindNeighbor_congr h.neighbors

theorem tick (hgroups : var'.groupList = var.groupList)
    (hneighbors : var'.neighborList = var.neighborList)
    (hpending : ∀ group, jtPending var' group = jtPending var group)
    (htimers : ∀ t a, (t, .jt a) ∈ var'.timers → (t, .jt a) ∈ var.timers) :
    RouterOk net v var' heard sends where
  neighbors := hneighbors.trans h.neighbors
  groups := by
    unfold Configured
    rw [hgroups]
    exact h.groups
  lists a g hg := by
    unfold pimFindGroup at hg
    rw [hgroups] at hg
    exact h.lists a g hg
  timers group := (hpending group).trans (h.timers group)
  periodic := h.periodic
  armed t a hmem := h.armed t a (htimers t a hmem)

theorem hear (hg : pimFindGroup var a = some g) (i : Nat) (time : ℚ) (holdTime : UInt16) :
    RouterOk net v (acceptJoin var i time g holdTime)
      (update heard a.ip (update (heard a.ip) i (some (time, holdTime)))) sends where
  neighbors := (acceptJoin_neighborList holdTime).trans h.neighbors
  groups := h.groups.acceptJoin
  lists b g' hg' := by
    rw [pimFindGroup_acceptJoin hg] at hg'
    split at hg'
    · next hba =>
      obtain rfl := Option.some.inj hg'
      rw [hba, update_self]
      exact listed_joinGroup (h.lists a g hg) i
    · next hba =>
      rw [update_of_ne hba]
      exact h.lists b g' hg'
  timers group := (jtPending_acceptJoin holdTime).trans (h.timers group)
  periodic := h.periodic
  armed t b hmem := h.armed t b (mem_timers_acceptJoin hmem)

theorem rearm (hgroups : var'.groupList = var.groupList)
    (hneighbors : var'.neighborList = var.neighborList) (hg : pimFindGroup var a = some g)
    (hv : v ≠ g.rpId) (hn : pimjoinFindNeighbor (net.nexthop v) var g.rp ≠ none)
    (hnone : jtPending var' a.ip = [])
    (hpending : ∀ group, group ≠ a.ip → jtPending var' group = jtPending var group)
    (htimers : ∀ t a, (t, .jt a) ∈ var'.timers → (t, .jt a) ∈ var.timers)
    (htime : ∀ t, (sends a.ip).getLast? = some t → time = t + (net.device v).tPeriodic) :
    RouterOk net v
      (addTimeoutEvent var' (time + (net.device v).tPeriodic) (.jt g.groupAddress)) heard
      (update sends a.ip (sends a.ip ++ [time])) where
  neighbors := hneighbors.trans h.neighbors
  groups := by
    unfold Configured
    rw [addTimeoutEvent_groupList, hgroups]
    exact h.groups
  lists b g' hg' := by
    unfold pimFindGroup at hg'
    rw [addTimeoutEvent_groupList, hgroups] at hg'
    exact h.lists b g' hg'
  timers group := by
    have hip : g.groupAddress.ip = a.ip := pimFindGroup_some hg
    rw [jtPending_addTimeoutEvent, jtTime_jt, hip]
    by_cases hgroup : group = a.ip
    · subst hgroup
      rw [update_self, List.getLast?_concat, hnone, if_pos rfl]
      rfl
    · rw [update_of_ne hgroup, hpending group hgroup, h.timers group,
        if_neg (Ne.symm hgroup)]
      exact List.append_nil _
  periodic group := by
    by_cases hgroup : group = a.ip
    · subst hgroup
      rw [update_self, List.isChain_append]
      refine ⟨h.periodic _, List.isChain_singleton _, ?_⟩
      intro t ht t' ht'
      obtain rfl : time = t' := by simpa using ht'
      exact htime t ht
    · rw [update_of_ne hgroup]
      exact h.periodic group
  armed t b hmem := by
    rcases List.mem_append.1 hmem with hmem | hmem
    · exact h.armed t b (htimers t b hmem)
    · obtain ⟨rfl, hb⟩ := Prod.mk.inj (List.mem_singleton.1 hmem)
      obtain rfl := PimTimer.jt.inj hb
      have hip : g.groupAddress.ip = a.ip := pimFindGroup_some hg
      refine ⟨g.bare, ?_, hv, ?_⟩
      · have hfind := h.find_start hg v
        unfold pimFindGroup at hfind ⊢
        rw [hip]
        exact hfind
      · rw [← h.neighbor_eq]
        exact hn

theorem length_le (group : Nat) : (jtPending var group).length ≤ 1 := by
  rw [h.timers group]
  split
  · exact Nat.le_refl 1
  · exact Nat.zero_le 1

theorem expire_other {eve : PimTimer}
    (hmem : (time, eve) ∈ var.timers) {group : Nat} (hne : jtTime group (time, eve) = none) :
    jtPending { var with timers := var.timers.erase (time, eve) } group = jtPending var group := by
  have hperm := jtPending_perm group hmem
  rw [hne] at hperm
  have hle := h.length_le group
  cases hl : jtPending var group with
  | nil =>
    rw [hl] at hperm
    exact hperm.symm.eq_nil
  | cons t l =>
    rw [hl] at hperm hle
    obtain rfl : l = [] := List.eq_nil_of_length_eq_zero (Nat.le_zero.1 (Nat.le_of_succ_le_succ hle))
    exact List.perm_singleton.1 hperm.symm

theorem expire (hmem : (time, .jt a) ∈ var.timers) :
    jtPending { var with timers := var.timers.erase (time, .jt a) } a.ip = [] ∧
      ∀ t, (sends a.ip).getLast? = some t → time = t + (net.device v).tPeriodic := by
  have hperm := jtPending_perm a.ip hmem
  rw [jtTime_jt, if_pos rfl, h.timers] at hperm
  cases hlast : (sends a.ip).getLast? with
  | none =>
    rw [hlast] at hperm
    cases hperm.symm.eq_nil
  | some t =>
    rw [hlast] at hperm
    have hcons := List.perm_singleton.1 hperm.symm
    obtain ⟨htime, hnil⟩ := List.cons.inj hcons
    refine ⟨hnil, fun t' ht' => ?_⟩
    rw [← Option.some.inj ht']
    exact htime

end

end RouterOk

/-! ## One join -/

theorem UnicastPath.next {hop : Nat → Option Nat} {dest v u n : Nat} {path : List Nat}
    (h : UnicastPath hop dest v path) (hu : path[n]? = some u) :
    (u = dest ∧ path[n + 1]? = none) ∨ (u ≠ dest ∧ ∃ w, hop u = some w ∧ path[n + 1]? = some w) := by
  have hhead : ∀ {v path}, UnicastPath hop dest v path → path[0]? = some v := by
    intro v path h
    cases h <;> rfl
  induction h generalizing n with
  | here =>
    cases n with
    | zero => exact .inl ⟨(Option.some.inj hu).symm, rfl⟩
    | succ n => cases hu
  | @hop v w path hne hhop path_w ih =>
    cases n with
    | zero =>
      obtain rfl := Option.some.inj hu
      exact .inr ⟨hne, w, hhop, hhead path_w⟩
    | succ n =>
      exact ih hu

section Journeys

variable {net : JoinNetwork} {v w n : Nat} {j : Journey} {packet : JoinPacket} {a : IpAddress}
  {g : Group} {neighbor : Neighbor} {e : MsgGroup}

structure Carried (net : JoinNetwork) (j : Journey) (e : MsgGroup) (g : Group) : Prop where
  groups : j.packet.msg.groups = [.entry e]
  numGroups : j.packet.msg.numGroups = 1
  sources : e.numJoinedSource.toNat = e.joinedSourceAddr.length
  length : e.joinedSourceAddr.length = j.visited.length
  ttl : j.packet.nTTL.toNat + j.visited.length = 256
  ttl_ne : j.packet.nTTL ≠ 0
  find : pimFindGroup (net.start 0) e.multicastAddr = some g
  dest : j.packet.szDestIP = g.rp

structure JourneyOk (net : JoinNetwork) (n : Nat) (j : Journey) : Prop where
  travels : Travels net n j
  carried : ∀ w, j.place = .toward w → ∃ e g, Carried net j e g

theorem networkOut_eq (hne : packet.nTTL ≠ 0) (hw : net.hop packet.szDestIP v = some w) :
    net.networkOut v packet = .toward w := by
  unfold JoinNetwork.networkOut
  rw [if_neg hne, hw]

theorem maxTTL_ne : maxTTL ≠ 0 := by decide

def freshMsg (d : Device) (neighbor : Neighbor) (a : IpAddress) : JoinMsg :=
  ⟨some neighbor.neighborAddr, 1, joinHoldTime d, [.entry ⟨a, 1, [d.nwAddress 1]⟩]⟩

theorem journeyOk_fresh (hg : pimFindGroup (net.start 0) a = some g) (ha : g.groupAddress.ip = a.ip)
    (hv : v ≠ g.rpId) {b : IpAddress} (hb : b.ip = a.ip) :
    JourneyOk net 0 ⟨⟨g.rp, maxTTL, freshMsg (net.device v) neighbor b⟩, [v],
      net.networkOut v ⟨g.rp, maxTTL, freshMsg (net.device v) neighbor b⟩⟩ := by
  obtain ⟨e, he, rfl⟩ := mem_groups hg
  obtain ⟨path, hpath⟩ := net.routed e he v
  have hhead : path[0]? = some v := by cases hpath <;> rfl
  rcases hpath.next hhead with ⟨h, -⟩ | ⟨-, w, hw, hnext⟩
  · exact (hv h).elim
  · have hout : net.networkOut v ⟨e.2, maxTTL, freshMsg (net.device v) neighbor b⟩ = .toward w :=
      networkOut_eq maxTTL_ne hw
    refine ⟨⟨v, path, hpath, ?_, ?_, ?_⟩, ?_⟩
    · exact (List.getElem?_eq_some_iff.1 hhead).1
    · obtain ⟨rest, rfl⟩ : ∃ rest, path = v :: rest := by
        cases hpath
        · exact ⟨_, rfl⟩
        · exact ⟨_, rfl⟩
      rfl
    · rw [hnext]
      exact hout
    · intro w' _
      refine ⟨⟨b, 1, [(net.device v).nwAddress 1]⟩, _, rfl, rfl, rfl, rfl, rfl, ?_, ?_, rfl⟩
      · exact maxTTL_ne
      · unfold pimFindGroup at hg ⊢
        rw [hb]
        exact hg

theorem Travels.next (h : Travels net n j) (hw : j.place = .toward w) :
    ∃ v path, UnicastPath (net.hop j.packet.szDestIP) (net.stationOf j.packet.szDestIP) v path ∧
      path[n + 1]? = some w ∧ j.visited ++ [w] = path.take (n + 2) := by
  obtain ⟨v, path, hpath, -, hvisited, hplace⟩ := h
  refine ⟨v, path, hpath, ?_⟩
  cases hget : path[n + 1]? with
  | none =>
    rw [hget, hw] at hplace
    cases hplace
  | some u =>
    rw [hget, hw] at hplace
    obtain rfl := Place.toward.inj hplace
    refine ⟨rfl, ?_⟩
    rw [List.take_add_one, hget, hvisited]
    rfl

theorem Travels.reach (h : Travels net n j) (hw : j.place = .toward w)
    (hdest : packet.szDestIP = j.packet.szDestIP) (hrp : w = net.stationOf j.packet.szDestIP) :
    Travels net (n + 1) ⟨packet, j.visited ++ [w], .reached⟩ := by
  obtain ⟨v, path, hpath, hget, hvisited⟩ := h.next hw
  rcases hpath.next hget with ⟨-, hnone⟩ | ⟨hne, -⟩
  · refine ⟨v, path, ?_, (List.getElem?_eq_some_iff.1 hget).1, hvisited, ?_⟩
    · rw [hdest]
      exact hpath
    · rw [hnone]
  · exact (hne hrp).elim

theorem Travels.forward (h : Travels net n j) (hw : j.place = .toward w)
    (hdest : packet.szDestIP = j.packet.szDestIP) (hrp : w ≠ net.stationOf j.packet.szDestIP)
    (httl : packet.nTTL ≠ 0) :
    Travels net (n + 1) ⟨packet, j.visited ++ [w], net.networkOut w packet⟩ := by
  obtain ⟨v, path, hpath, hget, hvisited⟩ := h.next hw
  rcases hpath.next hget with ⟨heq, -⟩ | ⟨-, w', hhop, hnext⟩
  · exact (hrp heq).elim
  · refine ⟨v, path, ?_, (List.getElem?_eq_some_iff.1 hget).1, hvisited, ?_⟩
    · rw [hdest]
      exact hpath
    · rw [hnext]
      exact networkOut_eq httl (by rw [hdest]; exact hhop)

def extendedMsg (d : Device) (neighbor : Neighbor) (e : MsgGroup) : JoinMsg :=
  ⟨some neighbor.neighborAddr, 1, joinHoldTime d,
    [.entry { e with
      numJoinedSource := e.numJoinedSource + 1
      joinedSourceAddr :=
        e.joinedSourceAddr.take e.numJoinedSource.toNat ++ [d.nwAddress 1] }]⟩

theorem Carried.sources_add (h : Carried net j e g) (addr : IpAddress) :
    (e.numJoinedSource + 1).toNat =
        (e.joinedSourceAddr.take e.numJoinedSource.toNat ++ [addr]).length ∧
      (e.joinedSourceAddr.take e.numJoinedSource.toNat ++ [addr]).length = j.visited.length + 1 := by
  have hle : e.numJoinedSource.toNat ≤ 256 := by
    have := h.ttl
    rw [h.sources, h.length]
    omega
  have hlen : (e.joinedSourceAddr.take e.numJoinedSource.toNat ++ [addr]).length =
      j.visited.length + 1 := by
    rw [List.length_append, h.sources, List.take_length, h.length, List.length_singleton]
  refine ⟨?_, hlen⟩
  rw [hlen, UInt32.toNat_add, ← h.length, ← h.sources]
  exact Nat.mod_eq_of_lt (by change _ + 1 < 2 ^ 32; omega)

variable (neighbor) in
theorem journeyOk_forward (hj : JourneyOk net n j) (hw : j.place = .toward w)
    (hc : Carried net j e g) (hrp : w ≠ g.rpId) (httl : j.packet.nTTL ≠ 1) :
    JourneyOk net (n + 1) ⟨⟨j.packet.szDestIP, j.packet.nTTL - 1,
        extendedMsg (net.device w) neighbor e⟩, j.visited ++ [w],
      net.networkOut w
        ⟨j.packet.szDestIP, j.packet.nTTL - 1, extendedMsg (net.device w) neighbor e⟩⟩ := by
  have hne : j.packet.nTTL - 1 ≠ 0 := fun h => httl (by
    have := congrArg (· + 1) h
    simpa using this)
  have hstation : net.stationOf j.packet.szDestIP = g.rpId := by
    obtain ⟨line, -, rfl⟩ := mem_groups hc.find
    rw [hc.dest]
    rfl
  refine ⟨hj.travels.forward hw rfl (by rw [hstation]; exact hrp) hne, fun w' _ => ?_⟩
  refine ⟨_, g, rfl, rfl, (hc.sources_add _).1, ?_, ?_, hne, hc.find, hc.dest⟩
  · rw [(hc.sources_add _).2, List.length_append, List.length_singleton]
  · have hpos : 1 ≤ j.packet.nTTL := by
      have := hc.ttl_ne
      rw [UInt8.le_iff_toNat_le]
      have h0 : j.packet.nTTL.toNat ≠ 0 := fun h => this (UInt8.toNat_inj.1 h)
      exact Nat.one_le_iff_ne_zero.2 h0
    have httl := hc.ttl
    rw [UInt8.toNat_sub_of_le _ _ hpos, List.length_append, List.length_singleton]
    have h1 : 1 ≤ j.packet.nTTL.toNat := UInt8.le_iff_toNat_le.1 hpos
    change j.packet.nTTL.toNat - 1 + (j.visited.length + 1) = 256
    omega

theorem journeyOk_reach (hj : JourneyOk net n j) (hw : j.place = .toward w)
    (hc : Carried net j e g) (hrp : w = g.rpId) :
    JourneyOk net (n + 1)
      ⟨JoinNetwork.networkIn j.packet, j.visited ++ [w], .reached⟩ := by
  have hstation : net.stationOf j.packet.szDestIP = g.rpId := by
    obtain ⟨line, -, rfl⟩ := mem_groups hc.find
    rw [hc.dest]
    rfl
  exact ⟨hj.travels.reach hw rfl (by rw [hstation]; exact hrp), fun _ h => by cases h⟩

theorem wellFormed_single {msg : JoinMsg} (hgroups : msg.groups = [.entry e])
    (hnum : msg.numGroups = 1) (hsources : e.numJoinedSource.toNat = e.joinedSourceAddr.length)
    (hg : pimFindGroup (net.start v) e.multicastAddr = some g)
    (hn : pimjoinFindNeighbor (net.nexthop v) (net.start v) g.rp = some neighbor)
    (haddr : msg.unicastAddr = some neighbor.neighborAddr) : WellFormed net v msg := by
  refine ⟨[e], hgroups, List.nodup_singleton _, ?_, ?_, ?_⟩
  · rw [hnum]
    rfl
  · intro e' he'
    rw [List.mem_singleton.1 he']
    exact hsources
  · intro e' he'
    rw [List.mem_singleton.1 he']
    exact ⟨g, neighbor, hg, hn, haddr⟩

end Journeys

end NetSim.Pim
