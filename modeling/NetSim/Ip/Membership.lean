import NetSim.Ip.Igmp
import NetSim.Lib.Run

/-!
# IGMP membership of a router

`Member` is what a router keeps of the hosts behind it for a group: only reports and membership
timers change it.
-/

namespace NetSim.Ip

open NetSim.Lib Function

structure Member (Ip : Type) where
  group : Ip
  isGroupMembershipTimerStarted : Bool
  reportRcvTime : ℚ
  isRouteAlreadyAdded : Bool
  ifids : List ℕ
deriving DecidableEq

variable {Ip : Type}

def IgmpRouterDb.member (db : IgmpRouterDb Ip) : Member Ip :=
  { group := db.group
    isGroupMembershipTimerStarted := db.isGroupMembershipTimerStarted
    reportRcvTime := db.reportRcvTime
    isRouteAlreadyAdded := db.isRouteAlreadyAdded
    ifids := db.ifids }

def Member.report (ifid : ℕ) (time : ℚ) (m : Member Ip) : Member Ip :=
  { m with
    isGroupMembershipTimerStarted := true
    reportRcvTime := time
    isRouteAlreadyAdded := m.isRouteAlreadyAdded || decide (ifid ∉ m.ifids)
    ifids :=
      if ifid ∈ m.ifids then m.ifids
      else if m.isRouteAlreadyAdded then m.ifids ++ [ifid] else [ifid] }

namespace IgmpRouter

variable [DecidableEq Ip]

def getMember (router : IgmpRouter Ip) (group : Ip) : Option (Member Ip) :=
  (router.getMulticastDb group).map IgmpRouterDb.member

def membershipTimers (router : IgmpRouter Ip) : List (IgmpTimer Ip) :=
  router.timers.filter fun x => x.sev = .igmpGroupMembershipTimer

structure SameMembers (router router' : IgmpRouter Ip) : Prop where
  groups : router'.database.map IgmpRouterDb.group = router.database.map IgmpRouterDb.group
  getMember : ∀ group, router'.getMember group = router.getMember group
  timers : router'.membershipTimers = router.membershipTimers
  routes : router'.routes = router.routes
  joined : router'.joined = router.joined

section
variable {cfg : RouterConfig Ip} {router router' router'' : IgmpRouter Ip} {group : Ip} {time : ℚ}
  {f : IgmpRouterDb Ip → IgmpRouterDb Ip} {sev : IpSubevent} {x : IgmpTimer Ip} {ifid : ℕ}

theorem SameMembers.refl : SameMembers router router :=
  ⟨rfl, fun _ => rfl, rfl, rfl, rfl⟩

theorem SameMembers.trans (h : SameMembers router router') (h' : SameMembers router' router'') :
    SameMembers router router'' :=
  ⟨h'.groups.trans h.groups, fun g => (h'.getMember g).trans (h.getMember g), h'.timers.trans h.timers,
    h'.routes.trans h.routes, h'.joined.trans h.joined⟩

theorem groups_modifyDb (hf : ∀ db, (f db).group = db.group) :
    (router.modifyDb group f).database.map IgmpRouterDb.group =
      router.database.map IgmpRouterDb.group :=
  map_key_modifyFirst hf

theorem sameMembers_modifyDb (hf : ∀ db, (f db).member = db.member) :
    SameMembers router (router.modifyDb group f) := by
  have hgroup : ∀ db, (f db).group = db.group := fun db => congrArg Member.group (hf db)
  refine ⟨groups_modifyDb hgroup, fun h => ?_, rfl, rfl, rfl⟩
  unfold getMember
  rw [getMulticastDb_modifyDb hgroup]
  split
  · next he =>
    rw [Option.map_map, he]
    exact Option.map_congr fun db _ => hf db
  · rfl

theorem sameMembers_timers (hx : x.sev ≠ .igmpGroupMembershipTimer) :
    SameMembers router { router with timers := router.timers ++ [x] } := by
  refine ⟨rfl, fun _ => rfl, ?_, rfl, rfl⟩
  unfold membershipTimers
  rw [List.filter_append, List.filter_cons_of_neg (by simpa using hx), List.filter_nil,
    List.append_nil]

theorem sameMembers_sendQueryMsg (h : router.sendQueryMsg cfg group time = some router') :
    SameMembers router router' := by
  unfold sendQueryMsg at h
  cases hdb : router.getMulticastDb group with
  | none =>
    rw [hdb] at h
    cases h
  | some db =>
    rw [hdb] at h
    dsimp only at h
    split at h
    · cases h
      exact .refl
    · cases h
      have hqueries : ∀ queries, SameMembers router { router with queries } :=
        fun _ => ⟨rfl, fun _ => rfl, rfl, rfl, rfl⟩
      refine (hqueries _).trans ((sameMembers_modifyDb fun _ => ?_).trans (sameMembers_timers ?_))
      · rfl
      · unfold IgmpTimer.start
        split <;> exact nofun

theorem sameMembers_processQuery [LT Ip] [DecidableLT Ip] {src : Ip}
    (h : router.processQuery cfg src group time = some router') : SameMembers router router' := by
  unfold processQuery at h
  split at h
  · cases h
    exact .refl
  · split at h
    · cases h
    · split at h
      · split at h
        · cases h
        · split at h
          · cases h
            exact sameMembers_modifyDb fun _ => rfl
          · cases h
            refine (sameMembers_modifyDb ?_).trans (sameMembers_timers ?_)
            · exact fun _ => rfl
            · exact nofun
      · cases h
        exact .refl

theorem sameMembers_processOtherQuerierPresentTime
    (h : router.processOtherQuerierPresentTime cfg group time = some router') :
    SameMembers router router' := by
  unfold processOtherQuerierPresentTime at h
  split at h
  · cases h
  · split at h
    · refine (sameMembers_modifyDb ?_).trans (sameMembers_sendQueryMsg h)
      exact fun _ => rfl
    · cases h
      exact sameMembers_timers nofun

/-! ## Reports -/

theorem groups_joinMulticastGroup :
    (router.joinMulticastGroup group).database.map IgmpRouterDb.group =
      if group ∈ router.database.map IgmpRouterDb.group then router.database.map IgmpRouterDb.group
      else router.database.map IgmpRouterDb.group ++ [group] := by
  unfold joinMulticastGroup
  cases hdb : router.getMulticastDb group with
  | some db =>
    obtain ⟨hmem, hgroup⟩ := lookup_some hdb
    exact (if_pos (List.mem_map.2 ⟨db, hmem, hgroup⟩)).symm
  | none =>
    have hnot : group ∉ router.database.map IgmpRouterDb.group := fun hmem => by
      obtain ⟨db, hdb', hgroup⟩ := List.mem_map.1 hmem
      exact lookup_eq_none.1 hdb db hdb' hgroup
    rw [if_neg hnot]
    exact List.map_append

theorem joined_joinMulticastGroup :
    (router.joinMulticastGroup group).joined =
      if group ∈ router.database.map IgmpRouterDb.group then router.joined
      else router.joined ++ [group] := by
  unfold joinMulticastGroup
  cases hdb : router.getMulticastDb group with
  | some db =>
    obtain ⟨hmem, hgroup⟩ := lookup_some hdb
    exact (if_pos (List.mem_map.2 ⟨db, hmem, hgroup⟩)).symm
  | none =>
    refine (if_neg fun hmem => ?_).symm
    obtain ⟨db, hdb', hgroup⟩ := List.mem_map.1 hmem
    exact lookup_eq_none.1 hdb db hdb' hgroup

/-- The members of a group become `m`, and `new` timers and `routes` come with it. -/
structure Changed (group : Ip) (m : Member Ip) (new : List (IgmpTimer Ip))
    (routes : List (MulticastRoute Ip)) (router router' : IgmpRouter Ip) : Prop where
  getMember : ∀ h, router'.getMember h = if h = group then some m else router.getMember h
  groups : router'.database.map IgmpRouterDb.group = router.database.map IgmpRouterDb.group
  joined : router'.joined = router.joined
  timers : router'.membershipTimers = router.membershipTimers ++ new
  routes : router'.routes = routes

variable {m : Member Ip}

theorem Changed.trans {m' : Member Ip} {new new' : List (IgmpTimer Ip)}
    {routes routes' : List (MulticastRoute Ip)} (h : Changed group m new routes router router')
    (h' : Changed group m' new' routes' router' router'') :
    Changed group m' (new ++ new') routes' router router'' := by
  refine ⟨fun g => ?_, h'.groups.trans h.groups, h'.joined.trans h.joined, ?_, h'.routes⟩
  · rw [h'.getMember, h.getMember]
    split <;> rfl
  · rw [h'.timers, h.timers, List.append_assoc]

theorem SameMembers.changed (h : SameMembers router router')
    (hm : router.getMember group = some m) : Changed group m [] router.routes router router' := by
  refine ⟨fun g => ?_, h.groups, h.joined, h.timers.trans (List.append_nil _).symm, h.routes⟩
  rw [h.getMember]
  split
  · next he => rw [he, hm]
  · rfl

variable {db : IgmpRouterDb Ip}

theorem changed_modifyDb
    (hdb : router.getMulticastDb group = some db) (hf : ∀ db, (f db).group = db.group)
    (hm : (f db).member = m) :
    Changed group m [] router.routes router (router.modifyDb group f) := by
  refine ⟨fun g => ?_, groups_modifyDb hf, rfl, (List.append_nil _).symm, rfl⟩
  unfold getMember
  rw [getMulticastDb_modifyDb hf, hdb, ← hm]
  split <;> rfl

theorem changed_startTimer (hm : router.getMember group = some m) :
    Changed group m [IgmpTimer.start cfg.igmp .igmpGroupMembershipTimer group time] router.routes router
      (router.startTimer cfg .igmpGroupMembershipTimer group time) := by
  refine ⟨fun g => ?_, rfl, rfl, ?_, rfl⟩
  · split
    · next he => exact he ▸ hm
    · rfl
  · exact List.filter_append ..

theorem Changed.getMember_self {new : List (IgmpTimer Ip)}
    {routes : List (MulticastRoute Ip)} (h : Changed group m new routes router router') :
    router'.getMember group = some m := by
  rw [h.getMember, if_pos rfl]

theorem changed_startMembershipTimer (hdb : router.getMulticastDb group = some db)
    (h : router.startMembershipTimer cfg group time db = some router') :
    Changed group { db.member with isGroupMembershipTimerStarted := true }
      (if db.isGroupMembershipTimerStarted then []
      else [IgmpTimer.start cfg.igmp .igmpGroupMembershipTimer group time]) router.routes router
      router' := by
  have hm : router.getMember group = some db.member := by
    unfold getMember
    rw [hdb]
    rfl
  unfold startMembershipTimer at h
  split at h
  · next hset =>
    cases h
    rw [if_pos hset]
    have hsame : { db.member with isGroupMembershipTimerStarted := true } = db.member := by
      unfold IgmpRouterDb.member
      rw [hset]
    rw [hsame]
    exact SameMembers.refl.changed hm
  · next hset =>
    rw [if_neg hset]
    have hstart : Changed group db.member
        [IgmpTimer.start cfg.igmp .igmpGroupMembershipTimer group time] router.routes router
        (router.startTimer cfg .igmpGroupMembershipTimer group time) := changed_startTimer hm
    have hflag : Changed group { db.member with isGroupMembershipTimerStarted := true } [] router.routes
        (router.startTimer cfg .igmpGroupMembershipTimer group time)
        ((router.startTimer cfg .igmpGroupMembershipTimer group time).modifyDb group fun db =>
          { db with isGroupMembershipTimerStarted := true }) := by
      have hdb' : (router.startTimer cfg .igmpGroupMembershipTimer group time).getMulticastDb group =
          some db := hdb
      refine changed_modifyDb hdb' ?_ rfl
      exact fun _ => rfl
    have hquery := (sameMembers_sendQueryMsg h).changed hflag.getMember_self
    exact (hstart.trans hflag).trans hquery

theorem changed_addIpRoute (ifid : ℕ) (hdb : router.getMulticastDb group = some db) :
    Changed group
      { db.member with
        isRouteAlreadyAdded := true
        ifids := if db.isRouteAlreadyAdded then db.ifids ++ [ifid] else [ifid] } []
      (if db.isRouteAlreadyAdded then
        modifyFirst MulticastRoute.group group (fun r => { r with ifids := db.ifids ++ [ifid] })
          router.routes
      else router.routes ++ [{ group, ifids := [ifid] }]) router (router.addIpRoute db ifid) := by
  have hgroup : db.group = group := (lookup_some hdb).2
  unfold addIpRoute
  rw [hgroup]
  by_cases hset : db.isRouteAlreadyAdded
  · rw [if_pos hset, if_pos hset, if_pos hset]
    have hmod : Changed group
        { db.member with isRouteAlreadyAdded := true, ifids := db.ifids ++ [ifid] } [] router.routes router
        (router.modifyDb group fun x => { x with ifids := db.ifids ++ [ifid] }) := by
      refine changed_modifyDb hdb ?_ ?_
      · exact fun _ => rfl
      · unfold IgmpRouterDb.member
        rw [hset]
    exact { hmod with routes := rfl }
  · rw [if_neg hset, if_neg hset, if_neg hset]
    have hmod : Changed group { db.member with isRouteAlreadyAdded := true, ifids := [ifid] } []
        router.routes router
        (router.modifyDb group fun x => { x with isRouteAlreadyAdded := true, ifids := [ifid] }) := by
      refine changed_modifyDb hdb ?_ rfl
      exact fun _ => rfl
    exact { hmod with routes := rfl }

structure Reported (cfg : RouterConfig Ip) (group : Ip) (ifid : ℕ) (time : ℚ) (m : Member Ip)
    (router router' : IgmpRouter Ip) : Prop where
  was : (router.getMember group).getD (IgmpRouterDb.alloc group).member = m
  getMember : ∀ h, router'.getMember h =
    if h = group then some (m.report ifid time) else router.getMember h
  groups : router'.database.map IgmpRouterDb.group =
    if group ∈ router.database.map IgmpRouterDb.group then router.database.map IgmpRouterDb.group
    else router.database.map IgmpRouterDb.group ++ [group]
  joined : router'.joined =
    if group ∈ router.database.map IgmpRouterDb.group then router.joined else router.joined ++ [group]
  timers : router'.membershipTimers =
    router.membershipTimers ++
      if m.isGroupMembershipTimerStarted then []
      else [IgmpTimer.start cfg.igmp .igmpGroupMembershipTimer group time]
  routes : router'.routes =
    if ifid ∈ m.ifids then router.routes
    else if m.isRouteAlreadyAdded then
      modifyFirst MulticastRoute.group group (fun r => { r with ifids := m.ifids ++ [ifid] })
        router.routes
    else router.routes ++ [{ group, ifids := [ifid] }]

theorem reported_processReport (h : router.processReport cfg group ifid time = some router') :
    ∃ m, Reported cfg group ifid time m router router' := by
  simp only [processReport, Option.bind_eq_bind, Option.bind_eq_some_iff] at h
  obtain ⟨db1, hdb1, router2, hstart, db2, hdb2, hroute⟩ := h
  have hjoin : (router.joinMulticastGroup group).getMulticastDb group =
      some ((router.getMulticastDb group).getD (.alloc group)) := by
    rw [getMulticastDb_joinMulticastGroup, if_pos rfl]
  have hother : ∀ h, h ≠ group →
      (router.joinMulticastGroup group).getMember h = router.getMember h := by
    intro h hne
    unfold getMember
    rw [getMulticastDb_joinMulticastGroup, if_neg hne]
  generalize hdb : (router.getMulticastDb group).getD (.alloc group) = db at hjoin
  -- The changes of the handler, one after the other.
  have hset : Changed group { db.member with reportRcvTime := time } []
      (router.joinMulticastGroup group).routes (router.joinMulticastGroup group)
      ((router.joinMulticastGroup group).modifyDb group fun db =>
        { db with reportRcvTime := time }) := by
    refine changed_modifyDb hjoin ?_ rfl
    exact fun _ => rfl
  have hdb1' : db1 = { db with reportRcvTime := time } := by
    have hlook : ((router.joinMulticastGroup group).modifyDb group fun db =>
        { db with reportRcvTime := time }).getMulticastDb group =
          some { db with reportRcvTime := time } := by
      rw [getMulticastDb_modifyDb, if_pos rfl, hjoin]
      · rfl
      · exact fun _ => rfl
    rw [hdb1] at hlook
    exact Option.some.inj hlook
  have hstarted := hset.trans (changed_startMembershipTimer hdb1 hstart)
  have hmember : db2.member =
      { db.member with isGroupMembershipTimerStarted := true, reportRcvTime := time } := by
    have hself := hstarted.getMember_self
    unfold getMember at hself
    rw [hdb2, hdb1'] at hself
    exact Option.some.inj hself
  have hifids : db2.ifids = db.ifids := congrArg Member.ifids hmember
  have hadded : db2.isRouteAlreadyAdded = db.isRouteAlreadyAdded :=
    congrArg Member.isRouteAlreadyAdded hmember
  have hflag : db1.isGroupMembershipTimerStarted = db.isGroupMembershipTimerStarted := by rw [hdb1']
  have htotal : Changed group (db.member.report ifid time)
      (if db.isGroupMembershipTimerStarted then []
      else [IgmpTimer.start cfg.igmp .igmpGroupMembershipTimer group time])
      (if ifid ∈ db.ifids then (router.joinMulticastGroup group).routes
      else if db.isRouteAlreadyAdded then
        modifyFirst MulticastRoute.group group (fun r => { r with ifids := db.ifids ++ [ifid] })
          (router.joinMulticastGroup group).routes
      else (router.joinMulticastGroup group).routes ++ [{ group, ifids := [ifid] }])
      (router.joinMulticastGroup group) router' := by
    rw [hflag, List.nil_append] at hstarted
    have hroutes : router2.routes = (router.joinMulticastGroup group).routes := hstarted.routes
    split at hroute
    · next hin =>
      cases hroute
      rw [hifids] at hin
      rw [if_pos hin]
      have hreport : db.member.report ifid time =
          { db.member with isGroupMembershipTimerStarted := true, reportRcvTime := time } := by
        have hin' : ifid ∈ db.member.ifids := hin
        unfold Member.report
        rw [if_pos hin', decide_eq_false (not_not.2 hin'), Bool.or_false]
      rw [hreport]
      have hsame : Member.mk db1.member.group true db1.member.reportRcvTime
          db1.member.isRouteAlreadyAdded db1.member.ifids =
          { db.member with isGroupMembershipTimerStarted := true, reportRcvTime := time } := by
        rw [hdb1']
        rfl
      exact { hstarted with getMember := fun h => hsame ▸ hstarted.getMember h }
    · next hin =>
      cases hroute
      rw [hifids] at hin
      rw [if_neg hin, ← hroutes]
      have hadd := hstarted.trans (changed_addIpRoute ifid hdb2)
      have hreport : Member.mk db2.member.group db2.member.isGroupMembershipTimerStarted
          db2.member.reportRcvTime true (if db2.isRouteAlreadyAdded then db2.ifids ++ [ifid] else [ifid]) =
          db.member.report ifid time := by
        have hin' : ifid ∉ db.member.ifids := hin
        unfold Member.report
        rw [if_neg hin', decide_eq_true hin', Bool.or_true, hadded, hifids, hmember]
        rfl
      rw [List.append_nil, hadded, hifids] at hadd
      rw [hadded, hifids] at hreport
      exact { hadd with getMember := fun h => hreport ▸ hadd.getMember h }
  refine ⟨db.member, ?_, fun h => ?_, ?_, ?_, ?_, ?_⟩
  · rw [← hdb]
    unfold getMember
    cases router.getMulticastDb group <;> rfl
  · rw [htotal.getMember]
    split
    · rfl
    · next hne => exact hother h hne
  · rw [htotal.groups, groups_joinMulticastGroup]
  · rw [htotal.joined, joined_joinMulticastGroup]
  · rw [htotal.timers]
    refine congrArg (· ++ _) (congrArg (List.filter _) ?_)
    unfold joinMulticastGroup
    split <;> rfl
  · rw [htotal.routes]
    have hroutes : (router.joinMulticastGroup group).routes = router.routes := by
      unfold joinMulticastGroup
      split <;> rfl
    rw [hroutes]
    rfl

theorem init_members (cfg : RouterConfig Ip) : (init cfg).database.map IgmpRouterDb.group = (init cfg).joined ∧
    (init cfg).joined.Nodup ∧ (init cfg).membershipTimers = [] ∧ (init cfg).routes = [] ∧
      ∀ g m, (init cfg).getMember g = some m →
        g = cfg.allInSubnet ∧ m = (IgmpRouterDb.alloc cfg.allInSubnet).member := by
  unfold init
  dsimp only
  split
  · -- The router has joined 224.0.0.1, and the query changes nothing of that.
    have hall : ∀ router' : IgmpRouter Ip, SameMembers
        (joinMulticastGroup { database := [], timers := [], queries := [], routes := [], joined := [] }
          cfg.allInSubnet) router' →
        router'.database.map IgmpRouterDb.group = router'.joined ∧ router'.joined.Nodup ∧
          router'.membershipTimers = [] ∧ router'.routes = [] ∧ ∀ g m, router'.getMember g = some m →
            g = cfg.allInSubnet ∧ m = (IgmpRouterDb.alloc cfg.allInSubnet).member := by
      intro router' h
      refine ⟨?_, ?_, h.timers, h.routes, fun g m hm => ?_⟩
      · rw [h.groups, h.joined]
        rfl
      · rw [h.joined]
        exact List.nodup_singleton _
      · rw [h.getMember] at hm
        unfold getMember at hm
        rw [getMulticastDb_joinMulticastGroup] at hm
        split at hm
        · next hg =>
          cases hm
          exact ⟨hg, rfl⟩
        · cases hm
    refine hall _ ?_
    cases hquery : sendQueryMsg cfg (joinMulticastGroup
        { database := [], timers := [], queries := [], routes := [], joined := [] } cfg.allInSubnet)
        cfg.allInSubnet igmpStartupDelay with
    | none => exact .refl
    | some router' => exact sameMembers_sendQueryMsg hquery
  · exact ⟨rfl, List.nodup_nil, rfl, rfl, fun _ _ h => by cases h⟩

end

end IgmpRouter

/-! ## Runs -/

/-- A router, the time, and when the last report for a group came in on an interface. -/
structure MembershipState (Ip : Type) where
  router : IgmpRouter Ip
  now : ℚ
  lastReport : Ip → ℕ → Option ℚ

inductive MembershipAction (Ip : Type)
  | report (group : Ip) (ifid : ℕ) (time : ℚ)
  | query (src group : Ip) (time : ℚ)
  /-- The `n`-th timer. -/
  | timer (n : ℕ)

namespace MembershipState

variable [LinearOrder Ip]

def start (cfg : RouterConfig Ip) : MembershipState Ip :=
  { router := .init cfg, now := 0, lastReport := fun _ _ => none }

/-- No timer is due before `time`. -/
def Due (s : MembershipState Ip) (time : ℚ) : Prop := ∀ x ∈ s.router.timers, time ≤ x.dEventTime

instance (s : MembershipState Ip) (time : ℚ) : Decidable (s.Due time) :=
  inferInstanceAs (Decidable (∀ x ∈ s.router.timers, _))

def step (cfg : RouterConfig Ip) (s : MembershipState Ip) :
    MembershipAction Ip → Option (MembershipState Ip)
  | .report group ifid time =>
    if s.now ≤ time ∧ s.Due time then
      (s.router.processReport cfg group ifid time).map fun router =>
        { router
          now := time
          lastReport := update s.lastReport group
            (update (s.lastReport group) ifid (some time)) }
    else none
  | .query src group time =>
    if s.now ≤ time ∧ s.Due time then
      (s.router.processQuery cfg src group time).map fun router => { s with router, now := time }
    else none
  | .timer n =>
    match s.router.timers[n]? with
    | none => none
    | some x =>
      if s.Due x.dEventTime then
        ((s.router.takeTimer n).handleTimer cfg x).map fun router =>
          { s with router, now := max s.now x.dEventTime }
      else none

/-- `GroupMembershipInterval`, in microseconds. -/
def membershipDelay (cfg : RouterConfig Ip) : ℚ := getSubeventDelay cfg.igmp .igmpGroupMembershipTimer

def Recent (cfg : RouterConfig Ip) (s : MembershipState Ip) (group : Ip) (ifid : ℕ) : Prop :=
  ∃ t ∈ s.lastReport group ifid, s.now < t + membershipDelay cfg

/-- A group has one entry, and an entry that has been reported one membership timer, which is not
past. -/
structure Kept (cfg : RouterConfig Ip) (s : MembershipState Ip) : Prop where
  groups : (s.router.database.map IgmpRouterDb.group).Nodup
  started : ∀ g m, s.router.getMember g = some m → m.isGroupMembershipTimerStarted = false →
    g = cfg.allInSubnet
  timer : ∀ g, (s.router.membershipTimers.filter fun x => x.group = g).length =
    if (s.router.getMember g).any Member.isGroupMembershipTimerStarted then 1 else 0
  future : ∀ x ∈ s.router.membershipTimers, s.now ≤ x.dEventTime

/-- The entries and the routes are those of the reports that are recent. -/
structure Agrees (cfg : RouterConfig Ip) (s : MembershipState Ip) : Prop where
  entry : ∀ g m, s.router.getMember g = some m → g = cfg.allInSubnet ∨ ∃ i, s.Recent cfg g i
  member : ∀ g i, s.Recent cfg g i → ∃ m, s.router.getMember g = some m
  nodup : ∀ g m, s.router.getMember g = some m → m.ifids.Nodup
  ifids : ∀ g m, s.router.getMember g = some m → ∀ i, i ∈ m.ifids ↔ s.Recent cfg g i
  routes : (s.router.routes.map MulticastRoute.group).Nodup
  route : ∀ g, (lookup MulticastRoute.group g s.router.routes).map MulticastRoute.ifids =
    (s.router.getMember g).bind fun m => if m.ifids = [] then none else some m.ifids
  joined : s.router.joined = s.router.database.map IgmpRouterDb.group

/-- No report is older than the interval at `time`. -/
def Fresh (cfg : RouterConfig Ip) (s : MembershipState Ip) (time : ℚ) : Prop :=
  ∀ g i, ∀ t ∈ s.lastReport g i, time < t + membershipDelay cfg

/-- The condition on a step: no report has grown old, and the interval is not empty. -/
def Meets (cfg : RouterConfig Ip) (s : MembershipState Ip) : MembershipAction Ip → Prop
  | .report _ _ time => s.Fresh cfg time ∧ 0 < membershipDelay cfg
  | .query _ _ time => s.Fresh cfg time
  | .timer n => ∀ x ∈ s.router.timers[n]?, s.Fresh cfg x.dEventTime

/-! ## What a step preserves -/

section
variable {cfg : RouterConfig Ip} {s s' : MembershipState Ip} {group : Ip} {ifid n : ℕ} {time : ℚ}
  {m : Member Ip} {x : IgmpTimer Ip} {a : MembershipAction Ip}

open IgmpRouter

theorem kept_start : (start cfg).Kept cfg := by
  obtain ⟨hjoined, hnodup, htimers, -, hmember⟩ := init_members cfg
  refine ⟨hjoined ▸ hnodup, fun g m hm _ => (hmember g m hm).1, fun g => ?_, fun x hx => ?_⟩
  · have hnot : ¬ ((init cfg).getMember g).any Member.isGroupMembershipTimerStarted = true := by
      intro hany
      obtain ⟨m, hm, hset⟩ := (Option.any_eq_true _ _).1 hany
      rw [(hmember g m hm).2] at hset
      cases hset
    refine Eq.trans ?_ (if_neg hnot).symm
    dsimp only [start]
    rw [htimers]
    rfl
  · dsimp only [start] at hx
    rw [htimers] at hx
    cases hx

theorem Kept.congr (h : s.Kept cfg) (hsame : SameMembers s.router s'.router)
    (hnow : ∀ x ∈ s.router.membershipTimers, s'.now ≤ x.dEventTime) : s'.Kept cfg :=
  { groups := hsame.groups ▸ h.groups
    started := fun g m hm => h.started g m (hsame.getMember g ▸ hm)
    timer := fun g => by
      rw [hsame.timers, hsame.getMember]
      exact h.timer g
    future := hsame.timers ▸ hnow }

omit [LinearOrder Ip] in
theorem membershipDelay_nonneg : 0 ≤ membershipDelay cfg := by
  unfold membershipDelay getSubeventDelay second
  positivity

theorem filter_group_single {g : Ip} :
    ([x].filter fun y => y.group = g) = if x.group = g then [x] else [] := by
  rw [List.filter_cons]
  by_cases hg : x.group = g
  · rw [if_pos hg, if_pos (decide_eq_true hg)]
    rfl
  · rw [if_neg hg, if_neg (by rw [decide_eq_true_eq]; exact hg)]
    rfl

theorem Kept.report (h : s.Kept cfg) (hr : Reported cfg group ifid time m s.router s'.router)
    (hdue : s.Due time) (hnow : s'.now = time) : s'.Kept cfg := by
  refine ⟨?_, fun g m' hm hflag => ?_, fun g => ?_, fun x hx => ?_⟩
  · rw [hr.groups]
    split
    · exact h.groups
    · next hnot =>
      rw [List.nodup_append]
      refine ⟨h.groups, List.nodup_singleton _, fun a ha b hb hab => hnot ?_⟩
      rw [← List.mem_singleton.1 hb, ← hab]
      exact ha
  · rw [hr.getMember] at hm
    split at hm
    · cases hm
      cases hflag
    · exact h.started g m' hm hflag
  · have hold := h.timer g
    rw [hr.timers, hr.getMember, List.filter_append, List.length_append, hold]
    by_cases hg : g = group
    · rw [if_pos hg]
      have hwas := hr.was
      by_cases hset : m.isGroupMembershipTimerStarted
      · rw [if_pos hset]
        have hany : (s.router.getMember g).any Member.isGroupMembershipTimerStarted = true := by
          rw [hg]
          cases hm : s.router.getMember group with
          | none =>
            rw [hm] at hwas
            rw [← hwas] at hset
            cases hset
          | some m' =>
            rw [hm] at hwas
            rw [show m' = m from hwas]
            exact hset
        rw [if_pos hany]
        rfl
      · rw [if_neg hset]
        have hany : ¬ (s.router.getMember g).any Member.isGroupMembershipTimerStarted = true := by
          rw [hg]
          cases hm : s.router.getMember group with
          | none => exact Bool.false_ne_true
          | some m' =>
            rw [hm] at hwas
            rw [show m' = m from hwas]
            exact hset
        have hg' : (IgmpTimer.start cfg.igmp .igmpGroupMembershipTimer group time).group = g := hg.symm
        rw [if_neg hany, filter_group_single, if_pos hg']
        rfl
    · rw [if_neg hg]
      have hnil : ((if m.isGroupMembershipTimerStarted then []
          else [IgmpTimer.start cfg.igmp .igmpGroupMembershipTimer group time]).filter
            fun x => x.group = g) = [] := by
        split
        · rfl
        · rw [filter_group_single]
          exact if_neg (Ne.symm hg)
      rw [hnil]
      rfl
  · rw [hr.timers] at hx
    rw [hnow]
    rcases List.mem_append.1 hx with hx | hx
    · exact hdue x (List.mem_filter.1 hx).1
    · split at hx
      · cases hx
      · rw [List.mem_singleton.1 hx]
        have hdelay : 0 ≤ membershipDelay cfg := membershipDelay_nonneg
        exact le_add_of_nonneg_right hdelay

theorem sameMembers_takeTimer (hx : s.router.timers[n]? = some x) (hsev : x.sev ≠ .igmpGroupMembershipTimer) :
    SameMembers s.router (s.router.takeTimer n) :=
  ⟨rfl, fun _ => rfl, filter_eraseIdx_of_neg hx (decide_eq_false hsev), rfl, rfl⟩

variable {router router' : IgmpRouter Ip}

theorem sameMembers_handleTimer (hsev : x.sev ≠ .igmpGroupMembershipTimer)
    (h : router.handleTimer cfg x = some router') : SameMembers router router' := by
  unfold handleTimer at h
  split at h
  · exact sameMembers_sendQueryMsg h
  · exact sameMembers_sendQueryMsg h
  · exact sameMembers_processOtherQuerierPresentTime h
  · next hs => exact absurd hs hsev

/-- The membership timer `x` finds no recent report. -/
structure Expired (cfg : RouterConfig Ip) (m : Member Ip) (x : IgmpTimer Ip)
    (router router' : IgmpRouter Ip) : Prop where
  was : router.getMember x.group = some m
  old : m.reportRcvTime + membershipDelay cfg ≤ x.dEventTime
  groups : (router'.database.map IgmpRouterDb.group).Sublist (router.database.map IgmpRouterDb.group)
  getMember : (router.database.map IgmpRouterDb.group).Nodup →
    ∀ g, router'.getMember g = if g = x.group then none else router.getMember g
  timers : router'.membershipTimers = router.membershipTimers

/-- The membership timer `x` finds a recent report, and is put in again. -/
structure Renewed (cfg : RouterConfig Ip) (m : Member Ip) (x : IgmpTimer Ip)
    (router router' : IgmpRouter Ip) : Prop where
  was : router.getMember x.group = some m
  recent : x.dEventTime < m.reportRcvTime + membershipDelay cfg
  changed : Changed x.group m
    [{ sev := .igmpGroupMembershipTimer
       group := x.group
       dEventTime := m.reportRcvTime + membershipDelay cfg }] router.routes router router'

theorem getMember_eraseFirst (hnd : (router.database.map IgmpRouterDb.group).Nodup) (g : Ip) :
    ({ router with database := eraseFirst IgmpRouterDb.group group router.database }).getMember g =
      if g = group then none else router.getMember g := by
  unfold IgmpRouter.getMember getMulticastDb
  split
  · next hg => rw [hg, lookup_eraseFirst_self hnd]; rfl
  · next hg => rw [lookup_eraseFirst_ne hg]

theorem handleTimer_membership (hsev : x.sev = .igmpGroupMembershipTimer)
    (h : router.handleTimer cfg x = some router') :
    ∃ m, Expired cfg m x router router' ∨ Renewed cfg m x router router' := by
  unfold handleTimer at h
  rw [hsev] at h
  unfold processGroupMembershipTimer at h
  cases hdb : router.getMulticastDb x.group with
  | none =>
    rw [hdb] at h
    cases h
  | some db =>
    rw [hdb] at h
    dsimp only at h
    have hm : router.getMember x.group = some db.member := by
      unfold IgmpRouter.getMember
      rw [hdb]
      rfl
    split at h
    · next hold =>
      cases h
      exact ⟨_, .inl ⟨hm, hold, List.eraseP_sublist.map _, getMember_eraseFirst, rfl⟩⟩
    · next hnew =>
      cases h
      refine ⟨_, .inr ⟨hm, not_le.1 hnew, fun g => ?_, rfl, rfl, List.filter_append .., rfl⟩⟩
      split
      · next hg => exact hg ▸ hm
      · rfl

theorem Kept.length_filter (h : s.Kept cfg) (hx : s.router.timers[n]? = some x)
    (hsev : x.sev = .igmpGroupMembershipTimer) (g : Ip) :
    ((s.router.takeTimer n).membershipTimers.filter fun y => y.group = g).length +
        (if x.group = g then 1 else 0) =
      if (s.router.getMember g).any Member.isGroupMembershipTimerStarted then 1 else 0 := by
  obtain ⟨hn, hget⟩ := List.getElem?_eq_some_iff.1 hx
  have hperm : (x :: s.router.timers.eraseIdx n).Perm s.router.timers :=
    hget ▸ List.getElem_cons_eraseIdx_perm hn
  have hlen := ((hperm.filter fun y => y.sev = .igmpGroupMembershipTimer).filter
    fun y : IgmpTimer Ip => y.group = g).length_eq
  have hcons : ((x :: s.router.timers.eraseIdx n).filter fun y => y.sev = .igmpGroupMembershipTimer) =
      x :: (s.router.timers.eraseIdx n).filter fun y => y.sev = .igmpGroupMembershipTimer :=
    List.filter_cons_of_pos (decide_eq_true hsev)
  rw [hcons, List.filter_cons] at hlen
  rw [← h.timer g]
  refine Eq.trans ?_ hlen
  by_cases hg : x.group = g
  · rw [if_pos hg, if_pos (decide_eq_true hg)]
    rfl
  · rw [if_neg hg, if_neg (by rw [decide_eq_true_eq]; exact hg)]
    rfl

theorem Kept.expire (h : s.Kept cfg) (hx : s.router.timers[n]? = some x)
    (hsev : x.sev = .igmpGroupMembershipTimer) (hdue : s.Due x.dEventTime)
    (hr : (s.router.takeTimer n).handleTimer cfg x = some router') :
    Kept cfg { s with router := router', now := max s.now x.dEventTime } := by
  have hcount := h.length_filter hx hsev
  have hnow : s.now ≤ x.dEventTime :=
    h.future x (List.mem_filter.2 ⟨List.mem_of_getElem? hx, decide_eq_true hsev⟩)
  have hfuture : ∀ y ∈ (s.router.takeTimer n).membershipTimers,
      max s.now x.dEventTime ≤ y.dEventTime := by
    intro y hy
    obtain ⟨hy, hysev⟩ := List.mem_filter.1 hy
    have hy' : y ∈ s.router.timers := List.mem_of_mem_eraseIdx hy
    exact max_le (h.future y (List.mem_filter.2 ⟨hy', hysev⟩)) (hdue y hy')
  have hself : ((s.router.takeTimer n).membershipTimers.filter fun y => y.group = x.group).length = 0 ∧
      (s.router.getMember x.group).any Member.isGroupMembershipTimerStarted = true := by
    have hx := hcount x.group
    rw [if_pos rfl] at hx
    split at hx
    · next hany => exact ⟨by omega, hany⟩
    · omega
  have hne : ∀ g, g ≠ x.group →
      ((s.router.takeTimer n).membershipTimers.filter fun y => y.group = g).length =
        if (s.router.getMember g).any Member.isGroupMembershipTimerStarted then 1 else 0 := by
    intro g hg
    have hx := hcount g
    rwa [if_neg (Ne.symm hg)] at hx
  obtain ⟨m, hexp | hren⟩ := handleTimer_membership hsev hr
  · refine ⟨h.groups.sublist hexp.groups, fun g m' hm hflag => ?_, fun g => ?_, ?_⟩
    · have hm' : (if g = x.group then none else s.router.getMember g) = some m' :=
        (hexp.getMember h.groups g).symm.trans hm
      split at hm'
      · cases hm'
      · exact h.started g m' hm' hflag
    · rw [hexp.timers, hexp.getMember h.groups]
      by_cases hg : g = x.group
      · rw [if_pos hg, hg, hself.1]
        rfl
      · rw [if_neg hg]
        exact hne g hg
    · rw [hexp.timers]
      exact hfuture
  · have hsame : ∀ g, router'.getMember g = s.router.getMember g := by
      intro g
      rw [hren.changed.getMember]
      split
      · next hg => rw [hg]; exact hren.was.symm
      · rfl
    refine ⟨hren.changed.groups ▸ h.groups, fun g m' hm => h.started g m' (hsame g ▸ hm), fun g => ?_, ?_⟩
    · rw [hren.changed.timers, hsame, List.filter_append, List.length_append]
      by_cases hg : g = x.group
      · rw [hg, hself.1, if_pos hself.2, filter_group_single, if_pos rfl]
        rfl
      · rw [hne g hg, filter_group_single, if_neg (Ne.symm hg)]
        rfl
    · rw [hren.changed.timers]
      refine List.forall_mem_append.2 ⟨hfuture, List.forall_mem_singleton.2 ?_⟩
      exact max_le (hnow.trans hren.recent.le) hren.recent.le

theorem Kept.step (h : s.Kept cfg) (hs : MembershipState.step cfg s a = some s') : s'.Kept cfg := by
  cases a with
  | report group ifid time =>
    dsimp only [MembershipState.step] at hs
    split at hs
    · next hat =>
      obtain ⟨router, hr, rfl⟩ := Option.map_eq_some_iff.1 hs
      obtain ⟨m, hr⟩ := reported_processReport hr
      exact h.report hr hat.2 rfl
    · cases hs
  | query src group time =>
    dsimp only [MembershipState.step] at hs
    split at hs
    · next hat =>
      obtain ⟨router, hr, rfl⟩ := Option.map_eq_some_iff.1 hs
      exact h.congr (sameMembers_processQuery hr) fun x hx => hat.2 x (List.mem_filter.1 hx).1
    · cases hs
  | timer n =>
    dsimp only [MembershipState.step] at hs
    split at hs
    · cases hs
    · next x hx =>
      split at hs
      · next hdue =>
        obtain ⟨router, hr, rfl⟩ := Option.map_eq_some_iff.1 hs
        by_cases hsev : x.sev = .igmpGroupMembershipTimer
        · exact h.expire hx hsev hdue hr
        · refine h.congr ((sameMembers_takeTimer hx hsev).trans (sameMembers_handleTimer hsev hr))
            fun y hy => max_le (h.future y hy) (hdue y (List.mem_filter.1 hy).1)
      · cases hs

/-! ## As long as no report grows old -/

/-- The invariant: the interfaces of an entry are those that have received a report. -/
structure Tracks (cfg : RouterConfig Ip) (s : MembershipState Ip) : Prop where
  fresh : s.Fresh cfg s.now
  past : ∀ g i, ∀ t ∈ s.lastReport g i, t ≤ s.now
  nodup : ∀ g m, s.router.getMember g = some m → m.ifids.Nodup
  ifids : ∀ g m, s.router.getMember g = some m →
    ∀ i, i ∈ m.ifids ↔ (s.lastReport g i).isSome = true
  started : ∀ g m, s.router.getMember g = some m →
    (m.isGroupMembershipTimerStarted = true ↔ m.ifids ≠ [])
  added : ∀ g m, s.router.getMember g = some m → (m.isRouteAlreadyAdded = true ↔ m.ifids ≠ [])
  rcv : ∀ g m, s.router.getMember g = some m → ∀ i, ∀ t ∈ s.lastReport g i, t ≤ m.reportRcvTime
  member : ∀ g i, (s.lastReport g i).isSome = true → (s.router.getMember g).isSome = true
  routes : (s.router.routes.map MulticastRoute.group).Nodup
  route : ∀ g, (lookup MulticastRoute.group g s.router.routes).map MulticastRoute.ifids =
    (s.router.getMember g).bind fun m => if m.ifids = [] then none else some m.ifids
  joined : s.router.joined = s.router.database.map IgmpRouterDb.group

theorem tracks_start : (start cfg).Tracks cfg := by
  obtain ⟨hjoined, -, -, hroutes, hmember⟩ := init_members cfg
  have hm : ∀ g m, (init cfg).getMember g = some m → m = (IgmpRouterDb.alloc cfg.allInSubnet).member :=
    fun g m hm => (hmember g m hm).2
  refine
    { fresh := nofun
      past := nofun
      nodup := fun g m h => hm g m h ▸ List.nodup_nil
      ifids := fun g m h => hm g m h ▸ fun i => iff_of_false List.not_mem_nil Bool.false_ne_true
      started := fun g m h => hm g m h ▸ iff_of_false Bool.false_ne_true (absurd rfl)
      added := fun g m h => hm g m h ▸ iff_of_false Bool.false_ne_true (absurd rfl)
      rcv := nofun
      member := nofun
      routes := ?_
      route := fun g => ?_
      joined := hjoined.symm }
  · dsimp only [start]
    rw [hroutes]
    exact List.nodup_nil
  · dsimp only [start]
    rw [hroutes]
    cases hg : (init cfg).getMember g with
    | none => rfl
    | some m =>
      rw [hm g m hg]
      rfl

theorem Tracks.congr (h : s.Tracks cfg) (hget : ∀ g, s'.router.getMember g = s.router.getMember g)
    (hgroups : s'.router.database.map IgmpRouterDb.group = s.router.database.map IgmpRouterDb.group)
    (hroutes : s'.router.routes = s.router.routes) (hjoined : s'.router.joined = s.router.joined)
    (hlast : s'.lastReport = s.lastReport) (hfresh : s.Fresh cfg s'.now) (hnow : s.now ≤ s'.now) :
    s'.Tracks cfg :=
  { fresh := fun g i t ht => hfresh g i t (hlast ▸ ht)
    past := fun g i t ht => (h.past g i t (hlast ▸ ht)).trans hnow
    nodup := fun g m hm => h.nodup g m (hget g ▸ hm)
    ifids := fun g m hm => hlast ▸ h.ifids g m (hget g ▸ hm)
    started := fun g m hm => h.started g m (hget g ▸ hm)
    added := fun g m hm => h.added g m (hget g ▸ hm)
    rcv := fun g m hm => hlast ▸ h.rcv g m (hget g ▸ hm)
    member := fun g i hi => by
      rw [hget]
      exact h.member g i (hlast ▸ hi)
    routes := hroutes ▸ h.routes
    route := fun g => by
      rw [hroutes, hget]
      exact h.route g
    joined := by
      rw [hjoined, hgroups]
      exact h.joined }

theorem Tracks.same (h : s.Tracks cfg) (hsame : SameMembers s.router s'.router)
    (hlast : s'.lastReport = s.lastReport) (hfresh : s.Fresh cfg s'.now) (hnow : s.now ≤ s'.now) :
    s'.Tracks cfg :=
  h.congr hsame.getMember hsame.groups hsame.routes hsame.joined hlast hfresh hnow

theorem Tracks.agrees (h : s.Tracks cfg) (hk : s.Kept cfg) : s.Agrees cfg := by
  have hrecent : ∀ g i, s.Recent cfg g i ↔ (s.lastReport g i).isSome = true := by
    intro g i
    constructor
    · rintro ⟨t, ht, -⟩
      exact Option.isSome_iff_exists.2 ⟨t, ht⟩
    · intro hi
      obtain ⟨t, ht⟩ := Option.isSome_iff_exists.1 hi
      exact ⟨t, ht, h.fresh g i t ht⟩
  refine
    { entry := fun g m hm => ?_
      member := fun g i hi => Option.isSome_iff_exists.1 (h.member g i ((hrecent g i).1 hi))
      nodup := h.nodup
      ifids := fun g m hm i => (h.ifids g m hm i).trans (hrecent g i).symm
      routes := h.routes
      route := h.route
      joined := h.joined }
  cases hset : m.isGroupMembershipTimerStarted with
  | false => exact .inl (hk.started g m hm hset)
  | true =>
    obtain ⟨i, hi⟩ := List.exists_mem_of_ne_nil _ ((h.started g m hm).1 hset)
    exact .inr ⟨i, (hrecent g i).2 ((h.ifids g m hm i).1 hi)⟩

omit [LinearOrder Ip] in
theorem mem_ifids_report {i : ℕ} (hadded : m.isRouteAlreadyAdded = true ↔ m.ifids ≠ []) :
    i ∈ (m.report ifid time).ifids ↔ i = ifid ∨ i ∈ m.ifids := by
  unfold Member.report
  split
  · next hin => exact ⟨.inr, fun h => h.elim (fun he => he ▸ hin) id⟩
  · split
    · rw [List.mem_append, List.mem_singleton, or_comm]
    · next hset =>
      have hnil : m.ifids = [] := by
        by_contra hne
        exact hset (hadded.2 hne)
      rw [hnil, List.mem_singleton]
      exact (or_iff_left List.not_mem_nil).symm

omit [LinearOrder Ip] in
theorem nodup_ifids_report (h : m.ifids.Nodup) : (m.report ifid time).ifids.Nodup := by
  unfold Member.report
  split
  · exact h
  · next hnot =>
    split
    · rw [List.nodup_append]
      refine ⟨h, List.nodup_singleton _, fun x hx y hy hxy => hnot ?_⟩
      rw [← List.mem_singleton.1 hy, ← hxy]
      exact hx
    · exact List.nodup_singleton _

omit [LinearOrder Ip] in
theorem route_report [DecidableEq Ip] {routes : List (MulticastRoute Ip)}
    (hadded : m.isRouteAlreadyAdded = true ↔ m.ifids ≠ [])
    (h : (lookup MulticastRoute.group group routes).map MulticastRoute.ifids =
      if m.ifids = [] then none else some m.ifids) :
    (lookup MulticastRoute.group group
      (if ifid ∈ m.ifids then routes
      else if m.isRouteAlreadyAdded then
        modifyFirst MulticastRoute.group group (fun r => { r with ifids := m.ifids ++ [ifid] }) routes
      else routes ++ [{ group, ifids := [ifid] }])).map MulticastRoute.ifids =
        some (m.report ifid time).ifids := by
  unfold Member.report
  by_cases hin : ifid ∈ m.ifids
  · rw [if_pos hin, if_pos hin, h, if_neg (List.ne_nil_of_mem hin)]
  · rw [if_neg hin, if_neg hin]
    by_cases hset : m.isRouteAlreadyAdded = true
    · rw [if_pos hset, if_pos hset, lookup_modifyFirst, if_pos rfl, Option.map_map]
      swap
      · exact fun _ => rfl
      rw [if_neg (hadded.1 hset)] at h
      obtain ⟨r, hr, -⟩ := Option.map_eq_some_iff.1 h
      rw [hr]
      rfl
    · have hnil : m.ifids = [] := by
        by_contra hne
        exact hset (hadded.2 hne)
      rw [if_neg hset, if_neg hset, lookup_append_single]
      rw [if_pos hnil] at h
      rw [Option.map_eq_none_iff.1 h]
      exact congrArg _ (if_pos rfl)

omit [LinearOrder Ip] in
theorem lookup_report_ne [DecidableEq Ip] {routes : List (MulticastRoute Ip)} {g : Ip} (hg : g ≠ group) :
    lookup MulticastRoute.group g
      (if ifid ∈ m.ifids then routes
      else if m.isRouteAlreadyAdded then
        modifyFirst MulticastRoute.group group (fun r => { r with ifids := m.ifids ++ [ifid] }) routes
      else routes ++ [{ group, ifids := [ifid] }]) = lookup MulticastRoute.group g routes := by
  split
  · rfl
  · split
    · rw [lookup_modifyFirst, if_neg hg]
      exact fun _ => rfl
    · rw [lookup_append_single]
      cases lookup MulticastRoute.group g routes with
      | some r => rfl
      | none => exact if_neg (Ne.symm hg)

theorem Tracks.report (h : s.Tracks cfg) (hr : Reported cfg group ifid time m s.router s'.router)
    (hfresh : s.Fresh cfg time) (hpos : 0 < membershipDelay cfg) (hle : s.now ≤ time)
    (hnow : s'.now = time)
    (hlast : s'.lastReport = update s.lastReport group
      (update (s.lastReport group) ifid (some time))) : s'.Tracks cfg := by
  have hself : ∀ i, s'.lastReport group i = if i = ifid then some time else s.lastReport group i := by
    intro i
    rw [hlast, update_self, update_apply]
  have hother : ∀ g, g ≠ group → s'.lastReport g = s.lastReport g := by
    intro g hg
    rw [hlast, update_of_ne hg]
  -- What the entry was, or is when it is new.
  have hm : m.ifids.Nodup ∧ (∀ i, i ∈ m.ifids ↔ (s.lastReport group i).isSome = true) ∧
      (m.isRouteAlreadyAdded = true ↔ m.ifids ≠ []) ∧
      (s.router.getMember group).bind (fun m => if m.ifids = [] then none else some m.ifids) =
        if m.ifids = [] then none else some m.ifids := by
    have hwas := hr.was
    cases hget : s.router.getMember group with
    | some m' =>
      rw [hget] at hwas
      have hm' : m' = m := hwas
      rw [hm'] at hget ⊢
      exact ⟨h.nodup _ _ hget, h.ifids _ _ hget, h.added _ _ hget, rfl⟩
    | none =>
      rw [hget] at hwas
      have hm' : (IgmpRouterDb.alloc group).member = m := hwas
      rw [← hm']
      refine ⟨List.nodup_nil, fun i => iff_of_false List.not_mem_nil fun hi => ?_,
        iff_of_false Bool.false_ne_true (absurd rfl), rfl⟩
      have hsome := h.member group i hi
      rw [hget] at hsome
      cases hsome
  obtain ⟨hnodup, hifids, hadded, hroute⟩ := hm
  have hne : (m.report ifid time).ifids ≠ [] := List.ne_nil_of_mem ((mem_ifids_report hadded).2 (.inl rfl))
  have hall : ∀ {P : Ip → Member Ip → Prop}, P group (m.report ifid time) →
      (∀ g m, g ≠ group → s.router.getMember g = some m → P g m) →
      ∀ g m, s'.router.getMember g = some m → P g m := by
    intro P hP hold g m' hm'
    rw [hr.getMember] at hm'
    split at hm'
    · next hg =>
      cases hm'
      exact hg ▸ hP
    · next hg => exact hold g m' hg hm'
  have htimes : ∀ {P : ℚ → Prop}, P time → (∀ g i, ∀ t ∈ s.lastReport g i, P t) →
      ∀ g i, ∀ t ∈ s'.lastReport g i, P t := by
    intro P hP hold g i t ht
    by_cases hg : g = group
    · rw [hg, hself] at ht
      split at ht
      · cases ht
        exact hP
      · exact hold _ _ t ht
    · rw [hother g hg] at ht
      exact hold g i t ht
  refine
    { fresh := ?_
      past := ?_
      nodup := hall (nodup_ifids_report hnodup) fun g m _ hm => h.nodup g m hm
      ifids := hall (fun i => ?_) fun g m hg hm => hother g hg ▸ h.ifids g m hm
      started := hall (iff_of_true rfl hne) fun g m _ hm => h.started g m hm
      added := hall (iff_of_true ?_ hne) fun g m _ hm => h.added g m hm
      rcv := hall (fun i t ht => ?_) fun g m hg hm => hother g hg ▸ h.rcv g m hm
      member := fun g i hi => ?_
      routes := ?_
      route := fun g => ?_
      joined := ?_ }
  · rw [hnow]
    exact htimes (lt_add_of_pos_right _ hpos) hfresh
  · rw [hnow]
    exact htimes (le_refl _) fun g i t ht => (h.past g i t ht).trans hle
  · rw [mem_ifids_report hadded, hifids, hself]
    split
    · next hi => exact iff_of_true (.inl hi) rfl
    · next hi => exact or_iff_right hi
  · unfold Member.report
    by_cases hin : ifid ∈ m.ifids
    · rw [hadded.2 (List.ne_nil_of_mem hin), Bool.true_or]
    · rw [decide_eq_true hin, Bool.or_true]
  · rw [hself] at ht
    split at ht
    · cases ht
      exact le_refl _
    · exact (h.past group i t ht).trans hle
  · rw [hr.getMember]
    split
    · rfl
    · next hg => exact h.member g i (hother g hg ▸ hi)
  · rw [hr.routes]
    split
    · exact h.routes
    · split
      · exact nodup_modifyFirst (fun _ hr => hr) h.routes
      · next hset =>
        refine nodup_append_single h.routes ?_
        have hnil : m.ifids = [] := by
          by_contra hne
          exact hset (hadded.2 hne)
        have hlook := h.route group
        rw [hroute, if_pos hnil] at hlook
        exact Option.map_eq_none_iff.1 hlook
  · rw [hr.getMember, hr.routes]
    by_cases hg : g = group
    · rw [hg, if_pos rfl, Option.bind_some, if_neg hne]
      exact route_report hadded ((h.route group).trans hroute)
    · rw [if_neg hg, ← h.route g]
      exact congrArg _ (lookup_report_ne hg)
  · rw [hr.joined, hr.groups, h.joined]

theorem Tracks.not_expired (h : s.Tracks cfg) (hk : s.Kept cfg)
    (hx : s.router.timers[n]? = some x) (hsev : x.sev = .igmpGroupMembershipTimer)
    (hfresh : s.Fresh cfg x.dEventTime) : ¬ Expired cfg m x (s.router.takeTimer n) router' := by
  intro hexp
  have hcount := hk.length_filter hx hsev x.group
  rw [if_pos rfl] at hcount
  have hwas : s.router.getMember x.group = some m := hexp.was
  have hset : m.isGroupMembershipTimerStarted = true := by
    by_contra hset
    rw [hwas, if_neg (show ¬ (some m).any Member.isGroupMembershipTimerStarted = true from hset)] at hcount
    omega
  obtain ⟨i, hi⟩ := List.exists_mem_of_ne_nil _ ((h.started _ m hwas).1 hset)
  obtain ⟨t, ht⟩ := Option.isSome_iff_exists.1 ((h.ifids _ m hwas i).1 hi)
  have hlt : x.dEventTime < t + membershipDelay cfg := hfresh x.group i t ht
  have hle : t ≤ m.reportRcvTime := h.rcv _ m hwas i t ht
  exact absurd hexp.old (not_le.2 (hlt.trans_le (add_le_add_left hle _)))

theorem Tracks.step (h : s.Tracks cfg) (hk : s.Kept cfg) (hmeets : s.Meets cfg a)
    (hs : MembershipState.step cfg s a = some s') : s'.Tracks cfg := by
  cases a with
  | report group ifid time =>
    dsimp only [MembershipState.step] at hs
    split at hs
    · next hat =>
      obtain ⟨router, hr, rfl⟩ := Option.map_eq_some_iff.1 hs
      obtain ⟨m, hr⟩ := reported_processReport hr
      exact h.report hr hmeets.1 hmeets.2 hat.1 rfl rfl
    · cases hs
  | query src group time =>
    dsimp only [MembershipState.step] at hs
    split at hs
    · next hat =>
      obtain ⟨router, hr, rfl⟩ := Option.map_eq_some_iff.1 hs
      exact h.same (sameMembers_processQuery hr) rfl hmeets hat.1
    · cases hs
  | timer n =>
    dsimp only [MembershipState.step] at hs
    split at hs
    · cases hs
    · next x hx =>
      split at hs
      · next hdue =>
        obtain ⟨router, hr, rfl⟩ := Option.map_eq_some_iff.1 hs
        have hfresh : s.Fresh cfg (max s.now x.dEventTime) :=
          fun g i t ht => max_lt (h.fresh g i t ht) (hmeets x hx g i t ht)
        by_cases hsev : x.sev = .igmpGroupMembershipTimer
        · obtain ⟨m, hexp | hren⟩ := handleTimer_membership hsev hr
          · exact absurd hexp (h.not_expired hk hx hsev (hmeets x hx))
          · have hwas : s.router.getMember x.group = some m := hren.was
            have hget : ∀ g, router.getMember g = s.router.getMember g := by
              intro g
              rw [hren.changed.getMember]
              split
              · next hg => rw [hg, hwas]
              · rfl
            exact h.congr hget hren.changed.groups hren.changed.routes hren.changed.joined rfl hfresh
              (le_max_left _ _)
        · exact h.same ((sameMembers_takeTimer hx hsev).trans (sameMembers_handleTimer hsev hr)) rfl
            hfresh (le_max_left _ _)
      · cases hs

end

/-- In every run a group has one entry and one timer at most. As long as no report grows old the
entries, the routes and what PIM knows are those of the recent reports. -/
theorem membership (cfg : RouterConfig Ip) (tr : List (MembershipState Ip × MembershipAction Ip))
    (s : MembershipState Ip) (run : Run (step cfg) (start cfg) tr s) :
    s.Kept cfg ∧ ((∀ x ∈ tr, x.1.Meets cfg x.2) → s.Agrees cfg) := by
  have hkept : ∀ {tr s}, Run (step cfg) (start cfg) tr s → s.Kept cfg :=
    fun run => run.always (P := fun s => s.Kept cfg) kept_start fun _ _ _ h hs => h.step hs
  refine ⟨hkept run, fun hmeets => ?_⟩
  have htracks : s.Tracks cfg := run.induction (P := fun _ s => s.Tracks cfg)
    (Q := fun s a => s.Meets cfg a) tracks_start
    (fun _ _ _ _ run h hmeet hs => h.step (hkept run) hmeet hs) hmeets
  exact htracks.agrees (hkept run)

def exampleConfig : RouterConfig ℕ :=
  { igmp := { robustnessVar := 1, queryInterval := 1000, queryResponseInterval := 1 }
    interfaces := [(1, true)]
    getIpFromSameSubnet := fun _ => some 1
    allInSubnet := 0 }

/-- A report for group 5 gives it an entry and a route. -/
theorem membership_report : ∃ tr s, Run (step exampleConfig) (start exampleConfig) tr s ∧
    s.router.routes = [{ group := 5, ifids := [1] }] ∧ s.Kept exampleConfig ∧
      s.Agrees exampleConfig := by
  have hstep : (step exampleConfig (start exampleConfig) (.report 5 1 2000)).any
      (fun s => decide (s.router.routes = [{ group := 5, ifids := [1] }])) = true := by
    decide +kernel
  obtain ⟨s, hs, hroutes⟩ := (Option.any_eq_true _ _).1 hstep
  have run : Run (step exampleConfig) (start exampleConfig)
      [(start exampleConfig, .report 5 1 2000)] s := Run.nil.snoc hs
  obtain ⟨hkept, hagrees⟩ := membership exampleConfig _ s run
  refine ⟨_, s, run, of_decide_eq_true hroutes, hkept, hagrees ?_⟩
  exact List.forall_mem_singleton.2 ⟨nofun, by decide +kernel⟩

/-- The only report for group 5 grows old; the entry goes, and the route stays. -/
theorem not_membership : ¬ ∀ (cfg : RouterConfig ℕ)
    (tr : List (MembershipState ℕ × MembershipAction ℕ)) (s : MembershipState ℕ),
    Run (step cfg) (start cfg) tr s → s.Kept cfg ∧ s.Agrees cfg := by
  intro h
  have hexec : (exec (step exampleConfig) (start exampleConfig)
      ([.report 5 1 2000, .timer 0, .timer 1, .timer 0].map fun a _ => some a)).any
      (fun x => decide ((lookup MulticastRoute.group 5 x.2.router.routes).isSome ∧
        x.2.router.getMember 5 = none)) = true := by
    decide +kernel
  obtain ⟨tr, s, run, htest⟩ := run_of_exec hexec
  obtain ⟨hroute, hmember⟩ := of_decide_eq_true htest
  have hagree := (h exampleConfig tr s run).2.route 5
  rw [hmember] at hagree
  rw [Option.map_eq_none_iff.1 hagree] at hroute
  cases hroute

end MembershipState

end NetSim.Ip
