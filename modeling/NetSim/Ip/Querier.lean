import NetSim.Ip.Igmp

/-!
# The querier role of a router

`Role` is what an entry keeps of the election; every handler has one lemma about it, in terms of
`Acted`.
-/

namespace NetSim.Ip

open NetSim.Lib

structure Role where
  state : IgmpRouterState
  isOtherquerierTimerStarted : Bool
  otherQuerierPresentTime : ℚ
deriving DecidableEq

variable {Ip : Type}

def IgmpRouterDb.role (db : IgmpRouterDb Ip) : Role :=
  { state := db.state
    isOtherquerierTimerStarted := db.isOtherquerierTimerStarted
    otherQuerierPresentTime := db.otherQuerierPresentTime }

/-- `QueryPresentInterval`, in microseconds. -/
def queryPresentDelay (igmp : IgmpVar) : ℚ := getSubeventDelay igmp .igmpOtherQuerierPresentTimer

theorem getSubeventDelay_nonneg {igmp : IgmpVar} {sev : IpSubevent} : 0 ≤ getSubeventDelay igmp sev := by
  cases sev <;> (unfold getSubeventDelay second; positivity)

def IpSubevent.IsQuery (sev : IpSubevent) : Prop :=
  sev = .igmpSendStartupQuery ∨ sev = .igmpSendQuery

instance (sev : IpSubevent) : Decidable sev.IsQuery := inferInstanceAs (Decidable (_ ∨ _))

def RouterConfig.broadcastAddrs (cfg : RouterConfig Ip) : List Ip :=
  (cfg.interfaces.filter Prod.snd).map Prod.fst

namespace IgmpRouter

variable [DecidableEq Ip]

def getRole (router : IgmpRouter Ip) (group : Ip) : Option Role :=
  (router.getMulticastDb group).map IgmpRouterDb.role

/-- The role of a group becomes `role`, and timers and queries are added. -/
structure Acted (group : Ip) (role : Role) (new : List (IgmpTimer Ip)) (sent : List (IgmpQuery Ip))
    (router router' : IgmpRouter Ip) : Prop where
  getRole : ∀ h, router'.getRole h = if h = group then some role else router.getRole h
  timers : router'.timers = router.timers ++ new
  queries : router'.queries = router.queries ++ sent

section
variable {cfg : RouterConfig Ip} {router router' router'' : IgmpRouter Ip} {group : Ip} {time : ℚ}
  {f : IgmpRouterDb Ip → IgmpRouterDb Ip} {role role' : Role} {new new' : List (IgmpTimer Ip)}
  {sent sent' : List (IgmpQuery Ip)} {db : IgmpRouterDb Ip}

theorem Acted.trans (h : Acted group role new sent router router')
    (h' : Acted group role' new' sent' router' router'') :
    Acted group role' (new ++ new') (sent ++ sent') router router'' := by
  refine ⟨fun g => ?_, ?_, ?_⟩
  · rw [h'.getRole, h.getRole]
    split <;> rfl
  · rw [h'.timers, h.timers, List.append_assoc]
  · rw [h'.queries, h.queries, List.append_assoc]

theorem Acted.getRole_self (h : Acted group role new sent router router') :
    router'.getRole group = some role := by
  rw [h.getRole, if_pos rfl]

theorem getRole_of_getMulticastDb (h : router.getMulticastDb group = some db) :
    router.getRole group = some db.role := by
  unfold getRole
  rw [h]
  rfl

theorem acted_refl (h : router.getRole group = some role) : Acted group role [] [] router router := by
  refine ⟨fun g => ?_, (List.append_nil _).symm, (List.append_nil _).symm⟩
  split
  · next hg => rw [hg, h]
  · rfl

theorem acted_modifyDb (h : router.getMulticastDb group = some db) (hf : ∀ db, (f db).group = db.group)
    (hrole : (f db).role = role) : Acted group role [] [] router (router.modifyDb group f) := by
  refine ⟨fun g => ?_, (List.append_nil _).symm, (List.append_nil _).symm⟩
  have hlook : (router.modifyDb group f).getMulticastDb g =
      if g = group then (router.getMulticastDb group).map f else router.getMulticastDb g :=
    lookup_modifyFirst hf
  unfold getRole
  rw [hlook, h]
  split
  · exact congrArg some hrole
  · rfl

theorem acted_timers {x : IgmpTimer Ip} (h : router.getRole group = some role) :
    Acted group role [x] [] router { router with timers := router.timers ++ [x] } := by
  refine ⟨fun g => ?_, rfl, (List.append_nil _).symm⟩
  split
  · next hg => exact hg ▸ h
  · rfl

def queriesOf (cfg : RouterConfig Ip) (group : Ip) : List (IgmpQuery Ip) :=
  (cfg.interfaces.filter Prod.snd).map fun i => { szSourceIP := i.1, group }

theorem acted_sendQueryMsg_querier (hrole : router.getRole group = some role)
    (hstate : role.state = .querier) (h : router.sendQueryMsg cfg group time = some router') :
    ∃ sev, sev.IsQuery ∧
      Acted group role [IgmpTimer.start cfg.igmp sev group time] (queriesOf cfg group) router router' := by
  unfold sendQueryMsg at h
  cases hdb : router.getMulticastDb group with
  | none =>
    rw [hdb] at h
    cases h
  | some db =>
    have hdbrole : db.role = role := Option.some.inj ((getRole_of_getMulticastDb hdb).symm.trans hrole)
    rw [hdb] at h
    dsimp only at h
    have hne : db.state ≠ .nonQuerier := by
      rw [show db.state = .querier from (congrArg Role.state hdbrole).trans hstate]
      exact nofun
    rw [if_neg hne] at h
    cases h
    refine ⟨if db.sentCount ≥ cfg.igmp.robustnessVar then .igmpSendQuery else .igmpSendStartupQuery, ?_, ?_⟩
    · split
      · exact .inr rfl
      · exact .inl rfl
    · have hdb' : ({ router with queries := router.queries ++ queriesOf cfg group } : IgmpRouter Ip).getMulticastDb
          group = some db := hdb
      have hmod : Acted group role [] [] { router with queries := router.queries ++ queriesOf cfg group }
          (({ router with queries := router.queries ++ queriesOf cfg group } : IgmpRouter Ip).modifyDb group
            fun db => { db with sentCount := (db.sentCount + 1) % 2 ^ 32 }) := by
        refine acted_modifyDb hdb' ?_ hdbrole
        exact fun _ => rfl
      exact { hmod.trans (acted_timers hmod.getRole_self) with queries := rfl }

theorem sendQueryMsg_nonQuerier (hrole : router.getRole group = some role)
    (hstate : role.state = .nonQuerier) : router.sendQueryMsg cfg group time = some router := by
  unfold sendQueryMsg
  cases hdb : router.getMulticastDb group with
  | none =>
    unfold getRole at hrole
    rw [hdb] at hrole
    cases hrole
  | some db =>
    have hdbrole : db.role = role := Option.some.inj ((getRole_of_getMulticastDb hdb).symm.trans hrole)
    exact if_pos ((congrArg Role.state hdbrole).trans hstate)

theorem exists_getMulticastDb (hrole : router.getRole group = some role) :
    ∃ db, router.getMulticastDb group = some db ∧ db.role = role :=
  Option.map_eq_some_iff.1 hrole

theorem exists_sendQueryMsg (cfg : RouterConfig Ip) (time : ℚ) (hrole : router.getRole group = some role) :
    ∃ router', router.sendQueryMsg cfg group time = some router' := by
  obtain ⟨db, hdb, -⟩ := exists_getMulticastDb hrole
  unfold sendQueryMsg
  rw [hdb]
  dsimp only
  split
  · exact ⟨_, rfl⟩
  · exact ⟨_, rfl⟩

def freshRole : Role := { state := .querier, isOtherquerierTimerStarted := false, otherQuerierPresentTime := 0 }

theorem acted_startMembershipTimer (cfg : RouterConfig Ip) (time : ℚ)
    (hdb : router.getMulticastDb group = some db) : ∃ router' new sent,
      router.startMembershipTimer cfg group time db = some router' ∧
      Acted group db.role new sent router router' ∧
      ((db.isGroupMembershipTimerStarted = true ∧ new = [] ∧ sent = []) ∨
        (db.isGroupMembershipTimerStarted = false ∧ db.state = .nonQuerier ∧
          new = [IgmpTimer.start cfg.igmp .igmpGroupMembershipTimer group time] ∧ sent = []) ∨
        (db.isGroupMembershipTimerStarted = false ∧ db.state = .querier ∧ ∃ sev, sev.IsQuery ∧
          new = [IgmpTimer.start cfg.igmp .igmpGroupMembershipTimer group time,
            IgmpTimer.start cfg.igmp sev group time] ∧ sent = queriesOf cfg group)) := by
  have hrole := getRole_of_getMulticastDb hdb
  unfold startMembershipTimer
  split
  · next hset => exact ⟨router, [], [], rfl, acted_refl hrole, .inl ⟨hset, rfl, rfl⟩⟩
  · next hset =>
    have hset' : db.isGroupMembershipTimerStarted = false := eq_false_of_ne_true hset
    have hstart : Acted group db.role [IgmpTimer.start cfg.igmp .igmpGroupMembershipTimer group time] []
        router (router.startTimer cfg .igmpGroupMembershipTimer group time) := acted_timers hrole
    have hflag : Acted group db.role [] []
        (router.startTimer cfg .igmpGroupMembershipTimer group time)
        ((router.startTimer cfg .igmpGroupMembershipTimer group time).modifyDb group fun db =>
          { db with isGroupMembershipTimerStarted := true }) := by
      have hdb' : (router.startTimer cfg .igmpGroupMembershipTimer group time).getMulticastDb group =
          some db := hdb
      refine acted_modifyDb hdb' ?_ rfl
      exact fun _ => rfl
    have hboth := hstart.trans hflag
    obtain ⟨router', hquery⟩ := exists_sendQueryMsg cfg time hboth.getRole_self
    cases hstate : db.state with
    | nonQuerier =>
      have hsame := (sendQueryMsg_nonQuerier hboth.getRole_self hstate).symm.trans hquery
      cases hsame
      exact ⟨_, _, _, hquery, hboth, .inr (.inl ⟨hset', rfl, rfl, rfl⟩)⟩
    | querier =>
      obtain ⟨sev, hsev, hacted⟩ := acted_sendQueryMsg_querier hboth.getRole_self hstate hquery
      exact ⟨_, _, _, hquery, hboth.trans hacted, .inr (.inr ⟨hset', rfl, sev, hsev, rfl, rfl⟩)⟩

theorem acted_addIpRoute {ifid : ℕ} (hdb : router.getMulticastDb group = some db) :
    Acted group db.role [] [] router (router.addIpRoute db ifid) := by
  have hgroup : db.group = group := (lookup_some hdb).2
  unfold addIpRoute
  rw [hgroup]
  split
  · have hmod : Acted group db.role [] [] router
        (router.modifyDb group fun x => { x with ifids := db.ifids ++ [ifid] }) := by
      refine acted_modifyDb hdb ?_ rfl
      exact fun _ => rfl
    exact ⟨hmod.getRole, hmod.timers, hmod.queries⟩
  · have hmod : Acted group db.role [] [] router
        (router.modifyDb group fun x => { x with isRouteAlreadyAdded := true, ifids := [ifid] }) := by
      refine acted_modifyDb hdb ?_ rfl
      exact fun _ => rfl
    exact ⟨hmod.getRole, hmod.timers, hmod.queries⟩

theorem acted_joinMulticastGroup (router : IgmpRouter Ip) (group : Ip) :
    Acted group ((router.getRole group).getD freshRole) [] [] router (router.joinMulticastGroup group) := by
  refine ⟨fun g => ?_, ?_, ?_⟩
  · unfold getRole
    rw [getMulticastDb_joinMulticastGroup]
    split
    · cases router.getMulticastDb group with
      | none => rfl
      | some db => rfl
    · rfl
  · unfold joinMulticastGroup
    cases router.getMulticastDb group with
    | none => exact (List.append_nil _).symm
    | some db => exact (List.append_nil _).symm
  · unfold joinMulticastGroup
    cases router.getMulticastDb group with
    | none => exact (List.append_nil _).symm
    | some db => exact (List.append_nil _).symm

def MembershipStarted (router : IgmpRouter Ip) (group : Ip) : Prop :=
  ∃ db ∈ router.getMulticastDb group, db.isGroupMembershipTimerStarted = true
deriving Decidable

/-- What a report puts in for a group with `role`. -/
def ReportActs (cfg : RouterConfig Ip) (group : Ip) (time : ℚ) (role : Role) (started : Prop)
    (new : List (IgmpTimer Ip)) (sent : List (IgmpQuery Ip)) : Prop :=
  (started ∧ new = [] ∧ sent = []) ∨
    (¬ started ∧ role.state = .nonQuerier ∧
      new = [IgmpTimer.start cfg.igmp .igmpGroupMembershipTimer group time] ∧ sent = []) ∨
    (¬ started ∧ role.state = .querier ∧ ∃ sev, sev.IsQuery ∧
      new = [IgmpTimer.start cfg.igmp .igmpGroupMembershipTimer group time,
        IgmpTimer.start cfg.igmp sev group time] ∧ sent = queriesOf cfg group)

theorem acted_processReport (cfg : RouterConfig Ip) (router : IgmpRouter Ip) (group : Ip) (ifid : ℕ)
    (time : ℚ) : ∃ router' new sent, router.processReport cfg group ifid time = some router' ∧
      Acted group ((router.getRole group).getD freshRole) new sent router router' ∧
      ReportActs cfg group time ((router.getRole group).getD freshRole)
        (router.MembershipStarted group) new sent := by
  have hjoin : Acted group ((router.getRole group).getD freshRole) [] [] router
      (router.joinMulticastGroup group) := acted_joinMulticastGroup _ _
  obtain ⟨db, hdb, hdbrole⟩ := exists_getMulticastDb hjoin.getRole_self
  have hstarted : db.isGroupMembershipTimerStarted = true ↔ router.MembershipStarted group := by
    rw [getMulticastDb_joinMulticastGroup, if_pos rfl] at hdb
    unfold MembershipStarted
    cases hold : router.getMulticastDb group with
    | none =>
      rw [hold] at hdb
      cases hdb
      exact iff_of_false Bool.false_ne_true nofun
    | some db' =>
      rw [hold] at hdb
      cases hdb
      constructor
      · exact fun h => ⟨_, rfl, h⟩
      · rintro ⟨_, ⟨⟩, h⟩
        exact h
  have hset : Acted group ((router.getRole group).getD freshRole) [] [] (router.joinMulticastGroup group)
      ((router.joinMulticastGroup group).modifyDb group fun db => { db with reportRcvTime := time }) := by
    refine acted_modifyDb hdb ?_ hdbrole
    exact fun _ => rfl
  obtain ⟨db1, hdb1, hrole1⟩ := exists_getMulticastDb hset.getRole_self
  have hstarted1 : db1.isGroupMembershipTimerStarted = true ↔ router.MembershipStarted group := by
    rw [← hstarted]
    rw [getMulticastDb_modifyDb, if_pos rfl, hdb] at hdb1
    · cases hdb1
      rfl
    · exact fun _ => rfl
  obtain ⟨router2, new, sent, hstart, hacted, hcase⟩ := acted_startMembershipTimer cfg time hdb1
  rw [hrole1] at hacted
  have hall := (hjoin.trans hset).trans hacted
  obtain ⟨db2, hdb2, hrole2⟩ := exists_getMulticastDb hacted.getRole_self
  have hacts : ReportActs cfg group time ((router.getRole group).getD freshRole)
      (router.MembershipStarted group) new sent := by
    have hstate : db1.state = ((router.getRole group).getD freshRole).state := congrArg Role.state hrole1
    rcases hcase with ⟨h, hnew⟩ | ⟨h, hs, hnew⟩ | ⟨h, hs, hnew⟩
    · exact .inl ⟨hstarted1.1 h, hnew⟩
    · exact .inr (.inl ⟨fun h' => ne_true_of_eq_false h (hstarted1.2 h'), hstate ▸ hs, hnew⟩)
    · exact .inr (.inr ⟨fun h' => ne_true_of_eq_false h (hstarted1.2 h'), hstate ▸ hs, hnew⟩)
  unfold processReport
  simp only [Option.bind_eq_bind]
  rw [hdb1, Option.bind_some, hstart, Option.bind_some, hdb2, Option.bind_some]
  split
  · exact ⟨_, _, _, rfl, hall, hacts⟩
  · have hroute : Acted group ((router.getRole group).getD freshRole) [] [] router2
        (router2.addIpRoute db2 ifid) := hrole2 ▸ acted_addIpRoute hdb2
    refine ⟨_, _, _, rfl, hall.trans hroute, ?_⟩
    simpa only [List.append_nil, List.nil_append] using hacts

/-! ## Queries and timers -/

theorem acted_processQuery [LT Ip] [DecidableLT Ip] {src same : Ip} (time : ℚ)
    (hown : src ∉ cfg.interfaces.map Prod.fst) (hsame : cfg.getIpFromSameSubnet src = some same)
    (hlt : src < same) (hrole : router.getRole group = some role) :
    ∃ router', router.processQuery cfg src group time = some router' ∧
      Acted group
        { state := .nonQuerier
          isOtherquerierTimerStarted := true
          otherQuerierPresentTime := time }
        (if role.isOtherquerierTimerStarted then []
        else [IgmpTimer.start cfg.igmp .igmpOtherQuerierPresentTimer group time]) [] router router' := by
  obtain ⟨db, hdb, hdbrole⟩ := exists_getMulticastDb hrole
  have hmod : Acted group
      { state := .nonQuerier
        isOtherquerierTimerStarted := true
        otherQuerierPresentTime := time } [] [] router
      (router.modifyDb group fun db =>
        { db with
          state := .nonQuerier
          otherQuerierPresentTime := time
          isOtherquerierTimerStarted := true }) := by
    refine acted_modifyDb hdb ?_ rfl
    exact fun _ => rfl
  have hflag : db.isOtherquerierTimerStarted = role.isOtherquerierTimerStarted :=
    congrArg Role.isOtherquerierTimerStarted hdbrole
  unfold processQuery
  rw [if_neg hown, hsame]
  dsimp only
  rw [if_pos hlt, hdb]
  dsimp only
  rw [hflag]
  split
  · exact ⟨_, rfl, hmod⟩
  · exact ⟨_, rfl, hmod.trans (acted_timers hmod.getRole_self)⟩

theorem processQuery_eq_self [LT Ip] [DecidableLT Ip] {src same : Ip} (time : ℚ)
    (h : src ∈ cfg.interfaces.map Prod.fst ∨ cfg.getIpFromSameSubnet src = some same ∧ ¬ src < same) :
    router.processQuery cfg src group time = some router := by
  unfold processQuery
  split
  · rfl
  · next hown =>
    obtain ⟨hsame, hlt⟩ := h.resolve_left hown
    rw [hsame]
    exact if_neg hlt

theorem acted_processOtherQuerierPresentTime (hrole : router.getRole group = some role)
    (hexp : role.otherQuerierPresentTime + queryPresentDelay cfg.igmp ≤ time) :
    ∃ router' sev, router.processOtherQuerierPresentTime cfg group time = some router' ∧ sev.IsQuery ∧
      Acted group { role with state := .querier } [IgmpTimer.start cfg.igmp sev group time]
        (queriesOf cfg group) router router' := by
  obtain ⟨db, hdb, rfl⟩ := exists_getMulticastDb hrole
  have hmod : Acted group { db.role with state := .querier } [] [] router
      (router.modifyDb group fun db => { db with state := .querier }) := by
    refine acted_modifyDb hdb ?_ rfl
    exact fun _ => rfl
  obtain ⟨router', hquery⟩ := exists_sendQueryMsg cfg time hmod.getRole_self
  obtain ⟨sev, hsev, hacted⟩ := acted_sendQueryMsg_querier hmod.getRole_self rfl hquery
  refine ⟨router', sev, ?_, hsev, hmod.trans hacted⟩
  unfold processOtherQuerierPresentTime
  rw [hdb]
  exact (if_pos hexp).trans hquery

theorem acted_processGroupMembershipTimer (hdb : router.getMulticastDb group = some db)
    (hnew : time < db.reportRcvTime + getSubeventDelay cfg.igmp .igmpGroupMembershipTimer) :
    ∃ router' x, router.processGroupMembershipTimer cfg group time = some router' ∧
      x.sev = .igmpGroupMembershipTimer ∧ x.group = group ∧ time ≤ x.dEventTime ∧
      Acted group db.role [x] [] router router' := by
  unfold processGroupMembershipTimer
  rw [hdb]
  let x : IgmpTimer Ip :=
    { sev := .igmpGroupMembershipTimer
      group
      dEventTime := db.reportRcvTime + getSubeventDelay cfg.igmp .igmpGroupMembershipTimer }
  exact ⟨_, x, if_neg (not_le.2 hnew), rfl, rfl, hnew.le, acted_timers (getRole_of_getMulticastDb hdb)⟩

end

def timersOf (router : IgmpRouter Ip) (group : Ip) : List (IgmpTimer Ip) :=
  router.timers.filter fun x => x.group = group

theorem timersOf_acted {router router' : IgmpRouter Ip} {group : Ip} {role : Role}
    {new : List (IgmpTimer Ip)} {sent : List (IgmpQuery Ip)}
    (h : Acted group role new sent router router') (hnew : ∀ x ∈ new, x.group = group) (g : Ip) :
    router'.timersOf g = if g = group then router.timersOf group ++ new else router.timersOf g := by
  unfold timersOf
  rw [h.timers, List.filter_append]
  by_cases hg : g = group
  · rw [if_pos hg, hg, List.filter_eq_self.2 fun x hx => decide_eq_true (hnew x hx)]
  · have hnil : new.filter (fun x => x.group = g) = [] :=
      List.filter_eq_nil_iff.2 fun x hx hgroup => hg ((of_decide_eq_true hgroup).symm.trans (hnew x hx))
    rw [if_neg hg, hnil, List.append_nil]

theorem timersOf_takeTimer {router : IgmpRouter Ip} {n : ℕ} {x : IgmpTimer Ip}
    (hx : router.timers[n]? = some x) :
    (x :: (router.takeTimer n).timersOf x.group).Perm (router.timersOf x.group) := by
  obtain ⟨hn, hget⟩ := List.getElem?_eq_some_iff.1 hx
  have hperm : (x :: router.timers.eraseIdx n).Perm router.timers :=
    hget ▸ List.getElem_cons_eraseIdx_perm hn
  have hcons : (x :: router.timers.eraseIdx n).filter (fun y => y.group = x.group) =
      x :: (router.timers.eraseIdx n).filter fun y => y.group = x.group :=
    List.filter_cons_of_pos (decide_eq_true rfl)
  have hfilter := hperm.filter fun y => y.group = x.group
  rw [hcons] at hfilter
  exact hfilter

theorem timersOf_takeTimer_ne {router : IgmpRouter Ip} {n : ℕ} {x : IgmpTimer Ip} {g : Ip}
    (hx : router.timers[n]? = some x) (hg : g ≠ x.group) :
    (router.takeTimer n).timersOf g = router.timersOf g :=
  filter_eraseIdx_of_neg hx (decide_eq_false hg.symm)

end IgmpRouter

/-! ## One group of a router -/

def queryTimers (timers : List (IgmpTimer Ip)) : List (IgmpTimer Ip) := timers.filter fun x => x.sev.IsQuery

def otherQuerierTimers (timers : List (IgmpTimer Ip)) : List (IgmpTimer Ip) :=
  timers.filter fun x => x.sev = .igmpOtherQuerierPresentTimer

/-- The role and the timers of a group. `heard` are the lower addresses heard since the router was
querier, `last` is the time of the last one. -/
structure GroupInv (igmp : IgmpVar) (now : ℚ) (heard : List Ip) (last : ℚ) (role : Option Role)
    (timers : List (IgmpTimer Ip)) : Prop where
  entry : role = none → timers = [] ∧ heard = []
  querier : ∀ r ∈ role, r.state = .querier ↔ heard = []
  query : ∀ r ∈ role, r.state = .querier →
    (queryTimers timers).length = 1 ∧ otherQuerierTimers timers = []
  other : ∀ r ∈ role, r.state = .nonQuerier →
    r.isOtherquerierTimerStarted = true ∧ r.otherQuerierPresentTime = last ∧ last ≤ now ∧
      ∃ h ≤ last, (otherQuerierTimers timers).map IgmpTimer.dEventTime = [h + queryPresentDelay igmp]
  future : ∀ x ∈ timers, now ≤ x.dEventTime

namespace GroupInv

variable {igmp : IgmpVar} {now now' time last : ℚ} {heard : List Ip} {role : Option Role} {r : Role}
  {timers base : List (IgmpTimer Ip)} {x y : IgmpTimer Ip} {src : Ip}

theorem none (igmp : IgmpVar) (now last : ℚ) :
    GroupInv igmp now ([] : List Ip) last Option.none [] :=
  ⟨fun _ => ⟨rfl, rfl⟩, nofun, nofun, nofun, nofun⟩

theorem tick (h : GroupInv igmp now heard last role timers) (hle : now ≤ now')
    (hnow : ∀ x ∈ timers, now' ≤ x.dEventTime) : GroupInv igmp now' heard last role timers :=
  { h with
    other := fun r hr hs => by
      obtain ⟨hflag, htime, hlast, hother⟩ := h.other r hr hs
      exact ⟨hflag, htime, hlast.trans hle, hother⟩
    future := hnow }

theorem queryTimers_append : queryTimers (timers ++ [x]) = queryTimers timers ++ queryTimers [x] :=
  List.filter_append ..

theorem otherQuerierTimers_append :
    otherQuerierTimers (timers ++ [x]) = otherQuerierTimers timers ++ otherQuerierTimers [x] :=
  List.filter_append ..

theorem queryTimers_cons (hx : x.sev.IsQuery) : queryTimers (x :: timers) = x :: queryTimers timers :=
  List.filter_cons_of_pos (decide_eq_true hx)

theorem queryTimers_cons_of_not (hx : ¬ x.sev.IsQuery) : queryTimers (x :: timers) = queryTimers timers :=
  List.filter_cons_of_neg (by rw [decide_eq_true_eq]; exact hx)

theorem otherQuerierTimers_cons (hx : x.sev = .igmpOtherQuerierPresentTimer) :
    otherQuerierTimers (x :: timers) = x :: otherQuerierTimers timers :=
  List.filter_cons_of_pos (decide_eq_true hx)

theorem otherQuerierTimers_cons_of_ne (hx : x.sev ≠ .igmpOtherQuerierPresentTimer) :
    otherQuerierTimers (x :: timers) = otherQuerierTimers timers :=
  List.filter_cons_of_neg (by rw [decide_eq_true_eq]; exact hx)

theorem queryTimers_perm (h : base.Perm timers) : (queryTimers base).Perm (queryTimers timers) :=
  h.filter _

theorem otherQuerierTimers_perm (h : base.Perm timers) :
    (otherQuerierTimers base).Perm (otherQuerierTimers timers) :=
  h.filter _

theorem isQuery_ne (hx : x.sev.IsQuery) : x.sev ≠ .igmpOtherQuerierPresentTimer := by
  rcases hx with hx | hx <;> (rw [hx]; exact nofun)

theorem future_append (h : ∀ x ∈ timers, now ≤ x.dEventTime) (hx : now ≤ x.dEventTime) :
    ∀ y ∈ timers ++ [x], now ≤ y.dEventTime := by
  intro y hy
  rcases List.mem_append.1 hy with hy | hy
  · exact h y hy
  · exact List.mem_singleton.1 hy ▸ hx

theorem append (h : GroupInv igmp now heard last (some r) timers) (hx : x.sev = .igmpGroupMembershipTimer)
    (hnow : now ≤ x.dEventTime) : GroupInv igmp now heard last (some r) (timers ++ [x]) := by
  have hquery : queryTimers (timers ++ [x]) = queryTimers timers := by
    rw [queryTimers_append, queryTimers_cons_of_not, show queryTimers ([] : List (IgmpTimer Ip)) = [] from rfl,
      List.append_nil]
    rw [hx]
    decide
  have hother : otherQuerierTimers (timers ++ [x]) = otherQuerierTimers timers := by
    rw [otherQuerierTimers_append, otherQuerierTimers_cons_of_ne,
      show otherQuerierTimers ([] : List (IgmpTimer Ip)) = [] from rfl, List.append_nil]
    rw [hx]
    exact nofun
  refine ⟨nofun, h.querier, fun r hr hs => ?_, fun r hr hs => ?_, future_append h.future hnow⟩
  · rw [hquery, hother]
    exact h.query r hr hs
  · rw [hother]
    exact h.other r hr hs

theorem appendQuery (hs : r.state = .querier) (hquery : queryTimers timers = [])
    (hother : otherQuerierTimers timers = []) (hfuture : ∀ x ∈ timers, now ≤ x.dEventTime)
    (hx : x.sev.IsQuery) (hnow : now ≤ x.dEventTime) :
    GroupInv igmp now ([] : List Ip) last (some r) (timers ++ [x]) := by
  refine ⟨nofun, ?_, ?_, ?_, future_append hfuture hnow⟩
  · rintro _ ⟨⟩
    exact iff_of_true hs rfl
  · rintro _ ⟨⟩ -
    rw [queryTimers_append, hquery, queryTimers_cons hx, otherQuerierTimers_append, hother,
      otherQuerierTimers_cons_of_ne (isQuery_ne hx)]
    exact ⟨rfl, rfl⟩
  · rintro _ ⟨⟩ hs'
    rw [hs] at hs'
    cases hs'

section

variable (h : GroupInv igmp now heard last (some r) timers)

include h

theorem erase (hperm : (x :: base).Perm timers)
    (hx : x.sev ≠ .igmpOtherQuerierPresentTimer) (hquery : x.sev.IsQuery → r.state = .nonQuerier) :
    GroupInv igmp now heard last (some r) base := by
  have hfuture : ∀ y ∈ base, now ≤ y.dEventTime := fun y hy =>
    h.future y (hperm.subset (List.mem_cons_of_mem _ hy))
  have hother : (otherQuerierTimers base).Perm (otherQuerierTimers timers) := by
    have hfilter := otherQuerierTimers_perm hperm
    rw [otherQuerierTimers_cons_of_ne hx] at hfilter
    exact hfilter
  refine ⟨nofun, h.querier, ?_, ?_, hfuture⟩
  · rintro _ ⟨⟩ hs
    obtain ⟨hlen, hnil⟩ := h.query r rfl hs
    have hnot : ¬ x.sev.IsQuery := by
      intro hx
      have hs' := hquery hx
      rw [hs] at hs'
      cases hs'
    have hfilter := queryTimers_perm hperm
    rw [queryTimers_cons_of_not hnot] at hfilter
    rw [hnil] at hother
    exact ⟨hfilter.length_eq.trans hlen, hother.eq_nil⟩
  · rintro _ ⟨⟩ hs
    obtain ⟨hflag, htime, hlast, t, ht, hmap⟩ := h.other r rfl hs
    have hmap' := hother.map IgmpTimer.dEventTime
    rw [hmap] at hmap'
    exact ⟨hflag, htime, hlast, t, ht, hmap'.eq_singleton⟩

theorem resend (hperm : (x :: base).Perm timers)
    (hs : r.state = .querier) (hx : x.sev.IsQuery) (hy : y.sev.IsQuery) (hnow : now ≤ y.dEventTime) :
    GroupInv igmp now heard last (some r) (base ++ [y]) := by
  obtain ⟨hlen, hnil⟩ := h.query r rfl hs
  have hquery : (queryTimers base).length = 0 := by
    have hfilter := queryTimers_perm hperm
    rw [queryTimers_cons hx] at hfilter
    exact Nat.succ.inj (hfilter.length_eq.trans hlen)
  have hother : otherQuerierTimers base = [] := by
    have hfilter := otherQuerierTimers_perm hperm
    rw [otherQuerierTimers_cons_of_ne (isQuery_ne hx)] at hfilter
    exact (hfilter.trans (.of_eq hnil)).eq_nil
  have hheard : heard = [] := (h.querier r rfl).1 hs
  rw [hheard]
  exact appendQuery hs (List.eq_nil_of_length_eq_zero hquery) hother
    (fun y hy => h.future y (hperm.subset (List.mem_cons_of_mem _ hy))) hy hnow

theorem takeOver (hperm : (x :: base).Perm timers)
    (hs : r.state = .nonQuerier) (hx : x.sev = .igmpOtherQuerierPresentTimer)
    (hquery : queryTimers timers = []) (hy : y.sev.IsQuery) (hnow : now ≤ y.dEventTime) :
    GroupInv igmp now ([] : List Ip) last (some { r with state := .querier }) (base ++ [y]) := by
  obtain ⟨-, -, -, t, -, hmap⟩ := h.other r rfl hs
  have hlen : (otherQuerierTimers timers).length = 1 := by
    rw [← List.length_map IgmpTimer.dEventTime, hmap]
    rfl
  have hother : (otherQuerierTimers base).length = 0 := by
    have hfilter := otherQuerierTimers_perm hperm
    rw [otherQuerierTimers_cons hx] at hfilter
    exact Nat.succ.inj (hfilter.length_eq.trans hlen)
  have hnone : queryTimers base = [] := by
    have hsub := (List.sublist_cons_self x base).subperm.trans hperm.subperm
    refine List.filter_eq_nil_iff.2 fun z hz => ?_
    exact List.filter_eq_nil_iff.1 hquery z (hsub.subset hz)
  exact appendQuery rfl hnone (List.eq_nil_of_length_eq_zero hother)
    (fun y hy => h.future y (hperm.subset (List.mem_cons_of_mem _ hy))) hy hnow

theorem lose (hs : r.state = .querier)
    (hx : x.sev = .igmpOtherQuerierPresentTimer) (htime : x.dEventTime = time + queryPresentDelay igmp)
    (hnow : ∀ x ∈ timers, time ≤ x.dEventTime) (src : Ip) :
    GroupInv igmp time (src :: heard) time
      (some { state := .nonQuerier, isOtherquerierTimerStarted := true, otherQuerierPresentTime := time })
      (timers ++ [x]) := by
  have hdelay : time ≤ x.dEventTime := htime ▸ le_add_of_nonneg_right getSubeventDelay_nonneg
  refine ⟨nofun, ?_, ?_, ?_, future_append hnow hdelay⟩
  · rintro _ ⟨⟩
    exact iff_of_false nofun (List.cons_ne_nil _ _)
  · rintro _ ⟨⟩ ⟨⟩
  · rintro _ ⟨⟩ -
    refine ⟨rfl, rfl, le_refl _, time, le_refl _, ?_⟩
    rw [otherQuerierTimers_append, (h.query r rfl hs).2, otherQuerierTimers_cons hx]
    exact congrArg (fun t => [t]) htime

theorem hear (hs : r.state = .nonQuerier)
    (hle : now ≤ time) (hnow : ∀ x ∈ timers, time ≤ x.dEventTime) (src : Ip) :
    GroupInv igmp time (src :: heard) time
      (some { state := .nonQuerier, isOtherquerierTimerStarted := true, otherQuerierPresentTime := time })
      timers := by
  obtain ⟨-, -, hlast, t, ht, hmap⟩ := h.other r rfl hs
  refine ⟨nofun, ?_, ?_, ?_, hnow⟩
  · rintro _ ⟨⟩
    exact iff_of_false nofun (List.cons_ne_nil _ _)
  · rintro _ ⟨⟩ ⟨⟩
  · rintro _ ⟨⟩ -
    exact ⟨rfl, rfl, le_refl _, t, ht.trans (hlast.trans hle), hmap⟩

end

end GroupInv

end NetSim.Ip
