import NetSim.Lib.KeyedList

/-!
# IGMP on a router

The database of groups, its timers, the queries put out and the multicast routes, with the handlers
of reports, queries and timers. A handler that follows a null pointer yields `none`.
-/

namespace NetSim.Ip

open NetSim.Lib

def second : ℚ := 1000000

def igmpStartupDelay : ℚ := 1000

/-- `IGMP_VAR`, in tenths of a second. -/
structure IgmpVar where
  robustnessVar : ℕ
  queryInterval : ℕ
  queryResponseInterval : ℕ
deriving DecidableEq

def IgmpVar.startupQueryInterval (igmp : IgmpVar) : ℕ := igmp.queryInterval / 4

def IgmpVar.groupMembershipInterval (igmp : IgmpVar) : ℕ :=
  (igmp.robustnessVar * igmp.queryInterval + igmp.queryResponseInterval) % 2 ^ 32

def IgmpVar.queryPresentInterval (igmp : IgmpVar) : ℕ :=
  (igmp.robustnessVar * igmp.queryInterval + igmp.queryResponseInterval / 2) % 2 ^ 32

inductive IpSubevent
  | igmpSendStartupQuery
  | igmpSendQuery
  | igmpOtherQuerierPresentTimer
  | igmpGroupMembershipTimer
deriving DecidableEq

def getSubeventDelay (igmp : IgmpVar) : IpSubevent → ℚ
  | .igmpSendStartupQuery => igmp.startupQueryInterval * (1 / 10) * second
  | .igmpSendQuery => igmp.queryInterval * (1 / 10) * second
  | .igmpOtherQuerierPresentTimer => igmp.queryPresentInterval * (1 / 10) * second
  | .igmpGroupMembershipTimer => igmp.groupMembershipInterval * (1 / 10) * second

structure IgmpTimer (Ip : Type) where
  sev : IpSubevent
  group : Ip
  dEventTime : ℚ
deriving DecidableEq

inductive IgmpRouterState
  | querier
  | nonQuerier
deriving DecidableEq

structure IgmpRouterDb (Ip : Type) where
  group : Ip
  state : IgmpRouterState
  isOtherquerierTimerStarted : Bool
  otherQuerierPresentTime : ℚ
  sentCount : ℕ
  isGroupMembershipTimerStarted : Bool
  reportRcvTime : ℚ
  isRouteAlreadyAdded : Bool
  ifids : List ℕ
deriving DecidableEq

structure MulticastRoute (Ip : Type) where
  group : Ip
  ifids : List ℕ
deriving DecidableEq

structure IgmpQuery (Ip : Type) where
  szSourceIP : Ip
  group : Ip
deriving DecidableEq

structure IgmpRouter (Ip : Type) where
  database : List (IgmpRouterDb Ip)
  timers : List (IgmpTimer Ip)
  queries : List (IgmpQuery Ip)
  routes : List (MulticastRoute Ip)
  joined : List Ip
deriving DecidableEq

structure RouterConfig (Ip : Type) where
  igmp : IgmpVar
  interfaces : List (Ip × Bool)
  /-- `get_ip_from_same_subnet`. -/
  getIpFromSameSubnet : Ip → Option Ip
  allInSubnet : Ip

variable {Ip : Type}

/-- `IGMP_ROUTER_DB_ALLOC`. -/
def IgmpRouterDb.alloc (group : Ip) : IgmpRouterDb Ip :=
  { group
    state := .querier
    isOtherquerierTimerStarted := false
    otherQuerierPresentTime := 0
    sentCount := 0
    isGroupMembershipTimerStarted := false
    reportRcvTime := 0
    isRouteAlreadyAdded := false
    ifids := [] }

def IgmpTimer.start (igmp : IgmpVar) (sev : IpSubevent) (group : Ip) (time : ℚ) : IgmpTimer Ip :=
  { sev, group, dEventTime := time + getSubeventDelay igmp sev }

namespace IgmpRouter

variable [DecidableEq Ip] (cfg : RouterConfig Ip) (router : IgmpRouter Ip)

def getMulticastDb (ip : Ip) : Option (IgmpRouterDb Ip) :=
  lookup IgmpRouterDb.group ip router.database

def modifyDb (group : Ip) (f : IgmpRouterDb Ip → IgmpRouterDb Ip) : IgmpRouter Ip :=
  { router with database := modifyFirst IgmpRouterDb.group group f router.database }

def startTimer (sev : IpSubevent) (group : Ip) (time : ℚ) : IgmpRouter Ip :=
  { router with timers := router.timers ++ [IgmpTimer.start cfg.igmp sev group time] }

def joinMulticastGroup (group : Ip) : IgmpRouter Ip :=
  match router.getMulticastDb group with
  | some _ => router
  | none =>
    { router with
      database := router.database ++ [IgmpRouterDb.alloc group]
      joined := router.joined ++ [group] }

def sendQueryMsg (group : Ip) (time : ℚ) : Option (IgmpRouter Ip) :=
  match router.getMulticastDb group with
  | none => none
  | some db =>
    let sev : IpSubevent :=
      if db.sentCount ≥ cfg.igmp.robustnessVar then .igmpSendQuery else .igmpSendStartupQuery
    if db.state = .nonQuerier then some router
    else
      let queries := (cfg.interfaces.filter Prod.snd).map fun i => { szSourceIP := i.1, group }
      some
        (({ router with queries := router.queries ++ queries }.modifyDb group fun db =>
          { db with sentCount := (db.sentCount + 1) % 2 ^ 32 }).startTimer cfg sev group time)

/-- `igmp_router_init`. -/
def init : IgmpRouter Ip :=
  let router : IgmpRouter Ip := { database := [], timers := [], queries := [], routes := [], joined := [] }
  if cfg.interfaces.any Prod.snd then
    let router := router.joinMulticastGroup cfg.allInSubnet
    (router.sendQueryMsg cfg cfg.allInSubnet igmpStartupDelay).getD router
  else router

/-- `router_add_ip_route` for an interface that the entry does not have. -/
def addIpRoute (db : IgmpRouterDb Ip) (ifid : ℕ) : IgmpRouter Ip :=
  if db.isRouteAlreadyAdded then
    let ifids := db.ifids ++ [ifid]
    { router.modifyDb db.group fun db => { db with ifids } with
      routes := modifyFirst MulticastRoute.group db.group (fun r => { r with ifids }) router.routes }
  else
    { router.modifyDb db.group fun db => { db with isRouteAlreadyAdded := true, ifids := [ifid] } with
      routes := router.routes ++ [{ group := db.group, ifids := [ifid] }] }

/-- The report has set the time of the entry; the first one of an entry starts its timer and a
query. -/
def startMembershipTimer (group : Ip) (time : ℚ) (db : IgmpRouterDb Ip) : Option (IgmpRouter Ip) :=
  if db.isGroupMembershipTimerStarted then some router
  else
    ((router.startTimer cfg .igmpGroupMembershipTimer group time).modifyDb group fun db =>
      { db with isGroupMembershipTimerStarted := true }).sendQueryMsg cfg group time

def processReport (group : Ip) (ifid : ℕ) (time : ℚ) : Option (IgmpRouter Ip) := do
  let router := (router.joinMulticastGroup group).modifyDb group fun db =>
    { db with reportRcvTime := time }
  let db ← router.getMulticastDb group
  let router ← router.startMembershipTimer cfg group time db
  let db ← router.getMulticastDb group
  if ifid ∈ db.ifids then some router else some (router.addIpRoute db ifid)

def processQuery [LT Ip] [DecidableLT Ip] (src group : Ip) (time : ℚ) : Option (IgmpRouter Ip) :=
  if src ∈ cfg.interfaces.map Prod.fst then some router
  else
    match cfg.getIpFromSameSubnet src with
    | none => none
    | some same =>
      if src < same then
        match router.getMulticastDb group with
        | none => none
        | some db =>
          let heard := router.modifyDb group fun db =>
            { db with
              state := .nonQuerier
              otherQuerierPresentTime := time
              isOtherquerierTimerStarted := true }
          if db.isOtherquerierTimerStarted then some heard
          else some (heard.startTimer cfg .igmpOtherQuerierPresentTimer group time)
      else some router

/-- `igmp_router_processOtherQuerierPresentTime`. The new time of the timer has the interval as
microseconds. -/
def processOtherQuerierPresentTime (group : Ip) (time : ℚ) : Option (IgmpRouter Ip) :=
  match router.getMulticastDb group with
  | none => none
  | some db =>
    if time ≥ db.otherQuerierPresentTime + cfg.igmp.queryPresentInterval * (1 / 10) * second then
      (router.modifyDb group fun db => { db with state := .querier }).sendQueryMsg cfg group time
    else
      some
        { router with
          timers := router.timers ++
            [{ sev := .igmpOtherQuerierPresentTimer
               group
               dEventTime := db.otherQuerierPresentTime + cfg.igmp.queryPresentInterval }] }

def processGroupMembershipTimer (group : Ip) (time : ℚ) : Option (IgmpRouter Ip) :=
  match router.getMulticastDb group with
  | none => none
  | some db =>
    if time ≥ db.reportRcvTime + cfg.igmp.groupMembershipInterval * (1 / 10) * second then
      some { router with database := eraseFirst IgmpRouterDb.group group router.database }
    else
      some
        { router with
          timers := router.timers ++
            [{ sev := .igmpGroupMembershipTimer
               group
               dEventTime := db.reportRcvTime + cfg.igmp.groupMembershipInterval * (1 / 10) * second }] }

/-- The router without its `n`-th timer. -/
def takeTimer (n : ℕ) : IgmpRouter Ip := { router with timers := router.timers.eraseIdx n }

def handleTimer (timer : IgmpTimer Ip) : Option (IgmpRouter Ip) :=
  match timer.sev with
  | .igmpSendStartupQuery | .igmpSendQuery => router.sendQueryMsg cfg timer.group timer.dEventTime
  | .igmpOtherQuerierPresentTimer =>
    router.processOtherQuerierPresentTime cfg timer.group timer.dEventTime
  | .igmpGroupMembershipTimer => router.processGroupMembershipTimer cfg timer.group timer.dEventTime

section
variable {router : IgmpRouter Ip} {group : Ip} {f : IgmpRouterDb Ip → IgmpRouterDb Ip}

theorem getMulticastDb_modifyDb (hf : ∀ db, (f db).group = db.group) (h : Ip) :
    (router.modifyDb group f).getMulticastDb h =
      if h = group then (router.getMulticastDb group).map f else router.getMulticastDb h :=
  lookup_modifyFirst hf

theorem getMulticastDb_joinMulticastGroup (h : Ip) :
    (router.joinMulticastGroup group).getMulticastDb h =
      if h = group then some ((router.getMulticastDb group).getD (.alloc group))
      else router.getMulticastDb h := by
  unfold joinMulticastGroup
  cases hdb : router.getMulticastDb group with
  | some db =>
    by_cases he : h = group
    · rw [if_pos he, he]
      exact hdb
    · rw [if_neg he]
  | none =>
    unfold getMulticastDb at hdb ⊢
    rw [lookup_append_single]
    by_cases he : h = group
    · rw [if_pos he, he, hdb]
      exact if_pos rfl
    · rw [if_neg he]
      cases lookup IgmpRouterDb.group h router.database with
      | some db => rfl
      | none => exact if_neg (Ne.symm he)

omit [DecidableEq Ip] in
theorem filter_eraseIdx_of_neg {p : IgmpTimer Ip → Bool} {l : List (IgmpTimer Ip)} {n : ℕ}
    {x : IgmpTimer Ip} (hx : l[n]? = some x) (hp : p x = false) :
    (l.eraseIdx n).filter p = l.filter p := by
  induction l generalizing n with
  | nil => cases hx
  | cons y l ih =>
    cases n with
    | zero =>
      cases hx
      rw [List.eraseIdx_cons_zero, List.filter_cons_of_neg (by rw [hp]; exact Bool.false_ne_true)]
    | succ n =>
      rw [List.eraseIdx_cons_succ, List.filter_cons, List.filter_cons, ih hx]

end

end IgmpRouter

end NetSim.Ip
