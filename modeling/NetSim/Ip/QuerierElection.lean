import NetSim.Ip.Querier
import NetSim.Lib.Run

/-!
# The election of the querier

The routers of some LANs, whose queries are delivered in any order. `RouterInv` is what one router
keeps.
-/

namespace NetSim.Ip

open NetSim.Lib Function

variable {V Ip L : Type}

def RouterConfig.addrs (cfg : RouterConfig Ip) : List Ip := cfg.interfaces.map Prod.fst

theorem RouterConfig.broadcastAddrs_subset {cfg : RouterConfig Ip} {a : Ip} (h : a ∈ cfg.broadcastAddrs) :
    a ∈ cfg.addrs := by
  obtain ⟨i, hi, rfl⟩ := List.mem_map.1 h
  exact List.mem_map_of_mem (List.mem_filter.1 hi).1

/-- The routers and the LANs of their addresses, one address on each LAN. -/
structure Lans (V Ip L : Type) where
  cfg : V → RouterConfig Ip
  lan : Ip → L
  single : ∀ v, ∀ a ∈ (cfg v).addrs, ∀ b ∈ (cfg v).addrs, lan a = lan b → a = b
  sameSubnet : ∀ v, ∀ a ∈ (cfg v).addrs, ∀ src, lan a = lan src → (cfg v).getIpFromSameSubnet src = some a

structure ElectionState (V Ip : Type) where
  router : V → IgmpRouter Ip
  now : ℚ
  heard : V → Ip → List Ip
  lastHeard : V → Ip → ℚ
  failed : Bool

inductive ElectionAction (V Ip : Type)
  /-- The `n`-th query of `u` comes to `v`. -/
  | deliver (u v : V) (n : ℕ) (time : ℚ)
  | report (v : V) (group : Ip) (ifid : ℕ) (time : ℚ)
  | timer (v : V) (n : ℕ)

def IgmpRouter.IsQuerier [DecidableEq Ip] (router : IgmpRouter Ip) (group : Ip) : Prop :=
  ∃ role ∈ router.getRole group, role.state = .querier

def IgmpRouter.IsNonQuerier [DecidableEq Ip] (router : IgmpRouter Ip) (group : Ip) : Prop :=
  ∃ role ∈ router.getRole group, role.state = .nonQuerier

instance [DecidableEq Ip] (router : IgmpRouter Ip) (group : Ip) : Decidable (router.IsQuerier group) :=
  inferInstanceAs (Decidable (∃ role ∈ router.getRole group, _))

instance [DecidableEq Ip] (router : IgmpRouter Ip) (group : Ip) : Decidable (router.IsNonQuerier group) :=
  inferInstanceAs (Decidable (∃ role ∈ router.getRole group, _))

namespace ElectionState

variable [Fintype V] [DecidableEq V] [LinearOrder Ip] [DecidableEq L]

def Lower (lans : Lans V Ip L) (v : V) (src : Ip) : Prop :=
  ∃ a ∈ (lans.cfg v).broadcastAddrs, lans.lan a = lans.lan src ∧ src < a

def Hears (lans : Lans V Ip L) (v : V) (src : Ip) : Prop :=
  ∃ a ∈ (lans.cfg v).broadcastAddrs, lans.lan a = lans.lan src

instance (lans : Lans V Ip L) (v : V) (src : Ip) : Decidable (Lower lans v src) :=
  inferInstanceAs (Decidable (∃ a ∈ (lans.cfg v).broadcastAddrs, _))

instance (lans : Lans V Ip L) (v : V) (src : Ip) : Decidable (Hears lans v src) :=
  inferInstanceAs (Decidable (∃ a ∈ (lans.cfg v).broadcastAddrs, _))

def start (lans : Lans V Ip L) : ElectionState V Ip :=
  { router := fun v => .init (lans.cfg v)
    now := 0
    heard := fun _ _ => []
    lastHeard := fun _ _ => 0
    failed := false }

/-- No timer comes before `time`. -/
def Due (s : ElectionState V Ip) (time : ℚ) : Prop :=
  ∀ v, ∀ x ∈ (s.router v).timers, time ≤ x.dEventTime

instance (s : ElectionState V Ip) (time : ℚ) : Decidable (s.Due time) :=
  inferInstanceAs (Decidable (∀ v, ∀ x ∈ (s.router v).timers, _))

/-- A handler of `v` has come to its end, or has followed a null pointer. -/
def finish (s : ElectionState V Ip) (v : V) (time : ℚ) (router : Option (IgmpRouter Ip)) :
    ElectionState V Ip :=
  match router with
  | none => { s with now := time, failed := true }
  | some router => { s with now := time, router := update s.router v router }

def noteQuery (lans : Lans V Ip L) (v : V) (src group : Ip) (time : ℚ) (s : ElectionState V Ip) :
    ElectionState V Ip :=
  if Lower lans v src then
    { s with
      heard := update s.heard v (update (s.heard v) group (src :: s.heard v group))
      lastHeard := update s.lastHeard v (update (s.lastHeard v) group time) }
  else s

/-- `v` is querier for the group, and was not in `router`. -/
def noteTakeOver (v : V) (group : Ip) (router : IgmpRouter Ip) (s : ElectionState V Ip) :
    ElectionState V Ip :=
  if router.IsNonQuerier group ∧ (s.router v).IsQuerier group then
    { s with heard := update s.heard v (update (s.heard v) group []) }
  else s

def step (lans : Lans V Ip L) (s : ElectionState V Ip) :
    ElectionAction V Ip → Option (ElectionState V Ip)
  | .deliver u v n time =>
    match (s.router u).queries[n]? with
    | none => none
    | some q =>
      if s.now ≤ time ∧ s.Due time ∧ Hears lans v q.szSourceIP then
        some
          ((s.finish v time
            ((s.router v).processQuery (lans.cfg v) q.szSourceIP q.group time)).noteQuery lans v q.szSourceIP
              q.group time)
      else none
  | .report v group ifid time =>
    if s.now ≤ time ∧ s.Due time then
      some (s.finish v time ((s.router v).processReport (lans.cfg v) group ifid time))
    else none
  | .timer v n =>
    match (s.router v).timers[n]? with
    | none => none
    | some x =>
      if s.Due x.dEventTime then
        some
          ((s.finish v (max s.now x.dEventTime)
            (((s.router v).takeTimer n).handleTimer (lans.cfg v) x)).noteTakeOver v x.group (s.router v))
      else none

def OnLan (lans : Lans V Ip L) (ℓ : L) (v : V) (a : Ip) : Prop :=
  a ∈ (lans.cfg v).broadcastAddrs ∧ lans.lan a = ℓ

def AllHeard (lans : Lans V Ip L) (s : ElectionState V Ip) (ℓ : L) (group : Ip) : Prop :=
  ∀ v a, OnLan lans ℓ v a → (s.router v).getRole group ≠ none ∧
    ∀ u b, OnLan lans ℓ u b → b < a → b ∈ s.heard v group

/-- What the election is for. -/
structure Elected (lans : Lans V Ip L) (s : ElectionState V Ip) : Prop where
  running : s.failed = false
  lowest : ∀ ℓ g, s.AllHeard lans ℓ g → ∀ v a, OnLan lans ℓ v a →
    ((s.router v).IsQuerier g ↔ ∀ u b, OnLan lans ℓ u b → a ≤ b)
  unsilenced : ∀ ℓ g v a, OnLan lans ℓ v a → (s.router v).getRole g ≠ none →
    (∀ src ∈ s.heard v g, lans.lan src ≠ ℓ) → (s.router v).IsQuerier g
  detected : ∀ v g, (s.router v).IsNonQuerier g → ∃ h ≤ s.lastHeard v g,
    (otherQuerierTimers ((s.router v).timersOf g)).map IgmpTimer.dEventTime =
      [h + queryPresentDelay (lans.cfg v).igmp]
  query : ∀ v g, (s.router v).IsQuerier g → (queryTimers ((s.router v).timersOf g)).length = 1
  future : ∀ v, ∀ x ∈ (s.router v).timers, s.now ≤ x.dEventTime

def Silent (router router' : IgmpRouter Ip) : Prop :=
  ∀ g, router.IsNonQuerier g → router'.IsNonQuerier g →
    router'.queries.filter (fun q => q.group = g) = router.queries.filter fun q => q.group = g

/-- What a step may do to the role of a router. -/
structure Orderly (lans : Lans V Ip L) (s s' : ElectionState V Ip) : Prop where
  takeOver : ∀ v g, (s.router v).IsNonQuerier g → (s'.router v).IsQuerier g →
    s.lastHeard v g + queryPresentDelay (lans.cfg v).igmp ≤ s'.now
  silent : ∀ v, Silent (s.router v) (s'.router v)

/-- Nothing has been heard of the querier since the timer was started; or the group has been
reported since. -/
def TimerMeets (cfg : RouterConfig Ip) (router : IgmpRouter Ip) (x : IgmpTimer Ip) : Prop :=
  (x.sev = .igmpOtherQuerierPresentTimer → ∀ role ∈ router.getRole x.group,
    role.otherQuerierPresentTime + queryPresentDelay cfg.igmp ≤ x.dEventTime ∧
      queryTimers (router.timersOf x.group) = []) ∧
  (x.sev = .igmpGroupMembershipTimer → ∀ db ∈ router.getMulticastDb x.group,
    x.dEventTime < db.reportRcvTime + getSubeventDelay cfg.igmp .igmpGroupMembershipTimer)

/-- A router loses for a group at most once, has no other LAN then, and hears nothing more of the
winner. -/
def Meets (lans : Lans V Ip L) (s : ElectionState V Ip) : ElectionAction V Ip → Prop
  | .deliver u v n _ => ∀ q ∈ (s.router u).queries[n]?, Lower lans v q.szSourceIP →
      ∃ role ∈ (s.router v).getRole q.group, role.state = .querier →
        role.isOtherquerierTimerStarted = false ∧
          ∀ a ∈ (lans.cfg v).broadcastAddrs, lans.lan a = lans.lan q.szSourceIP
  | .report v group _ _ => (s.router v).IsQuerier group → (s.router v).MembershipStarted group
  | .timer v n => ∀ x ∈ (s.router v).timers[n]?, TimerMeets (lans.cfg v) (s.router v) x

/-! ## What a handler preserves -/

open IgmpRouter

structure Heard (lans : Lans V Ip L) (v : V) (src : Ip) : Prop where
  lower : Lower lans v src
  sent : ∃ u, src ∈ (lans.cfg u).broadcastAddrs
  only : ∀ a ∈ (lans.cfg v).broadcastAddrs, lans.lan a = lans.lan src

structure RouterInv (lans : Lans V Ip L) (now : ℚ) (heard : Ip → List Ip) (last : Ip → ℚ) (v : V)
    (router : IgmpRouter Ip) : Prop where
  group : ∀ g, GroupInv (lans.cfg v).igmp now (heard g) (last g) (router.getRole g) (router.timersOf g)
  heard : ∀ g, ∀ src ∈ heard g, Heard lans v src
  queries : ∀ q ∈ router.queries, q.szSourceIP ∈ (lans.cfg v).broadcastAddrs

section
omit [Fintype V] [DecidableEq V] [DecidableEq L]
variable {lans : Lans V Ip L} {v : V} {now time : ℚ} {heard heard' : Ip → List Ip} {last last' : Ip → ℚ}
  {router router' base : IgmpRouter Ip} {group src : Ip} {role : Role} {new : List (IgmpTimer Ip)}
  {sent : List (IgmpQuery Ip)} {x : IgmpTimer Ip} {n : ℕ}

theorem mem_timersOf {g : Ip} (hx : x ∈ router.timersOf g) : x ∈ router.timers := (List.mem_filter.1 hx).1

theorem RouterInv.tick (h : RouterInv lans now heard last v router) (hle : now ≤ time)
    (hdue : ∀ x ∈ router.timers, time ≤ x.dEventTime) : RouterInv lans time heard last v router :=
  { h with group := fun g => (h.group g).tick hle fun x hx => hdue x (mem_timersOf hx) }

theorem RouterInv.acted (h : RouterInv lans now heard last v router) (hle : now ≤ time)
    (hdue : ∀ x ∈ router.timers, time ≤ x.dEventTime)
    (hrole : ∀ g, base.getRole g = router.getRole g) (hqueries : base.queries = router.queries)
    (htimers : ∀ g, g ≠ group → base.timersOf g = router.timersOf g)
    (hact : Acted group role new sent base router') (hnew : ∀ x ∈ new, x.group = group)
    (hsent : ∀ q ∈ sent, q.szSourceIP ∈ (lans.cfg v).broadcastAddrs)
    (hheard : ∀ g, g ≠ group → heard' g = heard g) (hlast : ∀ g, g ≠ group → last' g = last g)
    (hgroup : GroupInv (lans.cfg v).igmp time (heard' group) (last' group) (some role)
      (base.timersOf group ++ new))
    (hsrc : ∀ src ∈ heard' group, Heard lans v src) : RouterInv lans time heard' last' v router' := by
  refine ⟨fun g => ?_, fun g src hs => ?_, fun q hq => ?_⟩
  · rw [hact.getRole, timersOf_acted hact hnew]
    by_cases hg : g = group
    · rw [if_pos hg, if_pos hg, hg]
      exact hgroup
    · rw [if_neg hg, if_neg hg, hrole, htimers g hg, hheard g hg, hlast g hg]
      exact (h.group g).tick hle fun x hx => hdue x (mem_timersOf hx)
  · by_cases hg : g = group
    · rw [hg] at hs
      exact hsrc src hs
    · rw [hheard g hg] at hs
      exact h.heard g src hs
  · rw [hact.queries, hqueries] at hq
    rcases List.mem_append.1 hq with hq | hq
    · exact h.queries q hq
    · exact hsent q hq

theorem silent_acted (hact : Acted group role new sent base router') (hqueries : base.queries = router.queries)
    (hsent : ∀ q ∈ sent, q.group = group)
    (hstate : router.IsNonQuerier group → role.state = .nonQuerier → sent = []) : Silent router router' := by
  intro g hwas his
  rw [hact.queries, hqueries, List.filter_append]
  by_cases hg : g = group
  · obtain ⟨role', hrole', hs⟩ := his
    rw [hg, hact.getRole_self] at hrole'
    cases hrole'
    rw [hstate (hg ▸ hwas) hs]
    exact List.append_nil _
  · have hnil : sent.filter (fun q => q.group = g) = [] :=
      List.filter_eq_nil_iff.2 fun q hq hgroup => hg ((of_decide_eq_true hgroup).symm.trans (hsent q hq))
    rw [hnil, List.append_nil]

omit [LinearOrder Ip] in
theorem group_queriesOf {cfg : RouterConfig Ip} {q : IgmpQuery Ip} (hq : q ∈ queriesOf cfg group) :
    q.group = group := by
  obtain ⟨i, -, rfl⟩ := List.mem_map.1 hq
  rfl

omit [LinearOrder Ip] in
theorem mem_queriesOf {cfg : RouterConfig Ip} {q : IgmpQuery Ip} (hq : q ∈ queriesOf cfg group) :
    q.szSourceIP ∈ cfg.broadcastAddrs := by
  obtain ⟨i, hi, rfl⟩ := List.mem_map.1 hq
  exact List.mem_map_of_mem hi

omit [LinearOrder Ip] in
theorem le_start {igmp : IgmpVar} {sev : IpSubevent} :
    time ≤ (IgmpTimer.start igmp sev group time).dEventTime :=
  le_add_of_nonneg_right getSubeventDelay_nonneg

theorem RouterInv.report (h : RouterInv lans now heard last v router) (hle : now ≤ time)
    (hdue : ∀ x ∈ router.timers, time ≤ x.dEventTime) {ifid : ℕ}
    (hmeets : router.IsQuerier group → router.MembershipStarted group) :
    ∃ router', router.processReport (lans.cfg v) group ifid time = some router' ∧
      RouterInv lans time heard last v router' ∧ Silent router router' := by
  obtain ⟨router', new, sent, hproc, hact, hacts⟩ :=
    acted_processReport (lans.cfg v) router group ifid time
  refine ⟨router', hproc, ?_, ?_⟩
  swap
  · refine silent_acted hact rfl ?_ fun _ hs => ?_
    · rcases hacts with ⟨-, -, rfl⟩ | ⟨-, -, -, rfl⟩ | ⟨-, -, _, -, -, rfl⟩
      · exact nofun
      · exact nofun
      · exact fun q => group_queriesOf
    · rcases hacts with ⟨-, -, hnil⟩ | ⟨-, -, -, hnil⟩ | ⟨-, hs', -⟩
      · exact hnil
      · exact hnil
      · rw [hs] at hs'
        cases hs'
  have hgroup := (h.group group).tick hle fun x hx => hdue x (mem_timersOf hx)
  have hall : (∀ x ∈ new, x.group = group) → (∀ q ∈ sent, q.szSourceIP ∈ (lans.cfg v).broadcastAddrs) →
      GroupInv (lans.cfg v).igmp time (heard group) (last group)
        (some ((router.getRole group).getD freshRole)) (router.timersOf group ++ new) →
      RouterInv lans time heard last v router' := fun hnew hsent hg =>
    h.acted hle hdue (fun _ => rfl) rfl (fun _ _ => rfl) hact hnew hsent (fun _ _ => rfl) (fun _ _ => rfl) hg
      (h.heard group)
  cases hrole : router.getRole group with
  | none =>
    rw [hrole] at hall hacts hgroup
    obtain ⟨htimers, hheard⟩ := hgroup.entry rfl
    rcases hacts with ⟨hset, -⟩ | ⟨-, hs, -⟩ | ⟨-, -, sev, hsev, rfl, rfl⟩
    · obtain ⟨db, hdb, -⟩ := hset
      rw [getRole_of_getMulticastDb hdb] at hrole
      cases hrole
    · cases hs
    · refine hall ?_ (fun q => mem_queriesOf) ?_
      · rintro x (_ | ⟨_, _ | ⟨_, ⟨⟩⟩⟩)
        · rfl
        · rfl
      · rw [htimers, hheard]
        -- The membership timer, and then the first query.
        let x : IgmpTimer Ip := IgmpTimer.start (lans.cfg v).igmp .igmpGroupMembershipTimer group time
        have hother : otherQuerierTimers [x] = [] := GroupInv.otherQuerierTimers_cons_of_ne nofun
        have hquery : queryTimers [x] = [] := GroupInv.queryTimers_cons_of_not
          (show ¬ IpSubevent.igmpGroupMembershipTimer.IsQuery by decide)
        have hfuture : ∀ y ∈ [x], time ≤ y.dEventTime := List.forall_mem_singleton.2 le_start
        exact GroupInv.appendQuery rfl hquery hother hfuture hsev le_start
  | some role =>
    rw [hrole] at hall hacts hgroup
    rcases hacts with ⟨-, rfl, rfl⟩ | ⟨-, -, rfl, rfl⟩ | ⟨hset, hs, -⟩
    · refine hall nofun nofun ?_
      rw [List.append_nil]
      exact hgroup
    · refine hall (List.forall_mem_singleton.2 rfl) nofun ?_
      exact hgroup.append rfl le_start
    · exact absurd (hmeets ⟨role, hrole, hs⟩) hset

theorem processQuery_of_not_lower (hears : Hears lans v src) (hlower : ¬ Lower lans v src) :
    router.processQuery (lans.cfg v) src group time = some router := by
  obtain ⟨a, ha, hlan⟩ := hears
  refine processQuery_eq_self time (.inr ⟨?_, fun hlt => hlower ⟨a, ha, hlan, hlt⟩⟩)
  exact lans.sameSubnet v a (RouterConfig.broadcastAddrs_subset ha) src hlan

theorem RouterInv.query (h : RouterInv lans now heard last v router) (hle : now ≤ time)
    (hdue : ∀ x ∈ router.timers, time ≤ x.dEventTime) (hlower : Lower lans v src)
    (hsent : ∃ u, src ∈ (lans.cfg u).broadcastAddrs)
    (hmeets : ∃ role ∈ router.getRole group, role.state = .querier →
      role.isOtherquerierTimerStarted = false ∧
        ∀ a ∈ (lans.cfg v).broadcastAddrs, lans.lan a = lans.lan src) :
    ∃ router', router.processQuery (lans.cfg v) src group time = some router' ∧
      RouterInv lans time (update heard group (src :: heard group))
        (update last group time) v router' ∧ Silent router router' := by
  obtain ⟨a, ha, hlan, hlt⟩ := hlower
  have haddr := RouterConfig.broadcastAddrs_subset ha
  have hown : src ∉ (lans.cfg v).interfaces.map Prod.fst := fun hown => by
    rw [lans.single v a haddr src hown hlan] at hlt
    exact lt_irrefl _ hlt
  obtain ⟨role, hrole, hfirst⟩ := hmeets
  have hrole' : router.getRole group = some role := hrole
  obtain ⟨router', hproc, hact⟩ :=
    acted_processQuery time hown (lans.sameSubnet v a haddr src hlan) hlt hrole'
  refine ⟨router', hproc, ?_, silent_acted hact rfl nofun fun _ _ => rfl⟩
  have hgroup := h.group group
  rw [hrole'] at hgroup
  have hdue' : ∀ x ∈ router.timersOf group, time ≤ x.dEventTime := fun x hx => hdue x (mem_timersOf hx)
  have honly : ∀ b ∈ (lans.cfg v).broadcastAddrs, lans.lan b = lans.lan src := by
    cases hs : role.state with
    | querier => exact (hfirst hs).2
    | nonQuerier =>
      -- The router has lost before, on the only LAN that it is on.
      obtain ⟨src0, hsrc0⟩ : ∃ src0, src0 ∈ heard group := by
        refine List.exists_mem_of_ne_nil _ fun hnil => ?_
        have hq := (hgroup.querier role rfl).2 hnil
        rw [hs] at hq
        cases hq
      have hlan0 := (h.heard group src0 hsrc0).only
      exact fun b hb => (hlan0 b hb).trans ((hlan0 a ha).symm.trans hlan)
  have hsrc : ∀ src' ∈ update heard group (src :: heard group) group, Heard lans v src' := by
    rw [update_self]
    refine List.forall_mem_cons.2 ⟨⟨⟨a, ha, hlan, hlt⟩, hsent, honly⟩, h.heard group⟩
  refine h.acted hle hdue (fun _ => rfl) rfl (fun _ _ => rfl) hact ?_ nofun
    (fun g hg => update_of_ne hg _ _) (fun g hg => update_of_ne hg _ _) ?_ hsrc
  · split
    · exact nofun
    · exact List.forall_mem_singleton.2 rfl
  · rw [update_self, update_self]
    cases hs : role.state with
    | querier =>
      rw [(hfirst hs).1, if_neg Bool.false_ne_true]
      exact hgroup.lose hs rfl rfl hdue' src
    | nonQuerier =>
      rw [(hgroup.other role rfl hs).1, if_pos rfl, List.append_nil]
      exact hgroup.hear hs hle hdue' src

/-- What the coming of the timer `x` does. -/
inductive Comes (lans : Lans V Ip L) (heard : Ip → List Ip) (last : Ip → ℚ) (v : V) (x : IgmpTimer Ip)
    (router router' : IgmpRouter Ip) : Prop
  | stays (inv : RouterInv lans x.dEventTime heard last v router')
  | takesOver (inv : RouterInv lans x.dEventTime (update heard x.group []) last v router')
      (hwas : router.IsNonQuerier x.group) (his : router'.IsQuerier x.group)
      (hlast : last x.group + queryPresentDelay (lans.cfg v).igmp ≤ x.dEventTime)

theorem getRole_takeTimer (g : Ip) : (router.takeTimer n).getRole g = router.getRole g := rfl

section

variable (h : RouterInv lans now heard last v router) (hx : router.timers[n]? = some x)

include h hx

theorem RouterInv.exists_role : ∃ role, router.getRole x.group = some role := by
  cases hrole : router.getRole x.group with
  | some role => exact ⟨role, rfl⟩
  | none =>
    have hnil := ((h.group x.group).entry hrole).1
    have hmem : x ∈ router.timersOf x.group :=
      List.mem_filter.2 ⟨List.mem_of_getElem? hx, decide_eq_true rfl⟩
    rw [hnil] at hmem
    cases hmem

theorem RouterInv.le_timer : now ≤ x.dEventTime := by
  have hmem : x ∈ router.timersOf x.group :=
    List.mem_filter.2 ⟨List.mem_of_getElem? hx, decide_eq_true rfl⟩
  exact (h.group x.group).future x hmem

variable (hdue : ∀ y ∈ router.timers, x.dEventTime ≤ y.dEventTime)

include hdue

theorem RouterInv.queryTimer (hsev : x.sev.IsQuery) :
    ∃ router', (router.takeTimer n).sendQueryMsg (lans.cfg v) x.group x.dEventTime = some router' ∧
      Comes lans heard last v x router router' ∧ Silent router router' := by
  have hle := h.le_timer hx
  obtain ⟨role, hrole⟩ := h.exists_role hx
  have hgroup := (h.group x.group).tick hle fun y hy => hdue y (mem_timersOf hy)
  rw [hrole] at hgroup
  have hperm := timersOf_takeTimer hx
  have hrole' : (router.takeTimer n).getRole x.group = some role := hrole
  cases hs : role.state with
  | querier =>
    obtain ⟨router', hsend⟩ := exists_sendQueryMsg (lans.cfg v) x.dEventTime hrole'
    obtain ⟨sev, hsev', hact⟩ := acted_sendQueryMsg_querier hrole' hs hsend
    refine ⟨router', hsend, .stays ?_, silent_acted hact rfl (fun q => group_queriesOf) fun _ hs' => ?_⟩
    · refine h.acted hle hdue getRole_takeTimer rfl (fun g hg => timersOf_takeTimer_ne hx hg) hact
        (List.forall_mem_singleton.2 rfl) (fun q => mem_queriesOf) (fun _ _ => rfl) (fun _ _ => rfl) ?_
        (h.heard _)
      exact hgroup.resend hperm hs hsev hsev' le_start
    · rw [hs] at hs'
      cases hs'
  | nonQuerier =>
    refine ⟨_, sendQueryMsg_nonQuerier hrole' hs, .stays ?_, fun _ _ _ => rfl⟩
    refine h.acted hle hdue getRole_takeTimer rfl (fun g hg => timersOf_takeTimer_ne hx hg)
      (acted_refl hrole') nofun nofun (fun _ _ => rfl) (fun _ _ => rfl) ?_ (h.heard _)
    rw [List.append_nil]
    exact hgroup.erase hperm (GroupInv.isQuery_ne hsev) fun _ => hs

theorem RouterInv.otherTimer (hsev : x.sev = .igmpOtherQuerierPresentTimer) (hmeets : TimerMeets (lans.cfg v) router x) :
    ∃ router', (router.takeTimer n).processOtherQuerierPresentTime (lans.cfg v) x.group x.dEventTime =
      some router' ∧ Comes lans heard last v x router router' ∧ Silent router router' := by
  have hle := h.le_timer hx
  obtain ⟨role, hrole⟩ := h.exists_role hx
  obtain ⟨hexp, hnone⟩ := hmeets.1 hsev role hrole
  have hgroup := (h.group x.group).tick hle fun y hy => hdue y (mem_timersOf hy)
  rw [hrole] at hgroup
  have hperm := timersOf_takeTimer hx
  have hrole' : (router.takeTimer n).getRole x.group = some role := hrole
  have hs : role.state = .nonQuerier := by
    cases hs : role.state with
    | nonQuerier => rfl
    | querier =>
      have hmem : x ∈ otherQuerierTimers (router.timersOf x.group) :=
        List.mem_filter.2 ⟨hperm.subset List.mem_cons_self, decide_eq_true hsev⟩
      rw [(hgroup.query role rfl hs).2] at hmem
      cases hmem
  obtain ⟨router', sev, hproc, hquery, hact⟩ := acted_processOtherQuerierPresentTime hrole' hexp
  refine ⟨router', hproc, .takesOver ?_ ⟨role, hrole, hs⟩ ⟨_, hact.getRole_self, rfl⟩ ?_,
    silent_acted hact rfl (fun q => group_queriesOf) nofun⟩
  · refine h.acted hle hdue getRole_takeTimer rfl (fun g hg => timersOf_takeTimer_ne hx hg) hact
      (List.forall_mem_singleton.2 rfl) (fun q => mem_queriesOf)
      (fun g hg => update_of_ne hg _ _) (fun _ _ => rfl) ?_ ?_
    · rw [update_self]
      exact hgroup.takeOver hperm hs hsev hnone hquery le_start
    · rw [update_self]
      exact nofun
  · exact (hgroup.other role rfl hs).2.1 ▸ hexp

theorem RouterInv.membershipTimer (hsev : x.sev = .igmpGroupMembershipTimer) (hmeets : TimerMeets (lans.cfg v) router x) :
    ∃ router', (router.takeTimer n).processGroupMembershipTimer (lans.cfg v) x.group x.dEventTime =
      some router' ∧ Comes lans heard last v x router router' ∧ Silent router router' := by
  have hle := h.le_timer hx
  obtain ⟨role, hrole⟩ := h.exists_role hx
  obtain ⟨db, hdb, hdbrole⟩ := exists_getMulticastDb hrole
  have hgroup := (h.group x.group).tick hle fun y hy => hdue y (mem_timersOf hy)
  rw [hrole] at hgroup
  have hdb' : (router.takeTimer n).getMulticastDb x.group = some db := hdb
  obtain ⟨router', y, hproc, hy, hygroup, hyle, hact⟩ :=
    acted_processGroupMembershipTimer hdb' (hmeets.2 hsev db hdb)
  rw [hdbrole] at hact
  refine ⟨router', hproc, .stays ?_, silent_acted hact rfl nofun fun _ _ => rfl⟩
  have hother : x.sev ≠ .igmpOtherQuerierPresentTimer := by
    rw [hsev]
    exact nofun
  have hquery : ¬ x.sev.IsQuery := by
    rw [hsev]
    decide
  have hbase := hgroup.erase (timersOf_takeTimer hx) hother fun hx => absurd hx hquery
  exact h.acted hle hdue getRole_takeTimer rfl (fun g hg => timersOf_takeTimer_ne hx hg) hact
    (List.forall_mem_singleton.2 hygroup) nofun (fun _ _ => rfl) (fun _ _ => rfl) (hbase.append hy hyle)
    (h.heard _)

theorem RouterInv.handleTimer (hmeets : TimerMeets (lans.cfg v) router x) :
    ∃ router', (router.takeTimer n).handleTimer (lans.cfg v) x = some router' ∧
      Comes lans heard last v x router router' ∧ Silent router router' := by
  unfold IgmpRouter.handleTimer
  cases hsev : x.sev with
  | igmpSendStartupQuery => exact h.queryTimer hx hdue (.inl hsev)
  | igmpSendQuery => exact h.queryTimer hx hdue (.inr hsev)
  | igmpOtherQuerierPresentTimer => exact h.otherTimer hx hdue hsev hmeets
  | igmpGroupMembershipTimer => exact h.membershipTimer hx hdue hsev hmeets

end

theorem routerInv_init (lans : Lans V Ip L) (v : V) :
    RouterInv lans 0 (fun _ => []) (fun _ => 0) v (.init (lans.cfg v)) := by
  let empty : IgmpRouter Ip := { database := [], timers := [], queries := [], routes := [], joined := [] }
  have hempty : RouterInv lans 0 (fun _ => []) (fun _ => 0) v empty :=
    ⟨fun _ => GroupInv.none _ _ _, nofun, nofun⟩
  unfold IgmpRouter.init
  dsimp only
  split
  · generalize (lans.cfg v).allInSubnet = group
    have hjoin : Acted group freshRole [] [] empty (empty.joinMulticastGroup group) :=
      acted_joinMulticastGroup empty group
    obtain ⟨router', hsend⟩ := exists_sendQueryMsg (lans.cfg v) igmpStartupDelay hjoin.getRole_self
    obtain ⟨sev, hsev, hact⟩ := acted_sendQueryMsg_querier hjoin.getRole_self rfl hsend
    rw [hsend, Option.getD_some]
    refine hempty.acted (le_refl _) nofun (fun _ => rfl) rfl (fun _ _ => rfl) (hjoin.trans hact)
      (List.forall_mem_singleton.2 rfl) (fun q => mem_queriesOf) (fun _ _ => rfl) (fun _ _ => rfl) ?_
      nofun
    have hstartup : (0 : ℚ) ≤ igmpStartupDelay := by
      unfold igmpStartupDelay
      norm_num
    exact GroupInv.appendQuery rfl rfl rfl nofun hsev (hstartup.trans le_start)
  · exact hempty

end

/-! ## What a step preserves -/

structure ElectionInv (lans : Lans V Ip L) (s : ElectionState V Ip) : Prop where
  running : s.failed = false
  router : ∀ v, RouterInv lans s.now (s.heard v) (s.lastHeard v) v (s.router v)

section
omit [Fintype V] [DecidableEq V]  [DecidableEq L]
variable {lans : Lans V Ip L} {s s' : ElectionState V Ip} {v : V} {g : Ip}

section

variable (h : ElectionInv lans s)

include h

theorem ElectionInv.groupInv {role : Role} (hrole : (s.router v).getRole g = some role) :
    GroupInv (lans.cfg v).igmp s.now (s.heard v g) (s.lastHeard v g) (some role)
      ((s.router v).timersOf g) :=
  hrole ▸ (h.router v).group g

theorem ElectionInv.isQuerier_iff (hrole : (s.router v).getRole g ≠ none) :
    (s.router v).IsQuerier g ↔ s.heard v g = [] := by
  obtain ⟨role, hrole⟩ := Option.ne_none_iff_exists'.1 hrole
  rw [← (h.groupInv hrole).querier role rfl]
  constructor
  · rintro ⟨role', hrole', hs⟩
    rw [Option.mem_def, hrole] at hrole'
    cases hrole'
    exact hs
  · exact fun hs => ⟨role, hrole, hs⟩

theorem ElectionInv.elected : s.Elected lans := by
  refine ⟨h.running, ?_, ?_, ?_, ?_, ?_⟩
  · rintro ℓ g hall v a ⟨ha, hlan⟩
    obtain ⟨hrole, hheard⟩ := hall v a ⟨ha, hlan⟩
    rw [h.isQuerier_iff hrole]
    constructor
    · intro hnil u b hb
      by_contra hlt
      have hmem := hheard u b hb (not_le.1 hlt)
      rw [hnil] at hmem
      cases hmem
    · intro hlow
      by_contra hne
      obtain ⟨src, hsrc⟩ := List.exists_mem_of_ne_nil _ hne
      obtain ⟨⟨c, hc, hclan, hlt⟩, ⟨u, hu⟩, honly⟩ := (h.router v).heard g src hsrc
      have hca : c = a := lans.single v c (RouterConfig.broadcastAddrs_subset hc) a
        (RouterConfig.broadcastAddrs_subset ha) (hclan.trans (honly a ha).symm)
      have hle := hlow u src ⟨hu, (honly a ha).symm.trans hlan⟩
      rw [hca] at hlt
      exact absurd hle (not_le.2 hlt)
  · rintro ℓ g v a ⟨ha, hlan⟩ hrole hnone
    rw [h.isQuerier_iff hrole]
    by_contra hne
    obtain ⟨src, hsrc⟩ := List.exists_mem_of_ne_nil _ hne
    have honly := ((h.router v).heard g src hsrc).only a ha
    exact hnone src hsrc (honly.symm.trans hlan)
  · rintro v g ⟨role, hrole, hs⟩
    exact ((h.groupInv hrole).other role rfl hs).2.2.2
  · rintro v g ⟨role, hrole, hs⟩
    exact ((h.groupInv hrole).query role rfl hs).1
  · intro v x hx
    have hmem : x ∈ (s.router v).timersOf x.group := List.mem_filter.2 ⟨hx, decide_eq_true rfl⟩
    exact ((h.router v).group x.group).future x hmem

theorem ElectionInv.heard_ne_nil (hn : (s.router v).IsNonQuerier g) : s.heard v g ≠ [] := by
  obtain ⟨role, hrole, hs⟩ := hn
  intro hnil
  have hq := ((h.groupInv hrole).querier role rfl).2 hnil
  rw [hs] at hq
  cases hq

theorem ElectionInv.heard_eq_nil (hq : (s.router v).IsQuerier g) : s.heard v g = [] := by
  obtain ⟨role, hrole, hs⟩ := hq
  exact ((h.groupInv hrole).querier role rfl).1 hs

end

end

section
variable {lans : Lans V Ip L} {s s' : ElectionState V Ip} {v : V} {time : ℚ} {router' : IgmpRouter Ip}
  {a : ElectionAction V Ip} {heard : Ip → List Ip} {last : Ip → ℚ}

omit [Fintype V] [DecidableEq V] [DecidableEq L] in
theorem electionInv_start (lans : Lans V Ip L) : ElectionInv lans (start lans) :=
  ⟨rfl, routerInv_init lans⟩

omit [Fintype V] [DecidableEq L] in
theorem ElectionInv.act (h : ElectionInv lans s) (hle : s.now ≤ time) (hdue : s.Due time)
    (hinv : RouterInv lans time heard last v router') (hsilent : Silent (s.router v) router')
    (htake : ∀ g, (s.router v).IsNonQuerier g → heard g = [] →
      s.lastHeard v g + queryPresentDelay (lans.cfg v).igmp ≤ time)
    (hrunning : s'.failed = false) (hnow : s'.now = time)
    (hrouter : s'.router = update s.router v router')
    (hheard : s'.heard = update s.heard v heard)
    (hlast : s'.lastHeard = update s.lastHeard v last) :
    ElectionInv lans s' ∧ s.Orderly lans s' := by
  have hinv' : ElectionInv lans s' := by
    refine ⟨hrunning, fun u => ?_⟩
    rw [hnow, hrouter, hheard, hlast]
    by_cases hu : u = v
    · rw [hu, update_self, update_self, update_self]
      exact hinv
    · rw [update_of_ne hu, update_of_ne hu, update_of_ne hu]
      exact (h.router u).tick hle (hdue u)
  refine ⟨hinv', fun u g hwas his => ?_, fun u => ?_⟩
  · have hnil := hinv'.heard_eq_nil his
    rw [hheard] at hnil
    by_cases hu : u = v
    · rw [hu, update_self] at hnil
      rw [hu] at hwas
      rw [hu, hnow]
      exact htake g hwas hnil
    · rw [update_of_ne hu] at hnil
      exact absurd hnil (h.heard_ne_nil hwas)
  · rw [hrouter]
    by_cases hu : u = v
    · rw [hu, update_self]
      exact hsilent
    · rw [update_of_ne hu]
      exact fun _ _ _ => rfl

omit [Fintype V] [DecidableEq L] in
theorem ElectionInv.act_same (h : ElectionInv lans s) (hle : s.now ≤ time) (hdue : s.Due time)
    (hinv : RouterInv lans time (s.heard v) (s.lastHeard v) v router')
    (hsilent : Silent (s.router v) router') :
    ElectionInv lans (s.finish v time (some router')) ∧
      s.Orderly lans (s.finish v time (some router')) :=
  h.act hle hdue hinv hsilent (fun _ hwas hnil => absurd hnil (h.heard_ne_nil hwas)) h.running rfl rfl
    (update_eq_self v s.heard).symm (update_eq_self v s.lastHeard).symm

theorem ElectionInv.step (h : ElectionInv lans s) (hmeets : s.Meets lans a)
    (hs : ElectionState.step lans s a = some s') : ElectionInv lans s' ∧ s.Orderly lans s' := by
  cases a with
  | deliver u v n time =>
    dsimp only [ElectionState.step] at hs
    split at hs
    · cases hs
    · next q hq =>
      split at hs
      · next hat =>
        obtain ⟨hle, hdue, hhears⟩ := hat
        cases hs
        by_cases hlower : Lower lans v q.szSourceIP
        · have hsent := (h.router u).queries q (List.mem_of_getElem? hq)
          obtain ⟨router', hproc, hinv, hsilent⟩ :=
            (h.router v).query hle (hdue v) hlower ⟨u, hsent⟩ (hmeets q hq hlower)
          rw [hproc]
          unfold noteQuery
          rw [if_pos hlower]
          refine h.act hle hdue hinv hsilent (fun g hwas hnil => ?_) h.running rfl rfl rfl rfl
          rw [update_apply] at hnil
          split at hnil
          · cases hnil
          · exact absurd hnil (h.heard_ne_nil hwas)
        · rw [processQuery_of_not_lower hhears hlower]
          unfold noteQuery
          rw [if_neg hlower]
          exact h.act_same hle hdue ((h.router v).tick hle (hdue v)) fun _ _ _ => rfl
      · cases hs
  | report v group ifid time =>
    dsimp only [ElectionState.step] at hs
    split at hs
    · next hat =>
      cases hs
      obtain ⟨router', hproc, hinv, hsilent⟩ := (h.router v).report hat.1 (hat.2 v) hmeets
      rw [hproc]
      exact h.act_same hat.1 hat.2 hinv hsilent
    · cases hs
  | timer v n =>
    dsimp only [ElectionState.step] at hs
    split at hs
    · cases hs
    · next x hx =>
      split at hs
      · next hdue =>
        cases hs
        have hle := (h.router v).le_timer hx
        obtain ⟨router', hproc, hcomes, hsilent⟩ :=
          (h.router v).handleTimer hx (hdue v) (hmeets x hx)
        rw [hproc, max_eq_right hle]
        have hself : (s.finish v x.dEventTime (some router')).router v = router' := by
          exact update_self ..
        unfold noteTakeOver
        rw [hself]
        cases hcomes with
        | stays hinv =>
          have hboth := h.act_same hle hdue hinv hsilent
          have hno : ¬ ((s.router v).IsNonQuerier x.group ∧ router'.IsQuerier x.group) := by
            rintro ⟨hwas, his⟩
            exact h.heard_ne_nil hwas (hboth.1.heard_eq_nil (hself.symm ▸ his))
          rw [if_neg hno]
          exact hboth
        | takesOver hinv hwas his hlast =>
          rw [if_pos ⟨hwas, his⟩]
          refine h.act hle hdue hinv hsilent (fun g hwas hnil => ?_) h.running rfl rfl rfl
            (update_eq_self v s.lastHeard).symm
          rw [update_apply] at hnil
          split at hnil
          · next hg => exact hg ▸ hlast
          · exact absurd hnil (h.heard_ne_nil hwas)
      · cases hs

end

/-- In every run whose steps meet the condition the router with the lowest address is elected, and
replaced only when it is lost. -/
theorem election (lans : Lans V Ip L) (tr : List (ElectionState V Ip × ElectionAction V Ip))
    (s : ElectionState V Ip) (run : Run (step lans) (start lans) tr s)
    (hmeets : ∀ x ∈ tr, x.1.Meets lans x.2) :
    s.Elected lans ∧ ∀ x ∈ tr, ∀ s', step lans x.1 x.2 = some s' → x.1.Orderly lans s' := by
  have hboth : ElectionInv lans s ∧
      ∀ x ∈ tr, ∀ s', step lans x.1 x.2 = some s' → x.1.Orderly lans s' := by
    refine run.induction (P := fun tr s => ElectionInv lans s ∧
      ∀ x ∈ tr, ∀ s', step lans x.1 x.2 = some s' → x.1.Orderly lans s') (Q := fun s a => s.Meets lans a)
      ⟨electionInv_start lans, nofun⟩ (fun tr s a s' _ ih hmeet hs => ?_) hmeets
    refine ⟨(ih.1.step hmeet hs).1, List.forall_mem_cons.2 ⟨fun s'' hs'' => ?_, ih.2⟩⟩
    exact (ih.1.step hmeet hs'').2
  exact ⟨hboth.1.elected, hboth.2⟩

def exampleLans : Lans (Fin 2) ℕ Unit :=
  { cfg := fun v =>
      { igmp := { robustnessVar := 1, queryInterval := 1000, queryResponseInterval := 2 }
        interfaces := [(v.val + 1, true)]
        getIpFromSameSubnet := fun _ => some (v.val + 1)
        allInSubnet := 0 }
    lan := fun _ => ()
    single := fun _ _ ha _ hb _ => (List.mem_singleton.1 ha).trans (List.mem_singleton.1 hb).symm
    sameSubnet := fun _ _ ha _ _ => congrArg some (List.mem_singleton.1 ha).symm }

/-- The second router hears the first. -/
theorem election_two : ∃ tr s, Run (step exampleLans) (start exampleLans) tr s ∧
    (s.router 0).IsQuerier 0 ∧ (s.router 1).IsNonQuerier 0 ∧ s.Elected exampleLans := by
  have hstep : (step exampleLans (start exampleLans) (.deliver 0 1 0 2000)).any
      (fun s => decide ((s.router 0).IsQuerier 0 ∧ (s.router 1).IsNonQuerier 0)) = true := by
    decide +kernel
  obtain ⟨s, hs, htest⟩ := (Option.any_eq_true _ _).1 hstep
  obtain ⟨hquerier, hnon⟩ := of_decide_eq_true htest
  have run : Run (step exampleLans) (start exampleLans)
      [(start exampleLans, .deliver 0 1 0 2000)] s := Run.nil.snoc hs
  refine ⟨_, s, run, hquerier, hnon, (election exampleLans _ s run ?_).1⟩
  refine List.forall_mem_singleton.2 fun q hq hlower => ?_
  have hgroup : q.group = 0 := by
    cases hq
    rfl
  have hfresh : ((start exampleLans).router 1).getRole 0 = some freshRole := by decide +kernel
  rw [hgroup]
  exact ⟨freshRole, hfresh, fun _ => ⟨rfl, fun _ _ => rfl⟩⟩

/-- The first router sends a second query before the timer of the second one comes. -/
theorem not_election : ¬ ∀ (lans : Lans (Fin 2) ℕ Unit)
    (tr : List (ElectionState (Fin 2) ℕ × ElectionAction (Fin 2) ℕ)) (s : ElectionState (Fin 2) ℕ),
    Run (step lans) (start lans) tr s →
      s.Elected lans ∧ ∀ x ∈ tr, ∀ s', step lans x.1 x.2 = some s' → x.1.Orderly lans s' := by
  intro h
  have hexec : (exec (step exampleLans) (start exampleLans)
      ([.deliver 0 1 0 2000, .timer 0 0, .deliver 0 1 1 25001000, .timer 1 0, .timer 1 0].map
        fun a _ => some a)).any
      (fun x => decide (∃ y ∈ (x.2.router 1).timers, y.dEventTime < x.2.now)) = true := by
    decide +kernel
  obtain ⟨tr, s, run, htest⟩ := run_of_exec hexec
  obtain ⟨y, hy, hlt⟩ := of_decide_eq_true htest
  exact absurd ((h exampleLans tr s run).1.future 1 y hy) (not_le.2 hlt)

end ElectionState

end NetSim.Ip
