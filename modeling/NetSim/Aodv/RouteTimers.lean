import NetSim.Aodv.InFlight

/-!
# Route timers

An entry and its pending `ACTIVE_ROUTE_TIMEOUT` event come and go together, because no lifetime is
more than one delete period ahead.
-/

namespace NetSim.Aodv

open NetSim.Lib

/-! ## Lifetimes -/

theorem deletePeriod_eq : aodvDeletePeriod = 15000000 := by
  norm_num [aodvDeletePeriod, maxTime, aodvActiveRouteTimeout, aodvHelloInterval, millisecond]

theorem activeRouteTimeout_time_eq : aodvActiveRouteTimeout = 3000000 := by
  norm_num [aodvActiveRouteTimeout, millisecond]

theorem netTraversalTime_eq : aodvNetTraversalTime = 2800000 := by
  norm_num [aodvNetTraversalTime, aodvNodeTraversalTime, aodvNetDiameter, millisecond]

theorem le_maxTime_left (a b : Time) : a ≤ maxTime a b := by
  unfold maxTime
  split
  · exact le_refl a
  · next h => exact le_of_not_gt h

theorem le_maxTime_right (a b : Time) : b ≤ maxTime a b := by
  unfold maxTime
  split
  · next h => exact le_of_lt h
  · exact le_refl b

theorem maxTime_le {a b t : Time} (ha : a ≤ t) (hb : b ≤ t) : maxTime a b ≤ t := by
  unfold maxTime
  split
  · exact ha
  · exact hb

theorem toUnsigned_le {t b : Time} (hb : 0 ≤ b) (h : t ≤ b) : ((toUnsigned t).toNat : ℚ) ≤ b := by
  have hmod : (toUnsigned t).toNat ≤ t.floor.toNat := by
    exact Nat.mod_le _ _
  rcases le_total t.floor 0 with hneg | hpos
  · rw [Int.toNat_of_nonpos hneg, Nat.le_zero] at hmod
    rw [hmod]
    exact hb
  · have hfloor : ((t.floor.toNat : ℤ) : ℚ) ≤ t := by
      rw [Int.toNat_of_nonneg hpos]
      exact Rat.floor_le t
    calc ((toUnsigned t).toNat : ℚ) ≤ (t.floor.toNat : ℚ) := by exact_mod_cast hmod
      _ ≤ t := by exact_mod_cast hfloor
      _ ≤ b := h

def LifetimeBounded (now : Time) (e : Option RouteTable) : Prop :=
  ∀ table, e = some table → table.lifetime ≤ now + aodvDeletePeriod

def RouteOp.Bounded (now : Time) : RouteOp → Prop
  | insert _ _ _ _ lifeTime => lifeTime ≤ now + aodvDeletePeriod
  | extend _ lifetime => lifetime ≤ now + aodvDeletePeriod
  | invalidate _ => True
  | expire _ => True

section Entry

variable {c : Curr} {dest : IPAddress} {e : Option RouteTable} {op : RouteOp}

theorem LifetimeBounded.entry (h : LifetimeBounded c.dEventTime e) (hop : op.Bounded c.dEventTime) :
    LifetimeBounded c.dEventTime (op.entry c dest e) := by
  intro table' htable'
  cases op with
  | insert ip seqNumber hopCount nextHop lifeTime =>
    simp only [RouteOp.entry] at htable'
    split at htable'
    · cases e with
      | some table =>
        rw [← Option.some.inj htable']
        split
        · exact maxTime_le (h table rfl) hop
        · exact h table rfl
      | none =>
        rw [← Option.some.inj htable']
        refine maxTime_le ?_ hop
        simp only [RouteTable.alloc, activeRouteTimeout_time_eq, deletePeriod_eq]
        linarith
    · exact h table' htable'
  | extend ip lifetime =>
    obtain ⟨table, rfl, rfl⟩ := Option.map_eq_some_iff.1 htable'
    split
    · exact maxTime_le (h table rfl) hop
    · exact h table rfl
  | invalidate broken =>
    obtain ⟨table, rfl, rfl⟩ := Option.map_eq_some_iff.1 htable'
    split
    · exact le_refl _
    · exact h table rfl
  | expire d =>
    simp only [RouteOp.entry] at htable'
    split at htable'
    · exact h table' (Option.filter_eq_some_iff.1 htable').1
    · exact h table' htable'

/-- An entry has one pending timeout, not later than its lifetime; without an entry there is
none. -/
def TimerMatches (e : Option RouteTable) (times : List Time) : Prop :=
  match e with
  | none => times = []
  | some table => ∃ t, times = [t] ∧ t ≤ table.lifetime

theorem TimerMatches.entry {times : List Time} (h : TimerMatches e times)
    (hbounded : LifetimeBounded c.dEventTime e) (hop : ∀ d, op ≠ .expire d) :
    TimerMatches (op.entry c dest e) (times ++ op.newTimeouts c dest e) := by
  cases op with
  | insert ip seqNumber hopCount nextHop lifeTime =>
    simp only [RouteOp.entry, RouteOp.newTimeouts]
    cases e with
    | none =>
      by_cases hd : dest = ip
      · rw [if_pos hd, if_pos ⟨hd, rfl⟩, show times = [] from h]
        exact ⟨_, rfl, le_maxTime_left _ _⟩
      · rw [if_neg hd, if_neg fun hc => hd hc.1, List.append_nil]
        exact h
    | some table =>
      obtain ⟨t, rfl, ht⟩ := h
      rw [if_neg (by simp : ¬ (dest = ip ∧ some table = none)), List.append_nil]
      by_cases hd : dest = ip
      · rw [if_pos hd]
        refine ⟨t, rfl, le_trans ht ?_⟩
        split
        · exact le_maxTime_left _ _
        · exact le_refl _
      · rw [if_neg hd]
        exact ⟨t, rfl, ht⟩
  | extend ip lifetime =>
    rw [show RouteOp.newTimeouts c dest e (.extend ip lifetime) = [] from rfl, List.append_nil]
    cases e with
    | none => exact h
    | some table =>
      obtain ⟨t, rfl, ht⟩ := h
      refine ⟨t, rfl, le_trans ht ?_⟩
      dsimp only
      split
      · exact le_maxTime_left _ _
      · exact le_refl _
  | invalidate broken =>
    rw [show RouteOp.newTimeouts c dest e (.invalidate broken) = [] from rfl, List.append_nil]
    cases e with
    | none => exact h
    | some table =>
      obtain ⟨t, rfl, ht⟩ := h
      refine ⟨t, rfl, ?_⟩
      dsimp only
      split
      · exact le_trans ht (hbounded table rfl)
      · exact ht
  | expire d => exact absurd rfl (hop d)

theorem timerMatches_expire :
    TimerMatches ((RouteOp.expire dest).entry c dest e)
      ((RouteOp.expire dest).newTimeouts c dest e) := by
  simp only [RouteOp.entry, RouteOp.newTimeouts, if_true]
  cases e with
  | none => rfl
  | some table =>
    by_cases hlt : c.dEventTime < table.lifetime
    · simp only [Option.filter_some, hlt, decide_true, if_true, true_and]
      exact ⟨_, rfl, le_refl _⟩
    · simp only [Option.filter_some, hlt, decide_false, and_false]
      rfl

end Entry

/-! ## Sequence numbers -/

def FlagMatches (e : Option RouteTable) : Prop :=
  ∀ table, e = some table →
    (table.validDestinationSequenceNumberflag = true ↔ table.destinationSequenceNumber ≠ 0)

theorem le_of_accepts {table : RouteTable} {seqNumber hopCount : UInt32}
    (hflag : table.validDestinationSequenceNumberflag = true ↔ table.destinationSequenceNumber ≠ 0)
    (h : table.accepts seqNumber hopCount = true) :
    table.destinationSequenceNumber ≤ seqNumber := by
  unfold RouteTable.accepts at h
  split at h
  · next hf =>
    have hzero : table.destinationSequenceNumber = 0 := by
      by_contra hne
      rw [hflag.2 hne] at hf
      cases hf
    rw [hzero]
    exact UInt32.zero_le
  · split at h
    · next hlt => exact UInt32.le_of_lt hlt
    · split at h
      · cases h
      · next hle => exact UInt32.not_lt.1 hle

theorem overwrite_flag {table : RouteTable} {seqNumber hopCount : UInt32} {lifeTime : Time}
    (hflag : table.validDestinationSequenceNumberflag = true ↔ table.destinationSequenceNumber ≠ 0)
    (hle : table.destinationSequenceNumber ≤ seqNumber) :
    (table.overwrite seqNumber hopCount lifeTime).validDestinationSequenceNumberflag = true ↔
      (table.overwrite seqNumber hopCount lifeTime).destinationSequenceNumber ≠ 0 := by
  simp only [RouteTable.overwrite]
  by_cases hseq : seqNumber = 0
  · subst hseq
    have hzero : table.destinationSequenceNumber = 0 := UInt32.le_zero_iff.1 hle
    simp [hflag, hzero]
  · simp [hseq]

section Sequence

variable {c : Curr} {dest : IPAddress} {e : Option RouteTable} {op : RouteOp}

theorem FlagMatches.entry (h : FlagMatches e) : FlagMatches (op.entry c dest e) := by
  intro table' htable'
  cases op with
  | insert ip seqNumber hopCount nextHop lifeTime =>
    simp only [RouteOp.entry] at htable'
    split at htable'
    · cases e with
      | some table =>
        rw [← Option.some.inj htable']
        split
        · next haccepts => exact overwrite_flag (h table rfl) (le_of_accepts (h table rfl) haccepts)
        · exact h table rfl
      | none =>
        rw [← Option.some.inj htable']
        exact overwrite_flag (by simp [RouteTable.alloc]) UInt32.zero_le
    · exact h table' htable'
  | extend ip lifetime =>
    obtain ⟨table, rfl, rfl⟩ := Option.map_eq_some_iff.1 htable'
    split <;> exact h table rfl
  | invalidate broken =>
    obtain ⟨table, rfl, rfl⟩ := Option.map_eq_some_iff.1 htable'
    split <;> exact h table rfl
  | expire d =>
    simp only [RouteOp.entry] at htable'
    split at htable'
    · exact h table' (Option.filter_eq_some_iff.1 htable').1
    · exact h table' htable'

theorem seq_le_of_entry {table table' : RouteTable} (h : FlagMatches (some table))
    (htable' : op.entry c dest (some table) = some table') :
    table.destinationSequenceNumber ≤ table'.destinationSequenceNumber := by
  cases op with
  | insert ip seqNumber hopCount nextHop lifeTime =>
    simp only [RouteOp.entry] at htable'
    split at htable'
    · rw [← Option.some.inj htable']
      split
      · next haccepts => exact le_of_accepts (h table rfl) haccepts
      · exact UInt32.le_refl _
    · rw [Option.some.inj htable']
      exact UInt32.le_refl _
  | extend ip lifetime =>
    rw [← Option.some.inj htable']
    dsimp only
    split <;> exact UInt32.le_refl _
  | invalidate broken =>
    rw [← Option.some.inj htable']
    dsimp only
    split <;> exact UInt32.le_refl _
  | expire d =>
    simp only [RouteOp.entry] at htable'
    split at htable'
    · rw [Option.some.inj (Option.filter_eq_some_iff.1 htable').1]
      exact UInt32.le_refl _
    · rw [Option.some.inj htable']
      exact UInt32.le_refl _

end Sequence

/-! ## One event -/

theorem timeouts_erase (dest : IPAddress) (e : EventDetails) (events : List EventDetails) :
    timeouts dest (events.erase e) =
      if e.subEvent = .activeRouteTimeout dest then (timeouts dest events).erase e.dEventTime
      else timeouts dest events := by
  induction events with
  | nil => split <;> rfl
  | cons head tail ih =>
    by_cases hhead : head = e
    · subst hhead
      rw [List.erase_cons_head, timeouts_cons]
      by_cases hsub : head.subEvent = .activeRouteTimeout dest
      · rw [if_pos hsub, if_pos hsub, List.erase_cons_head]
      · rw [if_neg hsub, if_neg hsub]
    · rw [List.erase_cons_tail (by simpa using hhead), timeouts_cons, timeouts_cons, ih]
      by_cases hsub : e.subEvent = .activeRouteTimeout dest
      · by_cases hsub' : head.subEvent = .activeRouteTimeout dest
        · have htime : head.dEventTime ≠ e.dEventTime := by
            intro htime
            apply hhead
            cases head
            cases e
            simp_all
          rw [if_pos hsub, if_pos hsub', if_pos hsub', if_pos hsub,
            List.erase_cons_tail (by simpa using htime)]
        · rw [if_pos hsub, if_neg hsub', if_neg hsub', if_pos hsub]
      · simp only [if_neg hsub]

section Event

variable {c : Curr} {nRREQId : UInt32} {v : DeviceVar} {o : Outcome} {a : NodeAction}
  {events : List EventDetails}

theorem timerMatches_after {dest : IPAddress} {ops : List RouteOp}
    (hops : ∀ d, .expire d ∉ ops) (hbounded : ∀ op ∈ ops, op.Bounded c.dEventTime)
    {l : List RouteTable} (hl : OnePerDestination l) {times : List Time}
    (hT : TimerMatches (findRouteTable l dest) times)
    (hB : LifetimeBounded c.dEventTime (findRouteTable l dest)) :
    TimerMatches (findRouteTable (tableAfter c l ops) dest)
        (times ++ timeouts dest (timersOf c l ops)) ∧
      LifetimeBounded c.dEventTime (findRouteTable (tableAfter c l ops) dest) := by
  induction ops generalizing l times with
  | nil => exact ⟨by simpa [timersOf, tableAfter] using hT, hB⟩
  | cons op ops ih =>
    have hop : ∀ d, op ≠ .expire d := by
      rintro d rfl
      exact hops d List.mem_cons_self
    have hbound := hbounded op List.mem_cons_self
    have hT' : TimerMatches (findRouteTable (op.table c l) dest)
        (times ++ timeouts dest (op.timers c l)) := by
      rw [findRouteTable_table op hl, timeouts_timers op hl]
      exact hT.entry hB hop
    have hB' : LifetimeBounded c.dEventTime (findRouteTable (op.table c l) dest) := by
      rw [findRouteTable_table op hl]
      exact hB.entry hbound
    have hrest := ih (fun d hd => hops d (List.mem_cons_of_mem _ hd))
      (fun op' hop' => hbounded op' (List.mem_cons_of_mem _ hop')) (hl.table op) hT' hB'
    simpa [tableAfter, timersOf, List.append_assoc] using hrest

theorem timeouts_erase_eq_nil {e : Option RouteTable} {times : List Time} {t : Time}
    (h : TimerMatches e times) (ht : t ∈ times) : times.erase t = [] := by
  cases e with
  | none =>
    rw [show times = [] from h]
    rfl
  | some table =>
    obtain ⟨t', rfl, -⟩ := h
    rw [List.mem_singleton.1 ht, List.erase_cons_head]

theorem timers_expire {d : IPAddress} (hmem : ⟨c.dEventTime, .activeRouteTimeout d⟩ ∈ events)
    (hT : ∀ dest, TimerMatches (findRouteTable v.routeTable dest) (timeouts dest events))
    (dest : IPAddress) :
    TimerMatches ((RouteOp.expire d).entry c dest (findRouteTable v.routeTable dest))
      (timeouts dest (events.erase ⟨c.dEventTime, .activeRouteTimeout d⟩) ++
        (RouteOp.expire d).newTimeouts c dest (findRouteTable v.routeTable dest)) := by
  rw [timeouts_erase]
  by_cases hdest : dest = d
  · subst hdest
    have htime : c.dEventTime ∈ timeouts dest events := by
      exact List.mem_filterMap.2 ⟨_, hmem, if_pos rfl⟩
    rw [if_pos rfl, timeouts_erase_eq_nil (hT dest) htime]
    exact timerMatches_expire
  · have hentry : (RouteOp.expire d).entry c dest (findRouteTable v.routeTable dest) =
        findRouteTable v.routeTable dest := if_neg hdest
    have htimes : (RouteOp.expire d).newTimeouts c dest (findRouteTable v.routeTable dest) =
        [] := by
      simp only [RouteOp.newTimeouts]
      split
      · exact if_neg fun hc => hdest hc.1
      · rfl
    rw [if_neg fun hc => hdest (SubEvent.activeRouteTimeout.inj hc).symm, hentry, htimes,
      List.append_nil]
    exact hT dest

theorem timeouts_remaining (hops : ∀ d, .expire d ∉ routeOps c v a) (dest : IPAddress) :
    timeouts dest (a.remaining events) = timeouts dest events := by
  cases a with
  | fire e =>
    obtain ⟨time, subEvent⟩ := e
    simp only [NodeAction.remaining]
    rw [timeouts_erase, if_neg]
    intro hsub
    cases hsub
    exact hops dest (List.mem_singleton_self _)
  | dataOut packet => rfl
  | networkIn packet => rfl
  | dropNotification nextHop => rfl

theorem handle_timers (h : handle c nRREQId v a = some o)
    (henabled : a.enabled c.dEventTime events = true) (hl : OnePerDestination v.routeTable)
    (hbounded : ∀ op ∈ routeOps c v a, op.Bounded c.dEventTime)
    (hT : ∀ dest, TimerMatches (findRouteTable v.routeTable dest) (timeouts dest events))
    (hB : ∀ dest, LifetimeBounded c.dEventTime (findRouteTable v.routeTable dest))
    (dest : IPAddress) :
    TimerMatches (findRouteTable o.devVar.routeTable dest)
        (timeouts dest (a.remaining events ++ o.added)) ∧
      LifetimeBounded c.dEventTime (findRouteTable o.devVar.routeTable dest) := by
  obtain ⟨htable, htimers⟩ := handle_routeEffect h
  rw [timeouts_append, htimers dest, htable]
  by_cases hexpire : ∃ d, .expire d ∈ routeOps c v a
  · obtain ⟨d, hd⟩ := hexpire
    obtain ⟨time, rfl⟩ := expire_mem_routeOps hd
    simp only [NodeAction.enabled, Bool.and_eq_true, decide_eq_true_eq] at henabled
    obtain ⟨hmem, rfl⟩ := henabled
    have hops : routeOps c v (.fire ⟨c.dEventTime, .activeRouteTimeout d⟩) = [.expire d] := rfl
    rw [hops]
    simp only [tableAfter, timersOf, List.append_nil, NodeAction.remaining]
    rw [findRouteTable_table _ hl, timeouts_timers _ hl]
    exact ⟨timers_expire hmem hT dest, (hB dest).entry trivial⟩
  · have hops : ∀ d, .expire d ∉ routeOps c v a := fun d hd => hexpire ⟨d, hd⟩
    rw [timeouts_remaining hops]
    exact timerMatches_after hops hbounded hl (hT dest) (hB dest)

theorem extend_bounded (ip : IPAddress) :
    (RouteOp.extend ip (c.dEventTime + aodvActiveRouteTimeout)).Bounded c.dEventTime := by
  simp only [RouteOp.Bounded, activeRouteTimeout_time_eq, deletePeriod_eq]
  linarith

theorem reverseRoute_bounded (rreq : RREQ) : (reverseRoute c rreq).Bounded c.dEventTime := by
  simp only [reverseRoute, RouteOp.Bounded, netTraversalTime_eq, deletePeriod_eq,
    aodvNodeTraversalTime, millisecond]
  linarith

theorem forwardRoute_bounded (rrep : RREP) : (forwardRoute c rrep).Bounded c.dEventTime := by
  simp only [forwardRoute, RouteOp.Bounded, activeRouteTimeout_time_eq, deletePeriod_eq]
  linarith

theorem outOps_bounded {packet : Packet} {op : RouteOp} (hop : op ∈ outOps c v packet) :
    op.Bounded c.dEventTime := by
  unfold outOps at hop
  split at hop
  · rw [List.mem_singleton.1 hop]
    exact extend_bounded _
  · cases hop

theorem inOps_bounded {packet : Packet} (hrrep : ∀ rrep, packet.payload = .rrep rrep →
      (rrep.lifetime.toNat : ℚ) ≤ c.dEventTime + aodvDeletePeriod) {op : RouteOp}
    (hop : op ∈ inOps c v packet) : op.Bounded c.dEventTime := by
  unfold inOps at hop
  split at hop
  · next rreq _ =>
    split at hop
    · cases hop
    · rw [List.mem_singleton.1 hop]
      exact reverseRoute_bounded rreq
  · next rrep hpayload =>
    split at hop
    · cases hop
    · rcases List.mem_cons.1 hop with rfl | hop
      · exact forwardRoute_bounded rrep
      · rw [List.mem_singleton.1 hop]
        exact hrrep rrep hpayload
  · rw [List.mem_singleton.1 hop]
    trivial
  · split at hop
    · rw [List.mem_singleton.1 hop]
      exact extend_bounded _
    · rcases List.mem_cons.1 hop with rfl | hop
      · exact extend_bounded _
      · rw [List.mem_singleton.1 hop]
        exact extend_bounded _

theorem routeOps_bounded (hrrep : ∀ packet rrep, a = .networkIn packet →
      packet.payload = .rrep rrep → (rrep.lifetime.toNat : ℚ) ≤ c.dEventTime + aodvDeletePeriod) :
    ∀ op ∈ routeOps c v a, op.Bounded c.dEventTime := by
  intro op hop
  cases a with
  | fire e =>
    obtain ⟨time, subEvent⟩ := e
    cases subEvent with
    | networkOut packet => exact outOps_bounded hop
    | rreqTimeout dest => cases hop
    | transmitHello => cases hop
    | activeRouteTimeout dest =>
      rw [List.mem_singleton.1 hop]
      trivial
  | dataOut packet => exact outOps_bounded hop
  | networkIn packet => exact inOps_bounded (fun rrep => hrrep packet rrep rfl) hop
  | dropNotification nextHop =>
    simp only [routeOps] at hop
    split at hop
    · rw [List.mem_singleton.1 hop]
      trivial
    · cases hop

end Event

/-! ## Runs of a network -/

def MessageBounded (now : Time) (p : Packet) : Prop :=
  ∀ rrep, p.payload = .rrep rrep → (rrep.lifetime.toNat : ℚ) ≤ now + aodvDeletePeriod

structure TimerInv (s : Net) : Prop where
  timers : ∀ i dest, TimerMatches (findRouteTable (s.device i).var.routeTable dest)
    (timeouts dest (s.device i).events)
  lifetimes : ∀ i dest, LifetimeBounded s.now (findRouteTable (s.device i).var.routeTable dest)
  messages : ∀ p, s.InFlight p → MessageBounded s.now p

theorem timerInv_init : TimerInv .init where
  timers _ _ := rfl
  lifetimes _ _ _ h := nomatch h
  messages _ h := absurd h not_inFlight_init

theorem MessageBounded.mono {now time : Time} {p : Packet} (h : MessageBounded now p)
    (hle : now ≤ time) : MessageBounded time p := by
  intro rrep hrrep
  have hbound := h rrep hrrep
  linarith

theorem messageBounded_of_emits {c : Curr} {nRREQId : UInt32} {v : DeviceVar} {o : Outcome}
    {a : NodeAction} {p : Packet} (hemits : Emits c nRREQId v o a p) (hnow : 0 ≤ c.dEventTime)
    (hl : OnePerDestination v.routeTable)
    (hB : ∀ dest, LifetimeBounded c.dEventTime (findRouteTable v.routeTable dest))
    (hin : ∀ packet, a = .networkIn packet → MessageBounded c.dEventTime packet)
    (hfire : ∀ time packet, a = .fire ⟨time, .networkOut packet⟩ →
      MessageBounded c.dEventTime packet) : MessageBounded c.dEventTime p := by
  have hperiod : (0 : ℚ) ≤ aodvDeletePeriod := by
    rw [deletePeriod_eq]
    norm_num
  intro rrep hrrep
  cases hemits.rrep hrrep with
  | sends time packet hpacket => exact hfire time packet rfl rrep hpacket
  | destination packet rreq _ _ _ hp =>
    rw [hp] at hrrep
    rw [← Payload.rrep.inj hrrep]
    apply toUnsigned_le
    · linarith
    · simp only [aodvMyRouteTimeout, activeRouteTimeout_time_eq, deletePeriod_eq]
      linarith
  | intermediate packet rreq table _ _ _ _ _ hfind _ hp =>
    rw [hp] at hrrep
    rw [← Payload.rrep.inj hrrep]
    refine toUnsigned_le (by linarith) ?_
    rw [accept_routeTable, findRouteTable_table _ hl] at hfind
    have hbound := (hB _).entry (reverseRoute_bounded rreq) table hfind
    linarith
  | forwards packet rrep0 nextHop hpacket hp =>
    rw [hp] at hrrep
    rw [← Payload.rrep.inj hrrep]
    exact hin packet rfl rrep0 hpacket
  | hello time hhello =>
    rw [hhello]
    have htime := toUnsigned_le hnow (le_refl c.dEventTime)
    have hsum : (helloRREP c v).lifetime.toNat ≤ (toUnsigned c.dEventTime).toNat + 2000000 := by
      have hloss : aodvAllowedHelloLoss * toUnsigned aodvHelloInterval = 2000000 := by
        decide +kernel
      simp only [helloRREP, hloss, UInt32.toNat_add]
      exact Nat.mod_le _ _
    have hcast : ((helloRREP c v).lifetime.toNat : ℚ) ≤
        (toUnsigned c.dEventTime).toNat + 2000000 := by exact_mod_cast hsum
    rw [deletePeriod_eq]
    linarith

theorem messageBounded_receivedCopy {now : Time} {frame : Packet} (h : MessageBounded now frame) :
    MessageBounded now (receivedCopy frame) := by
  intro rrep hrrep
  unfold receivedCopy copyPayload at hrrep
  cases hp : frame.payload with
  | rrep rrep' =>
    simp only [hp, Payload.rrep.injEq] at hrrep
    rw [← hrrep]
    exact h rrep' hp
  | rreq rreq => simp [hp] at hrrep
  | rerr rerr => simp [hp] at hrrep
  | data n => simp [hp] at hrrep

variable {nodes : List IPAddress} {tr : List (Net × NetAction)} {s : Net}

theorem timerInv_step {s' : Net} {a : NetAction} (run : NetRun nodes tr s) (hinv : TimerInv s)
    (h : s.step nodes a = some s') : TimerInv s' := by
  rcases Net.step_cases h with ⟨time, -, hle, -, rfl⟩ | ⟨i, act, o, hact, rfl⟩
  · refine ⟨hinv.timers, fun i dest table htable => ?_, fun p hp => ?_⟩
    · exact le_trans (hinv.lifetimes i dest table htable) (by simpa using hle)
    · exact (hinv.messages p hp).mono hle
  have hin : ∀ packet, act = .networkIn packet → MessageBounded s.now packet := by
    rintro packet rfl
    obtain ⟨frame, hframe, -, rfl⟩ := exists_frame_of_networkIn hact
    exact messageBounded_receivedCopy (hinv.messages frame (Or.inl hframe))
  have hfire : ∀ time packet, act = .fire ⟨time, .networkOut packet⟩ →
      MessageBounded s.now packet := by
    rintro time packet rfl
    exact hinv.messages packet (inFlight_of_fire hact)
  have hl := onePerDestination_of_run run i
  have hdevice := handle_timers hact.handled hact.enabled hl
    (routeOps_bounded fun packet rrep heq => hin packet heq rrep) (hinv.timers i)
    (hinv.lifetimes i)
  constructor
  · intro j dest
    by_cases hj : j = i
    · subst hj
      rw [after_device_self]
      exact (hdevice dest).1
    · rw [after_device_ne hj]
      exact hinv.timers j dest
  · intro j dest
    by_cases hj : j = i
    · subst hj
      rw [after_device_self]
      exact (hdevice dest).2
    · rw [after_device_ne hj]
      exact hinv.lifetimes j dest
  · intro p hp
    rcases inFlight_after hp with hold | hnew
    · exact hinv.messages p hold
    · exact messageBounded_of_emits (hact.emits run hnew) (now_nonneg run) hl (hinv.lifetimes i)
        hin hfire

theorem timerInv_of_run (run : NetRun nodes tr s) : TimerInv s :=
  run.induction (P := fun _ s => TimerInv s) (Q := fun _ _ => True) timerInv_init
    (fun _ _ _ _ run' hinv _ h => timerInv_step run' hinv h) fun _ _ => trivial

/-! ## The life of an entry -/

section Life

variable {c : Curr} {dest : IPAddress}

theorem FlagMatches.after {e : Option RouteTable} (h : FlagMatches e) (ops : List RouteOp) :
    FlagMatches (entryAfter c dest e ops) := by
  induction ops generalizing e with
  | nil => exact h
  | cons op ops ih => exact ih h.entry

theorem exists_entryAfter {ops : List RouteOp} (hops : ∀ d, .expire d ∉ ops) {table : RouteTable}
    (h : FlagMatches (some table)) : ∃ table', entryAfter c dest (some table) ops = some table' ∧
      table.destinationSequenceNumber ≤ table'.destinationSequenceNumber := by
  induction ops generalizing table with
  | nil => exact ⟨table, rfl, UInt32.le_refl _⟩
  | cons op ops ih =>
    have hop : ∀ d, op ≠ .expire d := by
      rintro d rfl
      exact hops d List.mem_cons_self
    obtain ⟨table1, htable1⟩ := entry_isSome c dest hop table
    have hflag1 : FlagMatches (some table1) := htable1 ▸ h.entry
    obtain ⟨table', htable', hle⟩ := ih (fun d hd => hops d (List.mem_cons_of_mem _ hd)) hflag1
    refine ⟨table', ?_, UInt32.le_trans (seq_le_of_entry h htable1) hle⟩
    unfold entryAfter
    rw [htable1, htable']

theorem handle_life {nRREQId : UInt32} {v : DeviceVar} {a : NodeAction} {o : Outcome}
    {table : RouteTable} (h : handle c nRREQId v a = some o) (hl : OnePerDestination v.routeTable)
    (hfind : findRouteTable v.routeTable dest = some table) (hflag : FlagMatches (some table)) :
    (∃ table', findRouteTable o.devVar.routeTable dest = some table' ∧
        table.destinationSequenceNumber ≤ table'.destinationSequenceNumber) ∨
      (findRouteTable o.devVar.routeTable dest = none ∧
        (∃ time, a = .fire ⟨time, .activeRouteTimeout dest⟩) ∧ table.lifetime ≤ c.dEventTime) := by
  rw [handle_entry h hl, hfind]
  by_cases hexpire : ∃ d, .expire d ∈ routeOps c v a
  · obtain ⟨d, hd⟩ := hexpire
    obtain ⟨time, rfl⟩ := expire_mem_routeOps hd
    have hops : routeOps c v (.fire ⟨time, .activeRouteTimeout d⟩) = [.expire d] := rfl
    rw [hops]
    simp only [entryAfter, RouteOp.entry]
    by_cases hdest : dest = d
    · subst hdest
      rw [if_pos rfl, Option.filter_some]
      by_cases hlt : c.dEventTime < table.lifetime
      · exact Or.inl ⟨table, if_pos (by simpa using hlt), UInt32.le_refl _⟩
      · exact Or.inr ⟨if_neg (by simpa using hlt), ⟨time, rfl⟩, le_of_not_gt hlt⟩
    · exact Or.inl ⟨table, if_neg hdest, UInt32.le_refl _⟩
  · exact Or.inl (exists_entryAfter (fun d hd => hexpire ⟨d, hd⟩) hflag)

end Life

theorem flagMatches_of_run (run : NetRun nodes tr s) (i dest : IPAddress) :
    FlagMatches (findRouteTable (s.device i).var.routeTable dest) := by
  refine (run.device_invariant (P := fun v => OnePerDestination v.routeTable ∧
    ∀ dest, FlagMatches (findRouteTable v.routeTable dest)) ?_ ?_ i).2 dest
  · exact ⟨List.nodup_nil, fun _ _ h => nomatch h⟩
  · rintro c nRREQId v a o ⟨hl, hflag⟩ h
    refine ⟨handle_onePerDestination h hl, fun dest => ?_⟩
    rw [handle_entry h hl]
    exact (hflag dest).after _

/-- Route tables and route timers of a network state match. -/
structure RouteTimersMatch (s : Net) : Prop where
  onePerDestination : ∀ i, OnePerDestination (s.device i).var.routeTable
  timers : ∀ i dest, TimerMatches (findRouteTable (s.device i).var.routeTable dest)
    (timeouts dest (s.device i).events)
  flags : ∀ i, ∀ table ∈ (s.device i).var.routeTable,
    (table.validDestinationSequenceNumberflag = true ↔ table.destinationSequenceNumber ≠ 0)

/-- Every entry stays with a sequence number that is not lower, or times out. -/
def EntriesLive (s : Net) (a : NetAction) (s' : Net) : Prop :=
  ∀ i dest table, findRouteTable (s.device i).var.routeTable dest = some table →
    (∃ table', findRouteTable (s'.device i).var.routeTable dest = some table' ∧
        table.destinationSequenceNumber ≤ table'.destinationSequenceNumber) ∨
      (findRouteTable (s'.device i).var.routeTable dest = none ∧
        a = .fire i ⟨s.now, .activeRouteTimeout dest⟩ ∧ table.lifetime ≤ s.now)

theorem entriesLive_step {s' : Net}
    {a : NetAction} (run : NetRun nodes tr s) (h : s.step nodes a = some s') :
    EntriesLive s a s' := by
  intro j dest table hfind
  rcases Net.step_cases h with ⟨time, -, -, -, rfl⟩ | ⟨i, act, o, hact, rfl⟩
  · exact Or.inl ⟨table, hfind, UInt32.le_refl _⟩
  by_cases hj : j = i
  · subst hj
    rw [after_device_self]
    have hflag := flagMatches_of_run run j dest
    rw [hfind] at hflag
    rcases handle_life hact.handled (onePerDestination_of_run run j) hfind hflag with
      hlive | ⟨hnone, ⟨time, rfl⟩, hle⟩
    · exact Or.inl hlive
    · refine Or.inr ⟨hnone, ?_, hle⟩
      have hlocal := hact.act_eq
      have henabled := hact.enabled
      simp only [NodeAction.enabled, Bool.and_eq_true, decide_eq_true_eq] at henabled
      rw [← henabled.2]
      cases a with
      | fire i event =>
        simp only [NetAction.local, Option.some.injEq, Prod.mk.injEq, NodeAction.fire.injEq]
          at hlocal
        rw [hlocal.1, hlocal.2]
      | tick time => cases hlocal
      | dataOut i packet => cases hlocal
      | deliver r frame =>
        simp only [NetAction.local] at hlocal
        split at hlocal <;> cases hlocal
      | drop frame =>
        simp only [NetAction.local] at hlocal
        split at hlocal
        · obtain ⟨n, -, heq⟩ := Option.map_eq_some_iff.1 hlocal
          cases heq
        · cases hlocal
  · rw [after_device_ne hj]
    exact Or.inl ⟨table, hfind, UInt32.le_refl _⟩

/-- In every reachable state entries and timers match, and every step from it keeps the entries
alive. -/
theorem routeTimers_of_run {nodes : List IPAddress} {tr : List (Net × NetAction)} {s : Net}
    (run : NetRun nodes tr s) :
    RouteTimersMatch s ∧ ∀ a s', s.step nodes a = some s' → EntriesLive s a s' := by
  refine ⟨⟨onePerDestination_of_run run, (timerInv_of_run run).timers, ?_⟩,
    fun a s' h => entriesLive_step run h⟩
  intro i table hmem
  exact flagMatches_of_run run i table.destinationIPAddress table
    (lookup_of_mem (onePerDestination_of_run run i) hmem)

open Strategy

/-- Time passes until `ms` milliseconds; devices 1 and 2 send their hello messages. -/
def helloPair (ms : ℕ) : List Strategy := [wait ms, due 1, due 1, due 2, due 2]

/-- Device 2 learns a route to device 1, which times out for good at its second event. -/
def routeExpiry : List Strategy :=
  [data 1 2 8, hear 2 0, due 2, hear 1 0, due 1, wait 320, due 1] ++ helloPair 1000 ++ helloPair 2000 ++
  [wait 3000, due 1, due 1, due 1, due 2, due 2, due 2] ++ helloPair 4000 ++ helloPair 5000 ++
  [wait 5600, due 2]

def routeExpired (r : List (Net × NetAction) × Net) : Bool :=
  (r.1.any fun x => decide (findNextHop (x.1.device 2).var 1 = some 1)) &&
    decide (findNextHop (r.2.device 2).var 1 = none)

theorem routeExpiry_expires :
    ((exec (Net.step [1, 2]) Net.init routeExpiry).any routeExpired) = true := by
  decide +kernel

theorem routeTimers_of_routeExpiry : ∃ tr s, NetRun [1, 2] tr s ∧
    (∃ x ∈ tr, findNextHop (x.1.device 2).var 1 = some 1) ∧
    findNextHop (s.device 2).var 1 = none ∧ RouteTimersMatch s := by
  obtain ⟨tr, s, run, htest⟩ := NetRun.of_exec [1, 2] routeExpiry routeExpired routeExpiry_expires
  simp only [routeExpired, Bool.and_eq_true, decide_eq_true_eq, List.any_eq_true] at htest
  exact ⟨tr, s, run, htest.1, htest.2, (routeTimers_of_run run).1⟩

end NetSim.Aodv
