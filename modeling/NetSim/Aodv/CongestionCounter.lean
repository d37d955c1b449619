import NetSim.Aodv.Bookkeeping

/-!
# The congestion counter

`ncounter` counts the flagged routes that are outstanding as long as each decrease ends exactly one
of them; but it is decreased whenever an entry is deleted or an error generated.
-/

namespace NetSim.Aodv

open NetSim.Lib

/-! ## What changes the counter -/

def NodeAction.flagged (c : Curr) : NodeAction → Option IPAddress
  | .networkIn packet =>
    match packet.payload with
    | .rrep rrep =>
      if rrep.destinationIPaddress ≠ c.ip ∧ rrep.congestionflag = true then
        some rrep.destinationIPaddress
      else none
    | _ => none
  | _ => none

def NodeAction.decrements (c : Curr) (v : DeviceVar) : NodeAction → Bool
  | .fire ⟨_, .activeRouteTimeout dest⟩ =>
    (findRouteTable v.routeTable dest).any fun table => decide (table.lifetime ≤ c.dEventTime)
  | .dropNotification _ => decide (10 < v.nRerrCount)
  | _ => false

/-- The event ends the route to `dest`: its entry is deleted, or its next hop is lost. -/
def NodeAction.ends (c : Curr) (v : DeviceVar) (dest : IPAddress) : NodeAction → Bool
  | .fire ⟨_, .activeRouteTimeout dest'⟩ =>
    decide (dest = dest') &&
      (findRouteTable v.routeTable dest).any fun table => decide (table.lifetime ≤ c.dEventTime)
  | .dropNotification nextHop =>
    decide (10 < v.nRerrCount) &&
      (findRouteTable v.routeTable dest).any fun table => decide (table.nextHop = nextHop)
  | _ => false

section Counter

variable {c : Curr} {nRREQId : UInt32} {v : DeviceVar} {a : NodeAction} {o : Outcome}

theorem flagged_of_quiet (h : a.Quiet c v) : a.flagged c = none ∧ a.decrements c v = false := by
  cases a with
  | fire e =>
    obtain ⟨time, subEvent⟩ := e
    cases subEvent with
    | activeRouteTimeout dest => exact absurd h id
    | networkOut packet => exact ⟨rfl, rfl⟩
    | rreqTimeout dest => exact ⟨rfl, rfl⟩
    | transmitHello => exact ⟨rfl, rfl⟩
  | dataOut packet => exact ⟨rfl, rfl⟩
  | networkIn packet =>
    refine ⟨?_, rfl⟩
    simp only [NodeAction.Quiet] at h
    simp only [NodeAction.flagged]
    split
    · next rrep hp =>
      rw [hp] at h
      exact if_neg fun hc => hc.1 h
    · rfl
  | dropNotification nextHop =>
    refine ⟨rfl, ?_⟩
    have hle : v.nRerrCount ≤ 10 := h
    simpa [NodeAction.decrements] using hle

theorem handle_ncounter (h : handle c nRREQId v a = some o) (hl : OnePerDestination v.routeTable) :
    o.devVar.ncounter =
      if a.decrements c v then v.ncounter - 1
      else if (a.flagged c).isSome then v.ncounter + 1 else v.ncounter := by
  have hroutes : ∀ {packet}, a.Routes packet → a.decrements c v = false ∧ a.flagged c = none := by
    rintro packet (⟨time, rfl⟩ | rfl) <;> exact ⟨rfl, rfl⟩
  cases handle_book h with
  | same _ hquiet hbook =>
    obtain ⟨hflagged, hdecrements⟩ := flagged_of_quiet hquiet
    rw [hflagged, hdecrements]
    exact congrArg Book.ncounter hbook
  | expires time dest hbook =>
    have hcounter : o.devVar.ncounter = _ := congrArg Book.ncounter hbook
    rw [hcounter]
    rw [activeRouteTimeoutLoop_eq hl]
    cases hfind : findRouteTable v.routeTable dest with
    | none => simp [NodeAction.decrements, NodeAction.flagged, hfind]
    | some table =>
      by_cases hle : table.lifetime ≤ c.dEventTime
      · simp [NodeAction.decrements, hfind, hle]
      · simp [NodeAction.decrements, NodeAction.flagged, hfind, hle]
  | breaks nextHop hcount hbook =>
    have hcounter : o.devVar.ncounter = _ := congrArg Book.ncounter hbook
    rw [hcounter]
    simp [NodeAction.decrements, hcount]
  | buffers _ packet fifo ha _ _ hbook =>
    rw [(hroutes ha).1, (hroutes ha).2]
    exact congrArg Book.ncounter hbook
  | discovers _ packet fifo ha _ _ hbook =>
    rw [(hroutes ha).1, (hroutes ha).2]
    exact congrArg Book.ncounter hbook
  | givesUp _ _ _ _ _ _ hbook => exact congrArg Book.ncounter hbook
  | retries _ _ _ _ _ _ hbook => exact congrArg Book.ncounter hbook
  | accepts packet rreq hrreq _ hbook =>
    have hflagged : (NodeAction.networkIn packet).flagged c = none := by
      simp only [NodeAction.flagged, hrreq]
    rw [hflagged]
    exact congrArg Book.ncounter hbook
  | learns packet rrep hrrep hdest hbook =>
    have hcounter : o.devVar.ncounter = _ := congrArg Book.ncounter hbook
    rw [hcounter]
    by_cases hflag : rrep.congestionflag = true
    · simp [NodeAction.decrements, NodeAction.flagged, hrrep, hdest, hflag]
    · simp [NodeAction.decrements, NodeAction.flagged, hrrep, hflag]

end Counter

/-! ## Outstanding flagged routes -/

def outstanding (ip : IPAddress) : List (NodeState × NodeStepLabel) → List IPAddress
  | [] => []
  | (_, .tick _ _) :: tr => outstanding ip tr
  | (s, .act a) :: tr =>
    match a.flagged ⟨ip, s.now⟩ with
    | some dest => (outstanding ip tr).insert dest
    | none => (outstanding ip tr).filter fun dest => !a.ends ⟨ip, s.now⟩ s.device.var dest

def flaggedCount (ip : IPAddress) (tr : List (NodeState × NodeStepLabel)) : ℕ :=
  tr.countP fun x =>
    match x.2 with
    | .tick _ _ => false
    | .act a => (a.flagged ⟨ip, x.1.now⟩).isSome

/-- The event, after the run `tr`, starts and ends at most one flagged route. -/
structure Counted (ip : IPAddress) (tr : List (NodeState × NodeStepLabel)) (s : NodeState)
    (a : NodeAction) : Prop where
  starts : ∀ dest, a.flagged ⟨ip, s.now⟩ = some dest →
    dest ∉ outstanding ip tr ∧ (outstanding ip tr).length + 1 < 2 ^ 31
  ends : a.decrements ⟨ip, s.now⟩ s.device.var = true →
    (outstanding ip tr).countP (a.ends ⟨ip, s.now⟩ s.device.var) = 1

def CountedRun (ip : IPAddress) : List (NodeState × NodeStepLabel) → Prop
  | [] => True
  | (_, .tick _ _) :: tr => CountedRun ip tr
  | (s, .act a) :: tr => Counted ip tr s a ∧ CountedRun ip tr

/-- A decrease finds the counter positive, it does not exceed the number of flagged RREPs processed,
and it tells whether more than 25 flagged routes are outstanding. -/
structure CounterSound (ip : IPAddress) (tr : List (NodeState × NodeStepLabel)) (s : NodeState) :
    Prop where
  positive : ∀ s₁ a, (s₁, .act a) ∈ tr → a.decrements ⟨ip, s₁.now⟩ s₁.device.var = true →
    1 ≤ s₁.device.var.ncounter
  bounded : s.device.var.ncounter.toNat ≤ flaggedCount ip tr
  congested : 25 < devCounter s.device.var.ncounter ↔ 25 < (outstanding ip tr).length

/-! ## The counter over a run -/

theorem devCounter_eq {n : UInt32} (h : n.toNat < 2 ^ 31) : devCounter n = n.toNat := by
  have hmsb : 2 * n.toBitVec.toNat < 2 ^ 32 := by
    rw [UInt32.toNat_toBitVec]
    omega
  exact BitVec.toInt_eq_toNat_of_lt hmsb

variable {dest : IPAddress}

theorem decrements_of_ends {c : Curr} {v : DeviceVar} {a : NodeAction}
    (h : a.ends c v dest = true) : a.decrements c v = true := by
  cases a with
  | fire e =>
    obtain ⟨time, subEvent⟩ := e
    cases subEvent with
    | activeRouteTimeout dest' =>
      obtain ⟨heq, hexpired⟩ := Bool.and_eq_true_iff.1 h
      rw [decide_eq_true_iff] at heq
      rw [heq] at hexpired
      exact hexpired
    | networkOut packet => cases h
    | rreqTimeout dest' => cases h
    | transmitHello => cases h
  | dropNotification nextHop => exact (Bool.and_eq_true_iff.1 h).1
  | dataOut packet => cases h
  | networkIn packet => cases h

theorem not_decrements_of_flagged {c : Curr} {v : DeviceVar} {a : NodeAction}
    (h : a.flagged c = some dest) : a.decrements c v = false := by
  cases a with
  | networkIn packet => rfl
  | fire e => cases h
  | dataOut packet => cases h
  | dropNotification nextHop => cases h

variable {ip : IPAddress} {tr : List (NodeState × NodeStepLabel)} {s : NodeState}

theorem outstanding_flagged {a : NodeAction} (h : a.flagged ⟨ip, s.now⟩ = some dest) :
    outstanding ip ((s, .act a) :: tr) = (outstanding ip tr).insert dest := by
  rw [outstanding, h]

theorem outstanding_not_flagged {a : NodeAction} (h : a.flagged ⟨ip, s.now⟩ = none) :
    outstanding ip ((s, .act a) :: tr) =
      (outstanding ip tr).filter fun dest => !a.ends ⟨ip, s.now⟩ s.device.var dest := by
  rw [outstanding, h]

theorem length_outstanding {a : NodeAction} (h : Counted ip tr s a) :
    (outstanding ip ((s, .act a) :: tr)).length =
      if a.decrements ⟨ip, s.now⟩ s.device.var then (outstanding ip tr).length - 1
      else if (a.flagged ⟨ip, s.now⟩).isSome then (outstanding ip tr).length + 1
      else (outstanding ip tr).length := by
  cases hflagged : a.flagged ⟨ip, s.now⟩ with
  | some dest =>
    have hnew := (h.starts dest hflagged).1
    rw [outstanding_flagged hflagged, not_decrements_of_flagged hflagged,
      List.insert_of_not_mem hnew]
    rfl
  | none =>
    have hsplit := List.length_eq_countP_add_countP
      (fun dest => a.ends ⟨ip, s.now⟩ s.device.var dest) (l := outstanding ip tr)
    have hfilter : ((outstanding ip tr).filter fun dest =>
        !a.ends ⟨ip, s.now⟩ s.device.var dest).length =
        (outstanding ip tr).countP fun dest => ¬ a.ends ⟨ip, s.now⟩ s.device.var dest = true := by
      rw [List.countP_eq_length_filter]
      congr 2
      funext dest
      cases a.ends ⟨ip, s.now⟩ s.device.var dest <;> rfl
    rw [outstanding_not_flagged hflagged, hfilter]
    cases hdecrements : a.decrements ⟨ip, s.now⟩ s.device.var with
    | true =>
      have hone := h.ends hdecrements
      rw [if_pos rfl]
      omega
    | false =>
      have hnone : (outstanding ip tr).countP (a.ends ⟨ip, s.now⟩ s.device.var) = 0 := by
        rw [List.countP_eq_zero]
        intro dest _ hends
        rw [decrements_of_ends hends] at hdecrements
        cases hdecrements
      simp only [Bool.false_eq_true, if_false, Option.isSome_none]
      omega

structure CounterInv (ip : IPAddress) (tr : List (NodeState × NodeStepLabel)) (s : NodeState) :
    Prop where
  counts : s.device.var.ncounter.toNat = (outstanding ip tr).length
  small : (outstanding ip tr).length < 2 ^ 31
  processed : (outstanding ip tr).length ≤ flaggedCount ip tr

theorem CounterInv.positive {a : NodeAction} (h : CounterInv ip tr s) (hcounted : Counted ip tr s a)
    (hdecrements : a.decrements ⟨ip, s.now⟩ s.device.var = true) : 1 ≤ s.device.var.ncounter := by
  have hends := hcounted.ends hdecrements
  have hle : (outstanding ip tr).countP (a.ends ⟨ip, s.now⟩ s.device.var) ≤
      (outstanding ip tr).length := List.countP_le_length
  have hcounts := h.counts
  rw [UInt32.le_iff_toNat_le, UInt32.toNat_one]
  omega

theorem CounterInv.act
    {a : NodeAction} {o : Outcome} (h : CounterInv ip tr s) (hcounted : Counted ip tr s a)
    (hl : OnePerDestination s.device.var.routeTable)
    (ho : handle ⟨ip, s.now⟩ s.nRREQId s.device.var a = some o) :
    CounterInv ip ((s, .act a) :: tr) (s.after a o) := by
  obtain ⟨hcounts, hsmall, hprocessed⟩ := h
  have hcounter : (s.after a o).device.var.ncounter = _ := handle_ncounter ho hl
  have hlength := length_outstanding hcounted
  have hflaggedCount : flaggedCount ip ((s, .act a) :: tr) = flaggedCount ip tr +
      if (a.flagged ⟨ip, s.now⟩).isSome then 1 else 0 := List.countP_cons
  cases hdecrements : a.decrements ⟨ip, s.now⟩ s.device.var with
  | true =>
    have hpositive := CounterInv.positive ⟨hcounts, hsmall, hprocessed⟩ hcounted hdecrements
    rw [hdecrements, if_pos rfl] at hcounter hlength
    refine ⟨?_, ?_, ?_⟩
    · rw [hcounter, hlength, UInt32.toNat_sub_of_le _ _ hpositive, UInt32.toNat_one, hcounts]
    · omega
    · omega
  | false =>
    rw [hdecrements, if_neg Bool.false_ne_true] at hcounter hlength
    cases hflagged : a.flagged ⟨ip, s.now⟩ with
    | some dest =>
      have hbound := (hcounted.starts dest hflagged).2
      rw [hflagged] at hcounter hlength hflaggedCount
      refine ⟨?_, ?_, ?_⟩
      · rw [hcounter, hlength, Option.isSome_some, if_pos rfl, if_pos rfl, UInt32.toNat_add,
          UInt32.toNat_one, hcounts]
        omega
      · rw [hlength, Option.isSome_some, if_pos rfl]
        exact hbound
      · rw [hlength, hflaggedCount, Option.isSome_some, if_pos rfl, if_pos rfl]
        omega
    | none =>
      rw [hflagged] at hcounter hlength hflaggedCount
      refine ⟨?_, ?_, ?_⟩
      · rw [hcounter, hlength]
        exact hcounts
      · rw [hlength]
        exact hsmall
      · rw [hlength, hflaggedCount]
        exact hprocessed

theorem counterInv_of_run (run : NodeRun ip tr s) (hcounted : CountedRun ip tr) :
    CounterInv ip tr s ∧
      ∀ s1 a, (s1, .act a) ∈ tr → a.decrements ⟨ip, s1.now⟩ s1.device.var = true →
        1 ≤ s1.device.var.ncounter := by
  induction run with
  | nil => exact ⟨⟨rfl, Nat.two_pow_pos 31, le_refl 0⟩, fun _ _ h => nomatch h⟩
  | snoc run hstep ih =>
    rcases NodeState.step_cases hstep with
      ⟨time, nRREQId, rfl, -, -, rfl⟩ | ⟨act, o, rfl, -, ho, rfl⟩
    · obtain ⟨hinv, hpositive⟩ := ih hcounted
      refine ⟨⟨hinv.counts, hinv.small, hinv.processed⟩, ?_⟩
      intro s1 a hmem
      rcases List.mem_cons.1 hmem with heq | hmem
      · cases heq
      · exact hpositive s1 a hmem
    · obtain ⟨hinv, hpositive⟩ := ih hcounted.2
      refine ⟨hinv.act hcounted.1 (onePerDestination_of_nodeRun run) ho, ?_⟩
      intro s1 a hmem
      rcases List.mem_cons.1 hmem with heq | hmem
      · cases heq
        exact hinv.positive hcounted.1
      · exact hpositive s1 a hmem

/-- In every run all of whose events are counted, the counter counts. -/
theorem counterSound_of_run {ip : IPAddress} {tr : List (NodeState × NodeStepLabel)} {s : NodeState}
    (run : NodeRun ip tr s) (hcounted : CountedRun ip tr) : CounterSound ip tr s := by
  obtain ⟨hinv, hpositive⟩ := counterInv_of_run run hcounted
  have hsmall : s.device.var.ncounter.toNat < 2 ^ 31 := by
    rw [hinv.counts]
    exact hinv.small
  refine ⟨hpositive, ?_, ?_⟩
  · rw [hinv.counts]
    exact hinv.processed
  · rw [devCounter_eq hsmall, hinv.counts]
    omega

/-! ## Executions -/

instance (ip : IPAddress) (tr : List (NodeState × NodeStepLabel)) (s : NodeState) (a : NodeAction) :
    Decidable (Counted ip tr s a) :=
  decidable_of_iff
    ((∀ dest ∈ a.flagged ⟨ip, s.now⟩,
        dest ∉ outstanding ip tr ∧ (outstanding ip tr).length + 1 < 2 ^ 31) ∧
      (a.decrements ⟨ip, s.now⟩ s.device.var = true →
        (outstanding ip tr).countP (a.ends ⟨ip, s.now⟩ s.device.var) = 1))
    ⟨fun h => ⟨h.1, h.2⟩, fun h => ⟨h.1, h.2⟩⟩

instance CountedRun.decide (ip : IPAddress) :
    ∀ tr : List (NodeState × NodeStepLabel), Decidable (CountedRun ip tr)
  | [] => isTrue trivial
  | (_, .tick _ _) :: tr => CountedRun.decide ip tr
  | (s, .act a) :: tr =>
    have := CountedRun.decide ip tr
    inferInstanceAs (Decidable (Counted ip tr s a ∧ CountedRun ip tr))

open NodeStrategy

def passingRREP (congestionflag : Bool) : Packet :=
  ⟨2, 9, 2, some 1, none, 35, .rrep ⟨1, 2, 1, 9, 0, 2, congestionflag⟩⟩

/-- Device 1 learns a route to device 2 and lets it expire, and sends its hello messages
meanwhile. -/
def routeLife (congestionflag : Bool) : List NodeStrategy :=
  [receive (passingRREP congestionflag), wait 1000, due, due, wait 2000, due, due, wait 3000, due]

def countedDown (r : List (NodeState × NodeStepLabel) × NodeState) : Bool :=
  decide (CountedRun 1 r.1) && decide (flaggedCount 1 r.1 = 1) &&
    decide (r.2.device.var.ncounter = 0)

theorem routeLife_countedDown :
    ((exec (NodeState.step 1) NodeState.init (routeLife true)).any countedDown) = true := by
  decide +kernel

theorem counterSound_of_routeLife : ∃ tr s, NodeRun 1 tr s ∧ flaggedCount 1 tr = 1 ∧
    s.device.var.ncounter = 0 ∧ CounterSound 1 tr s := by
  obtain ⟨tr, s, run, htest⟩ := NodeRun.of_exec 1 (routeLife true) countedDown routeLife_countedDown
  simp only [countedDown, Bool.and_eq_true, decide_eq_true_eq] at htest
  exact ⟨tr, s, run, htest.1.2, htest.2, counterSound_of_run run htest.1.1⟩

def wrapped (r : List (NodeState × NodeStepLabel) × NodeState) : Bool :=
  decide (flaggedCount 1 r.1 < r.2.device.var.ncounter.toNat)

theorem routeLife_wraps :
    ((exec (NodeState.step 1) NodeState.init (routeLife false)).any wrapped) = true := by
  decide +kernel

/-- A route that an unflagged RREP has brought is counted down as well: the counter wraps. -/
theorem exists_not_counterSound : ¬ ∀ ip tr s, NodeRun ip tr s → CounterSound ip tr s := by
  intro h
  obtain ⟨tr, s, run, htest⟩ := NodeRun.of_exec 1 (routeLife false) wrapped routeLife_wraps
  have hlt : flaggedCount 1 tr < s.device.var.ncounter.toNat := of_decide_eq_true htest
  exact not_le_of_gt hlt (h 1 tr s run).bounded

end NetSim.Aodv
