import NetSim.Zrp.Olsr

/-!
# The routing table of OLSR

`fn_NetSim_OLSR_UpdateRoutingTable`, whose last loop ends, with the tuples of the topology base that
its routes rest on.
-/

namespace NetSim.Zrp

open NetSim.Lib

variable {Addr : Type} [DecidableEq Addr]

/-- `IP_ROUTINGTABLE`. -/
structure Route (Addr : Type) where
  networkDestination : Addr
  gateway : Addr
  metric : ℕ
deriving DecidableEq

def iptableCheck (table : List (Route Addr)) (dest : Addr) : Option (Route Addr) :=
  lookup Route.networkDestination dest table

def neighborRoutes (olsr : NodeOlsr Addr) : List (Route Addr) :=
  (olsr.neighborSet.filter fun n => n.nStatus ≠ .notNeigh).map fun n =>
    { networkDestination := n.nNeighborMainAddr, gateway := n.nNeighborMainAddr, metric := 1 }

/-- Condition 3: a neighbour of a neighbour. The neighbour is used without a look whether there is
one. -/
def addTwoHopRoute (olsr : NodeOlsr Addr) (table : List (Route Addr)) (t : TwoHopTuple Addr) :
    Option (List (Route Addr)) :=
  if olsrFindNeighborSet olsr.neighborSet t.n2hopAddr = none ∧ t.n2hopAddr ≠ olsr.mainAddress then
    match olsrFindNeighborSet olsr.neighborSet t.nNeighborMainAddr with
    | none => none
    | some n =>
      if n.nWillingness ≠ .never ∧ n.nStatus = .mprNeigh then
        some (table ++
          [{ networkDestination := t.n2hopAddr, gateway := t.nNeighborMainAddr, metric := 2 }])
      else some table
  else some table

def nearRoutes (olsr : NodeOlsr Addr) : Option (List (Route Addr)) :=
  olsr.twoHopNeighborSet.foldlM (addTwoHopRoute olsr) (neighborRoutes olsr)

def IsUsable (olsr : NodeOlsr Addr) (table : List (Route Addr)) (t : TopologyTuple Addr) : Prop :=
  iptableCheck table t.tDestAddr = none ∧ t.tDestAddr ≠ olsr.mainAddress ∧
    ∃ r ∈ iptableCheck table t.tLastAddr, r.metric < olsr.nZoneRadius

instance (olsr : NodeOlsr Addr) (table : List (Route Addr)) :
    DecidablePred (IsUsable olsr table) :=
  fun _ => inferInstanceAs (Decidable (_ ∧ _ ∧ ∃ r ∈ iptableCheck _ _, _))

/-- The last loop of `fn_NetSim_OLSR_UpdateRoutingTable`, with the tuples it has used. -/
def topologyRoutes (olsr : NodeOlsr Addr) :
    ℕ → List (Route Addr) → List (Route Addr) × List (TopologyTuple Addr)
  | 0, table => (table, [])
  | fuel + 1, table =>
    match olsr.topologyInfoBase.find? fun t => IsUsable olsr table t with
    | none => (table, [])
    | some t =>
      match iptableCheck table t.tLastAddr with
      | none => (table, [])
      | some r =>
        let rest := topologyRoutes olsr fuel (table ++
          [{ networkDestination := t.tDestAddr, gateway := r.gateway, metric := r.metric + 1 }])
        (rest.1, t :: rest.2)

/-- `fn_NetSim_OLSR_UpdateRoutingTable`, with the tuples of the base as turns of the last loop. -/
def updateRoutingTable (olsr : NodeOlsr Addr) :
    Option (List (Route Addr) × List (TopologyTuple Addr)) :=
  (nearRoutes olsr).map fun table => topologyRoutes olsr olsr.topologyInfoBase.length table

variable {table : List (Route Addr)} {r : Route Addr}

theorem iptableCheck_append {d : Addr} :
    (iptableCheck (table ++ [r]) d).isSome =
      ((iptableCheck table d).isSome || decide (r.networkDestination = d)) := by
  unfold iptableCheck
  rw [lookup_append_single]
  cases lookup Route.networkDestination d table with
  | some _ => rfl
  | none =>
    by_cases h : r.networkDestination = d
    · simp [h]
    · simp [h]

def unrouted (olsr : NodeOlsr Addr) (table : List (Route Addr)) : List (TopologyTuple Addr) :=
  olsr.topologyInfoBase.filter fun t => iptableCheck table t.tDestAddr = none

theorem iptableCheck_of_append {d : Addr} (h : iptableCheck (table ++ [r]) d = none) :
    iptableCheck table d = none ∧ r.networkDestination ≠ d := by
  have happ : (iptableCheck (table ++ [r]) d).isSome = _ := iptableCheck_append
  rw [h] at happ
  cases hd : iptableCheck table d with
  | none =>
    rw [hd] at happ
    refine ⟨rfl, fun he => ?_⟩
    rw [decide_eq_true he] at happ
    cases happ
  | some _ =>
    rw [hd] at happ
    cases happ

variable {olsr : NodeOlsr Addr}

theorem length_unrouted_lt {t : TopologyTuple Addr}
    (ht : t ∈ olsr.topologyInfoBase) (hnone : iptableCheck table t.tDestAddr = none)
    (hr : r.networkDestination = t.tDestAddr) :
    (unrouted olsr (table ++ [r])).length < (unrouted olsr table).length := by
  have hfilter : unrouted olsr (table ++ [r]) =
      (unrouted olsr table).filter fun x => iptableCheck (table ++ [r]) x.tDestAddr = none := by
    unfold unrouted
    rw [List.filter_filter]
    refine List.filter_congr fun x _ => ?_
    by_cases h : iptableCheck (table ++ [r]) x.tDestAddr = none
    · simp [h, (iptableCheck_of_append h).1]
    · simp [h]
  rw [hfilter, List.length_filter_lt_length_iff_exists]
  refine ⟨t, List.mem_filter.2 ⟨ht, decide_eq_true hnone⟩, fun h => ?_⟩
  exact (iptableCheck_of_append (of_decide_eq_true h)).2 hr

theorem not_isUsable_topologyRoutes {fuel : ℕ} (hfuel : (unrouted olsr table).length ≤ fuel) :
    ∀ t ∈ olsr.topologyInfoBase, ¬ IsUsable olsr (topologyRoutes olsr fuel table).1 t := by
  induction fuel generalizing table with
  | zero =>
    intro t ht huse
    have hmem : t ∈ unrouted olsr table := List.mem_filter.2 ⟨ht, decide_eq_true huse.1⟩
    have hpos := List.length_pos_of_mem hmem
    omega
  | succ fuel ih =>
    unfold topologyRoutes
    cases hfind : olsr.topologyInfoBase.find? fun t => IsUsable olsr table t with
    | none =>
      intro t ht huse
      exact List.find?_eq_none.1 hfind t ht (decide_eq_true huse)
    | some t =>
      have ht := List.mem_of_find?_eq_some hfind
      have huse : IsUsable olsr table t := by simpa using List.find?_some hfind
      obtain ⟨r, hr, -⟩ := huse.2.2
      have hr' : iptableCheck table t.tLastAddr = some r := hr
      dsimp only
      rw [hr']
      refine ih ?_
      have hlt : (unrouted olsr (table ++ [⟨t.tDestAddr, r.gateway, r.metric + 1⟩])).length <
          (unrouted olsr table).length := length_unrouted_lt ht huse.1 rfl
      omega

theorem updateRoutingTable_ends
    {r : List (Route Addr) × List (TopologyTuple Addr)} (h : updateRoutingTable olsr = some r) :
    ∀ t ∈ olsr.topologyInfoBase, ¬ IsUsable olsr r.1 t := by
  obtain ⟨table, -, rfl⟩ := Option.map_eq_some_iff.1 h
  exact not_isUsable_topologyRoutes (List.length_filter_le _ _)

inductive Leads (olsr : NodeOlsr Addr) (table : List (Route Addr)) : Addr → Prop
  | route {d : Addr} (h : (iptableCheck table d).isSome) : Leads olsr table d
  | tuple {t : TopologyTuple Addr} (ht : t ∈ olsr.topologyInfoBase)
      (h : Leads olsr table t.tLastAddr) : Leads olsr table t.tDestAddr

theorem Leads.of_append {d : Addr}
    (hr : Leads olsr table r.networkDestination) (h : Leads olsr (table ++ [r]) d) :
    Leads olsr table d := by
  induction h with
  | @route d h =>
    rw [iptableCheck_append, Bool.or_eq_true] at h
    rcases h with h | h
    · exact .route h
    · exact of_decide_eq_true h ▸ hr
  | tuple ht _ ih => exact .tuple ht ih

theorem used_topologyRoutes {fuel : ℕ}
    {t : TopologyTuple Addr} (ht : t ∈ (topologyRoutes olsr fuel table).2) :
    t ∈ olsr.topologyInfoBase ∧ iptableCheck table t.tDestAddr = none ∧
      t.tDestAddr ≠ olsr.mainAddress ∧ Leads olsr table t.tLastAddr := by
  induction fuel generalizing table with
  | zero => cases ht
  | succ fuel ih =>
    unfold topologyRoutes at ht
    cases hfind : olsr.topologyInfoBase.find? fun t => IsUsable olsr table t with
    | none =>
      rw [hfind] at ht
      cases ht
    | some x =>
      rw [hfind] at ht
      have hx := List.mem_of_find?_eq_some hfind
      have huse : IsUsable olsr table x := by simpa using List.find?_some hfind
      obtain ⟨r, hr, -⟩ := huse.2.2
      have hr' : iptableCheck table x.tLastAddr = some r := hr
      have hlead : Leads olsr table x.tLastAddr := .route (by rw [hr']; rfl)
      dsimp only at ht
      rw [hr'] at ht
      rcases List.mem_cons.1 ht with rfl | ht
      · exact ⟨hx, huse.1, huse.2.1, hlead⟩
      · obtain ⟨hmem, hnone, hmain, hl⟩ := ih ht
        exact ⟨hmem, (iptableCheck_of_append hnone).1, hmain, Leads.of_append (.tuple hx hlead) hl⟩

end NetSim.Zrp
