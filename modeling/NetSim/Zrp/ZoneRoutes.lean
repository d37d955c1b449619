import NetSim.Zrp.MprSelection

/-!
# The zone of a node (`OLSR_routingTable.c`)

The routing table of OLSR and the rows that it leaves in the IP table, against the distances in the
graph of the sets. The rows of its last loop have no interface.
-/

namespace NetSim.Zrp

open NetSim.Lib

variable {Addr : Type} [DecidableEq Addr]

/-- A row of an IP table, with an interface unless that is uninitialised; the protocol is `"OLSR"`
or another. -/
structure IpRow (Addr : Type) extends Route Addr where
  interfaceId : Option ℕ
  isOlsr : Bool

/-- The table of `olsr->ipWrapper` and that of the device. -/
structure IpTables (Addr : Type) where
  wrapper : List (IpRow Addr)
  device : List (IpRow Addr)

/-- `iptable_delete`, for the rows of OLSR. -/
def iptableDelete (dest : Addr) (table : List (IpRow Addr)) : List (IpRow Addr) :=
  table.filter fun row => !(row.isOlsr && row.networkDestination = dest)

def olsrFlushroutingTable : ℕ → IpTables Addr → IpTables Addr
  | 0, s => s
  | fuel + 1, s =>
    match s.wrapper with
    | [] => s
    | row :: _ =>
      olsrFlushroutingTable fuel ⟨iptableDelete row.networkDestination s.wrapper,
        iptableDelete row.networkDestination s.device⟩

def olsrRow (interfaceId : Option ℕ) (r : Route Addr) : IpRow Addr := ⟨r, interfaceId, true⟩

/-- `fn_NetSim_OLSR_UpdateRoutingTable`. The variable of the last loop has no value. -/
def updateIpTables (olsr : NodeOlsr Addr) (s : IpTables Addr) : Option (IpTables Addr) :=
  if !olsr.bRoutingTableUpdate then some s
  else do
    let near ← nearRoutes olsr
    let table := (topologyRoutes olsr olsr.topologyInfoBase.length near).1
    let rows := near.map (olsrRow (some 1)) ++ (table.drop near.length).map (olsrRow none)
    some ⟨rows, (olsrFlushroutingTable s.wrapper.length s).device ++ rows⟩

/-! ## The graph -/

def isRelay (olsr : NodeOlsr Addr) (y : Addr) : Bool :=
  (olsrFindNeighborSet olsr.neighborSet y).any fun n =>
    n.nWillingness ≠ .never && n.nStatus = .mprNeigh

inductive Edge (olsr : NodeOlsr Addr) : Addr → Addr → Prop
  | link {y : Addr} (h : symmetric olsr y = true) : Edge olsr olsr.mainAddress y
  | twoHop {t : TwoHopTuple Addr} (ht : t ∈ olsr.twoHopNeighborSet)
      (h : isRelay olsr t.nNeighborMainAddr = true) : Edge olsr t.nNeighborMainAddr t.n2hopAddr
  | topology {t : TopologyTuple Addr} (ht : t ∈ olsr.topologyInfoBase) :
      Edge olsr t.tLastAddr t.tDestAddr

inductive Path (olsr : NodeOlsr Addr) : ℕ → Addr → Addr → Prop
  | first {y : Addr} (h : Edge olsr olsr.mainAddress y) : Path olsr 1 y y
  | next {n : ℕ} {g x y : Addr} (h : Path olsr n g x) (hxy : Edge olsr x y) : Path olsr (n + 1) g y

def IsDist (olsr : NodeOlsr Addr) (d : ℕ) (x : Addr) : Prop :=
  (∃ g, Path olsr d g x) ∧ ∀ n g, Path olsr n g x → d ≤ n

structure ZoneRight (olsr : NodeOlsr Addr) (s s' : IpTables Addr) : Prop where
  reached : ∀ x d, x ≠ olsr.mainAddress → d ≤ olsr.nZoneRadius → IsDist olsr d x →
    ∃ row, s'.wrapper.filter (fun row => row.networkDestination = x) = [row] ∧ row.metric = d ∧
      Path olsr d row.gateway x
  only : ∀ row ∈ s'.wrapper, row.networkDestination ≠ olsr.mainAddress ∧
    ∃ d ≤ olsr.nZoneRadius, IsDist olsr d row.networkDestination
  device : s'.device.filter IpRow.isOlsr = s'.wrapper
  others : s'.device.filter (fun row => !row.isOlsr) = s.device.filter fun row => !row.isOlsr
  interfaces : ∀ row ∈ s'.wrapper, row.interfaceId.isSome

def givesRoute (olsr : NodeOlsr Addr) (t : TwoHopTuple Addr) : Bool :=
  olsrFindNeighborSet olsr.neighborSet t.n2hopAddr = none && t.n2hopAddr ≠ olsr.mainAddress &&
    isRelay olsr t.nNeighborMainAddr

def twoHopRoute (t : TwoHopTuple Addr) : Route Addr :=
  { networkDestination := t.n2hopAddr, gateway := t.nNeighborMainAddr, metric := 2 }

def nearTable (olsr : NodeOlsr Addr) : List (Route Addr) :=
  neighborRoutes olsr ++ (olsr.twoHopNeighborSet.filter (givesRoute olsr)).map twoHopRoute

/-- Nothing is left for the last loop; what the MPRs reach is no neighbour that is not symmetric, is
reached by one of them only, and is within the zone. -/
structure ZoneSafe (olsr : NodeOlsr Addr) : Prop where
  anchored : ∀ t ∈ olsr.twoHopNeighborSet, olsrFindNeighborSet olsr.neighborSet t.n2hopAddr = none →
    t.n2hopAddr ≠ olsr.mainAddress →
      (olsrFindNeighborSet olsr.neighborSet t.nNeighborMainAddr).isSome
  zone : olsr.nZoneRadius = 1 → ∀ t ∈ olsr.twoHopNeighborSet, givesRoute olsr t = false
  heard : 2 ≤ olsr.nZoneRadius → ∀ t ∈ olsr.twoHopNeighborSet, t.n2hopAddr ≠ olsr.mainAddress →
    isRelay olsr t.nNeighborMainAddr = true → ∀ n ∈ olsr.neighborSet,
      n.nNeighborMainAddr = t.n2hopAddr → n.nStatus ≠ .notNeigh
  once : ((olsr.twoHopNeighborSet.filter (givesRoute olsr)).map TwoHopTuple.n2hopAddr).Nodup
  own : ∀ t ∈ olsr.topologyInfoBase, t.tLastAddr = olsr.mainAddress →
    t.tDestAddr ≠ olsr.mainAddress → symmetric olsr t.tDestAddr = true
  complete : ∀ t ∈ olsr.topologyInfoBase, ¬IsUsable olsr (nearTable olsr) t

/-- The neighbour set has each neighbour once, and not the node itself. -/
structure NeighborsDistinct (olsr : NodeOlsr Addr) : Prop where
  nodup : (olsr.neighborSet.map NeighborTuple.nNeighborMainAddr).Nodup
  notMain : olsr.mainAddress ∉ olsr.neighborSet.map NeighborTuple.nNeighborMainAddr

variable {olsr : NodeOlsr Addr} {s s' : IpTables Addr}

theorem flush_device (fuel : ℕ) (s : IpTables Addr) (hfuel : s.wrapper.length ≤ fuel)
    (hsync : s.device.filter IpRow.isOlsr = s.wrapper) :
    (olsrFlushroutingTable fuel s).device = s.device.filter fun row => !row.isOlsr := by
  have hend : ∀ s : IpTables Addr, s.device.filter IpRow.isOlsr = s.wrapper → s.wrapper = [] →
      s.device = s.device.filter fun row => !row.isOlsr := by
    intro s hsync hnil
    refine (List.filter_eq_self.2 fun row hrow => ?_).symm
    have hnot := List.filter_eq_nil_iff.1 (hsync.trans hnil) row hrow
    simpa using hnot
  induction fuel generalizing s with
  | zero => exact hend s hsync (List.eq_nil_of_length_eq_zero (Nat.le_zero.1 hfuel))
  | succ fuel ih =>
    unfold olsrFlushroutingTable
    cases hwrapper : s.wrapper with
    | nil => exact hend s hsync hwrapper
    | cons row rest =>
      have hrow : row ∈ s.device ∧ row.isOlsr = true :=
        List.mem_filter.1 (hsync ▸ hwrapper ▸ List.mem_cons_self)
      rw [ih]
      · dsimp only [iptableDelete]
        rw [List.filter_filter]
        refine List.filter_congr fun x _ => ?_
        cases x.isOlsr <;> rfl
      · have hlt : (iptableDelete row.networkDestination (row :: rest)).length <
            (row :: rest).length := by
          refine List.length_filter_lt_length_iff_exists.2 ⟨row, List.mem_cons_self, ?_⟩
          simp [hrow.2]
        rw [hwrapper] at hfuel
        dsimp only at hlt ⊢
        omega
      · dsimp only [iptableDelete]
        rw [← hwrapper, ← hsync, List.filter_filter, List.filter_filter]
        exact List.filter_congr fun x _ => Bool.and_comm ..

/-! ## The passes -/

theorem addTwoHopRoute_eq {table : List (Route Addr)} {t : TwoHopTuple Addr}
    (ht : olsrFindNeighborSet olsr.neighborSet t.n2hopAddr = none →
      t.n2hopAddr ≠ olsr.mainAddress →
        (olsrFindNeighborSet olsr.neighborSet t.nNeighborMainAddr).isSome) :
    addTwoHopRoute olsr table t =
      some (table ++ ([t].filter (givesRoute olsr)).map twoHopRoute) := by
  unfold addTwoHopRoute
  by_cases hnew : olsrFindNeighborSet olsr.neighborSet t.n2hopAddr = none ∧
      t.n2hopAddr ≠ olsr.mainAddress
  · obtain ⟨n, hn⟩ := Option.isSome_iff_exists.1 (ht hnew.1 hnew.2)
    rw [if_pos hnew, hn]
    dsimp only
    by_cases hrelay : n.nWillingness ≠ .never ∧ n.nStatus = .mprNeigh
    · rw [if_pos hrelay, List.filter_cons_of_pos
        (by simp [givesRoute, isRelay, hn, hnew.1, hnew.2, hrelay.1, hrelay.2])]
      rfl
    · rw [if_neg hrelay, List.filter_cons_of_neg
        (by simpa [givesRoute, isRelay, hn, hnew.1, hnew.2] using hrelay)]
      exact congrArg some (List.append_nil _).symm
  · rw [if_neg hnew, List.filter_cons_of_neg]
    · exact congrArg some (List.append_nil _).symm
    · simp only [givesRoute, Bool.and_eq_true, decide_eq_true_eq]
      exact fun h => hnew h.1

theorem nearRoutes_eq (h : ∀ t ∈ olsr.twoHopNeighborSet,
      olsrFindNeighborSet olsr.neighborSet t.n2hopAddr = none → t.n2hopAddr ≠ olsr.mainAddress →
        (olsrFindNeighborSet olsr.neighborSet t.nNeighborMainAddr).isSome) :
    nearRoutes olsr = some (nearTable olsr) := by
  have hloop : ∀ l table, l ⊆ olsr.twoHopNeighborSet → l.foldlM (addTwoHopRoute olsr) table =
      some (table ++ (l.filter (givesRoute olsr)).map twoHopRoute) := by
    intro l
    induction l with
    | nil => simp
    | cons t l ih =>
      intro table hl
      rw [List.foldlM_cons, addTwoHopRoute_eq (h t (hl List.mem_cons_self)), Option.bind_eq_bind,
        Option.bind_some, ih _ fun x hx => hl (List.mem_cons_of_mem _ hx), List.append_assoc,
        ← List.map_append, ← List.filter_append, List.singleton_append]
  exact hloop _ _ (List.Subset.refl _)

theorem anchored_of_nearRoutes {near : List (Route Addr)} (h : nearRoutes olsr = some near) :
    ∀ t ∈ olsr.twoHopNeighborSet, olsrFindNeighborSet olsr.neighborSet t.n2hopAddr = none →
      t.n2hopAddr ≠ olsr.mainAddress →
        (olsrFindNeighborSet olsr.neighborSet t.nNeighborMainAddr).isSome := by
  have hloop : ∀ (l : List (TwoHopTuple Addr)) (table near : List (Route Addr)),
      l.foldlM (addTwoHopRoute olsr) table = some near → ∀ t ∈ l,
      olsrFindNeighborSet olsr.neighborSet t.n2hopAddr = none → t.n2hopAddr ≠ olsr.mainAddress →
        (olsrFindNeighborSet olsr.neighborSet t.nNeighborMainAddr).isSome := by
    intro l
    induction l with
    | nil => simp
    | cons x l ih =>
      intro table near hfold t ht hnone hmain
      rw [List.foldlM_cons, Option.bind_eq_bind, Option.bind_eq_some_iff] at hfold
      obtain ⟨table', hstep, hfold⟩ := hfold
      rcases List.mem_cons.1 ht with rfl | ht
      · unfold addTwoHopRoute at hstep
        rw [if_pos ⟨hnone, hmain⟩] at hstep
        cases hfind : olsrFindNeighborSet olsr.neighborSet t.nNeighborMainAddr with
        | none =>
          rw [hfind] at hstep
          cases hstep
        | some n => rfl
      · exact ih table' near hfold t ht hnone hmain
  exact hloop _ _ near h

theorem topologyRoutes_append (fuel : ℕ) (table : List (Route Addr)) :
    ∃ added, (topologyRoutes olsr fuel table).1 = table ++ added := by
  induction fuel generalizing table with
  | zero => exact ⟨[], (List.append_nil _).symm⟩
  | succ fuel ih =>
    unfold topologyRoutes
    split
    · exact ⟨[], (List.append_nil _).symm⟩
    · split
      · exact ⟨[], (List.append_nil _).symm⟩
      · next t _ _ r _ =>
        obtain ⟨added, hadded⟩ := ih (table ++ [⟨t.tDestAddr, r.gateway, r.metric + 1⟩])
        exact ⟨_, hadded.trans (List.append_assoc ..)⟩

theorem topologyRoutes_eq_self_iff (table : List (Route Addr)) :
    (topologyRoutes olsr olsr.topologyInfoBase.length table).1 = table ↔
      ∀ t ∈ olsr.topologyInfoBase, ¬IsUsable olsr table t := by
  refine ⟨fun h t ht huse => ?_, fun h => ?_⟩
  · have hends : ¬IsUsable olsr (topologyRoutes olsr olsr.topologyInfoBase.length table).1 t :=
      not_isUsable_topologyRoutes (List.length_filter_le _ _) t ht
    rw [h] at hends
    exact hends huse
  · cases olsr.topologyInfoBase.length with
    | zero => rfl
    | succ fuel =>
      have hnone : olsr.topologyInfoBase.find? (fun t => IsUsable olsr table t) = none :=
        List.find?_eq_none.2 fun t ht => by simpa using h t ht
      rw [topologyRoutes, hnone]

/-! ## The rows and the distances -/

theorem symmetric_iff (h : NeighborsDistinct olsr) {y : Addr} : symmetric olsr y = true ↔
    ∃ n ∈ olsr.neighborSet, n.nNeighborMainAddr = y ∧ n.nStatus ≠ .notNeigh := by
  rw [symmetric, Option.any_eq_true]
  refine ⟨fun ⟨n, hn, hs⟩ => ?_, fun ⟨n, hn, ha, hs⟩ => ⟨n, ?_, decide_eq_true hs⟩⟩
  · exact ⟨n, (lookup_some hn).1, (lookup_some hn).2, of_decide_eq_true hs⟩
  · exact (lookup_iff_mem h.nodup).2 ⟨hn, ha⟩

theorem symmetric_of_isRelay {y : Addr} (h : isRelay olsr y = true) : symmetric olsr y = true := by
  unfold isRelay at h
  unfold symmetric
  cases hfind : olsrFindNeighborSet olsr.neighborSet y with
  | none =>
    rw [hfind] at h
    cases h
  | some n =>
    rw [hfind] at h
    simp only [Option.any_some, Bool.and_eq_true, decide_eq_true_eq] at h
    simp [h.2]

theorem ne_main_of_symmetric (h : NeighborsDistinct olsr) {y : Addr}
    (hy : symmetric olsr y = true) : y ≠ olsr.mainAddress := by
  obtain ⟨n, hn, rfl, -⟩ := (symmetric_iff h).1 hy
  exact fun hmain => h.notMain (hmain ▸ List.mem_map_of_mem hn)

theorem mem_nearTable (h : NeighborsDistinct olsr) {r : Route Addr} : r ∈ nearTable olsr ↔
    (symmetric olsr r.networkDestination = true ∧ r.gateway = r.networkDestination ∧
      r.metric = 1) ∨
    ∃ t ∈ olsr.twoHopNeighborSet, givesRoute olsr t = true ∧ twoHopRoute t = r := by
  simp only [nearTable, neighborRoutes, List.mem_append, List.mem_map, List.mem_filter,
    decide_eq_true_eq, and_assoc]
  refine or_congr_left ⟨?_, ?_⟩
  · rintro ⟨n, hn, hs, rfl⟩
    exact ⟨(symmetric_iff h).2 ⟨n, hn, rfl, hs⟩, rfl, rfl⟩
  · rintro ⟨hsym, hgate, hmetric⟩
    obtain ⟨n, hn, ha, hs⟩ := (symmetric_iff h).1 hsym
    refine ⟨n, hn, hs, ?_⟩
    rw [ha, ← hmetric]
    nth_rewrite 2 [← hgate]
    rfl

theorem path_pos {n : ℕ} {g x : Addr} (h : Path olsr n g x) : 1 ≤ n := by
  cases h <;> omega

theorem edge_of_path_one {g x : Addr} (h : Path olsr 1 g x) : Edge olsr olsr.mainAddress x := by
  cases h with
  | first h => exact h
  | next h _ => exact absurd (path_pos h) (by omega)

theorem givesRoute_spec {t : TwoHopTuple Addr} (h : givesRoute olsr t = true) :
    olsrFindNeighborSet olsr.neighborSet t.n2hopAddr = none ∧ t.n2hopAddr ≠ olsr.mainAddress ∧
      isRelay olsr t.nNeighborMainAddr = true := by
  simpa [givesRoute, and_assoc] using h

theorem symmetric_of_edge (h : NeighborsDistinct olsr)
    (hown : ∀ t ∈ olsr.topologyInfoBase, t.tLastAddr = olsr.mainAddress →
      t.tDestAddr ≠ olsr.mainAddress → symmetric olsr t.tDestAddr = true)
    {x : Addr} (hx : Edge olsr olsr.mainAddress x) (hne : x ≠ olsr.mainAddress) :
    symmetric olsr x = true := by
  generalize hmain : olsr.mainAddress = m at hx
  cases hx with
  | link hsym => exact hsym
  | twoHop ht hrelay =>
    exact absurd hmain.symm (ne_main_of_symmetric h (symmetric_of_isRelay hrelay))
  | topology ht => exact hown _ ht hmain.symm hne

theorem isDist_of_mem_nearTable (h : NeighborsDistinct olsr)
    (hown : ∀ t ∈ olsr.topologyInfoBase, t.tLastAddr = olsr.mainAddress →
      t.tDestAddr ≠ olsr.mainAddress → symmetric olsr t.tDestAddr = true)
    {r : Route Addr} (hr : r ∈ nearTable olsr) :
    r.networkDestination ≠ olsr.mainAddress ∧ IsDist olsr r.metric r.networkDestination ∧
      Path olsr r.metric r.gateway r.networkDestination := by
  rcases (mem_nearTable h).1 hr with ⟨hsym, hgate, hmetric⟩ | ⟨t, ht, hgives, rfl⟩
  · have hpath : Path olsr r.metric r.gateway r.networkDestination := by
      rw [hmetric, hgate]
      exact .first (.link hsym)
    refine ⟨ne_main_of_symmetric h hsym, ⟨⟨_, hpath⟩, fun n g hn => ?_⟩, hpath⟩
    rw [hmetric]
    exact path_pos hn
  · obtain ⟨hnone, hmain, hrelay⟩ := givesRoute_spec hgives
    have hpath : Path olsr 2 t.nNeighborMainAddr t.n2hopAddr :=
      (Path.first (.link (symmetric_of_isRelay hrelay))).next (.twoHop ht hrelay)
    refine ⟨hmain, ⟨⟨_, hpath⟩, fun n g hn => ?_⟩, hpath⟩
    have hpos := path_pos hn
    by_contra hlt
    obtain rfl : n = 1 := by
      simp only [twoHopRoute] at hlt
      omega
    have hsym := symmetric_of_edge h hown (edge_of_path_one hn) hmain
    rw [symmetric, show olsrFindNeighborSet olsr.neighborSet (twoHopRoute t).networkDestination =
      none from hnone] at hsym
    cases hsym

theorem nodup_nearTable (h : NeighborsDistinct olsr)
    (honce : ((olsr.twoHopNeighborSet.filter (givesRoute olsr)).map TwoHopTuple.n2hopAddr).Nodup) :
    ((nearTable olsr).map Route.networkDestination).Nodup := by
  rw [nearTable, List.map_append, List.map_map]
  refine List.nodup_append.2 ⟨?_, honce, fun a ha b hb hab => ?_⟩
  · rw [neighborRoutes, List.map_map]
    exact h.nodup.sublist (List.filter_sublist.map _)
  · obtain ⟨r, hr, rfl⟩ := List.mem_map.1 ha
    obtain ⟨t, ht, rfl⟩ := List.mem_map.1 hb
    obtain ⟨n, hn, rfl⟩ := List.mem_map.1 hr
    have hnone := (givesRoute_spec (List.mem_filter.1 ht).2).1
    exact lookup_eq_none.1 hnone n (List.mem_filter.1 hn).1 hab

theorem row_of_path (h : NeighborsDistinct olsr) (hsafe : ZoneSafe olsr) {n : ℕ} {g x : Addr}
    (hpath : Path olsr n g x) : n ≤ olsr.nZoneRadius →
      x = olsr.mainAddress ∨
        ∃ r ∈ nearTable olsr, r.networkDestination = x ∧ r.metric ≤ n := by
  have hneighbour : ∀ {y n}, symmetric olsr y = true → 1 ≤ n →
      ∃ r ∈ nearTable olsr, r.networkDestination = y ∧ r.metric ≤ n := fun {y n} hy hn =>
    ⟨⟨y, y, 1⟩, (mem_nearTable h).2 (.inl ⟨hy, rfl, rfl⟩), rfl, hn⟩
  induction hpath with
  | @first y hy =>
    intro _
    by_cases hmain : y = olsr.mainAddress
    · exact .inl hmain
    · exact .inr (hneighbour (symmetric_of_edge h hsafe.own hy hmain) (Nat.le_refl 1))
  | @next n g x y hx hxy ih =>
    intro hle
    have hpos := path_pos hx
    by_cases hmain : y = olsr.mainAddress
    · exact .inl hmain
    refine .inr ?_
    cases hxy with
    | link hsym => exact hneighbour hsym (by omega)
    | @twoHop t ht hrelay =>
      cases hfind : olsrFindNeighborSet olsr.neighborSet t.n2hopAddr with
      | none =>
        have hgives : givesRoute olsr t = true := by simp [givesRoute, hfind, hmain, hrelay]
        exact ⟨twoHopRoute t, (mem_nearTable h).2 (.inr ⟨t, ht, hgives, rfl⟩), rfl,
          Nat.succ_le_succ hpos⟩
      | some nb =>
        obtain ⟨hnb, haddr⟩ := lookup_some hfind
        have hs := hsafe.heard (by omega) t ht hmain hrelay nb hnb haddr
        exact hneighbour ((symmetric_iff h).2 ⟨nb, hnb, haddr, hs⟩) (by omega)
    | @topology t ht =>
      rcases ih (by omega) with hlast | ⟨r, hr, hdest, hmetric⟩
      · exact hneighbour (hsafe.own t ht hlast hmain) (by omega)
      · have hcheck : iptableCheck (nearTable olsr) t.tLastAddr = some r :=
          (lookup_iff_mem (nodup_nearTable h hsafe.once)).2 ⟨hr, hdest⟩
        by_contra hno
        refine hsafe.complete t ht ⟨?_, hmain, r, hcheck, by omega⟩
        refine lookup_eq_none.2 fun r' hr' hdest' => hno ⟨r', hr', hdest', ?_⟩
        rcases (mem_nearTable h).1 hr' with ⟨-, -, hone⟩ | ⟨t', -, -, rfl⟩
        · omega
        · exact Nat.succ_le_succ hpos

/-! ## The result -/

theorem filter_eq_singleton {l : List (Route Addr)}
    (hnodup : (l.map Route.networkDestination).Nodup) {r : Route Addr} (hr : r ∈ l) :
    l.filter (fun x => x.networkDestination = r.networkDestination) = [r] := by
  induction l with
  | nil => cases hr
  | cons a l ih =>
    rw [List.map_cons, List.nodup_cons] at hnodup
    rcases List.mem_cons.1 hr with rfl | hr
    · rw [List.filter_cons_of_pos (by simp), List.filter_eq_nil_iff.2]
      intro x hx
      simpa using fun heq : x.networkDestination = r.networkDestination =>
        hnodup.1 (heq ▸ List.mem_map_of_mem hx)
    · rw [List.filter_cons_of_neg, ih hnodup.2 hr]
      simpa using fun heq : a.networkDestination = r.networkDestination =>
        hnodup.1 (heq ▸ List.mem_map_of_mem hr)

theorem filter_olsrRow (l : List (Route Addr)) (i : Option ℕ) (x : Addr) :
    (l.map (olsrRow i)).filter (fun row => row.networkDestination = x) =
      (l.filter fun r => r.networkDestination = x).map (olsrRow i) :=
  List.filter_map

omit [DecidableEq Addr] in
theorem device_append (l : List (IpRow Addr)) {rows : List (IpRow Addr)}
    (hrows : ∀ row ∈ rows, row.isOlsr = true) :
    (l.filter (fun row => !row.isOlsr) ++ rows).filter IpRow.isOlsr = rows ∧
      (l.filter (fun row => !row.isOlsr) ++ rows).filter (fun row => !row.isOlsr) =
        l.filter fun row => !row.isOlsr := by
  have hnone : rows.filter (fun row => !row.isOlsr) = [] :=
    List.filter_eq_nil_iff.2 fun row hrow => by simp [hrows row hrow]
  refine ⟨?_, by rw [List.filter_append, hnone, List.filter_filter]; simp⟩
  rw [List.filter_append, List.filter_eq_self.2 hrows, List.filter_filter]
  simp

theorem zoneSafe_of_reached (hset : NeighborsDistinct olsr) (hR : 1 ≤ olsr.nZoneRadius)
    (hanchored : ∀ t ∈ olsr.twoHopNeighborSet,
      olsrFindNeighborSet olsr.neighborSet t.n2hopAddr = none → t.n2hopAddr ≠ olsr.mainAddress →
        (olsrFindNeighborSet olsr.neighborSet t.nNeighborMainAddr).isSome)
    (hcomplete : ∀ t ∈ olsr.topologyInfoBase, ¬IsUsable olsr (nearTable olsr) t)
    (hreached : ∀ x d, x ≠ olsr.mainAddress → d ≤ olsr.nZoneRadius → IsDist olsr d x →
      ∃ row, ((nearTable olsr).map (olsrRow (some 1))).filter
        (fun row => row.networkDestination = x) = [row] ∧ row.metric = d ∧
          Path olsr d row.gateway x)
    (honly : ∀ row ∈ (nearTable olsr).map (olsrRow (some 1)),
      row.networkDestination ≠ olsr.mainAddress ∧
        ∃ d ≤ olsr.nZoneRadius, IsDist olsr d row.networkDestination) : ZoneSafe olsr := by
  have hreach : ∀ x d, x ≠ olsr.mainAddress → d ≤ olsr.nZoneRadius → IsDist olsr d x →
      ∃ r ∈ nearTable olsr, r.networkDestination = x ∧ r.metric = d := by
    intro x d hx hd hdist
    obtain ⟨row, hrow, hmetric, -⟩ := hreached x d hx hd hdist
    have hmem := List.mem_filter.1 (hrow ▸ List.mem_singleton_self row)
    obtain ⟨r, hr, rfl⟩ := List.mem_map.1 hmem.1
    exact ⟨r, hr, of_decide_eq_true hmem.2, hmetric⟩
  have hown : ∀ t ∈ olsr.topologyInfoBase, t.tLastAddr = olsr.mainAddress →
      t.tDestAddr ≠ olsr.mainAddress → symmetric olsr t.tDestAddr = true := by
    intro t ht hlast hmain
    have hpath : Path olsr 1 t.tDestAddr t.tDestAddr := .first (hlast ▸ .topology ht)
    obtain ⟨r, hr, hdest, hone⟩ := hreach t.tDestAddr 1 hmain hR
      ⟨⟨_, hpath⟩, fun n g hn => path_pos hn⟩
    rcases (mem_nearTable hset).1 hr with ⟨hsym, -, -⟩ | ⟨t', -, -, rfl⟩
    · exact hdest ▸ hsym
    · cases hone
  refine ⟨hanchored, fun hone t ht => ?_, fun htwo t ht hmain hrelay n hn haddr hs => ?_, ?_,
    hown, hcomplete⟩
  · by_contra hgives
    have hr : twoHopRoute t ∈ nearTable olsr :=
      (mem_nearTable hset).2 (.inr ⟨t, ht, Bool.not_eq_false _ ▸ hgives, rfl⟩)
    obtain ⟨-, d, hd, hdist⟩ := honly (olsrRow (some 1) (twoHopRoute t)) (List.mem_map_of_mem hr)
    have htwo := (isDist_of_mem_nearTable hset hown hr).2.1
    obtain ⟨g, hg⟩ := hdist.1
    have hle : 2 ≤ d := htwo.2 d g hg
    omega
  · have hpath : Path olsr 2 t.nNeighborMainAddr t.n2hopAddr :=
      (Path.first (.link (symmetric_of_isRelay hrelay))).next (.twoHop ht hrelay)
    obtain ⟨d, ⟨g, hg⟩, hleast⟩ : ∃ d, IsDist olsr d t.n2hopAddr := by
      classical
      have hex : ∃ d g, Path olsr d g t.n2hopAddr := ⟨2, _, hpath⟩
      exact ⟨Nat.find hex, Nat.find_spec hex, fun n g hn => Nat.find_min' hex ⟨g, hn⟩⟩
    have hd := hleast 2 _ hpath
    obtain ⟨r, hr, hdest, -⟩ := hreach t.n2hopAddr d hmain (by omega) ⟨⟨g, hg⟩, hleast⟩
    rcases (mem_nearTable hset).1 hr with ⟨hsym, -, -⟩ | ⟨t', -, hgives, rfl⟩
    · obtain ⟨n', hn', haddr', hs'⟩ := (symmetric_iff hset).1 hsym
      have hsame := List.inj_on_of_nodup_map hset.nodup hn' hn
        (haddr'.trans (hdest.trans haddr.symm))
      exact hs' (hsame ▸ hs)
    · exact lookup_eq_none.1 (givesRoute_spec hgives).1 n hn (haddr.trans hdest.symm)
  · refine List.nodup_iff_count_le_one.2 fun a => ?_
    by_cases ha : a ∈ (olsr.twoHopNeighborSet.filter (givesRoute olsr)).map TwoHopTuple.n2hopAddr
    · obtain ⟨t, ht, rfl⟩ := List.mem_map.1 ha
      obtain ⟨hmem, hgives⟩ := List.mem_filter.1 ht
      have hr : twoHopRoute t ∈ nearTable olsr :=
        (mem_nearTable hset).2 (.inr ⟨t, hmem, hgives, rfl⟩)
      obtain ⟨hmain, hdist, -⟩ := isDist_of_mem_nearTable hset hown hr
      obtain ⟨-, d, hd, hdist'⟩ := honly (olsrRow (some 1) (twoHopRoute t)) (List.mem_map_of_mem hr)
      obtain ⟨row, hrow, -⟩ := hreached t.n2hopAddr d hmain hd hdist'
      rw [filter_olsrRow, nearTable, List.filter_append, List.map_append] at hrow
      have hlen := congrArg List.length hrow
      simp only [List.length_append, List.length_map, List.length_singleton] at hlen
      have hcount : ((olsr.twoHopNeighborSet.filter (givesRoute olsr)).map
          TwoHopTuple.n2hopAddr).count t.n2hopAddr =
          (((olsr.twoHopNeighborSet.filter (givesRoute olsr)).map twoHopRoute).filter
            fun r => r.networkDestination = t.n2hopAddr).length := by
        rw [List.count, List.countP_map, ← List.countP_eq_length_filter, List.countP_map]
        exact List.countP_congr fun x _ => beq_iff_eq.trans decide_eq_true_iff.symm
      omega
    · rw [List.count_eq_zero.2 ha]
      omega

theorem updateIpTables_right_iff (hset : NeighborsDistinct olsr) (hR : 1 ≤ olsr.nZoneRadius)
    (hflag : olsr.bRoutingTableUpdate = true)
    (hsync : s.device.filter IpRow.isOlsr = s.wrapper) :
    (∃ s', updateIpTables olsr s = some s' ∧ ZoneRight olsr s s') ↔ ZoneSafe olsr := by
  have hupdate : updateIpTables olsr s = (nearRoutes olsr).bind fun near => some
      ⟨near.map (olsrRow (some 1)) ++ ((topologyRoutes olsr olsr.topologyInfoBase.length
          near).1.drop near.length).map (olsrRow none),
        s.device.filter (fun row => !row.isOlsr) ++ (near.map (olsrRow (some 1)) ++
          ((topologyRoutes olsr olsr.topologyInfoBase.length near).1.drop near.length).map
            (olsrRow none))⟩ := by
    rw [updateIpTables, hflag, flush_device _ s (Nat.le_refl _) hsync]
    rfl
  constructor
  · rintro ⟨s', hs', hright⟩
    rw [hupdate, Option.bind_eq_some_iff] at hs'
    obtain ⟨near, hnear, hs'⟩ := hs'
    have hanchored := anchored_of_nearRoutes hnear
    obtain rfl : near = nearTable olsr :=
      Option.some.inj (hnear.symm.trans (nearRoutes_eq hanchored))
    obtain ⟨added, hadded⟩ : ∃ added, (topologyRoutes olsr olsr.topologyInfoBase.length
        (nearTable olsr)).1 = nearTable olsr ++ added := topologyRoutes_append _ _
    rw [hadded, List.drop_left] at hs'
    cases hs'
    -- A row of the last loop has no interface.
    obtain rfl : added = [] := by
      cases added with
      | nil => rfl
      | cons r added =>
        have hsome := hright.interfaces (olsrRow none r) (List.mem_append_right _ List.mem_cons_self)
        cases hsome
    have hcomplete := (topologyRoutes_eq_self_iff (nearTable olsr)).1
      (hadded.trans (List.append_nil _))
    obtain ⟨hreached, honly, -, -, -⟩ := hright
    simp only [List.map_nil, List.append_nil] at hreached honly
    exact zoneSafe_of_reached hset hR hanchored hcomplete hreached honly
  · intro hsafe
    have htable := (topologyRoutes_eq_self_iff (nearTable olsr)).2 hsafe.complete
    refine ⟨⟨(nearTable olsr).map (olsrRow (some 1)), s.device.filter (fun row => !row.isOlsr) ++
      (nearTable olsr).map (olsrRow (some 1))⟩, ?_, ?_⟩
    · rw [hupdate, nearRoutes_eq hsafe.anchored, Option.bind_some, htable, List.drop_length]
      simp
    · have hrows : ∀ row ∈ (nearTable olsr).map (olsrRow (some 1)), row.isOlsr = true := by
        intro row hrow
        obtain ⟨r, -, rfl⟩ := List.mem_map.1 hrow
        rfl
      have hdevice := device_append s.device hrows
      refine ⟨fun x d hx hd hdist => ?_, fun row hrow => ?_, hdevice.1, hdevice.2, fun row hrow => ?_⟩
      · obtain ⟨g, hg⟩ := hdist.1
        obtain ⟨r, hr, rfl, hmetric⟩ := (row_of_path hset hsafe hg hd).resolve_left hx
        obtain ⟨-, hdist', hpath⟩ := isDist_of_mem_nearTable hset hsafe.own hr
        have hle := hdist.2 _ _ hpath
        have heq : r.metric = d := Nat.le_antisymm hmetric hle
        refine ⟨olsrRow (some 1) r, ?_, heq, heq ▸ hpath⟩
        rw [filter_olsrRow, filter_eq_singleton (nodup_nearTable hset hsafe.once) hr]
        rfl
      · obtain ⟨r, hr, rfl⟩ := List.mem_map.1 hrow
        obtain ⟨hmain, hdist, -⟩ := isDist_of_mem_nearTable hset hsafe.own hr
        refine ⟨hmain, r.metric, ?_, hdist⟩
        rcases (mem_nearTable hset).1 hr with ⟨-, -, hone⟩ | ⟨t, ht, hgives, rfl⟩
        · omega
        · have hne : olsr.nZoneRadius ≠ 1 := fun hone => by
            rw [hsafe.zone hone t ht] at hgives
            cases hgives
          simp only [twoHopRoute]
          omega
      · obtain ⟨r, -, rfl⟩ := List.mem_map.1 hrow
        rfl

/-- A node with two MPRs, and what they reach. -/
def exampleZone (twoHopNeighborSet : List (TwoHopTuple ℕ)) : NodeOlsr ℕ :=
  { exampleOlsr .default with
    neighborSet := [⟨1, .mprNeigh, .high⟩, ⟨2, .mprNeigh, .default⟩]
    twoHopNeighborSet := twoHopNeighborSet
    bRoutingTableUpdate := true }

theorem exampleZone_distinct (twoHopNeighborSet : List (TwoHopTuple ℕ)) :
    NeighborsDistinct (exampleZone twoHopNeighborSet) where
  nodup := by simp [exampleZone]
  notMain := by simp [exampleZone, exampleOlsr]

theorem updateIpTables_right_two :
    (∃ s', updateIpTables (exampleZone [⟨1, 8, 1⟩, ⟨2, 9, 1⟩]) ⟨[], []⟩ = some s' ∧
      ZoneRight (exampleZone [⟨1, 8, 1⟩, ⟨2, 9, 1⟩]) ⟨[], []⟩ s') ↔
        ZoneSafe (exampleZone [⟨1, 8, 1⟩, ⟨2, 9, 1⟩]) :=
  updateIpTables_right_iff (exampleZone_distinct _) (by decide) rfl rfl

/-- Two MPRs reach address 9: it has two rows. -/
theorem not_updateIpTables_right :
    ¬∀ (olsr : NodeOlsr ℕ) (s : IpTables ℕ), NeighborsDistinct olsr → 1 ≤ olsr.nZoneRadius →
      olsr.bRoutingTableUpdate = true → s.device.filter IpRow.isOlsr = s.wrapper →
        ∃ s', updateIpTables olsr s = some s' ∧ ZoneRight olsr s s' := by
  intro hlaw
  obtain ⟨s', hs', hright⟩ := hlaw (exampleZone [⟨1, 9, 1⟩, ⟨2, 9, 1⟩]) ⟨[], []⟩
    (exampleZone_distinct _) (by decide) rfl rfl
  have hrows : (updateIpTables (exampleZone [⟨1, 9, 1⟩, ⟨2, 9, 1⟩]) ⟨[], []⟩).map
      (fun s => (s.wrapper.filter fun row => row.networkDestination = 9).length) = some 2 := by
    decide +kernel
  rw [hs', Option.map_some, Option.some.injEq] at hrows
  obtain ⟨row, hrow⟩ := List.exists_mem_of_length_pos (by omega :
    0 < (s'.wrapper.filter fun row => row.networkDestination = 9).length)
  obtain ⟨hmem, hdest⟩ := List.mem_filter.1 hrow
  obtain ⟨hmain, d, hd, hdist⟩ := hright.only row hmem
  obtain ⟨row', hone, -⟩ := hright.reached 9 d (by decide) hd (of_decide_eq_true hdest ▸ hdist)
  rw [hone] at hrows
  cases hrows

end NetSim.Zrp
