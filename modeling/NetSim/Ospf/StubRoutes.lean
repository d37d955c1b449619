import NetSim.Ospf.LsUpdate
import NetSim.Ospf.RoutingTable

/-!
# Stub routes (`OSPF_SPF.c`)

The row that a stub link is compared with, the row that it frees and the row that it is written over
are all found by an address that their prefixes contain: nested prefixes take each other's place.
-/

namespace NetSim.Ospf

/-- What the pass reads besides a `Config`; `ospf_getInterfaceIdForNextHop` is a function of the
network stack. -/
structure SpfConfig extends Config where
  isAdvertSelfIntf : Bool
  getInterfaceIdForNextHop : Nat → Nat

inductive VertexType
  | router | network
deriving DecidableEq

/-- `OSPFNEXTHOPLISTITEM`. -/
structure NextHopItem where
  outIntf : Nat
  nextHop : IpPtr
deriving DecidableEq

/-- `OSPFVERTEX`. A list of next hops that is missing counts as empty, as it does in the pass. -/
structure Vertex where
  vertexId : Ip
  vertexType : VertexType
  lsa : Lsa
  nextHopList : List NextHopItem
  distance : Nat
deriving DecidableEq

/-- A call of `ospf_rtTable_addRoute`, with the table before and after it. -/
structure Added where
  before : List RtRow
  route : Route
  after : List RtRow

/-- `freed` are the LSAs whose memory has been given up; the list of calls is not in the source. -/
structure SpfState where
  router : Router
  rows : List RtRow
  shortestPathList : List Vertex
  freed : List Lsa
  added : List Added

def Router.getInterfaceIdforThisNeighbor (r : Router) (neighIPaddr : Ip) : Nat :=
  ((r.ospfIf.find? fun inter =>
    inter.neighborRouterList.any fun neigh => neigh.neighborIPAddr.int_ip == neighIPaddr.int_ip).map
      Interface.id).getD 0

/-- `ospf_spf_removeLSAFromShortestPathList`: the vertex loses its next hops, and stays. -/
def removeLSAFromShortestPathList (shortestPathList : List Vertex) (lsa : Lsa) : List Vertex :=
  match shortestPathList.findIdx? fun vertex => lsa.sameLsa vertex.lsa with
  | some i => shortestPathList.modify i fun vertex => { vertex with nextHopList := [] }
  | none => shortestPathList

section

variable (cfg : SpfConfig)

/-- The root looks for an interface to the link, any other vertex has a first next hop, or none. -/
def Router.hop (r : Router) (v : Vertex) (link : RlsaLink) : Option NextHopItem :=
  if v.vertexId.int_ip = cfg.routerId.int_ip then
    let intfId := if link.linkData.int_ip ≠ 0xffffffff then
        r.getInterfaceIdforThisNeighbor link.linkId
      else cfg.getInterfaceIdForNextHop link.linkId.int_ip
    if intfId = 0 then none else some ⟨intfId, none⟩
  else v.nextHopList.head?

/-- What the root does without an interface. The loop over the links goes on to read `v.lsa`. -/
def SpfState.forget (s : SpfState) (thisArea : Nat) (v : Vertex) (link : RlsaLink) :
    Option SpfState := do
  let area ← s.router.area? thisArea
  match lookupLsaList area.routerLSAList link.linkId link.linkId with
  | none => some s
  | some LSHeader =>
    if LSHeader.sameLsa v.lsa then none
    else
      let router ← s.router.removeLSA cfg.toConfig thisArea LSHeader
      some { s with
        router := router
        shortestPathList := removeLSAFromShortestPathList s.shortestPathList LSHeader
        freed := LSHeader :: s.freed }

def SpfState.rowFor (s : SpfState) (link : RlsaLink) : Option Nat :=
  if link.linkData.int_ip = cfg.anyDest.int_ip then
    getValidHostRoute s.rows link.linkId .network
  else getValidRoute cfg.isAdvertSelfIntf s.rows link.linkId .network

def newRow (areaId : Ip) (v : Vertex) (link : RlsaLink) (hop : NextHopItem) : Route where
  destType := .network
  destAddr := link.linkId
  addrMask := link.linkData
  option := 0
  areaId := areaId
  pathType := .intraArea
  metric := (link.metric + v.distance) % 2 ^ 32
  type2Metric := 0
  LSOrigin := v.lsa
  nextHop := hop.nextHop
  outInterface := cfg.nwAddress hop.outIntf
  outInterfaceId := hop.outIntf
  advertisingRouter := v.lsa.AdvertisingRouter

def SpfState.replace (s : SpfState) (thisArea : Nat) (v : Vertex) (link : RlsaLink) :
    Option SpfState :=
  match s.router.hop cfg v link with
  | some hop => do
    let area ← s.router.area? thisArea
    let route := newRow cfg area.areaId v link hop
    let rows ← addRoute cfg.isAdvertSelfIntf s.rows route
    some { s with rows := rows, added := ⟨s.rows, route, rows⟩ :: s.added }
  | none =>
    if v.vertexId.int_ip = cfg.routerId.int_ip then s.forget cfg thisArea v link else some s

def SpfState.stubRoute (s : SpfState) (thisArea : Nat) (v : Vertex) (link : RlsaLink) :
    Option SpfState :=
  match s.rowFor cfg link with
  | some i => do
    let row ← s.rows[i]?
    if row.metric ≤ (link.metric + v.distance) % 2 ^ 32 then some s
    else SpfState.replace cfg { s with rows := freeRoute s.rows i } thisArea v link
  | none => s.replace cfg thisArea v link

def RlsaLink.isProcessed (link : RlsaLink) : Bool :=
  link.type == .stub && !cfg.isMyAddr link.linkId.int_ip

def SpfState.stubLink (thisArea : Nat) (v : Vertex) (s : SpfState) (link : RlsaLink) :
    Option SpfState :=
  if link.isProcessed cfg then s.stubRoute cfg thisArea v link else some s

def SpfState.stubVertex (thisArea : Nat) (s : SpfState) (i : Nat) : Option SpfState :=
  match s.shortestPathList[i]? with
  | none => some s
  | some v =>
    if v.vertexType ≠ .router then some s
    else if s.freed.any fun lsa => lsa.sameLsa v.lsa then none
    else if cfg.LSAMaxAge ≤ cfg.maskDoNotAge v.lsa.LSAge then some s
    else do
      let rlsa ← v.lsa.lsaInfo
      rlsa.rlsaLink.foldlM (SpfState.stubLink cfg thisArea v) s

def SpfState.addStubRouteToshortestPath (s : SpfState) (thisArea : Nat) : Option SpfState :=
  (List.range s.shortestPathList.length).foldlM (SpfState.stubVertex cfg thisArea) s

end

/-! ## What the pass is for -/

structure Offer where
  vertex : Vertex
  link : RlsaLink

namespace Offer

def network (o : Offer) : Nat × Nat := (o.link.linkId.int_ip, o.link.linkData.int_ip)

def metric (o : Offer) : Nat := o.link.metric + o.vertex.distance

def hop (cfg : SpfConfig) (r : Router) (o : Offer) : Option NextHopItem :=
  r.hop cfg o.vertex o.link

end Offer

def Vertex.offers (cfg : SpfConfig) (v : Vertex) : List Offer :=
  if v.vertexType = .router ∧ cfg.maskDoNotAge v.lsa.LSAge < cfg.LSAMaxAge then
    (((v.lsa.lsaInfo.map Rlsa.rlsaLink).getD []).filter (RlsaLink.isProcessed cfg)).map (Offer.mk v)
  else []

def SpfState.offers (cfg : SpfConfig) (s : SpfState) : List Offer :=
  s.shortestPathList.flatMap (Vertex.offers cfg)

structure IsLeast (cfg : SpfConfig) (r : Router) (offers : List Offer) (o : Offer) (row : RtRow) :
    Prop where
  mem : o ∈ offers
  destType : row.destType = .network
  network : row.network = o.network
  metric : row.metric = o.metric
  nextHop : ∃ hop, o.hop cfg r = some hop ∧ row.nextHop = hop.nextHop ∧
    row.outInterfaceId = hop.outIntf
  least : ∀ o' ∈ offers, o'.network = o.network → (o'.hop cfg r).isSome → o.metric ≤ o'.metric

def Added.Framed (c : Added) : Prop :=
  c.after.filter (fun row => row.network != c.route.network) =
    c.before.filter fun row => row.network != c.route.network

/-- What the table has to be after the pass. -/
structure StubRoutesRight (cfg : SpfConfig) (s₀ s : SpfState) : Prop where
  one : ∀ o ∈ s₀.offers cfg, (o.hop cfg s₀.router).isSome →
    ∃ row o', rowsFor o.network s.rows = [row] ∧ IsLeast cfg s₀.router (s₀.offers cfg) o' row
  framed : ∀ c ∈ s.added, c.Framed
  freed : freeAllInvalidRoute s.rows = s.rows.filter RtRow.isValid

/-- The table has been invalidated, and the pass has not begun. -/
structure Invalidated (thisArea : Nat) (s : SpfState) : Prop where
  rows : ∀ row ∈ s.rows, row.isValid = false
  freed : s.freed = []
  added : s.added = []
  area : (s.router.area? thisArea).isSome
  lsaInfo : ∀ v ∈ s.shortestPathList, v.vertexType = .router → v.lsa.lsaInfo.isSome

def StubRoutesLaw : Prop :=
  ∀ cfg thisArea s₀, Invalidated thisArea s₀ →
    ∃ s, s₀.addStubRouteToshortestPath cfg thisArea = some s ∧ StubRoutesRight cfg s₀ s

/-- No prefix contains the address of another; a vertex without a next hop advertises nothing nearer
than others do. -/
structure StubsApart (cfg : SpfConfig) (thisArea : Nat) (s₀ : SpfState) : Prop where
  offers : ∀ o ∈ s₀.offers cfg, ∀ o' ∈ s₀.offers cfg,
    covers cfg.isAdvertSelfIntf o'.network o.network.1 = true → o'.network = o.network
  rows : ∀ o ∈ s₀.offers cfg, ∀ row ∈ s₀.rows, row.destType = .network →
    covers cfg.isAdvertSelfIntf row.network o.network.1 = true → row.network = o.network
  hopless : ∀ o ∈ s₀.offers cfg, o.hop cfg s₀.router = none →
    ∀ o' ∈ s₀.offers cfg, o'.network = o.network → (o'.hop cfg s₀.router).isSome →
      o'.metric ≤ o.metric
  root : ∀ o ∈ s₀.offers cfg, o.hop cfg s₀.router = none →
    o.vertex.vertexId.int_ip = cfg.routerId.int_ip → ∀ area ∈ s₀.router.area? thisArea,
      lookupLsaList area.routerLSAList o.link.linkId o.link.linkId = none
  bounded : ∀ o ∈ s₀.offers cfg, o.metric < 2 ^ 32
  compared : ∀ o ∈ s₀.offers cfg, ∀ hop ∈ o.hop cfg s₀.router, ∀ row ∈ s₀.rows,
    row.destType = .network → row.network = o.network → row.metric = o.metric →
      hop.nextHop.isSome ∧ row.nextHop.isSome

/-! ## The pass under the condition -/

variable {cfg : SpfConfig} {thisArea : Nat} {s₀ s : SpfState} {done : List Offer} {o : Offer}

/-- The rows of a prefix after the offers `done`: the least of those with a next hop, if any. -/
def Chosen (cfg : SpfConfig) (r : Router) (done : List Offer) (network : Nat × Nat)
    (rows : List RtRow) : Prop :=
  (rows = [] ∧ ∀ o ∈ done, o.network = network → o.hop cfg r = none) ∨
    ∃ row o, rows = [row] ∧ row.network = network ∧ IsLeast cfg r done o row

theorem IsLeast.snoc {r : Router} {row : RtRow} {o' : Offer} (h : IsLeast cfg r done o' row)
    (hle : o.network = o'.network → (o.hop cfg r).isSome → o'.metric ≤ o.metric) :
    IsLeast cfg r (done ++ [o]) o' row where
  mem := List.mem_append_left _ h.mem
  destType := h.destType
  network := h.network
  metric := h.metric
  nextHop := h.nextHop
  least := by
    intro x hx hnetwork hsome
    rcases List.mem_append.1 hx with hx | hx
    · exact h.least x hx hnetwork hsome
    · rw [List.mem_singleton.1 hx] at hnetwork hsome ⊢
      exact hle hnetwork hsome

theorem Chosen.snoc_of_ne {r : Router} {network : Nat × Nat} {rows : List RtRow}
    (h : Chosen cfg r done network rows) (hne : network ≠ o.network) :
    Chosen cfg r (done ++ [o]) network rows := by
  rcases h with ⟨hnil, hnone⟩ | ⟨row, o', hrows, hrow, hleast⟩
  · refine .inl ⟨hnil, fun x hx hnetwork => ?_⟩
    rcases List.mem_append.1 hx with hx | hx
    · exact hnone x hx hnetwork
    · rw [List.mem_singleton.1 hx] at hnetwork
      exact absurd hnetwork.symm hne
  · refine .inr ⟨row, o', hrows, hrow, hleast.snoc fun hnetwork => ?_⟩
    exact absurd (hrow.symm.trans (hleast.network.trans hnetwork.symm)) hne

/-- The state after the offers `done`. -/
structure StubInv (cfg : SpfConfig) (s₀ : SpfState) (done : List Offer) (s : SpfState) : Prop where
  router : s.router = s₀.router
  list : s.shortestPathList = s₀.shortestPathList
  freed : s.freed = []
  offered : ∀ o ∈ done, o ∈ s₀.offers cfg
  chosen : ∀ network, Chosen cfg s₀.router done network (rowsFor network s.rows)
  rows : ∀ row ∈ s.rows, row ∈ s₀.rows ∨
    row.isValid = true ∧ row.destType = .network ∧ ∃ o ∈ s₀.offers cfg, row.network = o.network
  framed : ∀ c ∈ s.added, c.Framed

theorem StubInv.start (h : Invalidated thisArea s₀) : StubInv cfg s₀ [] s₀ where
  router := rfl
  list := rfl
  freed := h.freed
  offered := by simp
  chosen := by
    intro network
    refine .inl ⟨List.filter_eq_nil_iff.2 fun row hrow => ?_, by simp⟩
    rw [h.rows row hrow]
    exact Bool.false_ne_true
  rows := fun row hrow => .inl hrow
  framed := by
    rw [h.added]
    exact nofun

theorem StubInv.network_eq (h : StubInv cfg s₀ done s) (hapart : StubsApart cfg thisArea s₀)
    (ho : o ∈ s₀.offers cfg) {row : RtRow} (hrow : row ∈ s.rows) (htype : row.destType = .network)
    (hcovers : covers cfg.isAdvertSelfIntf row.network o.network.1 = true) :
    row.network = o.network := by
  rcases h.rows row hrow with hrow | ⟨-, -, o', ho', hnetwork⟩
  · exact hapart.rows o ho row hrow htype hcovers
  · rw [hnetwork] at hcovers ⊢
    exact hapart.offers o ho o' ho' hcovers

theorem rowFor_finds (cfg : SpfConfig) (s : SpfState) (o : Offer) :
    ∃ p, Finds p s.rows (s.rowFor cfg o.link) ∧
      ∀ row : RtRow, (p row = true → row.isValid = true ∧ row.destType = .network ∧
          covers cfg.isAdvertSelfIntf row.network o.network.1 = true) ∧
        (row.isValid = true → row.destType = .network → row.network = o.network →
          p row = true) := by
  unfold SpfState.rowFor
  split
  · refine ⟨_, finds_findIdx? _ _, fun row => ⟨fun hp => ?_, fun hvalid htype hnetwork => ?_⟩⟩
    · simp only [Bool.and_eq_true, beq_iff_eq, compareDestType_network] at hp
      exact ⟨hp.2, hp.1.2, covers_of_eq _ hp.1.1⟩
    · simp only [Bool.and_eq_true, beq_iff_eq, compareDestType_network]
      exact ⟨⟨congrArg Prod.fst hnetwork, htype⟩, hvalid⟩
  · refine ⟨_, finds_matchRow _ _ _, fun row => ⟨fun hp => ?_, fun hvalid htype hnetwork => ?_⟩⟩
    · simp only [Bool.and_eq_true, compareDestType_network] at hp
      exact ⟨hp.2, hp.1.2, hp.1.1⟩
    · simp only [Bool.and_eq_true, compareDestType_network]
      exact ⟨⟨covers_of_eq _ (congrArg Prod.fst hnetwork), htype⟩, hvalid⟩

theorem StubInv.replace (h : StubInv cfg s₀ done s) (hstart : Invalidated thisArea s₀)
    (hapart : StubsApart cfg thisArea s₀) (ho : o ∈ s₀.offers cfg) {rows : List RtRow}
    (hrows : ∀ row ∈ rows, row ∈ s.rows) (hnil : rowsFor o.network rows = [])
    (hothers : ∀ network, network ≠ o.network → rowsFor network rows = rowsFor network s.rows)
    {hop : NextHopItem} (hhop : o.hop cfg s₀.router = some hop)
    (hleast : ∀ o' ∈ done, o'.network = o.network → (o'.hop cfg s₀.router).isSome →
      o.metric ≤ o'.metric) :
    ∃ s', SpfState.replace cfg { s with rows := rows } thisArea o.vertex o.link = some s' ∧
      StubInv cfg s₀ (done ++ [o]) s' := by
  obtain ⟨area, harea⟩ := Option.isSome_iff_exists.1 hstart.area
  have hmetric : (newRow cfg area.areaId o.vertex o.link hop).metric = o.metric :=
    Nat.mod_eq_of_lt (hapart.bounded o ho)
  obtain ⟨rows', flag, hadd, hone, hflag, hkept, hframe, hmem⟩ :=
    @addRoute_spec rows cfg.isAdvertSelfIntf (newRow cfg area.areaId o.vertex o.link hop) rfl
      (fun row hrow htype hcovers => h.network_eq hapart ho (hrows row hrow) htype hcovers) hnil
      (by
        intro row hrow htype hnetwork hinvalid hsame
        rcases h.rows row (hrows row hrow) with hin | ⟨hvalid, -⟩
        · exact hapart.compared o ho hop hhop row hin htype hnetwork (hsame.trans hmetric)
        · rw [hvalid] at hinvalid
          cases hinvalid)
  have hhop' : s.router.hop cfg o.vertex o.link = some hop := h.router ▸ hhop
  have harea' : s.router.area? thisArea = some area := h.router ▸ harea
  refine ⟨_, by simp only [SpfState.replace, hhop', harea', hadd, Option.bind_eq_bind,
    Option.bind_some]; rfl, ?_⟩
  refine ⟨h.router, h.list, h.freed, ?_, fun network => ?_, ?_, ?_⟩
  · intro x hx
    rcases List.mem_append.1 hx with hx | hx
    · exact h.offered x hx
    · exact List.mem_singleton.1 hx ▸ ho
  · by_cases hnetwork : network = o.network
    · subst hnetwork
      refine .inr ⟨_, o, hone, rfl, ⟨by simp, rfl, rfl, hmetric, ⟨hop, hhop, rfl, rfl⟩, ?_⟩⟩
      intro x hx hsame hsome
      rcases List.mem_append.1 hx with hx | hx
      · exact hleast x hx hsame hsome
      · obtain rfl := List.mem_singleton.1 hx
        exact Nat.le_refl _
    · have hchosen := (h.chosen network).snoc_of_ne hnetwork
      rw [← hothers network hnetwork, ← hkept network hnetwork] at hchosen
      exact hchosen
  · intro row hrow
    rcases hmem row hrow with hrow | rfl
    · exact h.rows row (hrows row hrow)
    · exact .inr ⟨bne_iff_ne.2 hflag, rfl, o, ho, rfl⟩
  · intro c hc
    rcases List.mem_cons.1 hc with rfl | hc
    · exact hframe
    · exact h.framed c hc

theorem StubInv.stubRoute (h : StubInv cfg s₀ done s) (hstart : Invalidated thisArea s₀)
    (hapart : StubsApart cfg thisArea s₀) (ho : o ∈ s₀.offers cfg) :
    ∃ s', s.stubRoute cfg thisArea o.vertex o.link = some s' ∧
      StubInv cfg s₀ (done ++ [o]) s' := by
  obtain ⟨p, hfinds, hp⟩ := rowFor_finds cfg s o
  have hdone : ∀ x ∈ done ++ [o], x ∈ s₀.offers cfg := by
    intro x hx
    rcases List.mem_append.1 hx with hx | hx
    · exact h.offered x hx
    · exact List.mem_singleton.1 hx ▸ ho
  have hmetric : (o.link.metric + o.vertex.distance) % 2 ^ 32 = o.metric :=
    Nat.mod_eq_of_lt (hapart.bounded o ho)
  unfold SpfState.stubRoute
  rcases h.chosen o.network with ⟨hnil, hnone⟩ | ⟨row, o', hone, hnetwork, hleast⟩
  · -- No valid row of the prefix is there, and none is found.
    have hlookup : s.rowFor cfg o.link = none := by
      cases hi : s.rowFor cfg o.link with
      | none => rfl
      | some i =>
        rw [hi] at hfinds
        obtain ⟨l1, row, l2, hrows, -, hrow⟩ := hfinds
        obtain ⟨hvalid, htype, hcovers⟩ := (hp row).1 hrow
        have hmem : row ∈ s.rows := by simp [hrows]
        have hin := mem_rowsFor.2 ⟨hmem, hvalid, h.network_eq hapart ho hmem htype hcovers⟩
        rw [hnil] at hin
        cases hin
    rw [hlookup]
    cases hhop : o.hop cfg s₀.router with
    | some hop =>
      refine h.replace hstart hapart ho (fun _ h => h) hnil (fun _ _ => rfl) hhop ?_
      intro x hx hsame hsome
      rw [hnone x hx hsame] at hsome
      cases hsome
    | none =>
      have hsame : s.replace cfg thisArea o.vertex o.link = some s := by
        have hhop' : s.router.hop cfg o.vertex o.link = none := h.router ▸ hhop
        unfold SpfState.replace
        rw [hhop']
        dsimp only
        split
        · next hroot =>
          obtain ⟨area, harea⟩ := Option.isSome_iff_exists.1 hstart.area
          have harea' : s.router.area? thisArea = some area := h.router ▸ harea
          simp only [SpfState.forget, harea', hapart.root o ho hhop hroot area harea,
            Option.bind_eq_bind, Option.bind_some]
        · rfl
      refine ⟨s, hsame, h.router, h.list, h.freed, hdone, fun network => ?_, h.rows, h.framed⟩
      by_cases hnetwork : network = o.network
      · subst hnetwork
        refine .inl ⟨hnil, fun x hx hsame => ?_⟩
        rcases List.mem_append.1 hx with hx | hx
        · exact hnone x hx hsame
        · exact List.mem_singleton.1 hx ▸ hhop
      · exact (h.chosen network).snoc_of_ne hnetwork
  · -- The valid row of the prefix is the one found.
    obtain ⟨hmem, hvalid, -⟩ := mem_rowsFor.1 (hone ▸ List.mem_singleton_self row)
    have hsame : o'.network = o.network := hleast.network.symm.trans hnetwork
    cases hi : s.rowFor cfg o.link with
    | none =>
      rw [hi] at hfinds
      have hnot := hfinds row hmem
      rw [(hp row).2 hvalid hleast.destType hnetwork] at hnot
      cases hnot
    | some i =>
      rw [hi] at hfinds
      obtain ⟨l1, found, l2, hrows, rfl, hfound⟩ := hfinds
      obtain ⟨hvalid', htype', hcovers⟩ := (hp found).1 hfound
      have hmem' : found ∈ s.rows := by simp [hrows]
      have hnetwork' := h.network_eq hapart ho hmem' htype' hcovers
      have hin := mem_rowsFor.2 ⟨hmem', hvalid', hnetwork'⟩
      rw [hone, List.mem_singleton] at hin
      subst hin
      have hget : s.rows[l1.length]? = some found := by simp [hrows]
      dsimp only
      rw [hget, Option.bind_eq_bind, Option.bind_some, hmetric, hleast.metric]
      split
      · next hle =>
        refine ⟨s, rfl, h.router, h.list, h.freed, hdone, fun network => ?_, h.rows, h.framed⟩
        by_cases hne : network = o.network
        · subst hne
          exact .inr ⟨found, o', hone, hnetwork, hleast.snoc fun _ _ => hle⟩
        · exact (h.chosen network).snoc_of_ne hne
      · next hlt =>
        obtain ⟨hop', hhop', -⟩ := hleast.nextHop
        cases hhop : o.hop cfg s₀.router with
        | none =>
          have hle := hapart.hopless o ho hhop o' (h.offered o' hleast.mem) hsame (by rw [hhop']; rfl)
          exact absurd hle hlt
        | some hop =>
          have hfree := @rowsFor_freeRoute found l1 l2
            (by rw [← hrows, hnetwork, hone]) hvalid
          rw [← hrows, hnetwork] at hfree
          refine h.replace hstart hapart ho (fun row hrow => List.mem_of_mem_eraseIdx hrow)
            hfree.1 hfree.2 hhop fun x hx hnet hsome => ?_
          have hle := hleast.least x hx (hnet.trans hsame.symm) hsome
          omega

theorem StubInv.links (hstart : Invalidated thisArea s₀) (hapart : StubsApart cfg thisArea s₀)
    (v : Vertex) : ∀ (links : List RlsaLink) (s : SpfState) (done : List Offer),
      StubInv cfg s₀ done s →
      (∀ o ∈ (links.filter (RlsaLink.isProcessed cfg)).map (Offer.mk v), o ∈ s₀.offers cfg) →
      ∃ s', links.foldlM (SpfState.stubLink cfg thisArea v) s = some s' ∧
        StubInv cfg s₀ (done ++ (links.filter (RlsaLink.isProcessed cfg)).map (Offer.mk v)) s'
  | [], s, done, h, _ => ⟨s, rfl, by rw [List.filter_nil, List.map_nil, List.append_nil]; exact h⟩
  | link :: links, s, done, h, hoffers => by
    rw [List.foldlM_cons]
    unfold SpfState.stubLink
    by_cases hprocessed : link.isProcessed cfg = true
    · rw [List.filter_cons_of_pos hprocessed, List.map_cons] at hoffers ⊢
      obtain ⟨s1, hs1, h1⟩ := h.stubRoute hstart hapart (hoffers _ List.mem_cons_self)
      obtain ⟨s', hs', h'⟩ := StubInv.links hstart hapart v links s1 _ h1
        fun x hx => hoffers x (List.mem_cons_of_mem _ hx)
      rw [if_pos hprocessed, hs1]
      rw [List.append_assoc, List.singleton_append] at h'
      exact ⟨s', hs', h'⟩
    · rw [List.filter_cons_of_neg hprocessed] at hoffers ⊢
      rw [if_neg hprocessed]
      exact StubInv.links hstart hapart v links s done h hoffers

theorem StubInv.vertices (hstart : Invalidated thisArea s₀) (hapart : StubsApart cfg thisArea s₀)
    (n : Nat) (hn : n ≤ s₀.shortestPathList.length) :
    ∃ s', (List.range n).foldlM (SpfState.stubVertex cfg thisArea) s₀ = some s' ∧
      StubInv cfg s₀ ((s₀.shortestPathList.take n).flatMap (Vertex.offers cfg)) s' := by
  induction n with
  | zero => exact ⟨s₀, rfl, .start hstart⟩
  | succ n ih =>
    obtain ⟨s, hs, h⟩ := ih (Nat.le_of_succ_le hn)
    have hget := List.getElem?_eq_getElem (l := s₀.shortestPathList) hn
    have hmem := List.getElem_mem hn
    generalize s₀.shortestPathList[n] = v at hget hmem
    rw [List.take_add_one, hget, Option.toList_some, List.flatMap_append, List.flatMap_singleton,
      List.range_succ, List.foldlM_append, hs]
    rw [Option.bind_eq_bind, Option.bind_some, List.foldlM_cons]
    have hstep : ∃ s', s.stubVertex cfg thisArea n = some s' ∧
        StubInv cfg s₀ ((s₀.shortestPathList.take n).flatMap (Vertex.offers cfg) ++
          v.offers cfg) s' := by
      unfold SpfState.stubVertex
      rw [h.list, hget, h.freed]
      by_cases hskip : v.vertexType = .router ∧ cfg.maskDoNotAge v.lsa.LSAge < cfg.LSAMaxAge
      · obtain ⟨hrouter, hage⟩ := hskip
        obtain ⟨rlsa, hrlsa⟩ := Option.isSome_iff_exists.1 (hstart.lsaInfo v hmem hrouter)
        have hoffers : v.offers cfg =
            (rlsa.rlsaLink.filter (RlsaLink.isProcessed cfg)).map (Offer.mk v) := by
          rw [Vertex.offers, if_pos ⟨hrouter, hage⟩, hrlsa]
          rfl
        rw [hoffers]
        obtain ⟨s', hs', h'⟩ := StubInv.links hstart hapart v rlsa.rlsaLink s _ h
          fun o ho => List.mem_flatMap.2 ⟨v, hmem, hoffers ▸ ho⟩
        refine ⟨s', ?_, h'⟩
        simpa [hrouter, Nat.not_le.2 hage, hrlsa] using hs'
      · rw [Vertex.offers, if_neg hskip, List.append_nil]
        rw [not_and, Nat.not_lt] at hskip
        refine ⟨s, ?_, h⟩
        by_cases hrouter : v.vertexType = .router
        · simp [hskip hrouter]
        · simp [hrouter]
    obtain ⟨s', hs', h'⟩ := hstep
    exact ⟨s', by rw [hs']; rfl, h'⟩

def stubVertex (link₁ link₂ : RlsaLink) : Vertex where
  vertexId := ⟨20, 20⟩
  vertexType := .router
  lsa :=
    { LSAge := 1, Options := 0, LSType := .router, LinkStateID := ⟨20, 20⟩,
      AdvertisingRouter := ⟨20, 20⟩, LSSequenceNumber := initialSequenceNumber, length := 48,
      lsaInfo := some ⟨0, [link₁, link₂]⟩, time := 0 }
  nextHopList := [⟨1, some ⟨20, 20⟩⟩]
  distance := 1

/-- A router whose shortest-path list has this vertex only, with an empty table. -/
def stubState (link₁ link₂ : RlsaLink) : SpfState :=
  ⟨exampleRouter, [], [stubVertex link₁ link₂], [], []⟩

def exampleSpfConfig : SpfConfig where
  toConfig := exampleConfig
  isAdvertSelfIntf := false
  getInterfaceIdForNextHop := fun _ => 0

/-- `10.0.0.0/8`. -/
def tenLink : RlsaLink := ⟨⟨0x0A000000, 0x0A000000⟩, ⟨0xFF000000, 0xFF000000⟩, .stub, 1⟩

/-- `10.1.0.0/16`, which is part of it. -/
def nestedLink : RlsaLink := ⟨⟨0x0A010000, 0x0A010000⟩, ⟨0xFFFF0000, 0xFFFF0000⟩, .stub, 2⟩

/-- `11.0.0.0/8`. -/
def elevenLink : RlsaLink := ⟨⟨0x0B000000, 0x0B000000⟩, ⟨0xFF000000, 0xFF000000⟩, .stub, 2⟩

theorem stubState_invalidated (link1 link2 : RlsaLink) : Invalidated 0 (stubState link1 link2) where
  rows := nofun
  freed := rfl
  added := rfl
  area := rfl
  lsaInfo := by
    intro v hv _
    rw [List.mem_singleton.1 hv]
    rfl

end NetSim.Ospf
