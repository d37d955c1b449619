import NetSim.Dsr.Node

/-!
# Route errors of DSR (`RouteError.c`, `SourceRoute.c`)

A route error takes the number of nodes behind it from `nSegsLeft` of the source route, which no
node ever lowers: so it has no nodes to visit, and is freed where it is made.
-/

namespace NetSim.Dsr

/-! ## The source route of a packet -/

/-- `DSR_SOURCE_ROUTE_OPTION`. `nOptDataLen` has 8 bits and `nSegsLeft` has 4. -/
structure SourceRouteOption where
  nOptDataLen : Nat
  nSegsLeft : Nat
  Address : List Nat
deriving DecidableEq

/-- The number of addresses that `nOptDataLen` stands for. -/
def SourceRouteOption.nlength (option : SourceRouteOption) : Nat := (option.nOptDataLen - 2) / 4

/-- A data packet with its `Packet_RoutingProtocol`. -/
structure RoutedPacket where
  szSourceIP : Nat
  szDestIP : Nat
  option : Option SourceRouteOption
deriving DecidableEq

section

variable (fillAddress : RouteCache → Nat → Nat → List Nat)

/-- `fn_NetSim_DSR_AddSourceRouteOption` at the node `ip`, with `fn_NetSim_DSR_FillAddress` of the
DSR library. -/
def RoutedPacket.addSourceRouteOption (packet : RoutedPacket) (cache : RouteCache) (ip : Nat) :
    RoutedPacket :=
  match packet.option with
  | some _ => packet
  | none =>
    let address := fillAddress cache ip packet.szDestIP
    let length := address.length
    { packet with
      option := some
        { nOptDataLen := (length * 4 + 2) % 2 ^ 8, nSegsLeft := length % 2 ^ 4, Address := address } }

/-- `fn_NetSim_DSR_ProcessSourceRouteOption` at the node `ip`. -/
def RoutedPacket.processSourceRouteOption (packet : RoutedPacket) (ip : Nat) : RoutedPacket :=
  if packet.szDestIP = ip then { packet with option := none } else packet

/-- A node takes a packet in and sends it on with the route that it finds in its own cache. -/
def RoutedPacket.hop (found : Nat → RouteCache) (packet : RoutedPacket) (ip : Nat) : RoutedPacket :=
  (packet.processSourceRouteOption ip).addSourceRouteOption fillAddress (found ip) ip

/-- The packet from `source` to `dest` as it leaves the `k`-th node of the cached route. -/
def packetAt (found : Nat → RouteCache) (cache : RouteCache) (source dest k : Nat) : RoutedPacket :=
  (cache.address.take (k + 1)).tail.foldl (RoutedPacket.hop fillAddress found)
    (RoutedPacket.addSourceRouteOption fillAddress ⟨source, dest, none⟩ cache source)

end

/-! ## Route errors -/

/-- A route error, the packet and its `DSR_RERR_OPTION`. -/
structure Rerr where
  szSourceIP : Nat
  szDestIP : Nat
  szNextHopIp : Nat
  nTTL : Nat
  errorSourceAddress : Nat
  errorDestinationAddress : Nat
  TypeSpecificInformation : Nat
  length : Nat
  nSegsLeft : Nat
  Address : List Nat
deriving DecidableEq

def getPrevHop (packet : RoutedPacket) (option : SourceRouteOption) : Option Nat :=
  if option.Address = [] ∨ option.nlength = 1 ∨ option.nSegsLeft = option.nlength then
    some packet.szSourceIP
  else option.Address[option.nSegsLeft]?

/-- `fn_NetSim_DSR_GenerateRERR` at the node `ip` for the first packet of a maintenance buffer to
`nextHop`. -/
def generateRERR (ip nextHop : Nat) (packet : RoutedPacket) : Option Rerr :=
  packet.option.bind fun option =>
    (getPrevHop packet option).bind fun nexthop =>
      let length := (option.nlength + 2 ^ 32 - option.nSegsLeft) % 2 ^ 32
      if length ≤ option.Address.length then
        some
          { szSourceIP := ip, szDestIP := packet.szSourceIP, szNextHopIp := nexthop
            nTTL := length + 1
            errorSourceAddress := ip, errorDestinationAddress := packet.szSourceIP
            TypeSpecificInformation := nextHop
            length := length, nSegsLeft := length
            Address := (option.Address.take length).reverse }
      else none

/-- `fn_NetSim_DSR_ForwardRERR` at the node `ip`: the error that it sends on, if it does not free
it. -/
def forwardRERR (ip : Nat) (rerr : Rerr) : Option (Option Rerr) :=
  if rerr.nSegsLeft = 0 then some none
  else
    let nSegsLeft := rerr.nSegsLeft - 1
    let nextHop := if nSegsLeft = 0 then some rerr.szDestIP else rerr.Address[nSegsLeft]?
    nextHop.map fun nextHop =>
      some { rerr with szSourceIP := ip, nSegsLeft := nSegsLeft, szNextHopIp := nextHop }

/-- The search of `fn_NetSim_DSR_DeleteEntryFromRouteCache` for a link. With `nLength` 0 the bound
`nLength - 1` wraps. -/
def findLink (ip1 ip2 : Nat) : List Nat → Option Bool
  | [] => none
  | [_] => some false
  | address :: address' :: rest =>
    if ip1 = address ∧ ip2 = address' then some true else findLink ip1 ip2 (address' :: rest)

/-- The walk over the cache, past the routes `passed`. It starts again after each deletion. -/
def deleteEntryLoop (ip1 ip2 : Nat) (passed : List RouteCache) :
    List RouteCache → Option (List RouteCache)
  | [] => some passed
  | cache :: caches =>
    match findLink ip1 ip2 cache.address with
    | none => none
    | some true => deleteEntryLoop ip1 ip2 [] (passed ++ caches)
    | some false => deleteEntryLoop ip1 ip2 (passed ++ [cache]) caches
termination_by caches => (passed.length + caches.length, caches.length)
decreasing_by
  · simp only [List.length_append, List.length_nil, List.length_cons, Prod.lex_def]
    omega
  · simp only [List.length_append, List.length_nil, List.length_cons, Prod.lex_def]
    omega

def deleteEntryFromRouteCache (caches : List RouteCache) (ip1 ip2 : Nat) :
    Option (List RouteCache) :=
  deleteEntryLoop ip1 ip2 [] caches

/-- `fn_NetSim_DSR_ProcessRerr` at the node `ip` of a network with the given route caches. -/
def processRerr (net : Nat → List RouteCache) (ip : Nat) (rerr : Rerr) :
    Option ((Nat → List RouteCache) × Option Rerr) :=
  (deleteEntryFromRouteCache (net ip) rerr.errorSourceAddress rerr.TypeSpecificInformation).bind
    fun caches => (forwardRERR ip rerr).map fun next => (Function.update net ip caches, next)

inductive Travels : (Nat → List RouteCache) → Nat → Rerr → List Nat → (Nat → List RouteCache) → Prop
  | freed {net ip rerr net'} (h : processRerr net ip rerr = some (net', none)) :
    Travels net ip rerr [ip] net'
  | forward {net ip rerr net' next ips net''}
    (h : processRerr net ip rerr = some (net', some next))
    (rest : Travels net' next.szNextHopIp next ips net'') : Travels net ip rerr (ip :: ips) net''

/-! ## What is to be shown -/

/-- The cached route has a hop from `ip1` to `ip2`. -/
def UsesLink (ip1 ip2 : Nat) (cache : RouteCache) : Prop := [ip1, ip2] <:+: cache.address

instance (ip1 ip2 : Nat) (cache : RouteCache) : Decidable (UsesLink ip1 ip2 cache) :=
  inferInstanceAs (Decidable ([ip1, ip2] <:+: cache.address))

/-- A number of addresses for which `nSegsLeft` and `nOptDataLen` have room. -/
def FitsOption (length : Nat) : Prop := length < 2 ^ 4 ∧ length * 4 + 2 < 2 ^ 8

/-- The route error of the node `ip` visits the nodes up to it in reverse order, and these lose the
routes with the broken hop, and only them. -/
def ReachesSource (fillAddress : RouteCache → Nat → Nat → List Nat) (found : Nat → RouteCache)
    (net : Nat → List RouteCache) (cache : RouteCache) (source dest k ip nextHop : Nat) : Prop :=
  ∃ rerr net', generateRERR ip nextHop (packetAt fillAddress found cache source dest k) = some rerr ∧
    Travels net ip rerr (cache.address.take (k + 1)).reverse net' ∧
    ∀ x ∈ cache.address.take (k + 1),
      net' x = (net x).filter fun cache => ¬UsesLink ip nextHop cache

/-! ## The deletion of a link -/

variable {ip1 ip2 ip nextHop source dest k : Nat} {net net' : Nat → List RouteCache}
  {cache : RouteCache}

theorem findLink_eq {address : List Nat} (h : address ≠ []) :
    findLink ip1 ip2 address = some (decide ([ip1, ip2] <:+: address)) := by
  induction address with
  | nil => exact absurd rfl h
  | cons a rest ih =>
    cases rest with
    | nil =>
      have hnot : ¬[ip1, ip2] <:+: [a] := fun h => absurd h.length_le (by simp)
      rw [findLink, decide_eq_false hnot]
    | cons b rest =>
      rw [findLink, ih (List.cons_ne_nil b rest)]
      have hcut : [ip1, ip2] <:+: a :: b :: rest ↔
          [ip1, ip2] <+: a :: b :: rest ∨ [ip1, ip2] <:+: b :: rest := List.infix_cons_iff
      simp only [hcut, List.cons_prefix_cons, List.nil_prefix, and_true]
      split
      · next hab => simp [hab]
      · next hab => simp [hab]

theorem findLink_eq_none {address : List Nat} : findLink ip1 ip2 address = none ↔ address = [] := by
  refine ⟨fun h => ?_, fun h => by rw [h, findLink]⟩
  by_contra hne
  rw [findLink_eq hne] at h
  cases h

theorem findLink_cache (h : cache.address ≠ []) :
    findLink ip1 ip2 cache.address = some (decide (UsesLink ip1 ip2 cache)) := findLink_eq h

theorem deleteEntryLoop_eq (passed caches : List RouteCache)
    (hpassed : ∀ cache ∈ passed, cache.address ≠ [] ∧ ¬UsesLink ip1 ip2 cache)
    (h : ∀ cache ∈ caches, cache.address ≠ []) :
    deleteEntryLoop ip1 ip2 passed caches =
      some (passed ++ caches.filter fun cache => ¬UsesLink ip1 ip2 cache) := by
  induction passed, caches using deleteEntryLoop.induct ip1 ip2 with
  | case1 passed => simp [deleteEntryLoop]
  | case2 passed cache caches hnone =>
    exact absurd (findLink_eq_none.1 hnone) (h cache List.mem_cons_self)
  | case3 passed cache caches htrue ih =>
    have hcache := h cache List.mem_cons_self
    have huses : UsesLink ip1 ip2 cache := by
      rw [findLink_cache hcache] at htrue
      simpa using htrue
    have hkept : (passed.filter fun cache => ¬UsesLink ip1 ip2 cache) = passed :=
      List.filter_eq_self.2 fun c hc => decide_eq_true (hpassed c hc).2
    have hall : ∀ c ∈ passed ++ caches, c.address ≠ [] := by
      intro c hc
      rcases List.mem_append.1 hc with hc | hc
      · exact (hpassed c hc).1
      · exact h c (List.mem_cons_of_mem _ hc)
    rw [deleteEntryLoop, htrue]
    rw [ih nofun hall, List.filter_append, hkept, List.nil_append,
      List.filter_cons_of_neg (by simpa using huses)]
  | case4 passed cache caches hfalse ih =>
    have hcache := h cache List.mem_cons_self
    have huses : ¬UsesLink ip1 ip2 cache := by
      rw [findLink_cache hcache] at hfalse
      simpa using hfalse
    have hall : ∀ c ∈ passed ++ [cache], c.address ≠ [] ∧ ¬UsesLink ip1 ip2 c := by
      intro c hc
      rcases List.mem_append.1 hc with hc | hc
      · exact hpassed c hc
      · rw [List.mem_singleton.1 hc]
        exact ⟨hcache, huses⟩
    rw [deleteEntryLoop, hfalse]
    rw [ih hall fun c hc => h c (List.mem_cons_of_mem _ hc), List.append_assoc,
      List.singleton_append, List.filter_cons_of_pos (by simpa using huses)]

theorem deleteEntryLoop_eq_none (passed caches : List RouteCache)
    (h : ∃ cache ∈ caches, cache.address = []) : deleteEntryLoop ip1 ip2 passed caches = none := by
  induction passed, caches using deleteEntryLoop.induct ip1 ip2 with
  | case1 passed =>
    obtain ⟨_, hmem, -⟩ := h
    cases hmem
  | case2 passed cache caches hnone => rw [deleteEntryLoop, hnone]
  | case3 passed cache caches htrue ih =>
    rw [deleteEntryLoop, htrue]
    obtain ⟨c, hc, hempty⟩ := h
    rcases List.mem_cons.1 hc with rfl | hc
    · rw [findLink_eq_none.2 hempty] at htrue
      cases htrue
    · exact ih ⟨c, List.mem_append_right _ hc, hempty⟩
  | case4 passed cache caches hfalse ih =>
    rw [deleteEntryLoop, hfalse]
    obtain ⟨c, hc, hempty⟩ := h
    rcases List.mem_cons.1 hc with rfl | hc
    · rw [findLink_eq_none.2 hempty] at hfalse
      cases hfalse
    · exact ih ⟨c, hc, hempty⟩

theorem deleteEntryFromRouteCache_eq_some {caches caches' : List RouteCache} :
    deleteEntryFromRouteCache caches ip1 ip2 = some caches' ↔
      (∀ cache ∈ caches, cache.address ≠ []) ∧
        (caches.filter fun cache => ¬UsesLink ip1 ip2 cache) = caches' := by
  unfold deleteEntryFromRouteCache
  by_cases h : ∀ cache ∈ caches, cache.address ≠ []
  · rw [deleteEntryLoop_eq [] caches nofun h, List.nil_append, Option.some_inj, and_iff_right h]
  · have hnone : deleteEntryLoop ip1 ip2 [] caches = none := by
      refine deleteEntryLoop_eq_none _ _ ?_
      simpa using h
    rw [hnone]
    exact iff_of_false nofun fun hboth => h hboth.1

/-! ## The route error -/

variable {fillAddress : RouteCache → Nat → Nat → List Nat} {found : Nat → RouteCache}

theorem RoutedPacket.hop_eq {packet : RoutedPacket} (h : packet.szDestIP ≠ ip)
    (hoption : packet.option ≠ none) : packet.hop fillAddress found ip = packet := by
  unfold hop processSourceRouteOption addSourceRouteOption
  rw [if_neg h]
  split
  · rfl
  · next hnone => exact absurd hnone hoption

theorem RoutedPacket.foldl_hop {packet : RoutedPacket} (hoption : packet.option ≠ none)
    (ips : List Nat) (h : packet.szDestIP ∉ ips) :
    ips.foldl (RoutedPacket.hop fillAddress found) packet = packet := by
  induction ips with
  | nil => rfl
  | cons ip ips ih =>
    rw [List.mem_cons, not_or] at h
    rw [List.foldl_cons, hop_eq h.1 hoption, ih h.2]

theorem packetAt_eq (hdest : dest ∈ cache.address) (hk : k < cache.address.idxOf dest) :
    packetAt fillAddress found cache source dest k =
      RoutedPacket.addSourceRouteOption fillAddress ⟨source, dest, none⟩ cache source := by
  have hnot : dest ∉ cache.address.take (k + 1) := by
    rw [List.mem_take_iff_idxOf_lt hdest]
    omega
  exact RoutedPacket.foldl_hop (Option.some_ne_none _) _ fun hmem => hnot (List.mem_of_mem_tail hmem)

theorem generateRERR_packetAt (ip nextHop : Nat) (found : Nat → RouteCache)
    (hdest : dest ∈ cache.address) (hk : k < cache.address.idxOf dest)
    (hfits : FitsOption (fillAddress cache source dest).length) :
    ∃ rerr, generateRERR ip nextHop (packetAt fillAddress found cache source dest k) = some rerr ∧
      rerr.nSegsLeft = 0 ∧ rerr.errorSourceAddress = ip ∧ rerr.TypeSpecificInformation = nextHop := by
  rw [packetAt_eq hdest hk]
  generalize haddress : fillAddress cache source dest = address at hfits
  obtain ⟨hsegs, hlen⟩ := hfits
  let option : SourceRouteOption := ⟨address.length * 4 + 2, address.length, address⟩
  have hadd : (RoutedPacket.addSourceRouteOption fillAddress ⟨source, dest, none⟩ cache source) =
      ⟨source, dest, some option⟩ := by
    simp only [RoutedPacket.addSourceRouteOption, haddress, Nat.mod_eq_of_lt hsegs,
      Nat.mod_eq_of_lt hlen, option]
  have hlength : option.nlength = option.nSegsLeft := by
    simp only [SourceRouteOption.nlength, option]
    omega
  have hprev : getPrevHop ⟨source, dest, some option⟩ option = some source :=
    if_pos (Or.inr (Or.inr hlength.symm))
  have hzero : (option.nlength + 2 ^ 32 - option.nSegsLeft) % 2 ^ 32 = 0 := by
    rw [hlength, Nat.add_sub_cancel_left, Nat.mod_self]
  rw [hadd, generateRERR, Option.bind_some, hprev, Option.bind_some, hzero, if_pos (Nat.zero_le _)]
  exact ⟨_, rfl, rfl, rfl, rfl⟩

theorem travels_iff {rerr : Rerr} (hleft : rerr.nSegsLeft = 0) {ips : List Nat} :
    Travels net ip rerr ips net' ↔ ips = [ip] ∧ ∃ caches,
      deleteEntryFromRouteCache (net ip) rerr.errorSourceAddress rerr.TypeSpecificInformation =
        some caches ∧ Function.update net ip caches = net' := by
  have hprocess : ∀ r, processRerr net ip rerr = some r ↔ ∃ caches,
      deleteEntryFromRouteCache (net ip) rerr.errorSourceAddress rerr.TypeSpecificInformation =
        some caches ∧ (Function.update net ip caches, none) = r := by
    intro r
    simp only [processRerr, forwardRERR, if_pos hleft, Option.map_some, Option.bind_eq_some_iff,
      Option.some_inj]
  constructor
  · rintro (⟨h⟩ | ⟨h, -⟩)
    · obtain ⟨caches, hdelete, heq⟩ := (hprocess _).1 h
      exact ⟨rfl, caches, hdelete, (Prod.mk.inj heq).1⟩
    · obtain ⟨caches, -, heq⟩ := (hprocess _).1 h
      exact absurd (Prod.mk.inj heq).2 nofun
  · rintro ⟨rfl, caches, hdelete, rfl⟩
    exact .freed ((hprocess _).2 ⟨caches, hdelete, rfl⟩)

theorem reverse_take_eq_singleton {l : List Nat} (hk : l[k]? = some ip) :
    (l.take (k + 1)).reverse = [ip] ↔ k = 0 := by
  have hlt : k < l.length := (List.getElem?_eq_some_iff.1 hk).1
  refine ⟨fun h => ?_, ?_⟩
  · have hlen := congrArg List.length h
    rw [List.length_reverse, List.length_take, List.length_singleton] at hlen
    omega
  · rintro rfl
    cases l with
    | nil => cases hk
    | cons x rest =>
      rw [List.getElem?_cons_zero, Option.some_inj] at hk
      simp [hk]

/-- The route error is right exactly if the first hop is broken, and no cached route of the source
is empty. -/
theorem reachesSource_iff (hdest : dest ∈ cache.address) (hk : k < cache.address.idxOf dest)
    (hip : cache.address[k]? = some ip)
    (hfits : FitsOption (fillAddress cache source dest).length) :
    ReachesSource fillAddress found net cache source dest k ip nextHop ↔
      k = 0 ∧ ∀ cache ∈ net ip, cache.address ≠ [] := by
  obtain ⟨rerr, hrerr, hleft, hsource, hinfo⟩ :=
    generateRERR_packetAt ip nextHop found hdest hk hfits
  unfold ReachesSource
  rw [hrerr]
  constructor
  · rintro ⟨_, net', hsame, htravels, -⟩
    cases hsame
    obtain ⟨hips, caches, hdelete, -⟩ := (travels_iff hleft).1 htravels
    exact ⟨(reverse_take_eq_singleton hip).1 hips, (deleteEntryFromRouteCache_eq_some.1 hdelete).1⟩
  · rintro ⟨rfl, hne⟩
    have hips := (reverse_take_eq_singleton hip).2 rfl
    refine ⟨rerr, _, rfl, (travels_iff hleft).2 ⟨hips, _,
      deleteEntryFromRouteCache_eq_some.2 ⟨hne, rfl⟩, rfl⟩, fun x hx => ?_⟩
    have hx : x = ip := by
      rw [← List.mem_reverse, hips] at hx
      exact List.mem_singleton.1 hx
    rw [hx, Function.update_self, hsource, hinfo]

def between (cache : RouteCache) (source dest : Nat) : List Nat :=
  ((cache.address.dropWhile (· ≠ source)).tail).takeWhile (· ≠ dest)

def exampleRoute : RouteCache := ⟨0, [1, 2, 3, 4]⟩

theorem reachesSource_first :
    ReachesSource between (fun _ => exampleRoute) (fun _ => [exampleRoute, ⟨0, [1]⟩]) exampleRoute
      1 4 0 1 2 :=
  (reachesSource_iff (by decide) (by decide) rfl (by unfold FitsOption; decide)).2
    ⟨rfl, by decide⟩

/-- The claim fails: the error of node 2 about the hop to node 3 does not reach node 1. -/
theorem not_reachesSource :
    ¬∀ (net : Nat → List RouteCache) (found : Nat → RouteCache) (cache : RouteCache)
      (source dest k ip nextHop : Nat), dest ∈ cache.address → k < cache.address.idxOf dest →
      cache.address.head? = some source → cache.address[k]? = some ip →
      cache.address[k + 1]? = some nextHop → FitsOption (between cache source dest).length →
      ReachesSource between found net cache source dest k ip nextHop := by
  intro h
  obtain ⟨rerr, net', hrerr, htravels, -⟩ := h (fun _ => [exampleRoute]) (fun _ => exampleRoute)
    exampleRoute 1 4 1 2 3 (by decide) (by decide) rfl rfl rfl (by unfold FitsOption; decide)
  obtain ⟨rerr', hrerr', hleft, -⟩ := generateRERR_packetAt 2 3 (fun _ => exampleRoute)
    (show 4 ∈ exampleRoute.address by decide)
    (show 1 < exampleRoute.address.idxOf 4 by decide)
    (show FitsOption (between exampleRoute 1 4).length by unfold FitsOption; decide)
  rw [hrerr] at hrerr'
  cases hrerr'
  exact absurd ((travels_iff hleft).1 htravels).1 (by decide)

end NetSim.Dsr
