import NetSim.Lib.Run
import NetSim.Pim.Neighbor

/-!
# Hellos on a LAN

A run of PIM routers on one LAN is a sequence of hellos that arrive. The neighbors and the
designated routers are functions of the senders learnt, in order (`run_spec`).
-/

namespace NetSim.Pim

open NetSim.Lib Function

/-! ## Networks -/

/-- PIM routers. `reaches v j u`: a hello of `u` gets to interface `j` of `v` over another link. -/
structure Network where
  device : Nat → Device
  routers : List Nat
  lan : Nat → Nat
  reaches : Nat → Nat → Nat → Prop
  lan_pos : ∀ v ∈ routers, 0 < lan v
  lan_le : ∀ v ∈ routers, lan v ≤ (device v).nNumOfInterface
  broadcast : ∀ v ∈ routers, isBroadcastInterface (device v) (lan v) = true
  reaches_pos : ∀ v j u, reaches v j u → 0 < (device u).nNumOfInterface
  reaches_ne : ∀ v j u, reaches v j u → v ∈ routers → j ≠ lan v
  address_inj : ∀ u i v j, 0 < i → i ≤ (device u).nNumOfInterface → 0 < j →
    j ≤ (device v).nNumOfInterface → ((device u).nwAddress i).ip = ((device v).nwAddress j).ip →
    u = v ∧ i = j
  object : ∀ u i v j, ((device u).nwAddress i).strIp = ((device v).nwAddress j).strIp →
    ((device u).nwAddress i).ip = ((device v).nwAddress j).ip

/-- Hellos of `u` get to interface `j` of `v`. -/
def Network.Arrives (net : Network) (v j u : Nat) : Prop :=
  (u ∈ net.routers ∧ v ∈ net.routers ∧ u ≠ v ∧ j = net.lan v) ∨ net.reaches v j u

/-- A hello of `sender` that arrives on interface `ifid` of `receiver`. -/
structure HelloArrival (net : Network) where
  sender : Nat
  receiver : Nat
  ifid : Nat
  dEventTime : ℚ
  arrives : net.Arrives receiver ifid sender

namespace Network

variable (net : Network)

abbrev State := Nat → PimVar

def init : State := fun _ => .init []

/-- A hello arrives. The step fails where the code reads what is not there, or frees what is not its
own. -/
def step (s : State) (h : HelloArrival net) : Option State :=
  (processPimHelloPacket (net.device h.receiver) (s h.receiver) h.ifid
    (helloSource (net.device h.sender)) (helloMsg (net.device h.sender)) h.dEventTime).map
    fun var => update s h.receiver var

end Network

/-! ## What is learnt -/

abbrev Entry := Nat × Nat

def learn (l : List Entry) (u j : Nat) : List Entry :=
  if u ∈ l.map Prod.fst then l else l ++ [(u, j)]

/-- What `v` has learnt from the hellos that arrived (the latest first). -/
def learnt {net : Network} (v : Nat) : List (HelloArrival net) → List Entry
  | [] => []
  | h :: hs => if h.receiver = v then learn (learnt v hs) h.sender h.ifid else learnt v hs

/-- The neighbor that a hello of `d` makes, but for the time it is forgotten. -/
def recordOf (d : Device) (ifid : Nat) : Neighbor where
  neighborAddr := helloSource d
  incomingInterface := ifid
  genId := d.genId
  drPriority := d.drPriority.toUInt16
  drPriorityPresent := true
  isTimeoutAdded := true
  timeout := 0
  lanPruneDelayPresent := true
  trackingSupport := false
  propagationDelay := .ofNat (d.propagationDelay.toNat % 2 ^ 15)
  overrideInterval := d.overrideInterval
  secondaryAddressList := d.addresses.tail

def Neighbor.forget (neigh : Neighbor) : Neighbor := { neigh with timeout := 0 }

/-- The own record of `elect_DR`. -/
def me (d : Device) (ifid : Nat) : Neighbor := .zeroed (d.nwAddress ifid) 0

def sendersOn (ifid : Nat) (l : List Entry) : List Nat :=
  (l.filter fun x => x.2 = ifid).map Prod.fst

/-- The address that `elect_DR` stores when these have been learnt on the interface. -/
def Network.elected (net : Network) (v ifid : Nat) (us : List Nat) : IpAddress :=
  (bestDR (me (net.device v) ifid) (us.map fun u => recordOf (net.device u) ifid)).neighborAddr

theorem map_modify_eq {α β : Type} {g : α → β} {f : α → α} {l : List α} {i : Nat}
    (h : ∀ a, l[i]? = some a → g (f a) = g a) : (l.modify i f).map g = l.map g := by
  apply List.ext_getElem?
  intro k
  rw [List.getElem?_map, List.getElem?_modify, List.getElem?_map]
  by_cases hik : i = k
  · subst hik
    cases hget : l[i]? with
    | none => rfl
    | some a => simp [h a hget]
  · simp [hik]

theorem modify_length_append {α : Type} (f : α → α) (l : List α) (a : α) :
    (l ++ [a]).modify l.length f = l ++ [f a] := by
  induction l with
  | nil => rfl
  | cons b l ih => exact congrArg (b :: ·) ih

/-! ## The election -/

/-- What `dr_is_better` reads. -/
def Neighbor.bid (neigh : Neighbor) : IpAddress × UInt16 × Bool :=
  (neigh.neighborAddr, neigh.drPriority, neigh.drPriorityPresent)

theorem drIsBetter_congr {a a' b b' : Neighbor} (ha : a.bid = a'.bid) (hb : b.bid = b'.bid) :
    drIsBetter a b = drIsBetter a' b' := by
  simp only [Neighbor.bid, Prod.mk.injEq] at ha hb
  unfold drIsBetter
  rw [ha.1, ha.2.1, ha.2.2, hb.1, hb.2.1, hb.2.2]

theorem bestDR_cons (dr n : Neighbor) (l : List Neighbor) :
    bestDR dr (n :: l) = bestDR (if drIsBetter n dr then n else dr) l := rfl

theorem bestDR_congr {dr dr' : Neighbor} {l l' : List Neighbor} (hdr : dr.bid = dr'.bid)
    (hl : l.map Neighbor.bid = l'.map Neighbor.bid) : (bestDR dr l).bid = (bestDR dr' l').bid := by
  induction l generalizing dr dr' l' with
  | nil =>
    obtain rfl : l' = [] := List.map_eq_nil_iff.1 hl.symm
    exact hdr
  | cons n l ih =>
    cases l' with
    | nil => cases hl
    | cons n' l' =>
      rw [List.map_cons, List.map_cons, List.cons.injEq] at hl
      rw [bestDR_cons, bestDR_cons, drIsBetter_congr hl.1 hdr]
      refine ih ?_ hl.2
      split
      · exact hl.1
      · exact hdr

theorem bestDR_mem (dr : Neighbor) (l : List Neighbor) : bestDR dr l = dr ∨ bestDR dr l ∈ l := by
  induction l generalizing dr with
  | nil => exact .inl rfl
  | cons n l ih =>
    rw [bestDR_cons]
    split
    · rcases ih n with h | h
      · exact .inr (by rw [h]; exact List.mem_cons_self)
      · exact .inr (List.mem_cons_of_mem _ h)
    · rcases ih dr with h | h
      · exact .inl h
      · exact .inr (List.mem_cons_of_mem _ h)

/-! ## What a hello does -/

def Learnt (net : Network) (var : PimVar) (l : List Entry) : Prop :=
  var.neighborList.map Neighbor.forget = l.map fun x => recordOf (net.device x.1) x.2

structure Proper (net : Network) (l : List Entry) : Prop where
  nodup : (l.map Prod.fst).Nodup
  pos : ∀ x ∈ l, 0 < (net.device x.1).nNumOfInterface

section Hello

variable {net : Network} {var : PimVar} {l : List Entry} {u v j : Nat}

variable {d : Device}

theorem mem_addresses {a : IpAddress} (h : a ∈ d.addresses) :
    ∃ i, 0 < i ∧ i ≤ d.nNumOfInterface ∧ a = d.nwAddress i := by
  obtain ⟨i, hi, rfl⟩ := List.mem_map.1 h
  exact ⟨i + 1, Nat.succ_pos i, List.mem_range.1 hi, rfl⟩

theorem addresses_eq (hd : 0 < d.nNumOfInterface) :
    d.addresses = helloSource d :: d.addresses.tail := by
  obtain ⟨n, hn⟩ := Nat.exists_eq_succ_of_ne_zero hd.ne'
  unfold Device.addresses
  rw [hn, List.range_succ_eq_map]
  rfl

theorem addresses_length (d : Device) : d.addresses.length = d.nNumOfInterface := by
  unfold Device.addresses
  rw [List.length_map, List.length_range]

theorem not_same_of_mem_tail (hu : 0 < (net.device u).nNumOfInterface) {a : IpAddress}
    (ha : a ∈ (net.device u).addresses.tail) : a.same (helloSource (net.device u)) = false := by
  obtain ⟨k, hk⟩ := List.getElem_of_mem ha
  obtain ⟨hlt, rfl⟩ := hk
  apply decide_eq_false
  intro heq
  have hlen := addresses_length (net.device u)
  rw [List.length_tail] at hlt
  rw [List.getElem_tail] at heq
  have hget : (net.device u).addresses[k + 1] = (net.device u).nwAddress (k + 1 + 1) := by
    simp [Device.addresses]
  rw [hget] at heq
  obtain ⟨-, hone⟩ := net.address_inj u (k + 1 + 1) u 1 (by omega) (by omega) one_pos hu heq
  omega

theorem secondaryAddresses_all {src : IpAddress} {l : List IpAddress}
    (h : ∀ a ∈ l, a.same src = false) : secondaryAddresses src l.length l = some l := by
  induction l with
  | nil => rfl
  | cons a l ih =>
    change (if a.same src then _ else _) = _
    rw [h a List.mem_cons_self, if_neg Bool.false_ne_true,
      ih fun b hb => h b (List.mem_cons_of_mem _ hb)]
    rfl

theorem secondary_helloMsg (hu : 0 < (net.device u).nNumOfInterface) :
    secondaryOfHello (helloSource (net.device u)) (helloMsg (net.device u)) =
      some (net.device u).addresses.tail := by
  have htail : (net.device u).addresses.tail.length = (net.device u).nNumOfInterface - 1 := by
    rw [List.length_tail, addresses_length]
  by_cases hle : (net.device u).nNumOfInterface ≤ 1
  · have hlist : getAddrList (helloMsg (net.device u)) = none := by
      unfold helloMsg addAddresslistOption
      rw [if_pos hle]
      rfl
    unfold secondaryOfHello
    have hnil : (net.device u).addresses.tail = [] := by
      rw [← List.length_eq_zero_iff, htail]
      omega
    rw [hlist, hnil]
  · have hlist : getAddrList (helloMsg (net.device u)) =
        some ((net.device u).nNumOfInterface - 1, (net.device u).addresses) := by
      unfold helloMsg addAddresslistOption
      rw [if_neg hle]
      rfl
    obtain ⟨n, hn⟩ : ∃ n, (net.device u).nNumOfInterface - 1 = n + 1 :=
      Nat.exists_eq_succ_of_ne_zero (by omega)
    have hsame : (helloSource (net.device u)).same (helloSource (net.device u)) = true :=
      decide_eq_true rfl
    unfold secondaryOfHello
    rw [hlist]
    rw [addresses_eq hu, hn]
    change (if _ then _ else _) = _
    rw [hsame, if_pos rfl, ← hn, ← htail, List.tail_cons]
    exact secondaryAddresses_all fun a ha => not_same_of_mem_tail hu ha

theorem options_helloMsg (d : Device) :
    getHoldTime (helloMsg d) = none ∧ getDRPriority (helloMsg d) = some d.drPriority ∧
      getGenerationId (helloMsg d) = some d.genId ∧
      getLanPruneDelay (helloMsg d) =
        some (false, d.propagationDelay.toNat % 2 ^ 15, d.overrideInterval) := by
  unfold helloMsg addAddresslistOption
  split
  · exact ⟨rfl, rfl, rfl, rfl⟩
  · exact ⟨rfl, rfl, rfl, rfl⟩

variable {n : Neighbor}

theorem forget_hear (h : n.forget = recordOf d j) (timeout : ℚ) :
    (n.hear (helloMsg d) timeout).forget = n.forget := by
  obtain ⟨-, hpri, hgen, -⟩ := options_helloMsg d
  rw [h]
  unfold Neighbor.hear
  rw [hpri, hgen]
  simp only [Neighbor.forget, recordOf, Neighbor.mk.injEq] at h ⊢
  obtain ⟨h1, h2, -, -, -, -, -, h3, h4, h5, h6, h7⟩ := h
  simp [h1, h2, h3, h4, h5, h6, h7]

theorem forget_hearLan (h : n.forget = recordOf d j) :
    (n.hearLan (helloMsg d) d.addresses.tail).forget = n.forget := by
  obtain ⟨-, -, -, hlan⟩ := options_helloMsg d
  rw [h]
  unfold Neighbor.hearLan
  rw [hlan]
  simp only [Neighbor.forget, recordOf, Neighbor.mk.injEq] at h ⊢
  obtain ⟨h1, h2, h3, h4, h5, h6, -, -, -, -, -, -⟩ := h
  simp only [h1, h2, h3, h4, h5, h6, and_self]

theorem forget_hearLan_zeroed (d : Device) (timeout : ℚ) :
    (((Neighbor.zeroed (helloSource d) j).hear (helloMsg d) timeout).hearLan (helloMsg d)
      d.addresses.tail).forget = recordOf d j := by
  obtain ⟨-, hpri, hgen, hlan⟩ := options_helloMsg d
  unfold Neighbor.hear Neighbor.hearLan
  rw [hpri, hgen, hlan]
  rfl

def Neighbor.slot (neigh : Neighbor) : (IpAddress × UInt16 × Bool) × Nat :=
  (neigh.bid, neigh.incomingInterface)

theorem slot_hear_zeroed (d : Device) (timeout : ℚ) :
    ((Neighbor.zeroed (helloSource d) j).hear (helloMsg d) timeout).slot = (recordOf d j).slot := by
  obtain ⟨-, hpri, -, -⟩ := options_helloMsg d
  unfold Neighbor.hear Neighbor.slot Neighbor.bid
  rw [hpri]
  rfl

/-! ## Finding a neighbor -/

theorem hasAddress_recordOf {w k : Nat} (hw : 0 < (net.device w).nNumOfInterface)
    (hu : 0 < (net.device u).nNumOfInterface) :
    (recordOf (net.device w) k).hasAddress (helloSource (net.device u)) = true ↔ w = u := by
  constructor
  · intro h
    rcases Bool.or_eq_true_iff.1 h with h | h
    · exact (net.address_inj w 1 u 1 one_pos hw one_pos hu (of_decide_eq_true h)).1
    · obtain ⟨a, ha, hsame⟩ := List.any_eq_true.1 h
      obtain ⟨i, hi, hle, rfl⟩ := mem_addresses (List.mem_of_mem_tail ha)
      exact (net.address_inj u 1 w i one_pos hu hi hle (of_decide_eq_true hsame)).1.symm
  · rintro rfl
    exact Bool.or_eq_true_iff.2 (.inl (decide_eq_true rfl))

theorem Learnt.getElem? (hl : Learnt net var l) {i : Nat} (hn : var.neighborList[i]? = some n) :
    ∃ x ∈ l, n.forget = recordOf (net.device x.1) x.2 := by
  have hmap : (var.neighborList.map Neighbor.forget)[i]? = some n.forget := by
    rw [List.getElem?_map, hn]
    rfl
  rw [hl, List.getElem?_map, Option.map_eq_some_iff] at hmap
  obtain ⟨x, hx, heq⟩ := hmap
  exact ⟨x, List.mem_of_getElem? hx, heq.symm⟩

theorem findNeighbor_some (hl : Learnt net var l) (hp : Proper net l)
    (hu : 0 < (net.device u).nNumOfInterface) {i : Nat}
    (h : findNeighbor var (helloSource (net.device u)) = some i) :
    u ∈ l.map Prod.fst ∧
      ∀ n, var.neighborList[i]? = some n → ∃ k, n.forget = recordOf (net.device u) k := by
  obtain ⟨hi, hhas, -⟩ := List.findIdx?_eq_some_iff_getElem.1 h
  have hget := List.getElem?_eq_getElem hi
  obtain ⟨x, hx, heq⟩ := hl.getElem? hget
  have hsender : x.1 = u := by
    rw [← hasAddress_recordOf (hp.pos x hx) hu, ← heq]
    exact hhas
  refine ⟨List.mem_map.2 ⟨x, hx, hsender⟩, fun n hn => ⟨x.2, ?_⟩⟩
  rw [hget, Option.some.injEq] at hn
  rw [← hn, heq, hsender]

theorem findNeighbor_none (hl : Learnt net var l) (hu : 0 < (net.device u).nNumOfInterface)
    (h : findNeighbor var (helloSource (net.device u)) = none) : u ∉ l.map Prod.fst := by
  intro hmem
  obtain ⟨x, hx, rfl⟩ := List.mem_map.1 hmem
  have hrec : recordOf (net.device x.1) x.2 ∈ var.neighborList.map Neighbor.forget := by
    rw [hl]
    exact List.mem_map_of_mem hx
  obtain ⟨n, hn, heq⟩ := List.mem_map.1 hrec
  have hnot := List.findIdx?_eq_none_iff.1 h n hn
  have hhas := (hasAddress_recordOf (k := x.2) hu hu).2 rfl
  rw [← heq] at hhas
  exact absurd hhas (by rw [show n.forget.hasAddress _ = n.hasAddress _ from rfl, hnot]; exact nofun)

/-! ## One hello -/

theorem heard_spec (hl : Learnt net var l) (hp : Proper net l)
    (hu : 0 < (net.device u).nNumOfInterface) :
    ∃ i var', findOrCreateNeighbor var j (helloSource (net.device u)) = (i, var') ∧
      var'.dr = var.dr ∧ ∀ timeout,
      (var'.neighborList.modify i fun n => n.hear (helloMsg (net.device u)) timeout).map
          Neighbor.slot = ((learn l u j).map fun x => (recordOf (net.device x.1) x.2).slot) ∧
        ((var'.neighborList.modify i fun n => n.hear (helloMsg (net.device u)) timeout).modify i
          fun n => n.hearLan (helloMsg (net.device u)) (net.device u).addresses.tail).map
          Neighbor.forget = (learn l u j).map fun x => recordOf (net.device x.1) x.2 := by
  unfold findOrCreateNeighbor
  cases hfind : findNeighbor var (helloSource (net.device u)) with
  | some i =>
    obtain ⟨hmem, hrec⟩ := findNeighbor_some hl hp hu hfind
    refine ⟨i, var, rfl, rfl, fun timeout => ?_⟩
    have hforget : (var.neighborList.modify i fun n =>
        n.hear (helloMsg (net.device u)) timeout).map Neighbor.forget =
        var.neighborList.map Neighbor.forget := by
      refine map_modify_eq fun n hn => ?_
      obtain ⟨k, hk⟩ := hrec n hn
      exact forget_hear hk timeout
    have hlearn : learn l u j = l := if_pos hmem
    rw [hlearn]
    constructor
    · have hslot := congrArg (List.map Neighbor.slot) (hforget.trans hl)
      rw [List.map_map, List.map_map] at hslot
      exact hslot
    · refine Eq.trans (map_modify_eq fun n hn => ?_) (hforget.trans hl)
      rw [List.getElem?_modify_eq] at hn
      obtain ⟨n', hn', rfl⟩ := Option.map_eq_some_iff.1 hn
      obtain ⟨k, hk⟩ := hrec n' hn'
      exact forget_hearLan ((forget_hear hk timeout).trans hk)
  | none =>
    have hnot := findNeighbor_none hl hu hfind
    refine ⟨var.neighborList.length, createAndAddNeighbor var j (helloSource (net.device u)), rfl,
      rfl, fun timeout => ?_⟩
    have hlearn : learn l u j = l ++ [(u, j)] := if_neg hnot
    change ((var.neighborList ++ [Neighbor.zeroed (helloSource (net.device u)) j]).modify _ _).map _ =
      _ ∧ ((List.modify (var.neighborList ++ [Neighbor.zeroed (helloSource (net.device u)) j]) _
        _).modify _ _).map _ = _
    rw [modify_length_append, modify_length_append, hlearn, List.map_append, List.map_append,
      List.map_append, List.map_append]
    have hslot := congrArg (List.map Neighbor.slot) hl
    rw [List.map_map, List.map_map] at hslot
    refine ⟨congrArg₂ _ hslot ?_, congrArg₂ _ hl ?_⟩
    · exact congrArg (· :: []) (slot_hear_zeroed _ timeout)
    · exact congrArg (· :: []) (forget_hearLan_zeroed _ timeout)

theorem learn_proper (hp : Proper net l) (hu : 0 < (net.device u).nNumOfInterface) :
    Proper net (learn l u j) := by
  unfold learn
  split
  · exact hp
  · next hnot =>
    refine ⟨?_, fun x hx => ?_⟩
    · rw [List.map_append, List.nodup_append]
      refine ⟨hp.nodup, List.pairwise_singleton _ _, ?_⟩
      rintro a ha b hb rfl
      obtain rfl : a = u := List.mem_singleton.1 hb
      exact hnot ha
    · rcases List.mem_append.1 hx with hx | hx
      · exact hp.pos x hx
      · rw [List.mem_singleton.1 hx]
        exact hu

theorem bids_of_slots {ns : List Neighbor} {l : List Entry}
    (h : ns.map Neighbor.slot = l.map fun x => (recordOf (net.device x.1) x.2).slot) :
    (ns.filter fun n => n.incomingInterface = j).map Neighbor.bid =
      ((sendersOn j l).map fun u => recordOf (net.device u) j).map Neighbor.bid := by
  have hfilter := congrArg (fun s => (s.filter fun x => x.2 = j).map Prod.fst) h
  simp only [List.filter_map, List.map_map] at hfilter
  rw [sendersOn, List.map_map, List.map_map]
  exact hfilter

theorem process_spec (hl : Learnt net var l) (hp : Proper net l)
    (hu : 0 < (net.device u).nNumOfInterface) (dEventTime : ℚ) :
    (sendersOn j (learn l u j) = [] →
      processPimHelloPacket (net.device v) var j (helloSource (net.device u))
        (helloMsg (net.device u)) dEventTime = none) ∧
    (sendersOn j (learn l u j) ≠ [] →
      ∃ var', processPimHelloPacket (net.device v) var j (helloSource (net.device u))
          (helloMsg (net.device u)) dEventTime = some var' ∧
        Learnt net var' (learn l u j) ∧
        var'.dr = update var.dr j
          (some (net.elected v j (sendersOn j (learn l u j))))) := by
  obtain ⟨i, var1, hfind, hdr, hheard⟩ := heard_spec (j := j) hl hp hu
  unfold processPimHelloPacket
  rw [hfind]
  dsimp only
  generalize hvar : (if (var1.neighborList[i]?).any Neighbor.isTimeoutAdded then var1
    else addTimeoutEvent var1 _ _) = var2
  have hlist : var2.neighborList = var1.neighborList ∧ var2.dr = var1.dr := by
    rw [← hvar]
    split
    · exact ⟨rfl, rfl⟩
    · exact ⟨rfl, rfl⟩
  obtain ⟨hslots, hforget⟩ :=
    hheard (dEventTime + neighborTime (net.device v) (helloMsg (net.device u)))
  rw [← hlist.1] at hslots hforget
  have hbids := bids_of_slots (j := j) hslots
  have hsecondary := secondary_helloMsg hu
  unfold electDR getAllNeighForInterface
  constructor
  · intro hnil
    rw [hnil] at hbids
    have hempty := List.map_eq_nil_iff.1 hbids
    rw [hempty]
    rfl
  · intro hne
    cases hfilter : (var2.neighborList.modify i fun n => n.hear (helloMsg (net.device u))
        (dEventTime + neighborTime (net.device v) (helloMsg (net.device u)))).filter
        fun n => n.incomingInterface = j with
    | nil =>
      rw [hfilter] at hbids
      have hempty := List.map_eq_nil_iff.1 (List.map_eq_nil_iff.1 hbids.symm)
      exact absurd hempty hne
    | cons n ns =>
      rw [hfilter] at hbids
      have hbest : (bestDR (me (net.device v) j) (n :: ns)).bid =
          (bestDR (me (net.device v) j) ((sendersOn j (learn l u j)).map
            fun u => recordOf (net.device u) j)).bid := bestDR_congr rfl hbids
      rw [hsecondary]
      refine ⟨_, rfl, hforget, ?_⟩
      rw [hlist.2, hdr]
      exact congrArg (fun b => update var.dr j (some b.1)) hbest

theorem sendersOn_learn_of_ne {k : Nat} (hk : k ≠ j) :
    sendersOn k (learn l u j) = sendersOn k l := by
  unfold sendersOn learn
  split
  · rfl
  · rw [List.filter_append, List.filter_cons_of_neg (by simpa using hk.symm), List.filter_nil,
      List.append_nil]

end Hello

/-! ## Runs -/

section Runs

variable {net : Network} {tr : List (Network.State × HelloArrival net)} {s : Network.State}

theorem HelloArrival.pos (h : HelloArrival net) : 0 < (net.device h.sender).nNumOfInterface := by
  rcases h.arrives with ⟨hu, -, -, -⟩ | hreach
  · exact (net.lan_pos _ hu).trans_le (net.lan_le _ hu)
  · exact net.reaches_pos _ _ _ hreach

structure Knows (net : Network) (v : Nat) (var : PimVar) (l : List Entry) : Prop where
  learnt : Learnt net var l
  proper : Proper net l
  dr : ∀ j, var.dr j =
    if sendersOn j l = [] then none else some (net.elected v j (sendersOn j l))

theorem step_spec {h : HelloArrival net} {l : List Entry}
    (hs : Knows net h.receiver (s h.receiver) l) :
    (sendersOn h.ifid (learn l h.sender h.ifid) = [] → net.step s h = none) ∧
    (sendersOn h.ifid (learn l h.sender h.ifid) ≠ [] →
      ∃ var, net.step s h = some (update s h.receiver var) ∧
        Knows net h.receiver var (learn l h.sender h.ifid)) := by
  obtain ⟨hnone, hsome⟩ := process_spec (v := h.receiver) (j := h.ifid) hs.learnt hs.proper h.pos
    h.dEventTime
  unfold Network.step
  constructor
  · intro hnil
    rw [hnone hnil]
    rfl
  · intro hne
    obtain ⟨var, hvar, hl, hdr⟩ := hsome hne
    rw [hvar]
    refine ⟨var, rfl, hl, learn_proper hs.proper h.pos, fun j => ?_⟩
    rw [hdr]
    by_cases hj : j = h.ifid
    · subst hj
      rw [update_self, if_neg hne]
    · rw [update_of_ne hj, hs.dr, sendersOn_learn_of_ne hj]

theorem run_spec (run : Run net.step Network.init tr s) (v : Nat) :
    Knows net v (s v) (learnt v (tr.map Prod.snd)) := by
  induction run with
  | nil => exact ⟨rfl, ⟨List.nodup_nil, nofun⟩, fun _ => rfl⟩
  | @snoc tr s s' h _ hstep ih =>
    by_cases hv : h.receiver = v
    · subst hv
      have hlearnt : learnt h.receiver (((s, h) :: tr).map Prod.snd) =
          learn (learnt h.receiver (tr.map Prod.snd)) h.sender h.ifid := if_pos rfl
      obtain ⟨hnone, hsome⟩ := step_spec ih
      rw [hlearnt]
      by_cases hnil :
          sendersOn h.ifid (learn (learnt h.receiver (tr.map Prod.snd)) h.sender h.ifid) = []
      · rw [hnone hnil] at hstep
        cases hstep
      · obtain ⟨var, hvar, hknows⟩ := hsome hnil
        rw [hvar, Option.some.injEq] at hstep
        rw [← hstep, update_self]
        exact hknows
    · have hlearnt : learnt v (((s, h) :: tr).map Prod.snd) = learnt v (tr.map Prod.snd) :=
        if_neg hv
      obtain ⟨var, -, hs'⟩ := Option.map_eq_some_iff.1 hstep
      rw [hlearnt, ← hs', update_of_ne (Ne.symm hv)]
      exact ih

end Runs

end NetSim.Pim
