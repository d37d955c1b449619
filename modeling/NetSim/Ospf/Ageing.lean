import NetSim.Ospf.MaxAge
import NetSim.Ospf.SelfOriginated

/-!
# Ageing and refreshing (`OSPF_LSDB.c`, `OSPF_LSA.c`)

The router's own LSAs are refreshed when their age is `LSRefreshTime` and no other, so an age that
steps over it is missed. What is refreshed is flooded without a source address, and reaches no
neighbour.
-/

namespace NetSim.Ospf

open NetSim.Lib

/-- The bit `DoNotAge` is set. -/
def Lsa.doNotAgeBit (lsa : Lsa) : Prop := lsa.LSAge / doNotAge % 2 = 1
deriving Decidable

def Lsa.instanceKey (lsa : Lsa) : LsType × (Nat × Nat) × UInt32 :=
  (lsa.LSType, lsa.key, lsa.LSSequenceNumber)

/-- `ospf_LSDB_IncrementLSAgeInLSAList` takes the LSA for one of the router's own. -/
def Config.isOwn (cfg : Config) (lsa : Lsa) : Prop :=
  lsa.AdvertisingRouter.int_ip = cfg.routerId.int_ip

/-- An age of 16 bits, at most `LSAMaxAge`. -/
structure Config.AgeWithin (cfg : Config) (lsa : Lsa) : Prop where
  fits : lsa.LSAge < 2 ^ 16
  le : cfg.maskDoNotAge lsa.LSAge ≤ cfg.LSAMaxAge

/-- `LSAMaxAge` is a `UINT16`, and leaves the bit `DoNotAge` free where it has a meaning. -/
structure Config.BitFree (cfg : Config) : Prop where
  fits : cfg.LSAMaxAge < 2 ^ 16
  bit : cfg.supportDC = true → cfg.LSAMaxAge < doNotAge

/-! ## Runs -/

/-- A tick, a flood or an installation. -/
inductive AgeEvent
  | tick (now current : Nat)
  | flood (cause : FloodCause) (a : Nat) (lsa : Lsa) (srcAddr : IpPtr) (current inId : Nat)
  | install (now a : Nat) (lsa : Lsa)

def ageStep (cfg : Config) (r : Router) : AgeEvent → Option Router
  | .tick now current => r.incrementAge cfg now current
  | .flood cause a lsa srcAddr current inId =>
    (r.flood cfg cause a lsa srcAddr current inId).map Prod.fst
  | .install now a lsa => (r.install cfg now a lsa).map Prod.fst

namespace Router

/-- No neighbour in the area is in `Exchange` or further. -/
def NoneAdjacent (r : Router) (areaId : Ip) : Prop :=
  ∀ inter ∈ r.ospfIf, inter.State ≠ .down → inter.areaId.int_ip = areaId.int_ip →
    ∀ neigh ∈ inter.neighborRouterList, neigh.state.toNat < NeighState.exchange.toNat

def FloodedToAll (r : Router) (areaId : Ip) (lsa : Lsa) : Prop :=
  ∀ inter ∈ r.ospfIf, inter.State ≠ .down → inter.areaId.int_ip = areaId.int_ip →
    ∀ neigh ∈ inter.neighborRouterList, NeighState.exchange.toNat ≤ neigh.state.toNat →
      lsa ∈ neigh.neighLSRxtList

def AgesWithin (cfg : Config) (r : Router) : Prop :=
  ∀ a t idx lsa, r.lsaAt a t idx = some lsa → cfg.AgeWithin lsa

def ExpiredOnce (r r' : Router) (a : Nat) (lsa : Lsa) : Prop :=
  (∃ f : Flooded, f.IsOf .age a lsa ∧ r'.floods = f :: r.floods) ∧
    ∃ area b area', r.area? a = some area ∧ r'.areaGetId area.areaId = some b ∧
      r'.area? b = some area' ∧ (area'.maxAgeList.map Lsa.instanceKey).count lsa.instanceKey = 1

def Refreshed (now : Nat) (r r' : Router) (a : Nat) (lsa lsa' : Lsa) : Prop :=
  lsa' = { lsa with LSSequenceNumber := lsa.LSSequenceNumber + 1, LSAge := 0, time := now } ∧
    (∃ f : Flooded, f.IsOf .refresh a lsa' ∧ r'.floods = f :: r.floods) ∧
      ∃ area, r.area? a = some area ∧ r'.FloodedToAll area.areaId lsa'

/-- What a tick should do to an LSA: with `DoNotAge` it keeps its age; one of the router's own is
refreshed at `LSRefreshTime`; one that expires is flooded and queued. -/
structure AgesRight (cfg : Config) (now : Nat) (r r' : Router) (a : Nat) (lsa lsa' : Lsa) :
    Prop where
  doNotAge : lsa.doNotAgeBit → lsa'.LSAge = lsa.LSAge
  own : cfg.isOwn lsa → cfg.hasMaxAge lsa = false → cfg.hasMaxAge lsa' = false ∧
    (cfg.LSRefreshTime ≤ incrementedAge cfg lsa * second → Refreshed now r r' a lsa lsa')
  expired : cfg.hasMaxAge lsa = false → cfg.hasMaxAge lsa' = true → ExpiredOnce r r' a lsa'

def TurnRight (cfg : Config) (now : Nat) (r : Router) (place : Nat × LsType × Nat) (r' : Router) :
    Prop :=
  ∃ lsa lsa', r.lsaAt place.1 place.2.1 place.2.2 = some lsa ∧
    r'.lsaAt place.1 place.2.1 place.2.2 = some lsa' ∧ AgesRight cfg now r r' place.1 lsa lsa'

/-- `DoNotAge` is supported; one of the router's own does not step over `LSRefreshTime`, and has a
number left, not the bit, and no neighbour to go to when it meets it. -/
structure LsaOk (cfg : Config) (r : Router) (a : Nat) (lsa : Lsa) : Prop where
  bit : lsa.doNotAgeBit → cfg.supportDC = true
  own : cfg.isOwn lsa → cfg.hasMaxAge lsa = false →
    incrementedAge cfg lsa * second ≤ cfg.LSRefreshTime ∧
      (incrementedAge cfg lsa * second = cfg.LSRefreshTime → ¬lsa.doNotAgeBit ∧
        lsa.LSSequenceNumber ≠ maxSequenceNumber ∧
          ∀ area, r.area? a = some area → r.NoneAdjacent area.areaId)

end Router

/-- What a step has to meet: an LSA is installed with an age within the limit. -/
def AgeStepOk (cfg : Config) (r : Router) : AgeEvent → Prop
  | .tick _ _ => ∀ a t idx lsa, r.lsaAt a t idx = some lsa → Router.LsaOk cfg r a lsa
  | .flood _ _ _ _ _ _ => True
  | .install _ _ lsa => cfg.AgeWithin lsa

def AgeStepRight (cfg : Config) (r : Router) : AgeEvent → Prop
  | .tick now current =>
    EachTurn (Router.incrementLSAge cfg now current) (fun _ => false) (Router.TurnRight cfg now) r
      r.places
  | .flood _ _ _ _ _ _ => True
  | .install _ _ _ => True

/-! ## Ages -/

namespace Config

variable {cfg : Config} {lsa : Lsa}

theorem checkForDoNotAge_eq_false (h : ¬lsa.doNotAgeBit) :
    cfg.checkForDoNotAge lsa.LSAge = false := by
  unfold Lsa.doNotAgeBit at h
  simp [checkForDoNotAge, h]

theorem checkForDoNotAge_eq_true (h : lsa.doNotAgeBit) (hdc : cfg.supportDC = true) :
    cfg.checkForDoNotAge lsa.LSAge = true := by
  unfold Lsa.doNotAgeBit at h
  simp [checkForDoNotAge, h, hdc]

theorem BitFree.mask (h : cfg.BitFree) {age : Nat} (hage : age ≤ cfg.LSAMaxAge) :
    cfg.maskDoNotAge age = age := by
  unfold maskDoNotAge checkForDoNotAge
  cases hdc : cfg.supportDC with
  | false => simp
  | true =>
    have hlt := h.bit hdc
    rw [Nat.div_eq_of_lt (by omega)]
    simp

theorem incrementedAge_le (cfg : Config) (lsa : Lsa) :
    Router.incrementedAge cfg lsa ≤ cfg.LSAMaxAge := Nat.min_le_right ..

theorem doNotAge_or (h : lsa.LSAge < 2 ^ 16) (hbit : lsa.doNotAgeBit) :
    doNotAge ||| lsa.LSAge % doNotAge = lsa.LSAge := by
  unfold Lsa.doNotAgeBit at hbit
  have hmod : lsa.LSAge % doNotAge < 2 ^ 15 := Nat.mod_lt _ (by decide)
  have hadd : doNotAge ||| lsa.LSAge % doNotAge = doNotAge + lsa.LSAge % doNotAge :=
    (Nat.two_pow_add_eq_or_of_lt hmod 1).symm
  rw [hadd]
  unfold doNotAge at hbit hmod ⊢
  omega

theorem assign_of_bit (hage : cfg.AgeWithin lsa) (hbit : lsa.doNotAgeBit)
    (hdc : cfg.supportDC = true) :
    cfg.assignNewLSAge lsa.LSAge (Router.incrementedAge cfg lsa) = lsa.LSAge := by
  have hcheck := checkForDoNotAge_eq_true hbit hdc
  have hle := hage.le
  unfold Router.incrementedAge assignNewLSAge
  dsimp only
  rw [if_pos hcheck, if_pos hcheck, Nat.min_eq_left hle, maskDoNotAge, if_pos hcheck]
  exact doNotAge_or hage.fits hbit

theorem assign_of_no_bit (hbit : ¬lsa.doNotAgeBit) (age : Nat) :
    cfg.assignNewLSAge lsa.LSAge age = age := by
  unfold assignNewLSAge
  rw [checkForDoNotAge_eq_false hbit, if_neg (by decide)]

end Config

theorem Config.compareToListMem_of_expired {cfg : Config} {old new : Lsa}
    (hold : cfg.hasMaxAge old = true) (hnew : cfg.hasMaxAge new = true) :
    cfg.compareToListMem old new = true ↔ old.instanceKey = new.instanceKey := by
  have holdAge : cfg.maskDoNotAge old.LSAge = cfg.LSAMaxAge := beq_iff_eq.1 hold
  have hnewAge : cfg.maskDoNotAge new.LSAge = cfg.LSAMaxAge := beq_iff_eq.1 hnew
  have hdiff : cfg.diffOfAge new.LSAge old.LSAge = 0 := by
    rw [diffOfAge, holdAge, hnewAge, Int.sub_self]
    rfl
  have hcompare : cfg.lsaCompare old new = 0 ↔ old.LSSequenceNumber = new.LSSequenceNumber := by
    unfold lsaCompare
    rw [hdiff, holdAge, hnewAge]
    simp only [Nat.lt_irrefl, and_false, if_false]
    split
    · next hlt => exact iff_of_false (by decide) (fun h => absurd hlt (h ▸ UInt32.lt_irrefl _))
    · next hle =>
      split
      · next hlt => exact iff_of_false (by decide) (fun h => absurd hlt (h ▸ UInt32.lt_irrefl _))
      · next hge =>
        exact iff_of_true rfl (UInt32.le_antisymm (UInt32.not_lt.1 hge) (UInt32.not_lt.1 hle))
  unfold compareToListMem Lsa.sameLsa Lsa.instanceKey
  rw [Bool.and_eq_true, Bool.and_eq_true, beq_iff_eq, beq_iff_eq, Lsa.sameId_iff, hcompare]
  simp only [Prod.mk.injEq, and_assoc]

namespace Router

variable {cfg : Config} {now current : Nat} {r r' : Router}

/-! ## The queue of an area -/

/-- The queued LSAs have expired, and no instance is queued twice. -/
structure QueueRight (cfg : Config) (r : Router) : Prop where
  expired : ∀ q ∈ r.queues, ∀ lsa ∈ q.2, cfg.hasMaxAge lsa = true
  nodup : ∀ q ∈ r.queues, (q.2.map Lsa.instanceKey).Nodup

theorem QueueRight.of_queues (h : r.QueueRight cfg) (hqueues : r'.queues = r.queues) :
    r'.QueueRight cfg := by
  constructor
  · rw [hqueues]
    exact h.expired
  · rw [hqueues]
    exact h.nodup

theorem flood_frame {cause : FloodCause} {a : Nat} {lsa : Lsa} {srcAddr : IpPtr} {inId : Nat}
    {x : Router × Bool} (h : r.flood cfg cause a lsa srcAddr current inId = some x) :
    x.1.lsdbList = r.lsdbList ∧ x.1.queues = r.queues ∧
      ∃ f : Flooded, f.IsOf cause a lsa ∧ x.1.floods = f :: r.floods := by
  obtain ⟨f, hf, hquiet⟩ := flood_quiet h
  refine ⟨hquiet.sameLsdb.lists, ?_, f, hf, hquiet.floods⟩
  rw [KeepsQueue.queues_eq, KeepsQueue.queues_eq, hquiet.areas]

theorem queues_getElem? (r : Router) (b : Nat) :
    r.queues[b]? = (r.area? b).map fun area => (area.areaId.int_ip, area.maxAgeList) := by
  rw [queues, List.getElem?_map, area?]

theorem areaGetId_queues (r : Router) (areaId : Ip) :
    r.areaGetId areaId = (r.queues.map Prod.fst).findIdx? (· == areaId.int_ip) := by
  rw [queues, List.map_map, List.findIdx?_map]
  rfl

theorem addToMaxAgeLSAList_once {areaId : Ip} {lsa : Lsa} (hq : r.QueueRight cfg)
    (hlsa : cfg.hasMaxAge lsa = true) (h : r.addToMaxAgeLSAList cfg areaId lsa = some r') :
    r'.QueueRight cfg ∧ r'.ospfIf = r.ospfIf ∧ r'.queues.map Prod.fst = r.queues.map Prod.fst ∧
      ∃ b area', r'.areaGetId areaId = some b ∧ r'.area? b = some area' ∧
        (area'.maxAgeList.map Lsa.instanceKey).count lsa.instanceKey = 1 := by
  simp only [Router.addToMaxAgeLSAList, Option.bind_eq_bind, Option.bind_eq_some_iff] at h
  obtain ⟨b, hb, area, harea, h⟩ := h
  have hmem : (area.areaId.int_ip, area.maxAgeList) ∈ r.queues :=
    List.mem_of_getElem? ((queues_getElem? r b).trans (by rw [harea]; rfl))
  have hexpired := hq.expired _ hmem
  have hpresent : isPresentInMaxAgeList cfg lsa area.maxAgeList = true ↔
      lsa.instanceKey ∈ area.maxAgeList.map Lsa.instanceKey := by
    simp only [isPresentInMaxAgeList, List.any_eq_true, List.mem_map]
    refine exists_congr fun hdr => and_congr_right fun hhdr => ?_
    rw [Config.compareToListMem_of_expired hlsa (hexpired hdr hhdr), eq_comm]
  split at h
  · next hin =>
    cases h
    exact ⟨hq, rfl, rfl, b, area, hb, harea,
      List.count_eq_one_of_mem (hq.nodup _ hmem) (hpresent.1 hin)⟩
  · next hout =>
    have hnew := mt hpresent.2 hout
    let add := fun area : Area => { area with maxAgeList := area.maxAgeList ++ [lsa] }
    have hr' : r'.areaDS = (r.modifyArea b add).areaDS ∧ r'.ospfIf = r.ospfIf := by
      rw [Option.some.injEq] at h
      rw [← h]
      split <;> exact ⟨rfl, rfl⟩
    have hqueues : ∀ i, r'.queues[i]? =
        if i = b then some (area.areaId.int_ip, area.maxAgeList ++ [lsa]) else r.queues[i]? := by
      intro i
      rw [queues_getElem?, queues_getElem?, area?, hr'.1]
      rw [show (r.modifyArea b add).areaDS[i]? = _ from area?_modifyArea b i add]
      split
      · next hi => rw [harea]; rfl
      · rfl
    have hids : r'.queues.map Prod.fst = r.queues.map Prod.fst := by
      refine List.ext_getElem? fun i => ?_
      rw [List.getElem?_map, List.getElem?_map, hqueues]
      split
      · next hi => rw [hi, queues_getElem?, harea]; rfl
      · rfl
    have hcount : ((area.maxAgeList ++ [lsa]).map Lsa.instanceKey).Nodup := by
      rw [List.map_append, List.map_singleton, ← List.concat_eq_append, List.nodup_concat]
      exact ⟨hnew, hq.nodup _ hmem⟩
    refine ⟨⟨?_, ?_⟩, hr'.2, hids, b, add area, ?_, ?_, ?_⟩
    · intro q hq' x hx
      obtain ⟨i, hi⟩ := List.mem_iff_getElem?.1 hq'
      rw [hqueues] at hi
      split at hi
      · cases hi
        rcases List.mem_append.1 hx with hx | hx
        · exact hexpired x hx
        · exact List.mem_singleton.1 hx ▸ hlsa
      · exact hq.expired q (List.mem_of_getElem? hi) x hx
    · intro q hq'
      obtain ⟨i, hi⟩ := List.mem_iff_getElem?.1 hq'
      rw [hqueues] at hi
      split at hi
      · cases hi
        exact hcount
      · exact hq.nodup q (List.mem_of_getElem? hi)
    · rw [areaGetId_queues, hids, ← areaGetId_queues]
      exact hb
    · rw [area?, hr'.1]
      exact (area?_modifyArea b b add).trans (by rw [if_pos rfl, harea]; rfl)
    · exact List.count_eq_one_of_mem hcount
        (List.mem_map_of_mem (List.mem_append_right _ (List.mem_singleton_self lsa)))

/-! ## Neighbours that are not adjacent -/

end Router

structure Interface.StaysDistant (inter inter' : Interface) : Prop where
  state : inter'.State = inter.State
  areaId : inter'.areaId = inter.areaId
  distant : (∀ neigh ∈ inter.neighborRouterList, neigh.state.toNat < NeighState.exchange.toNat) →
    ∀ neigh ∈ inter'.neighborRouterList, neigh.state.toNat < NeighState.exchange.toNat

namespace Interface

variable {cfg : Config} {inter : Interface}

theorem StaysDistant.refl (inter : Interface) : StaysDistant inter inter := ⟨rfl, rfl, fun h => h⟩

theorem StaysDistant.trans {inter' inter'' : Interface} (h : StaysDistant inter inter')
    (h' : StaysDistant inter' inter'') : StaysDistant inter inter'' :=
  ⟨h'.state.trans h.state, h'.areaId.trans h.areaId, h'.distant ∘ h.distant⟩

theorem staysDistant_map {f : Neighbor → Neighbor}
    (h : ∀ neigh : Neighbor, neigh.state.toNat < NeighState.exchange.toNat →
      (f neigh).state.toNat < NeighState.exchange.toNat) (inter : Interface) :
    StaysDistant inter { inter with neighborRouterList := inter.neighborRouterList.map f } := by
  refine ⟨rfl, rfl, fun hdistant neigh hneigh => ?_⟩
  obtain ⟨old, hold, rfl⟩ := List.mem_map.1 hneigh
  exact h old (hdistant old hold)

theorem staysDistant_queueFlooded {lsa : Lsa} {src : Ip} {inId : Nat} {isLoadingDone : Bool}
    {flooded : InterfaceFlood}
    (h : inter.queueFlooded cfg lsa src inId isLoadingDone = some flooded) :
    StaysDistant inter flooded.inter := by
  unfold queueFlooded at h
  dsimp only at h
  split at h
  · split at h
    · cases h
    · cases h
      exact .refl inter
    · split at h <;> cases h <;> exact ⟨rfl, rfl, fun h => h⟩
  · cases h
    exact ⟨rfl, rfl, fun h => h⟩

theorem staysDistant_floodStep {area : Ip} {lsa : Lsa} {srcAddr : IpPtr} {inId : Nat}
    {flooded : InterfaceFlood} (h : inter.floodStep cfg area lsa srcAddr inId = some flooded) :
    StaysDistant inter flooded.inter := by
  unfold floodStep at h
  split at h
  · cases h
    exact .refl inter
  have hneighbors := staysDistant_map
    (f := fun neigh => (neigh.floodStep cfg lsa srcAddr).neigh) (fun neigh hneigh => by
      rw [Neighbor.floodStep, if_pos hneigh]
      exact hneigh) inter
  dsimp only at h
  rw [List.map_map] at h
  split at h
  · split at h
    · exact hneighbors.trans (staysDistant_queueFlooded h)
    · cases h
      exact hneighbors
  · cases h
    exact hneighbors

end Interface

namespace Router

variable {cfg : Config} {now current : Nat} {r r' : Router}

theorem staysDistant_floodLoop {area : Ip} {lsa : Lsa} {srcAddr : IpPtr} {inId : Nat}
    {interfaces : List Interface} {flooded : List InterfaceFlood}
    (h : floodLoop cfg area lsa srcAddr inId interfaces = some flooded) :
    ∀ inter' ∈ flooded.map InterfaceFlood.inter,
      ∃ inter ∈ interfaces, inter.StaysDistant inter' := by
  induction interfaces generalizing flooded with
  | nil =>
    cases h
    intro inter' hinter'
    cases hinter'
  | cons inter rest ih =>
    rw [floodLoop] at h
    split at h
    · next first others hfirst hothers =>
      cases h
      rw [List.map_cons, List.forall_mem_cons]
      refine ⟨⟨inter, List.mem_cons_self, Interface.staysDistant_floodStep hfirst⟩,
        fun inter' hinter' => ?_⟩
      obtain ⟨old, hold, hstays⟩ := ih hothers inter' hinter'
      exact ⟨old, List.mem_cons_of_mem _ hold, hstays⟩
    · cases h

theorem NoneAdjacent.of_stays {areaId : Ip} (h : r.NoneAdjacent areaId)
    (hstays : ∀ inter' ∈ r'.ospfIf, ∃ inter ∈ r.ospfIf, inter.StaysDistant inter') :
    r'.NoneAdjacent areaId := by
  intro inter' hinter' hup harea
  obtain ⟨inter, hinter, hstay⟩ := hstays inter' hinter'
  rw [hstay.state] at hup
  rw [hstay.areaId] at harea
  exact hstay.distant (h inter hinter hup harea)

theorem NoneAdjacent.flood {areaId : Ip} {cause : FloodCause} {a : Nat} {lsa : Lsa}
    {srcAddr : IpPtr} {inId : Nat} {x : Router × Bool} (hnone : r.NoneAdjacent areaId)
    (h : r.flood cfg cause a lsa srcAddr current inId = some x) : x.1.NoneAdjacent areaId := by
  simp only [Router.flood, Option.bind_eq_bind, Option.bind_eq_some_iff] at h
  obtain ⟨area, -, flooded, hflooded, h⟩ := h
  have hremoved : (r.removeFromRxtList area.areaId lsa).NoneAdjacent areaId := by
    refine hnone.of_stays fun inter' hinter' => ?_
    obtain ⟨inter, hinter, rfl⟩ := List.mem_map.1 hinter'
    refine ⟨inter, hinter, ?_⟩
    split
    · refine Interface.staysDistant_map (fun neigh hneigh => ?_) inter
      unfold Neighbor.removeFromRxtList
      dsimp only
      split <;> exact hneigh
    · exact .refl inter
  have hall : ({ r with ospfIf := flooded.map InterfaceFlood.inter } : Router).NoneAdjacent _ :=
    hremoved.of_stays (staysDistant_floodLoop hflooded)
  split at h
  · obtain ⟨r1, hr1, rfl⟩ := Option.map_eq_some_iff.1 h
    simp only [changeFull, Option.bind_eq_some_iff] at hr1
    obtain ⟨b, -, hr1⟩ := hr1
    unfold scheduleRouterLSA at hr1
    split at hr1
    · cases hr1
    · split at hr1 <;> cases hr1 <;> exact hall
  · cases h
    exact hall

/-! ## A turn -/

theorem lsaAt_congr (h : r'.lsdbList = r.lsdbList) : r'.lsaAt = r.lsaAt := by
  funext a t idx
  rw [lsaAt, lsaAt, h]

theorem lsaAt_modifyLsa_of_ne {a : Nat} {t : LsType} {idx : Nat} {lsa : Lsa} {f : Lsa → Lsa}
    (hlsa : r.lsaAt a t idx = some lsa) {b : Nat} {u : LsType} {j : Nat}
    (hne : (b, u, j) ≠ (a, t, idx)) : (r.modifyLsa a t idx f).lsaAt b u j = r.lsaAt b u j := by
  obtain ⟨list, hlist, -⟩ := Option.bind_eq_some_iff.1 hlsa
  rw [lsaAt, lsaAt, lsdbList_modifyLsa hlist]
  split
  · next hbu =>
    obtain ⟨rfl, rfl⟩ := hbu
    rw [hlist, Option.bind_some, Option.bind_some, List.getElem?_modify_ne]
    rintro rfl
    exact hne rfl
  · rfl

theorem queues_modifyLsa (r : Router) (a : Nat) (t : LsType) (idx : Nat) (f : Lsa → Lsa) :
    (r.modifyLsa a t idx f).queues = r.queues := by
  refine map_modify (fun area => ?_) a r.areaDS
  split
  · rfl
  · cases t <;> rfl

structure TurnFrame (r : Router) (place : Nat × LsType × Nat) (r' : Router) : Prop where
  others : ∀ p : Nat × LsType × Nat, p ≠ place → r'.lsaAt p.1 p.2.1 p.2.2 = r.lsaAt p.1 p.2.1 p.2.2
  areaIds : r'.queues.map Prod.fst = r.queues.map Prod.fst
  adjacent : ∀ areaId, r.NoneAdjacent areaId → r'.NoneAdjacent areaId

def aged (cfg : Config) (lsa : Lsa) : Lsa :=
  { lsa with LSAge := cfg.assignNewLSAge lsa.LSAge (incrementedAge cfg lsa) }

section Turn

variable {lsa : Lsa} {a : Nat} {t : LsType} {idx : Nat}

theorem mask_aged (hbits : cfg.BitFree) (hage : cfg.AgeWithin lsa)
    (hbit : lsa.doNotAgeBit → cfg.supportDC = true) :
    cfg.maskDoNotAge (aged cfg lsa).LSAge = incrementedAge cfg lsa := by
  unfold aged
  by_cases h : lsa.doNotAgeBit
  · rw [Config.assign_of_bit hage h (hbit h)]
    unfold incrementedAge
    dsimp only
    rw [if_pos (Config.checkForDoNotAge_eq_true h (hbit h)), Nat.min_eq_left hage.le]
  · rw [Config.assign_of_no_bit h]
    exact hbits.mask (Config.incrementedAge_le cfg lsa)

theorem ageWithin_aged (hbits : cfg.BitFree) (hage : cfg.AgeWithin lsa)
    (hbit : lsa.doNotAgeBit → cfg.supportDC = true) : cfg.AgeWithin (aged cfg lsa) := by
  refine ⟨?_, ?_⟩
  · unfold aged
    by_cases h : lsa.doNotAgeBit
    · rw [Config.assign_of_bit hage h (hbit h)]
      exact hage.fits
    · rw [Config.assign_of_no_bit h]
      exact Nat.lt_of_le_of_lt (Config.incrementedAge_le cfg lsa) hbits.fits
  · rw [mask_aged hbits hage hbit]
    exact Config.incrementedAge_le cfg lsa

theorem hasMaxAge_aged (hbits : cfg.BitFree) (hage : cfg.AgeWithin lsa)
    (hbit : lsa.doNotAgeBit → cfg.supportDC = true) :
    cfg.hasMaxAge (aged cfg lsa) = true ↔ incrementedAge cfg lsa = cfg.LSAMaxAge := by
  rw [Config.hasMaxAge, mask_aged hbits hage hbit, beq_iff_eq]

theorem hasMaxAge_aged_own (hbits : cfg.BitFree)
    (hrefresh : cfg.LSRefreshTime < cfg.LSAMaxAge * second) (hage : cfg.AgeWithin lsa) (hok : LsaOk cfg r a lsa) (hown : cfg.isOwn lsa)
    (hlive : cfg.hasMaxAge lsa = false) : cfg.hasMaxAge (aged cfg lsa) = false := by
  have hle := (hok.own hown hlive).1
  refine Bool.eq_false_iff.2 fun h => ?_
  rw [(hasMaxAge_aged hbits hage hok.bit).1 h] at hle
  omega

theorem doNotAge_aged (hage : cfg.AgeWithin lsa) (hbit : lsa.doNotAgeBit → cfg.supportDC = true)
    (h : lsa.doNotAgeBit) : (aged cfg lsa).LSAge = lsa.LSAge :=
  Config.assign_of_bit hage h (hbit h)

inductive Turn (cfg : Config) (now current : Nat) (r : Router) (a : Nat) (t : LsType) (idx : Nat)
    (lsa : Lsa) (r' : Router) : Prop
  | expired (h : cfg.hasMaxAge lsa = true) (hr' : r' = r)
  | refresh (h : cfg.hasMaxAge lsa = false) (hown : cfg.isOwn lsa)
      (hage : incrementedAge cfg lsa * second = cfg.LSRefreshTime)
      (hr' : (r.modifyLsa a t idx fun _ => aged cfg lsa).refreshLSA cfg now current a t idx =
        some r')
  | expires (h : cfg.hasMaxAge lsa = false) (hage : incrementedAge cfg lsa = cfg.LSAMaxAge)
      (hnot : ¬(cfg.isOwn lsa ∧ incrementedAge cfg lsa * second = cfg.LSRefreshTime))
      (hr' : ∃ area x, (r.modifyLsa a t idx fun _ => aged cfg lsa).area? a = some area ∧
        (r.modifyLsa a t idx fun _ => aged cfg lsa).flood cfg .age a (aged cfg lsa)
          (some cfg.anyDest) current 0 = some x ∧
        x.1.addToMaxAgeLSAList cfg area.areaId (aged cfg lsa) = some r')
  | ages (h : cfg.hasMaxAge lsa = false) (hage : incrementedAge cfg lsa ≠ cfg.LSAMaxAge)
      (hnot : ¬(cfg.isOwn lsa ∧ incrementedAge cfg lsa * second = cfg.LSRefreshTime))
      (hr' : r' = r.modifyLsa a t idx fun _ => aged cfg lsa)

theorem turn_of_incrementLSAge (hbits : cfg.BitFree)
    (h : r.incrementLSAge cfg now current (a, t, idx) = some r') :
    ∃ lsa, r.lsaAt a t idx = some lsa ∧ Turn cfg now current r a t idx lsa r' := by
  simp only [incrementLSAge, Option.bind_eq_bind, Option.bind_eq_some_iff] at h
  obtain ⟨lsa, hlsa, h⟩ := h
  refine ⟨lsa, hlsa, ?_⟩
  have hmask : cfg.maskDoNotAge (incrementedAge cfg lsa) = incrementedAge cfg lsa :=
    hbits.mask (Config.incrementedAge_le cfg lsa)
  rw [hmask] at h
  split at h
  · next hmax => exact .expired hmax (Option.some.inj h).symm
  · next hlive =>
    have hlive := Bool.eq_false_iff.2 hlive
    split at h
    · next hown => exact .refresh hlive hown.1 hown.2 h
    · next hnot =>
      split at h
      · next hmax =>
        simp only [Option.bind_eq_some_iff] at h
        obtain ⟨area, harea, x, hflood, hadd⟩ := h
        exact .expires hlive hmax hnot ⟨area, x, harea, hflood, hadd⟩
      · next hmax => exact .ages hlive hmax hnot (Option.some.inj h).symm

theorem areaId_of_queues (hqueues : r'.queues.map Prod.fst = r.queues.map Prod.fst) (a : Nat) :
    (r'.area? a).map (fun area => area.areaId.int_ip) =
      (r.area? a).map fun area => area.areaId.int_ip := by
  have h := congrArg (·[a]?) hqueues
  rw [List.getElem?_map, List.getElem?_map, queues_getElem?, queues_getElem?, Option.map_map,
    Option.map_map] at h
  exact h

theorem TurnFrame.refl (r : Router) (place : Nat × LsType × Nat) : TurnFrame r place r :=
  ⟨fun _ _ => rfl, rfl, fun _ h => h⟩

variable {place : Nat × LsType × Nat}

theorem TurnFrame.trans {r'' : Router} (h : TurnFrame r place r')
    (h' : TurnFrame r' place r'') : TurnFrame r place r'' :=
  ⟨fun p hp => (h'.others p hp).trans (h.others p hp), h'.areaIds.trans h.areaIds,
    fun areaId hnone => h'.adjacent areaId (h.adjacent areaId hnone)⟩

theorem TurnFrame.modifyLsa (hlsa : r.lsaAt a t idx = some lsa) (f : Lsa → Lsa) :
    TurnFrame r (a, t, idx) (r.modifyLsa a t idx f) :=
  ⟨fun _ hp => lsaAt_modifyLsa_of_ne hlsa hp, by rw [queues_modifyLsa], fun _ hnone => hnone⟩

variable {x : Router × Bool}

theorem TurnFrame.flood {cause : FloodCause} {b : Nat} {lsa : Lsa} {srcAddr : IpPtr} {inId : Nat}
    (h : r.flood cfg cause b lsa srcAddr current inId = some x) : TurnFrame r place x.1 := by
  obtain ⟨hlists, hqueues, -⟩ := flood_frame h
  exact ⟨fun p _ => by rw [lsaAt_congr hlists], by rw [hqueues], fun _ hnone => hnone.flood h⟩

theorem TurnFrame.addToMaxAgeLSAList {areaId : Ip}
    (hq : r.QueueRight cfg) (hlsa : cfg.hasMaxAge lsa = true)
    (h : r.addToMaxAgeLSAList cfg areaId lsa = some r') : TurnFrame r place r' := by
  obtain ⟨-, hospfIf, hids, -⟩ := addToMaxAgeLSAList_once hq hlsa h
  refine ⟨fun p _ => by rw [lsaAt_congr (SameLsdb.addToMaxAgeLSAList h).lists], hids, ?_⟩
  intro areaId' hnone
  unfold NoneAdjacent
  rw [hospfIf]
  exact hnone

theorem TurnFrame.agesWithin (h : TurnFrame r (a, t, idx) r') (hages : r.AgesWithin cfg)
    (hlsa : ∀ lsa', r'.lsaAt a t idx = some lsa' → cfg.AgeWithin lsa') : r'.AgesWithin cfg := by
  intro b u j lsa' hlsa'
  by_cases hp : (b, u, j) = (a, t, idx)
  · cases hp
    exact hlsa lsa' hlsa'
  · exact hages b u j lsa' ((h.others (b, u, j) hp).symm.trans hlsa')

theorem refreshLSA_of_number (hlsa : r.lsaAt a t idx = some lsa)
    (hnumber : lsa.LSSequenceNumber ≠ maxSequenceNumber) :
    r.refreshLSA cfg now current a t idx =
      let lsa' := { lsa with LSSequenceNumber := lsa.LSSequenceNumber + 1, LSAge := 0, time := now }
      ((r.modifyLsa a t idx fun _ => lsa').flood cfg .refresh a lsa' none current 0).map
        Prod.fst := by
  simp only [refreshLSA, hlsa, Option.bind_eq_bind, Option.bind_some]
  rw [if_neg hnumber]

theorem NoneAdjacent.floodedToAll {areaId : Ip} (h : r.NoneAdjacent areaId) (lsa : Lsa) :
    r.FloodedToAll areaId lsa := fun inter hinter hup harea neigh hneigh hadjacent =>
  absurd (h inter hinter hup harea neigh hneigh) (Nat.not_lt.2 hadjacent)

theorem lsaAt_area (hlsa : r.lsaAt a t idx = some lsa) : ∃ area, r.area? a = some area := by
  obtain ⟨list, hlist, -⟩ := Option.bind_eq_some_iff.1 hlsa
  obtain ⟨area, harea, -⟩ := Option.bind_eq_some_iff.1 hlist
  exact ⟨area, harea⟩

theorem Turn.right (hbits : cfg.BitFree) (hrefresh : cfg.LSRefreshTime < cfg.LSAMaxAge * second)
    (hages : r.AgesWithin cfg) (hq : r.QueueRight cfg) (hlsa : r.lsaAt a t idx = some lsa)
    (hok : LsaOk cfg r a lsa) (h : Turn cfg now current r a t idx lsa r') :
    TurnRight cfg now r (a, t, idx) r' ∧ r'.AgesWithin cfg ∧ r'.QueueRight cfg ∧
      TurnFrame r (a, t, idx) r' := by
  have hage := hages a t idx lsa hlsa
  have hagedAt := lsaAt_modifyLsa (f := fun _ => aged cfg lsa) hlsa
  have hagedFrame := TurnFrame.modifyLsa hlsa (fun _ => aged cfg lsa)
  have hagedWithin : cfg.AgeWithin (aged cfg lsa) := ageWithin_aged hbits hage hok.bit
  have hagedQueue : (r.modifyLsa a t idx fun _ => aged cfg lsa).QueueRight cfg :=
    hq.of_queues (queues_modifyLsa ..)
  cases h with
  | expired hmax hr' =>
    subst hr'
    refine ⟨⟨lsa, lsa, hlsa, hlsa, fun _ => rfl, fun _ hlive => ?_, fun hlive => ?_⟩, hages, hq,
      .refl _ _⟩
    · rw [hmax] at hlive
      cases hlive
    · rw [hmax] at hlive
      cases hlive
  | ages hlive hnotMax hnot hr' =>
    subst hr'
    refine ⟨⟨lsa, aged cfg lsa, hlsa, hagedAt, doNotAge_aged hage hok.bit, fun hown _ => ?_,
      fun _ hmax => ?_⟩, ?_, hagedQueue, hagedFrame⟩
    · refine ⟨hasMaxAge_aged_own hbits hrefresh hage hok hown hlive, fun hdue => ?_⟩
      exact absurd ⟨hown, Nat.le_antisymm (hok.own hown hlive).1 hdue⟩ hnot
    · exact absurd ((hasMaxAge_aged hbits hage hok.bit).1 hmax) hnotMax
    · refine hagedFrame.agesWithin hages fun lsa' hlsa' => ?_
      cases hagedAt.symm.trans hlsa'
      exact hagedWithin
  | expires hlive hmax hnot hr' =>
    obtain ⟨area, x, harea, hflood, hadd⟩ := hr'
    have hexpired := (hasMaxAge_aged hbits hage hok.bit).2 hmax
    obtain ⟨hlists, hqueues, f, hf, hfloods⟩ := flood_frame hflood
    have hxQueue := hagedQueue.of_queues hqueues
    obtain ⟨hqueue', -, -, hcount⟩ := addToMaxAgeLSAList_once hxQueue hexpired hadd
    have hsame := SameLsdb.addToMaxAgeLSAList hadd
    have hat : r'.lsaAt a t idx = some (aged cfg lsa) := by
      rw [lsaAt_congr (hsame.lists.trans hlists)]
      exact hagedAt
    have hframe := hagedFrame.trans ((TurnFrame.flood hflood).trans
      (TurnFrame.addToMaxAgeLSAList hxQueue hexpired hadd))
    refine ⟨⟨lsa, aged cfg lsa, hlsa, hat, doNotAge_aged hage hok.bit, fun hown _ => ?_,
      fun _ _ => ⟨⟨f, hf, hsame.floods.trans hfloods⟩, ?_⟩⟩, ?_, hqueue', hframe⟩
    · have hnotMax := hasMaxAge_aged_own hbits hrefresh hage hok hown hlive
      rw [hexpired] at hnotMax
      cases hnotMax
    · obtain ⟨area0, harea0⟩ := lsaAt_area hlsa
      obtain ⟨b, area', hb, harea', hone⟩ := hcount
      refine ⟨area0, b, area', harea0, ?_, harea', hone⟩
      have hid := areaId_of_queues (congrArg (List.map Prod.fst)
        (queues_modifyLsa r a t idx fun _ => aged cfg lsa)) a
      rw [harea, harea0, Option.map_some, Option.map_some, Option.some.injEq] at hid
      rw [← hb, areaGetId, areaGetId, hid]
    · refine hframe.agesWithin hages fun lsa' hlsa' => ?_
      cases hat.symm.trans hlsa'
      exact hagedWithin
  | refresh hlive hown hdue hr' =>
    obtain ⟨hnoBit, hnumber, hnone⟩ := (hok.own hown hlive).2 hdue
    rw [refreshLSA_of_number hagedAt hnumber] at hr'
    obtain ⟨x, hflood, rfl⟩ := Option.map_eq_some_iff.1 hr'
    set lsa' : Lsa :=
      { lsa with LSSequenceNumber := lsa.LSSequenceNumber + 1, LSAge := 0, time := now } with hlsa'
    obtain ⟨hlists, hqueues, f, hf, hfloods⟩ := flood_frame hflood
    have hat : x.1.lsaAt a t idx = some lsa' := by
      rw [lsaAt_congr hlists]
      exact lsaAt_modifyLsa (f := fun _ => lsa') hagedAt
    have hframe := hagedFrame.trans ((TurnFrame.modifyLsa hagedAt fun _ => lsa').trans
      (TurnFrame.flood hflood))
    have hzero : cfg.maskDoNotAge lsa'.LSAge = 0 := hbits.mask (Nat.zero_le _)
    have hpos : 0 < cfg.LSAMaxAge := by
      by_contra hzero
      rw [Nat.eq_zero_of_not_pos hzero, Nat.zero_mul] at hrefresh
      cases hrefresh
    have hnotMax : cfg.hasMaxAge lsa' = false := by
      rw [Config.hasMaxAge, hzero]
      exact beq_false_of_ne (Nat.ne_of_lt hpos)
    refine ⟨⟨lsa, lsa', hlsa, hat, fun hbit => absurd hbit hnoBit,
      fun _ _ => ⟨hnotMax, fun _ => ⟨rfl, ⟨f, hf, hfloods⟩, ?_⟩⟩, fun _ hmax => ?_⟩, ?_, ?_, hframe⟩
    · obtain ⟨area, harea⟩ := lsaAt_area hlsa
      exact ⟨area, harea, (hframe.adjacent _ (hnone area harea)).floodedToAll lsa'⟩
    · rw [hnotMax] at hmax
      cases hmax
    · refine hframe.agesWithin hages fun lsa'' hlsa'' => ?_
      cases hat.symm.trans hlsa''
      exact ⟨Nat.two_pow_pos 16, hzero.symm ▸ Nat.zero_le _⟩
    · exact hq.of_queues (hqueues.trans ((queues_modifyLsa ..).trans (queues_modifyLsa ..)))

/-! ## A tick -/

theorem fst_of_mem_areaPlaces {area : Area} (h : place ∈ areaPlaces area a) : place.1 = a := by
  simp only [areaPlaces, List.mem_append, List.mem_map] at h
  rcases h with ((⟨_, _, rfl⟩ | ⟨_, _, rfl⟩) | ⟨_, _, rfl⟩) | ⟨_, _, rfl⟩ <;> rfl

theorem nodup_areaPlaces (area : Area) (a : Nat) : (areaPlaces area a).Nodup := by
  have hmap : ∀ (t : LsType) (n : Nat), ((List.range n).map fun idx => (a, t, idx)).Nodup :=
    fun t n => List.nodup_range.map fun _ _ h => by cases h; rfl
  unfold areaPlaces
  simp only [List.nodup_append, hmap, true_and, List.mem_append, List.mem_map]
  grind

theorem nodup_places (r : Router) : r.places.Nodup := by
  refine List.nodup_flatten.2 ⟨fun l hl => ?_, ?_⟩
  · obtain ⟨i, hi⟩ := List.mem_iff_getElem?.1 hl
    rw [List.getElem?_mapIdx] at hi
    obtain ⟨area, -, rfl⟩ := Option.map_eq_some_iff.1 hi
    exact nodup_areaPlaces area i
  · rw [List.pairwise_iff_getElem]
    intro i j hi hj hij place hplace hplace'
    rw [List.getElem_mapIdx] at hplace hplace'
    have := fst_of_mem_areaPlaces hplace
    have := fst_of_mem_areaPlaces hplace'
    omega

structure TickInv (cfg : Config) (r : Router) : Prop where
  ages : r.AgesWithin cfg
  queue : r.QueueRight cfg

theorem turns_right (hbits : cfg.BitFree) (hrefresh : cfg.LSRefreshTime < cfg.LSAMaxAge * second)
    {places : List (Nat × LsType × Nat)} (hnodup : places.Nodup) (hinv : TickInv cfg r)
    (hok : ∀ p ∈ places, ∀ lsa, r.lsaAt p.1 p.2.1 p.2.2 = some lsa → LsaOk cfg r p.1 lsa)
    (h : loop (incrementLSAge cfg now current) (fun _ => false) r places = some r') :
    TickInv cfg r' ∧ EachTurn (incrementLSAge cfg now current) (fun _ => false)
      (TurnRight cfg now) r places := by
  induction places generalizing r with
  | nil =>
    cases h
    exact ⟨hinv, trivial⟩
  | cons place rest ih =>
    obtain ⟨a, t, idx⟩ := place
    obtain ⟨hnotMem, hnodup⟩ := List.nodup_cons.1 hnodup
    have hturn : ∀ r1, r.incrementLSAge cfg now current (a, t, idx) = some r1 →
        TurnRight cfg now r (a, t, idx) r1 ∧ TickInv cfg r1 ∧
          ∀ p ∈ rest, ∀ lsa, r1.lsaAt p.1 p.2.1 p.2.2 = some lsa → LsaOk cfg r1 p.1 lsa := by
      intro r1 hr1
      obtain ⟨lsa, hlsa, hturn⟩ := turn_of_incrementLSAge hbits hr1
      obtain ⟨hright, hages, hqueue, hframe⟩ := hturn.right hbits hrefresh hinv.ages hinv.queue hlsa
        (hok _ List.mem_cons_self lsa hlsa)
      refine ⟨hright, ⟨hages, hqueue⟩, fun p hp lsa' hlsa' => ?_⟩
      have hne : p ≠ (a, t, idx) := fun heq => hnotMem (heq ▸ hp)
      have hold := hok p (List.mem_cons_of_mem _ hp) lsa' ((hframe.others p hne).symm.trans hlsa')
      refine ⟨hold.bit, fun hown hlive => ⟨(hold.own hown hlive).1, fun hdue => ?_⟩⟩
      obtain ⟨hbit, hnumber, hnone⟩ := (hold.own hown hlive).2 hdue
      refine ⟨hbit, hnumber, fun area' harea' => ?_⟩
      have hid := areaId_of_queues hframe.areaIds p.1
      rw [harea', Option.map_some, eq_comm] at hid
      obtain ⟨area, harea, heq⟩ := Option.map_eq_some_iff.1 hid
      have hdistant := hframe.adjacent _ (hnone area harea)
      unfold NoneAdjacent at hdistant ⊢
      rwa [heq] at hdistant
    rw [loop] at h
    split at h
    · cases h
    · next r1 hr1 =>
      obtain ⟨-, hinv1, hok1⟩ := hturn r1 hr1
      obtain ⟨hinv', hrest⟩ := ih hnodup hinv1 hok1 h
      refine ⟨hinv', fun r2 hr2 => ?_⟩
      cases hr1.symm.trans hr2
      exact ⟨(hturn r1 hr1).1, fun _ => hrest⟩

theorem agesWithin_iff : r.AgesWithin cfg ↔
    ∀ a t list, r.lsdbList a t = some list → ∀ lsa ∈ list, cfg.AgeWithin lsa := by
  constructor
  · intro h a t list hlist lsa hlsa
    obtain ⟨idx, hidx⟩ := List.mem_iff_getElem?.1 hlsa
    exact h a t idx lsa (by rw [lsaAt, hlist]; exact hidx)
  · intro h a t idx lsa hlsa
    obtain ⟨list, hlist, hat⟩ := Option.bind_eq_some_iff.1 hlsa
    exact h a t list hlist lsa (List.mem_of_getElem? hat)

theorem AgesWithin.of_lists (h : r.AgesWithin cfg) (hlists : r'.lsdbList = r.lsdbList) :
    r'.AgesWithin cfg := by
  unfold AgesWithin
  rw [lsaAt_congr hlists]
  exact h

theorem AgesWithin.of_list {list' : List Lsa} (h : r.AgesWithin cfg)
    (hlists : ∀ b u, r'.lsdbList b u = if b = a ∧ u = t then some list' else r.lsdbList b u)
    (hages : ∀ lsa ∈ list', cfg.AgeWithin lsa) : r'.AgesWithin cfg := by
  rw [agesWithin_iff] at h ⊢
  intro b u list hlist
  rw [hlists] at hlist
  split at hlist
  · cases hlist
    exact hages
  · exact h b u list hlist

theorem queues_setLsaList (r : Router) (a : Nat) (list : List Lsa) (t : LsType) :
    (r.modifyArea a fun area => area.setLsaList list t).queues = r.queues :=
  map_modify (fun area => by cases t <;> rfl) a r.areaDS

theorem hasMaxAge_flushed (hbits : cfg.BitFree) (lsa : Lsa) :
    cfg.hasMaxAge { lsa with LSAge := cfg.LSAMaxAge } = true := by
  rw [Config.hasMaxAge, hbits.mask (Nat.le_refl _)]
  exact beq_self_eq_true _

theorem TickInv.flood {cause : FloodCause} {b : Nat} {lsa : Lsa} {srcAddr : IpPtr} {inId : Nat}
    (h : TickInv cfg r)
    (hflood : r.flood cfg cause b lsa srcAddr current inId = some x) : TickInv cfg x.1 := by
  obtain ⟨hlists, hqueues, -⟩ := flood_frame hflood
  exact ⟨h.ages.of_lists hlists, h.queue.of_queues hqueues⟩

theorem TickInv.addToMaxAgeLSAList {areaId : Ip} (h : TickInv cfg r)
    (hlsa : cfg.hasMaxAge lsa = true) (hadd : r.addToMaxAgeLSAList cfg areaId lsa = some r') :
    TickInv cfg r' :=
  ⟨h.ages.of_lists (SameLsdb.addToMaxAgeLSAList hadd).lists,
    (addToMaxAgeLSAList_once h.queue hlsa hadd).1⟩

theorem TickInv.flush {x : Router × Lsa} (hbits : cfg.BitFree) (h : TickInv cfg r)
    (hflush : r.flush cfg current a lsa = some x) : TickInv cfg x.1 := by
  rw [Router.flush] at hflush
  split at hflush
  · cases hflush
    exact h
  · simp only [Option.bind_eq_bind, Option.bind_eq_some_iff] at hflush
    obtain ⟨area, -, x1, hflood, r2, hadd, hflush⟩ := hflush
    cases hflush
    exact (h.flood hflood).addToMaxAgeLSAList (hasMaxAge_flushed hbits lsa) hadd

theorem TickInv.removeLSA (h : TickInv cfg r) (hremove : r.removeLSA cfg a lsa = some r') :
    TickInv cfg r' := by
  simp only [Router.removeLSA, Option.bind_eq_bind, Option.bind_eq_some_iff] at hremove
  obtain ⟨area, harea, hremove⟩ := hremove
  split at hremove
  · cases hremove
    exact h
  · next list hlist =>
    cases hremove
    rw [← lsdbList_of_area harea] at hlist
    refine ⟨?_, ?_⟩
    · refine h.ages.of_list (lsdbList_modifyArea_setLsaList hlist) fun l hl => ?_
      exact agesWithin_iff.1 h.ages a _ list hlist l (List.mem_of_mem_filter hl)
    · exact h.queue.of_queues (queues_setLsaList r a _ _)

theorem TickInv.removeStale {stored : Nat × Lsa} (hbits : cfg.BitFree) (h : TickInv cfg r)
    (hstale : r.removeStale cfg now current stored = some r') : TickInv cfg r' := by
  simp only [Router.removeStale, Option.bind_eq_bind] at hstale
  split at hstale
  · obtain ⟨x, hflush, hremove⟩ := Option.bind_eq_some_iff.1 hstale
    exact (h.flush hbits hflush).removeLSA hremove
  · cases hstale
    exact h

theorem TickInv.incrementAge (hbits : cfg.BitFree)
    (hrefresh : cfg.LSRefreshTime < cfg.LSAMaxAge * second) (h : TickInv cfg r)
    (hok : ∀ a t idx lsa, r.lsaAt a t idx = some lsa → LsaOk cfg r a lsa)
    (hstep : r.incrementAge cfg now current = some r') :
    TickInv cfg r' ∧ EachTurn (incrementLSAge cfg now current) (fun _ => false)
      (TurnRight cfg now) r r.places := by
  simp only [Router.incrementAge, Option.bind_eq_bind, Option.bind_eq_some_iff] at hstep
  obtain ⟨r1, hturns, hstep⟩ := hstep
  obtain ⟨h1, hright⟩ := turns_right hbits hrefresh (nodup_places r) h
    (fun p _ lsa hlsa => hok p.1 p.2.1 p.2.2 lsa hlsa) hturns
  refine ⟨?_, hright⟩
  split at hstep
  · exact (loop_invariant (I := TickInv cfg) (P := fun _ _ _ => True) (Q := fun _ _ _ => True)
      (fun _ _ _ hr _ hturn => ⟨hr.removeStale hbits hturn, trivial⟩) h1
      (.of_forall (fun _ _ _ _ => trivial) _) hstep).1
  · cases hstep
    exact h1

theorem TickInv.install (h : TickInv cfg r) (hage : cfg.AgeWithin lsa)
    (hinstall : r.install cfg now a lsa = some x) : TickInv cfg x.1 := by
  obtain ⟨-, list, hlist, hlists⟩ := install_lists hinstall
  refine ⟨h.ages.of_list hlists fun l hl => ?_, ?_⟩
  · have hold := agesWithin_iff.1 h.ages a _ list hlist
    have hnew : cfg.AgeWithin { lsa with time := now } := ⟨hage.fits, hage.le⟩
    unfold Config.installInList at hl
    split at hl
    · split at hl
      · rcases mem_modifyFirst hl with hl | ⟨_, _, rfl⟩
        · exact hold l hl
        · exact hnew
      · exact hold l hl
    · rcases List.mem_append.1 hl with hl | hl
      · exact hold l hl
      · exact List.mem_singleton.1 hl ▸ hnew
  · simp only [Router.install, Option.bind_eq_bind, Option.bind_eq_some_iff] at hinstall
    obtain ⟨area, -, list', -, hinstall⟩ := hinstall
    have hset := h.queue.of_queues (queues_setLsaList r a
      (cfg.installInList now lsa list').1 lsa.LSType)
    split at hinstall
    · next hmax =>
      obtain ⟨r1, hadd, rfl⟩ := Option.map_eq_some_iff.1 hinstall
      exact (addToMaxAgeLSAList_once hset hmax hadd).1
    · cases hinstall
      exact hset

def IsEmptyLsdb (r : Router) : Prop := ∀ area ∈ r.areaDS, area.maxAgeList = [] ∧
  ∀ t list, area.lsaList t = some list → list = []

theorem IsEmptyLsdb.tickInv (h : r.IsEmptyLsdb) : TickInv cfg r := by
  have hqueues : ∀ q ∈ r.queues, q.2 = [] := by
    intro q hq
    obtain ⟨area, harea, rfl⟩ := List.mem_map.1 hq
    exact (h area harea).1
  refine ⟨agesWithin_iff.2 fun a t list hlist lsa hlsa => ?_, fun q hq lsa hlsa => ?_,
    fun q hq => ?_⟩
  · obtain ⟨area, harea, hlist⟩ := Option.bind_eq_some_iff.1 hlist
    rw [(h area (List.mem_of_getElem? harea)).2 t list hlist] at hlsa
    cases hlsa
  · rw [hqueues q hq] at hlsa
    cases hlsa
  · rw [hqueues q hq]
    exact List.nodup_nil

end Turn

end Router

section Runs

variable {cfg : Config} {r₀ r r' : Router}

theorem TickInv.step (hbits : cfg.BitFree) (hrefresh : cfg.LSRefreshTime < cfg.LSAMaxAge * second)
    {ev : AgeEvent} (h : r.TickInv cfg) (hok : AgeStepOk cfg r ev)
    (hstep : ageStep cfg r ev = some r') : r'.TickInv cfg ∧ AgeStepRight cfg r ev := by
  cases ev with
  | tick now current => exact Router.TickInv.incrementAge hbits hrefresh h hok hstep
  | flood =>
    obtain ⟨x, hflood, rfl⟩ := Option.map_eq_some_iff.1 hstep
    exact ⟨h.flood hflood, trivial⟩
  | install =>
    obtain ⟨x, hinstall, rfl⟩ := Option.map_eq_some_iff.1 hstep
    exact ⟨h.install hok hinstall, trivial⟩

/-- In every run from an empty database all ages stay within the limit, and every tick treats every
LSA as it should. -/
theorem ageing_right (hbits : cfg.BitFree) (hrefresh : cfg.LSRefreshTime < cfg.LSAMaxAge * second)
    (h₀ : r₀.IsEmptyLsdb) {tr : List (Router × AgeEvent)} (run : Run (ageStep cfg) r₀ tr r)
    (hok : ∀ x ∈ tr, AgeStepOk cfg x.1 x.2) :
    r.AgesWithin cfg ∧ ∀ x ∈ tr, AgeStepRight cfg x.1 x.2 := by
  have hinv : r.TickInv cfg ∧ ∀ x ∈ tr, AgeStepRight cfg x.1 x.2 := by
    induction run with
    | nil => exact ⟨h₀.tickInv, nofun⟩
    | snoc run hstep ih =>
      rw [List.forall_mem_cons] at hok ⊢
      obtain ⟨hinv, hright⟩ := ih hok.2
      obtain ⟨hinv', hright'⟩ := TickInv.step hbits hrefresh hinv hok.1 hstep
      exact ⟨hinv', hright', hright⟩
  exact ⟨hinv.1.ages, hinv.2⟩

end Runs

/-! ## Two small runs -/

def freshLsa : Lsa where
  LSAge := 0
  Options := 2
  LSType := .router
  LinkStateID := ⟨10, 10⟩
  AdvertisingRouter := ⟨10, 10⟩
  LSSequenceNumber := initialSequenceNumber
  length := 24
  lsaInfo := some ⟨0, []⟩
  time := 0

def shortTimes (LSAMaxAge LSRefreshTime incrementTime : Nat) : Config :=
  { exampleConfig with
    LSAMaxAge := LSAMaxAge
    LSRefreshTime := LSRefreshTime * second
    incrementTime := incrementTime * second }

def lonelyRouter : Router :=
  { exampleRouter with ospfIf := [{ exampleLink with neighborRouterList := [] }] }

def lonelyRouterWithLsa (LSAge : Nat) : Router :=
  lonelyRouter.modifyArea 0 fun area =>
    { area with routerLSAList := [{ freshLsa with LSAge := LSAge }] }

theorem lonelyRouter_isEmptyLsdb : lonelyRouter.IsEmptyLsdb := by
  intro area harea
  rw [List.mem_singleton.1 harea]
  refine ⟨rfl, fun t list hlist => ?_⟩
  cases t <;> cases hlist <;> rfl

/-- The LSA of a router without neighbours is refreshed. -/
theorem ageing_right_refresh :
    ∃ tr r, Run (ageStep (shortTimes 3 2 2)) lonelyRouter tr r ∧ tr.length = 2 ∧
      (r.lsaAt 0 .router 0).map Lsa.LSSequenceNumber = some (initialSequenceNumber + 1) ∧
        r.AgesWithin (shortTimes 3 2 2) ∧ ∀ x ∈ tr, AgeStepRight (shortTimes 3 2 2) x.1 x.2 := by
  have hinstall : ageStep (shortTimes 3 2 2) lonelyRouter (.install 0 0 freshLsa) =
      some (lonelyRouterWithLsa 0) := by decide +kernel
  have htick : (ageStep (shortTimes 3 2 2) (lonelyRouterWithLsa 0) (.tick 2 1)).map (fun r =>
      (r.lsaAt 0 .router 0).map Lsa.LSSequenceNumber) =
        some (some (initialSequenceNumber + 1)) := by decide +kernel
  obtain ⟨r, hr, hnumber⟩ := Option.map_eq_some_iff.1 htick
  have run := (Run.nil.snoc hinstall).snoc hr
  refine ⟨_, r, run, rfl, hnumber, ?_⟩
  refine ageing_right ⟨by decide, fun hdc => absurd hdc (by decide)⟩ (by decide)
    lonelyRouter_isEmptyLsdb run ?_
  · rw [List.forall_mem_cons, List.forall_mem_singleton]
    refine ⟨fun a t idx lsa hlsa => ?_, by decide, by decide⟩
    have hone : a = 0 ∧ lsa = freshLsa := by
      cases a with
      | succ a => cases hlsa
      | zero =>
        cases t with
        | router =>
          cases idx with
          | zero => exact ⟨rfl, (Option.some.inj hlsa).symm⟩
          | succ idx => cases hlsa
        | _ => cases hlsa
    obtain ⟨rfl, rfl⟩ := hone
    refine ⟨fun hbit => absurd hbit (by decide), fun _ _ => ⟨by decide, fun _ =>
      ⟨by decide, by decide, fun area _ inter hinter _ _ neigh hneigh => ?_⟩⟩⟩
    rw [List.mem_singleton.1 hinter] at hneigh
    cases hneigh

/-- An age of two seconds becomes one of four, and the LSA expires without having been refreshed at
three. -/
theorem not_ageing_right :
    ¬∀ (cfg : Config) (r₀ r : Router) (tr : List (Router × AgeEvent)),
      second ≤ cfg.incrementTime → cfg.incrementTime ≤ cfg.LSRefreshTime →
      cfg.LSRefreshTime < cfg.LSAMaxAge * second → cfg.BitFree → r₀.IsEmptyLsdb →
      Run (ageStep cfg) r₀ tr r →
      (∀ x ∈ tr, ∀ now a lsa, x.2 = .install now a lsa → cfg.AgeWithin lsa) →
      r.AgesWithin cfg ∧ ∀ x ∈ tr, AgeStepRight cfg x.1 x.2 := by
  intro h
  have hinstall : ageStep (shortTimes 4 3 2) lonelyRouter (.install 0 0 freshLsa) =
      some (lonelyRouterWithLsa 0) := by decide +kernel
  have htick : ageStep (shortTimes 4 3 2) (lonelyRouterWithLsa 0) (.tick 2 1) =
      some (lonelyRouterWithLsa 2) := by decide +kernel
  have hturn : ((lonelyRouterWithLsa 2).incrementLSAge (shortTimes 4 3 2) 4 1 (0, .router, 0)).map
      (fun r => r.lsaAt 0 .router 0) = some (some { freshLsa with LSAge := 4 }) := by
    decide +kernel
  obtain ⟨r, hr⟩ := Option.isSome_iff_exists.1
    (by decide +kernel :
      (ageStep (shortTimes 4 3 2) (lonelyRouterWithLsa 2) (.tick 4 1)).isSome = true)
  have hright := (h (shortTimes 4 3 2) lonelyRouter r _ (by decide) (by decide) (by decide)
    ⟨by decide, nofun⟩ lonelyRouter_isEmptyLsdb (((Run.nil.snoc hinstall).snoc htick).snoc hr)
    (by
      simp only [List.forall_mem_cons]
      refine ⟨nofun, nofun, fun now a lsa heq => ?_, nofun⟩
      cases heq
      exact ⟨by decide, by decide⟩)).2 _ List.mem_cons_self
  have hplaces : (lonelyRouterWithLsa 2).places = [(0, .router, 0)] := by decide +kernel
  unfold AgeStepRight at hright
  obtain ⟨r', hr', hlsa'⟩ := Option.map_eq_some_iff.1 hturn
  obtain ⟨lsa, lsa₁, hlsa, hlsa₁, hages⟩ := (hright r' hr').1
  cases hlsa
  cases hlsa'.symm.trans hlsa₁
  exact absurd (hages.own rfl (by decide)).1 (by decide)

end NetSim.Ospf
