import NetSim.Ospf.Originate
import NetSim.Ospf.Stored

/-!
# The queue of expired LSAs (`OSPF_LSDB.c`, `OSPF_LSA.c`)

`ospf_lsa_addToMaxAgeLSAList` queues copies of expired LSAs, for each area, and sets the timer that
removes them. Whatever else a router does leaves both.
-/

namespace NetSim.Ospf

open NetSim.Lib

/-! ## The timer -/

namespace Router

variable (cfg : Config)

def isLSAInNeighborRxtList (r : Router) (areaId : Ip) (lsa : Lsa) : Bool :=
  r.ospfIf.any fun thisInterface =>
    (areaId.int_ip == cfg.invalidAreaId.int_ip ||
      areaId.int_ip == thisInterface.areaId.int_ip) &&
    thisInterface.neighborRouterList.any fun neigh =>
      neigh.neighLSRxtList.any fun l => cfg.compareToListMem l lsa

/-- The body of the inner loop of `ospf_lsdb_handleMaxAgeRemovalTimer`, for an area, and whether the
timer is scheduled. -/
def removeMaxAge (areaId : Ip) (a : Nat) (s : Router × Bool) (lsa : Lsa) :
    Option (Router × Bool) :=
  let (r, scheduledTimer) := s
  if r.isLSAInNeighborRxtList cfg areaId lsa then
    some (if scheduledTimer then r else r.scheduleMaxAgeRemovalTimer, true)
  else
    (r.removeLSA cfg a lsa).map fun r =>
      (r.modifyArea a fun area => { area with maxAgeList := area.maxAgeList.erase lsa },
        scheduledTimer)

/-- The body of the outer loop of `ospf_lsdb_handleMaxAgeRemovalTimer`. -/
def removeMaxAgeOf (s : Router × Bool) (thisInterface : Interface) : Option (Router × Bool) :=
  match s.1.areaGetId thisInterface.areaId with
  | none => some s
  | some a => do
    let area ← s.1.area? a
    let (r, scheduledTimer) ←
      loop (removeMaxAge cfg thisInterface.areaId a) (fun _ => false) s area.maxAgeList
    let area ← r.area? a
    if !area.maxAgeList.isEmpty && !r.isMaxAgeRemovalTimerSet && !scheduledTimer then
      some (r.scheduleMaxAgeRemovalTimer, true)
    else some (r, scheduledTimer)

def handleMaxAgeRemovalTimer (r : Router) : Option Router :=
  if r.isAnyNeighborInExchangeOrLoadingState then some r.scheduleMaxAgeRemovalTimer
  else
    (loop (removeMaxAgeOf cfg) (fun _ => false) ({ r with isMaxAgeRemovalTimerSet := false }, false)
      r.ospfIf).map Prod.fst

end Router

/-! ## The queues -/

/-- `LSAMaxAge`, as `ospf_lsa_hasMaxAge` finds it or `ospf_lsa_flush` sets it, without the bit
`DoNotAge`. -/
def Config.IsExpired (cfg : Config) (lsa : Lsa) : Prop :=
  cfg.hasMaxAge lsa = true ∨ cfg.maskDoNotAge lsa.LSAge = cfg.maskDoNotAge cfg.LSAMaxAge

namespace Router

def queues (r : Router) : List (Nat × List Lsa) :=
  r.areaDS.map fun area => (area.areaId.int_ip, area.maxAgeList)

def areaIds (r : Router) : List Nat := r.ospfIf.map fun inter => inter.areaId.int_ip

def removalTimers (r : Router) : Nat := r.events.count .maxAgeRemovalTimer

/-- The areas are as `ospf_area_init` makes them; the removal timer is pending, once, if some LSA is
queued; and queued LSAs have expired. -/
structure QueueOk (cfg : Config) (r : Router) : Prop where
  distinct : (r.queues.map Prod.fst).Nodup
  interface : ∀ q ∈ r.queues, q.1 ∈ r.areaIds
  timer : r.removalTimers = if r.isMaxAgeRemovalTimerSet then 1 else 0
  pending : r.isMaxAgeRemovalTimerSet = false → ∀ q ∈ r.queues, q.2 = []
  expired : ∀ q ∈ r.queues, ∀ lsa ∈ q.2, cfg.IsExpired lsa

variable {cfg : Config} {now current : Nat} {r r' r'' : Router}

def KeepsQueue (cfg : Config) (r r' : Router) : Prop := r.QueueOk cfg → r'.QueueOk cfg

namespace KeepsQueue

theorem refl (r : Router) : KeepsQueue cfg r r := id

theorem trans (h : KeepsQueue cfg r r') (h' : KeepsQueue cfg r' r'') : KeepsQueue cfg r r'' :=
  h' ∘ h

theorem of_same (hqueues : r'.queues = r.queues) (hareaIds : r'.areaIds = r.areaIds)
    (htimers : r'.removalTimers = r.removalTimers)
    (hset : r'.isMaxAgeRemovalTimerSet = r.isMaxAgeRemovalTimerSet) : KeepsQueue cfg r r' := by
  intro hok
  refine ⟨?_, ?_, ?_, ?_, ?_⟩
  · rw [hqueues]
    exact hok.distinct
  · rw [hqueues, hareaIds]
    exact hok.interface
  · rw [htimers, hset]
    exact hok.timer
  · rw [hset, hqueues]
    exact hok.pending
  · rw [hqueues]
    exact hok.expired

theorem queues_eq (r : Router) :
    r.queues = (r.areaDS.map Area.unscheduled).map fun area =>
      (area.areaId.int_ip, area.maxAgeList) := by
  rw [queues, List.map_map]
  rfl

theorem of_quiet (h : Quiet r r') : KeepsQueue cfg r r' := by
  refine of_same ?_ ?_ h.timers h.timerSet
  · rw [queues_eq, queues_eq, h.areas]
  · have hmap : ∀ r : Router, r.areaIds = (r.ospfIf.map Interface.areaId).map Ip.int_ip := by
      intro r
      rw [areaIds, List.map_map]
      rfl
    rw [hmap, hmap, h.areaIds]

theorem modifyArea (a : Nat) {f : Area → Area}
    (h : ∀ area, (f area).areaId = area.areaId ∧ (f area).maxAgeList = area.maxAgeList) :
    KeepsQueue cfg r (r.modifyArea a f) := by
  have hkeep : ∀ area, ((f area).areaId.int_ip, (f area).maxAgeList) =
      (area.areaId.int_ip, area.maxAgeList) := fun area => by rw [(h area).1, (h area).2]
  exact of_same (map_modify hkeep a r.areaDS) rfl rfl rfl

theorem setLsaList (a : Nat) (list : List Lsa) (t : LsType) :
    KeepsQueue cfg r (r.modifyArea a fun area => area.setLsaList list t) :=
  modifyArea a fun area => by cases t <;> exact ⟨rfl, rfl⟩

variable {a : Nat} {lsa : Lsa}

theorem flood {cause : FloodCause} {srcAddr : IpPtr} {inId : Nat}
    {x : Router × Bool} (h : r.flood cfg cause a lsa srcAddr current inId = some x) :
    KeepsQueue cfg r x.1 := by
  obtain ⟨f, -, hquiet⟩ := flood_quiet h
  have hrecord : KeepsQueue cfg r { r with floods := f :: r.floods } := of_same rfl rfl rfl rfl
  exact hrecord.trans (of_quiet hquiet)

variable {i : Nat}

theorem mem_modify {α : Type} {f : α → α} {l : List α} {x : α} (h : x ∈ l.modify i f) :
    x ∈ l ∨ ∃ y ∈ l, x = f y := by
  obtain ⟨j, hj⟩ := List.mem_iff_getElem?.1 h
  rw [List.getElem?_modify] at hj
  obtain ⟨y, hy, rfl⟩ := Option.map_eq_some_iff.1 hj
  have hmem := List.mem_of_getElem? hy
  split
  · exact Or.inr ⟨y, hmem, rfl⟩
  · exact Or.inl hmem

theorem addToMaxAgeLSAList {areaId : Ip} (hexpired : cfg.IsExpired lsa)
    (h : r.addToMaxAgeLSAList cfg areaId lsa = some r') : KeepsQueue cfg r r' := by
  simp only [Router.addToMaxAgeLSAList, Option.bind_eq_bind, Option.bind_eq_some_iff] at h
  obtain ⟨a, _, area, harea, h⟩ := h
  split at h
  · cases h
    exact refl r
  cases h
  intro hok
  let add := fun area : Area => { area with maxAgeList := area.maxAgeList ++ [lsa] }
  have hids : (r.modifyArea a add).queues.map Prod.fst = r.queues.map Prod.fst := by
    simp only [queues, Router.modifyArea, List.map_map]
    exact map_modify (g := fun area : Area => area.areaId.int_ip) (f := add) (fun _ => rfl) a r.areaDS
  have hmem : ∀ q ∈ (r.modifyArea a add).queues, q.1 ∈ r.queues.map Prod.fst := fun q hq =>
    hids ▸ List.mem_map_of_mem hq
  have hinterface : ∀ q ∈ (r.modifyArea a add).queues, q.1 ∈ r.areaIds := by
    intro q hq
    obtain ⟨q', hq', heq⟩ := List.mem_map.1 (hmem q hq)
    exact heq ▸ hok.interface q' hq'
  have hqueued : ∀ q ∈ (r.modifyArea a add).queues, ∀ l ∈ q.2, cfg.IsExpired l := by
    intro q hq l hl
    obtain ⟨area', harea', rfl⟩ := List.mem_map.1 hq
    rcases mem_modify harea' with hold | ⟨area'', hold, rfl⟩
    · exact hok.expired _ (List.mem_map_of_mem hold) l hl
    · rcases List.mem_append.1 hl with hl | hl
      · exact hok.expired _ (List.mem_map_of_mem hold) l hl
      · rw [List.mem_singleton.1 hl]
        exact hexpired
  have htimer := hok.timer
  change QueueOk cfg (if r.isMaxAgeRemovalTimerSet = true then r.modifyArea a add
    else (r.modifyArea a add).scheduleMaxAgeRemovalTimer)
  cases hset : r.isMaxAgeRemovalTimerSet with
  | true =>
    exact ⟨hids ▸ hok.distinct, hinterface, htimer.trans (by simp [Router.modifyArea, hset]),
      fun hfalse => absurd (hset.symm.trans hfalse) (by decide), hqueued⟩
  | false =>
    rw [hset] at htimer
    have hcount : (r.modifyArea a add).scheduleMaxAgeRemovalTimer.removalTimers =
        r.removalTimers + 1 := List.count_cons_self
    refine ⟨hids ▸ hok.distinct, hinterface, hcount.trans ?_, Bool.noConfusion, hqueued⟩
    rw [htimer]
    rfl

theorem isExpired_maxAge (cfg : Config) (lsa : Lsa) :
    cfg.IsExpired { lsa with LSAge := cfg.LSAMaxAge } := Or.inr rfl

theorem install {x : Router × Bool}
    (h : r.install cfg now a lsa = some x) : KeepsQueue cfg r x.1 := by
  simp only [Router.install, Option.bind_eq_bind, Option.bind_eq_some_iff] at h
  obtain ⟨area, _, list, _, h⟩ := h
  have hlist : KeepsQueue cfg r (r.modifyArea a fun area =>
      area.setLsaList (cfg.installInList now lsa list).1 lsa.LSType) := setLsaList a _ _
  split at h
  · next hmax =>
    obtain ⟨r1, hr1, rfl⟩ := Option.map_eq_some_iff.1 h
    exact hlist.trans (addToMaxAgeLSAList (Or.inl hmax) hr1)
  · cases h
    exact hlist

theorem flush {x : Router × Lsa}
    (h : r.flush cfg current a lsa = some x) : KeepsQueue cfg r x.1 := by
  rw [Router.flush] at h
  split at h
  · cases h
    exact refl r
  · simp only [Option.bind_eq_bind, Option.bind_eq_some_iff] at h
    obtain ⟨area, _, ⟨r1, _⟩, hflood, r2, hadd, h⟩ := h
    cases h
    exact (flood hflood).trans (addToMaxAgeLSAList (isExpired_maxAge cfg lsa) hadd)

/-! ### Receiving an LS update -/

variable {srcAddr : Ip}

theorem updateLSAList {list : List Lsa} {x : Router × Int}
    (h : r.updateLSAList cfg now current i a list lsa srcAddr = some x) : KeepsQueue cfg r x.1 := by
  rw [Router.updateLSAList] at h
  split at h
  · cases h
    exact refl r
  · simp only [Option.bind_eq_bind, Option.bind_eq_some_iff] at h
    obtain ⟨inter, _, ⟨r1, _⟩, hflood, r2, hack, ⟨r3, _⟩, hinstall, h⟩ := h
    cases h
    exact (flood hflood).trans ((of_quiet (Quiet.ackUpdate hack)).trans (install hinstall))

theorem updateLsdb {x : Router × Int}
    (h : r.updateLsdb cfg now current i a lsa srcAddr = some x) : KeepsQueue cfg r x.1 := by
  simp only [Router.updateLsdb, Option.bind_eq_bind, Option.bind_eq_some_iff] at h
  obtain ⟨area, _, h⟩ := h
  split at h
  · cases h
    exact refl r
  · exact updateLSAList h

theorem advance (h : r.advance a lsa = some r') : KeepsQueue cfg r r' := by
  simp only [Router.advance, Option.bind_eq_bind, Option.bind_eq_some_iff] at h
  obtain ⟨area, _, list, _, _, _, h⟩ := h
  cases h
  exact setLsaList a _ _

theorem updateSelf (h : r.updateSelf cfg current i a lsa = some r') : KeepsQueue cfg r r' := by
  simp only [Router.updateSelf, Option.bind_eq_bind, Option.bind_eq_some_iff] at h
  obtain ⟨isFlush, _, h⟩ := h
  split at h
  · obtain ⟨x, hflush, rfl⟩ := Option.map_eq_some_iff.1 h
    exact flush hflush
  · obtain ⟨r1, hadvance, h⟩ := Option.bind_eq_some_iff.1 h
    exact (advance hadvance).trans (of_quiet (Quiet.schedule h))

theorem update (h : r.update cfg now current i a lsa srcAddr = some r') : KeepsQueue cfg r r' := by
  simp only [Router.update, Option.bind_eq_bind, Option.bind_eq_some_iff] at h
  obtain ⟨⟨r1, ret⟩, hlsdb, h⟩ := h
  split at h
  · exact (updateLsdb hlsdb).trans (updateSelf h)
  · cases h
    exact updateLsdb hlsdb

theorem processLsa {n : Nat} {s s' : LsuState}
    (h : Router.processLsa cfg now current i n a srcAddr s lsa = some s') :
    KeepsQueue cfg s.router s'.router := by
  simp only [Router.processLsa, Option.bind_eq_bind, Option.bind_eq_some_iff] at h
  obtain ⟨area, _, h⟩ := h
  split at h
  · cases h
    exact refl _
  split at h
  · cases h
    exact refl _
  split at h
  · obtain ⟨r1, hupdate, rfl⟩ := Option.map_eq_some_iff.1 h
    exact update hupdate
  · obtain ⟨neigh, _, h⟩ := Option.bind_eq_some_iff.1 h
    split at h
    · cases h
      exact refl _
    split at h
    · exact of_quiet (Quiet.ackEqual h)
    split at h
    · cases h
    · obtain ⟨r1, hanswer, rfl⟩ := Option.map_eq_some_iff.1 h
      exact of_quiet (Quiet.answerOlder hanswer)

theorem handleLSUPDATE {LSAs : List Lsa} {isReceived : Bool}
    (h : r.handleLSUPDATE cfg now current srcAddr LSAs isReceived = some r') :
    KeepsQueue cfg r r' := by
  rw [Router.handleLSUPDATE] at h
  split at h
  · cases h
  · cases h
    exact refl r
  · next i n a htarget =>
    split at h
    · cases h
    · next s hloop =>
      have hkept := loop_invariant (I := fun s : LsuState => KeepsQueue cfg r s.router)
        (P := fun _ _ _ => True) (Q := fun _ _ _ => True)
        (fun _ _ _ hs _ hturn => ⟨hs.trans (processLsa hturn), trivial⟩) (refl r)
        (.of_forall (fun _ _ _ _ => trivial) _) hloop
      split at h
      · cases h
        exact hkept.1
      · exact hkept.1.trans (of_quiet (Quiet.lsuEnd h))

/-! ### Originating and ageing -/

theorem setStored (a : Nat) (list : List Lsa) (lsa : Lsa) :
    KeepsQueue cfg r (r.setStored a list lsa) :=
  setLsaList a _ _

theorem updateLsahdr {list : List Lsa} {old : Option Lsa} {x : Router × Option UInt32}
    (h : r.updateLsahdr cfg current a list old = some x) : KeepsQueue cfg r x.1 := by
  rw [Router.updateLsahdr.eq_def] at h
  split at h
  · cases h
    exact refl r
  · split at h
    · obtain ⟨flushed, hflush, rfl⟩ := Option.map_eq_some_iff.1 h
      exact (flush hflush).trans (setStored a list flushed.2)
    · split at h <;> cases h <;> exact refl r

theorem originate (h : r.originate cfg now current a lsa = some r') : KeepsQueue cfg r r' := by
  simp only [Router.originate, Option.bind_eq_bind, Option.bind_eq_some_iff] at h
  obtain ⟨⟨r1, _⟩, hflood, h⟩ := h
  obtain ⟨x, hinstall, rfl⟩ := Option.map_eq_some_iff.1 h
  exact (of_quiet (Quiet.setRouterLSTimer a false)).trans ((flood hflood).trans (install hinstall))

theorem originateRouterLSA {isFlush : Bool}
    (h : r.originateRouterLSA cfg now current a isFlush = some r') : KeepsQueue cfg r r' := by
  simp only [Router.originateRouterLSA, Option.bind_eq_bind, Option.bind_eq_some_iff] at h
  obtain ⟨area, _, lsa, _, ⟨r1, seqNum⟩, hheader, h⟩ := h
  split at h
  · exact (updateLsahdr hheader).trans (of_quiet (Quiet.scheduleRouterLSA h))
  · exact (updateLsahdr hheader).trans (originate h)

theorem modifyLsa (a : Nat) (t : LsType) (idx : Nat) (f : Lsa → Lsa) :
    KeepsQueue cfg r (r.modifyLsa a t idx f) := by
  refine modifyArea a fun area => ?_
  cases t <;> exact ⟨rfl, rfl⟩

theorem refreshLSA {t : LsType} {idx : Nat}
    (h : r.refreshLSA cfg now current a t idx = some r') : KeepsQueue cfg r r' := by
  simp only [Router.refreshLSA, Option.bind_eq_bind, Option.bind_eq_some_iff] at h
  obtain ⟨lsa, _, h⟩ := h
  split at h
  · obtain ⟨⟨r1, flushed⟩, hflush, h⟩ := Option.bind_eq_some_iff.1 h
    exact (flush hflush).trans ((modifyLsa a t idx _).trans (of_quiet (Quiet.schedule h)))
  · obtain ⟨x, hflood, rfl⟩ := Option.map_eq_some_iff.1 h
    exact (modifyLsa a t idx _).trans (flood hflood)

theorem maskDoNotAge_assign {age newAge : Nat} (hage : cfg.checkForDoNotAge age = true)
    (hnew : newAge < doNotAge) : cfg.maskDoNotAge (cfg.assignNewLSAge age newAge) = newAge := by
  have hadd : doNotAge ||| newAge = doNotAge + newAge :=
    (Nat.two_pow_add_eq_or_of_lt (i := 15) hnew 1).symm
  have hdc : cfg.supportDC = true := (Bool.and_eq_true_iff.1 hage).1
  have hbit : (doNotAge + newAge) / doNotAge = 1 := by
    rw [Nat.add_div_left _ (by decide), Nat.div_eq_of_lt hnew]
  rw [Config.assignNewLSAge, if_pos hage, hadd, Config.maskDoNotAge, Config.checkForDoNotAge, hdc,
    hbit, if_pos (by decide), Nat.add_mod_left, Nat.mod_eq_of_lt hnew]

theorem isExpired_incremented
    (h : cfg.maskDoNotAge (Router.incrementedAge cfg lsa) = cfg.LSAMaxAge) :
    cfg.IsExpired
      { lsa with LSAge := cfg.assignNewLSAge lsa.LSAge (Router.incrementedAge cfg lsa) } := by
  refine Or.inl (beq_iff_eq.2 ?_)
  cases hage : cfg.checkForDoNotAge lsa.LSAge with
  | false => simpa [Config.assignNewLSAge, hage] using h
  | true =>
    have hnew : Router.incrementedAge cfg lsa < doNotAge := by
      rw [Router.incrementedAge, if_pos hage, Config.maskDoNotAge, if_pos hage]
      exact Nat.lt_of_le_of_lt (Nat.min_le_left ..) (Nat.mod_lt _ (by decide))
    have hsame : cfg.maskDoNotAge (Router.incrementedAge cfg lsa) = Router.incrementedAge cfg lsa := by
      rw [Config.maskDoNotAge, Config.checkForDoNotAge, Nat.div_eq_of_lt hnew]
      simp
    rw [maskDoNotAge_assign hage hnew, ← hsame]
    exact h

theorem incrementLSAge {place : Nat × LsType × Nat}
    (h : r.incrementLSAge cfg now current place = some r') : KeepsQueue cfg r r' := by
  obtain ⟨a, t, idx⟩ := place
  simp only [Router.incrementLSAge, Option.bind_eq_bind, Option.bind_eq_some_iff] at h
  obtain ⟨lsa, _, h⟩ := h
  split at h
  · cases h
    exact refl r
  have hage : KeepsQueue cfg r (r.modifyLsa a t idx fun _ =>
      { lsa with LSAge := cfg.assignNewLSAge lsa.LSAge (Router.incrementedAge cfg lsa) }) :=
    modifyLsa a t idx _
  split at h
  · exact hage.trans (refreshLSA h)
  split at h
  · next hmax =>
    simp only [Option.bind_eq_some_iff] at h
    obtain ⟨area, _, ⟨r1, _⟩, hflood, hadd⟩ := h
    exact hage.trans ((flood hflood).trans (addToMaxAgeLSAList (isExpired_incremented hmax) hadd))
  · cases h
    exact hage

theorem removeFromSendList (r : Router) (areaId : Ip) (lsa : Lsa) :
    KeepsQueue cfg r (r.removeFromSendList cfg areaId lsa) := by
  refine of_same rfl ?_ rfl rfl
  rw [areaIds, areaIds, Router.removeFromSendList, List.map_map]
  refine List.map_congr_left fun inter _ => ?_
  dsimp only [Function.comp]
  split <;> rfl

theorem removeLSA (h : r.removeLSA cfg a lsa = some r') : KeepsQueue cfg r r' := by
  simp only [Router.removeLSA, Option.bind_eq_bind, Option.bind_eq_some_iff] at h
  obtain ⟨area, _, h⟩ := h
  split at h <;> cases h
  · exact refl r
  · exact (setLsaList a _ _).trans (removeFromSendList _ _ _)

theorem removeStale {stored : Nat × Lsa} (h : r.removeStale cfg now current stored = some r') :
    KeepsQueue cfg r r' := by
  simp only [Router.removeStale, Option.bind_eq_bind] at h
  split at h
  · obtain ⟨⟨r1, flushed⟩, hflush, h⟩ := Option.bind_eq_some_iff.1 h
    exact (flush hflush).trans (removeLSA h)
  · cases h
    exact refl r

theorem loop {α : Type} {body : Router → α → Option Router} {l : List α}
    (hbody : ∀ r x r', body r x = some r' → KeepsQueue cfg r r')
    (h : Lib.loop body (fun _ => false) r l = some r') : KeepsQueue cfg r r' :=
  (loop_invariant (I := fun s => KeepsQueue cfg r s) (P := fun _ _ _ => True)
    (Q := fun _ _ _ => True) (fun _ _ _ hs _ hturn => ⟨hs.trans (hbody _ _ _ hturn), trivial⟩)
    (refl r) (.of_forall (fun _ _ _ _ => trivial) _) h).1

theorem incrementAge (h : r.incrementAge cfg now current = some r') : KeepsQueue cfg r r' := by
  simp only [Router.incrementAge, Option.bind_eq_bind, Option.bind_eq_some_iff] at h
  obtain ⟨r1, hage, h⟩ := h
  have haged : KeepsQueue cfg r r1 := loop (fun _ _ _ => incrementLSAge) hage
  split at h
  · exact haged.trans (loop (fun _ _ _ => removeStale) h)
  · cases h
    exact haged

end KeepsQueue

end Router

end NetSim.Ospf
