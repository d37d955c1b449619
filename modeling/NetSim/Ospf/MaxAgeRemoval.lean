import NetSim.Ospf.LsdbRecency
import NetSim.Ospf.MaxAge
import NetSim.Ospf.SelfOriginated

/-!
# Removing expired LSAs (`OSPF_LSDB.c`)

The removal timer takes the queued LSAs out of the database by their identity alone, so that a live
instance goes if it has replaced a queued one. The timer is pending, once, while LSAs are queued.
-/

namespace NetSim.Ospf

open NetSim.Lib

def Area.lsas (area : Area) (t : LsType) : List Lsa := (area.lsaList t).getD []

theorem Area.lsas_setLsaList (area : Area) (list : List Lsa) (t u : LsType) :
    (area.setLsaList list t).lsas u =
      if u = t ∧ t.isStored = true then list else area.lsas u := by
  cases t <;> cases u <;> rfl

@[mk_iff]
structure Config.SameInstance (cfg : Config) (q old : Lsa) : Prop where
  type : q.LSType = old.LSType
  key : q.key = old.key
  number : q.LSSequenceNumber = old.LSSequenceNumber
  age : cfg.maskDoNotAge q.LSAge = cfg.maskDoNotAge old.LSAge

namespace Config.SameInstance

variable {cfg : Config} {q old : Lsa}

section

variable (h : cfg.SameInstance q old)

include h

theorem isExpired (hq : cfg.IsExpired q) : cfg.IsExpired old := by
  rw [Config.IsExpired, Config.hasMaxAge, ← h.age]
  exact hq

theorem lsaCompare (l : Lsa) : cfg.lsaCompare l q = cfg.lsaCompare l old := by
  rw [Config.lsaCompare, Config.lsaCompare, Config.diffOfAge, Config.diffOfAge, h.number, h.age]

theorem sameLsa (l : Lsa) : l.sameLsa q = l.sameLsa old := by
  rw [Bool.eq_iff_iff, Lsa.sameLsa, Lsa.sameLsa, Bool.and_eq_true, Bool.and_eq_true, beq_iff_eq,
    beq_iff_eq, Lsa.sameId_iff, Lsa.sameId_iff, h.type, h.key]

theorem compareToListMem (l : Lsa) : cfg.compareToListMem l q = cfg.compareToListMem l old := by
  rw [Config.compareToListMem, Config.compareToListMem, h.sameLsa, h.lsaCompare]

theorem isLSAInNeighborRxtList (r : Router) (areaId : Ip) :
    r.isLSAInNeighborRxtList cfg areaId q = r.isLSAInNeighborRxtList cfg areaId old := by
  simp only [Router.isLSAInNeighborRxtList, h.compareToListMem]

end

end Config.SameInstance

namespace Router

variable {cfg : Config}

/-! ## One queued LSA -/

variable {r : Router}

theorem isLSAInNeighborRxtList_congr {areaId areaId' : Ip}
    (h : areaId.int_ip = areaId'.int_ip) (lsa : Lsa) :
    r.isLSAInNeighborRxtList cfg areaId lsa = r.isLSAInNeighborRxtList cfg areaId' lsa := by
  rw [isLSAInNeighborRxtList, isLSAInNeighborRxtList, h]

/-- What stays while LSAs are removed: the retransmission lists and the ids of the areas. -/
structure SameLists (cfg : Config) (r r' : Router) : Prop where
  rxt : ∀ areaId lsa,
    r'.isLSAInNeighborRxtList cfg areaId lsa = r.isLSAInNeighborRxtList cfg areaId lsa
  ids : r'.areaDS.map Area.areaId = r.areaDS.map Area.areaId
  areaIds : r'.areaIds = r.areaIds

theorem SameLists.trans {r' r'' : Router} (h : SameLists cfg r r') (h' : SameLists cfg r' r'') :
    SameLists cfg r r'' :=
  ⟨fun areaId lsa => (h'.rxt areaId lsa).trans (h.rxt areaId lsa), h'.ids.trans h.ids,
    h'.areaIds.trans h.areaIds⟩

theorem SameLists.modifyArea (a : Nat) {f : Area → Area}
    (h : ∀ area, (f area).areaId = area.areaId) : SameLists cfg r (r.modifyArea a f) :=
  ⟨fun _ _ => rfl, map_modify h a r.areaDS, rfl⟩

theorem SameLists.removeFromSendList (r : Router) (areaId : Ip) (lsa : Lsa) :
    SameLists cfg r (r.removeFromSendList cfg areaId lsa) := by
  refine ⟨fun areaId' lsa' => ?_, rfl, ?_⟩
  · rw [isLSAInNeighborRxtList, isLSAInNeighborRxtList, Router.removeFromSendList, List.any_map]
    congr 1
    funext inter
    dsimp only [Function.comp]
    split
    · rw [List.any_map]
      rfl
    · rfl
  · rw [Router.areaIds, Router.areaIds, Router.removeFromSendList, List.map_map]
    refine List.map_congr_left fun inter _ => ?_
    dsimp only [Function.comp]
    split <;> rfl

theorem removeLSA_spec (cfg : Config) {a : Nat} {area : Area}
    (harea : r.area? a = some area) (lsa : Lsa) :
    ∃ r' area', r.removeLSA cfg a lsa = some r' ∧ SameLists cfg r r' ∧
      (∀ b, r'.area? b = if b = a then some area' else r.area? b) ∧
      area'.areaId = area.areaId ∧ area'.maxAgeList = area.maxAgeList ∧
      (∀ t, ∀ old ∈ area.lsas t, old ∈ area'.lsas t ∨ (lsa.LSType = t ∧ lsa.key = old.key)) ∧
      r'.events = r.events ∧ r'.isMaxAgeRemovalTimerSet = r.isMaxAgeRemovalTimerSet := by
  cases hlist : area.lsaList lsa.LSType with
  | none =>
    refine ⟨r, area, by simp [removeLSA, harea, hlist], ⟨fun _ _ => rfl, rfl, rfl⟩, fun b => ?_,
      rfl, rfl, fun t old hold => Or.inl hold, rfl, rfl⟩
    split
    · next hb => rw [hb, harea]
    · rfl
  | some list =>
    let kept := list.filter fun l => l.key ≠ lsa.key
    have hset : SameLists cfg r (r.modifyArea a fun area => area.setLsaList kept lsa.LSType) :=
      .modifyArea a fun area => by cases lsa.LSType <;> rfl
    refine ⟨_, area.setLsaList kept lsa.LSType, by
      simp only [removeLSA, harea, hlist, Option.bind_eq_bind, Option.bind_some]; rfl,
      hset.trans (.removeFromSendList _ area.areaId lsa), fun b => ?_, ?_, ?_, fun t old hold => ?_,
      rfl, rfl⟩
    · exact (area?_modifyArea a b _).trans (by rw [harea, Option.map_some])
    · cases lsa.LSType <;> rfl
    · cases lsa.LSType <;> rfl
    · rw [Area.lsas_setLsaList]
      split
      · next ht =>
        obtain ⟨rfl, -⟩ := ht
        by_cases hkey : old.key = lsa.key
        · exact Or.inr ⟨rfl, hkey.symm⟩
        · rw [Area.lsas, hlist, Option.getD_some] at hold
          exact Or.inl (List.mem_filter.2 ⟨hold, by simpa using hkey⟩)
      · exact Or.inl hold

/-! ## The queue of an area -/

/-- The queue has shrunk, and an LSA that is gone has the identity of a queued one that no neighbour
has to acknowledge. -/
structure AreaCleared (cfg : Config) (r₀ : Router) (area₀ area : Area) : Prop where
  id : area.areaId = area₀.areaId
  queue : area.maxAgeList ⊆ area₀.maxAgeList
  taken : ∀ t, ∀ old ∈ area₀.lsas t, old ∈ area.lsas t ∨ ∃ q ∈ area₀.maxAgeList,
    r₀.isLSAInNeighborRxtList cfg area₀.areaId q = false ∧ q.LSType = t ∧ q.key = old.key

/-- What the removal has done so far. The second component of `s` tells whether the timer is
scheduled again. -/
structure Removing (cfg : Config) (r₀ : Router) (s : Router × Bool) : Prop where
  same : SameLists cfg r₀ s.1
  areas : ∀ a area₀, r₀.area? a = some area₀ →
    ∃ area, s.1.area? a = some area ∧ AreaCleared cfg r₀ area₀ area
  timers : s.1.removalTimers = r₀.removalTimers + if s.2 then 1 else 0
  timerSet : s.1.isMaxAgeRemovalTimerSet = s.2

def Settled (s : Router × Bool) (a : Nat) : Prop :=
  ∀ area, s.1.area? a = some area → area.maxAgeList ≠ [] → s.2 = true

/-- From `s` to `s'` the queues shrink, and the timer stays scheduled. -/
structure Shrinks (s s' : Router × Bool) : Prop where
  queue : ∀ a area', s'.1.area? a = some area' →
    ∃ area, s.1.area? a = some area ∧ area'.maxAgeList ⊆ area.maxAgeList
  scheduled : s.2 = true → s'.2 = true

theorem Shrinks.refl (s : Router × Bool) : Shrinks s s :=
  ⟨fun _ area' h => ⟨area', h, List.Subset.refl _⟩, id⟩

theorem Shrinks.trans {s s' s'' : Router × Bool} (h : Shrinks s s') (h' : Shrinks s' s'') :
    Shrinks s s'' := by
  refine ⟨fun a area'' harea'' => ?_, fun hs => h'.scheduled (h.scheduled hs)⟩
  obtain ⟨area', harea', hsub'⟩ := h'.queue a area'' harea''
  obtain ⟨area, harea, hsub⟩ := h.queue a area' harea'
  exact ⟨area, harea, List.Subset.trans hsub' hsub⟩

theorem Settled.shrinks {s s' : Router × Bool} {a : Nat} (h : Settled s a) (hs : Shrinks s s') :
    Settled s' a := by
  intro area' harea' hne
  obtain ⟨area, harea, hsub⟩ := hs.queue a area' harea'
  refine hs.scheduled (h area harea fun hnil => hne ?_)
  rw [hnil] at hsub
  exact List.subset_nil.1 hsub

variable {r₀ : Router} {s : Router × Bool} {a : Nat} {area₀ area : Area} {areaId : Ip} {lsa : Lsa}

theorem removeMaxAge_kept (h : Removing cfg r₀ s)
    (hrxt : r₀.isLSAInNeighborRxtList cfg areaId lsa = true) :
    ∃ s', removeMaxAge cfg areaId a s lsa = some s' ∧ Removing cfg r₀ s' ∧ Shrinks s s' ∧
      s'.2 = true ∧ s'.1.areaDS = s.1.areaDS := by
  obtain ⟨r, scheduledTimer⟩ := s
  have hin : r.isLSAInNeighborRxtList cfg areaId lsa = true := (h.same.rxt areaId lsa).trans hrxt
  have htimers := h.timers
  cases scheduledTimer with
  | true =>
    exact ⟨(r, true), by simp [removeMaxAge, hin], h, .refl _, rfl, rfl⟩
  | false =>
    refine ⟨(r.scheduleMaxAgeRemovalTimer, true), by simp [removeMaxAge, hin],
      ⟨h.same.trans ⟨fun _ _ => rfl, rfl, rfl⟩, h.areas, ?_, rfl⟩,
      ⟨fun _ area' harea => ⟨area', harea, List.Subset.refl _⟩, fun _ => rfl⟩, rfl, rfl⟩
    have hcount : r.scheduleMaxAgeRemovalTimer.removalTimers = r.removalTimers + 1 :=
      List.count_cons_self
    rw [hcount, htimers]
    rfl

theorem removeMaxAge_removed (h : Removing cfg r₀ s) (harea0 : r₀.area? a = some area₀)
    (hid : areaId.int_ip = area₀.areaId.int_ip) (harea : s.1.area? a = some area)
    (hqueued : lsa ∈ area₀.maxAgeList) (hrxt : r₀.isLSAInNeighborRxtList cfg areaId lsa = false) :
    ∃ s' area', removeMaxAge cfg areaId a s lsa = some s' ∧ Removing cfg r₀ s' ∧ Shrinks s s' ∧
      s'.2 = s.2 ∧ s'.1.area? a = some area' ∧
      area'.maxAgeList = area.maxAgeList.erase lsa := by
  obtain ⟨r, scheduledTimer⟩ := s
  have hin : r.isLSAInNeighborRxtList cfg areaId lsa = false := (h.same.rxt areaId lsa).trans hrxt
  obtain ⟨r1, area1, hremove, hsame, hareas, hareaId, hqueue, htaken, hevents, hset⟩ :=
    removeLSA_spec cfg harea lsa
  let erase := fun area : Area => { area with maxAgeList := area.maxAgeList.erase lsa }
  have hstep : removeMaxAge cfg areaId a (r, scheduledTimer) lsa =
      some (r1.modifyArea a erase, scheduledTimer) := by
    simp only [removeMaxAge, hin, hremove, Bool.false_eq_true, if_false, Option.map_some]
    rfl
  have hareas' : ∀ b, (r1.modifyArea a erase).area? b =
      if b = a then some (erase area1) else r.area? b := by
    intro b
    rw [area?_modifyArea, hareas a, if_pos rfl, Option.map_some, hareas b]
    split <;> rfl
  have hsub : (erase area1).maxAgeList ⊆ area.maxAgeList := by
    rw [← hqueue]
    exact List.erase_subset
  refine ⟨_, erase area1, hstep, ⟨(h.same.trans hsame).trans (.modifyArea a fun _ => rfl), ?_, ?_,
    hset.trans h.timerSet⟩, ⟨?_, id⟩, rfl, ?_, by rw [← hqueue]⟩
  · intro b area0' hb
    obtain ⟨old, hold, hcleared⟩ := h.areas b area0' hb
    rw [hareas' b]
    by_cases hba : b = a
    · subst hba
      cases harea.symm.trans hold
      cases harea0.symm.trans hb
      rw [if_pos rfl]
      refine ⟨_, rfl, hareaId.trans hcleared.id, List.Subset.trans hsub hcleared.queue,
        fun t l hl => ?_⟩
      rcases hcleared.taken t l hl with hl | htook
      · rcases htaken t l hl with hl | ⟨htype, hkey⟩
        · left
          cases t <;> exact hl
        · rw [isLSAInNeighborRxtList_congr hid] at hrxt
          exact Or.inr ⟨lsa, hqueued, hrxt, htype, hkey⟩
      · exact Or.inr htook
    · rw [if_neg hba]
      exact ⟨old, hold, hcleared⟩
  · rw [← h.timers, removalTimers, removalTimers, ← hevents]
    rfl
  · intro b area' hb
    rw [hareas' b] at hb
    by_cases hba : b = a
    · rw [if_pos hba] at hb
      cases hb
      exact ⟨area, hba ▸ harea, hsub⟩
    · rw [if_neg hba] at hb
      exact ⟨area', hb, List.Subset.refl _⟩
  · exact (hareas' a).trans (if_pos rfl)

theorem removeMaxAge_loop (harea0 : r₀.area? a = some area₀)
    (hid : areaId.int_ip = area₀.areaId.int_ip) {l kept : List Lsa} (h : Removing cfg r₀ s)
    (harea : s.1.area? a = some area) (hqueue : area.maxAgeList = kept ++ l)
    (hkept : ∀ q ∈ kept, r₀.isLSAInNeighborRxtList cfg areaId q = true)
    (hscheduled : kept ≠ [] → s.2 = true) (hl : l ⊆ area₀.maxAgeList) :
    ∃ s', loop (removeMaxAge cfg areaId a) (fun _ => false) s l = some s' ∧
      Removing cfg r₀ s' ∧ Shrinks s s' ∧ Settled s' a := by
  induction l generalizing kept s area with
  | nil =>
    refine ⟨s, rfl, h, .refl s, fun area' harea' hne => ?_⟩
    cases harea.symm.trans harea'
    rw [hqueue, List.append_nil] at hne
    exact hscheduled hne
  | cons lsa l ih =>
    have hrest : l ⊆ area₀.maxAgeList := fun x hx => hl (List.mem_cons_of_mem lsa hx)
    cases hrxt : r₀.isLSAInNeighborRxtList cfg areaId lsa with
    | true =>
      obtain ⟨s1, hstep, h1, hshrinks, hset, hareas⟩ := removeMaxAge_kept (a := a) h hrxt
      have harea1 : s1.1.area? a = some area := by
        rw [area?, hareas]
        exact harea
      have hkept1 : ∀ q ∈ kept ++ [lsa], r₀.isLSAInNeighborRxtList cfg areaId q = true := by
        intro q hq
        rcases List.mem_append.1 hq with hq | hq
        · exact hkept q hq
        · rw [List.mem_singleton.1 hq]
          exact hrxt
      obtain ⟨s', hloop, h', hshrinks', hsettled⟩ :=
        ih h1 harea1 (by rw [hqueue, List.append_assoc]; rfl) hkept1 (fun _ => hset) hrest
      refine ⟨s', ?_, h', hshrinks.trans hshrinks', hsettled⟩
      rw [loop, hstep]
      exact hloop
    | false =>
      obtain ⟨s1, area1, hstep, h1, hshrinks, hset, harea1, herase⟩ :=
        removeMaxAge_removed h harea0 hid harea (hl List.mem_cons_self) hrxt
      have hnot : lsa ∉ kept := fun hmem => by rw [hkept lsa hmem] at hrxt; cases hrxt
      have hqueue1 : area1.maxAgeList = kept ++ l := by
        rw [herase, hqueue, List.erase_append_right _ hnot, List.erase_cons_head]
      obtain ⟨s', hloop, h', hshrinks', hsettled⟩ :=
        ih h1 harea1 hqueue1 hkept (fun hne => hset.trans (hscheduled hne)) hrest
      refine ⟨s', ?_, h', hshrinks.trans hshrinks', hsettled⟩
      rw [loop, hstep]
      exact hloop

theorem areaGetId_eq {r' : Router} (h : r'.areaDS.map Area.areaId = r.areaDS.map Area.areaId)
    (areaId : Ip) : r'.areaGetId areaId = r.areaGetId areaId := by
  have hmap : ∀ r : Router, r.areaGetId areaId =
      (r.areaDS.map Area.areaId).findIdx? fun id => id.int_ip == areaId.int_ip := by
    intro r
    rw [areaGetId, List.findIdx?_map]
    rfl
  rw [hmap, hmap, h]

theorem areaGetId_spec {areaId : Ip} {a : Nat} (h : r.areaGetId areaId = some a) :
    ∃ area, r.area? a = some area ∧ areaId.int_ip = area.areaId.int_ip := by
  obtain ⟨hlt, heq, -⟩ := List.findIdx?_eq_some_iff_getElem.1 h
  exact ⟨r.areaDS[a], List.getElem?_eq_getElem hlt, (beq_iff_eq.1 heq).symm⟩

theorem removeMaxAgeOf_spec (h : Removing cfg r₀ s) (thisInterface : Interface) :
    ∃ s', removeMaxAgeOf cfg s thisInterface = some s' ∧ Removing cfg r₀ s' ∧ Shrinks s s' ∧
      ∀ a, r₀.areaGetId thisInterface.areaId = some a → Settled s' a := by
  have hget := areaGetId_eq h.same.ids thisInterface.areaId
  rw [removeMaxAgeOf, hget]
  cases hfound : r₀.areaGetId thisInterface.areaId with
  | none => exact ⟨s, rfl, h, .refl s, nofun⟩
  | some a =>
    obtain ⟨area₀, harea0, hid⟩ := areaGetId_spec hfound
    obtain ⟨area, harea, hcleared⟩ := h.areas a area₀ harea0
    obtain ⟨s', hloop, h', hshrinks, hsettled⟩ := removeMaxAge_loop harea0 hid h harea
      (List.nil_append _).symm nofun (fun hne => absurd rfl hne) hcleared.queue
    obtain ⟨area', harea', -⟩ := h'.areas a area₀ harea0
    have hlast : ¬(!area'.maxAgeList.isEmpty && !s'.1.isMaxAgeRemovalTimerSet && !s'.2) = true := by
      intro hnot
      simp only [Bool.and_eq_true, Bool.not_eq_true', List.isEmpty_eq_false_iff] at hnot
      rw [hsettled area' harea' hnot.1.1] at hnot
      cases hnot.2
    refine ⟨s', ?_, h', hshrinks, fun b hb => ?_⟩
    · simp only [harea, hloop, harea', Option.bind_eq_bind, Option.bind_some]
      rw [if_neg hlast]
    · cases hb
      exact hsettled

theorem removeMaxAgeOf_loop (h : Removing cfg r₀ s) (interfaces : List Interface) :
    ∃ s', loop (removeMaxAgeOf cfg) (fun _ => false) s interfaces = some s' ∧
      Removing cfg r₀ s' ∧ Shrinks s s' ∧
      ∀ inter ∈ interfaces, ∀ a, r₀.areaGetId inter.areaId = some a → Settled s' a := by
  induction interfaces generalizing s with
  | nil => exact ⟨s, rfl, h, .refl s, nofun⟩
  | cons inter rest ih =>
    obtain ⟨s1, hstep, h1, hshrinks, hsettled⟩ := removeMaxAgeOf_spec h inter
    obtain ⟨s', hloop, h', hshrinks', hsettled'⟩ := ih h1
    refine ⟨s', ?_, h', hshrinks.trans hshrinks', List.forall_mem_cons.2 ⟨fun a ha => ?_, hsettled'⟩⟩
    · rw [loop, hstep]
      exact hloop
    · exact (hsettled a ha).shrinks hshrinks'

/-! ## The timer -/

def expireMaxAge (cfg : Config) (r : Router) : Option Router :=
  if .maxAgeRemovalTimer ∈ r.events then
    { r with events := r.events.erase .maxAgeRemovalTimer }.handleMaxAgeRemovalTimer cfg
  else none

theorem queues_ids (r : Router) :
    r.queues.map Prod.fst = (r.areaDS.map Area.areaId).map Ip.int_ip := by
  rw [queues, List.map_map, List.map_map]
  rfl

theorem mem_queues {q : Nat × List Lsa} (hq : q ∈ r.queues) :
    ∃ a area, r.area? a = some area ∧ q = (area.areaId.int_ip, area.maxAgeList) := by
  obtain ⟨area, harea, rfl⟩ := List.mem_map.1 hq
  obtain ⟨a, ha⟩ := List.mem_iff_getElem?.1 harea
  exact ⟨a, area, ha, rfl⟩

theorem mem_queues_of_area {a : Nat} {area : Area} (harea : r.area? a = some area) :
    (area.areaId.int_ip, area.maxAgeList) ∈ r.queues :=
  List.mem_map_of_mem (List.mem_of_getElem? harea)

theorem QueueOk.exists_interface (hok : r.QueueOk cfg) {a : Nat} {area : Area}
    (harea : r.area? a = some area) : ∃ inter ∈ r.ospfIf, r.areaGetId inter.areaId = some a := by
  obtain ⟨inter, hinter, hid⟩ := List.mem_map.1 (hok.interface _ (mem_queues_of_area harea))
  obtain ⟨hlt, hget⟩ := List.getElem?_eq_some_iff.1 harea
  dsimp only at hid
  refine ⟨inter, hinter, List.findIdx?_eq_some_iff_getElem.2 ⟨hlt, ?_, fun b hb hsame => ?_⟩⟩
  · rw [hget, hid]
    exact beq_self_eq_true _
  · have hdistinct := hok.distinct
    rw [queues_ids, List.map_map] at hdistinct
    have hne := (List.nodup_iff_getElem?_ne_getElem?.1 hdistinct) b a hb (by simpa using hlt)
    have hltb : b < r.areaDS.length := Nat.lt_trans hb hlt
    refine hne ?_
    simp only [List.getElem?_map, List.getElem?_eq_getElem hltb, List.getElem?_eq_getElem hlt,
      Option.map_some, Function.comp, Option.some.injEq]
    rw [hget, ← hid]
    exact beq_iff_eq.1 hsame

theorem expireMaxAge_spec (hok : r.QueueOk cfg) (hmem : Event.maxAgeRemovalTimer ∈ r.events) :
    ∃ r', r.expireMaxAge cfg = some r' ∧ r'.QueueOk cfg ∧
      ((r.isAnyNeighborInExchangeOrLoadingState = true ∧ r'.areaDS = r.areaDS) ∨
        (r.isAnyNeighborInExchangeOrLoadingState = false ∧ ∀ a area₀, r.area? a = some area₀ →
          ∃ area, r'.area? a = some area ∧ AreaCleared cfg r area₀ area)) := by
  have hpos : 0 < r.removalTimers := List.count_pos_iff.2 hmem
  have htimer := hok.timer
  have hset : r.isMaxAgeRemovalTimerSet = true := by
    by_contra hnot
    rw [if_neg hnot] at htimer
    omega
  rw [if_pos hset] at htimer
  let r₀ : Router := { r with
    events := r.events.erase .maxAgeRemovalTimer, isMaxAgeRemovalTimerSet := false }
  have hcount : r₀.removalTimers = 0 := by
    have herase : r₀.removalTimers = r.removalTimers - 1 := List.count_erase_self
    omega
  rw [expireMaxAge, if_pos hmem, handleMaxAgeRemovalTimer]
  cases hbusy : r.isAnyNeighborInExchangeOrLoadingState with
  | true =>
    refine ⟨_, if_pos hbusy, ?_, Or.inl ⟨rfl, rfl⟩⟩
    refine ⟨hok.distinct, hok.interface, ?_, nofun, hok.expired⟩
    have hadd : ({ r with events := r.events.erase .maxAgeRemovalTimer } :
        Router).scheduleMaxAgeRemovalTimer.removalTimers = r₀.removalTimers + 1 :=
      List.count_cons_self
    rw [hadd, hcount]
    rfl
  | false =>
    have hstart : Removing cfg r₀ (r₀, false) :=
      ⟨⟨fun _ _ => rfl, rfl, rfl⟩, fun a area₀ harea0 =>
        ⟨area₀, harea0, rfl, List.Subset.refl _, fun _ _ => Or.inl⟩, rfl, rfl⟩
    obtain ⟨s', hloop, h', -, hsettled⟩ := removeMaxAgeOf_loop hstart r.ospfIf
    have hresult : (loop (removeMaxAgeOf cfg) (fun _ => false) (r₀, false) r.ospfIf).map Prod.fst =
        some s'.1 := by rw [hloop, Option.map_some]
    have hareas : ∀ a area₀, r.area? a = some area₀ →
        ∃ area, s'.1.area? a = some area ∧ AreaCleared cfg r area₀ area := by
      intro a area₀ harea0
      obtain ⟨area, harea, hcleared⟩ := h'.areas a area₀ harea0
      exact ⟨area, harea, hcleared.id, hcleared.queue, hcleared.taken⟩
    refine ⟨s'.1, (if_neg (by rw [Bool.not_eq_true]; exact hbusy)).trans hresult, ?_,
      Or.inr ⟨rfl, hareas⟩⟩
    have hlength : s'.1.areaDS.length = r.areaDS.length := by
      simpa only [List.length_map] using congrArg List.length h'.same.ids
    have hids : s'.1.queues.map Prod.fst = r.queues.map Prod.fst := by
      rw [queues_ids, queues_ids, h'.same.ids]
    refine ⟨hids ▸ hok.distinct, fun q hq => ?_, ?_, fun hnot q hq => ?_, fun q hq lsa hlsa => ?_⟩
    · obtain ⟨q', hq', heq⟩ := List.mem_map.1 (hids ▸ List.mem_map_of_mem hq)
      rw [h'.same.areaIds, ← heq]
      exact hok.interface q' hq'
    · rw [h'.timers, hcount, h'.timerSet, Nat.zero_add]
    · obtain ⟨a, area, harea, rfl⟩ := mem_queues hq
      have hlt : a < r.areaDS.length := hlength ▸ (List.getElem?_eq_some_iff.1 harea).1
      obtain ⟨inter, hinter, hget⟩ := hok.exists_interface (List.getElem?_eq_getElem hlt)
      by_contra hne
      have hscheduled := hsettled inter hinter a hget area harea hne
      rw [h'.timerSet, hscheduled] at hnot
      cases hnot
    · obtain ⟨a, area, harea, rfl⟩ := mem_queues hq
      have hlt : a < r.areaDS.length := hlength ▸ (List.getElem?_eq_some_iff.1 harea).1
      have harea0 : r.area? a = some r.areaDS[a] := List.getElem?_eq_getElem hlt
      obtain ⟨area', harea', hcleared⟩ := hareas a _ harea0
      cases harea.symm.trans harea'
      exact hok.expired _ (mem_queues_of_area harea0) lsa (hcleared.queue hlsa)

end Router

/-! ## Runs -/

/-- An event of the router, or the expiry of the removal timer. -/
inductive MaxAgeEvent
  | own (ev : OwnEvent)
  | maxAgeRemovalTimer

/-- The interfaces stay in their areas, whatever else happens to them. -/
def maxAgeStep (cfg : Config) (r : Router) : MaxAgeEvent → Option Router
  | .own (.other ospfIf) =>
    if (ospfIf.map fun inter => inter.areaId.int_ip) = r.areaIds then
      ownStep cfg r (.other ospfIf)
    else none
  | .own ev => ownStep cfg r ev
  | .maxAgeRemovalTimer => r.expireMaxAge cfg

/-- Every stored LSA stays, unless it has expired, no neighbour is in `Exchange` or `Loading` or has
to acknowledge it, and it is not more recent than a queued instance. -/
def RemovesExpired (cfg : Config) (r r' : Router) : Prop :=
  ∀ a area, r.area? a = some area → ∃ area', r'.area? a = some area' ∧
    ∀ t, ∀ old ∈ area.lsas t, old ∈ area'.lsas t ∨
      (r.isAnyNeighborInExchangeOrLoadingState = false ∧ cfg.IsExpired old ∧
        r.isLSAInNeighborRxtList cfg area.areaId old = false ∧
        ∃ q ∈ area.maxAgeList, q.sameLsa old = true ∧ cfg.lsaCompare q old ≤ 0)

def TimerPending (r : Router) : Prop :=
  (∃ area ∈ r.areaDS, area.maxAgeList ≠ []) → r.removalTimers = 1

/-- What is stored under the identity of a queued LSA that the timer removes is a queued instance.
-/
def RemovalOk (cfg : Config) (r : Router) : Prop :=
  r.isAnyNeighborInExchangeOrLoadingState = false → ∀ area ∈ r.areaDS, ∀ q ∈ area.maxAgeList,
    r.isLSAInNeighborRxtList cfg area.areaId q = false →
      ∀ old ∈ area.lsas q.LSType, old.key = q.key →
        ∃ q' ∈ area.maxAgeList, r.isLSAInNeighborRxtList cfg area.areaId q' = false ∧
          cfg.SameInstance q' old

section

variable {cfg : Config} {r r' : Router}

theorem Router.QueueOk.timerPending (hok : r.QueueOk cfg) : TimerPending r := by
  rintro ⟨area, harea, hne⟩
  have htimer := hok.timer
  cases hset : r.isMaxAgeRemovalTimerSet with
  | false => exact absurd (hok.pending hset _ (List.mem_map_of_mem harea)) hne
  | true => rwa [hset] at htimer

theorem Router.QueueOk.removesExpired (hok : r.QueueOk cfg) (hright : RemovalOk cfg r)
    (h : r.expireMaxAge cfg = some r') : RemovesExpired cfg r r' := by
  have hmem : Event.maxAgeRemovalTimer ∈ r.events := by
    by_contra hnot
    rw [expireMaxAge, if_neg hnot] at h
    cases h
  obtain ⟨r'', hr'', -, hcases⟩ := expireMaxAge_spec hok hmem
  cases h.symm.trans hr''
  intro a area harea
  rcases hcases with ⟨-, hsame⟩ | ⟨hidle, hcleared⟩
  · exact ⟨area, by rw [area?, hsame]; exact harea, fun _ _ => Or.inl⟩
  · obtain ⟨area', harea', hcleared⟩ := hcleared a area harea
    refine ⟨area', harea', fun t old hold => ?_⟩
    rcases hcleared.taken t old hold with hold | ⟨q, hq, hrxt, rfl, hkey⟩
    · exact Or.inl hold
    obtain ⟨q', hq', hrxt', hinstance⟩ :=
      hright hidle area (List.mem_of_getElem? harea) q hq hrxt old hold hkey.symm
    have hsame : q'.sameLsa old = true := by
      rw [← hinstance.sameLsa, Lsa.sameLsa, beq_self_eq_true, Bool.true_and, Lsa.sameId_iff]
    exact Or.inr ⟨hidle, hinstance.isExpired (hok.expired _ (mem_queues_of_area harea) q' hq'),
      (hinstance.isLSAInNeighborRxtList r _).symm.trans hrxt', q', hq', hsame,
      Int.le_of_eq ((hinstance.lsaCompare q').symm.trans (lsaCompare_self q'))⟩

theorem Router.QueueOk.step {ev : MaxAgeEvent} (hok : r.QueueOk cfg)
    (h : maxAgeStep cfg r ev = some r') : r'.QueueOk cfg := by
  cases ev with
  | maxAgeRemovalTimer =>
    have hmem : Event.maxAgeRemovalTimer ∈ r.events := by
      by_contra hnot
      rw [maxAgeStep, expireMaxAge, if_neg hnot] at h
      cases h
    obtain ⟨r'', hr'', hok', -⟩ := expireMaxAge_spec hok hmem
    cases h.symm.trans hr''
    exact hok'
  | own ev =>
    cases ev with
    | lsu now current srcAddr LSAs isReceived => exact KeepsQueue.handleLSUPDATE h hok
    | scheduleLSDB now current a isFlush => exact KeepsQueue.originateRouterLSA h hok
    | incrementAge now current => exact KeepsQueue.incrementAge h hok
    | other ospfIf =>
      obtain ⟨hareas, h⟩ := Option.ite_none_right_eq_some.1 h
      cases h
      have hkeep : KeepsQueue cfg r { r with ospfIf := ospfIf } := .of_same rfl hareas rfl rfl
      exact hkeep hok

/-- In every run whose expiries meet the condition, the timer removes only what it should, and is
pending while LSAs are queued. -/
theorem maxAge_removed {r₀ : Router} {tr : List (Router × MaxAgeEvent)}
    (run : Run (maxAgeStep cfg) r₀ tr r) (h₀ : r₀.QueueOk cfg)
    (hright : ∀ x ∈ tr, x.2 = .maxAgeRemovalTimer → RemovalOk cfg x.1) :
    (TimerPending r ∧ (Event.maxAgeRemovalTimer ∈ r.events → (r.expireMaxAge cfg).isSome)) ∧
      ∀ x ∈ tr, x.2 = .maxAgeRemovalTimer → ∀ r', maxAgeStep cfg x.1 x.2 = some r' →
        RemovesExpired cfg x.1 r' := by
  have hok : ∀ {tr : List (Router × MaxAgeEvent)} {r : Router},
      Run (maxAgeStep cfg) r₀ tr r → r.QueueOk cfg := fun run =>
    run.always (P := fun r => r.QueueOk cfg) h₀ fun _ _ _ hok hstep => hok.step hstep
  refine ⟨⟨(hok run).timerPending, fun hmem => ?_⟩, fun x hx hexpiry r' hr' => ?_⟩
  · obtain ⟨r', hr', -⟩ := Router.expireMaxAge_spec (hok run) hmem
    rw [hr']
    rfl
  · obtain ⟨pre, post, -, -, hpre, -⟩ := run.prefix_of_mem hx
    rw [hexpiry] at hr'
    exact (hok hpre).removesExpired (hright x hx hexpiry) hr'

end

/-! ## Examples -/

theorem exampleRouter_queueOk : exampleRouter.QueueOk exampleConfig where
  distinct := by decide
  interface := by decide
  timer := rfl
  pending := fun _ => by decide
  expired := by
    intro q hq
    rw [List.mem_singleton.1 hq]
    exact nofun

instance (cfg : Config) (q old : Lsa) : Decidable (cfg.SameInstance q old) :=
  decidable_of_iff' _ (Config.sameInstance_iff cfg q old)

instance (cfg : Config) (r : Router) : Decidable (RemovalOk cfg r) := by
  unfold RemovalOk
  infer_instance

/-- An instance of the LSA that has reached `LSAMaxAge`. -/
def exampleExpired (n : UInt32) : Lsa := { exampleLsa n 7 with LSAge := 3600 }

def exampleArrival (seconds : Nat) (lsa : Lsa) : MaxAgeEvent :=
  .own (.lsu (seconds * second) 1 ⟨20, 20⟩ [lsa] false)

/-- Whatever is flooded, flushed and aged, the timer is pending once while LSAs are queued, at most
once otherwise, and what is queued has expired. -/
theorem queueOk_of_run {r₀ : Router} {tr : List (Router × MaxAgeEvent)} (h₀ : r₀.QueueOk cfg)
    (run : Run (maxAgeStep cfg) r₀ tr r) : r.QueueOk cfg :=
  run.always h₀ fun _ _ _ hok hstep => hok.step hstep

/-- The expired instance waits for the timer. -/
theorem queueOk_of_run_expired : ∃ r : Router, (∃ q ∈ r.queues, q.2 ≠ []) ∧
    r.QueueOk exampleConfig := by
  have hexec : (exec (maxAgeStep exampleConfig) exampleRouter
      [fun _ => some (exampleArrival 10 (exampleLsa 0 7)),
        fun _ => some (exampleArrival 20 (exampleExpired 1))]).any
      (fun x => decide (∃ q ∈ x.2.queues, q.2 ≠ [])) = true := by decide +kernel
  obtain ⟨tr, r, run, htest⟩ := run_of_exec hexec
  exact ⟨r, of_decide_eq_true htest, queueOk_of_run exampleRouter_queueOk run⟩

/-- An LSA arrives and then an expired instance of it, which the timer removes. -/
theorem maxAge_removed_flushed :
    ∃ tr r, Run (maxAgeStep exampleConfig) exampleRouter tr r ∧ tr.length = 3 ∧
      (r.area? 0).map (fun area => area.lsas .router) = some [] ∧ TimerPending r ∧
      ∀ x ∈ tr, x.2 = .maxAgeRemovalTimer → ∀ r', maxAgeStep exampleConfig x.1 x.2 = some r' →
        RemovesExpired exampleConfig x.1 r' := by
  have hexec : (exec (maxAgeStep exampleConfig) exampleRouter
      [fun _ => some (exampleArrival 10 (exampleLsa 0 7)),
        fun _ => some (exampleArrival 20 (exampleExpired 1)),
        fun _ => some .maxAgeRemovalTimer]).any (fun x =>
      decide (x.1.length = 3 ∧ (x.2.area? 0).map (fun area => area.lsas .router) = some []) &&
      x.1.all fun y =>
        match y.2 with
        | .own _ => true
        | .maxAgeRemovalTimer => decide (RemovalOk exampleConfig y.1)) = true := by
    decide +kernel
  obtain ⟨tr, r, run, htest⟩ := run_of_exec hexec
  rw [Bool.and_eq_true, decide_eq_true_eq, List.all_eq_true] at htest
  obtain ⟨⟨hlen, hempty⟩, hright⟩ := htest
  have hremoved := maxAge_removed run exampleRouter_queueOk fun x hx hexpiry => by
    have hx := hright x hx
    rw [hexpiry] at hx
    exact of_decide_eq_true hx
  exact ⟨tr, r, run, hlen, hempty, hremoved.1.1, hremoved.2⟩

/-- The claim fails: between the expired instance and the timer a newer one arrives, which the timer
removes. -/
theorem not_maxAge_removed :
    ¬∀ (cfg : Config) (r₀ : Router) (tr : List (Router × MaxAgeEvent)) (r : Router),
      Run (maxAgeStep cfg) r₀ tr r → r₀.QueueOk cfg →
      ∀ x ∈ tr, x.2 = .maxAgeRemovalTimer → ∀ r', maxAgeStep cfg x.1 x.2 = some r' →
        RemovesExpired cfg x.1 r' := by
  intro hclaim
  let newer : Lsa := { exampleLsa 2 7 with time := 30 * second }
  have hexec : (exec (maxAgeStep exampleConfig) exampleRouter
      [fun _ => some (exampleArrival 10 (exampleLsa 0 7)),
        fun _ => some (exampleArrival 20 (exampleExpired 1)),
        fun _ => some (exampleArrival 30 (exampleLsa 2 7)),
        fun _ => some .maxAgeRemovalTimer]).any (fun x =>
      match x.1 with
      | (s, .maxAgeRemovalTimer) :: _ =>
        decide (maxAgeStep exampleConfig s .maxAgeRemovalTimer = some x.2 ∧
          (∃ area ∈ s.area? 0, newer ∈ area.lsas .router) ∧
          ∀ area ∈ x.2.area? 0, newer ∉ area.lsas .router)
      | _ => false) = true := by
    decide +kernel
  obtain ⟨tr, r, run, htest⟩ := run_of_exec hexec
  dsimp only at htest
  split at htest
  · next s _ =>
    obtain ⟨hstep, ⟨area, harea, hstored⟩, hgone⟩ := of_decide_eq_true htest
    have hremoves := hclaim exampleConfig exampleRouter _ r run exampleRouter_queueOk
      (s, .maxAgeRemovalTimer) List.mem_cons_self rfl r hstep
    obtain ⟨area', harea', hkept⟩ := hremoves 0 area harea
    rcases hkept .router newer hstored with hkept | ⟨-, hexpired, -⟩
    · exact hgone area' harea' hkept
    · exact absurd hexpired (by rw [Config.IsExpired]; decide +kernel)
  · cases htest

end NetSim.Ospf
