import NetSim.Ospf.LsUpdate

/-!
# What changes the database

Flooding, acknowledging and scheduling leave the database as it is; an LSA is stored by
`ospf_lsdb_install`, and its sequence number advanced by `ospf_lsdb_update`.
-/

namespace NetSim.Ospf

open NetSim.Lib

/-! ## Lists of an area -/

theorem Area.lsaList_setLsaList {area : Area} {list list' : List Lsa} {t : LsType} (u : LsType)
    (h : area.lsaList t = some list') :
    (area.setLsaList list t).lsaList u = if u = t then some list else area.lsaList u := by
  cases t <;> cases u <;> first | rfl | cases h

def LsType.isStored : LsType → Bool
  | .router | .network | .summaryRouter | .summaryNetwork => true
  | _ => false

theorem Area.lsaList_isSome (area : Area) (t : LsType) : (area.lsaList t).isSome = t.isStored := by
  cases t <;> rfl

/-- The stored instance is younger than `minLSInterval`. -/
def Config.isTooEarly (cfg : Config) (now : Nat) (old : Lsa) : Bool :=
  now < old.time + cfg.minLSInterval

namespace Router

variable {r r' : Router} {cfg : Config} {now current : Nat}

theorem stored_congr (h : r'.lsdbList = r.lsdbList) : r'.stored = r.stored := by
  funext a t k
  rw [stored, stored, h]

theorem stored_of_unstored {a : Nat} {t : LsType} {k : Nat × Nat} (ht : t.isStored = false) :
    r.stored a t k = none := by
  unfold stored lsdbList
  cases r.area? a with
  | none => rfl
  | some area =>
    have hlist := area.lsaList_isSome t
    rw [ht, Option.isSome_eq_false_iff, Option.isNone_iff_eq_none] at hlist
    rw [Option.bind_some, hlist, Option.bind_none]

theorem area?_modifyArea (a b : Nat) (f : Area → Area) :
    (r.modifyArea a f).area? b = if b = a then (r.area? a).map f else r.area? b := by
  unfold area? modifyArea
  rw [List.getElem?_modify]
  by_cases hb : b = a
  · subst hb
    cases r.areaDS[b]? <;> simp
  · rw [if_neg hb]
    cases r.areaDS[b]? <;> simp [Ne.symm hb]

theorem lsdbList_of_area {a : Nat} {area : Area} (harea : r.area? a = some area) (t : LsType) :
    r.lsdbList a t = area.lsaList t := by
  rw [lsdbList, harea, Option.bind_some]

structure SameLsdb (r r' : Router) : Prop where
  lists : r'.lsdbList = r.lsdbList
  floods : r'.floods = r.floods

namespace SameLsdb

theorem refl (r : Router) : SameLsdb r r := ⟨rfl, rfl⟩

theorem trans {r'' : Router} (h : SameLsdb r r') (h' : SameLsdb r' r'') : SameLsdb r r'' :=
  ⟨h'.lists.trans h.lists, h'.floods.trans h.floods⟩

theorem stored (h : SameLsdb r r') : r'.stored = r.stored := stored_congr h.lists

theorem of_areaDS (h : r'.areaDS = r.areaDS) (h' : r'.floods = r.floods) : SameLsdb r r' := by
  refine ⟨?_, h'⟩
  funext a t
  rw [lsdbList, lsdbList, area?, area?, h]

theorem modifyArea {a : Nat} {f : Area → Area} (h : ∀ area, (f area).lsaList = area.lsaList) :
    SameLsdb r (r.modifyArea a f) := by
  refine ⟨?_, rfl⟩
  funext b t
  rw [lsdbList, lsdbList, area?_modifyArea]
  split
  · next hb =>
    rw [hb]
    cases r.area? a with
    | none => rfl
    | some area => simp [h]
  · rfl

end SameLsdb

/-! ## Acknowledging and scheduling -/

end Router

def Area.unscheduled (area : Area) : Area := { area with isRouterLSTimer := false }

theorem map_modify {α β : Type} {g : α → β} {f : α → α} (h : ∀ x, g (f x) = g x) (i : Nat)
    (l : List α) : (l.modify i f).map g = l.map g := by
  induction l generalizing i with
  | nil => cases i <;> rfl
  | cons x l ih =>
    cases i with
    | zero => simp [h]
    | succ i => simp [ih]

namespace Router

variable {r r' : Router} {cfg : Config} {now current : Nat}

/-- Nothing but packets, acknowledgments, changes of neighbours and other schedules lies between the
two. -/
structure Quiet (r r' : Router) : Prop where
  areas : r'.areaDS.map Area.unscheduled = r.areaDS.map Area.unscheduled
  areaIds : r'.ospfIf.map Interface.areaId = r.ospfIf.map Interface.areaId
  floods : r'.floods = r.floods
  timers : r'.events.count .maxAgeRemovalTimer = r.events.count .maxAgeRemovalTimer
  timerSet : r'.isMaxAgeRemovalTimerSet = r.isMaxAgeRemovalTimerSet

namespace Quiet

theorem refl (r : Router) : Quiet r r := ⟨rfl, rfl, rfl, rfl, rfl⟩

theorem trans {r'' : Router} (h : Quiet r r') (h' : Quiet r' r'') : Quiet r r'' :=
  ⟨h'.areas.trans h.areas, h'.areaIds.trans h.areaIds, h'.floods.trans h.floods,
    h'.timers.trans h.timers, h'.timerSet.trans h.timerSet⟩

theorem lsdbList_eq (r : Router) (a : Nat) (t : LsType) :
    r.lsdbList a t = ((r.areaDS.map Area.unscheduled)[a]?).bind fun area => area.lsaList t := by
  rw [lsdbList, area?, List.getElem?_map, Option.bind_map]
  congr 1

theorem sameLsdb (h : Quiet r r') : SameLsdb r r' := by
  refine ⟨?_, h.floods⟩
  funext a t
  rw [lsdbList_eq, lsdbList_eq, h.areas]

theorem modifyInter (i : Nat) {f : Interface → Interface}
    (h : ∀ inter, (f inter).areaId = inter.areaId) : Quiet r (r.modifyInter i f) :=
  ⟨rfl, map_modify h i r.ospfIf, rfl, rfl, rfl⟩

theorem modifyNeigh (i n : Nat) (f : Neighbor → Neighbor) : Quiet r (r.modifyNeigh i n f) :=
  modifyInter i fun _ => rfl

theorem addEvent {ev : Event} (h : ev ≠ .maxAgeRemovalTimer) : Quiet r (r.addEvent ev) :=
  ⟨rfl, rfl, rfl, List.count_cons_of_ne h, rfl⟩

theorem send (packet : Packet) : Quiet r (r.send packet) := ⟨rfl, rfl, rfl, rfl, rfl⟩

theorem setRouterLSTimer (a : Nat) (isSet : Bool) :
    Quiet r (r.modifyArea a fun area => { area with isRouterLSTimer := isSet }) :=
  ⟨map_modify (f := fun area => { area with isRouterLSTimer := isSet }) (fun _ => rfl) a r.areaDS,
    rfl, rfl, rfl, rfl⟩

theorem scheduleRouterLSA {a : Nat} {isFlush : Bool}
    (h : r.scheduleRouterLSA current a isFlush = some r') : Quiet r r' := by
  unfold Router.scheduleRouterLSA at h
  split at h
  · cases h
  · split at h <;> cases h
    · exact refl r
    · exact (setRouterLSTimer a true).trans (addEvent (by simp))

theorem changeFull (h : r.changeFull current = some r') : Quiet r r' := by
  obtain ⟨a, _, h⟩ := Option.bind_eq_some_iff.1 h
  exact scheduleRouterLSA h

theorem schedule {thisInterface : Option Nat} {a : Nat} {t : LsType}
    (h : r.schedule current thisInterface a t = some r') : Quiet r r' := by
  unfold Router.schedule at h
  split at h
  · exact scheduleRouterLSA h
  all_goals
    first
    | (obtain ⟨_, _, rfl⟩ := Option.map_eq_some_iff.1 h; exact refl r)
    | (cases h; exact refl r)

theorem sendDelayedAck (i : Nat) (lsa : Lsa) : Quiet r (r.sendDelayedAck i lsa) :=
  modifyInter i fun _ => rfl

variable {i : Nat} {srcAddr : Ip}

theorem ackUpdate {isFloodBack : Bool} {lsa : Lsa}
    (h : r.ackUpdate isFloodBack i lsa srcAddr = some r') : Quiet r r' := by
  unfold Router.ackUpdate at h
  split at h
  · cases h
    exact refl r
  · obtain ⟨inter, _, h⟩ := Option.bind_eq_some_iff.1 h
    split at h
    · obtain ⟨isDr, _, rfl⟩ := Option.map_eq_some_iff.1 h
      split
      · exact sendDelayedAck i lsa
      · exact refl r
    · cases h
      exact sendDelayedAck i lsa

theorem sendDirectAck (ackList : List Lsa) (nbrAddr : Ip) :
    Quiet r (r.sendDirectAck cfg ackList nbrAddr) := by
  unfold Router.sendDirectAck
  dsimp only
  generalize ackList.toChunks _ = chunks
  induction chunks generalizing r with
  | nil => exact refl r
  | cons chunk rest ih => exact (send _).trans ih

theorem lsreqSend {interfaceId : Nat} {nbrAddr : Ip} {retx : Bool}
    (h : r.lsreqSend cfg interfaceId nbrAddr retx = some r') : Quiet r r' := by
  simp only [Router.lsreqSend, Option.bind_eq_bind, Option.bind_eq_some_iff] at h
  obtain ⟨i, _, inter, _, n, _, neigh, _, h⟩ := h
  cases h
  exact (modifyNeigh i n _).trans ((addEvent (by simp)).trans (send _))

variable {n : Nat}

theorem loadingDone (h : r.loadingDone current i n = some r') : Quiet r r' := by
  simp only [Router.loadingDone, Option.bind_eq_bind, Option.bind_eq_some_iff] at h
  obtain ⟨neigh, _, h⟩ := h
  split at h
  · exact (modifyNeigh i n _).trans (changeFull h)
  · cases h
    exact refl r

theorem lsuEnd {isReceived : Bool} {s : LsuState}
    (h : lsuEnd cfg current i n srcAddr isReceived s = some r') : Quiet s.router r' := by
  simp only [Router.lsuEnd, Option.bind_eq_bind, Option.bind_eq_some_iff] at h
  obtain ⟨neigh, _, h⟩ := h
  have hack : Quiet s.router (s.router.sendDirectAck cfg s.directAckList srcAddr) :=
    sendDirectAck s.directAckList srcAddr
  refine hack.trans ?_
  split at h
  · split at h
    · obtain ⟨inter, _, h⟩ := Option.bind_eq_some_iff.1 h
      exact lsreqSend h
    · cases h
      exact refl _
  · exact (modifyNeigh i n _).trans (loadingDone h)

theorem ackEqual {acks : List Lsa} {lsa : Lsa} {s : LsuState}
    (h : r.ackEqual cfg i n srcAddr acks lsa = some s) : Quiet r s.router := by
  simp only [Router.ackEqual, Option.bind_eq_bind, Option.bind_eq_some_iff] at h
  obtain ⟨neigh, _, h⟩ := h
  split at h
  · obtain ⟨inter, _, h⟩ := Option.bind_eq_some_iff.1 h
    split at h
    · obtain ⟨isDr, _, rfl⟩ := Option.map_eq_some_iff.1 h
      refine (modifyNeigh i n (Neighbor.impliedAck cfg lsa)).trans ?_
      split
      · exact sendDelayedAck i lsa
      · exact refl _
    · cases h
      exact modifyNeigh i n _
  · cases h
    exact refl r

theorem answerOlder {oldLsa lsa : Lsa}
    (h : r.answerOlder cfg now i n srcAddr oldLsa lsa = some r') : Quiet r r' := by
  simp only [Router.answerOlder, Option.bind_eq_bind, Option.bind_eq_some_iff] at h
  obtain ⟨neigh, _, h⟩ := h
  split at h
  · cases h
    exact refl r
  · split at h
    · split at h <;> cases h
      · exact (modifyNeigh i n _).trans (send _)
      · exact refl r
    · cases h
      exact (modifyNeigh i n _).trans (send _)

end Quiet

/-! ## Flooding and installing -/

variable {lsa : Lsa}

theorem SameLsdb.addToMaxAgeLSAList {areaId : Ip}
    (h : r.addToMaxAgeLSAList cfg areaId lsa = some r') : SameLsdb r r' := by
  simp only [Router.addToMaxAgeLSAList, Option.bind_eq_bind, Option.bind_eq_some_iff] at h
  obtain ⟨a, _, area, _, h⟩ := h
  split at h
  · cases h
    exact refl r
  · cases h
    have harea := modifyArea (r := r) (a := a)
      (f := fun area => { area with maxAgeList := area.maxAgeList ++ [lsa] }) fun area => rfl
    split
    · exact harea
    · exact harea.trans (of_areaDS rfl rfl)

variable {inId : Nat}

theorem areaId_queueFlooded {inter : Interface} {src : Ip}
    {isLoadingDone : Bool} {flooded : InterfaceFlood}
    (h : inter.queueFlooded cfg lsa src inId isLoadingDone = some flooded) :
    flooded.inter.areaId = inter.areaId := by
  unfold Interface.queueFlooded at h
  dsimp only at h
  split at h
  · split at h
    · cases h
    · cases h
      rfl
    · split at h <;> cases h <;> rfl
  · cases h
    rfl

variable {srcAddr : IpPtr}

theorem areaId_floodStep {inter : Interface} {area : Ip}
    {flooded : InterfaceFlood} (h : inter.floodStep cfg area lsa srcAddr inId = some flooded) :
    flooded.inter.areaId = inter.areaId := by
  unfold Interface.floodStep at h
  split at h
  · cases h
    rfl
  dsimp only at h
  split at h
  · split at h
    · exact (areaId_queueFlooded h).trans rfl
    · cases h
      rfl
  · cases h
    rfl

theorem areaIds_floodLoop {area : Ip} {interfaces : List Interface} {flooded : List InterfaceFlood}
    (h : floodLoop cfg area lsa srcAddr inId interfaces = some flooded) :
    (flooded.map InterfaceFlood.inter).map Interface.areaId =
      interfaces.map Interface.areaId := by
  induction interfaces generalizing flooded with
  | nil =>
    cases h
    rfl
  | cons inter rest ih =>
    rw [floodLoop] at h
    split at h
    · next first others hfirst hothers =>
      cases h
      rw [List.map_cons, List.map_cons, List.map_cons, ih hothers, areaId_floodStep hfirst]
    · cases h

variable {a : Nat} {x : Router × Bool}

theorem flood_quiet {cause : FloodCause}
    (h : r.flood cfg cause a lsa srcAddr current inId = some x) :
    ∃ f : Flooded, f.IsOf cause a lsa ∧ Quiet { r with floods := f :: r.floods } x.1 := by
  simp only [flood, Option.bind_eq_bind, Option.bind_eq_some_iff] at h
  obtain ⟨area, _, flooded, hflooded, h⟩ := h
  have hareaIds : (flooded.map InterfaceFlood.inter).map Interface.areaId =
      r.ospfIf.map Interface.areaId := by
    rw [areaIds_floodLoop hflooded, Router.removeFromRxtList, List.map_map]
    refine List.map_congr_left fun inter _ => ?_
    dsimp only [Function.comp]
    split <;> rfl
  split at h
  · obtain ⟨r1, hr1, rfl⟩ := Option.map_eq_some_iff.1 h
    have hquiet := Quiet.changeFull hr1
    exact ⟨_, ⟨rfl, rfl, rfl⟩, hquiet.areas, hquiet.areaIds.trans hareaIds, hquiet.floods,
      hquiet.timers, hquiet.timerSet⟩
  · cases h
    exact ⟨_, ⟨rfl, rfl, rfl⟩, rfl, hareaIds, rfl, rfl, rfl⟩

theorem flood_lists {cause : FloodCause}
    (h : r.flood cfg cause a lsa srcAddr current inId = some x) :
    x.1.lsdbList = r.lsdbList ∧
      ∃ f : Flooded, f.IsOf cause a lsa ∧ x.1.floods = f :: r.floods := by
  obtain ⟨f, hf, hquiet⟩ := flood_quiet h
  exact ⟨hquiet.sameLsdb.lists, f, hf, hquiet.floods⟩

variable {list list' : List Lsa} {t : LsType}

theorem lsdbList_modifyArea_setLsaList (hlist : r.lsdbList a t = some list) (b : Nat) (u : LsType) :
    (r.modifyArea a fun area => area.setLsaList list' t).lsdbList b u =
      if b = a ∧ u = t then some list' else r.lsdbList b u := by
  obtain ⟨area, harea, hlist⟩ := Option.bind_eq_some_iff.1 hlist
  unfold lsdbList
  rw [area?_modifyArea]
  by_cases hb : b = a
  · rw [if_pos hb, harea, Option.map_some, Option.bind_some, Area.lsaList_setLsaList u hlist]
    by_cases hu : u = t
    · rw [if_pos hu, if_pos ⟨hb, hu⟩]
    · rw [if_neg hu, if_neg fun h => hu h.2, hb, harea, Option.bind_some]
  · rw [if_neg hb, if_neg fun h => hb h.1]

theorem stored_of_list (hlist : r.lsdbList a t = some list) (k : Nat × Nat) :
    r.stored a t k = lookup Lsa.key k list := by
  rw [stored, hlist, Option.bind_some]

theorem stored_of_area {area : Area} (harea : r.area? a = some area) (lsa : Lsa) :
    r.stored a lsa.LSType lsa.key =
      area.lsdbLookup lsa.LSType lsa.AdvertisingRouter lsa.LinkStateID := by
  rw [Router.stored, Router.lsdbList_of_area harea]
  rfl

theorem stored_of_lists {key : Nat × Nat} {lsa : Option Lsa} (hlist : r.lsdbList a t = some list)
    (hlists : ∀ b u, r'.lsdbList b u = if b = a ∧ u = t then some list' else r.lsdbList b u)
    (hlookup : ∀ k, lookup Lsa.key k list' = if k = key then lsa else lookup Lsa.key k list)
    (b : Nat) (u : LsType) (k : Nat × Nat) :
    r'.stored b u k = if b = a ∧ u = t ∧ k = key then lsa else r.stored b u k := by
  unfold stored
  rw [hlists]
  by_cases hbu : b = a ∧ u = t
  · obtain ⟨rfl, rfl⟩ := hbu
    rw [if_pos ⟨rfl, rfl⟩, hlist, Option.bind_some, Option.bind_some, hlookup]
    by_cases hk : k = key
    · rw [if_pos hk, if_pos ⟨rfl, rfl, hk⟩]
    · rw [if_neg hk, if_neg fun h => hk h.2.2]
  · rw [if_neg hbu, if_neg fun h => hbu ⟨h.1, h.2.1⟩]

/-- What `ospf_lsdb_install` stores. -/
def installed (cfg : Config) (now : Nat) (lsa : Lsa) : Option Lsa → Lsa
  | some hdr => if cfg.isContentChanged lsa hdr then { lsa with time := now } else hdr
  | none => { lsa with time := now }

theorem lookup_installInList (k : Nat × Nat) :
    lookup Lsa.key k (cfg.installInList now lsa list).1 =
      if k = lsa.key then some (installed cfg now lsa (lookup Lsa.key lsa.key list))
      else lookup Lsa.key k list := by
  unfold Config.installInList installed
  cases hl : lookup Lsa.key lsa.key list with
  | none =>
    rw [lookup_append_single]
    by_cases hk : k = lsa.key
    · rw [if_pos hk, hk, hl]
      exact if_pos rfl
    · rw [if_neg hk]
      cases lookup Lsa.key k list with
      | some old => rfl
      | none => exact if_neg fun h => hk h.symm
  | some hdr =>
    dsimp only
    split
    · have hkey : ∀ old : Lsa, old.key = lsa.key → Lsa.key { lsa with time := now } = lsa.key :=
        fun _ _ => rfl
      rw [lookup_modifyFirst_of_key hkey]
      by_cases hk : k = lsa.key
      · rw [if_pos hk, if_pos hk, hl, Option.map_some]
      · rw [if_neg hk, if_neg hk]
    · by_cases hk : k = lsa.key
      · rw [if_pos hk, hk, hl]
      · rw [if_neg hk]

theorem install_lists (h : r.install cfg now a lsa = some x) :
    x.1.floods = r.floods ∧ ∃ list, r.lsdbList a lsa.LSType = some list ∧
      ∀ b t, x.1.lsdbList b t =
        if b = a ∧ t = lsa.LSType then some (cfg.installInList now lsa list).1
        else r.lsdbList b t := by
  simp only [install, Option.bind_eq_bind, Option.bind_eq_some_iff] at h
  obtain ⟨area, harea, list, hlist, h⟩ := h
  rw [← lsdbList_of_area harea] at hlist
  have hlists : ∀ b t, (r.modifyArea a fun area =>
        area.setLsaList (cfg.installInList now lsa list).1 lsa.LSType).lsdbList b t =
      if b = a ∧ t = lsa.LSType then some (cfg.installInList now lsa list).1
      else r.lsdbList b t := lsdbList_modifyArea_setLsaList hlist
  split at h
  · obtain ⟨r2, hr2, rfl⟩ := Option.map_eq_some_iff.1 h
    have hsame := SameLsdb.addToMaxAgeLSAList hr2
    exact ⟨hsame.floods, list, hlist, fun b t => by rw [← hlists, ← hsame.lists]⟩
  · cases h
    exact ⟨rfl, list, hlist, hlists⟩

theorem install_stored
    (h : r.install cfg now a lsa = some x) (b : Nat) (t : LsType) (k : Nat × Nat) :
    x.1.stored b t k =
      if b = a ∧ t = lsa.LSType ∧ k = lsa.key then
        some (installed cfg now lsa (r.stored a lsa.LSType lsa.key))
      else r.stored b t k := by
  obtain ⟨_, list, hlist, hlists⟩ := install_lists h
  rw [stored_of_list hlist]
  exact stored_of_lists hlist hlists (fun k => lookup_installInList k) b t k

theorem flush_lists {x : Router × Lsa} (h : r.flush cfg current a lsa = some x) :
    x.1.lsdbList = r.lsdbList ∧ x.2 = { lsa with LSAge := cfg.LSAMaxAge } ∧
      (x.1.floods = r.floods ∨
        ∃ f : Flooded, f.IsOf .flush a { lsa with LSAge := cfg.LSAMaxAge } ∧
          x.1.floods = f :: r.floods) := by
  unfold flush at h
  split at h
  · next hage =>
    cases h
    exact ⟨rfl, by rw [← hage], Or.inl rfl⟩
  · simp only [Option.bind_eq_bind, Option.bind_eq_some_iff] at h
    obtain ⟨area, _, y, hflood, r2, hr2, h⟩ := h
    cases h
    have hsame := SameLsdb.addToMaxAgeLSAList hr2
    obtain ⟨hlists, f, hf, hfloods⟩ := flood_lists hflood
    exact ⟨hsame.lists.trans hlists, rfl, Or.inr ⟨f, hf, hsame.floods.trans hfloods⟩⟩

theorem advance_lists (h : r.advance a lsa = some r') :
    r'.floods = r.floods ∧ ∃ list, r.lsdbList a lsa.LSType = some list ∧
      (lookup Lsa.key lsa.key list).isSome ∧
      ∀ b t, r'.lsdbList b t =
        if b = a ∧ t = lsa.LSType then
          some (modifyFirst Lsa.key lsa.key
            (fun oldLSA => { oldLSA with LSSequenceNumber := lsa.LSSequenceNumber + 1 }) list)
        else r.lsdbList b t := by
  simp only [advance, Option.bind_eq_bind, Option.bind_eq_some_iff] at h
  obtain ⟨area, harea, list, hlist, old, hold, h⟩ := h
  cases h
  rw [← lsdbList_of_area harea] at hlist
  exact ⟨rfl, list, hlist, by rw [hold]; rfl, lsdbList_modifyArea_setLsaList hlist⟩

/-- What the first half of `ospf_lsdb_update` does. -/
inductive Updates (cfg : Config) (now a : Nat) (r : Router) (x : Router × Int) (lsa : Lsa) : Prop
  | unstored (htype : lsa.LSType.isStored = false) (heq : x = (r, 0))
  | early (hself : cfg.isSelfOriginated lsa = false) (old : Lsa)
      (hold : r.stored a lsa.LSType lsa.key = some old) (hearly : cfg.isTooEarly now old = true)
      (heq : x = (r, -1))
  | flooded
      (hlate : cfg.isSelfOriginated lsa = false →
        ∀ old, r.stored a lsa.LSType lsa.key = some old → cfg.isTooEarly now old = false)
      (hret : 0 ≤ x.2) (r₂ : Router) (hlists : r₂.lsdbList = r.lsdbList)
      (f : Flooded) (hf : f.IsOf .update a lsa) (hfloods : r₂.floods = f :: r.floods) (ret : Bool)
      (hinstall : r₂.install cfg now a lsa = some (x.1, ret))

theorem updateLSAList_updates {i : Nat} {srcAddr : Ip}
    {x : Router × Int} (hlist : r.lsdbList a lsa.LSType = some list)
    (h : r.updateLSAList cfg now current i a list lsa srcAddr = some x) :
    Updates cfg now a r x lsa := by
  have hstored := stored_of_list hlist lsa.key
  unfold updateLSAList at h
  split at h
  · next hearly =>
    cases h
    unfold isTooEarly at hearly
    split at hearly
    · next old hold =>
      simp only [Bool.and_eq_true, Bool.not_eq_true', decide_eq_true_eq] at hearly
      exact .early hearly.1 old (hstored.trans hold) (decide_eq_true hearly.2) rfl
    · cases hearly
  · next hearly =>
    simp only [Option.bind_eq_bind, Option.bind_eq_some_iff] at h
    obtain ⟨inter, _, ⟨r1, floodBack⟩, hflood, r2, hr2, ⟨r3, ret⟩, hinstall, h⟩ := h
    cases h
    obtain ⟨hl1, f, hf, hf1⟩ := flood_lists hflood
    have hsame : SameLsdb r1 r2 := (Quiet.ackUpdate hr2).sameLsdb
    refine .flooded (fun hself old hold => ?_) ?_ r2 (hsame.lists.trans hl1) f hf
      (hsame.floods.trans hf1) ret hinstall
    · unfold isTooEarly at hearly
      rw [← hstored, hold, hself] at hearly
      simpa [Config.isTooEarly] using hearly
    · dsimp only
      split <;> decide

theorem updateLsdb_updates {i : Nat} {srcAddr : Ip} {x : Router × Int}
    (h : r.updateLsdb cfg now current i a lsa srcAddr = some x) : Updates cfg now a r x lsa := by
  simp only [updateLsdb, Option.bind_eq_bind, Option.bind_eq_some_iff] at h
  obtain ⟨area, harea, h⟩ := h
  split at h
  · next hlist =>
    cases h
    have htype := area.lsaList_isSome lsa.LSType
    rw [hlist] at htype
    exact .unstored htype.symm rfl
  · next list hlist => exact updateLSAList_updates ((lsdbList_of_area harea _).trans hlist) h

/-! ## Well-formed databases -/

/-- The LSAs of a list have its type, and none is stored twice. -/
structure WellFormed (r : Router) : Prop where
  nodup : ∀ a t list, r.lsdbList a t = some list → (list.map Lsa.key).Nodup
  typed : ∀ a t list, r.lsdbList a t = some list → ∀ lsa ∈ list, lsa.LSType = t

theorem WellFormed.of_lists (h : r.WellFormed) (hlists : r'.lsdbList = r.lsdbList) :
    r'.WellFormed := by
  constructor
  · rw [hlists]
    exact h.nodup
  · rw [hlists]
    exact h.typed

theorem WellFormed.of_list (h : r.WellFormed)
    (hlists : ∀ b u, r'.lsdbList b u = if b = a ∧ u = t then some list' else r.lsdbList b u)
    (hnodup : (list'.map Lsa.key).Nodup) (htyped : ∀ lsa ∈ list', lsa.LSType = t) :
    r'.WellFormed := by
  constructor
  · intro b u list hlist
    rw [hlists] at hlist
    split at hlist
    · cases hlist
      exact hnodup
    · exact h.nodup b u list hlist
  · intro b u list hlist
    rw [hlists] at hlist
    split at hlist
    · next hbu =>
      cases hlist
      rw [hbu.2]
      exact htyped
    · exact h.typed b u list hlist

theorem WellFormed.stored {k : Nat × Nat} (h : r.WellFormed)
    (hlsa : r.stored a t k = some lsa) : lsa.LSType = t ∧ lsa.key = k := by
  obtain ⟨list, hlist, hlookup⟩ := Option.bind_eq_some_iff.1 hlsa
  obtain ⟨hmem, hkey⟩ := lookup_some hlookup
  exact ⟨h.typed a t list hlist lsa hmem, hkey⟩

theorem WellFormed.install (h : r.WellFormed)
    (hinstall : r.install cfg now a lsa = some x) : x.1.WellFormed := by
  obtain ⟨_, list, hlist, hlists⟩ := install_lists hinstall
  have hnodup := h.nodup _ _ _ hlist
  have htyped := h.typed _ _ _ hlist
  refine h.of_list hlists ?_ ?_
  · unfold Config.installInList
    split
    · split
      · exact nodup_modifyFirst (fun _ _ => rfl) hnodup
      · exact hnodup
    · next hnone => exact nodup_append_single (a := { lsa with time := now }) hnodup hnone
  · intro l hl
    unfold Config.installInList at hl
    split at hl
    · split at hl
      · rcases mem_modifyFirst hl with hl | ⟨old, _, rfl⟩
        · exact htyped l hl
        · rfl
      · exact htyped l hl
    · rcases List.mem_append.1 hl with hl | hl
      · exact htyped l hl
      · rw [List.mem_singleton.1 hl]

theorem WellFormed.advance (h : r.WellFormed)
    (hadvance : r.advance a lsa = some r') : r'.WellFormed := by
  obtain ⟨_, list, hlist, _, hlists⟩ := advance_lists hadvance
  refine h.of_list hlists (nodup_modifyFirst (fun _ hk => hk) (h.nodup _ _ _ hlist)) fun l hl => ?_
  rcases mem_modifyFirst hl with hl | ⟨old, hold, rfl⟩
  · exact h.typed _ _ _ hlist l hl
  · exact h.typed _ _ _ hlist old (lookup_some hold).1

end Router

end NetSim.Ospf
