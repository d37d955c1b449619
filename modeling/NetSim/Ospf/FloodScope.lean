import NetSim.Ospf.LsUpdate
import NetSim.Ospf.Recency

/-!
# To whom an LSA is flooded (`OSPF_LSA.c`)

An LSA without a source address is added nowhere; a neighbour that has the same instance is passed
over only if that was the last one it was asked for; and LSAs to flood are compared by age where
their type is meant.
-/

namespace NetSim.Ospf

/-! ## The scope -/

/-- The neighbour has an instance of the LSA that is at least as recent: this router has asked it
for that. -/
def Neighbor.hasRecent (cfg : Config) (lsa : Lsa) (neigh : Neighbor) : Bool :=
  (neigh.searchFromList lsa).any fun lsHdr => decide (cfg.lsaCompare lsHdr lsa ≤ 0)

def Neighbor.isSender (srcAddr : IpPtr) (neigh : Neighbor) : Bool :=
  srcAddr.any fun src => src.int_ip == neigh.neighborIPAddr.int_ip

def Neighbor.inScope (cfg : Config) (lsa : Lsa) (srcAddr : IpPtr) (neigh : Neighbor) : Bool :=
  decide (NeighState.exchange.toNat ≤ neigh.state.toNat) && !neigh.isSender srcAddr &&
    !neigh.hasRecent cfg lsa

/-- The designated or the backup router has sent the LSA, or this router is the backup router. -/
def Interface.isBack (cfg : Config) (srcAddr : IpPtr) (inId : Nat) (inter : Interface) : Bool :=
  srcAddr.any fun src =>
    decide (inter.ifType = .broadcast) && decide (src.int_ip ≠ cfg.anyDest.int_ip) &&
      decide (inter.id = inId) &&
      (decide (inter.isDesignated src = some true) || decide (inter.State = .backup))

def instances (lsa : Lsa) (list : List Lsa) : List Lsa := list.filter fun l => lsa.sameLsa l

def Config.newest (cfg : Config) (lsa : Lsa) (list : List Lsa) : Lsa :=
  match instances lsa list with
  | [] => lsa
  | old :: _ => if cfg.lsaCompare old lsa > 0 then lsa else old

def Interface.IsOf (area : Ip) (inter : Interface) : Prop :=
  inter.State ≠ .down ∧ inter.areaId.int_ip = area.int_ip

instance (area : Ip) (inter : Interface) : Decidable (inter.IsOf area) :=
  inferInstanceAs (Decidable (_ ∧ _))

def Interface.anyInScope (cfg : Config) (lsa : Lsa) (srcAddr : IpPtr) (inter : Interface) : Bool :=
  inter.neighborRouterList.any fun neigh => neigh.inScope cfg lsa srcAddr

/-- The LSA is added for the neighbours in its scope, and queued if there are such, unless it would
go back; then one instance of it is queued at most, and no older one. -/
structure Interface.FloodsRight (cfg : Config) (area : Ip) (lsa : Lsa) (srcAddr : IpPtr)
    (inId : Nat) (inter inter' : Interface) : Prop where
  neighbors : List.Forall₂
    (fun neigh neigh' => neigh'.neighLSRxtList = neigh.neighLSRxtList ++
      if inter.IsOf area ∧ neigh.inScope cfg lsa srcAddr = true then [lsa] else [])
    inter.neighborRouterList inter'.neighborRouterList
  queued : inter.IsOf area → inter.anyInScope cfg lsa srcAddr = true →
    inter.isBack cfg srcAddr inId = false →
      instances lsa inter'.updateLSAList = [cfg.newest lsa inter.updateLSAList]
  notQueued : ¬(inter.IsOf area ∧ inter.anyInScope cfg lsa srcAddr = true ∧
      inter.isBack cfg srcAddr inId = false) →
    inter'.updateLSAList = inter.updateLSAList
  single : (instances lsa inter'.updateLSAList).length ≤ 1
  recent : inter.areaId.int_ip = area.int_ip →
    ∀ old ∈ instances lsa inter'.updateLSAList, cfg.lsaCompare old lsa ≤ 0

/-! ## When the scope is kept -/

/-- Without a source address the LSA is not to be sent to the neighbour; else a request for it is
for no later instance, and if for the same one it is the last. -/
def Neighbor.FloodOk (cfg : Config) (lsa : Lsa) (srcAddr : IpPtr) (neigh : Neighbor) : Prop :=
  NeighState.exchange.toNat ≤ neigh.state.toNat → neigh.isSender srcAddr = false →
    if srcAddr.isNone then neigh.hasRecent cfg lsa = true
    else ∀ lsHdr ∈ neigh.searchFromList lsa,
      (cfg.lsaCompare lsHdr lsa < 0 → neigh.state ≠ .full) ∧
      (cfg.lsaCompare lsHdr lsa = 0 → neigh.state = .loading ∧ neigh.neighLSReqList.length = 1)

/-- The test of `ospf_lsa_queueToFlood`. -/
def Lsa.sameAgeAndId (lsa hdr : Lsa) : Bool := decide (hdr.LSAge = lsa.LSAge ∧ hdr.key = lsa.key)

/-- No other instance of the LSA is queued, or the first one of the same age, router and id has the
same type. -/
def Config.QueueOk (cfg : Config) (lsa : Lsa) (list : List Lsa) : Prop :=
  match list.find? lsa.sameAgeAndId with
  | none => instances lsa list = []
  | some hdr =>
    hdr.LSType = lsa.LSType ∨
      if cfg.lsaCompare hdr lsa > 0 then instances lsa list = []
      else ∃ old ∈ instances lsa list, cfg.lsaCompare old lsa ≤ 0

def Interface.Receives (cfg : Config) (src : Ip) (inId : Nat) (inter : Interface) : Prop :=
  inter.ifType = .broadcast ∧ src.int_ip ≠ cfg.anyDest.int_ip ∧ inter.id = inId

/-- The addresses compared with the source are no null pointers; and where the LSA is not queued, no
older instance waits. -/
structure Interface.FloodOk (cfg : Config) (area : Ip) (lsa : Lsa) (srcAddr : IpPtr) (inId : Nat)
    (inter : Interface) : Prop where
  single : (instances lsa inter.updateLSAList).length ≤ 1
  neighbors : inter.IsOf area → ∀ neigh ∈ inter.neighborRouterList, neigh.FloodOk cfg lsa srcAddr
  designated : inter.IsOf area → inter.anyInScope cfg lsa srcAddr = true →
    ∀ src ∈ srcAddr, inter.Receives cfg src inId → inter.isDesignated src ≠ none
  queue : inter.IsOf area → inter.anyInScope cfg lsa srcAddr = true →
    inter.isBack cfg srcAddr inId = false → cfg.QueueOk lsa inter.updateLSAList
  recent : inter.areaId.int_ip = area.int_ip →
    ¬(inter.IsOf area ∧ inter.anyInScope cfg lsa srcAddr = true ∧
      inter.isBack cfg srcAddr inId = false) →
    ∀ old ∈ instances lsa inter.updateLSAList, cfg.lsaCompare old lsa ≤ 0

/-! ## One neighbour -/

namespace Neighbor

variable (cfg : Config) (lsa : Lsa) (srcAddr : IpPtr)

theorem addFlooded_rxt (neigh : Neighbor) (isLoadingDone : Bool) :
    (neigh.addFlooded lsa srcAddr isLoadingDone).neigh.neighLSRxtList = neigh.neighLSRxtList ++
      if (neigh.addFlooded lsa srcAddr isLoadingDone).isAddedToRxtList = true then [lsa] else [] := by
  rw [addFlooded.eq_def]
  split
  · simp
  · split <;> simp

theorem addFlooded_isAdded (neigh : Neighbor) (isLoadingDone : Bool) :
    (neigh.addFlooded lsa srcAddr isLoadingDone).isAddedToRxtList =
      (srcAddr.isSome && !neigh.isSender srcAddr) := by
  cases srcAddr with
  | none => rfl
  | some src =>
    by_cases h : src.int_ip = neigh.neighborIPAddr.int_ip <;> simp [addFlooded, isSender, h]

@[simp] theorem removeFromReqList_rxt (neigh : Neighbor) :
    (neigh.removeFromReqList lsa).neighLSRxtList = neigh.neighLSRxtList := rfl

@[simp] theorem removeFromReqList_state (neigh : Neighbor) :
    (neigh.removeFromReqList lsa).state = neigh.state := rfl

@[simp] theorem removeFromReqList_address (neigh : Neighbor) :
    (neigh.removeFromReqList lsa).neighborIPAddr = neigh.neighborIPAddr := rfl

theorem floodStep_rxt (neigh : Neighbor) :
    (neigh.floodStep cfg lsa srcAddr).neigh.neighLSRxtList = neigh.neighLSRxtList ++
      if (neigh.floodStep cfg lsa srcAddr).isAddedToRxtList = true then [lsa] else [] := by
  rw [floodStep.eq_def]
  split
  · simp
  split
  · exact addFlooded_rxt ..
  split
  · exact addFlooded_rxt ..
  · dsimp only
    split
    · simp
    split
    · split
      · simp
      · exact addFlooded_rxt ..
    · exact addFlooded_rxt ..

theorem removeFromReqList_isEmpty {neigh : Neighbor} {lsHdr : Lsa}
    (h : neigh.searchFromList lsa = some lsHdr) :
    (neigh.removeFromReqList lsHdr).neighLSReqList.isEmpty =
      decide (neigh.neighLSReqList.length = 1) := by
  obtain ⟨item, hitem, rfl⟩ := Option.map_eq_some_iff.1 h
  have hmem := List.mem_of_find?_eq_some hitem
  have hself : item.isFor item.lsHdr = true := by simp [LsReqItem.isFor, Lsa.sameLsa, Lsa.sameId]
  have hlength := List.length_eraseP_of_mem (p := fun i : LsReqItem => i.isFor item.lsHdr) hmem hself
  have hpos := List.length_pos_of_mem hmem
  rw [Bool.eq_iff_iff, List.isEmpty_iff, ← List.length_eq_zero_iff, removeFromReqList, hlength,
    decide_eq_true_eq]
  omega

theorem floodStep_isAdded (neigh : Neighbor) :
    (neigh.floodStep cfg lsa srcAddr).isAddedToRxtList =
      (decide (NeighState.exchange.toNat ≤ neigh.state.toNat) &&
        (srcAddr.isSome && !neigh.isSender srcAddr) &&
        !(decide (neigh.state ≠ .full) && (neigh.searchFromList lsa).any fun lsHdr =>
          decide (cfg.lsaCompare lsHdr lsa < 0) || (decide (cfg.lsaCompare lsHdr lsa = 0) &&
            (decide (neigh.state = .loading) && decide (neigh.neighLSReqList.length = 1))))) := by
  rw [floodStep.eq_def]
  by_cases hlow : neigh.state.toNat < NeighState.exchange.toNat
  · have hstate : ¬NeighState.exchange.toNat ≤ neigh.state.toNat := Nat.not_le.2 hlow
    simp [hlow, hstate]
  have hstate : decide (NeighState.exchange.toNat ≤ neigh.state.toNat) = true := by simpa using hlow
  rw [if_neg hlow, hstate, Bool.true_and]
  by_cases hfull : neigh.state = .full
  · simp [hfull, addFlooded_isAdded]
  rw [if_neg hfull]
  cases hfound : neigh.searchFromList lsa with
  | none => simp [addFlooded_isAdded]
  | some lsHdr =>
    have hempty := removeFromReqList_isEmpty lsa hfound
    by_cases hneg : cfg.lsaCompare lsHdr lsa < 0
    · simp [hneg, hfull]
    · by_cases hloading : neigh.state = .loading
      · by_cases hlast : neigh.neighLSReqList.length = 1
        · by_cases hzero : cfg.lsaCompare lsHdr lsa = 0
          · simp [hempty, hzero, hlast, hloading]
          · simp [hempty, hneg, hzero, hlast, hloading, addFlooded_isAdded, isSender]
        · simp [hempty, hneg, hlast, addFlooded_isAdded, isSender]
      · simp [hneg, hloading, addFlooded_isAdded, isSender]

theorem isAdded_eq_inScope_iff (neigh : Neighbor) :
    (neigh.floodStep cfg lsa srcAddr).isAddedToRxtList = neigh.inScope cfg lsa srcAddr ↔
      neigh.FloodOk cfg lsa srcAddr := by
  rw [floodStep_isAdded, inScope, FloodOk]
  by_cases hstate : NeighState.exchange.toNat ≤ neigh.state.toNat
  swap
  · simp [hstate]
  by_cases hsender : neigh.isSender srcAddr = true
  · simp [hsender]
  cases srcAddr with
  | none => simp [hstate, hsender]
  | some src =>
    simp only [hstate, hsender, hasRecent]
    cases hfound : neigh.searchFromList lsa with
    | none => simp
    | some lsHdr =>
      rcases Int.lt_trichotomy (cfg.lsaCompare lsHdr lsa) 0 with hneg | hzero | hpos
      · simp [hneg, Int.le_of_lt hneg, Int.ne_of_lt hneg]
      · by_cases hloading : neigh.state = .loading <;> simp [hzero, hloading]
      · simp [Int.not_lt.2 (Int.le_of_lt hpos), Int.not_le.2 hpos, (Int.ne_of_lt hpos).symm]

end Neighbor

/-! ## The queue -/

theorem Lsa.sameLsa_iff (a b : Lsa) : a.sameLsa b = true ↔ a.LSType = b.LSType ∧ a.key = b.key := by
  rw [Lsa.sameLsa, Bool.and_eq_true, beq_iff_eq, sameId_iff]

theorem instances_append (lsa : Lsa) (list list' : List Lsa) :
    instances lsa (list ++ list') = instances lsa list ++ instances lsa list' :=
  List.filter_append ..

theorem instances_self (lsa : Lsa) : instances lsa [lsa] = [lsa] := by
  simp [instances, Lsa.sameLsa_iff]

theorem queueLoop_eq (cfg : Config) (lsa : Lsa) (list : List Lsa) :
    cfg.queueLoop lsa list = (list.find? lsa.sameAgeAndId).map fun hdr =>
      if cfg.lsaCompare hdr lsa > 0 then list.eraseP lsa.sameAgeAndId ++ [lsa] else list := by
  induction list with
  | nil => rfl
  | cons hdr rest ih =>
    rw [Config.queueLoop, ih]
    by_cases h : hdr.LSAge = lsa.LSAge ∧ hdr.key = lsa.key
    · simp [h, Lsa.sameAgeAndId]
    · have hfalse : lsa.sameAgeAndId hdr = false := by simpa [Lsa.sameAgeAndId] using h
      rw [if_neg h, List.find?_cons_of_neg (by simp [hfalse]), Option.map_map]
      congr 1
      funext old
      dsimp only [Function.comp]
      split
      · rw [List.eraseP_cons_of_neg (by simp [hfalse]), List.cons_append]
      · rfl

variable {list : List Lsa}

section

variable {lsa hdr : Lsa} (hfound : list.find? lsa.sameAgeAndId = some hdr)

include hfound

theorem queue_split :
    ∃ before after, hdr.key = lsa.key ∧ list = before ++ hdr :: after ∧
      list.eraseP lsa.sameAgeAndId = before ++ after := by
  obtain ⟨hhdr, before, after, rfl, hbefore⟩ := List.find?_eq_some_iff_append.1 hfound
  refine ⟨before, after, (of_decide_eq_true hhdr).2, rfl, ?_⟩
  rw [List.eraseP_append_right _ fun l hl => by simpa using hbefore l hl,
    List.eraseP_cons_of_pos hhdr]

theorem instances_eraseP_of_ne (htype : hdr.LSType ≠ lsa.LSType) :
    instances lsa (list.eraseP lsa.sameAgeAndId) = instances lsa list := by
  obtain ⟨before, after, -, rfl, herase⟩ := queue_split hfound
  have hother : ¬lsa.sameLsa hdr = true := by
    rw [Lsa.sameLsa_iff]
    exact fun h => htype h.1.symm
  rw [herase, instances_append, instances_append]
  simp [instances, hother]

theorem instances_eraseP_of_eq (htype : hdr.LSType = lsa.LSType)
    (hsingle : (instances lsa list).length ≤ 1) :
    instances lsa list = [hdr] ∧ instances lsa (list.eraseP lsa.sameAgeAndId) = [] := by
  obtain ⟨before, after, hkey, rfl, herase⟩ := queue_split hfound
  have hsame : lsa.sameLsa hdr = true := (Lsa.sameLsa_iff _ _).2 ⟨htype.symm, hkey.symm⟩
  have hcons : instances lsa (hdr :: after) = hdr :: instances lsa after := by
    simp [instances, hsame]
  rw [instances_append, hcons] at hsingle
  rw [herase, instances_append, instances_append, hcons]
  have hnone : instances lsa before = [] ∧ instances lsa after = [] := by
    simp only [List.length_append, List.length_cons] at hsingle
    exact ⟨List.eq_nil_of_length_eq_zero (by omega), List.eq_nil_of_length_eq_zero (by omega)⟩
  simp [hnone.1, hnone.2]

end

theorem queueToFlood_iff (cfg : Config) (inter : Interface) (lsa : Lsa)
    (hsingle : (instances lsa inter.updateLSAList).length ≤ 1) :
    instances lsa (cfg.queueToFlood inter lsa).updateLSAList =
        [cfg.newest lsa inter.updateLSAList] ↔
      cfg.QueueOk lsa inter.updateLSAList := by
  rw [Config.queueToFlood, Config.QueueOk, Config.newest, queueLoop_eq]
  generalize inter.updateLSAList = list at hsingle
  cases hfound : list.find? lsa.sameAgeAndId with
  | none =>
    simp only [Option.map_none, Option.getD_none, instances_append, instances_self]
    cases hlist : instances lsa list with
    | nil => simp
    | cons old rest => simp
  | some hdr =>
    simp only [Option.map_some, Option.getD_some]
    by_cases htype : hdr.LSType = lsa.LSType
    · obtain ⟨hlist, herase⟩ := instances_eraseP_of_eq hfound htype hsingle
      by_cases hnewer : cfg.lsaCompare hdr lsa > 0
      · simp [hnewer, htype, hlist, herase, instances_append, instances_self]
      · simp [hnewer, htype, hlist]
    · have herase := instances_eraseP_of_ne hfound htype
      by_cases hnewer : cfg.lsaCompare hdr lsa > 0
      · simp only [hnewer, if_true, htype, false_or, instances_append, herase, instances_self]
        cases hlist : instances lsa list with
        | nil => simp
        | cons old rest => simp
      · simp only [hnewer, if_false, htype, false_or]
        cases hlist : instances lsa list with
        | nil => simp
        | cons old rest =>
          have hrest : rest = [] := by
            rw [hlist] at hsingle
            exact List.eq_nil_of_length_eq_zero (by simpa using hsingle)
          subst hrest
          by_cases hold : cfg.lsaCompare old lsa > 0
          · have hne : old ≠ lsa := fun h => by rw [h, lsaCompare_self] at hold; cases hold
            simp [hold, Int.not_le.2 hold, hne]
          · simp [hold, Int.not_lt.1 hold]

theorem newest_recent (cfg : Config) (lsa : Lsa) (list : List Lsa) :
    cfg.lsaCompare (cfg.newest lsa list) lsa ≤ 0 := by
  rw [Config.newest]
  split
  · exact Int.le_of_eq (lsaCompare_self lsa)
  · split
    · exact Int.le_of_eq (lsaCompare_self lsa)
    · next hold => exact Int.not_lt.1 hold

theorem instances_length_le (cfg : Config) (inter : Interface) (lsa : Lsa) :
    (instances lsa inter.updateLSAList).length ≤
      (instances lsa (cfg.queueToFlood inter lsa).updateLSAList).length := by
  rw [Config.queueToFlood, queueLoop_eq]
  generalize inter.updateLSAList = list
  cases hfound : list.find? lsa.sameAgeAndId with
  | none => simp [instances_append]
  | some hdr =>
    by_cases hnewer : cfg.lsaCompare hdr lsa > 0
    · obtain ⟨before, after, -, rfl, herase⟩ := queue_split hfound
      have hone : (instances lsa (hdr :: after)).length ≤ 1 + (instances lsa after).length := by
        simp only [instances, List.filter_cons]
        split
        · simp only [List.length_cons]
          omega
        · omega
      simp only [Option.map_some, Option.getD_some, hnewer, if_true, herase, instances_append,
        instances_self, List.length_append, List.length_singleton]
      omega
    · simp [hnewer]

/-! ## One interface -/

namespace Interface

variable (cfg : Config) (area : Ip) (lsa : Lsa) (srcAddr : IpPtr) (inId : Nat)

def neighborsFlooded (inter : Interface) : Interface :=
  { inter with
    neighborRouterList :=
      inter.neighborRouterList.map fun neigh => (neigh.floodStep cfg lsa srcAddr).neigh }

def anyAdded (inter : Interface) : Bool :=
  inter.neighborRouterList.any fun neigh => (neigh.floodStep cfg lsa srcAddr).isAddedToRxtList

/-- The interface after the flood, where the addresses that are compared are no null pointers. -/
def flooded (inter : Interface) : Interface :=
  if inter.anyAdded cfg lsa srcAddr = true ∧ inter.isBack cfg srcAddr inId = false then
    cfg.queueToFlood (inter.neighborsFlooded cfg lsa srcAddr) lsa
  else inter.neighborsFlooded cfg lsa srcAddr

theorem isBack_some (src : Ip) (inter : Interface) :
    inter.isBack cfg (some src) inId = true ↔ inter.Receives cfg src inId ∧
      (inter.isDesignated src = some true ∨ inter.State = .backup) := by
  simp only [isBack, Option.any_some, Bool.and_eq_true, Bool.or_eq_true, decide_eq_true_eq,
    Receives, and_assoc]

theorem queueFlooded_null {src : Ip} (inter : Interface) (hreceives : inter.Receives cfg src inId)
    (hnull : inter.isDesignated src = none) (isLoadingDone : Bool) :
    inter.queueFlooded cfg lsa src inId isLoadingDone = none := by
  obtain ⟨htype, hsrc, hid⟩ := hreceives
  simp [queueFlooded, htype, hsrc, hid, hnull]

theorem queueFlooded_some {src : Ip} (inter : Interface)
    (h : inter.Receives cfg src inId → inter.isDesignated src ≠ none) (isLoadingDone : Bool) :
    ∃ floodBack, inter.queueFlooded cfg lsa src inId isLoadingDone =
      some ⟨if inter.isBack cfg (some src) inId = true then inter else cfg.queueToFlood inter lsa,
        floodBack, isLoadingDone⟩ := by
  by_cases hreceives : inter.Receives cfg src inId
  · obtain ⟨isDr, hdesignated⟩ := Option.ne_none_iff_exists'.1 (h hreceives)
    have hback := isBack_some cfg inId src inter
    obtain ⟨htype, hsrc, hid⟩ := hreceives
    cases isDr with
    | true =>
      rw [if_pos (hback.2 ⟨⟨htype, hsrc, hid⟩, Or.inl hdesignated⟩)]
      exact ⟨false, by simp [queueFlooded, htype, hsrc, hid, hdesignated]⟩
    | false =>
      by_cases hbackup : inter.State = .backup
      · rw [if_pos (hback.2 ⟨⟨htype, hsrc, hid⟩, Or.inr hbackup⟩)]
        exact ⟨false, by simp [queueFlooded, htype, hsrc, hid, hdesignated, hbackup]⟩
      · rw [if_neg fun hb => by simpa [hdesignated, hbackup] using (hback.1 hb).2]
        exact ⟨true, by simp [queueFlooded, htype, hsrc, hid, hdesignated, hbackup]⟩
  · rw [if_neg fun hb => hreceives ((isBack_some cfg inId src inter).1 hb).1]
    have hnot : ¬(inter.ifType = .broadcast ∧ src.int_ip ≠ cfg.anyDest.int_ip ∧ inter.id = inId) :=
      hreceives
    exact ⟨_, by rw [queueFlooded, if_neg (by simpa using hnot)]⟩

variable {cfg area lsa srcAddr inId}

variable {inter : Interface}

theorem floodStep_of_not (hof : ¬inter.IsOf area) :
    inter.floodStep cfg area lsa srcAddr inId = some ⟨inter, false, false⟩ := by
  have hor : inter.State = .down ∨ inter.areaId.int_ip ≠ area.int_ip := by
    by_cases hdown : inter.State = .down
    · exact Or.inl hdown
    · exact Or.inr fun harea => hof ⟨hdown, harea⟩
  rw [floodStep, if_pos hor]

/-- A neighbour has been added on the interface the LSA has come through, and a compared address is
null. -/
def ReadsNull (cfg : Config) (lsa : Lsa) (srcAddr : IpPtr) (inId : Nat) (inter : Interface) : Prop :=
  inter.anyAdded cfg lsa srcAddr = true ∧
    ∃ src ∈ srcAddr, inter.Receives cfg src inId ∧ inter.isDesignated src = none

theorem floodStep_of (cfg : Config) (lsa : Lsa) (srcAddr : IpPtr) (inId : Nat)
    (hof : inter.IsOf area) :
    (inter.ReadsNull cfg lsa srcAddr inId ∧
      inter.floodStep cfg area lsa srcAddr inId = none) ∨
    (¬inter.ReadsNull cfg lsa srcAddr inId ∧ ∃ floodBack,
      inter.floodStep cfg area lsa srcAddr inId =
        some ⟨inter.flooded cfg lsa srcAddr inId, floodBack,
          inter.neighborRouterList.any fun neigh =>
            (neigh.floodStep cfg lsa srcAddr).isLoadingDone⟩) := by
  have hor : ¬(inter.State = .down ∨ inter.areaId.int_ip ≠ area.int_ip) := by
    rintro (hdown | harea)
    · exact hof.1 hdown
    · exact harea hof.2
  rw [floodStep, if_neg hor]
  simp only [List.map_map, List.any_map]
  cases srcAddr with
  | none =>
    have hadded : inter.anyAdded cfg lsa none = false := by
      simp [anyAdded, Neighbor.floodStep_isAdded]
    refine Or.inr ⟨fun h => by simp [ReadsNull] at h, false, ?_⟩
    rw [flooded, if_neg (by simp [hadded])]
    rfl
  | some src =>
    cases hadded : inter.anyAdded cfg lsa (some src) with
    | false =>
      refine Or.inr ⟨fun h => by simp [ReadsNull, hadded] at h, false, ?_⟩
      rw [flooded, if_neg (by simp [hadded])]
      exact if_neg (by simpa [anyAdded] using hadded)
    | true =>
      have hany : (inter.neighborRouterList.any
          (NeighborFlood.isAddedToRxtList ∘ Neighbor.floodStep cfg lsa (some src))) = true := hadded
      simp only [hany, if_true]
      by_cases hnull : inter.Receives cfg src inId ∧ inter.isDesignated src = none
      · exact Or.inl ⟨⟨hadded, src, rfl, hnull⟩,
          queueFlooded_null cfg lsa inId (inter.neighborsFlooded cfg lsa (some src)) hnull.1
            hnull.2 _⟩
      · have hsafe : inter.Receives cfg src inId → inter.isDesignated src ≠ none :=
          fun hreceives hd => hnull ⟨hreceives, hd⟩
        obtain ⟨floodBack, hqueue⟩ := queueFlooded_some cfg lsa inId
          (inter.neighborsFlooded cfg lsa (some src)) hsafe
          (inter.neighborRouterList.any fun neigh =>
            (neigh.floodStep cfg lsa (some src)).isLoadingDone)
        refine Or.inr ⟨?_, floodBack, hqueue.trans ?_⟩
        · rintro ⟨-, _, ⟨⟩, hreads⟩
          exact hnull hreads
        · have hback : (inter.neighborsFlooded cfg lsa (some src)).isBack cfg (some src) inId =
            inter.isBack cfg (some src) inId := rfl
          rw [flooded, hback]
          cases inter.isBack cfg (some src) inId <;> simp [hadded]

theorem neighborsFlooded_right_iff (cfg : Config) (lsa : Lsa) (srcAddr : IpPtr)
    (hof : inter.IsOf area) :
    List.Forall₂
        (fun neigh neigh' => neigh'.neighLSRxtList = neigh.neighLSRxtList ++
          if inter.IsOf area ∧ neigh.inScope cfg lsa srcAddr = true then [lsa] else [])
        inter.neighborRouterList (inter.neighborsFlooded cfg lsa srcAddr).neighborRouterList ↔
      ∀ neigh ∈ inter.neighborRouterList, neigh.FloodOk cfg lsa srcAddr := by
  rw [neighborsFlooded, List.forall₂_map_right_iff, List.forall₂_same]
  refine forall₂_congr fun neigh _ => ?_
  rw [Neighbor.floodStep_rxt, List.append_cancel_left_eq, ← Neighbor.isAdded_eq_inScope_iff]
  cases (neigh.floodStep cfg lsa srcAddr).isAddedToRxtList <;>
    cases neigh.inScope cfg lsa srcAddr <;> simp [hof]

theorem anyAdded_eq (h : ∀ neigh ∈ inter.neighborRouterList, neigh.FloodOk cfg lsa srcAddr) :
    inter.anyAdded cfg lsa srcAddr = inter.anyInScope cfg lsa srcAddr := by
  rw [anyAdded, anyInScope, Bool.eq_iff_iff, List.any_eq_true, List.any_eq_true]
  refine exists_congr fun neigh => and_congr_right fun hneigh => ?_
  rw [(Neighbor.isAdded_eq_inScope_iff ..).2 (h neigh hneigh)]

theorem flooded_neighbors (inter : Interface) :
    (inter.flooded cfg lsa srcAddr inId).neighborRouterList =
      (inter.neighborsFlooded cfg lsa srcAddr).neighborRouterList := by
  rw [flooded]
  split <;> rfl

theorem flooded_updateLSAList (cfg : Config) (lsa : Lsa) (srcAddr : IpPtr) (inId : Nat)
    (inter : Interface) :
    (inter.flooded cfg lsa srcAddr inId).updateLSAList =
      if inter.anyAdded cfg lsa srcAddr = true ∧ inter.isBack cfg srcAddr inId = false then
        (cfg.queueToFlood inter lsa).updateLSAList
      else inter.updateLSAList := by
  rw [flooded]
  split <;> rfl

theorem floodStep_right_iff (inter : Interface) :
    (∃ result, inter.floodStep cfg area lsa srcAddr inId = some result ∧
      inter.FloodsRight cfg area lsa srcAddr inId result.inter) ↔
      inter.FloodOk cfg area lsa srcAddr inId := by
  by_cases hof : inter.IsOf area
  · have hneighbors := neighborsFlooded_right_iff cfg lsa srcAddr hof
    rcases floodStep_of cfg lsa srcAddr inId hof with
      ⟨⟨hadded, src, hsrc, hreceives, hnull⟩, hresult⟩ | ⟨hsafe, floodBack, hresult⟩
    · rw [hresult]
      refine ⟨nofun, fun h => ?_⟩
      rw [anyAdded_eq (h.neighbors hof)] at hadded
      exact absurd hnull (h.designated hof hadded src hsrc hreceives)
    · rw [hresult]
      constructor
      · rintro ⟨_, ⟨⟩, h⟩
        have hok := hneighbors.1 (by rw [← flooded_neighbors]; exact h.neighbors)
        have hany := anyAdded_eq hok
        have hlist := flooded_updateLSAList cfg lsa srcAddr inId inter
        have hsingle : (instances lsa inter.updateLSAList).length ≤ 1 := by
          refine Nat.le_trans ?_ h.single
          rw [hlist]
          split
          · exact instances_length_le cfg inter lsa
          · exact Nat.le_refl _
        refine ⟨hsingle, fun _ => hok, fun _ hscope src hsrc hreceives hnull => ?_,
          fun _ hscope hback => ?_, fun harea hnot => ?_⟩
        · exact hsafe ⟨hany.trans hscope, src, hsrc, hreceives, hnull⟩
        · have hqueued := h.queued hof hscope hback
          rw [hlist, if_pos ⟨hany.trans hscope, hback⟩] at hqueued
          exact (queueToFlood_iff cfg inter lsa hsingle).1 hqueued
        · rw [← h.notQueued hnot]
          exact h.recent harea
      · intro h
        have hany := anyAdded_eq (h.neighbors hof)
        have hlist := flooded_updateLSAList cfg lsa srcAddr inId inter
        refine ⟨_, rfl, ?_, fun _ hscope hback => ?_, fun hnot => ?_, ?_, fun harea => ?_⟩
        · rw [flooded_neighbors]
          exact hneighbors.2 (h.neighbors hof)
        · rw [hlist, if_pos ⟨hany.trans hscope, hback⟩]
          exact (queueToFlood_iff cfg inter lsa h.single).2 (h.queue hof hscope hback)
        · rw [hlist, if_neg fun hq => hnot ⟨hof, hany.symm.trans hq.1, hq.2⟩]
        · rw [hlist]
          split
          · next hq =>
            have hqueue := h.queue hof (hany.symm.trans hq.1) hq.2
            rw [(queueToFlood_iff cfg inter lsa h.single).2 hqueue]
            exact Nat.le_refl 1
          · exact h.single
        · rw [hlist]
          split
          · next hq =>
            have hqueue := h.queue hof (hany.symm.trans hq.1) hq.2
            rw [(queueToFlood_iff cfg inter lsa h.single).2 hqueue, List.forall_mem_singleton]
            exact newest_recent cfg lsa _
          · next hq => exact h.recent harea fun hnot => hq ⟨hany.trans hnot.2.1, hnot.2.2⟩
  · rw [floodStep_of_not hof]
    constructor
    · rintro ⟨_, ⟨⟩, h⟩
      exact ⟨h.single, fun h => absurd h hof, fun h => absurd h hof, fun h => absurd h hof,
        fun harea _ => h.recent harea⟩
    · intro h
      refine ⟨_, rfl, ?_, fun h => absurd h hof, fun _ => rfl, h.single,
        fun harea => h.recent harea fun hnot => hof hnot.1⟩
      simp [hof]

end Interface

/-! ## The router -/

def Neighbor.endsLoading (cfg : Config) (lsa : Lsa) (neigh : Neighbor) : Bool :=
  decide (neigh.state = .loading) && (neigh.searchFromList lsa).any fun lsHdr =>
    decide (0 ≤ cfg.lsaCompare lsHdr lsa) && decide (neigh.neighLSReqList.length = 1)

theorem Neighbor.addFlooded_isLoadingDone (lsa : Lsa) (srcAddr : IpPtr) (neigh : Neighbor)
    (isLoadingDone : Bool) :
    (neigh.addFlooded lsa srcAddr isLoadingDone).isLoadingDone = isLoadingDone := by
  rw [addFlooded.eq_def]
  split
  · rfl
  · split <;> rfl

theorem Neighbor.floodStep_isLoadingDone (cfg : Config) (lsa : Lsa) (srcAddr : IpPtr)
    (neigh : Neighbor) :
    (neigh.floodStep cfg lsa srcAddr).isLoadingDone = neigh.endsLoading cfg lsa := by
  rw [floodStep.eq_def, endsLoading]
  by_cases hlow : neigh.state.toNat < NeighState.exchange.toNat
  · have hloading : neigh.state ≠ .loading := fun h => absurd hlow (by rw [h]; decide)
    simp [hlow, hloading]
  rw [if_neg hlow]
  by_cases hfull : neigh.state = .full
  · simp [hfull, addFlooded_isLoadingDone]
  rw [if_neg hfull]
  cases hfound : neigh.searchFromList lsa with
  | none => simp [addFlooded_isLoadingDone]
  | some lsHdr =>
    have hempty := removeFromReqList_isEmpty lsa hfound
    by_cases hneg : cfg.lsaCompare lsHdr lsa < 0
    · simp [hneg, Int.not_le.2 hneg]
    · by_cases hloading : neigh.state = .loading
      · by_cases hlast : neigh.neighLSReqList.length = 1
        · by_cases hzero : cfg.lsaCompare lsHdr lsa = 0
          · simp [hempty, hzero, hlast, hloading]
          · simp [hempty, hneg, hzero, hlast, hloading, addFlooded_isLoadingDone, Int.not_lt.1 hneg]
        · simp [hempty, hneg, hlast, addFlooded_isLoadingDone]
      · simp [hneg, hloading, addFlooded_isLoadingDone]

namespace Router

variable {cfg : Config} {lsa : Lsa} {srcAddr : IpPtr} {inId : Nat}

/-- Some loading neighbour in the area gets the last LSA it was asked for. -/
def EndsLoading (cfg : Config) (area : Ip) (lsa : Lsa) (interfaces : List Interface) : Prop :=
  ∃ inter ∈ interfaces, inter.IsOf area ∧
    ∃ neigh ∈ inter.neighborRouterList, neigh.endsLoading cfg lsa = true

theorem floodLoop_right_iff (area : Ip) (interfaces : List Interface) :
    (∃ results, floodLoop cfg area lsa srcAddr inId interfaces = some results ∧
      List.Forall₂ (Interface.FloodsRight cfg area lsa srcAddr inId) interfaces
        (results.map InterfaceFlood.inter)) ↔
      ∀ inter ∈ interfaces, inter.FloodOk cfg area lsa srcAddr inId := by
  induction interfaces with
  | nil => simp [floodLoop]
  | cons inter rest ih =>
    rw [List.forall_mem_cons, ← Interface.floodStep_right_iff, ← ih, floodLoop]
    constructor
    · rintro ⟨results, hresults, hright⟩
      split at hresults
      · next result others hresult hothers =>
        cases hresults
        rw [List.map_cons, List.forall₂_cons] at hright
        exact ⟨⟨result, hresult, hright.1⟩, others, hothers, hright.2⟩
      · cases hresults
    · rintro ⟨⟨result, hresult, hright⟩, others, hothers, hrights⟩
      refine ⟨result :: others, by rw [hresult, hothers], ?_⟩
      exact .cons hright hrights

theorem floodLoop_isLoadingDone {area : Ip} {interfaces : List Interface}
    {results : List InterfaceFlood}
    (h : floodLoop cfg area lsa srcAddr inId interfaces = some results) :
    results.any InterfaceFlood.isLoadingDone = true ↔ EndsLoading cfg area lsa interfaces := by
  induction interfaces generalizing results with
  | nil =>
    cases h
    simp [EndsLoading]
  | cons inter rest ih =>
    rw [floodLoop] at h
    split at h
    · next result others hresult hothers =>
      cases h
      rw [List.any_cons, Bool.or_eq_true, ih hothers, EndsLoading, EndsLoading,
        List.exists_mem_cons_iff]
      refine or_congr ?_ Iff.rfl
      by_cases hof : inter.IsOf area
      · rcases Interface.floodStep_of cfg lsa srcAddr inId hof with ⟨-, hnone⟩ | ⟨-, floodBack, hsome⟩
        · cases hnone.symm.trans hresult
        · cases hsome.symm.trans hresult
          simp [hof, Neighbor.floodStep_isLoadingDone]
      · cases (Interface.floodStep_of_not hof).symm.trans hresult
        simp [hof]
    · cases h

/-! ## Taking older instances off the retransmission lists first -/

theorem removeFromRxtList_floodOk (neigh : Neighbor) :
    (neigh.removeFromRxtList lsa).FloodOk cfg lsa srcAddr ↔ neigh.FloodOk cfg lsa srcAddr := by
  rw [Neighbor.removeFromRxtList.eq_def]
  dsimp only
  split <;> rfl

theorem removeFromRxtList_inScope (neigh : Neighbor) :
    (neigh.removeFromRxtList lsa).inScope cfg lsa srcAddr = neigh.inScope cfg lsa srcAddr := by
  rw [Neighbor.removeFromRxtList.eq_def]
  dsimp only
  split <;> rfl

theorem removeFromRxtList_endsLoading (neigh : Neighbor) :
    (neigh.removeFromRxtList lsa).endsLoading cfg lsa = neigh.endsLoading cfg lsa := by
  rw [Neighbor.removeFromRxtList.eq_def]
  dsimp only
  split <;> rfl

/-- What `ospf_lsa_removeFromRxtList` makes of an interface of the area. -/
def rxtRemoved (lsa : Lsa) (inter : Interface) : Interface :=
  { inter with neighborRouterList := inter.neighborRouterList.map (·.removeFromRxtList lsa) }

theorem rxtRemoved_anyInScope (cfg : Config) (lsa : Lsa) (srcAddr : IpPtr) (inter : Interface) :
    (rxtRemoved lsa inter).anyInScope cfg lsa srcAddr = inter.anyInScope cfg lsa srcAddr := by
  simp only [rxtRemoved, Interface.anyInScope, List.any_map, Function.comp_def,
    removeFromRxtList_inScope]

theorem rxtRemoved_floodOk (area : Ip) (inter : Interface) :
    (rxtRemoved lsa inter).FloodOk cfg area lsa srcAddr inId ↔
      inter.FloodOk cfg area lsa srcAddr inId := by
  have hscope := rxtRemoved_anyInScope cfg lsa srcAddr inter
  have hneighbors : (∀ neigh ∈ (rxtRemoved lsa inter).neighborRouterList,
      neigh.FloodOk cfg lsa srcAddr) ↔
        ∀ neigh ∈ inter.neighborRouterList, neigh.FloodOk cfg lsa srcAddr := by
    simp only [rxtRemoved, List.forall_mem_map, removeFromRxtList_floodOk]
  constructor
  · intro h
    exact ⟨h.single, fun hof => hneighbors.1 (h.neighbors hof),
      fun hof hany => h.designated hof (hscope.trans hany),
      fun hof hany => h.queue hof (hscope.trans hany),
      fun harea hnot => h.recent harea fun hq => hnot ⟨hq.1, hscope.symm.trans hq.2.1, hq.2.2⟩⟩
  · intro h
    exact ⟨h.single, fun hof => hneighbors.2 (h.neighbors hof),
      fun hof hany => h.designated hof (hscope.symm.trans hany),
      fun hof hany => h.queue hof (hscope.symm.trans hany),
      fun harea hnot => h.recent harea fun hq => hnot ⟨hq.1, hscope.trans hq.2.1, hq.2.2⟩⟩

theorem removeFromRxtList_ospfIf (r : Router) (area : Ip) :
    (r.removeFromRxtList area lsa).ospfIf = r.ospfIf.map fun inter =>
      if inter.areaId.int_ip = area.int_ip then rxtRemoved lsa inter else inter := rfl

theorem forall_floodOk_removed (r : Router) (area : Ip) :
    (∀ inter ∈ (r.removeFromRxtList area lsa).ospfIf, inter.FloodOk cfg area lsa srcAddr inId) ↔
      ∀ inter ∈ r.ospfIf, inter.FloodOk cfg area lsa srcAddr inId := by
  rw [removeFromRxtList_ospfIf, List.forall_mem_map]
  refine forall₂_congr fun inter _ => ?_
  split
  · exact rxtRemoved_floodOk area inter
  · rfl

theorem endsLoading_removed (r : Router) (area : Ip) :
    EndsLoading cfg area lsa (r.removeFromRxtList area lsa).ospfIf ↔
      EndsLoading cfg area lsa r.ospfIf := by
  rw [removeFromRxtList_ospfIf, EndsLoading, EndsLoading]
  simp only [List.mem_map, exists_exists_and_eq_and]
  refine exists_congr fun inter => and_congr_right fun _ => ?_
  split
  · refine and_congr_right fun _ => ?_
    simp only [rxtRemoved, List.mem_map, exists_exists_and_eq_and, removeFromRxtList_endsLoading]
  · rfl

theorem changeFull_ospfIf {r r' : Router} {current : Nat} (h : r.changeFull current = some r') :
    r'.ospfIf = r.ospfIf ∧ r.areaGetIn current ≠ none := by
  obtain ⟨a, ha, h⟩ := Option.bind_eq_some_iff.1 h
  refine ⟨?_, by simp [ha]⟩
  rw [scheduleRouterLSA] at h
  split at h
  · cases h
  · split at h <;> cases h <;> rfl

theorem changeFull_isSome {r : Router} {current : Nat} (h : r.areaGetIn current ≠ none) :
    ∃ r', r.changeFull current = some r' := by
  obtain ⟨a, ha⟩ := Option.ne_none_iff_exists'.1 h
  have hlt : a < r.areaDS.length := by
    rw [areaGetIn] at ha
    split at ha
    · cases ha
    · exact (List.findIdx?_eq_some_iff_getElem.1 ha).1
  have harea : r.area? a = some r.areaDS[a] := List.getElem?_eq_getElem hlt
  rw [changeFull, ha, Option.bind_some, scheduleRouterLSA.eq_def]
  simp only [harea]
  split
  · exact ⟨r, rfl⟩
  · exact ⟨_, rfl⟩

/-- `ospf_lsa_flood` adds and queues the LSA where it should, just where the condition holds of each
interface. -/
theorem flood_right_iff {r : Router} {a : Nat} {area : Area} (harea : r.area? a = some area)
    (cause : FloodCause) (current : Nat) :
    (∃ r' floodBack, r.flood cfg cause a lsa srcAddr current inId = some (r', floodBack) ∧
      List.Forall₂ (Interface.FloodsRight cfg area.areaId lsa srcAddr inId)
        (r.removeFromRxtList area.areaId lsa).ospfIf r'.ospfIf) ↔
      (∀ inter ∈ r.ospfIf, inter.FloodOk cfg area.areaId lsa srcAddr inId) ∧
        (EndsLoading cfg area.areaId lsa r.ospfIf → r.areaGetIn current ≠ none) := by
  rw [← forall_floodOk_removed, ← floodLoop_right_iff, ← endsLoading_removed]
  simp only [flood, harea, Option.bind_eq_bind, Option.bind_some]
  generalize hremoved : r.removeFromRxtList area.areaId lsa = removed
  have hin : removed.areaGetIn current = r.areaGetIn current := by
    rw [← hremoved]
    rfl
  rw [← hin]
  cases hresults : floodLoop cfg area.areaId lsa srcAddr inId removed.ospfIf with
  | none => simp
  | some results =>
    have hdone := floodLoop_isLoadingDone hresults
    by_cases hends : EndsLoading cfg area.areaId lsa removed.ospfIf
    · simp only [Option.bind_some, hdone.2 hends, if_true, Option.some.injEq, exists_eq_left', hends,
        forall_const]
      constructor
      · rintro ⟨r', floodBack, hflood, hright⟩
        obtain ⟨r₁, hfull, hr₁⟩ := Option.map_eq_some_iff.1 hflood
        cases hr₁
        obtain ⟨hospfIf, hcurrent⟩ := changeFull_ospfIf hfull
        rw [hospfIf] at hright
        exact ⟨hright, hcurrent⟩
      · rintro ⟨hright, hcurrent⟩
        let flooded : Router := { removed with
          ospfIf := results.map InterfaceFlood.inter
          floods := ⟨cause, a, area.areaId, lsa, srcAddr, inId, r.ospfIf⟩ :: removed.floods }
        obtain ⟨r₁, hfull⟩ := changeFull_isSome (r := flooded) hcurrent
        refine ⟨r₁, _, Option.map_eq_some_iff.2 ⟨r₁, hfull, rfl⟩, ?_⟩
        rw [(changeFull_ospfIf hfull).1]
        exact hright
    · have hnot : results.any InterfaceFlood.isLoadingDone = false :=
        Bool.eq_false_iff.2 fun h => hends (hdone.1 h)
      simp only [Option.bind_some, hnot, Bool.false_eq_true, if_false, Option.some.injEq,
        exists_eq_left', hends, false_imp_iff, and_true]
      constructor
      · rintro ⟨r', floodBack, hflood, hright⟩
        cases hflood
        exact hright
      · exact fun hright => ⟨_, _, rfl, hright⟩

def ownLsa : Lsa where
  LSAge := 0
  Options := 2
  LSType := .router
  LinkStateID := ⟨10, 10⟩
  AdvertisingRouter := ⟨10, 10⟩
  LSSequenceNumber := initialSequenceNumber + 1
  length := 24
  lsaInfo := some ⟨0, []⟩
  time := 0

/-- Flooded as a new one, with `ANY_DEST`, it goes to router 20. -/
theorem flood_right_own :
    ∃ r' floodBack, exampleRouter.flood exampleConfig .originate 0 ownLsa
        (some exampleConfig.anyDest) 1 0 = some (r', floodBack) ∧
      List.Forall₂ (Interface.FloodsRight exampleConfig ⟨1, 1⟩ ownLsa (some exampleConfig.anyDest) 0)
        (exampleRouter.removeFromRxtList ⟨1, 1⟩ ownLsa).ospfIf r'.ospfIf := by
  refine (flood_right_iff (r := exampleRouter) (a := 0) rfl .originate 1).2 ⟨?_, fun _ => by decide⟩
  intro inter hinter
  rw [List.mem_singleton.1 hinter]
  refine ⟨by decide, fun _ neigh hneigh => ?_, ?_, fun _ _ _ => rfl, fun _ _ _ hold => by cases hold⟩
  · rw [List.mem_singleton.1 hneigh]
    rintro - - _ ⟨⟩
  · rintro - - _ - ⟨hbroadcast, -⟩
    cases hbroadcast

/-- Flooded as a refreshed one, without a source address, it goes nowhere. -/
theorem not_flood_right :
    ¬∃ r' floodBack, exampleRouter.flood exampleConfig .refresh 0 ownLsa none 1 0 =
        some (r', floodBack) ∧
      List.Forall₂ (Interface.FloodsRight exampleConfig ⟨1, 1⟩ ownLsa none 0)
        (exampleRouter.removeFromRxtList ⟨1, 1⟩ ownLsa).ospfIf r'.ospfIf := by
  rintro ⟨r', floodBack, hflood, hright⟩
  cases hflood
  cases hright with
  | cons hinter _ =>
    cases hinter.neighbors with
    | cons hneigh _ => exact absurd hneigh (by decide)

end Router

end NetSim.Ospf
