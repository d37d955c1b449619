import NetSim.Lib.Run
import NetSim.Zrp.RoutingTable

/-!
# The topology information base of OLSR

A node receives TC messages and computes its routes, in any order, while its other sets change.
`Meets` is the condition on a step.
-/

namespace NetSim.Zrp

open NetSim.Lib Function

variable {Addr : Type} [DecidableEq Addr]

/-! ## The tuples of an originator -/

structure Updated (originator : Addr) (ansn : ℕ) (adv : List Addr)
    (base base' : List (TopologyTuple Addr)) : Prop where
  nodup : (base.map TopologyTuple.key).Nodup → (base'.map TopologyTuple.key).Nodup
  key : ∀ k, k ∈ base'.map TopologyTuple.key ↔
    k ∈ base.map TopologyTuple.key ∨ k.1 = originator ∧ k.2 ∈ adv
  seq : ∀ t ∈ base', (∃ x ∈ base, x.key = t.key ∧ x.tSeq = t.tSeq) ∨
    t.key ∉ base.map TopologyTuple.key ∧ t.tSeq = ansn

omit [DecidableEq Addr] in
theorem Updated.refl {originator : Addr} {ansn : ℕ} {base : List (TopologyTuple Addr)} :
    Updated originator ansn [] base base :=
  ⟨id, fun k => by simp, fun t ht => .inl ⟨t, ht, rfl, rfl⟩⟩

omit [DecidableEq Addr] in
theorem Updated.trans {originator dest : Addr} {ansn : ℕ} {adv : List Addr}
    {base base' base'' : List (TopologyTuple Addr)} (h : Updated originator ansn [dest] base base')
    (h' : Updated originator ansn adv base' base'') : Updated originator ansn (dest :: adv) base base'' := by
  refine ⟨fun hnd => h'.nodup (h.nodup hnd), fun k => ?_, fun t ht => ?_⟩
  · rw [h'.key, h.key, List.mem_singleton, List.mem_cons]
    tauto
  · rcases h'.seq t ht with ⟨x, hx, hkey, hseq⟩ | ⟨hnew, hseq⟩
    · rcases h.seq x hx with ⟨y, hy, hkey', hseq'⟩ | ⟨hnew, hseq'⟩
      · exact .inl ⟨y, hy, hkey'.trans hkey, hseq'.trans hseq⟩
      · exact .inr ⟨hkey ▸ hnew, hseq ▸ hseq'⟩
    · exact .inr ⟨fun hk => hnew ((h.key _).2 (.inl hk)), hseq⟩

theorem updated_updateTopologyTuple {originator dest : Addr} {ansn : ℕ} {tTime : ℚ}
    {base : List (TopologyTuple Addr)} :
    Updated originator ansn [dest] base (updateTopologyTuple originator ansn tTime base dest) := by
  unfold updateTopologyTuple olsrFindTopologyInfo
  cases hfind : lookup TopologyTuple.key (originator, dest) base with
  | some x =>
    obtain ⟨hx, hkey⟩ := lookup_some hfind
    have hmap : (modifyFirst TopologyTuple.key (originator, dest) (fun t => { t with tTime }) base).map
        TopologyTuple.key = base.map TopologyTuple.key := map_key_modifyFirst fun _ => rfl
    refine ⟨fun hnd => hmap ▸ hnd, fun k => ?_, fun t ht => ?_⟩
    · rw [hmap, List.mem_singleton]
      refine ⟨.inl, ?_⟩
      rintro (hk | ⟨h1, h2⟩)
      · exact hk
      · have hk : k = x.key := (Prod.ext h1 h2).trans hkey.symm
        exact hk ▸ List.mem_map_of_mem hx
    · rcases mem_modifyFirst ht with ht | ⟨y, hy, rfl⟩
      · exact .inl ⟨t, ht, rfl, rfl⟩
      · exact .inl ⟨y, (lookup_some hy).1, rfl, rfl⟩
  | none =>
    have hnot := lookup_eq_none.1 hfind
    refine ⟨fun hnd => nodup_append_single hnd hfind, fun k => ?_, fun t ht => ?_⟩
    · rw [List.map_append, List.mem_append, List.map_singleton, List.mem_singleton, List.mem_singleton]
      exact or_congr Iff.rfl Prod.ext_iff
    · rcases List.mem_append.1 ht with ht | ht
      · exact .inl ⟨t, ht, rfl, rfl⟩
      · rw [List.mem_singleton.1 ht]
        refine .inr ⟨fun hk => ?_, rfl⟩
        obtain ⟨y, hy, hyk⟩ := List.mem_map.1 hk
        exact hnot y hy hyk

theorem updated_foldl {originator : Addr} {ansn : ℕ} {tTime : ℚ} {adv : List Addr}
    {base : List (TopologyTuple Addr)} :
    Updated originator ansn adv base (adv.foldl (updateTopologyTuple originator ansn tTime) base) := by
  induction adv generalizing base with
  | nil => exact Updated.refl
  | cons dest adv ih => exact updated_updateTopologyTuple.trans ih

/-! ## What a message does to the base -/

section
variable {convertMEToDouble : ℕ → ℚ} {now : ℚ} {packet : TcPacket Addr} {olsr : NodeOlsr Addr}

theorem topologyInfoBase_recordDuplicate {message : TcMessage Addr} {forwardFlag : Bool} : (recordDuplicate now message forwardFlag olsr).topologyInfoBase =
      olsr.topologyInfoBase := by
  unfold recordDuplicate
  split <;> rfl

theorem topologyInfoBase_packetForwarding :
    (packetForwarding now packet olsr).1.topologyInfoBase = olsr.topologyInfoBase := by
  unfold packetForwarding
  dsimp only
  split
  · rfl
  · split
    · rfl
    · exact topologyInfoBase_recordDuplicate

theorem receiveTC_of_accepted (h : tcAccepted olsr packet = true) :
    receiveTC convertMEToDouble now packet olsr =
      packetForwarding now packet (olsrUpdateTopologySet convertMEToDouble now packet.message olsr) := by
  obtain ⟨h1, h2⟩ := (Bool.and_eq_true _ _).mp h
  rw [Bool.not_eq_true'] at h1 h2
  unfold receiveTC
  rw [h1, h2, if_neg Bool.false_ne_true, if_neg Bool.false_ne_true]

theorem receiveTC_of_not_accepted (h : tcAccepted olsr packet = false) :
    receiveTC convertMEToDouble now packet olsr = (olsr, none) := by
  unfold tcAccepted at h
  unfold receiveTC
  cases h1 : receiveTCCondition1 olsr.neighborSet packet with
  | true => rw [if_pos rfl]
  | false =>
    rw [h1, Bool.not_false, Bool.true_and, Bool.not_eq_false'] at h
    rw [if_neg Bool.false_ne_true, if_pos h]

theorem updated_receiveTC (h : tcAccepted olsr packet = true) :
    Updated packet.message.originatorAddress packet.message.ansn
      packet.message.advertisedNeighborMainAddress olsr.topologyInfoBase
      (receiveTC convertMEToDouble now packet olsr).1.topologyInfoBase := by
  rw [receiveTC_of_accepted h, topologyInfoBase_packetForwarding]
  exact updated_foldl

theorem topologyInfoBase_receiveTC_of_nil
    (hadv : packet.message.advertisedNeighborMainAddress = []) :
    (receiveTC convertMEToDouble now packet olsr).1.topologyInfoBase = olsr.topologyInfoBase := by
  cases h : tcAccepted olsr packet with
  | false => rw [receiveTC_of_not_accepted h]
  | true =>
    rw [receiveTC_of_accepted h, topologyInfoBase_packetForwarding]
    unfold olsrUpdateTopologySet
    rw [hadv]
    rfl

theorem tcAccepted_of_no_tuple (h1 : receiveTCCondition1 olsr.neighborSet packet = false)
    (h : ∀ t ∈ olsr.topologyInfoBase, t.tLastAddr ≠ packet.message.originatorAddress) :
    tcAccepted olsr packet = true := by
  unfold tcAccepted olsrValidateTopologyInfoOnCondition2
  rw [h1, Bool.not_false, Bool.true_and, Bool.not_eq_true', List.any_eq_false]
  exact fun t ht hd => h t ht (of_decide_eq_true hd).1

end

/-! ## Runs -/

/-- A node, the latest messages, and the tuples that routes have been built from. -/
structure TopologyState (Addr : Type) where
  olsr : NodeOlsr Addr
  latest : Addr → Option (TcMessage Addr)
  used : List (ℚ × TopologyTuple Addr)

inductive TopologyAction (Addr : Type)
  | receiveTC (now : ℚ) (packet : TcPacket Addr)
  | updateRoutingTable (now : ℚ)
  | other (olsr : NodeOlsr Addr)

/-- `message` is older than the latest from its originator. -/
def Older (latest : Addr → Option (TcMessage Addr)) (message : TcMessage Addr) : Prop :=
  ∃ m ∈ latest message.originatorAddress, SequenceNumberGreaterThan m.ansn message.ansn

/-- `message` is newer than all that has been accepted from its originator. -/
def Newer (latest : Addr → Option (TcMessage Addr)) (message : TcMessage Addr) : Prop :=
  ∀ m ∈ latest message.originatorAddress, SequenceNumberGreaterThan message.ansn m.ansn
deriving Decidable

instance (latest : Addr → Option (TcMessage Addr)) (message : TcMessage Addr) :
    Decidable (Older latest message) :=
  inferInstanceAs (Decidable (∃ m ∈ latest _, _))

namespace TopologyState

def start (olsr : NodeOlsr Addr) : TopologyState Addr :=
  { olsr := { olsr with topologyInfoBase := [] }, latest := fun _ => none, used := [] }

/-- One step. The table is computed only when it is out of date. -/
def step (convertMEToDouble : ℕ → ℚ) (s : TopologyState Addr) :
    TopologyAction Addr → Option (TopologyState Addr)
  | .receiveTC now packet =>
    some
      { s with
        olsr := (receiveTC convertMEToDouble now packet s.olsr).1
        latest :=
          if tcAccepted s.olsr packet ∧ ¬ Older s.latest packet.message then
            update s.latest packet.message.originatorAddress (some packet.message)
          else s.latest }
  | .updateRoutingTable now =>
    if s.olsr.bRoutingTableUpdate then
      (updateRoutingTable s.olsr).map fun r =>
        { s with
          olsr := { s.olsr with bRoutingTableUpdate := false }
          used := s.used ++ r.2.map fun t => (now, t) }
    else some s
  | .other olsr => some { s with olsr := { olsr with topologyInfoBase := s.olsr.topologyInfoBase } }

/-- The base holds the links of the latest messages. -/
structure Mirrors (s : TopologyState Addr) : Prop where
  nodup : (s.olsr.topologyInfoBase.map TopologyTuple.key).Nodup
  key : ∀ k, k ∈ s.olsr.topologyInfoBase.map TopologyTuple.key ↔
    ∃ m ∈ s.latest k.1, k.2 ∈ m.advertisedNeighborMainAddress
  seq : ∀ t ∈ s.olsr.topologyInfoBase, ∀ m ∈ s.latest t.tLastAddr, t.tSeq = m.ansn

def Heeds (convertMEToDouble : ℕ → ℚ) (s : TopologyState Addr) : TopologyAction Addr → Prop
  | .receiveTC now packet =>
    (Older s.latest packet.message →
      (receiveTC convertMEToDouble now packet s.olsr).1.topologyInfoBase = s.olsr.topologyInfoBase) ∧
    (Newer s.latest packet.message → tcAccepted s.olsr packet = true)
  | .updateRoutingTable _ | .other _ => True

/-- The property of a run. -/
structure Current (convertMEToDouble : ℕ → ℚ)
    (tr : List (TopologyState Addr × TopologyAction Addr)) (s : TopologyState Addr) : Prop where
  mirrors : s.Mirrors
  heeds : ∀ x ∈ tr, x.1.Heeds convertMEToDouble x.2
  unexpired : ∀ x ∈ s.used, x.1 ≤ x.2.tTime

def Unused (olsr : NodeOlsr Addr) (t : TopologyTuple Addr) : Prop :=
  t.tDestAddr = olsr.mainAddress ∨ ∀ table, nearRoutes olsr = some table →
    iptableCheck table t.tDestAddr ≠ none ∨ ¬ Leads olsr table t.tLastAddr

/-- Nothing newer follows a message that has advertised something, what comes late changes nothing,
condition 1 drops nothing newer, and no route can rest on an expired tuple. -/
def Meets (s : TopologyState Addr) : TopologyAction Addr → Prop
  | .receiveTC _ packet =>
    (Newer s.latest packet.message → receiveTCCondition1 s.olsr.neighborSet packet = false) ∧
    ∀ m ∈ s.latest packet.message.originatorAddress,
      if SequenceNumberGreaterThan packet.message.ansn m.ansn then m.advertisedNeighborMainAddress = []
      else tcAccepted s.olsr packet = true →
        if packet.message.ansn = m.ansn then
          m.advertisedNeighborMainAddress ⊆ packet.message.advertisedNeighborMainAddress
        else packet.message.advertisedNeighborMainAddress = []
  | .updateRoutingTable now =>
    s.olsr.bRoutingTableUpdate = true → ∀ t ∈ s.olsr.topologyInfoBase, t.tTime < now → Unused s.olsr t
  | .other _ => True

/-! ## What a step preserves -/

section
variable {convertMEToDouble : ℕ → ℚ} {now : ℚ} {packet : TcPacket Addr} {s s' : TopologyState Addr}
  {a : TopologyAction Addr}

omit [DecidableEq Addr] in
theorem mirrors_start {olsr : NodeOlsr Addr} : (start olsr).Mirrors :=
  { nodup := List.nodup_nil
    key := fun k => by simp [start]
    seq := nofun }

omit [DecidableEq Addr] in
theorem Mirrors.congr (h : s.Mirrors) (hbase : s'.olsr.topologyInfoBase = s.olsr.topologyInfoBase)
    (hlatest : s'.latest = s.latest) : s'.Mirrors :=
  { nodup := hbase ▸ h.nodup
    key := hbase ▸ hlatest ▸ h.key
    seq := hbase ▸ hlatest ▸ h.seq }

theorem Mirrors.accept (h : s.Mirrors)
    (hupd : Updated packet.message.originatorAddress packet.message.ansn
      packet.message.advertisedNeighborMainAddress s.olsr.topologyInfoBase s'.olsr.topologyInfoBase)
    (hlatest : s'.latest =
      update s.latest packet.message.originatorAddress (some packet.message))
    (hold : ∀ m ∈ s.latest packet.message.originatorAddress, m.advertisedNeighborMainAddress = [] ∨
      m.ansn = packet.message.ansn ∧
        m.advertisedNeighborMainAddress ⊆ packet.message.advertisedNeighborMainAddress) :
    s'.Mirrors := by
  have hsub : ∀ m ∈ s.latest packet.message.originatorAddress,
      m.advertisedNeighborMainAddress ⊆ packet.message.advertisedNeighborMainAddress := by
    intro m hm
    rcases hold m hm with hnil | ⟨-, hsub⟩
    · exact hnil ▸ List.nil_subset _
    · exact hsub
  refine ⟨hupd.nodup h.nodup, fun k => ?_, fun t ht m hm => ?_⟩
  · rw [hupd.key, h.key, hlatest]
    by_cases hk : k.1 = packet.message.originatorAddress
    · rw [hk, update_self]
      constructor
      · rintro (⟨m, hm, hmem⟩ | ⟨-, hmem⟩)
        · exact ⟨_, rfl, hsub m hm hmem⟩
        · exact ⟨_, rfl, hmem⟩
      · rintro ⟨m, hm, hmem⟩
        cases Option.mem_some_iff.1 hm
        exact .inr ⟨rfl, hmem⟩
    · rw [update_of_ne hk]
      exact or_iff_left fun hk' => hk hk'.1
  · rw [hlatest] at hm
    by_cases hk : t.tLastAddr = packet.message.originatorAddress
    · rw [hk, update_self] at hm
      cases Option.mem_some_iff.1 hm
      rcases hupd.seq t ht with ⟨x, hx, hkey, hseq⟩ | ⟨-, hseq⟩
      · -- A tuple that stays has been advertised by the message before.
        obtain ⟨m, hm, hmem⟩ := (h.key x.key).1 (List.mem_map_of_mem hx)
        have hlast : x.tLastAddr = t.tLastAddr := congrArg Prod.fst hkey
        have hm' : m ∈ s.latest packet.message.originatorAddress := by
          rwa [show x.key.1 = packet.message.originatorAddress from hlast.trans hk] at hm
        rcases hold m hm' with hnil | ⟨hansn, -⟩
        · rw [hnil] at hmem
          cases hmem
        · exact hseq.symm.trans ((h.seq x hx m hm).trans hansn)
      · exact hseq
    · rw [update_of_ne hk] at hm
      rcases hupd.seq t ht with ⟨x, hx, hkey, hseq⟩ | ⟨hnew, -⟩
      · have hlast : x.tLastAddr = t.tLastAddr := congrArg Prod.fst hkey
        exact hseq.symm.trans (h.seq x hx m (hlast ▸ hm))
      · rcases (hupd.key t.key).1 (List.mem_map_of_mem ht) with hmem | ⟨hk', -⟩
        · exact absurd hmem hnew
        · exact absurd hk' hk

omit [DecidableEq Addr] in
theorem Mirrors.tLastAddr_ne (h : s.Mirrors) {o : Addr}
    (hnil : ∀ m ∈ s.latest o, m.advertisedNeighborMainAddress = []) :
    ∀ t ∈ s.olsr.topologyInfoBase, t.tLastAddr ≠ o := by
  intro t ht hlast
  obtain ⟨m, hm, hmem⟩ := (h.key t.key).1 (List.mem_map_of_mem ht)
  rw [hnil m (hlast ▸ hm)] at hmem
  cases hmem

theorem Mirrors.heeds (h : s.Mirrors) (hmeets : s.Meets a) : s.Heeds convertMEToDouble a := by
  cases a with
  | receiveTC now packet =>
    refine ⟨fun hold => ?_, fun hnew => ?_⟩
    · obtain ⟨m, hm, hgt⟩ := hold
      have hmeet := hmeets.2 m hm
      rw [if_neg hgt.asymm] at hmeet
      cases hacc : tcAccepted s.olsr packet with
      | false => rw [receiveTC_of_not_accepted hacc]
      | true =>
        have hne : packet.message.ansn ≠ m.ansn := by
          intro he
          rw [he] at hgt
          exact hgt.asymm hgt
        have hnil := hmeet hacc
        rw [if_neg hne] at hnil
        exact topologyInfoBase_receiveTC_of_nil hnil
    · refine tcAccepted_of_no_tuple (hmeets.1 hnew) (h.tLastAddr_ne fun m hm => ?_)
      have hmeet := hmeets.2 m hm
      rwa [if_pos (hnew m hm)] at hmeet
  | updateRoutingTable now => trivial
  | other olsr => trivial

theorem Mirrors.step (h : s.Mirrors) (hmeets : s.Meets a)
    (hs : TopologyState.step convertMEToDouble s a = some s') : s'.Mirrors := by
  cases a with
  | receiveTC now packet =>
    cases hs
    cases hacc : tcAccepted s.olsr packet with
    | false =>
      refine h.congr ?_ ?_
      · rw [receiveTC_of_not_accepted hacc]
      · rw [if_neg fun hc => Bool.false_ne_true hc.1]
    | true =>
      by_cases hold : Older s.latest packet.message
      · refine h.congr ((h.heeds hmeets).1 hold) ?_
        rw [if_neg fun hc => hc.2 hold]
      · refine h.accept (updated_receiveTC hacc) (if_pos ⟨rfl, hold⟩) fun m hm => ?_
        have hmeet := hmeets.2 m hm
        by_cases hgt : SequenceNumberGreaterThan packet.message.ansn m.ansn
        · rw [if_pos hgt] at hmeet
          exact .inl hmeet
        · -- Neither newer nor older: the numbers are equal.
          have heq : packet.message.ansn = m.ansn := by
            by_contra hne
            rcases SequenceNumberGreaterThan.total hne with hgt' | hgt'
            · exact hgt hgt'
            · exact hold ⟨m, hm, hgt'⟩
          rw [if_neg hgt] at hmeet
          have hsub := hmeet hacc
          rw [if_pos heq] at hsub
          exact .inr ⟨heq.symm, hsub⟩
  | updateRoutingTable now =>
    dsimp only [TopologyState.step] at hs
    split at hs
    · obtain ⟨r, -, rfl⟩ := Option.map_eq_some_iff.1 hs
      exact h.congr rfl rfl
    · cases hs
      exact h
  | other olsr =>
    cases hs
    exact h.congr rfl rfl

theorem unexpired_step (h : ∀ x ∈ s.used, x.1 ≤ x.2.tTime) (hmeets : s.Meets a)
    (hs : TopologyState.step convertMEToDouble s a = some s') : ∀ x ∈ s'.used, x.1 ≤ x.2.tTime := by
  cases a with
  | receiveTC now packet =>
    cases hs
    exact h
  | updateRoutingTable now =>
    dsimp only [TopologyState.step] at hs
    split at hs
    · next hflag =>
      obtain ⟨r, hr, rfl⟩ := Option.map_eq_some_iff.1 hs
      obtain ⟨table, htable, rfl⟩ := Option.map_eq_some_iff.1 hr
      intro x hx
      rcases List.mem_append.1 hx with hx | hx
      · exact h x hx
      · obtain ⟨t, ht, rfl⟩ := List.mem_map.1 hx
        obtain ⟨hmem, hnone, hmain, hlead⟩ := used_topologyRoutes ht
        by_contra hlt
        rcases hmeets hflag t hmem (Rat.not_le.1 hlt) with hself | hunused
        · exact hmain hself
        · rcases hunused table htable with hrouted | hnot
          · exact hrouted hnone
          · exact hnot hlead
    · cases hs
      exact h
  | other olsr =>
    cases hs
    exact h

end

/-- In every run whose steps meet `Meets` the base mirrors the latest messages, and no route rests
on an expired tuple. -/
theorem topologyMirrored (convertMEToDouble : ℕ → ℚ) (olsr : NodeOlsr Addr)
    (tr : List (TopologyState Addr × TopologyAction Addr)) (s : TopologyState Addr)
    (run : Run (step convertMEToDouble) (start olsr) tr s) (hmeets : ∀ x ∈ tr, x.1.Meets x.2) :
    Current convertMEToDouble tr s := by
  refine run.induction (P := Current convertMEToDouble) (Q := Meets)
    ⟨mirrors_start, nofun, nofun⟩ (fun tr s a s' _ h hmeet hs => ?_) hmeets
  exact ⟨h.mirrors.step hmeet hs,
    List.forall_mem_cons.2 ⟨h.mirrors.heeds hmeet, h.heeds⟩,
    unexpired_step h.unexpired hmeet hs⟩

def exampleNode : NodeOlsr ℕ :=
  { mainAddress := 0
    nZoneRadius := 5
    linkSet := []
    neighborSet := [{ nNeighborMainAddr := 1, nStatus := .symNeigh, nWillingness := .default }]
    twoHopNeighborSet := []
    mprSelectionSet := []
    topologyInfoBase := []
    duplicateSet := []
    nMessageSequenceNumber := 0
    ansn := 0
    bRoutingTableUpdate := false
    bTCUpdateFlag := false }

def exampleTc (ansn : ℕ) (advertised : List ℕ) : TcPacket ℕ :=
  { szGatewayIP := 1
    message :=
      { originatorAddress := 1
        messageSequenceNumber := ansn
        timeToLive := 5
        hopCount := 6
        vtime := 15
        ansn
        advertisedNeighborMainAddress := advertised } }

/-- The neighbour advertises 2, a route is built from it, and an older message comes late. -/
theorem topologyMirrored_late : ∃ tr s,
    Run (step fun m => m) (start exampleNode) tr s ∧ s.used.length = 1 ∧
      Current (fun m => m) tr s := by
  have run : Run (step fun m => m) (start exampleNode) _ _ :=
    ((Run.nil.snoc (a := .receiveTC 0 (exampleTc 65535 [2])) rfl).snoc
      (a := .updateRoutingTable 1) rfl).snoc (a := .receiveTC 2 (exampleTc 65534 [3])) rfl
  refine ⟨_, _, run, by decide +kernel, topologyMirrored _ _ _ _ run ?_⟩
  refine List.forall_mem_cons.2 ⟨?_, List.forall_mem_cons.2 ⟨?_, List.forall_mem_cons.2 ⟨?_, nofun⟩⟩⟩
  · exact ⟨by decide +kernel, by decide +kernel⟩
  · intro _ t ht hlt
    have hall : ∀ t ∈ (receiveTC (fun m => m) 0 (exampleTc 65535 [2])
        (start exampleNode).olsr).1.topologyInfoBase, ¬ t.tTime < 1 := by
      decide +kernel
    exact absurd hlt (hall t ht)
  · exact ⟨by decide +kernel, nofun⟩

/-- The neighbour no longer advertises 2, and the link stays. -/
theorem not_topologyMirrored : ¬ ∀ (convertMEToDouble : ℕ → ℚ) (olsr : NodeOlsr ℕ)
    (tr : List (TopologyState ℕ × TopologyAction ℕ)) (s : TopologyState ℕ),
    Run (step convertMEToDouble) (start olsr) tr s → Current convertMEToDouble tr s := by
  intro h
  have hexec : (exec (step fun m => m) (start exampleNode)
      ([.receiveTC 0 (exampleTc 1 [2]), .receiveTC 1 (exampleTc 2 [3])].map fun a _ => some a)).any
      (fun x => decide ((1, 2) ∈ x.2.olsr.topologyInfoBase.map TopologyTuple.key ∧
        ¬ ∃ m ∈ x.2.latest 1, 2 ∈ m.advertisedNeighborMainAddress)) = true := by
    decide +kernel
  obtain ⟨tr, s, run, htest⟩ := run_of_exec hexec
  obtain ⟨hmem, hnot⟩ := of_decide_eq_true htest
  exact hnot (((h _ _ tr s run).mirrors.key (1, 2)).1 hmem)

end TopologyState

end NetSim.Zrp
