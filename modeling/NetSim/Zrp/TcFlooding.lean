import NetSim.Zrp.TopologyBase

/-!
# The flooding of TC messages

OLSR nodes send TC messages. A copy may reach any node at any later time, any number of times, or
never, so that the topology may be any and may change.
-/

namespace NetSim.Zrp

open NetSim.Lib

/-- A copy of a TC message, with the hops it goes and the `TimeToLive` the message began with. -/
structure TcCopy (Addr : Type) where
  packet : TcPacket Addr
  hops : ℕ
  ttl : ℕ
deriving DecidableEq

/-- A node has sent `sent` on receiving `received`. -/
structure Forwarding (V Addr : Type) where
  node : V
  olsr : NodeOlsr Addr
  received : TcCopy Addr
  sent : TcCopy Addr
deriving DecidableEq

structure TcNetwork (V Addr : Type) where
  node : V → NodeOlsr Addr
  copies : List (TcCopy Addr)
  processed : List (V × Addr × Addr × ℕ)
  unrecorded : List (V × Addr × ℕ)
  forwarded : List (Forwarding V Addr)

inductive TcAction (V Addr : Type)
  | originate (v : V)
  | deliver (v : V) (n : ℕ) (now : ℚ)
  | other (v : V) (olsr : NodeOlsr Addr)

variable {V Addr : Type} [DecidableEq V] [DecidableEq Addr]

omit [DecidableEq Addr] in
def TcMessage.key (message : TcMessage Addr) : Addr × ℕ :=
  (message.originatorAddress, message.messageSequenceNumber)

/-- The message gets past `fn_NetSim_OLSR_PacketProcessing` and `fn_NetSim_OLSR_ReceiveTC` into the
base. -/
def IsProcessed (olsr : NodeOlsr Addr) (packet : TcPacket Addr) : Prop :=
  packet.message.timeToLive ≠ 0 ∧ packet.message.originatorAddress ≠ olsr.mainAddress ∧
    olsrExistInDuplicateSet olsr.duplicateSet packet.message = false ∧ tcAccepted olsr packet = true

instance (olsr : NodeOlsr Addr) (packet : TcPacket Addr) : Decidable (IsProcessed olsr packet) :=
  inferInstanceAs (Decidable (_ ∧ _ ∧ _ ∧ _))

def FromAsymmetric (olsr : NodeOlsr Addr) (packet : TcPacket Addr) : Prop :=
  ∃ n ∈ olsrFindNeighborSet olsr.neighborSet packet.szGatewayIP, n.nStatus = .notNeigh

instance (olsr : NodeOlsr Addr) (packet : TcPacket Addr) : Decidable (FromAsymmetric olsr packet) :=
  inferInstanceAs (Decidable (∃ n ∈ olsrFindNeighborSet _ _, _))

/-- The packet comes from a symmetric neighbour that has selected the node as MPR, and has hops
left. -/
@[mk_iff]
structure ToBeForwarded (olsr : NodeOlsr Addr) (packet : TcPacket Addr) : Prop where
  symmetric : ∃ n ∈ olsrFindNeighborSet olsr.neighborSet packet.szGatewayIP, n.nStatus ≠ .notNeigh
  selector : (olsrFindMPRSelectorSet olsr.mprSelectionSet packet.szGatewayIP).isSome = true
  timeToLive : packet.message.timeToLive > 1

instance (olsr : NodeOlsr Addr) (packet : TcPacket Addr) : Decidable (ToBeForwarded olsr packet) :=
  decidable_of_iff' _ (toBeForwarded_iff olsr packet)

namespace TcNetwork

def start (node : V → NodeOlsr Addr) : TcNetwork V Addr :=
  { node := fun v => { node v with duplicateSet := [] }
    copies := []
    processed := []
    unrecorded := []
    forwarded := [] }

def step (convertDoubleToME : ℚ → ℕ) (convertMEToDouble : ℕ → ℚ) (s : TcNetwork V Addr) :
    TcAction V Addr → Option (TcNetwork V Addr)
  | .originate v =>
    let (olsr, message) := transmitTCMessage convertDoubleToME (s.node v)
    some
      { s with
        node := Function.update s.node v olsr
        copies := s.copies ++
          [{ packet := { szGatewayIP := olsr.mainAddress, message }, hops := 1, ttl := message.timeToLive }] }
  | .deliver v n now =>
    match s.copies[n]? with
    | none => none
    | some c =>
      let (olsr, sent) := packetProcessing convertMEToDouble now c.packet (s.node v)
      let copies := sent.toList.map fun packet => { c with packet, hops := c.hops + 1 }
      some
        { node := Function.update s.node v olsr
          copies := s.copies ++ copies
          processed :=
            if IsProcessed (s.node v) c.packet then
              s.processed ++ [(v, (s.node v).mainAddress, c.packet.message.key)]
            else s.processed
          unrecorded :=
            if IsProcessed (s.node v) c.packet ∧ sent = none then
              s.unrecorded ++ [(v, c.packet.message.key)]
            else s.unrecorded
          forwarded := s.forwarded ++ copies.map fun sent =>
            { node := v, olsr := s.node v, received := c, sent } }
  | .other v olsr =>
    some
      { s with
        node := Function.update s.node v
          { olsr with mainAddress := (s.node v).mainAddress, duplicateSet := (s.node v).duplicateSet } }

structure Rightful (f : Forwarding V Addr) : Prop where
  toBeForwarded : ToBeForwarded f.olsr f.received.packet
  message : f.sent.packet.message =
    { f.received.packet.message with
      timeToLive := f.received.packet.message.timeToLive - 1
      hopCount := f.received.packet.message.hopCount + 1 }
  foreign : f.received.packet.message.originatorAddress ≠ f.olsr.mainAddress

/-- The flooding is limited to the MPRs and free of duplicates. -/
structure Limited [Fintype V] (s : TcNetwork V Addr) : Prop where
  processed : (s.processed.map fun x => (x.1, x.2.2)).Nodup
  foreign : ∀ x ∈ s.processed, x.2.2.1 ≠ x.2.1
  forwarded : (s.forwarded.map fun f => (f.node, f.received.packet.message.key)).Nodup
  rightful : ∀ f ∈ s.forwarded, Rightful f
  hops : ∀ c ∈ s.copies, c.hops ≤ c.ttl
  finite : ∀ k, (s.forwarded.filter fun f => f.received.packet.message.key = k).length ≤ Fintype.card V

/-- A TC message goes one hop at least; what a node processes is received no more afterwards, or is
to be forwarded. -/
def Meets (s : TcNetwork V Addr) : TcAction V Addr → Prop
  | .originate v => 1 ≤ (s.node v).nZoneRadius
  | .deliver v n _ => ∀ c ∈ s.copies[n]?, IsProcessed (s.node v) c.packet →
    (v, c.packet.message.key) ∉ s.unrecorded ∧
      (FromAsymmetric (s.node v) c.packet ∨
        ToBeForwarded (s.node v) c.packet ∧ c.packet.message.hopCount + 1 < 2 ^ 8)
  | .other _ _ => True

instance (s : TcNetwork V Addr) (a : TcAction V Addr) : Decidable (s.Meets a) := by
  unfold Meets
  split <;> infer_instance

end TcNetwork

/-! ## What a node does with a packet -/

section
variable {convertDoubleToME : ℚ → ℕ} {convertMEToDouble : ℕ → ℚ} {now : ℚ} {olsr : NodeOlsr Addr}
  {packet : TcPacket Addr} {message : TcMessage Addr} {forwardFlag : Bool}

theorem olsrExistInDuplicateSet_iff {set : List (DuplicateTuple Addr)} :
    olsrExistInDuplicateSet set message = true ↔ message.key ∈ set.map DuplicateTuple.key := by
  unfold olsrExistInDuplicateSet olsrFindDuplicateSet
  rw [List.mem_map]
  constructor
  · intro h
    obtain ⟨d, hd⟩ := Option.isSome_iff_exists.1 h
    exact ⟨d, lookup_some hd⟩
  · rintro ⟨d, hd, hkey⟩
    by_contra hnone
    rw [Bool.not_eq_true, Option.isSome_eq_false_iff, Option.isNone_iff_eq_none] at hnone
    exact lookup_eq_none.1 hnone d hd hkey

theorem IsProcessed.not_mem (h : IsProcessed olsr packet) :
    packet.message.key ∉ olsr.duplicateSet.map DuplicateTuple.key := by
  intro hmem
  have hseen := olsrExistInDuplicateSet_iff.2 hmem
  rw [h.2.2.1] at hseen
  cases hseen

theorem packetProcessing_of_not_isProcessed (h : ¬ IsProcessed olsr packet) :
    packetProcessing convertMEToDouble now packet olsr = (olsr, none) := by
  unfold packetProcessing
  split
  · rfl
  · next httl =>
    split
    · rfl
    · next horig =>
      split
      · rfl
      · next hdup =>
        refine receiveTC_of_not_accepted ?_
        by_contra hacc
        exact h ⟨httl, horig, eq_false_of_ne_true hdup, eq_true_of_ne_false hacc⟩

theorem packetProcessing_of_isProcessed (h : IsProcessed olsr packet) :
    packetProcessing convertMEToDouble now packet olsr =
      packetForwarding now packet (olsrUpdateTopologySet convertMEToDouble now packet.message olsr) := by
  obtain ⟨httl, horig, hdup, hacc⟩ := h
  unfold packetProcessing
  rw [if_neg httl, if_neg horig, hdup, if_neg Bool.false_ne_true, receiveTC_of_accepted hacc]

theorem packetProcessing_of_fromAsymmetric (h : IsProcessed olsr packet)
    (ha : FromAsymmetric olsr packet) :
    packetProcessing convertMEToDouble now packet olsr =
      (olsrUpdateTopologySet convertMEToDouble now packet.message olsr, none) := by
  rw [packetProcessing_of_isProcessed h]
  obtain ⟨n, hn, hstatus⟩ := ha
  unfold packetForwarding olsrUpdateTopologySet
  rw [if_pos ((Option.any_eq_true _ _).2 ⟨n, hn, decide_eq_true hstatus⟩)]

theorem packetProcessing_of_toBeForwarded (h : IsProcessed olsr packet)
    (hf : ToBeForwarded olsr packet) :
    packetProcessing convertMEToDouble now packet olsr =
      (recordDuplicate now packet.message true
          (olsrUpdateTopologySet convertMEToDouble now packet.message olsr),
        some
          { szGatewayIP := olsr.mainAddress
            message :=
              { packet.message with
                timeToLive := packet.message.timeToLive - 1
                hopCount := (packet.message.hopCount + 1) % 2 ^ 8 } }) := by
  rw [packetProcessing_of_isProcessed h]
  obtain ⟨n, hn, hstatus⟩ := hf.symmetric
  have hn' : olsrFindNeighborSet olsr.neighborSet packet.szGatewayIP = some n := hn
  have hdup : olsrFindDuplicateSet olsr.duplicateSet packet.message.originatorAddress
      packet.message.messageSequenceNumber = none := by
    have hnot := h.2.2.1
    unfold olsrExistInDuplicateSet at hnot
    rwa [Option.isSome_eq_false_iff, Option.isNone_iff_eq_none] at hnot
  have hflag : ((olsrFindMPRSelectorSet olsr.mprSelectionSet packet.szGatewayIP).isSome &&
      decide (packet.message.timeToLive > 1)) = true := by
    rw [hf.selector, decide_eq_true hf.timeToLive]
    rfl
  have hsym : ¬ (olsrFindNeighborSet olsr.neighborSet packet.szGatewayIP).any
      (fun n => decide (n.nStatus = .notNeigh)) = true := by
    rw [hn', Option.any_some, decide_eq_true_eq]
    exact hstatus
  have hnew : ¬ (olsrFindDuplicateSet olsr.duplicateSet packet.message.originatorAddress
      packet.message.messageSequenceNumber).any
        (fun d => d.dRetransmitted || decide (olsr.mainAddress = d.dIfaceList)) = true := by
    rw [hdup, Option.any_none]
    exact Bool.false_ne_true
  unfold packetForwarding
  dsimp only [olsrUpdateTopologySet]
  split
  · next hs => exact absurd hs hsym
  · split
    · next hd => exact absurd hd hnew
    · rw [hflag]

theorem mem_recordDuplicate {k : Addr × ℕ} :
    k ∈ (recordDuplicate now message forwardFlag olsr).duplicateSet.map DuplicateTuple.key ↔
      k ∈ olsr.duplicateSet.map DuplicateTuple.key ∨ k = message.key := by
  unfold recordDuplicate olsrFindDuplicateSet
  cases hfind : lookup DuplicateTuple.key (message.originatorAddress, message.messageSequenceNumber)
      olsr.duplicateSet with
  | some d =>
    obtain ⟨hd, hkey⟩ := lookup_some hfind
    rw [map_key_modifyFirst]
    swap
    · exact fun _ => rfl
    refine (or_iff_left_of_imp fun hk => ?_).symm
    rw [hk, show message.key = d.key from hkey.symm]
    exact List.mem_map_of_mem hd
  | none =>
    rw [List.map_append, List.mem_append, List.map_singleton, List.mem_singleton]
    rfl

end

/-! ## Steps and runs -/

namespace TcNetwork

variable {convertDoubleToME : ℚ → ℕ} {convertMEToDouble : ℕ → ℚ} {now : ℚ} {s s' : TcNetwork V Addr}
  {v : V} {n : ℕ} {c : TcCopy Addr} {a : TcAction V Addr}

def Known (s : TcNetwork V Addr) (v : V) (k : Addr × ℕ) : Prop :=
  k ∈ (s.node v).duplicateSet.map DuplicateTuple.key ∨ (v, k) ∈ s.unrecorded

structure Inv (s : TcNetwork V Addr) : Prop where
  known : ∀ x ∈ s.processed, s.Known x.1 x.2.2
  processed : (s.processed.map fun x => (x.1, x.2.2)).Nodup
  foreign : ∀ x ∈ s.processed, x.2.2.1 ≠ x.2.1
  subset : ∀ f ∈ s.forwarded,
    (f.node, f.received.packet.message.key) ∈ s.processed.map fun x => (x.1, x.2.2)
  forwarded : (s.forwarded.map fun f => (f.node, f.received.packet.message.key)).Nodup
  rightful : ∀ f ∈ s.forwarded, Rightful f
  hops : ∀ c ∈ s.copies, c.hops + c.packet.message.timeToLive = c.ttl + 1 ∧
    1 ≤ c.packet.message.timeToLive

omit [DecidableEq V] in
theorem inv_start {node : V → NodeOlsr Addr} : (start node).Inv :=
  ⟨nofun, List.nodup_nil, nofun, nofun, List.nodup_nil, nofun, nofun⟩

omit [DecidableEq Addr] in
theorem Known.update {k : Addr × ℕ} {w : V} {olsr : NodeOlsr Addr} (h : s.Known w k)
    (hdup : ∀ k ∈ (s.node v).duplicateSet.map DuplicateTuple.key,
      k ∈ olsr.duplicateSet.map DuplicateTuple.key)
    (hnode : s'.node = Function.update s.node v olsr)
    (hunrec : ∀ x ∈ s.unrecorded, x ∈ s'.unrecorded) : s'.Known w k := by
  refine h.imp (fun hk => ?_) fun hk => hunrec _ hk
  rw [hnode]
  by_cases hw : w = v
  · subst hw
    rw [Function.update_self]
    exact hdup k hk
  · rwa [Function.update_of_ne hw]

omit [DecidableEq V] in
theorem Inv.not_mem (h : s.Inv) (hp : IsProcessed (s.node v) c.packet)
    (hnot : (v, c.packet.message.key) ∉ s.unrecorded) :
    (v, c.packet.message.key) ∉ s.processed.map fun x => (x.1, x.2.2) := by
  intro hmem
  obtain ⟨x, hx, hkey⟩ := List.mem_map.1 hmem
  have hv : x.1 = v := congrArg Prod.fst hkey
  have hk : x.2.2 = c.packet.message.key := congrArg Prod.snd hkey
  rcases h.known x hx with hseen | hseen
  · rw [hv, hk] at hseen
    exact hp.not_mem hseen
  · rw [hv, hk] at hseen
    exact hnot hseen

theorem Inv.process (h : s.Inv) {olsr : NodeOlsr Addr} {copies : List (TcCopy Addr)}
    {unrecorded : List (V × Addr × ℕ)} {forwarded : List (Forwarding V Addr)}
    (hp : IsProcessed (s.node v) c.packet) (hnot : (v, c.packet.message.key) ∉ s.unrecorded)
    (hnode : s'.node = Function.update s.node v olsr) (hcopies : s'.copies = s.copies ++ copies)
    (hprocessed : s'.processed = s.processed ++ [(v, (s.node v).mainAddress, c.packet.message.key)])
    (hunrecorded : s'.unrecorded = s.unrecorded ++ unrecorded)
    (hforwarded : s'.forwarded = s.forwarded ++ forwarded)
    (hdup : ∀ k ∈ (s.node v).duplicateSet.map DuplicateTuple.key,
      k ∈ olsr.duplicateSet.map DuplicateTuple.key) (hknown : s'.Known v c.packet.message.key)
    (hone : (forwarded.map fun f => (f.node, f.received.packet.message.key)).Sublist
      [(v, c.packet.message.key)]) (hrightful : ∀ f ∈ forwarded, Rightful f)
    (hhops : ∀ c ∈ copies, c.hops + c.packet.message.timeToLive = c.ttl + 1 ∧
      1 ≤ c.packet.message.timeToLive) : s'.Inv := by
  have hnew := h.not_mem hp hnot
  have hmap : (s'.processed.map fun x => (x.1, x.2.2)) =
      (s.processed.map fun x => (x.1, x.2.2)) ++ [(v, c.packet.message.key)] := by
    rw [hprocessed, List.map_append, List.map_singleton]
  refine ⟨fun x hx => ?_, ?_, fun x hx => ?_, fun f hf => ?_, ?_, fun f hf => ?_, fun c hc => ?_⟩
  · rw [hprocessed] at hx
    rcases List.mem_append.1 hx with hx | hx
    · refine (h.known x hx).update hdup hnode fun y hy => ?_
      rw [hunrecorded]
      exact List.mem_append_left _ hy
    · rw [List.mem_singleton.1 hx]
      exact hknown
  · rw [hmap, List.nodup_append]
    refine ⟨h.processed, List.nodup_singleton _, fun x hx y hy hxy => ?_⟩
    rw [hxy, List.mem_singleton.1 hy] at hx
    exact hnew hx
  · rw [hprocessed] at hx
    rcases List.mem_append.1 hx with hx | hx
    · exact h.foreign x hx
    · rw [List.mem_singleton.1 hx]
      exact hp.2.1
  · rw [hmap]
    rw [hforwarded] at hf
    rcases List.mem_append.1 hf with hf | hf
    · exact List.mem_append_left _ (h.subset f hf)
    · exact List.mem_append_right _ (hone.subset (List.mem_map_of_mem hf))
  · rw [hforwarded, List.map_append, List.nodup_append]
    refine ⟨h.forwarded, hone.nodup (List.nodup_singleton _), fun x hx y hy hxy => ?_⟩
    obtain ⟨f, hf, rfl⟩ := List.mem_map.1 hx
    rw [List.mem_singleton.1 (hone.subset hy)] at hxy
    exact hnew (hxy ▸ h.subset f hf)
  · rw [hforwarded] at hf
    rcases List.mem_append.1 hf with hf | hf
    · exact h.rightful f hf
    · exact hrightful f hf
  · rw [hcopies] at hc
    rcases List.mem_append.1 hc with hc | hc
    · exact h.hops c hc
    · exact hhops c hc

theorem Inv.update (h : s.Inv) {olsr : NodeOlsr Addr}
    (hdup : olsr.duplicateSet = (s.node v).duplicateSet) :
    Inv { s with node := Function.update s.node v olsr } :=
  { h with
    known := fun x hx => (h.known x hx).update (fun _ hk => hdup ▸ hk) rfl fun _ hx => hx }

theorem Inv.originate (h : s.Inv) (hmeets : s.Meets (.originate v))
    (hs : step convertDoubleToME convertMEToDouble s (.originate v) = some s') : s'.Inv := by
  cases hs
  have hold : Inv (TcNetwork.mk (Function.update s.node v
      (transmitTCMessage convertDoubleToME (s.node v)).1) s.copies s.processed s.unrecorded
        s.forwarded) := h.update rfl
  refine { hold with hops := fun c hc => ?_ }
  rcases List.mem_append.1 hc with hc | hc
  · exact h.hops c hc
  · rw [List.mem_singleton.1 hc]
    have httl : 1 ≤ min (s.node v).nZoneRadius tcMessageTtl := le_min hmeets (by decide)
    exact ⟨Nat.add_comm _ _, httl⟩

theorem Inv.deliver (h : s.Inv) (hmeets : s.Meets (.deliver v n now))
    (hs : step convertDoubleToME convertMEToDouble s (.deliver v n now) = some s') : s'.Inv := by
  dsimp only [step] at hs
  cases hc : s.copies[n]? with
  | none =>
    rw [hc] at hs
    cases hs
  | some c =>
    rw [hc] at hs
    dsimp only at hs
    by_cases hp : IsProcessed (s.node v) c.packet
    · obtain ⟨hnot, hway⟩ := hmeets c hc hp
      rcases hway with ha | ⟨hf, hhop⟩
      · -- Neither recorded nor retransmitted.
        rw [packetProcessing_of_fromAsymmetric hp ha, if_pos hp, if_pos ⟨hp, rfl⟩] at hs
        cases hs
        exact h.process hp hnot rfl rfl rfl rfl rfl (fun _ hk => hk)
          (.inr (List.mem_append_right _ (List.mem_singleton_self _))) (List.nil_sublist _) nofun nofun
      · rw [packetProcessing_of_toBeForwarded hp hf, if_pos hp,
          if_neg fun hx => Option.some_ne_none _ hx.2] at hs
        cases hs
        have hmod : (c.packet.message.hopCount + 1) % 2 ^ 8 = c.packet.message.hopCount + 1 :=
          Nat.mod_eq_of_lt hhop
        refine h.process hp hnot rfl rfl rfl (List.append_nil _).symm rfl (fun k hk => ?_) (.inl ?_)
          (List.Sublist.refl _) (fun f hf' => ?_) fun c' hc' => ?_
        · exact mem_recordDuplicate.2 (.inl hk)
        · dsimp only
          rw [Function.update_self]
          exact mem_recordDuplicate.2 (.inr rfl)
        · rw [List.mem_singleton.1 hf']
          exact ⟨hf, by dsimp only; rw [hmod], hp.2.1⟩
        · rw [List.mem_singleton.1 hc']
          obtain ⟨hsum, -⟩ := h.hops c (List.mem_of_getElem? hc)
          have httl := hf.timeToLive
          dsimp only
          omega
    · rw [packetProcessing_of_not_isProcessed hp, if_neg hp, if_neg fun hx => hp hx.1] at hs
      cases hs
      rw [Option.toList_none, List.map_nil, List.map_nil, List.append_nil, List.append_nil]
      exact h.update rfl

theorem Inv.step (h : s.Inv) (hmeets : s.Meets a)
    (hs : step convertDoubleToME convertMEToDouble s a = some s') : s'.Inv := by
  cases a with
  | originate v => exact h.originate hmeets hs
  | deliver v n now => exact h.deliver hmeets hs
  | other v olsr =>
    cases hs
    exact h.update rfl

omit [DecidableEq V] in
theorem Inv.limited [Fintype V] (h : s.Inv) : s.Limited :=
  { processed := h.processed
    foreign := h.foreign
    forwarded := h.forwarded
    rightful := h.rightful
    hops := fun c hc => by
      have hsum := h.hops c hc
      omega
    finite := fun k => by
      have hsub : ((s.forwarded.filter fun f => f.received.packet.message.key = k).map
          Forwarding.node).Nodup := by
        refine (List.nodup_map_iff_inj_on ?_).2 ?_
        · exact h.forwarded.of_map.filter _
        · intro f hf g hg hfg
          obtain ⟨hf, hfk⟩ := List.mem_filter.1 hf
          obtain ⟨hg, hgk⟩ := List.mem_filter.1 hg
          refine List.inj_on_of_nodup_map h.forwarded hf hg (Prod.ext hfg ?_)
          exact (of_decide_eq_true hfk).trans (of_decide_eq_true hgk).symm
      have hlen := hsub.length_le_card
      rwa [List.length_map] at hlen }

/-- In every run whose steps meet `Meets` the flooding is limited. -/
theorem floodLimited [Fintype V] (convertDoubleToME : ℚ → ℕ) (convertMEToDouble : ℕ → ℚ)
    (node : V → NodeOlsr Addr) (tr : List (TcNetwork V Addr × TcAction V Addr)) (s : TcNetwork V Addr)
    (run : Run (step convertDoubleToME convertMEToDouble) (start node) tr s)
    (hmeets : ∀ x ∈ tr, x.1.Meets x.2) : s.Limited :=
  have hinv : s.Inv := run.induction (P := fun _ s => s.Inv) (Q := Meets) inv_start
    (fun _ _ _ _ _ h hmeet hs => h.step hmeet hs) hmeets
  hinv.limited

/-- Three nodes in a row. The second has the first as symmetric neighbour and the MPR selectors
given. -/
def exampleNodes (selectors : List (MprSelector ℕ)) (v : Fin 3) : NodeOlsr ℕ :=
  { mainAddress := v
    nZoneRadius := 2
    linkSet := []
    neighborSet := [{ nNeighborMainAddr := v - 1, nStatus := .symNeigh, nWillingness := .default }]
    twoHopNeighborSet := []
    mprSelectionSet := if v = 1 then selectors else []
    topologyInfoBase := []
    duplicateSet := []
    nMessageSequenceNumber := 0
    ansn := 0
    bRoutingTableUpdate := false
    bTCUpdateFlag := false }

/-- The message of the first node is retransmitted by the second, its MPR, and comes to the third.
-/
theorem floodLimited_row : ∃ tr s, Run (step (fun _ => 0) fun m => m)
    (start (exampleNodes [{ msMainAddr := 0, msTime := 0 }])) tr s ∧
      s.forwarded.length = 1 ∧ s.Limited := by
  have hexec : (exec (step (fun _ => 0) fun m => m)
      (start (exampleNodes [{ msMainAddr := 0, msTime := 0 }]))
      ([.originate 0, .deliver 1 0 1, .deliver 1 0 2, .deliver 2 1 2].map fun a _ => some a)).any
      (fun x => decide ((∀ y ∈ x.1, y.1.Meets y.2) ∧ x.2.forwarded.length = 1)) = true := by
    decide +kernel
  obtain ⟨tr, s, run, htest⟩ := run_of_exec hexec
  obtain ⟨hmeets, hlen⟩ := of_decide_eq_true htest
  exact ⟨tr, s, run, hlen, floodLimited _ _ _ tr s run hmeets⟩

/-- The second node retransmits, though the first has not selected it. -/
theorem not_floodLimited : ¬ ∀ (convertDoubleToME : ℚ → ℕ) (convertMEToDouble : ℕ → ℚ)
    (node : Fin 3 → NodeOlsr ℕ) (tr : List (TcNetwork (Fin 3) ℕ × TcAction (Fin 3) ℕ))
    (s : TcNetwork (Fin 3) ℕ), Run (step convertDoubleToME convertMEToDouble) (start node) tr s →
      s.Limited := by
  intro h
  have hexec : (exec (step (fun _ => 0) fun m => m) (start (exampleNodes []))
      ([.originate 0, .deliver 1 0 1].map fun a _ => some a)).any
      (fun x => decide (∃ f ∈ x.2.forwarded, ¬ ToBeForwarded f.olsr f.received.packet)) = true := by
    decide +kernel
  obtain ⟨tr, s, run, htest⟩ := run_of_exec hexec
  obtain ⟨f, hf, hnot⟩ := of_decide_eq_true htest
  exact hnot ((h _ _ _ tr s run).rightful f hf).toBeForwarded

end TcNetwork

end NetSim.Zrp
