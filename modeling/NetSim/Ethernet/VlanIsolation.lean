import NetSim.Ethernet.SwitchForwarding

/-!
# The isolation of VLANs

`Isolated` is what the copies of a frame of one VLAN are to be: untagged on its access ports, tagged
on the trunk ports, and none on a port that is blocked, refused or the incoming one.
-/

namespace NetSim.Ethernet

variable {Mac : Type} [DecidableEq Mac]

section
variable (eth : EthVar Mac) (firewall : MacFirewall Mac) (vlan : Option (SwitchLan Mac))
  (v p size : ℕ) (packet : Frame Mac)

/-- `o` is an access port of the VLAN. -/
def IsAccessPort (o : ℕ) : Prop := (∃ l ∈ vlan, o ∈ l.interfaceId) ∧ o ∉ eth.trunkPortIds

def UnknownIn : Prop := ∀ l ∈ vlan, l.outPort packet.szDestMac = none

/-- A copy as it is to leave on `o`. -/
def IsVlanCopy (o : ℕ) (q : Frame Mac) : Prop :=
  (IsAccessPort eth vlan o ∧ q.tag = none ∧ q.dPacketSize = size) ∨
    (o ∈ eth.trunkPortIds ∧ q.tag = some v ∧ q.dPacketSize = size + ieee8011QTagLen)

/-- The copies of a frame of VLAN `v` that has come in at `p`. -/
structure Isolated (sent : List (ℕ × Frame Mac)) : Prop where
  copy : ∀ x ∈ sent, IsVlanCopy eth vlan v size x.1 x.2
  port : ∀ x ∈ sent, IsFloodPort eth firewall p packet x.1
  nodup : (sent.map Prod.fst).Nodup
  flooded : UnknownIn vlan packet → ∀ o, IsAccessPort eth vlan o ∨ o ∈ eth.trunkPortIds →
    IsFloodPort eth firewall p packet o → o ∈ sent.map Prod.fst

end

section
variable {eth : EthVar Mac} {firewall : MacFirewall Mac} {vlan : Option (SwitchLan Mac)}
  {v p size f : ℕ} {packet q q' : Frame Mac} {sent sent' : List (ℕ × Frame Mac)}

theorem Isolated.perm (h : Isolated eth firewall vlan v p size packet sent) (hp : sent.Perm sent') :
    Isolated eth firewall vlan v p size packet sent' :=
  { copy := fun x hx => h.copy x (hp.mem_iff.2 hx)
    port := fun x hx => h.port x (hp.mem_iff.2 hx)
    nodup := (hp.map Prod.fst).nodup_iff.1 h.nodup
    flooded := fun hu o ho hf => (hp.map Prod.fst).mem_iff.1 (h.flooded hu o ho hf) }

theorem Isolated.perm_iff (hp : sent.Perm sent') :
    Isolated eth firewall vlan v p size packet sent ↔ Isolated eth firewall vlan v p size packet sent' :=
  ⟨fun h => h.perm hp, fun h => h.perm hp.symm⟩

theorem isolated_single_iff {Sends : Prop} [Decidable Sends] (hq : q.tag = none) :
    Isolated eth firewall vlan v p size packet (if Sends then [(f, q)] else []) ↔
      (Sends → IsAccessPort eth vlan f ∧ IsFloodPort eth firewall p packet f ∧ q.dPacketSize = size) ∧
        (UnknownIn vlan packet → ∀ o, IsAccessPort eth vlan o ∨ o ∈ eth.trunkPortIds →
          IsFloodPort eth firewall p packet o → Sends ∧ o = f) := by
  by_cases hs : Sends
  · rw [if_pos hs]
    constructor
    · intro h
      refine ⟨fun _ => ?_, fun hu o ho hf => ⟨hs, ?_⟩⟩
      · rcases h.copy (f, q) List.mem_cons_self with ⟨hacc, -, hsize⟩ | ⟨-, htag, -⟩
        · exact ⟨hacc, h.port (f, q) List.mem_cons_self, hsize⟩
        · rw [hq] at htag
          cases htag
      · simpa using h.flooded hu o ho hf
    · rintro ⟨h, hu⟩
      obtain ⟨hacc, hport, hsize⟩ := h hs
      refine ⟨?_, ?_, List.nodup_singleton f, ?_⟩
      · intro x hx
        rw [List.mem_singleton.1 hx]
        exact .inl ⟨hacc, hq, hsize⟩
      · intro x hx
        rw [List.mem_singleton.1 hx]
        exact hport
      · intro hun o ho hf
        rw [(hu hun o ho hf).2]
        exact List.mem_cons_self
  · rw [if_neg hs]
    constructor
    · exact fun h => ⟨fun h => absurd h hs, fun hu o ho hf => absurd (h.flooded hu o ho hf) List.not_mem_nil⟩
    · rintro ⟨-, hu⟩
      exact ⟨nofun, nofun, List.nodup_nil, fun hun o ho hf => absurd (hu hun o ho hf).1 hs⟩

/-- The untagged copies on `ports` and the tagged ones on the trunk ports that `Keep`s. -/
def floodCopies (eth : EthVar Mac) (firewall : MacFirewall Mac) (p : ℕ) (packet : Frame Mac)
    (ports : List ℕ) (Keep : ℕ → Prop) [DecidablePred Keep] (q q' : Frame Mac) : List (ℕ × Frame Mac) :=
  ((ports.filter fun o => IsFloodPort eth firewall p packet o).map fun o => (o, q)) ++
    (eth.trunkPortIds.filter fun o => Keep o ∧ IsFloodPort eth firewall p packet o).map fun o => (o, q')

omit [DecidableEq Mac] in
theorem mem_floodCopies {ports : List ℕ} {Keep : ℕ → Prop} [DecidablePred Keep] {x : ℕ × Frame Mac} :
    x ∈ floodCopies eth firewall p packet ports Keep q q' ↔
      IsFloodPort eth firewall p packet x.1 ∧
        (x.1 ∈ ports ∧ x.2 = q ∨ x.1 ∈ eth.trunkPortIds ∧ Keep x.1 ∧ x.2 = q') := by
  unfold floodCopies
  rw [List.mem_append, List.mem_map, List.mem_map]
  simp only [List.mem_filter, decide_eq_true_eq]
  constructor
  · rintro (⟨o, ⟨ho, hf⟩, rfl⟩ | ⟨o, ⟨ho, hk, hf⟩, rfl⟩)
    · exact ⟨hf, .inl ⟨ho, rfl⟩⟩
    · exact ⟨hf, .inr ⟨ho, hk, rfl⟩⟩
  · rintro ⟨hf, ⟨ho, hq⟩ | ⟨ho, hk, hq⟩⟩
    · exact .inl ⟨x.1, ⟨ho, hf⟩, Prod.ext rfl hq.symm⟩
    · exact .inr ⟨x.1, ⟨ho, hk, hf⟩, Prod.ext rfl hq.symm⟩

theorem isolated_flood_iff {ports : List ℕ} {Keep : ℕ → Prop} [DecidablePred Keep]
    (hports : ports.Nodup) (htrunk : eth.trunkPortIds.Nodup) (hkeep : ∀ o, ¬ Keep o → o ∈ ports)
    (hq : q.tag = none) (hq' : q'.tag = some (v % 2 ^ 12)) :
    Isolated eth firewall vlan v p size packet (floodCopies eth firewall p packet ports Keep q q') ↔
      (∀ o ∈ ports, IsFloodPort eth firewall p packet o →
        IsAccessPort eth vlan o ∧ q.dPacketSize = size) ∧
      (∀ o ∈ eth.trunkPortIds, Keep o → IsFloodPort eth firewall p packet o →
        v % 2 ^ 12 = v ∧ q'.dPacketSize = size + ieee8011QTagLen) ∧
      (UnknownIn vlan packet → ∀ o, IsAccessPort eth vlan o → IsFloodPort eth firewall p packet o →
        o ∈ ports) := by
  constructor
  · intro h
    refine ⟨?_, ?_, ?_⟩
    · intro o ho hf
      rcases h.copy (o, q) (mem_floodCopies.2 ⟨hf, .inl ⟨ho, rfl⟩⟩) with ⟨hacc, -, hsize⟩ | ⟨-, htag, -⟩
      · exact ⟨hacc, hsize⟩
      · rw [hq] at htag
        cases htag
    · intro o ho hk hf
      rcases h.copy (o, q') (mem_floodCopies.2 ⟨hf, .inr ⟨ho, hk, rfl⟩⟩) with ⟨hacc, -, -⟩ | ⟨-, htag, hsize⟩
      · exact absurd ho hacc.2
      · rw [hq'] at htag
        exact ⟨Option.some.inj htag, hsize⟩
    · intro hu o ho hf
      obtain ⟨x, hx, rfl⟩ := List.mem_map.1 (h.flooded hu o (.inl ho) hf)
      rcases (mem_floodCopies.1 hx).2 with ⟨hmem, -⟩ | ⟨hmem, -⟩
      · exact hmem
      · exact absurd hmem ho.2
  · rintro ⟨hlan, htr, hall⟩
    refine ⟨?_, fun x hx => (mem_floodCopies.1 hx).1, ?_, ?_⟩
    · intro x hx
      obtain ⟨hf, ⟨ho, hxq⟩ | ⟨ho, hk, hxq⟩⟩ := mem_floodCopies.1 hx
      · rw [hxq]
        exact .inl ⟨(hlan x.1 ho hf).1, hq, (hlan x.1 ho hf).2⟩
      · obtain ⟨hv, hsize⟩ := htr x.1 ho hk hf
        rw [hxq]
        exact .inr ⟨ho, by rw [hq', hv], hsize⟩
    · unfold floodCopies
      rw [List.map_append, List.map_map, List.map_map]
      refine List.nodup_append.2 ⟨?_, ?_, ?_⟩
      · exact (List.map_id (ports.filter _)).symm ▸ hports.filter _
      · exact (List.map_id (eth.trunkPortIds.filter _)).symm ▸ htrunk.filter _
      · -- A port of both lists would be an access port and a trunk port.
        intro a ha b hb hab
        obtain ⟨o, ho, rfl⟩ := List.mem_map.1 ha
        obtain ⟨o', ho', rfl⟩ := List.mem_map.1 hb
        have hoo : o = o' := hab
        obtain ⟨hmem, hf⟩ := List.mem_filter.1 ho
        exact (hlan o hmem (of_decide_eq_true hf)).1.2 (hoo ▸ List.mem_of_mem_filter ho')
    · intro hu o ho hf
      have hmem : o ∈ ports ∨ o ∈ eth.trunkPortIds ∧ Keep o := by
        rcases ho with ho | ho
        · exact .inl (hall hu o ho hf)
        · by_cases hk : Keep o
          · exact .inr ⟨ho, hk⟩
          · exact .inl (hkeep o hk)
      rcases hmem with hmem | ⟨hmem, hk⟩
      · exact List.mem_map.2 ⟨(o, q), mem_floodCopies.2 ⟨hf, .inl ⟨hmem, rfl⟩⟩, rfl⟩
      · exact List.mem_map.2 ⟨(o, q'), mem_floodCopies.2 ⟨hf, .inr ⟨hmem, hk, rfl⟩⟩, rfl⟩

end

/-! ## The conditions of the three paths -/

section
variable (eth : EthVar Mac) (firewall : MacFirewall Mac) (lan : SwitchLan Mac) (v p : ℕ)
  (packet : Frame Mac)

def NoTrunkAmong (ports : List ℕ) : Prop :=
  ∀ o ∈ ports, IsFloodPort eth firewall p packet o → o ∉ eth.trunkPortIds

/-- A known destination must be at an access port that is open and not the one the frame came in at.
-/
def MeetsAccess : Prop :=
  match lan.outPort packet.szDestMac with
  | some f =>
    firewall f packet .outbound = .permit →
      f ∉ eth.trunkPortIds ∧ f ≠ p ∧ eth.portState f ≠ .blocking
  | none =>
    NoTrunkAmong eth firewall p packet lan.interfaceId ∧
      ∀ o ∈ eth.trunkPortIds, o ∉ lan.interfaceId → IsFloodPort eth firewall p packet o →
        lan.vlanId < 2 ^ 12

/-- A frame of VLAN `v` from a trunk port. -/
def MeetsTrunk : Prop :=
  ∀ lan ∈ getVlan eth v,
    match lan.outPort packet.szDestMac with
    | some f =>
      firewall f packet .outbound = .permit → f ≠ p →
        f ∉ eth.trunkPortIds ∧ eth.portState f ≠ .blocking
    | none => NoTrunkAmong eth firewall p packet lan.interfaceId

/-- The sizes at the MAC are those of `add_mac_header`, which the VLAN path leaves out. -/
def HasMacHeader : Prop := packet.dPacketSize = packet.addMacHeader.dPacketSize

/-- A packet of VLAN `v` from the network layer, for an interface of `lan`. -/
def MeetsDown : Prop :=
  match lan.outPort packet.szDestMac with
  | some f =>
    (IsAccessPort eth (getVlan eth v) f ∧ eth.portState f ≠ .blocking ∧ HasMacHeader packet ∨
        firewall f packet .outbound = .deny ∨ f = p) ∧
      (UnknownIn (getVlan eth v) packet →
        (∀ l ∈ getVlan eth v, ∀ o ∈ l.interfaceId, o ∉ eth.trunkPortIds →
          IsFloodPort eth firewall p packet o → o = f) ∧
        ∀ o ∈ eth.trunkPortIds, IsFloodPort eth firewall p packet o → o = f)
  | none =>
    (∀ o ∈ lan.interfaceId, IsFloodPort eth firewall p packet o →
        IsAccessPort eth (getVlan eth v) o ∧ HasMacHeader packet) ∧
      (∀ o ∈ eth.trunkPortIds, IsFloodPort eth firewall p packet o →
        v < 2 ^ 12 ∧ HasMacHeader packet) ∧
      (UnknownIn (getVlan eth v) packet → ∀ l ∈ getVlan eth v, ∀ o ∈ l.interfaceId,
        o ∉ eth.trunkPortIds → IsFloodPort eth firewall p packet o → o ∈ lan.interfaceId)

end

section
variable {eth : EthVar Mac} {firewall : MacFirewall Mac} {lan : SwitchLan Mac} {v p : ℕ}
  {packet : Frame Mac}

omit [DecidableEq Mac] in
theorem dPacketSize_addVlanTag :
    (packet.addVlanTag v).dPacketSize = packet.dPacketSize + ieee8011QTagLen := by
  unfold Frame.dPacketSize Frame.addVlanTag
  dsimp only
  omega

omit [DecidableEq Mac] in
theorem forwardToAll_eq (hvlan : eth.isVLAN = true) (hp : packet.incomingPort = p) :
    forwardToLan eth firewall p lan packet ++ vlanForwardToAllTrunk eth firewall packet lan =
      floodCopies eth firewall p packet lan.interfaceId (fun o => o ∉ lan.interfaceId)
        packet.clearEthIncoming (packet.clearEthIncoming.addVlanTag packet.incomingVlanId) := by
  unfold vlanForwardToAllTrunk
  rw [if_pos hvlan, hp]
  rfl

omit [DecidableEq Mac] in
theorem forwardToTrunk_eq (hvlan : eth.isVLAN = true) :
    (vlanForwardToTrunk eth firewall p v packet ++ forwardToLan eth firewall p lan packet).Perm
      (floodCopies eth firewall p packet lan.interfaceId (fun _ => True)
        packet.clearEthIncoming (packet.clearEthIncoming.addVlanTag v)) := by
  unfold vlanForwardToTrunk floodCopies
  rw [if_pos hvlan]
  simp only [true_and]
  exact List.perm_append_comm

omit [DecidableEq Mac] in
theorem tag_clearEthIncoming (htag : packet.tag = none) : packet.clearEthIncoming.tag = none := htag

omit [DecidableEq Mac] in
theorem tag_addVlanTag : (packet.addVlanTag v).tag = some (v % 2 ^ 12) := rfl

theorem isolated_forwardFrame_iff (hvlan : eth.isVLAN = true) (htrunk : eth.trunkPortIds.Nodup)
    (hlan : lan.WellFormed) (htag : packet.tag = none) (hp : packet.incomingPort = p)
    (hv : packet.incomingVlanId = lan.vlanId) :
    Isolated eth firewall (some lan) lan.vlanId p packet.dPacketSize packet
        (forwardFrame eth firewall p lan packet) ↔
      MeetsAccess eth firewall lan p packet := by
  unfold MeetsAccess
  cases hout : lan.outPort packet.szDestMac with
  | some f =>
    obtain ⟨he, hne⟩ := findForwardInterface_ne_zero hlan hout
    have hsend : forwardFrame eth firewall p lan packet =
        if firewall f packet .outbound = .permit then [(f, packet.clearEthIncoming)] else [] := by
      unfold forwardFrame
      simp only [he, if_pos hne]
    have hknown : ¬ UnknownIn (some lan) packet := by
      intro hu
      rw [hu lan rfl] at hout
      cases hout
    rw [hsend, isolated_single_iff (tag_clearEthIncoming htag)]
    constructor
    · rintro ⟨h, -⟩ hperm
      obtain ⟨hacc, hport, -⟩ := h hperm
      exact ⟨hacc.2, hport.1, hport.2.1⟩
    · intro h
      refine ⟨fun hperm => ?_, fun hu => absurd hu hknown⟩
      obtain ⟨ht, hfp, hb⟩ := h hperm
      exact ⟨⟨⟨lan, rfl, hlan.outPort_mem_interfaceId hout⟩, ht⟩, ⟨hfp, hb, hperm⟩, rfl⟩
  | none =>
    have hsend : forwardFrame eth firewall p lan packet =
        floodCopies eth firewall p packet lan.interfaceId (fun o => o ∉ lan.interfaceId)
          packet.clearEthIncoming (packet.clearEthIncoming.addVlanTag lan.vlanId) := by
      rw [← hv, ← forwardToAll_eq hvlan hp]
      unfold forwardFrame
      simp [findForwardInterface_eq, hout]
    rw [hsend, isolated_flood_iff hlan.nodup htrunk (fun o h => not_not.1 h)
      (tag_clearEthIncoming htag) tag_addVlanTag]
    constructor
    · rintro ⟨h, ht, -⟩
      refine ⟨fun o ho hf => (h o ho hf).1.2, fun o ho hk hf => ?_⟩
      have hmod := (ht o ho hk hf).1
      omega
    · rintro ⟨h, ht⟩
      refine ⟨fun o ho hf => ⟨⟨⟨lan, rfl, ho⟩, h o ho hf⟩, rfl⟩, fun o ho hk hf => ?_, ?_⟩
      · exact ⟨Nat.mod_eq_of_lt (ht o ho hk hf), dPacketSize_addVlanTag⟩
      · rintro - o ⟨⟨l, hl, hmem⟩, -⟩ -
        rwa [← Option.some.inj hl] at hmem

omit [DecidableEq Mac] in
theorem getVlan_mem {l : SwitchLan Mac} (h : getVlan eth v = some l) : l ∈ eth.lanVar := by
  unfold getVlan at h
  split at h
  · exact List.mem_of_find?_eq_some h
  · cases h

theorem isolated_vlanMacin_iff (hvlan : eth.isVLAN = true) (htrunk : eth.trunkPortIds.Nodup)
    (hwf : ∀ l ∈ eth.lanVar, l.WellFormed) (htag : packet.tag = none)
    (hv : packet.incomingVlanId = v) (hlt : v < 2 ^ 12) :
    Isolated eth firewall (getVlan eth v) v p packet.dPacketSize packet
        (vlanMacinForwardPacket eth firewall p packet) ↔
      MeetsTrunk eth firewall v p packet := by
  unfold MeetsTrunk vlanMacinForwardPacket
  dsimp only
  rw [hv]
  cases hget : getVlan eth v with
  | none =>
    have hsend : vlanForwardToTrunk eth firewall p v packet =
        floodCopies eth firewall p packet [] (fun _ => True) packet.clearEthIncoming
          (packet.clearEthIncoming.addVlanTag v) := by
      unfold vlanForwardToTrunk floodCopies
      rw [if_pos hvlan]
      simp only [true_and]
      rfl
    rw [hsend, isolated_flood_iff List.nodup_nil htrunk (fun o h => absurd trivial h)
      (tag_clearEthIncoming htag) tag_addVlanTag]
    refine iff_of_true ⟨nofun, fun o _ _ _ => ?_, fun _ o ho => ?_⟩ nofun
    · exact ⟨Nat.mod_eq_of_lt hlt, dPacketSize_addVlanTag⟩
    · obtain ⟨⟨l, hl, -⟩, -⟩ := ho
      cases hl
  | some lan =>
    have hlan := hwf lan (getVlan_mem hget)
    simp only [Option.mem_def, Option.some.injEq, forall_eq']
    cases hout : lan.outPort packet.szDestMac with
    | some f =>
      obtain ⟨he, hne⟩ := findForwardInterface_ne_zero hlan hout
      have hknown : ¬ UnknownIn (some lan) packet := by
        intro hu
        rw [hu lan rfl] at hout
        cases hout
      rw [he, if_pos hne, isolated_single_iff (tag_clearEthIncoming htag)]
      constructor
      · rintro ⟨h, -⟩ hperm hfp
        obtain ⟨hacc, hport, -⟩ := h ⟨hperm, hfp⟩
        exact ⟨hacc.2, hport.2.1⟩
      · intro h
        refine ⟨fun hs => ?_, fun hu => absurd hu hknown⟩
        obtain ⟨ht, hb⟩ := h hs.1 hs.2
        exact ⟨⟨⟨lan, rfl, hlan.outPort_mem_interfaceId hout⟩, ht⟩, ⟨hs.2, hb, hs.1⟩, rfl⟩
    | none =>
      have hzero : findForwardInterface lan packet = 0 := by
        rw [findForwardInterface_eq, hout]
        rfl
      rw [hzero, if_neg (fun h => h rfl), Isolated.perm_iff (forwardToTrunk_eq hvlan),
        isolated_flood_iff hlan.nodup htrunk (fun o h => absurd trivial h) (tag_clearEthIncoming htag)
          tag_addVlanTag]
      constructor
      · rintro ⟨h, -, -⟩ o ho hf
        exact (h o ho hf).1.2
      · intro h
        refine ⟨fun o ho hf => ⟨⟨⟨lan, rfl, ho⟩, h o ho hf⟩, rfl⟩, fun o _ _ _ => ?_, ?_⟩
        · exact ⟨Nat.mod_eq_of_lt hlt, dPacketSize_addVlanTag⟩
        · rintro - o ⟨⟨l, hl, hmem⟩, -⟩ -
          rwa [← Option.some.inj hl] at hmem

theorem isolated_down_iff (hvlan : eth.isVLAN = true) (htrunk : eth.trunkPortIds.Nodup)
    (hlan : lan.WellFormed) (htag : packet.tag = none) (hv : packet.incomingVlanId ≠ 0) :
    Isolated eth firewall (getVlan eth packet.incomingVlanId) packet.incomingVlanId
        packet.incomingPort packet.addMacHeader.dPacketSize packet.clearEthIncoming
        (packetArriveFromNetworkLayer eth firewall lan packet) ↔
      MeetsDown eth firewall lan packet.incomingVlanId packet.incomingPort packet.clearEthIncoming := by
  have hsend : packetArriveFromNetworkLayer eth firewall lan packet =
      vlanMacoutForwardPacket eth firewall lan packet.incomingVlanId packet.incomingPort
        packet.clearEthIncoming := by
    exact if_pos hv
  rw [hsend]
  generalize packet.incomingPort = p
  have hsize : packet.addMacHeader.dPacketSize = packet.clearEthIncoming.addMacHeader.dPacketSize := rfl
  rw [hsize]
  replace htag : packet.clearEthIncoming.tag = none := htag
  generalize packet.clearEthIncoming = packet at htag ⊢
  unfold MeetsDown vlanMacoutForwardPacket
  cases hout : lan.outPort packet.szDestMac with
  | some f =>
    obtain ⟨he, hne⟩ := findForwardInterface_ne_zero hlan hout
    rw [he, if_pos hne, isolated_single_iff (tag_clearEthIncoming htag)]
    refine and_congr ?_ (forall_congr' fun _ => ?_)
    · constructor
      · intro h
        by_cases hs : firewall f packet .outbound = .permit ∧ f ≠ p
        · obtain ⟨hacc, hport, hmac⟩ := h hs
          exact .inl ⟨hacc, hport.2.1, hmac⟩
        · right
          cases hperm : firewall f packet .outbound with
          | permit => exact .inr (not_not.1 fun hfp => hs ⟨hperm, hfp⟩)
          | deny => exact .inl rfl
      · rintro (⟨hacc, hb, hmac⟩ | hdeny | hfp) ⟨hperm, hne⟩
        · exact ⟨hacc, ⟨hne, hb, hperm⟩, hmac⟩
        · rw [hdeny] at hperm
          cases hperm
        · exact absurd hfp hne
    · constructor
      · intro h
        exact ⟨fun l hl o ho ht hf => (h o (.inl ⟨⟨l, hl, ho⟩, ht⟩) hf).2,
          fun o ho hf => (h o (.inr ho) hf).2⟩
      · rintro ⟨hacc, htr⟩ o ho hf
        have ho' : o = f := by
          rcases ho with ⟨⟨l, hl, hmem⟩, ht⟩ | ho
          · exact hacc l hl o hmem ht hf
          · exact htr o ho hf
        exact ⟨⟨ho' ▸ hf.2.2, ho' ▸ hf.1⟩, ho'⟩
  | none =>
    have hzero : findForwardInterface lan packet = 0 := by
      rw [findForwardInterface_eq, hout]
      rfl
    rw [hzero, if_neg (fun h => h rfl), Isolated.perm_iff (forwardToTrunk_eq hvlan),
      isolated_flood_iff hlan.nodup htrunk (fun o h => absurd trivial h) (tag_clearEthIncoming htag)
        tag_addVlanTag]
    refine and_congr Iff.rfl (and_congr ?_ (forall_congr' fun _ => ?_))
    · have hsize : packet.clearEthIncoming.dPacketSize = packet.dPacketSize := rfl
      constructor
      · intro h o ho hf
        obtain ⟨hmod, hmac⟩ := h o ho trivial hf
        rw [dPacketSize_addVlanTag, hsize] at hmac
        exact ⟨by omega, Nat.add_right_cancel hmac⟩
      · intro h o ho _ hf
        obtain ⟨hlt, hmac⟩ := h o ho hf
        rw [dPacketSize_addVlanTag, hsize, hmac]
        exact ⟨Nat.mod_eq_of_lt hlt, rfl⟩
    · constructor
      · intro h l hl o ho ht hf
        exact h o ⟨⟨l, hl, ho⟩, ht⟩ hf
      · rintro h o ⟨⟨l, hl, ho⟩, ht⟩ hf
        exact h l hl o ho ht hf

end

/-- The copies of a frame keep to its VLAN just in the states of `MeetsAccess`, `MeetsTrunk` and
`MeetsDown`. -/
theorem vlanIsolation (Mac : Type) [DecidableEq Mac] (eth : EthVar Mac) (firewall : MacFirewall Mac)
    (hvlan : eth.isVLAN = true) (htrunk : eth.trunkPortIds.Nodup)
    (hwf : ∀ l ∈ eth.lanVar, l.WellFormed) :
    (∀ lan ∈ eth.lanVar, ∀ (p : ℕ) (frame : Frame Mac), frame.tag = none →
        (Isolated eth firewall (some lan) lan.vlanId p (frame.storeEthParamMacin p lan).dPacketSize
            (frame.storeEthParamMacin p lan)
            (forwardFrame eth firewall p lan (frame.storeEthParamMacin p lan)) ↔
          MeetsAccess eth firewall lan p (frame.storeEthParamMacin p lan))) ∧
      (∀ lan ∈ eth.lanVar, ∀ (p v : ℕ) (frame : Frame Mac), frame.tag = some v → v < 2 ^ 12 →
        (Isolated eth firewall (getVlan eth v) v p (frame.storeEthParamMacin p lan).dPacketSize
            (frame.storeEthParamMacin p lan)
            (vlanMacinForwardPacket eth firewall p (frame.storeEthParamMacin p lan)) ↔
          MeetsTrunk eth firewall v p (frame.storeEthParamMacin p lan))) ∧
      ∀ lan ∈ eth.lanVar, ∀ packet : Frame Mac, packet.tag = none → packet.incomingVlanId ≠ 0 →
        (Isolated eth firewall (getVlan eth packet.incomingVlanId) packet.incomingVlanId
            packet.incomingPort packet.addMacHeader.dPacketSize packet.clearEthIncoming
            (packetArriveFromNetworkLayer eth firewall lan packet) ↔
          MeetsDown eth firewall lan packet.incomingVlanId packet.incomingPort
            packet.clearEthIncoming) := by
  refine ⟨?_, ?_, ?_⟩
  · intro lan hlan p frame htag
    have hstored : frame.storeEthParamMacin p lan =
        { frame with incomingPort := p, incomingVlanId := lan.vlanId } := by
      unfold Frame.storeEthParamMacin
      rw [htag]
    rw [hstored]
    exact isolated_forwardFrame_iff hvlan htrunk (hwf lan hlan) htag rfl rfl
  · intro lan _ p v frame htag hlt
    have hstored : frame.storeEthParamMacin p lan =
        { frame with
          tag := none
          dOverhead := frame.dOverhead - ieee8011QTagLen
          incomingPort := p
          incomingVlanId := v } := by
      unfold Frame.storeEthParamMacin
      rw [htag]
    rw [hstored]
    exact isolated_vlanMacin_iff hvlan htrunk hwf rfl rfl hlt
  · intro lan hlan packet htag hv
    exact isolated_down_iff hvlan htrunk (hwf lan hlan) htag hv

/-! ## A switch with one VLAN -/

def vlanSwitch (interfaceId : List ℕ) : EthVar ℕ :=
  { lanVar :=
      [{ lanId := 1
         vlanId := 10
         lanIP := false
         switchingTechnique := .storeForward
         interfaceId
         switchTable := [] }]
    portState := fun _ => .forwarding
    isVLAN := true
    trunkPortIds := [3, 4] }

def vlanFrame (tag : Option ℕ) : Frame ℕ :=
  { nPacketId := 1
    szSourceMac := 7
    szDestMac := 8
    tag
    networkSize := 100
    dPayload := 100
    dOverhead := 26
    incomingPort := 1
    incomingVlanId := 10 }

theorem wellFormed_vlanSwitch {ports : List ℕ} (hnd : ports.Nodup) (h : 0 ∉ ports) :
    ∀ l ∈ (vlanSwitch ports).lanVar, l.WellFormed := by
  intro l hl
  obtain rfl := List.mem_singleton.1 hl
  exact ⟨hnd, h, nofun⟩

/-- The ports of the VLAN are no trunk ports, and its addresses are unknown. -/
theorem vlanIsolation_apart :
    ∃ lan ∈ (vlanSwitch [1, 2]).lanVar,
      (∃ sent, Isolated (vlanSwitch [1, 2]) (fun _ _ _ => .permit) (some lan) 10 1 126
        { vlanFrame none with incomingPort := 1 } sent ∧ sent.map Prod.fst = [2, 3, 4]) ∧
      (∃ sent, Isolated (vlanSwitch [1, 2]) (fun _ _ _ => .permit) (getVlan (vlanSwitch [1, 2]) 10) 10 3 122
        { vlanFrame none with dOverhead := 22, incomingPort := 3 } sent ∧
          sent.map Prod.fst = [4, 1, 2]) ∧
      ∃ sent, Isolated (vlanSwitch [1, 2]) (fun _ _ _ => .permit) (getVlan (vlanSwitch [1, 2]) 10) 10 1 126
        (vlanFrame none).clearEthIncoming sent ∧ sent.map Prod.fst = [3, 4, 2] := by
  obtain ⟨haccess, htrunk, hdown⟩ := vlanIsolation ℕ (vlanSwitch [1, 2]) (fun _ _ _ => .permit) rfl
    (by decide) (wellFormed_vlanSwitch (by decide) (by decide))
  refine ⟨_, List.mem_cons_self, ⟨_, (haccess _ List.mem_cons_self 1 (vlanFrame none) rfl).2 ?_, rfl⟩,
    ⟨_, (htrunk _ List.mem_cons_self 3 10 (vlanFrame (some 10)) rfl (by decide)).2 ?_, rfl⟩,
    ⟨_, (hdown _ List.mem_cons_self (vlanFrame none) rfl (by decide)).2 ?_, rfl⟩⟩
  · refine ⟨?_, ?_⟩
    · unfold NoTrunkAmong
      decide
    · decide
  · rintro lan hlan
    obtain rfl := Option.some.inj hlan
    show NoTrunkAmong _ _ _ _ _
    unfold NoTrunkAmong
    decide
  · have hapart : ∀ o ∈ [1, 2], o ∉ [3, 4] := by decide
    refine ⟨fun o ho _ => ⟨⟨⟨_, rfl, ho⟩, hapart o ho⟩, rfl⟩, fun o _ _ => ⟨by decide, rfl⟩, ?_⟩
    intro _ l hl o ho _ _
    obtain rfl := Option.some.inj hl
    exact ho

/-- Port 3 is a trunk port, and a port of the LAN of VLAN 10. A frame of VLAN 10 leaves on it
without a tag. -/
theorem not_vlanIsolation :
    ∃ lan ∈ (vlanSwitch [1, 2, 3]).lanVar, lan.WellFormed ∧
      ¬ Isolated (vlanSwitch [1, 2, 3]) (fun _ _ _ => .permit) (some lan) 10 1 126 (vlanFrame none)
        (forwardFrame (vlanSwitch [1, 2, 3]) (fun _ _ _ => .permit) 1 lan (vlanFrame none)) := by
  refine ⟨_, List.mem_cons_self, wellFormed_vlanSwitch (by decide) (by decide) _ List.mem_cons_self, ?_⟩
  intro h
  rcases h.copy (3, (vlanFrame none).clearEthIncoming) (by decide) with ⟨hacc, -, -⟩ | ⟨-, htag, -⟩
  · exact hacc.2 (by decide)
  · cases htag

end NetSim.Ethernet
