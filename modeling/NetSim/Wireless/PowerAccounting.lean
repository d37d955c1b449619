import NetSim.Wireless.Medium

/-!
# The received powers are what the transmitters add

The power of a device is the sum of what the transmitters on the air added, as long as the same is
taken off when one falls silent.
-/

namespace NetSim.Wireless

open NetSim.Lib Function

variable {K : Type}

def transmitters (s : Medium K) : Finset Dev := (s.transmissionPacket.map PacketInfo.tx).toFinset

def without (s : Medium K) (packet : Nat) : Medium K :=
  { s with transmissionPacket := eraseFirst PacketInfo.packet packet s.transmissionPacket }

section OnAir

variable {s : Medium K} {info i : PacketInfo} {tx : Dev} {packet : Nat}

theorem mem_transmitters : tx ∈ transmitters s ↔ ∃ i ∈ s.transmissionPacket, i.tx = tx := by
  unfold transmitters
  rw [List.mem_toFinset, List.mem_map]

theorem transmitters_packetInfoAdd :
    transmitters (packetInfoAdd s info) = insert info.tx (transmitters s) := by
  unfold transmitters packetInfoAdd
  rw [List.map_append, List.map_singleton, List.toFinset_append, Finset.union_comm]
  rfl

theorem mem_without (hnodup : (s.transmissionPacket.map PacketInfo.packet).Nodup) :
    i ∈ (without s packet).transmissionPacket ↔ i ∈ s.transmissionPacket ∧ i.packet ≠ packet :=
  mem_eraseFirst_iff hnodup

theorem nodup_packetInfoAdd (hs : (s.transmissionPacket.map PacketInfo.packet).Nodup)
    (hnew : ∀ i ∈ s.transmissionPacket, i.packet ≠ info.packet) :
    ((packetInfoAdd s info).transmissionPacket.map PacketInfo.packet).Nodup :=
  nodup_append_single hs (lookup_eq_none.2 hnew)

theorem transmitters_without (hnodup : (s.transmissionPacket.map PacketInfo.packet).Nodup)
    (hinfo : info ∈ s.transmissionPacket) (hpacket : info.packet = packet) :
    transmitters s = insert info.tx (transmitters (without s packet)) := by
  ext tx
  rw [Finset.mem_insert, mem_transmitters, mem_transmitters]
  constructor
  · rintro ⟨i, hi, rfl⟩
    by_cases hp : i.packet = packet
    · left
      have hlookup := lookup_of_mem hnodup hi
      rw [hp, ← hpacket, lookup_of_mem hnodup hinfo, Option.some.injEq] at hlookup
      rw [hlookup]
    · exact .inr ⟨i, (mem_without hnodup).2 ⟨hi, hp⟩, rfl⟩
  · rintro (rfl | ⟨i, hi, rfl⟩)
    · exact ⟨info, hinfo, rfl⟩
    · exact ⟨i, ((mem_without hnodup).1 hi).1, rfl⟩

end OnAir

variable [Field K] [LinearOrder K]

/-- The powers are those of the transmitters; when nothing is on the air, there is none, and nobody
is left busy. -/
structure Accounted (r : Radio K) (s : Medium K) : Prop where
  power : ∀ d, (s.devices d).dCummulativeReceivedPower = ∑ tx ∈ transmitters s, s.added tx d
  nonneg : ∀ d, 0 ≤ (s.devices d).dCummulativeReceivedPower
  idle : s.transmissionPacket = [] → ∀ d, r.inMedium d = true →
    (s.devices d).dCummulativeReceivedPower = 0 ∧ mediumIsIdle s d = true
  told : s.transmissionPacket = [] → ∀ d, s.told d ≠ some true

def AccountedInRuns (K : Type) [Field K] [LinearOrder K] : Prop :=
  ∀ (r : Radio K) (settings : Dev → Settings K) tr s,
    Run (mediumStep r) (.init settings) tr s → Accounted r s

/-- The last packet of a transmitter gives the powers that were added; with the last one on the air,
every device told busy is in its band and not its receiver, or is the idle transmitter. No threshold
is as low as no power. -/
def MeetsPower (r : Radio K) (s : Medium K) : MediumAction K → Prop
  | .send _ _ => True
  | .received packet isRadioIdle =>
    ∀ info ∈ s.transmissionPacket, info.packet = packet →
      (∀ i ∈ s.transmissionPacket, i.tx = info.tx → i.packet = packet) →
      (∀ d, amount r s.devices info.tx d info.startTime = s.added info.tx d) ∧
      ((∀ i ∈ s.transmissionPacket, i.packet = packet) → ∀ d, s.told d = some true →
        if d = info.tx then isRadioIdle = true
        else hears r s.devices info.tx d = true ∧ d ≠ info.rx)
  | .update _ settings => -1000 < settings.dEdThreshold

section Notify

variable {r : Radio K} {s s' : Medium K} {info i : PacketInfo} {tx d : Dev} {packet : Nat}

theorem mediumStep_send {busy : Dev → Bool}
    (h : (∀ i ∈ s.transmissionPacket, i.packet ≠ info.packet) ∧ s.collided info.packet = false ∧
      r.inMedium info.rx = true) :
    mediumStep r s (.send info busy) = some (mediumNotifyPacketSend r s info busy) := if_pos h

theorem send_spec (hnew : ∀ i ∈ s.transmissionPacket, i.packet ≠ info.packet) (busy : Dev → Bool) :
    (info.tx ∈ transmitters s ∧ mediumNotifyPacketSend r s info busy = packetInfoAdd s info) ∨
      (info.tx ∉ transmitters s ∧ mediumNotifyPacketSend r s info busy =
        mediumMarkCollision r (updatePowerDueToTransmission r (packetInfoAdd s info) info) busy
          info) := by
  have hiff : isAnypacketIsThereForThisTransmitter (packetInfoAdd s info) info = true ↔
      info.tx ∈ transmitters s := by
    unfold isAnypacketIsThereForThisTransmitter packetInfoAdd
    rw [List.any_append, List.any_cons, List.any_nil, Bool.or_false, mem_transmitters]
    simp only [ne_eq, not_true_eq_false, decide_false, Bool.false_and, Bool.or_false,
      List.any_eq_true, Bool.and_eq_true, decide_eq_true_eq]
    exact ⟨fun ⟨i, hi, _, htx⟩ => ⟨i, hi, htx⟩, fun ⟨i, hi, htx⟩ => ⟨i, hi, hnew i hi, htx⟩⟩
  by_cases h : info.tx ∈ transmitters s
  · exact .inl ⟨h, if_pos (hiff.2 h)⟩
  · exact .inr ⟨h, if_neg fun hany => h (hiff.1 hany)⟩

theorem received_spec (hnodup : (s.transmissionPacket.map PacketInfo.packet).Nodup) {idle : Bool}
    (h : mediumNotifyPacketReceived r s packet idle = some s') :
    ∃ info ∈ s.transmissionPacket, info.packet = packet ∧
      ((info.tx ∈ transmitters (without s packet) ∧ s' = without s packet) ∨
        ((∀ i ∈ s.transmissionPacket, i.tx = info.tx → i.packet = packet) ∧
          s' = updatePowerDueToTransmissionStop r (without s packet) info idle)) := by
  unfold mediumNotifyPacketReceived packetInfoRemove at h
  rw [Option.map_map, Option.map_eq_some_iff] at h
  obtain ⟨info, hlookup, rfl⟩ := h
  obtain ⟨hinfo, hpacket⟩ := lookup_some hlookup
  refine ⟨info, hinfo, hpacket, ?_⟩
  have hmem : ∀ i, i ∈ (without s packet).transmissionPacket ↔
      i ∈ s.transmissionPacket ∧ i.packet ≠ packet := fun i => mem_eraseFirst_iff hnodup
  have hiff : isAnypacketIsThereForThisTransmitter (without s packet) info = true ↔
      info.tx ∈ transmitters (without s packet) := by
    unfold isAnypacketIsThereForThisTransmitter
    rw [mem_transmitters]
    simp only [List.any_eq_true, Bool.and_eq_true, decide_eq_true_eq]
    refine ⟨fun ⟨i, hi, _, htx⟩ => ⟨i, hi, htx⟩, fun ⟨i, hi, htx⟩ => ⟨i, hi, ?_, htx⟩⟩
    rw [hpacket]
    exact ((hmem i).1 hi).2
  by_cases hany : info.tx ∈ transmitters (without s packet)
  · exact .inl ⟨hany, if_pos (hiff.2 hany)⟩
  · refine .inr ⟨fun i hi htx => ?_, if_neg fun h => hany (hiff.1 h)⟩
    by_contra hne
    exact hany (mem_transmitters.2 ⟨i, (hmem i).2 ⟨hi, hne⟩, htx⟩)

end Notify

/-! ## The balance of the powers -/

structure Balanced (r : Radio K) (s : Medium K) : Prop where
  nodup : (s.transmissionPacket.map PacketInfo.packet).Nodup
  power : ∀ d, (s.devices d).dCummulativeReceivedPower = ∑ tx ∈ transmitters s, s.added tx d
  added_nonneg : ∀ tx d, 0 ≤ s.added tx d
  dbm : ∀ d, (s.devices d).dCummulativeReceivedPowerDbm = ⊥ ∨
    (s.devices d).dCummulativeReceivedPowerDbm =
      (mwToDbm r (s.devices d).dCummulativeReceivedPower : K)

section Balance

variable {r : Radio K} {s s' : Medium K} {info : PacketInfo} {tx d : Dev} {packet : Nat}

theorem amount_nonneg (r : Radio K) (devices : Dev → Device K) (tx d : Dev) (startTime : ℚ) :
    0 ≤ amount r devices tx d startTime := by
  unfold amount
  split
  · exact r.getRxPower_nonneg tx d startTime
  · exact le_rfl

theorem power_update (r : Radio K) (s : Medium K) (info : PacketInfo) (d : Dev) :
    ((updatePowerDueToTransmission r s info).devices d).dCummulativeReceivedPower =
      (s.devices d).dCummulativeReceivedPower + amount r s.devices info.tx d info.startTime := by
  change (if hears r s.devices info.tx d then _ else _ : Device K).dCummulativeReceivedPower = _
  unfold amount
  split
  · rfl
  · exact (add_zero _).symm

theorem power_stop (r : Radio K) (s : Medium K) (info : PacketInfo) (idle : Bool) (d : Dev) :
    ((updatePowerDueToTransmissionStop r s info idle).devices d).dCummulativeReceivedPower =
      (s.devices d).dCummulativeReceivedPower - amount r s.devices info.tx d info.startTime := by
  change (if hears r s.devices info.tx d then _ else _ : Device K).dCummulativeReceivedPower = _
  unfold amount
  split
  · rfl
  · exact (sub_zero _).symm

theorem dbm_ite {device device' : Device K} (c : Bool)
    (h' : device'.dCummulativeReceivedPowerDbm = mwToDbm r device'.dCummulativeReceivedPower)
    (h : device.dCummulativeReceivedPowerDbm = ⊥ ∨
      device.dCummulativeReceivedPowerDbm = mwToDbm r device.dCummulativeReceivedPower) :
    (if c then device' else device).dCummulativeReceivedPowerDbm = ⊥ ∨
      (if c then device' else device).dCummulativeReceivedPowerDbm =
        mwToDbm r (if c then device' else device).dCummulativeReceivedPower := by
  split
  · exact .inr h'
  · exact h

theorem balanced_send (hs : Balanced r s)
    (hnew : ∀ i ∈ s.transmissionPacket, i.packet ≠ info.packet) (busy : Dev → Bool) :
    Balanced r (mediumNotifyPacketSend r s info busy) := by
  have hnodup := nodup_packetInfoAdd hs.nodup hnew
  rcases send_spec (r := r) hnew busy with ⟨htx, heq⟩ | ⟨htx, heq⟩
  · rw [heq]
    refine ⟨hnodup, fun d => ?_, hs.added_nonneg, hs.dbm⟩
    rw [transmitters_packetInfoAdd, Finset.insert_eq_of_mem htx]
    exact hs.power d
  · rw [heq]
    refine ⟨hnodup, fun d => ?_, fun tx d => ?_, fun d => ?_⟩
    · -- the others keep what they added
      have hadded : ∑ tx ∈ transmitters s, update s.added info.tx
          (fun d => amount r s.devices info.tx d info.startTime) tx d =
          ∑ tx ∈ transmitters s, s.added tx d := by
        refine Finset.sum_congr rfl fun tx h => ?_
        rw [update_of_ne (ne_of_mem_of_not_mem h htx)]
      refine (power_update r (packetInfoAdd s info) info d).trans ?_
      change _ = ∑ tx ∈ transmitters (packetInfoAdd s info), update s.added info.tx
        (fun d => amount r s.devices info.tx d info.startTime) tx d
      rw [transmitters_packetInfoAdd, Finset.sum_insert htx, hadded, update_self, add_comm]
      exact congrArg _ (hs.power d)
    · change 0 ≤ update s.added info.tx
        (fun d => amount r s.devices info.tx d info.startTime) tx d
      by_cases h : tx = info.tx
      · rw [h, update_self]
        exact amount_nonneg _ _ _ _ _
      · rw [update_of_ne h]
        exact hs.added_nonneg tx d
    · exact dbm_ite (hears r s.devices info.tx d) rfl (hs.dbm d)

theorem balanced_received (hs : Balanced r s) {idle : Bool}
    (h : mediumNotifyPacketReceived r s packet idle = some s')
    (hm : ∀ info ∈ s.transmissionPacket, info.packet = packet →
      (∀ i ∈ s.transmissionPacket, i.tx = info.tx → i.packet = packet) →
      ∀ d, amount r s.devices info.tx d info.startTime = s.added info.tx d) :
    Balanced r s' := by
  obtain ⟨info, hinfo, hpacket, hcases⟩ := received_spec hs.nodup h
  have hnodup : ((without s packet).transmissionPacket.map PacketInfo.packet).Nodup :=
    nodup_map_eraseFirst hs.nodup
  have htransmitters := transmitters_without hs.nodup hinfo hpacket
  rcases hcases with ⟨htx, rfl⟩ | ⟨hlast, rfl⟩
  · refine ⟨hnodup, fun d => ?_, hs.added_nonneg, hs.dbm⟩
    rw [Finset.insert_eq_of_mem htx] at htransmitters
    rw [← htransmitters]
    exact hs.power d
  · have hnot : info.tx ∉ transmitters (without s packet) := by
      intro hmem
      obtain ⟨i, hi, htx⟩ := mem_transmitters.1 hmem
      obtain ⟨hi', hne⟩ := (mem_without hs.nodup).1 hi
      exact hne (hlast i hi' htx)
    refine ⟨hnodup, fun d => ?_, hs.added_nonneg, fun d => ?_⟩
    · -- what is taken off is what was added
      have hpower := hs.power d
      rw [htransmitters, Finset.sum_insert hnot, ← hm info hinfo hpacket hlast d] at hpower
      refine (power_stop r (without s packet) info idle d).trans ?_
      change (s.devices d).dCummulativeReceivedPower - amount r s.devices info.tx d info.startTime =
        ∑ tx ∈ transmitters (without s packet), s.added tx d
      rw [hpower, add_sub_cancel_left]
    · exact dbm_ite (hears r s.devices info.tx d) rfl (hs.dbm d)

theorem balanced_update (hs : Balanced r s) (d : Dev) (settings : Settings K) :
    Balanced r (mediumUpdateDevice s d settings) := by
  have hdevice : ∀ e, ((mediumUpdateDevice s d settings).devices e).dCummulativeReceivedPower =
        (s.devices e).dCummulativeReceivedPower ∧
      ((mediumUpdateDevice s d settings).devices e).dCummulativeReceivedPowerDbm =
        (s.devices e).dCummulativeReceivedPowerDbm := by
    intro e
    unfold mediumUpdateDevice
    by_cases he : e = d
    · subst he
      simp only [update_self, and_self]
    · simp only [update_of_ne he, and_self]
  refine ⟨hs.nodup, fun e => ?_, hs.added_nonneg, fun e => ?_⟩
  · rw [(hdevice e).1]
    exact hs.power e
  · rw [(hdevice e).1, (hdevice e).2]
    exact hs.dbm e

theorem balanced_init (r : Radio K) (settings : Dev → Settings K) : Balanced r (.init settings) :=
  ⟨List.nodup_nil, fun _ => rfl, fun _ _ => le_rfl, fun _ => .inl rfl⟩

theorem Balanced.power_eq_zero (hs : Balanced r s) (hnil : s.transmissionPacket = []) (d : Dev) :
    (s.devices d).dCummulativeReceivedPower = 0 := by
  rw [hs.power d]
  unfold transmitters
  rw [hnil]
  rfl

/-! The two notifications leave the settings alone. -/

theorem settings_send (r : Radio K) (s : Medium K) (info : PacketInfo) (busy : Dev → Bool) (d : Dev) :
    ((mediumNotifyPacketSend r s info busy).devices d).toSettings = (s.devices d).toSettings := by
  unfold mediumNotifyPacketSend
  dsimp only
  split
  · rfl
  · change (if hears r s.devices info.tx d then _ else _ : Device K).toSettings = _
    split
    · rfl
    · rfl

theorem hears_congr {devices devices' : Dev → Device K}
    (h : ∀ d, (devices' d).toSettings = (devices d).toSettings) (tx d : Dev) :
    hears r devices' tx d = hears r devices tx d := by
  unfold hears
  rw [h tx, h d]

theorem amount_congr {devices devices' : Dev → Device K}
    (h : ∀ d, (devices' d).toSettings = (devices d).toSettings) (tx d : Dev) (startTime : ℚ) :
    amount r devices' tx d startTime = amount r devices tx d startTime := by
  unfold amount
  rw [hears_congr h]

end Balance

/-! ## What the devices are told -/

/-- No threshold is below the level of no power, and nobody is left busy when nothing is on the air.
-/
structure Quiet (r : Radio K) (s : Medium K) : Prop where
  threshold : ∀ d, -1000 < (s.devices d).dEdThreshold
  callback : ∀ d, s.told d = some true → r.inMedium d = true ∧ r.hasCallback d = true
  told : s.transmissionPacket = [] → ∀ d, s.told d ≠ some true

section Quiet

variable {r : Radio K} {s s' : Medium K} {info : PacketInfo} {d : Dev} {packet : Nat}

theorem inMedium_of_hears {devices : Dev → Device K} {tx : Dev} (h : hears r devices tx d = true) :
    r.inMedium d = true := by
  unfold hears at h
  simp only [Bool.and_eq_true] at h
  exact h.1.1.2

theorem quiet_send (hs : Quiet r s) (hnew : ∀ i ∈ s.transmissionPacket, i.packet ≠ info.packet)
    (busy : Dev → Bool) : Quiet r (mediumNotifyPacketSend r s info busy) := by
  have hne : (packetInfoAdd s info).transmissionPacket ≠ [] := List.concat_ne_nil _ _
  rcases send_spec (r := r) hnew busy with ⟨-, heq⟩ | ⟨-, heq⟩
  · rw [heq]
    exact ⟨hs.threshold, hs.callback, fun hnil => absurd hnil hne⟩
  · rw [heq]
    refine ⟨fun d => ?_, fun d hd => ?_, fun hnil => absurd hnil hne⟩
    · change _ < (if hears r s.devices info.tx d then _ else _ : Device K).dEdThreshold
      split
      · exact hs.threshold d
      · exact hs.threshold d
    · have htold : (updatePowerDueToTransmission r (packetInfoAdd s info) info).told d =
          if hears r s.devices info.tx d = true ∧ d ≠ info.rx ∧
            ((updatePowerDueToTransmission r (packetInfoAdd s info) info).devices
              d).dCummulativeReceivedPowerDbm >
            (((updatePowerDueToTransmission r (packetInfoAdd s info) info).devices
              d).dEdThreshold : K) ∧ r.hasCallback d = true then some true
          else s.told d := rfl
      change (updatePowerDueToTransmission r (packetInfoAdd s info) info).told d = some true at hd
      rw [htold] at hd
      split at hd
      · next h => exact ⟨inMedium_of_hears h.1, h.2.2.2⟩
      · exact hs.callback d hd

theorem quiet_update (hs : Quiet r s) (d : Dev) {settings : Settings K}
    (hm : -1000 < settings.dEdThreshold) : Quiet r (mediumUpdateDevice s d settings) := by
  refine ⟨fun e => ?_, hs.callback, hs.told⟩
  unfold mediumUpdateDevice
  by_cases he : e = d
  · subst he
    simp only [update_self]
    exact hm
  · simp only [update_of_ne he]
    exact hs.threshold e

variable [IsStrictOrderedRing K]

theorem mwToDbm_zero (r : Radio K) : mwToDbm r 0 = -1000 := by
  unfold mwToDbm
  rw [if_pos]
  exact div_nonneg zero_le_one (pow_nonneg (Nat.ofNat_nonneg 10) 100)

theorem quiet_received (hb : Balanced r s) (hs : Quiet r s) {idle : Bool}
    (h : mediumNotifyPacketReceived r s packet idle = some s')
    (hm : MeetsPower r s (.received packet idle)) : Quiet r s' := by
  have hb' := balanced_received hb h fun info hinfo hp hlast => (hm info hinfo hp hlast).1
  obtain ⟨info, hinfo, hpacket, hcases⟩ := received_spec hb.nodup h
  rcases hcases with ⟨htx, rfl⟩ | ⟨hlast, rfl⟩
  · refine ⟨hs.threshold, hs.callback, fun hnil => ?_⟩
    obtain ⟨i, hi, -⟩ := mem_transmitters.1 htx
    rw [hnil] at hi
    cases hi
  · have htold : ∀ d, (updatePowerDueToTransmissionStop r (without s packet) info idle).told d =
        if d = info.tx then if r.inMedium d && idle && r.hasCallback d then some false else s.told d
        else if hears r s.devices info.tx d ∧ d ≠ info.rx ∧
          ((updatePowerDueToTransmissionStop r (without s packet) info idle).devices
            d).dCummulativeReceivedPowerDbm <
          (((updatePowerDueToTransmissionStop r (without s packet) info idle).devices
            d).dEdThreshold : K) ∧ r.hasCallback d = true then some false
        else s.told d := fun _ => rfl
    have hthreshold : ∀ d, ((updatePowerDueToTransmissionStop r (without s packet) info idle).devices
        d).dEdThreshold = (s.devices d).dEdThreshold := by
      intro d
      change (if hears r s.devices info.tx d then _ else _ : Device K).dEdThreshold = _
      split
      · rfl
      · rfl
    refine ⟨fun d => (hthreshold d).symm ▸ hs.threshold d, fun d hd => ?_, fun hnil d hd => ?_⟩
    · rw [htold] at hd
      split at hd
      · split at hd
        · cases hd
        · exact hs.callback d hd
      · split at hd
        · cases hd
        · exact hs.callback d hd
    · -- the last packet on the air: the condition says who is told
      have hall : ∀ i ∈ s.transmissionPacket, i.packet = packet := by
        intro i hi
        by_contra hne
        have hmem : i ∈ (without s packet).transmissionPacket :=
          (mem_without hb.nodup).2 ⟨hi, hne⟩
        have hempty : (without s packet).transmissionPacket = [] := hnil
        rw [hempty] at hmem
        cases hmem
      have hbusy := (hm info hinfo hpacket hlast).2 hall d
      rw [htold] at hd
      split at hd
      · next htx =>
        split at hd
        · cases hd
        · next hnot =>
          obtain ⟨hin, hcall⟩ := hs.callback d hd
          have hidle := hbusy hd
          rw [if_pos htx] at hidle
          exact hnot (by rw [hin, hidle, hcall]; rfl)
      · next htx =>
        split at hd
        · cases hd
        · next hnot =>
          obtain ⟨hin, hcall⟩ := hs.callback d hd
          have hhears := hbusy hd
          rw [if_neg htx] at hhears
          refine hnot ⟨hhears.1, hhears.2, ?_, hcall⟩
          have hzero := hb'.power_eq_zero hnil d
          rw [hthreshold]
          have hdbm : ((updatePowerDueToTransmissionStop r (without s packet) info idle).devices
              d).dCummulativeReceivedPowerDbm = (mwToDbm r
              ((updatePowerDueToTransmissionStop r (without s packet) info idle).devices
                d).dCummulativeReceivedPower : K) := by
            change (if hears r s.devices info.tx d then _ else _ : Device K).dCummulativeReceivedPowerDbm
              = (mwToDbm r (if hears r s.devices info.tx d then _ else _ :
                Device K).dCummulativeReceivedPower : K)
            rw [if_pos hhears.1]
            rfl
          rw [hdbm, hzero, mwToDbm_zero]
          exact WithBot.coe_lt_coe.2 (hs.threshold d)

end Quiet

/-! ## Runs -/

section Runs

variable [IsStrictOrderedRing K] {r : Radio K} {s s' : Medium K} {act : MediumAction K}

theorem step_keeps (hb : Balanced r s) (hq : Quiet r s) (hm : MeetsPower r s act)
    (hstep : mediumStep r s act = some s') : Balanced r s' ∧ Quiet r s' := by
  cases act with
  | send info busy =>
    change (if _ then _ else _) = _ at hstep
    split at hstep
    · next hsend =>
      rw [Option.some.injEq] at hstep
      subst hstep
      exact ⟨balanced_send hb hsend.1 busy, quiet_send hq hsend.1 busy⟩
    · cases hstep
  | received packet idle =>
    exact ⟨balanced_received hb hstep fun info hinfo hp hlast => (hm info hinfo hp hlast).1,
      quiet_received hb hq hstep hm⟩
  | update d settings =>
    change (if _ then _ else _) = _ at hstep
    split at hstep
    · rw [Option.some.injEq] at hstep
      subst hstep
      exact ⟨balanced_update hb d settings, quiet_update hq d hm⟩
    · cases hstep

theorem Balanced.accounted_of_quiet (hb : Balanced r s) (hq : Quiet r s) : Accounted r s := by
  refine ⟨hb.power, fun d => ?_, fun hnil d _ => ⟨hb.power_eq_zero hnil d, ?_⟩, hq.told⟩
  · rw [hb.power d]
    exact Finset.sum_nonneg fun tx _ => hb.added_nonneg tx d
  · apply decide_eq_true
    rcases hb.dbm d with hbot | hdbm
    · rw [hbot]
      exact WithBot.bot_lt_coe _
    · rw [hdbm, hb.power_eq_zero hnil d, mwToDbm_zero]
      exact WithBot.coe_lt_coe.2 (hq.threshold d)

/-- In a run whose calls meet the condition the powers are accounted for. -/
theorem accounted_of_meets {settings : Dev → Settings K}
    (hset : ∀ d, -1000 < (settings d).dEdThreshold) {tr : List (Medium K × MediumAction K)}
    (run : Run (mediumStep r) (.init settings) tr s)
    (hmeets : ∀ x ∈ tr, MeetsPower r x.1 x.2) : Accounted r s := by
  have hinv : Balanced r s ∧ Quiet r s := by
    refine run.induction (P := fun _ s => Balanced r s ∧ Quiet r s)
      (Q := fun s act => MeetsPower r s act) ⟨balanced_init r settings, hset, nofun, nofun⟩ ?_ hmeets
    rintro tr s act s' - ⟨hb, hq⟩ hm hstep
    exact step_keeps hb hq hm hstep
  exact hinv.1.accounted_of_quiet hinv.2

end Runs

instance lawfulBEq : LawfulBEq (ℕ × ℕ) := inferInstance

/-- Three devices that hear each other with 10 mW, which is 10 dBm. -/
def radio₁ : Radio ℚ where
  inMedium := fun d => d ∈ [(1, 1), (2, 1), (3, 1)]
  hasCallback := fun _ => true
  getRxPower := fun _ _ _ => 10
  getRxPower_nonneg := fun _ _ _ => by decide +kernel
  log10 := fun mw => if mw = 10 then 1 else 0

def settings₁ : Settings ℚ := ⟨2412, 20, -85, -62⟩

def start₁ : Medium ℚ := .init fun _ => settings₁

def info₁ : PacketInfo := ⟨0, (1, 1), (2, 1), 0⟩

def medium₁ : Medium ℚ := mediumNotifyPacketSend radio₁ start₁ info₁ fun _ => false

theorem step_start₁ : mediumStep radio₁ start₁ (.send info₁ fun _ => false) = some medium₁ :=
  mediumStep_send ⟨nofun, rfl, rfl⟩

theorem settings_medium₁ (d : Dev) : (medium₁.devices d).toSettings = (start₁.devices d).toSettings :=
  settings_send _ _ _ _ d

/-- The packet is received. -/
theorem accounted_received : ∃ s, mediumStep radio₁ medium₁ (.received 0 true) = some s ∧
    Accounted radio₁ s := by
  obtain ⟨s, hs⟩ : ∃ s, mediumStep radio₁ medium₁ (.received 0 true) = some s := ⟨_, rfl⟩
  have run : Run (mediumStep radio₁) (.init fun _ => settings₁)
      [(medium₁, .received 0 true), (start₁, .send info₁ fun _ => false)] s :=
    (Run.nil.snoc step_start₁).snoc hs
  refine ⟨s, hs, accounted_of_meets (fun _ => by decide +kernel) run ?_⟩
  rintro x (_ | ⟨_, _ | ⟨_, hx⟩⟩)
  · intro info hmem _ _
    obtain rfl : info = info₁ := List.mem_singleton.1 hmem
    refine ⟨fun d => amount_congr settings_medium₁ _ _ _, fun _ d hd => ?_⟩
    change if d = (1, 1) then _ else hears radio₁ medium₁.devices (1, 1) d = true ∧ d ≠ (2, 1)
    have htold : medium₁.told d =
        if hears radio₁ start₁.devices (1, 1) d = true ∧ d ≠ (2, 1) ∧
          (medium₁.devices d).dCummulativeReceivedPowerDbm >
            ((medium₁.devices d).dEdThreshold : ℚ) ∧ radio₁.hasCallback d = true
        then some true else none := rfl
    rw [htold] at hd
    split at hd
    · next hcond =>
      by_cases htx : d = (1, 1)
      · rw [if_pos htx]
      · rw [if_neg htx, hears_congr settings_medium₁]
        exact ⟨hcond.1, hcond.2.1⟩
    · cases hd
  · trivial
  · cases hx

/-- Device 3 is told busy at the first copy of a broadcast, and is the receiver of the last, so
nobody tells it idle. -/
theorem not_accountedInRuns : ¬ AccountedInRuns ℚ := by
  intro h
  have hexec : (exec (mediumStep radio₁) start₁
      ([.send ⟨0, (1, 1), (2, 1), 0⟩ fun _ => false, .send ⟨1, (1, 1), (3, 1), 0⟩ fun _ => false,
        .received 0 true, .received 1 true].map fun x _ => some x)).any (fun x =>
      decide (x.2.transmissionPacket = []) && decide (x.2.told (3, 1) = some true)) = true := by
    decide +kernel
  obtain ⟨tr, s, run, htest⟩ := run_of_exec hexec
  obtain ⟨hnil, htold⟩ := (Bool.and_eq_true _ _).mp htest
  exact (h radio₁ (fun _ => settings₁) tr s run).told (of_decide_eq_true hnil) (3, 1)
    (of_decide_eq_true htold)

end NetSim.Wireless
