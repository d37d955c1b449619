import NetSim.Wireless.PowerAccounting

/-!
# Which packets are marked as collided

A packet on the air is to be marked when some packet is sent and the other transmitters are too loud
at its receiver, or the receiver is transmitting.
-/

namespace NetSim.Wireless

open NetSim.Lib

variable {K : Type} [Field K] [LinearOrder K]

/-! ## The rule -/

def othersPower (s : Medium K) (i : PacketInfo) : K :=
  ∑ tx ∈ (transmitters s).erase i.tx, s.added tx i.rx

def isDue (r : Radio K) (s : Medium K) (isTranmitterBusy : Dev → Bool) (i : PacketInfo) : Bool :=
  mwToDbm r (othersPower s i) > (s.devices i.rx).dRxSensitivity || isTranmitterBusy i.rx

/-- The medium, with the packets that were due at some notification while they were on the air. -/
structure JudgedMedium (K : Type) where
  medium : Medium K
  due : Nat → Bool

/-- One call, with settings that stay as they are. A packet is judged anew from the time it is sent.
-/
def JudgedMedium.step (r : Radio K) (s : JudgedMedium K) :
    MediumAction K → Option (JudgedMedium K)
  | .send info busy =>
    (mediumStep r s.medium (.send info busy)).map fun m =>
      { medium := m
        due := fun packet => (packet ≠ info.packet && s.due packet) ||
          m.transmissionPacket.any fun i => i.packet = packet && isDue r m busy i }
  | .received packet idle =>
    (mediumStep r s.medium (.received packet idle)).map fun m => { s with medium := m }
  | .update _ _ => none

def JudgedMedium.init (settings : Dev → Settings K) : JudgedMedium K :=
  ⟨.init settings, fun _ => false⟩

/-- A packet that is received now carries the mark exactly if it was due. -/
def MarkedExactly (s : JudgedMedium K) : Prop :=
  ∀ i ∈ s.medium.transmissionPacket, s.medium.collided i.packet = s.due i.packet

instance (s : JudgedMedium K) : Decidable (MarkedExactly s) :=
  inferInstanceAs (Decidable (∀ i ∈ s.medium.transmissionPacket, _ = _))

theorem due_before {K : Type} {j : JudgedMedium K} {info i : PacketInfo} (hj : MarkedExactly j)
    (hfresh : ∀ i ∈ j.medium.transmissionPacket, i.packet ≠ info.packet)
    (hclear : j.medium.collided info.packet = false)
    (hi : i ∈ j.medium.transmissionPacket ++ [info]) :
    (decide (i.packet ≠ info.packet) && j.due i.packet) = j.medium.collided i.packet := by
  rcases List.mem_append.1 hi with hi | hi
  · rw [decide_eq_true (hfresh i hi), Bool.true_and, hj i hi]
  · rw [List.mem_singleton.1 hi, decide_eq_false (not_not.2 rfl), Bool.false_and, hclear]

def MarkedExactlyInRuns (K : Type) [Field K] [LinearOrder K] : Prop :=
  ∀ (r : Radio K) (settings : Dev → Settings K) tr s,
    Run (JudgedMedium.step r) (.init settings) tr s → MarkedExactly s

def CountsOwn (r : Radio K) (s : Medium K) (i : PacketInfo) : Prop :=
  s.added i.tx i.rx = r.getRxPower i.tx i.rx i.startTime

/-- No packet is unmarked when an active transmitter sends another; when one becomes active, its own
power is what counts; and what is taken off is what was added. -/
def MeetsMarking (r : Radio K) (s : JudgedMedium K) : MediumAction K → Prop
  | .send info busy =>
    if info.tx ∈ transmitters s.medium then
      ∀ i ∈ s.medium.transmissionPacket ++ [info], isDue r s.medium busy i = true →
        s.medium.collided i.packet = true
    else (∀ i ∈ s.medium.transmissionPacket, CountsOwn r s.medium i) ∧
      amount r s.medium.devices info.tx info.rx info.startTime =
        r.getRxPower info.tx info.rx info.startTime
  | .received packet _ =>
    ∀ info ∈ s.medium.transmissionPacket, info.packet = packet →
      (∀ i ∈ s.medium.transmissionPacket, i.tx = info.tx → i.packet = packet) →
      ∀ d, amount r s.medium.devices info.tx d info.startTime = s.medium.added info.tx d
  | .update _ _ => True

instance (r : Radio K) (s : JudgedMedium K) (info : PacketInfo) (busy : Dev → Bool) :
    Decidable (MeetsMarking r s (.send info busy)) := by
  unfold MeetsMarking CountsOwn
  dsimp only
  infer_instance

/-! ## Marking -/

section Marking

variable {r : Radio K} {s : Medium K} {info i : PacketInfo} {busy : Dev → Bool}

theorem any_packet {l : List PacketInfo} (hl : (l.map PacketInfo.packet).Nodup) (hi : i ∈ l)
    (f : PacketInfo → Bool) : (l.any fun i' => i'.packet = i.packet && f i') = f i := by
  rw [Bool.eq_iff_iff, List.any_eq_true]
  constructor
  · rintro ⟨i', hi', h⟩
    obtain ⟨hp, hf⟩ := Bool.and_eq_true_iff.1 h
    have hlookup := lookup_of_mem hl hi'
    rw [of_decide_eq_true hp, lookup_of_mem hl hi, Option.some.injEq] at hlookup
    rwa [hlookup]
  · intro hf
    exact ⟨i, hi, Bool.and_eq_true_iff.2 ⟨decide_eq_true rfl, hf⟩⟩

theorem isCollided_eq (hb : Balanced r s) (hi : i ∈ s.transmissionPacket) (hown : CountsOwn r s i) :
    isCollided r s busy i = isDue r s busy i := by
  have htx : i.tx ∈ transmitters s := mem_transmitters.2 ⟨i, hi, rfl⟩
  have hpower : (s.devices i.rx).dCummulativeReceivedPower - r.getRxPower i.tx i.rx i.startTime =
      othersPower s i := by
    unfold othersPower
    rw [hb.power i.rx, Finset.sum_erase_eq_sub htx, hown]
  unfold isCollided isDue
  rw [hpower]

theorem countsOwn_updated (hnot : info.tx ∉ transmitters s)
    (hold : ∀ i ∈ s.transmissionPacket, CountsOwn r s i)
    (hnew : amount r s.devices info.tx info.rx info.startTime =
      r.getRxPower info.tx info.rx info.startTime) (hi : i ∈ s.transmissionPacket ++ [info]) :
    CountsOwn r (updatePowerDueToTransmission r (packetInfoAdd s info) info) i := by
  change Function.update s.added info.tx (fun d => amount r s.devices info.tx d info.startTime)
    i.tx i.rx = r.getRxPower i.tx i.rx i.startTime
  rcases List.mem_append.1 hi with hi | hi
  · have hne : i.tx ≠ info.tx := fun h => hnot (h ▸ mem_transmitters.2 ⟨i, hi, rfl⟩)
    rw [Function.update_of_ne hne]
    exact hold i hi
  · obtain rfl := List.mem_singleton.1 hi
    rw [Function.update_self]
    exact hnew

theorem transmissionPacket_send :
    (mediumNotifyPacketSend r s info busy).transmissionPacket = s.transmissionPacket ++ [info] := by
  unfold mediumNotifyPacketSend
  dsimp only
  split
  · rfl
  · rfl

theorem collided_active (hb : Balanced r (mediumNotifyPacketSend r s info busy))
    (hnot : info.tx ∉ transmitters s)
    (heq : mediumNotifyPacketSend r s info busy =
      mediumMarkCollision r (updatePowerDueToTransmission r (packetInfoAdd s info) info) busy info)
    (hown : ∀ i ∈ s.transmissionPacket, CountsOwn r s i)
    (hnew : amount r s.devices info.tx info.rx info.startTime =
      r.getRxPower info.tx info.rx info.startTime)
    (hi : i ∈ s.transmissionPacket ++ [info]) :
    (mediumNotifyPacketSend r s info busy).collided i.packet =
      (s.collided i.packet || isDue r (mediumNotifyPacketSend r s info busy) busy i) := by
  have hcount : CountsOwn r (mediumNotifyPacketSend r s info busy) i := by
    rw [heq]
    exact countsOwn_updated hnot hown hnew hi
  have hmem : i ∈ (mediumNotifyPacketSend r s info busy).transmissionPacket := by
    rw [transmissionPacket_send]
    exact hi
  have hnodup := hb.nodup
  rw [transmissionPacket_send] at hnodup
  rw [← isCollided_eq hb hmem hcount, heq]
  change (s.collided i.packet || (s.transmissionPacket ++ [info]).any fun i' =>
    i'.packet = i.packet && !(i'.tx = info.tx && i'.packet ≠ info.packet) &&
      isCollided r (updatePowerDueToTransmission r (packetInfoAdd s info) info) busy i') = _
  congr 1
  -- no packet is passed over, since the transmitter has no other
  have hskip : (!(decide (i.tx = info.tx) && decide (i.packet ≠ info.packet))) = true := by
    rcases List.mem_append.1 hi with hold | hnew
    · have hne : i.tx ≠ info.tx := fun h => hnot (h ▸ mem_transmitters.2 ⟨i, hold, rfl⟩)
      rw [decide_eq_false hne]
      rfl
    · rw [List.mem_singleton.1 hnew, decide_eq_false (not_not.2 rfl), Bool.and_false]
      rfl
  simp only [Bool.and_assoc]
  rw [any_packet hnodup hi, hskip, Bool.true_and]
  rfl

section Steps

variable {j j' : JudgedMedium K}

theorem markedExactly_send (hb : Balanced r j.medium) (hj : MarkedExactly j)
    (hm : MeetsMarking r j (.send info busy)) (hstep : j.step r (.send info busy) = some j') :
    Balanced r j'.medium ∧ MarkedExactly j' := by
  obtain ⟨m, hm', rfl⟩ := Option.map_eq_some_iff.1 hstep
  change (if _ then _ else _) = _ at hm'
  split at hm'
  · next hsend =>
    obtain ⟨hfresh, hclear, -⟩ := hsend
    rw [Option.some.injEq] at hm'
    subst hm'
    have hb' := balanced_send hb hfresh busy
    refine ⟨hb', fun i hi => ?_⟩
    dsimp only at hi ⊢
    rw [any_packet hb'.nodup hi]
    rw [transmissionPacket_send] at hi
    rw [due_before hj hfresh hclear hi]
    dsimp only [MeetsMarking] at hm
    rcases send_spec (r := r) hfresh busy with ⟨htx, heq⟩ | ⟨htx, heq⟩
    · -- nobody is judged, and nobody unmarked is due
      rw [if_pos htx] at hm
      have hsame : isDue r (packetInfoAdd j.medium info) busy i = isDue r j.medium busy i := by
        unfold isDue othersPower
        rw [transmitters_packetInfoAdd, Finset.insert_eq_of_mem htx]
        rfl
      rw [heq, hsame]
      change j.medium.collided i.packet = _
      cases hdue : isDue r j.medium busy i with
      | false => rw [Bool.or_false]
      | true => rw [hm i hi hdue, Bool.or_true]
    · rw [if_neg htx] at hm
      exact collided_active hb' htx heq hm.1 hm.2 hi
  · cases hm'

theorem markedExactly_received {packet : Nat} {idle : Bool} (hb : Balanced r j.medium)
    (hj : MarkedExactly j) (hm : MeetsMarking r j (.received packet idle))
    (hstep : j.step r (.received packet idle) = some j') :
    Balanced r j'.medium ∧ MarkedExactly j' := by
  obtain ⟨m, hm', rfl⟩ := Option.map_eq_some_iff.1 hstep
  refine ⟨balanced_received hb hm' hm, fun i hi => ?_⟩
  obtain ⟨info, -, -, hcases⟩ := received_spec hb.nodup hm'
  have hsame : m.transmissionPacket = (without j.medium packet).transmissionPacket ∧
      m.collided = j.medium.collided := by
    rcases hcases with ⟨-, rfl⟩ | ⟨-, rfl⟩
    · exact ⟨rfl, rfl⟩
    · exact ⟨rfl, rfl⟩
  have hi' : i ∈ m.transmissionPacket := hi
  rw [hsame.1, mem_without hb.nodup] at hi'
  rw [hsame.2]
  exact hj i hi'.1

/-- In a run whose calls meet the condition the marks are those of the rule. -/
theorem markedExactly_of_meets {settings : Dev → Settings K}
    {tr : List (JudgedMedium K × MediumAction K)} (run : Run (JudgedMedium.step r) (.init settings) tr j)
    (hmeets : ∀ x ∈ tr, MeetsMarking r x.1 x.2) : MarkedExactly j := by
  have hinv : Balanced r j.medium ∧ MarkedExactly j := by
    refine run.induction (P := fun _ j => Balanced r j.medium ∧ MarkedExactly j)
      (Q := fun j act => MeetsMarking r j act)
      ⟨balanced_init r settings, fun _ hi => absurd hi List.not_mem_nil⟩ ?_ hmeets
    rintro tr j act j' - ⟨hb, hj⟩ hm hstep
    cases act with
    | send info busy => exact markedExactly_send hb hj hm hstep
    | received packet idle => exact markedExactly_received hb hj hm hstep
    | update d settings => cases hstep
  exact hinv.2

end Steps

end Marking

/-- Four devices that hear each other with 10 mW, which is 10 dBm. -/
def radio₂ : Radio ℚ where
  inMedium := fun d => d ∈ [(1, 1), (2, 1), (3, 1), (4, 1)]
  hasCallback := fun _ => true
  getRxPower := fun _ _ _ => 10
  getRxPower_nonneg := radio₁.getRxPower_nonneg
  log10 := fun mw => if mw = 10 then 1 else 0

/-- Two transmitters send to one receiver, and both packets are marked. -/
theorem markedExactly_overlap :
    ∃ tr j, Run (JudgedMedium.step radio₂) (.init fun _ => settings₁) tr j ∧ MarkedExactly j ∧
      j.medium.collided 0 = true ∧ j.medium.collided 1 = true := by
  have hexec : (exec (JudgedMedium.step radio₂) (.init fun _ => settings₁)
      ([.send ⟨0, (3, 1), (4, 1), 0⟩ fun _ => false,
        .send ⟨1, (1, 1), (4, 1), 0⟩ fun _ => false].map fun x _ => some x)).any (fun x =>
      (x.1.all fun y =>
        match y.2 with
        | .send info busy => decide (MeetsMarking radio₂ y.1 (.send info busy))
        | _ => false) && (x.2.medium.collided 0 && x.2.medium.collided 1)) = true := by
    decide +kernel
  obtain ⟨tr, j, run, htest⟩ := run_of_exec hexec
  obtain ⟨hmeets, hmarks⟩ := Bool.and_eq_true_iff.1 htest
  refine ⟨tr, j, run, markedExactly_of_meets run fun x hx => ?_, Bool.and_eq_true_iff.1 hmarks⟩
  obtain ⟨s, act⟩ := x
  have hx' := List.all_eq_true.1 hmeets (s, act) hx
  cases act with
  | send info busy => exact of_decide_eq_true hx'
  | received packet idle => cases hx'
  | update d settings => cases hx'

/-- Device 1 sends copies of a broadcast to devices 4 and 2. The second is not judged, though device
3 is loud at its receiver. -/
theorem not_markedExactlyInRuns : ¬ MarkedExactlyInRuns ℚ := by
  intro h
  have hexec : (exec (JudgedMedium.step radio₂) (.init fun _ => settings₁)
      ([.send ⟨0, (3, 1), (4, 1), 0⟩ fun _ => false, .send ⟨1, (1, 1), (4, 1), 0⟩ fun _ => false,
        .send ⟨2, (1, 1), (2, 1), 0⟩ fun _ => false].map fun x _ => some x)).any (fun x =>
      decide (¬ MarkedExactly x.2)) = true := by
    decide +kernel
  obtain ⟨tr, j, run, htest⟩ := run_of_exec hexec
  exact of_decide_eq_true htest (h radio₂ (fun _ => settings₁) tr j run)

end NetSim.Wireless
