import NetSim.Dsr.MaintBuffer
import NetSim.Lib.Run

/-!
# The promises of route maintenance

One buffer for a next hop, source and destination, with one timer that counts; the retries and
errors are counted for the packet under the conditions of `Meets`.
-/

namespace NetSim.Dsr

open NetSim.Lib

def MaintBuffer.isEffective (buffer : MaintBuffer) : MaintEvent → Bool
  | .maintTimeout dEventTime source dest nextHop =>
    decide ((nextHop, source, dest) = buffer.key ∧ buffer.dAckTime ≤ dEventTime)
  | .networkOut .. => false

namespace MaintNode

/-- What holds of a node in every state. -/
structure Maintained (s : MaintNode) : Prop where
  unique : (s.pstruMaintBuffer.map MaintBuffer.key).Nodup
  timer : ∀ buffer ∈ s.pstruMaintBuffer, buffer.packetList ≠ [] →
    s.events.countP buffer.isEffective = 1
  retransmitted : ∀ packet ∈ s.transmitted, packet.sent.length ≤ 1 + maxMaintRexmt
  error : ∀ e ∈ s.errors, ∃ packet ∈ e.packetList,
    1 + maxMaintRexmt ≤ (packet.sent.filter fun x => x.1 = e.nextHop).length ∧
      ∀ x ∈ packet.sent, x.1 = e.nextHop → x ∉ e.acked

def AckExact (s : MaintNode) (nSourceId nIdentification : Nat) : Prop :=
  (s.processAckOption nSourceId nIdentification).pstruMaintBuffer =
    s.pstruMaintBuffer.map fun buffer =>
      { buffer with
        packetList := buffer.packetList.filter fun packet =>
          packet.nIdentification ≠ nIdentification }

/-- What holds of a step from `s`. -/
def StepExact (s : MaintNode) : Step → Prop
  | .ack _ nSourceId nIdentification => s.AckExact nSourceId nIdentification
  | _ => True

/-! ## When they hold -/

def out (s : MaintNode) : List MaintPacket :=
  s.events.filterMap fun
    | .networkOut _ packet => some packet
    | .maintTimeout .. => none

/-- A packet sent `sent` times before finds its buffer holding packets, or with its own count, and
not filled before in the same instant. -/
def CanRefill (s : MaintNode) (key : Nat × Nat × Nat) (sent : Nat) (dEventTime : ℚ) : Prop :=
  ∀ buffer ∈ s.pstruMaintBuffer, buffer.key = key → buffer.packetList = [] →
    buffer.dAckTime < dEventTime + maintHoldOffTime ∧
      (buffer.count = sent ∨ ∃ packet ∈ s.out, packet.key = key ∧
        packet.sent.length = buffer.count)

instance (s : MaintNode) (key : Nat × Nat × Nat) (sent : Nat) (dEventTime : ℚ) :
    Decidable (s.CanRefill key sent dEventTime) :=
  inferInstanceAs (Decidable (∀ buffer ∈ s.pstruMaintBuffer, _))

/-- The condition on a step from `s`. -/
def StepOk (s : MaintNode) : Step → Prop
  | .send _ _ _ _ none => True
  | .send dEventTime _ nSourceId dest (some nextHop) =>
    s.nIdentification + 1 < 2 ^ 32 ∧ s.CanRefill (nextHop, nSourceId, dest) 0 dEventTime
  | .handle (.maintTimeout ..) _ => True
  | .handle (.networkOut dEventTime packet) route =>
    s.nIdentification + 1 < 2 ^ 32 ∧ route = some packet.nReceiverId ∧
      s.CanRefill packet.key packet.sent.length dEventTime
  | .ack _ nSourceId nIdentification =>
    (∀ buffer ∈ s.pstruMaintBuffer, buffer.nextHop = nSourceId →
      ∀ packet ∈ buffer.packetList, packet.nIdentification = nIdentification) ∧
    ∀ packet ∈ s.out, (nSourceId, nIdentification) ∉ packet.sent
  | .others n => s.nIdentification + n < 2 ^ 32

instance (s : MaintNode) (a : Step) : Decidable (s.StepOk a) := by
  unfold StepOk
  split <;> infer_instance

/-! ## The invariant -/

/-- All transmissions of the packet went to the same next hop, and none has been acknowledged. -/
structure Held (s : MaintNode) (packet : MaintPacket) : Prop where
  transmitted : packet ∈ s.transmitted
  unacked : ∀ x ∈ packet.sent, x.1 = packet.nReceiverId ∧ x ∉ s.acked

structure Inv (s : MaintNode) : Prop where
  unique : (s.pstruMaintBuffer.map MaintBuffer.key).Nodup
  identified : (s.transmitted.map MaintPacket.nIdentification).Nodup
  lt_identification : ∀ packet ∈ s.transmitted, packet.nIdentification < s.nIdentification
  acked_lt : ∀ x ∈ s.acked, x.2 < s.nIdentification
  listed : ∀ buffer ∈ s.pstruMaintBuffer, ∀ packet ∈ buffer.packetList,
    packet.key = buffer.key ∧ packet.sent.length ≤ buffer.count + 1 ∧ s.Held packet
  count_le : ∀ buffer ∈ s.pstruMaintBuffer, buffer.count ≤ maxMaintRexmt
  out : ∀ t packet, .networkOut t packet ∈ s.events → t = s.now ∧ s.Held packet ∧
    ∃ buffer ∈ s.pstruMaintBuffer, buffer.key = packet.key ∧ packet.sent.length ≤ buffer.count ∧
      (buffer.packetList ≠ [] → s.now < buffer.dAckTime)
  counted : ∀ buffer ∈ s.pstruMaintBuffer, buffer.packetList ≠ [] →
    (∃ packet ∈ buffer.packetList, packet.sent.length = buffer.count + 1) ∨
      ∃ t packet, .networkOut t packet ∈ s.events ∧ packet.key = buffer.key ∧
        packet.sent.length = buffer.count
  timer_le : ∀ t source dest nextHop, .maintTimeout t source dest nextHop ∈ s.events →
    ∃ buffer ∈ s.pstruMaintBuffer, buffer.key = (nextHop, source, dest) ∧ t ≤ buffer.dAckTime
  dAckTime_le : ∀ buffer ∈ s.pstruMaintBuffer, buffer.dAckTime ≤ s.now + maintHoldOffTime
  timer : ∀ buffer ∈ s.pstruMaintBuffer, buffer.packetList ≠ [] →
    s.events.countP buffer.isEffective = 1
  retransmitted : ∀ packet ∈ s.transmitted, packet.sent.length ≤ 1 + maxMaintRexmt
  error : ∀ e ∈ s.errors, ∃ packet ∈ e.packetList,
    1 + maxMaintRexmt ≤ (packet.sent.filter fun x => x.1 = e.nextHop).length ∧
      ∀ x ∈ packet.sent, x.1 = e.nextHop → x ∉ e.acked

section

variable {s : MaintNode} {packet : MaintPacket} {dTime : ℚ}

theorem mem_out : packet ∈ s.out ↔ ∃ t, .networkOut t packet ∈ s.events := by
  unfold out
  rw [List.mem_filterMap]
  constructor
  · rintro ⟨event, hevent, h⟩
    cases event with
    | maintTimeout => cases h
    | networkOut t p =>
      cases h
      exact ⟨t, hevent⟩
  · rintro ⟨t, h⟩
    exact ⟨_, h, rfl⟩

theorem Inv.toMaintained (hs : s.Inv) : s.Maintained :=
  ⟨hs.unique, hs.timer, hs.retransmitted, hs.error⟩

variable {b c : MaintBuffer}

theorem Inv.eq_of_key (hs : s.Inv) (hb : b ∈ s.pstruMaintBuffer)
    (hc : c ∈ s.pstruMaintBuffer) (h : b.key = c.key) : b = c := by
  have hb' := lookup_of_mem hs.unique hb
  have hc' := lookup_of_mem hs.unique hc
  rw [h, hc', Option.some.injEq] at hb'
  exact hb'.symm

/-! ## Adding a packet -/

/-- What adding a packet does: `buffer` is its buffer afterwards, new, filled again or longer. -/
structure Added (s : MaintNode) (packet : MaintPacket) (dTime : ℚ) (s' : MaintNode)
    (buffer : MaintBuffer) : Prop where
  same : s'.now = s.now ∧ s'.nIdentification = s.nIdentification ∧
    s'.transmitted = s.transmitted ∧ s'.acked = s.acked ∧ s'.errors = s.errors
  unique : (s'.pstruMaintBuffer.map MaintBuffer.key).Nodup
  key : buffer.key = packet.key
  mem_iff : ∀ b, b ∈ s'.pstruMaintBuffer ↔ b = buffer ∨ b ∈ s.pstruMaintBuffer ∧ b.key ≠ packet.key
  cases :
    (buffer.packetList = [packet] ∧ buffer.dAckTime = dTime + maintHoldOffTime ∧
      s'.events = s.events ++ [.maintTimeout (dTime + maintHoldOffTime) packet.nSourceId packet.dest
        packet.nReceiverId] ∧
      ((buffer.count = 0 ∧ ∀ b ∈ s.pstruMaintBuffer, b.key ≠ packet.key) ∨
        ∃ b ∈ s.pstruMaintBuffer, b.key = packet.key ∧ b.packetList = [] ∧
          buffer.count = b.count)) ∨
    (∃ b ∈ s.pstruMaintBuffer, b.key = packet.key ∧ b.packetList ≠ [] ∧
      buffer = { b with packetList := b.packetList ++ [packet] } ∧ s'.events = s.events)

theorem addToMaintBuffer_added (packet : MaintPacket) (dTime : ℚ)
    (h : (s.pstruMaintBuffer.map MaintBuffer.key).Nodup) :
    ∃ buffer, s.Added packet dTime (s.addToMaintBuffer packet dTime) buffer := by
  unfold addToMaintBuffer
  cases hb : lookup MaintBuffer.key packet.key s.pstruMaintBuffer with
  | none =>
    have hnone := lookup_eq_none.1 hb
    refine ⟨⟨dTime + maintHoldOffTime, 0, packet.nReceiverId, packet.nSourceId, packet.dest, [packet]⟩,
      ⟨rfl, rfl, rfl, rfl, rfl⟩, nodup_append_single h hb, rfl, fun b => ?_,
      .inl ⟨rfl, rfl, rfl, .inl ⟨rfl, hnone⟩⟩⟩
    rw [List.mem_append, List.mem_singleton]
    constructor
    · rintro (hmem | rfl)
      · exact .inr ⟨hmem, hnone b hmem⟩
      · exact .inl rfl
    · rintro (rfl | ⟨hmem, -⟩)
      · exact .inr rfl
      · exact .inl hmem
  | some b =>
    obtain ⟨hmem, hkey⟩ := lookup_some hb
    dsimp only
    split
    · next hempty =>
      refine ⟨{ b with dAckTime := dTime + maintHoldOffTime, packetList := [packet] },
        ⟨rfl, rfl, rfl, rfl, rfl⟩, ?_, hkey, fun c => ?_,
        .inl ⟨rfl, rfl, rfl, .inr ⟨b, hmem, hkey, hempty, rfl⟩⟩⟩
      · exact nodup_modifyFirst (fun _ hc => hc) h
      · exact mem_modifyFirst_iff h (fun _ => rfl) hb
    · next hne =>
      refine ⟨{ b with packetList := b.packetList ++ [packet] }, ⟨rfl, rfl, rfl, rfl, rfl⟩, ?_, hkey,
        fun c => ?_, .inr ⟨b, hmem, hkey, hne, rfl, rfl⟩⟩
      · exact nodup_modifyFirst (fun _ hc => hc) h
      · exact mem_modifyFirst_iff h (fun _ => rfl) hb

variable {t : ℚ} {nextHop : Nat}

theorem isEffective_of_key_ne {source dest : Nat} (h : b.key ≠ (nextHop, source, dest)) :
    b.isEffective (.maintTimeout t source dest nextHop) = false :=
  decide_eq_false fun hk => h hk.1.symm

theorem Inv.noTimer (hs : s.Inv)
    (h : ∀ b ∈ s.pstruMaintBuffer, b.key = c.key → b.dAckTime < c.dAckTime) :
    s.events.countP c.isEffective = 0 := by
  refine List.countP_eq_zero.2 fun event hevent => ?_
  cases event with
  | networkOut => exact Bool.false_ne_true
  | maintTimeout t source dest nextHop =>
    intro heff
    obtain ⟨hk, hle⟩ := of_decide_eq_true heff
    obtain ⟨b, hb, hkey, ht⟩ := hs.timer_le _ _ _ _ hevent
    exact absurd (hle.trans ht) (not_le.2 (h b hb (hkey.trans hk)))

structure CanAdd (s : MaintNode) (packet : MaintPacket) : Prop where
  held : s.Held packet
  first : (∀ b ∈ s.pstruMaintBuffer, b.key ≠ packet.key) → packet.sent.length = 1
  le_count : ∀ b ∈ s.pstruMaintBuffer, b.key = packet.key → packet.sent.length ≤ b.count + 1
  refill : ∀ b ∈ s.pstruMaintBuffer, b.key = packet.key → b.packetList = [] →
    b.dAckTime < s.now + maintHoldOffTime ∧
      (packet.sent.length = b.count + 1 ∨ ∃ t p, .networkOut t p ∈ s.events ∧ p.key = packet.key ∧
        p.sent.length = b.count)

variable {s' : MaintNode}

theorem Inv.added (hs : s.Inv) (h : s.CanAdd packet) {buffer : MaintBuffer}
    (ha : s.Added packet s.now s' buffer) : s'.Inv := by
  obtain ⟨hnow, hid, htr, hack, herr⟩ := ha.same
  have hheld : ∀ p, s'.Held p ↔ s.Held p := fun p =>
    ⟨fun hp => ⟨htr ▸ hp.transmitted, hack ▸ hp.unacked⟩,
      fun hp => ⟨htr ▸ hp.transmitted, hack ▸ hp.unacked⟩⟩
  have hbuffer : buffer ∈ s'.pstruMaintBuffer := (ha.mem_iff _).2 (.inl rfl)
  have hout : ∀ t p, MaintEvent.networkOut t p ∈ s'.events ↔ .networkOut t p ∈ s.events := by
    intro t p
    rcases ha.cases with ⟨-, -, hev, -⟩ | ⟨-, -, -, -, -, hev⟩
    · rw [hev]
      simp
    · rw [hev]
  -- the buffer of the packet as it was
  have hold : ∀ b ∈ s.pstruMaintBuffer, b.key = packet.key →
      b.count = buffer.count ∧ b.dAckTime ≤ buffer.dAckTime ∧
        (b.packetList = [] ∧ buffer.dAckTime = s.now + maintHoldOffTime ∨
          b.packetList ≠ [] ∧ buffer = { b with packetList := b.packetList ++ [packet] }) := by
    intro b hb hkey
    rcases ha.cases with ⟨-, hack, -, ⟨-, hnone⟩ | ⟨c, hc, hckey, hempty, hcount⟩⟩ |
      ⟨c, hc, hckey, hne, heq, -⟩
    · exact absurd hkey (hnone b hb)
    · obtain rfl := hs.eq_of_key hb hc (hkey.trans hckey.symm)
      exact ⟨hcount.symm, hack ▸ hs.dAckTime_le b hb, .inl ⟨hempty, hack⟩⟩
    · obtain rfl := hs.eq_of_key hb hc (hkey.trans hckey.symm)
      exact ⟨by rw [heq], by rw [heq], .inr ⟨hne, heq⟩⟩
  have hself : ∀ b ∈ s.pstruMaintBuffer, ∃ c ∈ s'.pstruMaintBuffer,
      c.key = b.key ∧ c.count = b.count ∧ b.dAckTime ≤ c.dAckTime ∧
        (c = b ∨ c = buffer ∧ b.key = packet.key) := by
    intro b hb
    by_cases hkey : b.key = packet.key
    · obtain ⟨hcount, hle, -⟩ := hold b hb hkey
      exact ⟨buffer, hbuffer, ha.key.trans hkey.symm, hcount.symm, hle, .inr ⟨rfl, hkey⟩⟩
    · exact ⟨b, (ha.mem_iff b).2 (.inr ⟨hb, hkey⟩), rfl, rfl, le_rfl, .inl rfl⟩
  refine ⟨ha.unique, ?_, ?_, ?_, ?_, ?_, ?_, ?_, ?_, ?_, ?_, ?_, ?_⟩
  · rw [htr]
    exact hs.identified
  · rw [htr, hid]
    exact hs.lt_identification
  · rw [hack, hid]
    exact hs.acked_lt
  · intro b hb p hp
    rw [hheld]
    rcases (ha.mem_iff b).1 hb with rfl | ⟨hb, -⟩
    · rcases ha.cases with ⟨hlist, -, -, hcount⟩ | ⟨c, hc, hckey, -, rfl, -⟩
      · rw [hlist, List.mem_singleton] at hp
        subst hp
        refine ⟨ha.key.symm, ?_, h.held⟩
        rcases hcount with ⟨h0, hnone⟩ | ⟨c, hc, hckey, -, hcount⟩
        · rw [h0, h.first hnone]
        · rw [hcount]
          exact h.le_count c hc hckey
      · rcases List.mem_append.1 hp with hp | hp
        · exact hs.listed c hc p hp
        · rw [List.mem_singleton] at hp
          subst hp
          exact ⟨hckey.symm, h.le_count c hc hckey, h.held⟩
    · exact hs.listed b hb p hp
  · intro b hb
    rcases (ha.mem_iff b).1 hb with rfl | ⟨hb, -⟩
    · rcases ha.cases with ⟨-, -, -, ⟨h0, -⟩ | ⟨c, hc, -, -, hcount⟩⟩ | ⟨c, hc, -, -, rfl, -⟩
      · rw [h0]
        exact Nat.zero_le _
      · rw [hcount]
        exact hs.count_le c hc
      · exact hs.count_le c hc
    · exact hs.count_le b hb
  · intro t p hp
    obtain ⟨ht, hheldp, b, hb, hkey, hle, hlt⟩ := hs.out t p ((hout t p).1 hp)
    obtain ⟨c, hc, hckey, hccount, hcle, hcase⟩ := hself b hb
    refine ⟨ht.trans hnow.symm, (hheld p).2 hheldp, c, hc, hckey.trans hkey, hccount ▸ hle,
      fun hne => ?_⟩
    rw [hnow]
    rcases hcase with rfl | ⟨rfl, hbkey⟩
    · exact hlt hne
    · rcases (hold b hb hbkey).2.2 with ⟨-, hack⟩ | ⟨hne, -⟩
      · rw [hack]
        exact lt_add_of_pos_right _ (by norm_num [maintHoldOffTime])
      · exact (hlt hne).trans_le hcle
  · intro b hb hne
    simp only [hout]
    rcases (ha.mem_iff b).1 hb with rfl | ⟨hb, -⟩
    · rcases ha.cases with ⟨hlist, -, -, hcount⟩ | ⟨c, hc, hckey, hcne, rfl, -⟩
      · rcases hcount with ⟨h0, hnone⟩ | ⟨c, hc, hckey, hempty, hcount⟩
        · exact .inl ⟨packet, by simp [hlist], by rw [h0, h.first hnone]⟩
        · rw [hcount, ha.key]
          rcases (h.refill c hc hckey hempty).2 with hlen | hex
          · exact .inl ⟨packet, by simp [hlist], hlen⟩
          · exact .inr hex
      · rcases hs.counted c hc hcne with ⟨p, hp, hlen⟩ | hex
        · exact .inl ⟨p, List.mem_append_left _ hp, hlen⟩
        · exact .inr hex
    · exact hs.counted b hb hne
  · intro t source dest nextHop hev
    have hcase : MaintEvent.maintTimeout t source dest nextHop ∈ s.events ∨
        (t = buffer.dAckTime ∧ (nextHop, source, dest) = packet.key) := by
      rcases ha.cases with ⟨-, hack, heq, -⟩ | ⟨-, -, -, -, -, heq⟩
      · rw [heq, List.mem_append, List.mem_singleton] at hev
        refine hev.imp_right fun hev => ?_
        cases hev
        exact ⟨hack.symm, rfl⟩
      · exact .inl (heq ▸ hev)
    rcases hcase with hev | ⟨rfl, hkey⟩
    · obtain ⟨b, hb, hkey, ht⟩ := hs.timer_le _ _ _ _ hev
      obtain ⟨c, hc, hckey, -, hcle, -⟩ := hself b hb
      exact ⟨c, hc, hckey.trans hkey, ht.trans hcle⟩
    · exact ⟨buffer, hbuffer, ha.key.trans hkey.symm, le_rfl⟩
  · intro b hb
    rw [hnow]
    rcases (ha.mem_iff b).1 hb with rfl | ⟨hb, -⟩
    · rcases ha.cases with ⟨-, hack, -, -⟩ | ⟨c, hc, -, -, rfl, -⟩
      · exact hack.le
      · exact hs.dAckTime_le c hc
    · exact hs.dAckTime_le b hb
  · intro b hb hne
    rcases (ha.mem_iff b).1 hb with rfl | ⟨hb, hbkey⟩
    · rcases ha.cases with ⟨hlist, hack, heq, -⟩ | ⟨c, hc, -, hcne, rfl, heq⟩
      · have hzero : s.events.countP b.isEffective = 0 := by
          refine hs.noTimer fun c hc hkey => ?_
          rcases (hold c hc (hkey.trans ha.key)).2.2 with ⟨hempty, -⟩ | ⟨hcne, hbeq⟩
          · rw [hack]
            exact (h.refill c hc (hkey.trans ha.key) hempty).1
          · rw [hbeq] at hlist
            exact absurd (List.append_left_eq_self.1 hlist) hcne
        rw [heq, List.countP_append, hzero, List.countP_singleton, if_pos]
        exact decide_eq_true ⟨ha.key.symm, hack.le⟩
      · rw [heq]
        exact hs.timer c hc hcne
    · rcases ha.cases with ⟨-, -, heq, -⟩ | ⟨-, -, -, -, -, heq⟩
      · rw [heq, List.countP_append, hs.timer b hb hne, List.countP_singleton,
          isEffective_of_key_ne hbkey]
        rfl
      · rw [heq]
        exact hs.timer b hb hne
  · rw [htr]
    exact hs.retransmitted
  · rw [herr]
    exact hs.error

/-! ## Releasing packets -/

/-- What a handler does that releases packets: `g` leaves a buffer as it is or empties it. -/
structure Released (s s' : MaintNode) (g : MaintBuffer → MaintBuffer) : Prop where
  same : s'.now = s.now ∧ s'.nIdentification = s.nIdentification ∧ s'.transmitted = s.transmitted
  buffers : s'.pstruMaintBuffer = s.pstruMaintBuffer.map g
  key : ∀ b, (g b).key = b.key
  dAckTime : ∀ b, (g b).dAckTime = b.dAckTime
  count_le : ∀ b ∈ s.pstruMaintBuffer, (g b).count ≤ maxMaintRexmt
  list : ∀ b ∈ s.pstruMaintBuffer, (g b).packetList ≠ [] →
    (g b).packetList = b.packetList ∧ (g b).count = b.count ∧
      (∀ p ∈ b.packetList, s'.Held p) ∧
      s'.events.countP b.isEffective = s.events.countP b.isEffective
  out : ∀ t p, .networkOut t p ∈ s'.events → t = s.now ∧ s'.Held p ∧
    ∃ b ∈ s.pstruMaintBuffer, b.key = p.key ∧ p.sent.length ≤ (g b).count ∧
      ((g b).packetList ≠ [] → s.now < b.dAckTime)
  kept : ∀ t p, .networkOut t p ∈ s.events → .networkOut t p ∈ s'.events
  timer : ∀ t source dest nextHop, .maintTimeout t source dest nextHop ∈ s'.events →
    .maintTimeout t source dest nextHop ∈ s.events
  acked_lt : ∀ x ∈ s'.acked, x.2 < s.nIdentification
  error : ∀ e ∈ s'.errors, ∃ packet ∈ e.packetList,
    1 + maxMaintRexmt ≤ (packet.sent.filter fun x => x.1 = e.nextHop).length ∧
      ∀ x ∈ packet.sent, x.1 = e.nextHop → x ∉ e.acked

theorem isEffective_congr (hkey : c.key = b.key) (hack : c.dAckTime = b.dAckTime) :
    c.isEffective = b.isEffective := by
  funext event
  cases event with
  | networkOut => rfl
  | maintTimeout => simp only [MaintBuffer.isEffective, hkey, hack]

theorem Inv.released (hs : s.Inv) {g : MaintBuffer → MaintBuffer}
    (h : s.Released s' g) : s'.Inv := by
  obtain ⟨hnow, hid, htr⟩ := h.same
  have hmem : ∀ b, b ∈ s'.pstruMaintBuffer ↔ ∃ c ∈ s.pstruMaintBuffer, g c = b := by
    intro b
    rw [h.buffers, List.mem_map]
  refine ⟨?_, ?_, ?_, ?_, ?_, ?_, ?_, ?_, ?_, ?_, ?_, ?_, h.error⟩
  · have hkeys : s'.pstruMaintBuffer.map MaintBuffer.key =
        s.pstruMaintBuffer.map MaintBuffer.key := by
      rw [h.buffers, List.map_map]
      exact List.map_congr_left fun b _ => h.key b
    rw [hkeys]
    exact hs.unique
  · rw [htr]
    exact hs.identified
  · rw [htr, hid]
    exact hs.lt_identification
  · rw [hid]
    exact h.acked_lt
  · intro b hb p hp
    obtain ⟨c, hc, rfl⟩ := (hmem b).1 hb
    obtain ⟨hlist, hcount, hheld, -⟩ := h.list c hc (List.ne_nil_of_mem hp)
    rw [hlist] at hp
    obtain ⟨hkey, hle, -⟩ := hs.listed c hc p hp
    exact ⟨hkey.trans (h.key c).symm, hcount ▸ hle, hheld p hp⟩
  · intro b hb
    obtain ⟨c, hc, rfl⟩ := (hmem b).1 hb
    exact h.count_le c hc
  · intro t p hp
    obtain ⟨ht, hheld, b, hb, hkey, hle, hlt⟩ := h.out t p hp
    refine ⟨ht.trans hnow.symm, hheld, g b, (hmem _).2 ⟨b, hb, rfl⟩, (h.key b).trans hkey, hle,
      fun hne => ?_⟩
    rw [hnow, h.dAckTime]
    exact hlt hne
  · intro b hb hne
    obtain ⟨c, hc, rfl⟩ := (hmem b).1 hb
    obtain ⟨hlist, hcount, -, -⟩ := h.list c hc hne
    rw [hlist] at hne
    rw [hlist, hcount, h.key]
    refine (hs.counted c hc hne).imp_right ?_
    rintro ⟨t, p, hp, hpkey, hlen⟩
    exact ⟨t, p, h.kept t p hp, hpkey, hlen⟩
  · intro t source dest nextHop hev
    obtain ⟨b, hb, hkey, hle⟩ := hs.timer_le _ _ _ _ (h.timer _ _ _ _ hev)
    exact ⟨g b, (hmem _).2 ⟨b, hb, rfl⟩, (h.key b).trans hkey, (h.dAckTime b).symm ▸ hle⟩
  · intro b hb
    obtain ⟨c, hc, rfl⟩ := (hmem b).1 hb
    rw [h.dAckTime, hnow]
    exact hs.dAckTime_le c hc
  · intro b hb hne
    obtain ⟨c, hc, rfl⟩ := (hmem b).1 hb
    obtain ⟨hlist, -, -, htimer⟩ := h.list c hc hne
    rw [isEffective_congr (h.key c) (h.dAckTime c), htimer]
    exact hs.timer c hc (hlist ▸ hne)
  · rw [htr]
    exact hs.retransmitted

variable {event : MaintEvent}

theorem countP_erase_of_false {p : MaintEvent → Bool} {l : List MaintEvent}
    (h : p event = false) : (l.erase event).countP p = l.countP p := by
  induction l with
  | nil => rfl
  | cons a l ih =>
    rw [List.erase_cons]
    split
    · next ha =>
      rw [beq_iff_eq.1 ha, List.countP_cons_of_neg (h ▸ Bool.false_ne_true)]
    · rw [List.countP_cons, List.countP_cons, ih]

theorem Inv.ignore (hs : s.Inv) (hout : ∀ t p, event ≠ .networkOut t p)
    (h : ∀ b ∈ s.pstruMaintBuffer, b.packetList ≠ [] → b.isEffective event = false) :
    Inv { s with events := s.events.erase event } := by
  refine hs.released (g := id) ⟨⟨rfl, rfl, rfl⟩, (List.map_id _).symm, fun _ => rfl, fun _ => rfl,
    hs.count_le, fun b hb hne => ⟨rfl, rfl, fun p hp => ?_, countP_erase_of_false (h b hb hne)⟩,
    fun t p hp => ?_, fun t p hp => ?_, fun t _ _ _ hev => List.mem_of_mem_erase hev, hs.acked_lt,
    hs.error⟩
  · exact ⟨(hs.listed b hb p hp).2.2.transmitted, (hs.listed b hb p hp).2.2.unacked⟩
  · obtain ⟨ht, hheld, hb⟩ := hs.out t p (List.mem_of_mem_erase hp)
    exact ⟨ht, ⟨hheld.transmitted, hheld.unacked⟩, hb⟩
  · exact (List.mem_erase_of_ne (hout t p).symm).2 hp

theorem Inv.not_out (hs : s.Inv) (hb : b ∈ s.pstruMaintBuffer)
    (hne : b.packetList ≠ []) (hack : b.dAckTime ≤ s.now) {p : MaintPacket}
    (hp : .networkOut t p ∈ s.events) : p.key ≠ b.key := by
  intro hkey
  obtain ⟨-, -, c, hc, hckey, -, hlt⟩ := hs.out t p hp
  obtain rfl := hs.eq_of_key hc hb (hckey.trans hkey)
  exact absurd hack (not_le.2 (hlt hne))

theorem Inv.retransmit (hs : s.Inv) (hb : b ∈ s.pstruMaintBuffer)
    (hne : b.packetList ≠ []) (hack : b.dAckTime ≤ s.now) (hcount : b.count < maxMaintRexmt)
    (t : ℚ) :
    Inv { s with
      pstruMaintBuffer := modifyFirst MaintBuffer.key b.key
        (fun b => { b with count := b.count + 1, packetList := [] }) s.pstruMaintBuffer
      events := s.events.erase (.maintTimeout t b.source b.dest b.nextHop) ++
        retransmitBuffer b s.now } := by
  have heq : ∀ c ∈ s.pstruMaintBuffer, c.key = b.key → c = b := fun c hc h => hs.eq_of_key hc hb h
  refine hs.released
    (g := fun c => if c.key = b.key then { c with count := c.count + 1, packetList := [] } else c)
    ⟨⟨rfl, rfl, rfl⟩, modifyFirst_eq_map hs.unique, fun c => ?_, fun c => ?_, fun c hc => ?_,
      fun c hc hcne => ?_, fun t' p hp => ?_, fun t' p hp => ?_, fun t' _ _ _ hev => ?_, hs.acked_lt,
      hs.error⟩
  · split <;> rfl
  · split <;> rfl
  · split
    · next hkey =>
      obtain rfl := heq c hc hkey
      exact hcount
    · exact hs.count_le c hc
  · split at hcne
    · exact absurd rfl hcne
    · next hkey =>
      rw [if_neg hkey]
      refine ⟨rfl, rfl, fun p hp => ⟨(hs.listed c hc p hp).2.2.1, (hs.listed c hc p hp).2.2.2⟩, ?_⟩
      rw [List.countP_append, countP_erase_of_false (isEffective_of_key_ne hkey), retransmitBuffer,
        List.countP_map]
      exact Nat.add_eq_left.2 (List.countP_eq_zero.2 fun _ _ => Bool.false_ne_true)
  · rcases List.mem_append.1 hp with hp | hp
    · have hp' := List.mem_of_mem_erase hp
      obtain ⟨ht, hheld, c, hc, hckey, hle, hlt⟩ := hs.out t' p hp'
      refine ⟨ht, ⟨hheld.1, hheld.2⟩, c, hc, hckey, ?_⟩
      rw [if_neg (hckey ▸ hs.not_out hb hne hack hp')]
      exact ⟨hle, hlt⟩
    · obtain ⟨q, hq, heq⟩ := List.mem_map.1 hp
      cases heq
      obtain ⟨hkey, hle, hheld⟩ := hs.listed b hb p hq
      refine ⟨rfl, ⟨hheld.1, hheld.2⟩, b, hb, hkey.symm, ?_⟩
      rw [if_pos rfl]
      exact ⟨hle, fun h => absurd rfl h⟩
  · exact List.mem_append_left _ ((List.mem_erase_of_ne MaintEvent.noConfusion).2 hp)
  · rcases List.mem_append.1 hev with hev | hev
    · exact List.mem_of_mem_erase hev
    · obtain ⟨q, -, heq⟩ := List.mem_map.1 hev
      cases heq

theorem Inv.giveUp (hs : s.Inv) (hb : b ∈ s.pstruMaintBuffer)
    (hne : b.packetList ≠ []) (hack : b.dAckTime ≤ s.now) (hcount : ¬ b.count < maxMaintRexmt)
    (t : ℚ) :
    Inv (emptyMaintBuffer
      { (generateRERR
          { s with events := s.events.erase (.maintTimeout t b.source b.dest b.nextHop) } b) with
        pstruMaintBuffer := modifyFirst MaintBuffer.key b.key (fun b => { b with count := 0 })
          s.pstruMaintBuffer } b.nextHop) := by
  have hmax : b.count = maxMaintRexmt := Nat.le_antisymm (hs.count_le b hb) (Nat.le_of_not_lt hcount)
  let f := fun c : MaintBuffer => if c.key = b.key then { c with count := 0 } else c
  let g := fun c => if (f c).nextHop = b.nextHop then { f c with packetList := [] } else f c
  have hg : ∀ c, c.nextHop ≠ b.nextHop → g c = c := by
    intro c hc
    have hkey : c.key ≠ b.key := fun h => hc (congrArg Prod.fst h)
    simp only [g, f, if_neg hkey, if_neg hc]
  have hg' : ∀ c, c.nextHop = b.nextHop → (g c).packetList = [] := by
    intro c hc
    have hf : (f c).nextHop = b.nextHop := by
      simp only [f]
      split <;> exact hc
    simp only [g, if_pos hf]
  have hgcount : ∀ c, c.key ≠ b.key → (g c).count = c.count := by
    intro c hc
    simp only [g, f, if_neg hc]
    split <;> rfl
  refine hs.released (g := g) ⟨⟨rfl, rfl, rfl⟩, ?_, fun c => ?_, fun c => ?_, fun c hc => ?_,
      fun c hc hcne => ?_, fun t' p hp => ?_, fun t' p hp => ?_, fun t' _ _ _ hev => ?_, hs.acked_lt,
      fun e he => ?_⟩
  · show List.map _ (modifyFirst _ _ _ _) = _
    rw [modifyFirst_eq_map hs.unique, List.map_map]
    rfl
  · simp only [g, f]
    repeat' split <;> try rfl
  · simp only [g, f]
    repeat' split <;> try rfl
  · by_cases hkey : c.key = b.key
    · have : (g c).count = 0 := by
        simp only [g, f, if_pos hkey]
        split <;> rfl
      rw [this]
      exact Nat.zero_le _
    · rw [hgcount c hkey]
      exact hs.count_le c hc
  · have hhop : c.nextHop ≠ b.nextHop := fun h => hcne (hg' c h)
    have hkey : c.key ≠ b.key := fun h => hhop (congrArg Prod.fst h)
    rw [hg c hhop]
    exact ⟨rfl, rfl, fun p hp => ⟨(hs.listed c hc p hp).2.2.1, (hs.listed c hc p hp).2.2.2⟩,
      countP_erase_of_false (isEffective_of_key_ne hkey)⟩
  · have hp' := List.mem_of_mem_erase hp
    obtain ⟨ht, hheld, c, hc, hckey, hle, hlt⟩ := hs.out t' p hp'
    refine ⟨ht, ⟨hheld.1, hheld.2⟩, c, hc, hckey, ?_, fun hcne => ?_⟩
    · rw [hgcount c (hckey ▸ hs.not_out hb hne hack hp')]
      exact hle
    · have hhop : c.nextHop ≠ b.nextHop := fun h => hcne (hg' c h)
      rw [hg c hhop] at hcne
      exact hlt hcne
  · exact (List.mem_erase_of_ne MaintEvent.noConfusion).2 hp
  · exact List.mem_of_mem_erase hev
  · rcases List.mem_cons.1 he with rfl | he
    · rcases hs.counted b hb hne with ⟨p, hp, hlen⟩ | ⟨t', p, hp, hpkey, -⟩
      · obtain ⟨hkey, -, hheld⟩ := hs.listed b hb p hp
        have hhop : p.nReceiverId = b.nextHop := congrArg Prod.fst hkey
        refine ⟨p, hp, ?_, fun x hx _ => (hheld.unacked x hx).2⟩
        rw [List.filter_eq_self.2 fun x hx =>
          decide_eq_true ((hheld.unacked x hx).1.trans hhop), hlen, hmax, Nat.add_comm]
      · exact absurd hpkey (hs.not_out hb hne hack hp)
    · exact hs.error e he

theorem Inv.ack (hs : s.Inv) {nSourceId nIdentification : Nat} (hid : nIdentification < s.nIdentification)
    (hout : ∀ t p, .networkOut t p ∈ s.events → (nSourceId, nIdentification) ∉ p.sent) :
    Inv (s.processAckOption nSourceId nIdentification) := by
  refine hs.released
    (g := fun b => if b.nextHop = nSourceId then { b with packetList := [] } else b)
    ⟨⟨rfl, rfl, rfl⟩, rfl, fun c => ?_, fun c => ?_, fun c hc => ?_, fun c hc hcne => ?_,
      fun t p hp => ?_, fun t p hp => hp, fun t _ _ _ hev => hev, fun x hx => ?_, hs.error⟩
  · split <;> rfl
  · split <;> rfl
  · split <;> exact hs.count_le c hc
  · split at hcne
    · exact absurd rfl hcne
    · next hhop =>
      rw [if_neg hhop]
      refine ⟨rfl, rfl, fun p hp => ⟨(hs.listed c hc p hp).2.2.1, fun x hx => ?_⟩, rfl⟩
      obtain ⟨hkey, -, hheld⟩ := hs.listed c hc p hp
      refine ⟨(hheld.unacked x hx).1, fun hmem => ?_⟩
      rcases List.mem_cons.1 hmem with rfl | hmem
      · exact hhop ((congrArg Prod.fst hkey).symm.trans (hheld.unacked _ hx).1.symm)
      · exact (hheld.unacked x hx).2 hmem
  · obtain ⟨ht, hheld, c, hc, hckey, hle, hlt⟩ := hs.out t p hp
    refine ⟨ht, ⟨hheld.1, fun x hx => ⟨(hheld.2 x hx).1, fun hmem => ?_⟩⟩, c, hc, hckey, ?_, ?_⟩
    · rcases List.mem_cons.1 hmem with rfl | hmem
      · exact hout t p hp hx
      · exact (hheld.2 x hx).2 hmem
    · split <;> exact hle
    · split
      · exact fun h => absurd rfl h
      · exact hlt
  · rcases List.mem_cons.1 hx with rfl | hx
    · exact hid
    · exact hs.acked_lt x hx

theorem Inv.process (hs : s.Inv) (packet : MaintPacket) (hwrap : s.nIdentification + 1 < 2 ^ 32)
    (hsent : ∀ x ∈ packet.sent, x.1 = nextHop ∧ x ∉ s.acked)
    (hlen : packet.sent.length ≤ maxMaintRexmt)
    (hfirst : (∀ b ∈ s.pstruMaintBuffer, b.key ≠ (nextHop, packet.nSourceId, packet.dest)) →
      packet.sent = [])
    (hle : ∀ b ∈ s.pstruMaintBuffer, b.key = (nextHop, packet.nSourceId, packet.dest) →
      packet.sent.length ≤ b.count)
    (hrefill : s.CanRefill (nextHop, packet.nSourceId, packet.dest) packet.sent.length s.now) :
    let s' := s.generalPacketProcessing packet (some nextHop) s.now
    s'.Inv ∧ ∃ b ∈ s'.pstruMaintBuffer, b.key = (nextHop, packet.nSourceId, packet.dest) ∧
      ∃ p ∈ b.packetList, p.sent.length = packet.sent.length + 1 := by
  intro s'
  let p : MaintPacket :=
    { packet with
      nReceiverId := nextHop
      nIdentification := s.nIdentification
      sent := (nextHop, s.nIdentification) :: packet.sent }
  let s1 : MaintNode :=
    { s with
      nIdentification := (s.nIdentification + 1) % 2 ^ 32
      transmitted := p :: s.transmitted }
  have hid : s1.nIdentification = s.nIdentification + 1 := Nat.mod_eq_of_lt hwrap
  have hmono : ∀ q, s.Held q → s1.Held q := fun q hq =>
    ⟨List.mem_cons_of_mem _ hq.transmitted, hq.unacked⟩
  have hs1 : s1.Inv := by
    refine ⟨hs.unique, ?_, ?_, ?_, fun b hb q hq => ?_, hs.count_le, fun t q hq => ?_, hs.counted,
      hs.timer_le, hs.dAckTime_le, hs.timer, ?_, hs.error⟩
    · refine List.nodup_cons.2 ⟨fun hmem => ?_, hs.identified⟩
      obtain ⟨q, hq, heq⟩ := List.mem_map.1 hmem
      exact absurd heq (Nat.ne_of_lt (hs.lt_identification q hq))
    · intro q hq
      rw [hid]
      rcases List.mem_cons.1 hq with rfl | hq
      · exact Nat.lt_succ_self _
      · exact Nat.lt_succ_of_lt (hs.lt_identification q hq)
    · intro x hx
      rw [hid]
      exact Nat.lt_succ_of_lt (hs.acked_lt x hx)
    · obtain ⟨hkey, hlen, hheld⟩ := hs.listed b hb q hq
      exact ⟨hkey, hlen, hmono q hheld⟩
    · obtain ⟨ht, hheld, hb⟩ := hs.out t q hq
      exact ⟨ht, hmono q hheld, hb⟩
    · intro q hq
      rcases List.mem_cons.1 hq with rfl | hq
      · show (packet.sent.length + 1) ≤ _
        rw [Nat.add_comm]
        exact Nat.add_le_add_left hlen 1
      · exact hs.retransmitted q hq
  have hheld : s1.Held p := by
    refine ⟨List.mem_cons_self, fun x hx => ?_⟩
    rcases List.mem_cons.1 hx with rfl | hx
    · exact ⟨rfl, fun hmem => Nat.lt_irrefl _ (hs.acked_lt _ hmem)⟩
    · exact hsent x hx
  have hadd : s1.CanAdd p := by
    refine ⟨hheld, fun hnone => ?_, fun b hb hkey => ?_, fun b hb hkey hempty => ?_⟩
    · show packet.sent.length + 1 = 1
      rw [hfirst hnone]
      rfl
    · exact Nat.succ_le_succ (hle b hb hkey)
    · obtain ⟨hlt, hcount⟩ := hrefill b hb hkey hempty
      refine ⟨hlt, hcount.imp (fun h => by rw [h]; rfl) ?_⟩
      rintro ⟨q, hq, hq'⟩
      obtain ⟨t, ht⟩ := mem_out.1 hq
      exact ⟨t, q, ht, hq'⟩
  obtain ⟨buffer, ha⟩ := addToMaintBuffer_added p s.now hs1.unique
  refine ⟨hs1.added hadd ha, buffer, (ha.mem_iff _).2 (.inl rfl), ha.key, p, ?_, rfl⟩
  rcases ha.cases with ⟨hlist, -⟩ | ⟨b, -, -, -, rfl, -⟩
  · exact hlist ▸ List.mem_singleton_self p
  · exact List.mem_append_right _ (List.mem_singleton_self p)

theorem Inv.erase_out (hs : s.Inv) (hb : b ∈ s.pstruMaintBuffer)
    (hkey : b.key = packet.key) {p : MaintPacket} (hp : p ∈ b.packetList)
    (hlen : p.sent.length = packet.sent.length + 1) :
    Inv { s with events := s.events.erase (.networkOut t packet) } := by
  refine ⟨hs.unique, hs.identified, hs.lt_identification, hs.acked_lt, fun b hb q hq => ?_,
    hs.count_le, fun t q hq => ?_, fun c hc hne => ?_, fun t _ _ _ hev => ?_, hs.dAckTime_le,
    fun c hc hne => ?_, hs.retransmitted, hs.error⟩
  · obtain ⟨hkey, hlen, hheld⟩ := hs.listed b hb q hq
    exact ⟨hkey, hlen, hheld.1, hheld.2⟩
  · obtain ⟨ht, hheld, hb⟩ := hs.out t q (List.mem_of_mem_erase hq)
    exact ⟨ht, ⟨hheld.1, hheld.2⟩, hb⟩
  · rcases hs.counted c hc hne with hex | ⟨t', q, hq, hqkey, hqlen⟩
    · exact .inl hex
    · by_cases heq : MaintEvent.networkOut t' q = .networkOut t packet
      · cases heq
        obtain rfl := hs.eq_of_key hb hc (hkey.trans hqkey)
        exact .inl ⟨p, hp, hlen.trans (congrArg Nat.succ hqlen)⟩
      · exact .inr ⟨t', q, (List.mem_erase_of_ne heq).2 hq, hqkey, hqlen⟩
  · exact hs.timer_le _ _ _ _ (List.mem_of_mem_erase hev)
  · rw [countP_erase_of_false rfl]
    exact hs.timer c hc hne

/-! ## Steps -/

theorem Inv.advance (hs : s.Inv) (h : s.canHappenAt t = true) : Inv { s with now := t } := by
  obtain ⟨hnow, hevents⟩ := (Bool.and_eq_true _ _).mp h
  have hnow := of_decide_eq_true hnow
  have hevents : ∀ e ∈ s.events, t ≤ e.dEventTime := fun e he =>
    of_decide_eq_true (List.all_eq_true.1 hevents e he)
  refine ⟨hs.unique, hs.identified, hs.lt_identification, hs.acked_lt, fun b hb q hq => ?_,
    hs.count_le, fun t' q hq => ?_, hs.counted, hs.timer_le, fun b hb => ?_, hs.timer,
    hs.retransmitted, hs.error⟩
  · obtain ⟨hkey, hlen, hheld⟩ := hs.listed b hb q hq
    exact ⟨hkey, hlen, hheld.1, hheld.2⟩
  · obtain ⟨ht, hheld, b, hb, hkey, hle, hlt⟩ := hs.out t' q hq
    have heq : t' = t := le_antisymm (ht.le.trans hnow) (hevents _ hq)
    refine ⟨heq, ⟨hheld.1, hheld.2⟩, b, hb, hkey, hle, fun hne => ?_⟩
    rw [← heq, ht]
    exact hlt hne
  · exact (hs.dAckTime_le b hb).trans (add_le_add_left hnow _)

theorem generalPacketProcessing_erase (h : event ∈ s.events)
    (packet : MaintPacket) (route : Option Nat) (t : ℚ) :
    generalPacketProcessing { s with events := s.events.erase event } packet route t =
      { (s.generalPacketProcessing packet route t) with
        events := (s.generalPacketProcessing packet route t).events.erase event } := by
  cases route with
  | none => rfl
  | some nextHop =>
    simp only [generalPacketProcessing, addToMaintBuffer]
    split
    · split
      · simp only [List.erase_append_left _ h]
      · rfl
    · simp only [List.erase_append_left _ h]

theorem Inv.handleTimeout (hs : s.Inv) {source dest : Nat} :
    Inv (maintTimeout { s with events := s.events.erase (.maintTimeout s.now source dest nextHop) }
      s.now source dest nextHop) := by
  -- a timer that no buffer with packets waits for
  have hignore : (∀ b ∈ s.pstruMaintBuffer, b.key = (nextHop, source, dest) → b.packetList ≠ [] →
      ¬ b.dAckTime ≤ s.now) →
      Inv { s with events := s.events.erase (.maintTimeout s.now source dest nextHop) } := by
    intro h
    refine hs.ignore (fun _ _ => MaintEvent.noConfusion) fun b hb hne => ?_
    refine decide_eq_false fun heff => h b hb heff.1.symm hne heff.2
  unfold maintTimeout
  cases hb : lookup MaintBuffer.key (nextHop, source, dest) s.pstruMaintBuffer with
  | none =>
    exact hignore fun b hb' hkey => absurd hkey (lookup_eq_none.1 hb b hb')
  | some b =>
    obtain ⟨hmem, hkey⟩ := lookup_some hb
    dsimp only
    split
    · next hack =>
      split
      · next hempty =>
        refine hignore fun c hc hckey hne => ?_
        obtain rfl := hs.eq_of_key hc hmem (hckey.trans hkey.symm)
        exact absurd hempty hne
      · next hne =>
        cases hkey
        split
        · next hcount => exact hs.retransmit hmem hne hack hcount s.now
        · next hcount => exact hs.giveUp hmem hne hack hcount s.now
    · next hack =>
      refine hignore fun c hc hckey _ => ?_
      obtain rfl := hs.eq_of_key hc hmem (hckey.trans hkey.symm)
      exact hack

theorem Inv.step {a : Step} (hs : s.Inv) (hok : s.StepOk a) (h : s.step a = some s') : s'.Inv := by
  cases a with
  | send dEventTime nPacketId nSourceId dest route =>
    simp only [MaintNode.step] at h
    split at h
    · next hcan =>
      cases h
      have hadv := hs.advance hcan
      cases route with
      | none => exact hadv
      | some nextHop =>
        obtain ⟨hwrap, hrefill⟩ := hok
        exact (hadv.process (s := { s with now := dEventTime })
          ⟨nPacketId, nSourceId, dest, 0, 0, []⟩ hwrap (fun _ hx => nomatch hx)
          (Nat.zero_le _) (fun _ => rfl) (fun _ _ _ => Nat.zero_le _) hrefill).1
    · cases h
  | handle event route =>
    simp only [MaintNode.step] at h
    split at h
    · next hcan =>
      have hadv := hs.advance hcan.2
      cases event with
      | maintTimeout dEventTime source dest nextHop =>
        cases h
        exact hadv.handleTimeout
      | networkOut dEventTime packet =>
        obtain ⟨hwrap, rfl, hrefill⟩ := hok
        cases h
        obtain ⟨-, hheld, b, hb, hkey, hle, -⟩ := hadv.out _ _ hcan.1
        have hcount : ∀ c ∈ s.pstruMaintBuffer, c.key = packet.key → packet.sent.length ≤ c.count := by
          intro c hc hckey
          obtain rfl := hadv.eq_of_key hc hb (hckey.trans hkey.symm)
          exact hle
        obtain ⟨hinv, c, hc, hckey, p, hp, hlen⟩ :=
          hadv.process (s := { s with now := dEventTime }) packet hwrap hheld.unacked
            (hle.trans (hadv.count_le b hb)) (fun hnone => absurd hkey (hnone b hb)) hcount hrefill
        have heq := generalPacketProcessing_erase (s := { s with now := dEventTime }) hcan.1 packet
          (some packet.nReceiverId) dEventTime
        exact (congrArg Inv heq).mpr (hinv.erase_out hc hckey hp hlen)
    · cases h
  | ack dEventTime nSourceId nIdentification =>
    simp only [MaintNode.step] at h
    split at h
    · next hcan =>
      cases h
      obtain ⟨hcan, packet, hp, -, rfl⟩ := hcan
      exact (hs.advance hcan).ack (hs.lt_identification packet hp)
        fun t p hp => hok.2 p (mem_out.2 ⟨t, hp⟩)
    · cases h
  | others n =>
    cases h
    have hid : (s.nIdentification + n) % 2 ^ 32 = s.nIdentification + n := Nat.mod_eq_of_lt hok
    refine ⟨hs.unique, hs.identified, fun p hp => ?_, fun x hx => ?_, fun b hb q hq => ?_,
      hs.count_le, fun t q hq => ?_, hs.counted, hs.timer_le, hs.dAckTime_le, hs.timer,
      hs.retransmitted, hs.error⟩
    · rw [hid]
      exact (hs.lt_identification p hp).trans_le (Nat.le_add_right _ _)
    · rw [hid]
      exact (hs.acked_lt x hx).trans_le (Nat.le_add_right _ _)
    · obtain ⟨hkey, hlen, hheld⟩ := hs.listed b hb q hq
      exact ⟨hkey, hlen, hheld.1, hheld.2⟩
    · obtain ⟨ht, hheld, hb⟩ := hs.out t q hq
      exact ⟨ht, ⟨hheld.1, hheld.2⟩, hb⟩

theorem inv_start : start.Inv :=
  ⟨List.nodup_nil, List.nodup_nil, nofun, nofun, nofun, nofun, nofun, nofun, nofun, nofun, nofun,
    nofun, nofun⟩

theorem Inv.ackExact (hs : s.Inv) {nSourceId nIdentification : Nat}
    (hsent : ∃ packet ∈ s.transmitted,
      packet.nReceiverId = nSourceId ∧ packet.nIdentification = nIdentification)
    (h : ∀ b ∈ s.pstruMaintBuffer, b.nextHop = nSourceId →
      ∀ packet ∈ b.packetList, packet.nIdentification = nIdentification) :
    s.AckExact nSourceId nIdentification := by
  refine List.map_congr_left fun b hb => ?_
  split
  · next hhop =>
    have hnil : (b.packetList.filter fun p => p.nIdentification ≠ nIdentification) = [] :=
      List.filter_eq_nil_iff.2 fun p hp => by simp [h b hb hhop p hp]
    rw [hnil]
  · next hhop =>
    have hself : (b.packetList.filter fun p => p.nIdentification ≠ nIdentification) = b.packetList := by
      refine List.filter_eq_self.2 fun p hp => decide_eq_true fun heq => hhop ?_
      obtain ⟨q, hq, hrecv, hqid⟩ := hsent
      obtain ⟨hkey, -, hheld⟩ := hs.listed b hb p hp
      have hpq : p = q :=
        List.inj_on_of_nodup_map hs.identified hheld.transmitted hq (heq.trans hqid.symm)
      rw [← hrecv, ← hpq]
      exact (congrArg Prod.fst hkey).symm
    rw [hself]

end

end MaintNode

end NetSim.Dsr
