import NetSim.Rlc.BufferStatus

/-!
# What the buffer status counts (`LTENR_RLC.c`, `LTENR_RLC_UM.c`, `LTENR_RLC_AM.c`)

The buffer status of a UM or an AM entity is the payload that waits, reduced to 32 bits. That of a
TM entity is only as long as no grant finds payload.
-/

namespace NetSim.Rlc

open NetSim.Lib NetSim.Tcp

/-! ## Payload that waits -/

section BytesOn

variable {α : Type} (channel : α → LogicalChannel) (dPayload : α → Nat)

def bytesOn (l : List α) (c : LogicalChannel) : Nat :=
  ((l.filter (channel · = c)).map dPayload).sum

variable {l l' : List α} {c : LogicalChannel}

theorem bytesOn_nil : bytesOn channel dPayload [] c = 0 := rfl

theorem bytesOn_cons (a : α) : bytesOn channel dPayload (a :: l) c =
    (if channel a = c then dPayload a else 0) + bytesOn channel dPayload l c := by
  unfold bytesOn
  by_cases h : channel a = c
  · rw [if_pos h, List.filter_cons_of_pos (by simpa using h), List.map_cons, List.sum_cons]
  · rw [if_neg h, List.filter_cons_of_neg (by simpa using h), Nat.zero_add]

theorem bytesOn_append : bytesOn channel dPayload (l ++ l') c =
    bytesOn channel dPayload l c + bytesOn channel dPayload l' c := by
  unfold bytesOn
  rw [List.filter_append, List.map_append, List.sum_append]

theorem bytesOn_perm (h : l.Perm l') : bytesOn channel dPayload l c = bytesOn channel dPayload l' c :=
  ((h.filter _).map _).sum_eq

theorem bytesOn_filter_le (p : α → Bool) :
    bytesOn channel dPayload (l.filter p) c ≤ bytesOn channel dPayload l c := by
  induction l with
  | nil => exact Nat.le_refl _
  | cons a l ih =>
    rw [List.filter_cons, bytesOn_cons]
    split
    · rw [bytesOn_cons]
      exact Nat.add_le_add_left ih _
    · exact Nat.le_add_left_of_le ih

end BytesOn

def TmTransmitter.waiting (s : TmTransmitter) : LogicalChannel → Nat :=
  bytesOn TmBuffer.channel TmBuffer.dPayload s.transmissionBuffer

def UmTransmitter.waiting (s : UmTransmitter) : LogicalChannel → Nat :=
  bytesOn UmBuffer.channel UmBuffer.dPayload s.transmissionBuffer

def amBytes (l : List RlcBuffer) : LogicalChannel → Nat :=
  bytesOn RlcBuffer.channel RlcBuffer.dPayload l

def TransmittingEntity.waiting (s : TransmittingEntity) (c : LogicalChannel) : Nat :=
  amBytes s.transmissionBuffer c + amBytes s.retransmissionBuffer c

/-! ## Counting -/

def Counts (status : BufferStatus) (waiting : LogicalChannel → Nat) : Prop :=
  ∀ c, status c = u32 (waiting c)

section Counts

variable {status : BufferStatus} {waiting waiting' : LogicalChannel → Nat}
  {channel : LogicalChannel} {n : Nat}

theorem Counts.eq (h : Counts status waiting) {c : LogicalChannel} (hlt : waiting c < 2 ^ 32) :
    status c = waiting c := (h c).trans (u32_of_lt hlt)

theorem Counts.congr (h : Counts status waiting) (heq : ∀ c, waiting' c = waiting c) :
    Counts status waiting' := by
  intro c
  rw [heq c]
  exact h c

theorem u32_add_u32 (a b : Nat) : u32 (u32 a + b) = u32 (a + b) := by
  unfold u32
  omega

theorem sub32_u32_add (a b : Nat) : sub32 (u32 (a + b)) b = u32 a := by
  unfold sub32 u32
  omega

theorem Counts.add (h : Counts status waiting)
    (heq : ∀ c, waiting' c = waiting c + if channel = c then n else 0) :
    Counts (status.add channel n) waiting' := by
  intro c
  unfold BufferStatus.add
  rw [heq c]
  by_cases hc : c = channel
  · rw [if_pos hc, if_pos hc.symm, h c, u32_add_u32]
  · rw [if_neg hc, if_neg (Ne.symm hc), Nat.add_zero, h c]

theorem Counts.sub (h : Counts status waiting)
    (heq : ∀ c, waiting c = waiting' c + if channel = c then n else 0) :
    Counts (status.sub channel n) waiting' := by
  intro c
  unfold BufferStatus.sub
  by_cases hc : c = channel
  · have hw := heq c
    rw [if_pos hc.symm] at hw
    rw [if_pos hc, h c, hw, sub32_u32_add]
  · have hw := heq c
    rw [if_neg (Ne.symm hc), Nat.add_zero] at hw
    rw [if_neg hc, h c, hw]

end Counts

/-! ## UM entities -/

namespace UmAccount

def IsCounted (s : UmAccount) : Prop := Counts s.bufferStatus s.entity.waiting

variable {s : UmAccount}

theorem counts_sendPdus (channel : LogicalChannel) (s : UmAccount) (left : Nat) (l : List UmBuffer)
    (other : LogicalChannel → Nat)
    (h : Counts s.bufferStatus fun c => bytesOn UmBuffer.channel UmBuffer.dPayload l c + other c) :
    (Counts (sendPdus channel s left l).1.bufferStatus fun c =>
        bytesOn UmBuffer.channel UmBuffer.dPayload (sendPdus channel s left l).2 c + other c) ∧
      ∀ c, bytesOn UmBuffer.channel UmBuffer.dPayload (sendPdus channel s left l).2 c ≤
        bytesOn UmBuffer.channel UmBuffer.dPayload l c := by
  induction l generalizing s left other with
  | nil => exact ⟨h, fun c => Nat.le_refl _⟩
  | cons b l ih =>
    unfold sendPdus
    split
    · obtain ⟨hcounts, hle⟩ := ih s left
        (fun c => (if b.channel = c then b.dPayload else 0) + other c)
        (h.congr fun c => by rw [bytesOn_cons]; omega)
      refine ⟨hcounts.congr fun c => ?_, fun c => ?_⟩
      · rw [bytesOn_cons]
        omega
      · rw [bytesOn_cons, bytesOn_cons]
        exact Nat.add_le_add_left (hle c) _
    · next hchannel =>
      have hchannel : b.channel = channel := not_not.1 hchannel
      split
      · exact ⟨h, fun c => Nat.le_refl _⟩
      · split
        · next hcut =>
          simp only [UmTransmitter.isCut, Bool.and_eq_true, decide_eq_true_eq] at hcut
          have hpdu : (b.fragment left s.entity.TX_Next).1.dPayload = left := by
            unfold UmBuffer.fragment
            split <;> rfl
          have hrest : (b.fragment left s.entity.TX_Next).2.channel = b.channel ∧
              (b.fragment left s.entity.TX_Next).2.dPayload = b.dPayload - left := by
            unfold UmBuffer.fragment
            split <;> exact ⟨rfl, rfl⟩
          refine ⟨h.sub fun c => ?_, fun c => ?_⟩
          · rw [bytesOn_cons, bytesOn_cons, hpdu, hrest.1, hrest.2, hchannel]
            split <;> omega
          · rw [bytesOn_cons, bytesOn_cons, hrest.1, hrest.2]
            split <;> omega
        · obtain ⟨hcounts, hle⟩ := ih ⟨s.entity.sendLast b, s.bufferStatus.sub channel b.dPayload⟩
            (sub32 left b.dPayload) other (h.sub fun c => by
              rw [bytesOn_cons, hchannel]
              omega)
          refine ⟨hcounts, fun c => ?_⟩
          rw [bytesOn_cons]
          exact Nat.le_add_left_of_le (hle c)

theorem IsCounted.step (h : s.IsCounted) (e : UmEvent) : (s.step e).IsCounted := by
  cases e with
  | upper channel isUplane nPacketId dPayload =>
    refine Counts.add h fun c => ?_
    change bytesOn _ _ (_ ++ [_]) c = bytesOn _ _ _ c + _
    rw [bytesOn_append, bytesOn_cons, bytesOn_nil]
    rfl
  | grant size channel =>
    exact (counts_sendPdus channel s size s.entity.transmissionBuffer (fun _ => 0)
      (h.congr fun _ => Nat.add_zero _)).1.congr fun _ => (Nat.add_zero _).symm

theorem waiting_grant_le (h : s.IsCounted) (size : Nat) (channel c : LogicalChannel) :
    (s.sendPdu size channel).entity.waiting c ≤ s.entity.waiting c :=
  (counts_sendPdus channel s size s.entity.transmissionBuffer (fun _ => 0)
    (h.congr fun _ => Nat.add_zero _)).2 c

end UmAccount

/-! ## AM entities -/

theorem amBytes_append (l l' : List RlcBuffer) (c : LogicalChannel) :
    amBytes (l ++ l') c = amBytes l c + amBytes l' c := bytesOn_append _ _

theorem amBytes_cons (b : RlcBuffer) (l : List RlcBuffer) (c : LogicalChannel) :
    amBytes (b :: l) c = (if b.channel = c then b.dPayload else 0) + amBytes l c :=
  bytesOn_cons _ _ b

theorem amBytes_fragment (b : RlcBuffer) (left : Nat) (c : LogicalChannel) :
    (if b.channel = c then (b.fragment left).1.dPayload else 0) +
      amBytes (b.fragment left).2.toList c = if b.channel = c then b.dPayload else 0 := by
  unfold RlcBuffer.fragment
  by_cases hcut : left < b.dPayload
  · rw [if_pos hcut]
    rw [Option.toList_some, amBytes_cons]
    by_cases hc : b.channel = c
    · rw [if_pos hc, if_pos hc, if_pos hc]
      exact Nat.add_sub_cancel' (Nat.le_of_lt hcut)
    · rw [if_neg hc, if_neg hc, if_neg hc]
      rfl
  · rw [if_neg hcut]
    exact Nat.add_zero _

namespace AmAccount

def IsCounted (s : AmAccount) : Prop := Counts s.bufferStatus s.entity.waiting

variable {s s' s'' : AmAccount}

structure Spends (s s' : AmAccount) : Prop where
  counted : s.IsCounted → s'.IsCounted
  waiting_le : ∀ c, s'.entity.waiting c ≤ s.entity.waiting c

theorem Spends.refl (s : AmAccount) : Spends s s := ⟨id, fun _ => Nat.le_refl _⟩

theorem Spends.trans (h : Spends s s') (h' : Spends s' s'') : Spends s s'' :=
  ⟨fun hs => h'.counted (h.counted hs), fun c => (h'.waiting_le c).trans (h.waiting_le c)⟩

theorem Spends.round {t : TransmittingEntity} {channel : LogicalChannel} {n : Nat}
    (heq : ∀ c, s.entity.waiting c = t.waiting c + if channel = c then n else 0) :
    Spends s ⟨t, s.bufferStatus.sub channel n⟩ :=
  ⟨fun hs => Counts.sub hs heq, fun c => by rw [heq c]; exact Nat.le_add_right _ _⟩

theorem spends_retransmission (channel : LogicalChannel) (n : Nat) (s : AmAccount) (left : Nat) :
    Spends s (sendPDUFromRetransmissionBuffer channel n s left).1 := by
  induction n generalizing s left with
  | zero => exact .refl s
  | succ n ih =>
    unfold sendPDUFromRetransmissionBuffer
    split
    · exact .refl s
    · next pre buf post hsplit =>
      obtain ⟨hlist, hstop, -⟩ := splitFirst_some hsplit
      simp only [TransmittingEntity.retransmits, Bool.and_eq_true, decide_eq_true_eq] at hstop
      split
      · exact .refl s
      · refine (Spends.round fun c => ?_).trans (ih _ _)
        obtain ⟨-, -, htransmission, hretx, -⟩ :=
          TransmittingEntity.sent_sendAgain s.entity pre buf post
        unfold TransmittingEntity.waiting
        rw [htransmission, hretx, hlist, amBytes_append, amBytes_append, amBytes_cons, hstop.1]
        omega

theorem spends_transmission (channel : LogicalChannel) (n : Nat) (s : AmAccount) (left : Nat) :
    Spends s (sendPDUFromTransmissionBuffer channel n s left).1 := by
  induction n generalizing s left with
  | zero => exact .refl s
  | succ n ih =>
    unfold sendPDUFromTransmissionBuffer
    split
    · exact .refl s
    · next pre buf post hsplit =>
      obtain ⟨hlist, hstop, -⟩ := splitFirst_some hsplit
      simp only [TransmittingEntity.transmits, Bool.and_eq_true, decide_eq_true_eq] at hstop
      split
      · exact .refl s
      · refine (Spends.round fun c => ?_).trans (ih _ _)
        obtain ⟨-, -, htransmission, hretx, -⟩ :=
          TransmittingEntity.sent_sendNew s.entity left pre buf post
        have hparts := amBytes_fragment buf left c
        unfold TransmittingEntity.waiting
        rw [htransmission, hretx, hlist, amBytes_append, amBytes_append, amBytes_append,
          amBytes_cons, ← hstop.1]
        omega

theorem spends_sendPdu (s : AmAccount) (size : Nat) (channel : LogicalChannel) :
    Spends s (s.sendPdu size channel) :=
  (spends_retransmission channel _ s size).trans (spends_transmission channel _ _ _)

/-! ### What goes to the retransmission buffer -/

theorem IsCounted.movePacketFromTransmittedBuffer (h : s.IsCounted) (b : RlcBuffer) :
    (s.movePacketFromTransmittedBuffer b).IsCounted := by
  unfold AmAccount.movePacketFromTransmittedBuffer
  split
  · exact h
  · next hcount =>
    refine Counts.add h fun c => ?_
    unfold TransmittingEntity.movePacketFromTransmittedBuffer TransmittingEntity.waiting
    rw [if_neg hcount]
    rw [amBytes_append, amBytes_cons]
    exact (Nat.add_assoc _ _ _).symm

theorem isCounted_foldl {α : Type} {f : AmAccount → α → AmAccount} (l : List α)
    (hround : ∀ s a, s.IsCounted → (f s a).IsCounted) (s : AmAccount) (h : s.IsCounted) :
    (l.foldl f s).IsCounted := by
  induction l generalizing s with
  | nil => exact h
  | cons a l ih => exact ih (f s a) (hround s a h)

theorem IsCounted.updateBufferBasedOnNACK0 (h : s.IsCounted) (sn : Nat) :
    (s.updateBufferBasedOnNACK0 sn).IsCounted :=
  isCounted_foldl _ (fun _ b hs => hs.movePacketFromTransmittedBuffer b) _ h

theorem IsCounted.nackOffset (h : s.IsCounted) (sn so : Nat) : (nackOffset sn s so).IsCounted := by
  unfold AmAccount.nackOffset
  split
  · exact h
  · next pre b post _ =>
    have hrest : IsCounted { s with entity := { s.entity with transmittedBuffer := pre ++ post } } :=
      h
    exact hrest.movePacketFromTransmittedBuffer b

theorem IsCounted.handleNack (h : s.IsCounted) {n : Nack} (hs : s.handleNack n = some s') :
    s'.IsCounted := by
  unfold AmAccount.handleNack at hs
  split at hs
  · dsimp only at hs
    split at hs
    · rw [← Option.some.inj hs]
      exact isCounted_foldl _ (fun _ sn h => h.updateBufferBasedOnNACK0 sn) s h
    · cases hs
  · split at hs
    · split at hs
      · rw [← Option.some.inj hs]
        exact isCounted_foldl _ (fun _ so h => h.nackOffset n.NAck_SN so) s h
      · cases hs
    · rw [← Option.some.inj hs]
      exact h.updateBufferBasedOnNACK0 n.NAck_SN

theorem IsCounted.handleNacks {nacks : List Nack} (h : s.IsCounted)
    (hs : nacks.foldlM AmAccount.handleNack s = some s') : s'.IsCounted := by
  induction nacks generalizing s with
  | nil =>
    rw [← Option.some.inj hs]
    exact h
  | cons n nacks ih =>
    obtain ⟨t, ht, hs⟩ := Option.bind_eq_some_iff.1 hs
    exact ih (h.handleNack ht) hs

variable {pdu : StatusPdu}

theorem waiting_receiveStatusPdu (hs : s.receiveStatusPdu pdu = some s') :
    ∃ t, pdu.nacks.foldlM handleNack s = some t ∧ s'.bufferStatus = t.bufferStatus ∧
      ∀ c, s'.entity.waiting c = t.entity.waiting c := by
  obtain ⟨t, ht, rfl⟩ := Option.map_eq_some_iff.1 hs
  refine ⟨t, ht, rfl, fun c => ?_⟩
  dsimp only
  split <;> rfl

theorem IsCounted.receiveStatusPdu (h : s.IsCounted)
    (hs : s.receiveStatusPdu pdu = some s') : s'.IsCounted := by
  obtain ⟨t, ht, hstatus, hwaiting⟩ := waiting_receiveStatusPdu hs
  unfold IsCounted
  rw [hstatus]
  exact (h.handleNacks ht).congr hwaiting

theorem counts_foldl_add (l : List RlcBuffer) {status : BufferStatus}
    {waiting : LogicalChannel → Nat} (h : Counts status waiting) :
    Counts (l.foldl (fun status b => status.add b.channel b.dPayload) status)
      fun c => waiting c + amBytes l c := by
  induction l generalizing status waiting with
  | nil => exact h
  | cons b l ih =>
    refine (ih (h.add fun c => rfl)).congr fun c => ?_
    rw [amBytes_cons, Nat.add_assoc]

theorem waiting_handlePollRetransmitTimer (s : AmAccount) (c : LogicalChannel) :
    s.handlePollRetransmitTimer.entity.waiting c =
      s.entity.waiting c + amBytes (polled s.entity) c := by
  unfold handlePollRetransmitTimer TransmittingEntity.handlePollRetransmitTimer
    TransmittingEntity.waiting
  rw [amBytes_append, ← Nat.add_assoc]
  rfl

theorem IsCounted.handlePollRetransmitTimer (h : s.IsCounted) :
    s.handlePollRetransmitTimer.IsCounted :=
  (counts_foldl_add (polled s.entity) h).congr s.waiting_handlePollRetransmitTimer

theorem IsCounted.step (h : s.IsCounted) {e : TxEvent} (hs : s.step e = some s') :
    s'.IsCounted := by
  cases e with
  | upper channel nPacketId dPayload =>
    rw [← Option.some.inj hs]
    refine Counts.add h fun c => ?_
    change amBytes (_ ++ [_]) c + amBytes _ c = amBytes _ c + amBytes _ c + _
    rw [amBytes_append, amBytes_cons]
    exact Nat.add_right_comm _ _ _
  | grant size channel =>
    rw [← Option.some.inj hs]
    exact (spends_sendPdu s size channel).counted h
  | statusPdu pdu => exact h.receiveStatusPdu hs
  | pollRetransmitTimeout =>
    obtain ⟨-, heq⟩ := Option.ite_none_right_eq_some.1 hs
    rw [← Option.some.inj heq]
    exact h.handlePollRetransmitTimer

/-! ### The entity without its status -/

theorem entity_movePacketFromTransmittedBuffer (s : AmAccount) (b : RlcBuffer) :
    (s.movePacketFromTransmittedBuffer b).entity = s.entity.movePacketFromTransmittedBuffer b := by
  unfold movePacketFromTransmittedBuffer TransmittingEntity.movePacketFromTransmittedBuffer
  by_cases hcount : b.retxCount = s.entity.maxRetxThreshold
  · rw [if_pos hcount, if_pos hcount]
  · rw [if_neg hcount, if_neg hcount]

theorem entity_updateBufferBasedOnNACK0 (s : AmAccount) (sn : Nat) :
    (s.updateBufferBasedOnNACK0 sn).entity = s.entity.updateBufferBasedOnNACK0 sn :=
  (List.foldl_hom AmAccount.entity fun s b => (entity_movePacketFromTransmittedBuffer s b).symm).symm

theorem entity_nackOffset (s : AmAccount) (sn so : Nat) :
    (nackOffset sn s so).entity = TransmittingEntity.nackOffset sn s.entity so := by
  unfold nackOffset TransmittingEntity.nackOffset
  cases splitFirst (fun b => decide (b.SN = sn) && decide (b.SO = so))
      s.entity.transmittedBuffer with
  | none => rfl
  | some r => exact entity_movePacketFromTransmittedBuffer _ _

theorem entity_handleNack (s : AmAccount) (n : Nack) :
    (s.handleNack n).map AmAccount.entity = s.entity.handleNack n := by
  unfold handleNack TransmittingEntity.handleNack TransmittingEntity.updateBufferBasedOnNACK1
    TransmittingEntity.updateBufferBasedOnNACK2
  dsimp only
  by_cases hE3 : n.E3 = true
  · rw [if_pos hE3, if_pos hE3]
    split
    · exact congrArg some (List.foldl_hom AmAccount.entity fun s sn =>
        (entity_updateBufferBasedOnNACK0 s sn).symm).symm
    · rfl
  · rw [if_neg hE3, if_neg hE3]
    split
    · split
      · exact congrArg some (List.foldl_hom AmAccount.entity fun s so =>
          (entity_nackOffset s n.NAck_SN so).symm).symm
      · rfl
    · exact congrArg some (entity_updateBufferBasedOnNACK0 s n.NAck_SN)

theorem entity_handleNacks {nacks : List Nack} (hs : nacks.foldlM handleNack s = some s') :
    nacks.foldlM TransmittingEntity.handleNack s.entity = some s'.entity := by
  induction nacks generalizing s with
  | nil =>
    rw [← Option.some.inj hs]
    rfl
  | cons n nacks ih =>
    rw [List.foldlM_cons] at hs ⊢
    obtain ⟨t, ht, hs⟩ := Option.bind_eq_some_iff.1 hs
    rw [← entity_handleNack, ht]
    exact ih hs

/-! ### How much comes to wait -/

def resent (s : TransmittingEntity) : TxEvent → List RlcBuffer
  | .upper _ _ _ => []
  | .grant _ _ => []
  | .statusPdu pdu => s.transmittedBuffer.filter fun b =>
      b.retxCount ≠ s.maxRetxThreshold && pdu.nacks.any (TransmittingEntity.isNamed · b)
  | .pollRetransmitTimeout => polled s

def brought (s : TransmittingEntity) (e : TxEvent) (c : LogicalChannel) : Nat :=
  match e with
  | .upper channel _ dPayload => if channel = c then dPayload else 0
  | _ => amBytes (resent s e) c

theorem amBytes_map_again (l : List RlcBuffer) (c : LogicalChannel) :
    amBytes (l.map RlcBuffer.again) c = amBytes l c := by
  induction l with
  | nil => rfl
  | cons b l ih =>
    rw [List.map_cons, amBytes_cons, amBytes_cons, ih]
    rfl

theorem waiting_receiveStatusPdu_le (hs : s.receiveStatusPdu pdu = some s')
    (c : LogicalChannel) :
    s'.entity.waiting c ≤ s.entity.waiting c + amBytes (resent s.entity (.statusPdu pdu)) c := by
  obtain ⟨t, ht, -, hwaiting⟩ := waiting_receiveStatusPdu hs
  have hnacks := entity_handleNacks ht
  have hsame := (TransmittingEntity.nacked_nacks hnacks).transmissionBuffer
  obtain ⟨t', ht', moved, hmoved, hnamed, -⟩ := TransmittingEntity.handleNacks_of_ends
    (TransmittingEntity.ends_of_handleNacks hnacks) s.entity
  obtain rfl : t.entity = t' := Option.some.inj (hnacks.symm.trans ht')
  rw [hwaiting c]
  unfold TransmittingEntity.waiting
  rw [hsame, hmoved.retransmissionBuffer, amBytes_append, amBytes_map_again, ← Nat.add_assoc]
  apply Nat.add_le_add_left
  -- All that is moved is named, and is in the transmitted buffer.
  have hfilter : (moved.filter fun b => b.retxCount ≠ s.entity.maxRetxThreshold) =
      moved.filter fun b => b.retxCount ≠ s.entity.maxRetxThreshold &&
        pdu.nacks.any (TransmittingEntity.isNamed · b) := by
    refine List.filter_congr fun b hb => ?_
    obtain ⟨n, hn, hname⟩ := hnamed b hb
    have hany : pdu.nacks.any (TransmittingEntity.isNamed · b) = true :=
      List.any_eq_true.2 ⟨n, hn, TransmittingEntity.isNamed_iff.2 hname⟩
    rw [hany, Bool.and_true]
  rw [hfilter]
  unfold resent amBytes
  rw [bytesOn_perm _ _ (hmoved.transmittedBuffer.filter _), List.filter_append, bytesOn_append]
  exact Nat.le_add_right _ _

theorem waiting_step_le {e : TxEvent} (hs : s.step e = some s') (c : LogicalChannel) :
    s'.entity.waiting c ≤ s.entity.waiting c + brought s.entity e c := by
  cases e with
  | upper channel nPacketId dPayload =>
    rw [← Option.some.inj hs]
    change amBytes (_ ++ [_]) c + amBytes _ c ≤ amBytes _ c + amBytes _ c +
      if channel = c then dPayload else 0
    rw [amBytes_append, amBytes_cons]
    exact Nat.le_of_eq (Nat.add_right_comm _ _ _)
  | grant size channel =>
    rw [← Option.some.inj hs]
    exact Nat.le_add_right_of_le ((spends_sendPdu s size channel).waiting_le c)
  | statusPdu pdu => exact waiting_receiveStatusPdu_le hs c
  | pollRetransmitTimeout =>
    obtain ⟨-, heq⟩ := Option.ite_none_right_eq_some.1 hs
    rw [← Option.some.inj heq]
    exact Nat.le_of_eq (s.waiting_handlePollRetransmitTimer c)

end AmAccount

/-! ## All entities of a link -/

namespace Transmitters

/-- The status of each entity is the payload that waits, for every channel. -/
structure Exact (s : Transmitters) : Prop where
  tm : ∀ c, s.tm.bufferStatus c = s.tm.waiting c
  um : ∀ c, s.um.bufferStatus c = s.um.entity.waiting c
  am : ∀ c, s.am.bufferStatus c = s.am.entity.waiting c

/-- No grant of the TM entity finds payload, and what waits does not come to 2³² bytes. -/
def Safe (s : Transmitters) : TransmitterEvent → Prop
  | .tm (.upper b) => s.tm.waiting b.channel + b.dPayload < 2 ^ 32
  | .tm (.grant _ channel) => s.tm.waiting channel = 0
  | .um (.upper channel _ _ dPayload) => s.um.entity.waiting channel + dPayload < 2 ^ 32
  | .um (.grant _ _) => True
  | .am e => ∀ c, s.am.entity.waiting c + AmAccount.brought s.am.entity e c < 2 ^ 32

variable {s s' : Transmitters}

/-- What every safe step keeps: the entities count, and what waits fits into 32 bits. -/
structure Kept (s : Transmitters) : Prop where
  tm : ∀ c, s.tm.bufferStatus c = s.tm.waiting c
  um : s.um.IsCounted
  um_lt : ∀ c, s.um.entity.waiting c < 2 ^ 32
  am : s.am.IsCounted
  am_lt : ∀ c, s.am.entity.waiting c < 2 ^ 32

theorem Kept.exact (h : s.Kept) : s.Exact :=
  ⟨h.tm, fun c => h.um.eq (h.um_lt c), fun c => h.am.eq (h.am_lt c)⟩

theorem kept_establish (maxRetxThreshold pollPDU pollByte : Nat) :
    (establish maxRetxThreshold pollPDU pollByte).Kept :=
  ⟨fun _ => rfl, fun _ => rfl, fun _ => Nat.two_pow_pos 32, fun _ => rfl,
    fun _ => Nat.two_pow_pos 32⟩

theorem Kept.tmStep (h : s.Kept) {e : TmEvent} (hsafe : s.Safe (.tm e)) (c : LogicalChannel) :
    (s.tm.step e).bufferStatus c = (s.tm.step e).waiting c := by
  cases e with
  | upper b =>
    have hwaiting : (s.tm.step (.upper b)).waiting c =
        s.tm.waiting c + if b.channel = c then b.dPayload else 0 := by
      change bytesOn _ _ (_ ++ [_]) c = bytesOn _ _ _ c + _
      rw [bytesOn_append, bytesOn_cons, bytesOn_nil]
      rfl
    rw [hwaiting]
    change s.tm.bufferStatus.add b.channel b.dPayload c = _
    unfold BufferStatus.add
    by_cases hc : c = b.channel
    · rw [if_pos hc, if_pos hc.symm, hc, h.tm, u32_of_lt hsafe]
    · rw [if_neg hc, if_neg (Ne.symm hc), h.tm, Nat.add_zero]
  | grant size channel =>
    have hkeep : (s.tm.step (.grant size channel)).waiting c = s.tm.waiting c := by
      by_cases hc : c = channel
      · rw [hc, hsafe]
        refine Nat.eq_zero_of_le_zero ?_
        rw [← hsafe]
        exact bytesOn_filter_le _ _ _
      · change bytesOn _ _ (s.tm.transmissionBuffer.filter _) c = bytesOn _ _ _ c
        unfold bytesOn
        rw [List.filter_filter]
        congr 2
        refine List.filter_congr fun b _ => ?_
        by_cases hb : b.channel = c
        · simp [hb, hc]
        · simp [hb]
    rw [hkeep]
    exact h.tm c

theorem Kept.umWaiting_lt (h : s.Kept) {e : UmEvent} (hsafe : s.Safe (.um e))
    (c : LogicalChannel) : (s.um.step e).entity.waiting c < 2 ^ 32 := by
  cases e with
  | upper channel isUplane nPacketId dPayload =>
    change bytesOn _ _ (_ ++ [_]) c < 2 ^ 32
    rw [bytesOn_append, bytesOn_cons, bytesOn_nil]
    by_cases hc : channel = c
    · rw [if_pos hc, ← hc]
      exact hsafe
    · rw [if_neg hc]
      exact h.um_lt c
  | grant size channel =>
    exact lt_of_le_of_lt (UmAccount.waiting_grant_le h.um size channel c) (h.um_lt c)

theorem Kept.step (h : s.Kept) {e : TransmitterEvent} (hsafe : s.Safe e)
    (hs : s.step e = some s') : s'.Kept := by
  cases e with
  | tm e =>
    rw [← Option.some.inj hs]
    exact ⟨h.tmStep hsafe, h.um, h.um_lt, h.am, h.am_lt⟩
  | um e =>
    rw [← Option.some.inj hs]
    exact ⟨h.tm, h.um.step e, h.umWaiting_lt hsafe, h.am, h.am_lt⟩
  | am e =>
    obtain ⟨am, ham, rfl⟩ := Option.map_eq_some_iff.1 hs
    refine ⟨h.tm, h.um, h.um_lt, h.am.step ham, fun c => ?_⟩
    exact lt_of_le_of_lt (AmAccount.waiting_step_le ham c) (hsafe c)

/-- In every run whose steps are safe the status is exact. -/
theorem exact_of_run {maxRetxThreshold pollPDU pollByte : Nat}
    {tr : List (Transmitters × TransmitterEvent)}
    (run : Run step (establish maxRetxThreshold pollPDU pollByte) tr s)
    (hsafe : ∀ x ∈ tr, x.1.Safe x.2) : s.Exact := by
  refine Kept.exact (Run.induction (P := fun _ s => s.Kept) (kept_establish _ _ _) ?_ run hsafe)
  intro tr s e s' _ h hsafe hs
  exact h.step hsafe hs

/-- A test for `Safe`. -/
def isSafe (x : Transmitters × TransmitterEvent) : Bool :=
  match x.2 with
  | .tm (.upper b) => x.1.tm.waiting b.channel + b.dPayload < 2 ^ 32
  | .tm (.grant _ channel) => x.1.tm.waiting channel = 0
  | .um (.upper channel _ _ dPayload) => x.1.um.entity.waiting channel + dPayload < 2 ^ 32
  | .um (.grant _ _) => true
  | .am e => [LogicalChannel.none, .pcch, .bcch, .ccch, .dcch, .dtch].all fun c =>
      x.1.am.entity.waiting c + AmAccount.brought x.1.am.entity e c < 2 ^ 32

theorem isSafe_sound {x : Transmitters × TransmitterEvent} (h : isSafe x = true) :
    x.1.Safe x.2 := by
  obtain ⟨s, e⟩ := x
  cases e with
  | tm e =>
    cases e with
    | upper b =>
      have hlt : s.tm.waiting b.channel + b.dPayload < 2 ^ 32 := of_decide_eq_true h
      exact hlt
    | grant size channel =>
      have hzero : s.tm.waiting channel = 0 := of_decide_eq_true h
      exact hzero
  | um e =>
    cases e with
    | upper channel isUplane nPacketId dPayload =>
      have hlt : s.um.entity.waiting channel + dPayload < 2 ^ 32 := of_decide_eq_true h
      exact hlt
    | grant size channel => trivial
  | am e =>
    intro c
    have hall := List.all_eq_true.1 h c (by cases c <;> decide)
    exact of_decide_eq_true hall

/-- A UM packet is cut; of two AM packets one is sent again after a NACK and after the poll timer; a
TM packet waits. -/
theorem exact_exampleRun :
    ∃ tr s, Run step (establish 4 4 100) tr s ∧ s.um.bufferStatus .dtch = 20 ∧
      s.am.bufferStatus .dtch = 30 ∧ s.tm.bufferStatus .ccch = 50 ∧ s.Exact := by
  have hexec : (exec step (establish 4 4 100)
      [fun _ => some (.tm (.upper ⟨.ccch, false, 1, 50⟩)),
        fun _ => some (.tm (.grant 0 .bcch)),
        fun _ => some (.um (.upper .dtch true 2 60)),
        fun _ => some (.um (.grant 40 .dtch)),
        fun _ => some (.am (.upper .dtch 3 30)),
        fun _ => some (.am (.upper .dtch 4 30)),
        fun _ => some (.am (.grant 100 .dtch)),
        fun _ => some (.am (.statusPdu ⟨1, [⟨1, false, false, 0, 0, 0⟩]⟩)),
        fun _ => some (.am (.grant 100 .dtch)),
        fun _ => some (.am .pollRetransmitTimeout)]).any
      (fun r => r.1.all isSafe && decide (r.2.um.bufferStatus .dtch = 20 ∧
        r.2.am.bufferStatus .dtch = 30 ∧ r.2.tm.bufferStatus .ccch = 50)) = true := by
    decide +kernel
  obtain ⟨tr, s, run, htest⟩ := run_of_exec hexec
  simp only [Bool.and_eq_true, List.all_eq_true, decide_eq_true_eq] at htest
  obtain ⟨hsafe, hum, ham, htm⟩ := htest
  exact ⟨tr, s, run, hum, ham, htm, exact_of_run run fun x hx => isSafe_sound (hsafe x hx)⟩

/-- A TM packet of 50 bytes has been sent: the status still says 50. -/
theorem not_exact_of_run : ¬ ∀ (maxRetxThreshold pollPDU pollByte : Nat)
    (tr : List (Transmitters × TransmitterEvent)) (s : Transmitters),
    Run step (establish maxRetxThreshold pollPDU pollByte) tr s → s.Exact := by
  intro h
  have hexec : (exec step (establish 4 4 100)
      [fun _ => some (.tm (.upper ⟨.ccch, false, 1, 50⟩)),
        fun _ => some (.tm (.grant 0 .ccch))]).any
      (fun r => decide (r.2.tm.bufferStatus .ccch = 50 ∧ r.2.tm.waiting .ccch = 0)) = true := by
    decide +kernel
  obtain ⟨tr, s, run, htest⟩ := run_of_exec hexec
  obtain ⟨hstatus, hwaiting⟩ := of_decide_eq_true htest
  have hexact := (h 4 4 100 tr s run).tm .ccch
  rw [hstatus, hwaiting] at hexact
  cases hexact

end Transmitters

end NetSim.Rlc
