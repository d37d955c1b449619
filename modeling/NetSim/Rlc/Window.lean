import NetSim.Rlc.Transmit

/-!
# The transmitting window (`LTENR_RLC_AM.c`)

What a grant and a status PDU do to the three buffers. `TX_Next_Ack` passes no PDU that may be sent
again as long as a status PDU acknowledges all that it passes over.
-/

namespace NetSim.Rlc

open NetSim.Lib NetSim.Tcp

namespace TransmittingEntity

variable {s s' : TransmittingEntity}

/-! ## Grants -/

/-- What `LTENR_RLCAM_SendPDUToMac` changes. -/
structure Sent (p : AmdPdu) (s s' : TransmittingEntity) : Prop where
  TX_Next_Ack : s'.TX_Next_Ack = s.TX_Next_Ack
  TX_Next : s'.TX_Next = s.TX_Next
  transmissionBuffer : s'.transmissionBuffer = s.transmissionBuffer
  transmittedBuffer : s'.transmittedBuffer = s.transmittedBuffer
  retransmissionBuffer : s'.retransmissionBuffer = s.retransmissionBuffer
  produced : s'.produced = s.produced
  mac : ∃ P, s'.mac = s.mac ++ [{ p with P := P }]

theorem sent_sendPDUToMac (s : TransmittingEntity) (p : AmdPdu) (hp : p.P = false) :
    Sent p s (s.sendPDUToMac p) := by
  have hplain : p = { p with P := false } := by
    rw [← hp]
  unfold sendPDUToMac
  dsimp only
  split
  · split
    · exact ⟨rfl, rfl, rfl, rfl, rfl, rfl, true, rfl⟩
    · exact ⟨rfl, rfl, rfl, rfl, rfl, rfl, false, by rw [← hplain]⟩
  · exact ⟨rfl, rfl, rfl, rfl, rfl, rfl, false, by rw [← hplain]⟩

variable {channel : LogicalChannel}

theorem retransmission_rule {P : TransmittingEntity → Nat → Prop}
    (hround : ∀ s left pre buf post, P s left → s.retransmissionBuffer = pre ++ buf :: post →
      buf.channel = channel → s.isSNFallsInTransmittingWindow buf.SN = true →
      minRlcPduSize ≤ left → buf.dPayload ≤ left →
      P (s.sendAgain pre buf post) (left - buf.dPayload)) :
    ∀ n s left, P s left → P (sendPDUFromRetransmissionBuffer channel n s left).1
      (sendPDUFromRetransmissionBuffer channel n s left).2 := by
  intro n
  induction n with
  | zero => exact fun s left h => h
  | succ n ih =>
    intro s left h
    unfold sendPDUFromRetransmissionBuffer
    split
    · exact h
    · next pre buf post hsplit =>
      obtain ⟨hlist, hstop, -⟩ := splitFirst_some hsplit
      simp only [retransmits, Bool.and_eq_true, Bool.or_eq_true, decide_eq_true_eq] at hstop
      split
      · exact h
      · next hleft =>
        obtain ⟨hchannel, hgo⟩ := hstop
        obtain ⟨hwindow, hpayload⟩ := hgo.resolve_left hleft
        exact ih _ _ (hround s left pre buf post h hlist hchannel hwindow (by omega) hpayload)

theorem transmission_rule {P : TransmittingEntity → Prop}
    (hround : ∀ s left pre buf post, P s → s.transmissionBuffer = pre ++ buf :: post →
      buf.channel = channel → s.isSNFallsInTransmittingWindow buf.SN = true →
      minRlcPduSize ≤ left → P (s.sendNew left pre buf post)) :
    ∀ n s left, P s → P (sendPDUFromTransmissionBuffer channel n s left).1 := by
  intro n
  induction n with
  | zero => exact fun s left h => h
  | succ n ih =>
    intro s left h
    unfold sendPDUFromTransmissionBuffer
    split
    · exact h
    · next pre buf post hsplit =>
      obtain ⟨hlist, hstop, -⟩ := splitFirst_some hsplit
      simp only [transmits, Bool.and_eq_true, Bool.or_eq_true, decide_eq_true_eq] at hstop
      split
      · exact h
      · next hleft =>
        obtain ⟨hchannel, hgo⟩ := hstop
        exact ih _ _ (hround s left pre buf post h hlist hchannel (hgo.resolve_left hleft)
          (by omega))

theorem sendPdu_rule {size : Nat} {P : TransmittingEntity → Prop}
    (hagain : ∀ s pre buf post, P s → s.retransmissionBuffer = pre ++ buf :: post →
      P (s.sendAgain pre buf post))
    (hnew : ∀ s left pre buf post, P s → s.transmissionBuffer = pre ++ buf :: post →
      buf.channel = channel → s.isSNFallsInTransmittingWindow buf.SN = true →
      minRlcPduSize ≤ left → P (s.sendNew left pre buf post))
    (h : P s) : P (s.sendPdu size channel) := by
  apply transmission_rule hnew
  exact retransmission_rule (P := fun s _ => P s)
    (fun s _ pre buf post hs hlist _ _ _ _ => hagain s pre buf post hs hlist) _ s size h

theorem sent_sendAgain (s : TransmittingEntity) (pre : List RlcBuffer) (buf : RlcBuffer)
    (post : List RlcBuffer) :
    (s.sendAgain pre buf post).TX_Next_Ack = s.TX_Next_Ack ∧
      (s.sendAgain pre buf post).TX_Next = s.TX_Next ∧
      (s.sendAgain pre buf post).transmissionBuffer = s.transmissionBuffer ∧
      (s.sendAgain pre buf post).retransmissionBuffer = pre ++ post ∧
      (s.sendAgain pre buf post).transmittedBuffer = s.transmittedBuffer ++ [buf] ∧
      (s.sendAgain pre buf post).produced = s.produced ∧
      ∃ P, (s.sendAgain pre buf post).mac = s.mac ++ [{ buf.pdu with P := P }] := by
  obtain ⟨h1, h2, h3, h4, -, h6, h7⟩ := sent_sendPDUToMac s buf.pdu rfl
  exact ⟨h1, h2, h3, rfl, congrArg (· ++ [buf]) h4, h6, h7⟩

theorem sent_sendNew (s : TransmittingEntity) (left : Nat) (pre : List RlcBuffer)
    (buf : RlcBuffer) (post : List RlcBuffer) :
    (s.sendNew left pre buf post).TX_Next_Ack = s.TX_Next_Ack ∧
      (s.sendNew left pre buf post).TX_Next = s.TX_Next ∧
      (s.sendNew left pre buf post).transmissionBuffer =
        pre ++ ((buf.fragment left).2.toList ++ post) ∧
      (s.sendNew left pre buf post).retransmissionBuffer = s.retransmissionBuffer ∧
      (s.sendNew left pre buf post).transmittedBuffer =
        s.transmittedBuffer ++ [(buf.fragment left).1] ∧
      (s.sendNew left pre buf post).produced = s.produced ++ [(buf.fragment left).1.pdu] ∧
      ∃ P, (s.sendNew left pre buf post).mac =
        s.mac ++ [{ (buf.fragment left).1.pdu with P := P }] := by
  obtain ⟨h1, h2, h3, h4, h5, h6, h7⟩ := sent_sendPDUToMac
    { s with transmissionBuffer := pre ++ ((buf.fragment left).2.toList ++ post) }
    (buf.fragment left).1.pdu rfl
  exact ⟨h1, h2, h3, h5, congrArg (· ++ [(buf.fragment left).1]) h4,
    congrArg (· ++ [(buf.fragment left).1.pdu]) h6, h7⟩

theorem SN_fragment (b : RlcBuffer) (size : Nat) : (b.fragment size).1.SN = b.SN := by
  unfold RlcBuffer.fragment
  split <;> rfl

variable {b : RlcBuffer}

theorem SN_rest {r : RlcBuffer} {size : Nat} (h : (b.fragment size).2 = some r) : r.SN = b.SN := by
  unfold RlcBuffer.fragment at h
  split at h
  · obtain rfl := Option.some.inj h
    rfl
  · cases h

theorem map_SN_sendNew (pre post : List RlcBuffer) (buf : RlcBuffer) (left : Nat) :
    ((pre ++ ((buf.fragment left).2.toList ++ post)).map RlcBuffer.SN).Sublist
      ((pre ++ buf :: post).map RlcBuffer.SN) := by
  rw [List.map_append, List.map_append, List.map_append, List.map_cons]
  refine List.Sublist.append_left ?_ _
  cases hrest : (buf.fragment left).2 with
  | none => exact List.sublist_cons_self _ _
  | some r =>
    rw [Option.toList_some, List.map_singleton, SN_rest hrest]
    exact List.Sublist.refl _

def bytesToRetransmit (s : TransmittingEntity) (channel : LogicalChannel) : Nat :=
  ((s.retransmissionBuffer.filter (·.channel = channel)).map RlcBuffer.dPayload).sum

theorem sendPDUFromRetransmissionBuffer_all (channel : LogicalChannel) :
    ∀ n s left, s.retransmissionBuffer.length ≤ n →
      (∀ b ∈ s.retransmissionBuffer, s.isSNFallsInTransmittingWindow b.SN = true) →
      s.bytesToRetransmit channel + minRlcPduSize ≤ left →
      (∀ b ∈ (sendPDUFromRetransmissionBuffer channel n s left).1.retransmissionBuffer,
        b.channel ≠ channel) ∧
      ∃ new, (sendPDUFromRetransmissionBuffer channel n s left).1.mac = s.mac ++ new ∧
        ∀ b ∈ s.retransmissionBuffer, b.channel = channel →
          ∃ P, { b.pdu with P := P } ∈ new := by
  intro n
  induction n with
  | zero =>
    intro s left hlength _ _
    have hnil : s.retransmissionBuffer = [] := List.length_eq_zero_iff.1 (by omega)
    unfold sendPDUFromRetransmissionBuffer
    rw [hnil]
    exact ⟨nofun, [], (List.append_nil _).symm, nofun⟩
  | succ n ih =>
    intro s left hlength hwindow hleft
    have hle : ∀ b ∈ s.retransmissionBuffer, b.channel = channel → b.dPayload ≤ left := by
      intro b hb hchannel
      have hmem : b ∈ s.retransmissionBuffer.filter (·.channel = channel) :=
        List.mem_filter.2 ⟨hb, by simpa using hchannel⟩
      have hsum : b.dPayload ≤ s.bytesToRetransmit channel :=
        List.single_le_sum (fun _ _ => Nat.zero_le _) _ (List.mem_map_of_mem hmem)
      omega
    unfold sendPDUFromRetransmissionBuffer
    split
    · next hsplit =>
      rw [splitFirst_eq_none] at hsplit
      have hnone : ∀ b ∈ s.retransmissionBuffer, b.channel ≠ channel := by
        intro b hb hchannel
        have hstop := hsplit b hb
        simp [retransmits, hchannel, hwindow b hb, hle b hb hchannel] at hstop
      exact ⟨hnone, [], (List.append_nil _).symm, fun b hb hchannel => absurd hchannel (hnone b hb)⟩
    · next pre buf post hsplit =>
      obtain ⟨hlist, hstop, -⟩ := splitFirst_some hsplit
      have hchannel : buf.channel = channel := by
        simp only [retransmits, Bool.and_eq_true, decide_eq_true_eq] at hstop
        exact hstop.1
      obtain ⟨hack, -, -, hretx, -, -, P, hmac⟩ := sent_sendAgain s pre buf post
      rw [if_neg (by omega)]
      have hbytes : (s.sendAgain pre buf post).bytesToRetransmit channel + buf.dPayload =
          s.bytesToRetransmit channel := by
        unfold bytesToRetransmit
        rw [hretx, hlist]
        simp [hchannel]
        omega
      obtain ⟨hall, new, hnew, hsent⟩ := ih (s.sendAgain pre buf post) (left - buf.dPayload)
        (by
          rw [hretx]
          rw [hlist] at hlength
          simp only [List.length_append, List.length_cons] at hlength ⊢
          omega)
        (by
          intro b hb
          rw [hretx] at hb
          have hb' : b ∈ s.retransmissionBuffer := by
            rw [hlist]
            simp only [List.mem_append, List.mem_cons] at hb ⊢
            tauto
          have := hwindow b hb'
          unfold isSNFallsInTransmittingWindow at this ⊢
          rw [hack]
          exact this)
        (by omega)
      refine ⟨hall, { buf.pdu with P := P } :: new, ?_, ?_⟩
      · rw [hnew, hmac, List.append_assoc]
        rfl
      · intro b hb hbchannel
        rw [hlist] at hb
        rcases List.mem_append.1 hb with hb | hb
        · obtain ⟨P', hP'⟩ := hsent b (by rw [hretx]; exact List.mem_append_left _ hb) hbchannel
          exact ⟨P', List.mem_cons_of_mem _ hP'⟩
        · rcases List.mem_cons.1 hb with rfl | hb
          · exact ⟨P, List.mem_cons_self⟩
          · obtain ⟨P', hP'⟩ := hsent b (by rw [hretx]; exact List.mem_append_right _ hb) hbchannel
            exact ⟨P', List.mem_cons_of_mem _ hP'⟩

/-! ## Status PDUs -/

/-- `LTENR_RLCAM_ReceiveStatusPDU` takes the PDU of `b` for one that the NACK reports. -/
def Names (n : Nack) (b : RlcBuffer) : Prop :=
  if n.E3 then n.NAck_SN ≤ b.SN ∧ b.SN ≤ u32 (n.NAck_SN + n.NAckRange)
  else if n.E2 then b.SN = n.NAck_SN ∧ n.soStart ≤ b.SO ∧ b.SO ≤ n.soEnd
  else b.SN = n.NAck_SN

/-- Only PDUs in `named` go to the retransmission buffer, and only those that may be sent again. -/
structure Nacked (named : RlcBuffer → Prop) (s s' : TransmittingEntity) : Prop where
  TX_Next_Ack : s'.TX_Next_Ack = s.TX_Next_Ack
  TX_Next : s'.TX_Next = s.TX_Next
  POLL_SN : s'.POLL_SN = s.POLL_SN
  maxRetxThreshold : s'.maxRetxThreshold = s.maxRetxThreshold
  transmissionBuffer : s'.transmissionBuffer = s.transmissionBuffer
  mac : s'.mac = s.mac
  produced : s'.produced = s.produced
  transmittedBuffer : s'.transmittedBuffer ⊆ s.transmittedBuffer
  moved : ∀ b ∈ s'.retransmissionBuffer, b ∈ s.retransmissionBuffer ∨
    ∃ b₀ ∈ s.transmittedBuffer, named b₀ ∧ b₀.retxCount ≠ s.maxRetxThreshold ∧
      b = { b₀ with retxCount := u32 (b₀.retxCount + 1) }

section Nacked

variable {named named' : RlcBuffer → Prop}

theorem Nacked.refl (s : TransmittingEntity) : Nacked named s s :=
  ⟨rfl, rfl, rfl, rfl, rfl, rfl, rfl, fun _ => id, fun _ => .inl⟩

theorem Nacked.trans {s'' : TransmittingEntity} (h : Nacked named s s')
    (h' : Nacked named s' s'') : Nacked named s s'' := by
  refine ⟨h'.TX_Next_Ack.trans h.TX_Next_Ack, h'.TX_Next.trans h.TX_Next,
    h'.POLL_SN.trans h.POLL_SN, h'.maxRetxThreshold.trans h.maxRetxThreshold,
    h'.transmissionBuffer.trans h.transmissionBuffer, h'.mac.trans h.mac,
    h'.produced.trans h.produced, fun b hb => h.transmittedBuffer (h'.transmittedBuffer hb), ?_⟩
  intro b hb
  rcases h'.moved b hb with hb | ⟨b0, hb0, hnamed, hcount, rfl⟩
  · exact h.moved b hb
  · rw [h.maxRetxThreshold] at hcount
    exact .inr ⟨b0, h.transmittedBuffer hb0, hnamed, hcount, rfl⟩

theorem Nacked.mono (h : Nacked named s s') (hle : ∀ b, named b → named' b) :
    Nacked named' s s' := by
  refine ⟨h.TX_Next_Ack, h.TX_Next, h.POLL_SN, h.maxRetxThreshold, h.transmissionBuffer, h.mac,
    h.produced, h.transmittedBuffer, ?_⟩
  intro b hb
  refine (h.moved b hb).imp_right ?_
  rintro ⟨b0, hb0, hnamed, hcount, rfl⟩
  exact ⟨b0, hb0, hle b0 hnamed, hcount, rfl⟩

theorem nacked_foldl {α : Type} {f : TransmittingEntity → α → TransmittingEntity} {l : List α}
    (hround : ∀ s, ∀ a ∈ l, Nacked named s (f s a)) : ∀ s, Nacked named s (l.foldl f s) := by
  induction l with
  | nil => exact Nacked.refl
  | cons a l ih =>
    intro s
    exact (hround s a List.mem_cons_self).trans
      (ih (fun s b hb => hround s b (List.mem_cons_of_mem _ hb)) _)

theorem nacked_move {t : TransmittingEntity} {l : List RlcBuffer} {rest : List RlcBuffer}
    (hl : ∀ b ∈ l, b ∈ t.transmittedBuffer ∧ named b) (hrest : rest ⊆ t.transmittedBuffer) :
    Nacked named t
      (l.foldl movePacketFromTransmittedBuffer { t with transmittedBuffer := rest }) := by
  have hmoved : ∀ (l : List RlcBuffer) (s : TransmittingEntity),
      (∀ b ∈ l, b ∈ t.transmittedBuffer ∧ named b) → Nacked named t s →
      Nacked named t (l.foldl movePacketFromTransmittedBuffer s) := by
    intro l
    induction l with
    | nil => exact fun s _ h => h
    | cons b l ih =>
      intro s hl h
      apply ih _ (fun c hc => hl c (List.mem_cons_of_mem _ hc))
      obtain ⟨hb, hnamed⟩ := hl b List.mem_cons_self
      unfold movePacketFromTransmittedBuffer
      split
      · exact h
      · next hcount =>
        refine ⟨h.TX_Next_Ack, h.TX_Next, h.POLL_SN, h.maxRetxThreshold, h.transmissionBuffer,
          h.mac, h.produced, h.transmittedBuffer, ?_⟩
        intro c hc
        rcases List.mem_append.1 hc with hc | hc
        · exact h.moved c hc
        · obtain rfl := List.mem_singleton.1 hc
          rw [h.maxRetxThreshold] at hcount
          exact .inr ⟨b, hb, hnamed, hcount, rfl⟩
  exact hmoved l _ hl ⟨rfl, rfl, rfl, rfl, rfl, rfl, rfl, hrest, fun _ => .inl⟩

theorem nacked_updateBufferBasedOnNACK0 {sn : Nat} (hnamed : ∀ b : RlcBuffer, b.SN = sn → named b) :
    Nacked named s (s.updateBufferBasedOnNACK0 sn) := by
  refine nacked_move ?_ (fun _ hb => List.mem_of_mem_filter hb)
  intro b hb
  obtain ⟨hb, hsn⟩ := List.mem_filter.1 hb
  exact ⟨hb, hnamed b (by simpa using hsn)⟩

theorem nacked_nackOffset {sn so : Nat}
    (hnamed : ∀ b : RlcBuffer, b.SN = sn → b.SO = so → named b) :
    Nacked named s (nackOffset sn s so) := by
  unfold nackOffset
  split
  · exact .refl s
  · next pre b post hsplit =>
    obtain ⟨hlist, hb, -⟩ := splitFirst_some hsplit
    simp only [Bool.and_eq_true, decide_eq_true_eq] at hb
    have hmem : b ∈ s.transmittedBuffer := by
      rw [hlist]
      simp
    refine nacked_move (l := [b]) ?_ ?_
    · intro c hc
      obtain rfl := List.mem_singleton.1 hc
      exact ⟨hmem, hnamed c hb.1 hb.2⟩
    · rw [hlist]
      intro c hc
      simp only [List.mem_append, List.mem_cons] at hc ⊢
      tauto

theorem nacked_handleNack {n : Nack} (hs : s.handleNack n = some s') : Nacked (Names n) s s' := by
  unfold handleNack at hs
  split at hs
  · next hE3 =>
    unfold updateBufferBasedOnNACK2 at hs
    dsimp only at hs
    split at hs
    · obtain rfl := Option.some.inj hs
      apply nacked_foldl
      intro s sn hsn
      rw [List.mem_range'_1] at hsn
      apply nacked_updateBufferBasedOnNACK0
      rintro b rfl
      unfold Names
      rw [if_pos hE3]
      omega
    · cases hs
  · next hE3 =>
    split at hs
    · next hE2 =>
      unfold updateBufferBasedOnNACK1 at hs
      split at hs
      · obtain rfl := Option.some.inj hs
        apply nacked_foldl
        intro s so hso
        rw [List.mem_range'_1] at hso
        apply nacked_nackOffset
        rintro b hsn rfl
        unfold Names
        rw [if_neg hE3, if_pos hE2]
        omega
      · cases hs
    · next hE2 =>
      obtain rfl := Option.some.inj hs
      apply nacked_updateBufferBasedOnNACK0
      rintro b hsn
      unfold Names
      rw [if_neg hE3, if_neg hE2]
      exact hsn

theorem nacked_nacks {nacks : List Nack} (hs : nacks.foldlM handleNack s = some s') :
    Nacked (fun b => ∃ n ∈ nacks, Names n b) s s' := by
  induction nacks generalizing s with
  | nil =>
    obtain rfl := Option.some.inj hs
    exact .refl _
  | cons n nacks ih =>
    obtain ⟨t, ht, hs⟩ := Option.bind_eq_some_iff.1 hs
    refine ((nacked_handleNack ht).mono ?_).trans ((ih hs).mono ?_)
    · exact fun b hb => ⟨n, List.mem_cons_self, hb⟩
    · rintro b ⟨n', hn', hb⟩
      exact ⟨n', List.mem_cons_of_mem _ hn', hb⟩

end Nacked

structure StatusReceived (pdu : StatusPdu) (s s' : TransmittingEntity) : Prop where
  TX_Next_Ack : s'.TX_Next_Ack = s.nextAck
  TX_Next : s'.TX_Next = s.TX_Next
  transmissionBuffer : s'.transmissionBuffer = s.transmissionBuffer
  produced : s'.produced = s.produced
  mac : s'.mac = s.mac
  kept : ∀ b ∈ s'.transmittedBuffer, b ∈ s.transmittedBuffer ∧ pdu.Ack_SN ≤ b.SN
  moved : ∀ b ∈ s'.retransmissionBuffer, b ∈ s.retransmissionBuffer ∨
    ∃ b₀ ∈ s.transmittedBuffer, (∃ n ∈ pdu.nacks, Names n b₀) ∧
      b₀.retxCount ≠ s.maxRetxThreshold ∧ b.SN = b₀.SN

theorem statusReceived {pdu : StatusPdu} (hs : s.receiveStatusPdu pdu = some s') :
    StatusReceived pdu s s' := by
  obtain ⟨t, ht, rfl⟩ := Option.map_eq_some_iff.1 hs
  have hn := nacked_nacks ht
  have hnext : t.nextAck = s.nextAck := by
    unfold nextAck
    rw [hn.transmissionBuffer, hn.TX_Next]
  have hkept : ∀ b ∈ t.transmittedBuffer.filter fun b => ¬ b.SN < pdu.Ack_SN,
      b ∈ s.transmittedBuffer ∧ pdu.Ack_SN ≤ b.SN := by
    intro b hb
    obtain ⟨hb, hle⟩ := List.mem_filter.1 hb
    exact ⟨hn.transmittedBuffer hb, by simpa using hle⟩
  have hmoved : ∀ b ∈ t.retransmissionBuffer, b ∈ s.retransmissionBuffer ∨
      ∃ b0 ∈ s.transmittedBuffer, (∃ n ∈ pdu.nacks, Names n b0) ∧
        b0.retxCount ≠ s.maxRetxThreshold ∧ b.SN = b0.SN := by
    intro b hb
    refine (hn.moved b hb).imp_right ?_
    rintro ⟨b0, hb0, hnamed, hcount, rfl⟩
    exact ⟨b0, hb0, hnamed, hcount, rfl⟩
  dsimp only
  split
  · exact ⟨hnext, hn.TX_Next, hn.transmissionBuffer, hn.produced, hn.mac, hkept, hmoved⟩
  · exact ⟨hnext, hn.TX_Next, hn.transmissionBuffer, hn.produced, hn.mac, hkept, hmoved⟩

/-! ## The window -/

/-- `TX_Next_Ack` is at or below every SN in the buffers, and what has been sent is in the window.
-/
structure Windowed (s : TransmittingEntity) : Prop where
  room : s.TX_Next_Ack + amWindowSize < 2 ^ 32
  next_lt : s.TX_Next < 2 ^ 32
  next_le : s.TX_Next_Ack ≤ s.TX_Next
  sorted : (s.transmissionBuffer.map RlcBuffer.SN).Pairwise (· < ·)
  queued : ∀ b ∈ s.transmissionBuffer, s.TX_Next_Ack ≤ b.SN ∧ b.SN < s.TX_Next
  covered : ∀ b, b ∈ s.transmittedBuffer ∨ b ∈ s.retransmissionBuffer →
    s.TX_Next_Ack ≤ b.SN ∧ b.SN < s.TX_Next_Ack + amWindowSize

theorem Windowed.isSNFallsInTransmittingWindow (h : Windowed s) {sn : Nat} :
    s.isSNFallsInTransmittingWindow sn = true ↔
      s.TX_Next_Ack ≤ sn ∧ sn < s.TX_Next_Ack + amWindowSize := by
  unfold TransmittingEntity.isSNFallsInTransmittingWindow
  rw [u32_of_lt h.room, Bool.and_eq_true, decide_eq_true_eq, decide_eq_true_eq]

theorem Windowed.sendAgain (h : Windowed s) {pre post : List RlcBuffer} {buf : RlcBuffer}
    (hlist : s.retransmissionBuffer = pre ++ buf :: post) :
    Windowed (s.sendAgain pre buf post) := by
  obtain ⟨hack, hnext, htransmission, hretx, htransmitted, -⟩ := sent_sendAgain s pre buf post
  refine ⟨?_, ?_, ?_, ?_, ?_, ?_⟩
  · rw [hack]
    exact h.room
  · rw [hnext]
    exact h.next_lt
  · rw [hack, hnext]
    exact h.next_le
  · rw [htransmission]
    exact h.sorted
  · rw [htransmission, hack, hnext]
    exact h.queued
  · intro b hb
    rw [hack]
    apply h.covered
    rw [htransmitted, hretx] at hb
    rw [hlist]
    simp only [List.mem_append, List.mem_cons, List.not_mem_nil, or_false] at hb ⊢
    tauto

theorem Windowed.sendNew (h : Windowed s) {left : Nat} {pre post : List RlcBuffer}
    {buf : RlcBuffer} (hlist : s.transmissionBuffer = pre ++ buf :: post)
    (hwindow : s.isSNFallsInTransmittingWindow buf.SN = true) :
    Windowed (s.sendNew left pre buf post) := by
  obtain ⟨hack, hnext, htransmission, hretx, htransmitted, -⟩ := sent_sendNew s left pre buf post
  refine ⟨?_, ?_, ?_, ?_, ?_, ?_⟩
  · rw [hack]
    exact h.room
  · rw [hnext]
    exact h.next_lt
  · rw [hack, hnext]
    exact h.next_le
  · have hsorted := h.sorted
    rw [hlist] at hsorted
    rw [htransmission]
    exact hsorted.sublist (map_SN_sendNew pre post buf left)
  · intro b hb
    rw [hack, hnext]
    rw [htransmission] at hb
    simp only [List.mem_append, Option.mem_toList] at hb
    rcases hb with hb | hb | hb
    · exact h.queued b (by rw [hlist]; simp [hb])
    · rw [SN_rest hb]
      exact h.queued buf (by rw [hlist]; simp)
    · exact h.queued b (by rw [hlist]; simp [hb])
  · intro b hb
    rw [hack]
    rw [htransmitted, hretx, List.mem_append, List.mem_singleton] at hb
    rcases hb with (hb | rfl) | hb
    · exact h.covered b (.inl hb)
    · rw [SN_fragment]
      exact h.isSNFallsInTransmittingWindow.1 hwindow
    · exact h.covered b (.inr hb)

theorem Windowed.sendPdu (h : Windowed s) (size : Nat) (channel : LogicalChannel) :
    Windowed (s.sendPdu size channel) :=
  sendPdu_rule (fun _ _ _ _ hs hlist => hs.sendAgain hlist)
    (fun _ _ _ _ _ hs hlist _ hwindow _ => hs.sendNew hlist hwindow) h

theorem Windowed.nextAck_ge (h : Windowed s) : s.TX_Next_Ack ≤ s.nextAck := by
  unfold nextAck
  split
  · next b l hlist => exact (h.queued b (by rw [hlist]; exact List.mem_cons_self)).1
  · exact h.next_le

/-- A status PDU acknowledges all that `TX_Next_Ack` passes over, and the SNs do not reach the end
of their range. -/
def AckCovers (s : TransmittingEntity) : TxEvent → Prop
  | .upper _ _ _ => s.TX_Next + 1 < 2 ^ 32
  | .statusPdu pdu => s.nextAck + amWindowSize < 2 ^ 32 ∧
      (∀ b ∈ s.retransmissionBuffer, s.nextAck ≤ b.SN) ∧
      ∀ b ∈ s.transmittedBuffer, b.SN < s.nextAck → b.SN < pdu.Ack_SN ∧
        ((∃ n ∈ pdu.nacks, Names n b) → b.retxCount = s.maxRetxThreshold)
  | .grant _ _ | .pollRetransmitTimeout => True

theorem Windowed.handlePDUFromUpperLayer (h : Windowed s) (hlt : s.TX_Next + 1 < 2 ^ 32)
    (channel : LogicalChannel) (nPacketId dPayload : Nat) :
    Windowed (s.handlePDUFromUpperLayer channel nPacketId dPayload) := by
  have hnext : (s.handlePDUFromUpperLayer channel nPacketId dPayload).TX_Next = s.TX_Next + 1 :=
    u32_of_lt hlt
  have hle := h.next_le
  refine ⟨h.room, ?_, ?_, ?_, ?_, h.covered⟩
  · rw [hnext]
    exact hlt
  · rw [hnext]
    exact Nat.le_succ_of_le hle
  · unfold TransmittingEntity.handlePDUFromUpperLayer
    rw [List.map_append, List.map_singleton, List.pairwise_append]
    refine ⟨h.sorted, List.pairwise_singleton _ _, ?_⟩
    intro sn hsn sn' hsn'
    obtain ⟨b, hb, rfl⟩ := List.mem_map.1 hsn
    rw [List.mem_singleton.1 hsn']
    exact (h.queued b hb).2
  · intro b hb
    rw [hnext]
    rcases List.mem_append.1 hb with hb | hb
    · have := h.queued b hb
      exact ⟨this.1, Nat.lt_succ_of_lt this.2⟩
    · rw [List.mem_singleton.1 hb]
      exact ⟨hle, Nat.lt_succ_self _⟩

theorem Windowed.nextAck_le (h : Windowed s) (hb : b ∈ s.transmissionBuffer) :
    s.nextAck ≤ b.SN := by
  have hsorted := h.sorted
  unfold nextAck
  split
  · next c l hlist =>
    rw [hlist] at hb hsorted
    rw [List.map_cons, List.pairwise_cons] at hsorted
    rcases List.mem_cons.1 hb with rfl | hb
    · exact Nat.le_refl _
    · exact Nat.le_of_lt (hsorted.1 _ (List.mem_map_of_mem hb))
  · next hnil =>
    rw [hnil] at hb
    cases hb

theorem Windowed.nextAck_le_next (h : Windowed s) : s.nextAck ≤ s.TX_Next := by
  unfold nextAck
  split
  · next b l hlist =>
    exact Nat.le_of_lt (h.queued b (by rw [hlist]; exact List.mem_cons_self)).2
  · exact Nat.le_refl _

theorem Windowed.receiveStatusPdu (h : Windowed s) {pdu : StatusPdu}
    (hsafe : s.AckCovers (.statusPdu pdu)) (hs : StatusReceived pdu s s') : Windowed s' := by
  obtain ⟨hroom, hretx, htransmitted⟩ := hsafe
  have hge := h.nextAck_ge
  refine ⟨?_, ?_, ?_, ?_, ?_, ?_⟩
  · rw [hs.TX_Next_Ack]
    exact hroom
  · rw [hs.TX_Next]
    exact h.next_lt
  · rw [hs.TX_Next_Ack, hs.TX_Next]
    exact h.nextAck_le_next
  · rw [hs.transmissionBuffer]
    exact h.sorted
  · intro b hb
    rw [hs.transmissionBuffer] at hb
    rw [hs.TX_Next_Ack, hs.TX_Next]
    exact ⟨h.nextAck_le hb, (h.queued b hb).2⟩
  · rw [hs.TX_Next_Ack]
    rintro b (hb | hb)
    · obtain ⟨hb, hkept⟩ := hs.kept b hb
      have hcovered := h.covered b (.inl hb)
      refine ⟨?_, by omega⟩
      by_contra hlt
      have := (htransmitted b hb (by omega)).1
      omega
    · rcases hs.moved b hb with hb | ⟨b0, hb0, hnamed, hcount, hsn⟩
      · have hcovered := h.covered b (.inr hb)
        exact ⟨hretx b hb, by omega⟩
      · have hcovered := h.covered b0 (.inl hb0)
        refine ⟨?_, by omega⟩
        by_contra hlt
        exact hcount ((htransmitted b0 hb0 (by omega)).2 hnamed)

theorem Windowed.handlePollRetransmitTimer (h : Windowed s) :
    Windowed s.handlePollRetransmitTimer := by
  refine ⟨h.room, h.next_lt, h.next_le, h.sorted, h.queued, ?_⟩
  rintro b (hb | hb)
  · exact h.covered b (.inl (List.mem_of_mem_filter hb))
  · rcases List.mem_append.1 hb with hb | hb
    · exact h.covered b (.inr hb)
    · obtain ⟨b0, hb0, rfl⟩ := List.mem_map.1 (List.mem_of_mem_filter hb)
      exact h.covered b0 (.inl (List.mem_of_mem_filter hb0))

theorem Windowed.step {e : TxEvent} (h : Windowed s) (hsafe : s.AckCovers e)
    (hs : s.step e = some s') : Windowed s' := by
  cases e with
  | upper channel nPacketId dPayload =>
    obtain rfl := Option.some.inj hs
    exact h.handlePDUFromUpperLayer hsafe channel nPacketId dPayload
  | grant size channel =>
    obtain rfl := Option.some.inj hs
    exact h.sendPdu size channel
  | statusPdu pdu => exact h.receiveStatusPdu hsafe (statusReceived hs)
  | pollRetransmitTimeout =>
    simp only [TransmittingEntity.step] at hs
    split at hs
    · obtain rfl := Option.some.inj hs
      exact h.handlePollRetransmitTimer
    · cases hs

/-! ## Runs -/

/-- The window covers every PDU that may be sent again, and a grant with room sends those of its
channel. -/
structure Covers (s : TransmittingEntity) : Prop where
  ack_le : ∀ b, b ∈ s.transmittedBuffer ∨ b ∈ s.retransmissionBuffer → s.TX_Next_Ack ≤ b.SN
  inWindow : ∀ b ∈ s.retransmissionBuffer, s.isSNFallsInTransmittingWindow b.SN = true
  sent : ∀ size channel, s.bytesToRetransmit channel + minRlcPduSize ≤ size →
    (∀ b ∈ (s.sendPdu size channel).retransmissionBuffer, b.channel ≠ channel) ∧
    ∃ new, (s.sendPdu size channel).mac = s.mac ++ new ∧
      ∀ b ∈ s.retransmissionBuffer, b.channel = channel → ∃ P, { b.pdu with P := P } ∈ new

theorem Windowed.covers (h : Windowed s) : Covers s := by
  have hwindow : ∀ b ∈ s.retransmissionBuffer, s.isSNFallsInTransmittingWindow b.SN = true :=
    fun b hb => h.isSNFallsInTransmittingWindow.2 (h.covered b (.inr hb))
  refine ⟨fun b hb => (h.covered b hb).1, hwindow, ?_⟩
  intro size channel hsize
  obtain ⟨hnone, new, hmac, hsent⟩ := sendPDUFromRetransmissionBuffer_all channel
    s.retransmissionBuffer.length s size (Nat.le_refl _) hwindow hsize
  -- the new PDUs that follow leave the retransmission buffer alone
  have hrest : ∀ t : TransmittingEntity, ∀ n left,
      (sendPDUFromTransmissionBuffer channel n t left).1.retransmissionBuffer =
        t.retransmissionBuffer ∧
      ∃ more, (sendPDUFromTransmissionBuffer channel n t left).1.mac = t.mac ++ more := by
    intro t n left
    refine transmission_rule (P := fun t' => t'.retransmissionBuffer = t.retransmissionBuffer ∧
      ∃ more, t'.mac = t.mac ++ more) ?_ n t left ⟨rfl, [], (List.append_nil _).symm⟩
    rintro u left pre buf post ⟨hretx, more, hmore⟩ - - - -
    obtain ⟨-, -, -, hretx', -, -, P, hmac⟩ := sent_sendNew u left pre buf post
    refine ⟨hretx'.trans hretx, more ++ [{ (buf.fragment left).1.pdu with P := P }], ?_⟩
    rw [hmac, hmore, List.append_assoc]
  obtain ⟨hretx, more, hmore⟩ := hrest
    (sendPDUFromRetransmissionBuffer channel s.retransmissionBuffer.length s size).1
    (sendPDUFromRetransmissionBuffer channel s.retransmissionBuffer.length s
      size).1.transmissionBuffer.length
    (sendPDUFromRetransmissionBuffer channel s.retransmissionBuffer.length s size).2
  constructor
  · intro b hb
    exact hnone b (by rw [← hretx]; exact hb)
  · refine ⟨new ++ more, ?_, ?_⟩
    · rw [← List.append_assoc, ← hmac]
      exact hmore
    · intro b hb hchannel
      obtain ⟨P, hP⟩ := hsent b hb hchannel
      exact ⟨P, List.mem_append_left _ hP⟩

theorem windowed_establish (maxRetxThreshold pollPDU pollByte : Nat) :
    Windowed (establish maxRetxThreshold pollPDU pollByte) := by
  refine ⟨?_, Nat.two_pow_pos _, Nat.le_refl _, List.Pairwise.nil, nofun, ?_⟩
  · change 0 + amWindowSize < 2 ^ 32
    decide
  · rintro b (hb | hb) <;> cases hb

/-- In every run whose status PDUs acknowledge all that `TX_Next_Ack` passes over. -/
theorem covers_of_run {maxRetxThreshold pollPDU pollByte : Nat}
    {tr : List (TransmittingEntity × TxEvent)}
    (run : Run TransmittingEntity.step (establish maxRetxThreshold pollPDU pollByte) tr s)
    (hsafe : ∀ x ∈ tr, x.1.AckCovers x.2) : Covers s := by
  apply Windowed.covers
  apply run.induction (P := fun _ s => Windowed s) (Q := AckCovers)
  · exact windowed_establish maxRetxThreshold pollPDU pollByte
  · exact fun tr s e s' _ h hsafe hstep => h.step hsafe hstep
  · exact hsafe

/-- A test for `Names`. -/
def isNamed (n : Nack) (b : RlcBuffer) : Bool :=
  if n.E3 then n.NAck_SN ≤ b.SN && b.SN ≤ u32 (n.NAck_SN + n.NAckRange)
  else if n.E2 then b.SN = n.NAck_SN && n.soStart ≤ b.SO && b.SO ≤ n.soEnd
  else b.SN = n.NAck_SN

theorem isNamed_iff {n : Nack} : isNamed n b = true ↔ Names n b := by
  unfold isNamed Names
  split
  · simp
  · split <;> simp [and_assoc]

/-- A test for `AckCovers`. -/
def isAckCovers (x : TransmittingEntity × TxEvent) : Bool :=
  match x.2 with
  | .upper _ _ _ => x.1.TX_Next + 1 < 2 ^ 32
  | .statusPdu pdu => x.1.nextAck + amWindowSize < 2 ^ 32 &&
      (x.1.retransmissionBuffer.all fun b => x.1.nextAck ≤ b.SN) &&
      x.1.transmittedBuffer.all fun b => x.1.nextAck ≤ b.SN || b.SN < pdu.Ack_SN &&
        (b.retxCount = x.1.maxRetxThreshold || !pdu.nacks.any (isNamed · b))
  | .grant _ _ | .pollRetransmitTimeout => true

theorem isAckCovers_sound {x : TransmittingEntity × TxEvent} (h : isAckCovers x = true) :
    x.1.AckCovers x.2 := by
  obtain ⟨s, e⟩ := x
  cases e with
  | upper channel nPacketId dPayload =>
    have hlt : s.TX_Next + 1 < 2 ^ 32 := of_decide_eq_true h
    exact hlt
  | grant size channel => trivial
  | pollRetransmitTimeout => trivial
  | statusPdu pdu =>
    simp only [isAckCovers, Bool.and_eq_true, decide_eq_true_eq, List.all_eq_true,
      Bool.or_eq_true, Bool.not_eq_true', List.any_eq_false] at h
    obtain ⟨⟨hroom, hretx⟩, htransmitted⟩ := h
    refine ⟨hroom, hretx, fun b hb hlt => ?_⟩
    obtain ⟨hack, hnamed⟩ := (htransmitted b hb).resolve_left (Nat.not_le_of_gt hlt)
    refine ⟨hack, ?_⟩
    rintro ⟨n, hn, hb⟩
    exact hnamed.resolve_right fun hno => hno n hn (isNamed_iff.2 hb)

/-- Two SDUs are sent, the poll timer sends them again, and they are acknowledged. -/
theorem covers_exampleRun :
    ∃ tr s, Run TransmittingEntity.step (establish 4 4 100) tr s ∧ s.TX_Next_Ack = 2 ∧
      s.mac.map AmdPdu.SN = [0, 1, 0, 1] ∧ Covers s := by
  have hexec : (exec TransmittingEntity.step (establish 4 4 100)
      [fun _ => some (.upper .dtch 1 8), fun _ => some (.upper .dtch 2 8),
        fun _ => some (.grant 100 .dtch), fun _ => some .pollRetransmitTimeout,
        fun _ => some (.grant 100 .dtch), fun _ => some (.statusPdu ⟨2, []⟩)]).any
      (fun r => r.1.all isAckCovers &&
        decide (r.2.TX_Next_Ack = 2 ∧ r.2.mac.map AmdPdu.SN = [0, 1, 0, 1])) = true := by
    decide +kernel
  obtain ⟨tr, s, run, htest⟩ := run_of_exec hexec
  simp only [Bool.and_eq_true, List.all_eq_true, decide_eq_true_eq] at htest
  obtain ⟨hsafe, hack, hmac⟩ := htest
  exact ⟨tr, s, run, hack, hmac, covers_of_run run fun x hx => isAckCovers_sound (hsafe x hx)⟩

/-- A status PDU with a NACK for an SDU that is then below `TX_Next_Ack`: no grant sends it again.
-/
theorem not_covers_exampleRun :
    ∃ tr s, Run TransmittingEntity.step (establish 4 4 100) tr s ∧ s.TX_Next_Ack = 1 ∧
      s.retransmissionBuffer.map RlcBuffer.SN = [0] ∧
      (s.sendPdu 1000 .dtch).mac = s.mac ∧ ¬ Covers s := by
  have hexec : (exec TransmittingEntity.step (establish 4 4 100)
      [fun _ => some (.upper .dtch 1 8), fun _ => some (.grant 100 .dtch),
        fun _ => some (.statusPdu ⟨1, [⟨0, false, false, 0, 0, 0⟩]⟩)]).any
      (fun r => decide (r.2.TX_Next_Ack = 1 ∧ r.2.retransmissionBuffer.map RlcBuffer.SN = [0] ∧
        (r.2.sendPdu 1000 .dtch).mac = r.2.mac)) = true := by decide +kernel
  obtain ⟨tr, s, run, htest⟩ := run_of_exec hexec
  simp only [decide_eq_true_eq] at htest
  obtain ⟨hack, hretx, hmac⟩ := htest
  refine ⟨tr, s, run, hack, hretx, hmac, ?_⟩
  intro h
  have hmem : 0 ∈ s.retransmissionBuffer.map RlcBuffer.SN := by rw [hretx]; exact List.mem_cons_self
  obtain ⟨b, hb, hsn⟩ := List.mem_map.1 hmem
  have := h.ack_le b (.inr hb)
  omega

end TransmittingEntity

end NetSim.Rlc
