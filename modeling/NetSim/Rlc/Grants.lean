import NetSim.Rlc.Unacknowledged
import NetSim.Rlc.Window

/-!
# Grants (`LTENR_RLC.c`, `LTENR_RLC_UM.c`, `LTENR_RLC_AM.c`)

A sending loop counts down the granted bytes in an unsigned `left`; what the UM entity returns is
taken off the grant of the AM entity. A UM entity cuts packets of the user plane only.
-/

namespace NetSim.Rlc

open NetSim.Lib NetSim.Tcp

/-- `LTENR_RLC_IS_LOGICALCHANNEL_FOR_UM`. -/
def LogicalChannel.isForUm (channel : LogicalChannel) : Bool := channel = .dtch

/-- `LTENR_RLC_IS_LOGICALCHANNEL_FOR_AM`. -/
def LogicalChannel.isForAm (channel : LogicalChannel) : Bool := channel = .dcch || channel = .dtch

/-- A round of a sending loop: `left` before the PDU is taken off it, and the payload of the PDU. -/
structure Round where
  left : Nat
  dPayload : Nat
deriving DecidableEq

def handedBytes {α : Type} (dPayload : α → Nat) (mac mac' : List α) : Nat :=
  ((mac'.drop mac.length).map dPayload).sum

/-- A call with a grant of `size` bytes hands over `total` bytes in the rounds given, and returns
`ret`. -/
structure Respects (size total : Nat) (rounds : List Round) (ret : Nat) : Prop where
  total_le : total ≤ size
  no_wrap : ∀ r ∈ rounds, r.dPayload ≤ r.left
  returned : ret = total

theorem handedBytes_eq {α : Type} {dPayload : α → Nat} {mac mac' : List α} {rounds : List Round}
    (h : mac'.map dPayload = mac.map dPayload ++ rounds.map Round.dPayload) :
    handedBytes dPayload mac mac' = (rounds.map Round.dPayload).sum := by
  unfold handedBytes
  rw [List.map_drop, h, List.drop_left' (List.length_map _)]

/-! ## UM entities -/

namespace UmTransmitter

/-- The rounds of the loop of `LTENR_RLC_UM_SEND_PDU`. -/
def rounds (channel : LogicalChannel) : Nat → List UmBuffer → List Round
  | _, [] => []
  | left, b :: l =>
    if b.channel ≠ channel then rounds channel left l
    else if left < minRlcPduSize then []
    else if isCut left b then [⟨left, left⟩]
    else ⟨left, b.dPayload⟩ :: rounds channel (sub32 left b.dPayload) l

/-- `left` after some rounds. -/
def leftAfter (size : Nat) (rounds : List Round) : Nat :=
  rounds.foldl (fun left r => sub32 left r.dPayload) size

/-- The value that `LTENR_RLC_UM_SEND_PDU` returns. -/
def sendPduReturn (s : UmTransmitter) (size : Nat) (channel : LogicalChannel) : Nat :=
  sub32 size (leftAfter size (rounds channel size s.transmissionBuffer))

def channelBytes (channel : LogicalChannel) (l : List UmBuffer) : Nat :=
  ((l.filter (·.channel = channel)).map UmBuffer.dPayload).sum

/-- A packet of the control plane fits into what those before it leave of the grant. -/
def ControlFits (channel : LogicalChannel) (left : Nat) (l : List UmBuffer) : Prop :=
  ∀ pre b post, l = pre ++ b :: post → b.channel = channel → b.isUplane = false →
    channelBytes channel pre + minRlcPduSize ≤ left →
    channelBytes channel pre + b.dPayload ≤ left

variable {channel : LogicalChannel} {left : Nat} {b : UmBuffer} {l : List UmBuffer}

theorem mac_sendPdus (channel : LogicalChannel) (s : UmTransmitter) (left : Nat)
    (l : List UmBuffer) : (sendPdus channel s left l).1.mac.map UmdPdu.dPayload =
      s.mac.map UmdPdu.dPayload ++ (rounds channel left l).map Round.dPayload := by
  induction l generalizing s left with
  | nil => exact (List.append_nil _).symm
  | cons b l ih =>
    unfold sendPdus rounds
    split
    · exact ih s left
    · split
      · exact (List.append_nil _).symm
      · split
        · have hpayload : (b.fragment left s.TX_Next).1.dPayload = left := by
            unfold UmBuffer.fragment
            split <;> rfl
          simp [hpayload]
        · have hpayload : b.addHdr.1.dPayload = b.dPayload := by
            unfold UmBuffer.addHdr
            split <;> rfl
          have hmac : (s.sendLast b).mac = s.mac ++ [b.addHdr.1] := rfl
          rw [ih, hmac, List.map_append, List.append_assoc, List.map_singleton, hpayload]
          rfl

theorem channelBytes_cons_of_ne (h : b.channel ≠ channel) :
    channelBytes channel (b :: l) = channelBytes channel l := by
  simp [channelBytes, h]

theorem channelBytes_cons (h : b.channel = channel) :
    channelBytes channel (b :: l) = b.dPayload + channelBytes channel l := by
  simp [channelBytes, h]

/-! ### When the control packets fit -/

theorem controlFits_cons : ControlFits channel left (b :: l) ↔
    (b.channel = channel → b.isUplane = false → minRlcPduSize ≤ left → b.dPayload ≤ left) ∧
      ∀ pre c post, l = pre ++ c :: post → c.channel = channel → c.isUplane = false →
        channelBytes channel (b :: pre) + minRlcPduSize ≤ left →
        channelBytes channel (b :: pre) + c.dPayload ≤ left := by
  have hnil : channelBytes channel [] = 0 := rfl
  constructor
  · intro h
    refine ⟨fun hchannel hplane hleft => ?_, fun pre c post hl => ?_⟩
    · have := h [] b l rfl hchannel hplane
      rw [hnil, Nat.zero_add, Nat.zero_add] at this
      exact this hleft
    · exact h (b :: pre) c post (by rw [hl, List.cons_append])
  · rintro ⟨hhead, htail⟩ pre c post hl hchannel hplane
    cases pre with
    | nil =>
      cases hl
      rw [hnil, Nat.zero_add, Nat.zero_add]
      exact hhead hchannel hplane
    | cons b' pre =>
      cases hl
      exact htail pre c post rfl hchannel hplane

theorem controlFits_cons_of_ne (h : b.channel ≠ channel) :
    ControlFits channel left (b :: l) ↔ ControlFits channel left l := by
  rw [controlFits_cons]
  simp only [channelBytes_cons_of_ne h]
  exact ⟨fun hfits => hfits.2, fun hfits => ⟨fun hchannel => absurd hchannel h, hfits⟩⟩

theorem controlFits_cons_of_le (h : b.channel = channel) (hle : b.dPayload ≤ left) :
    ControlFits channel left (b :: l) ↔ ControlFits channel (left - b.dPayload) l := by
  rw [controlFits_cons]
  simp only [channelBytes_cons h]
  constructor
  · intro hfits pre c post hl hchannel hplane hleft
    have := hfits.2 pre c post hl hchannel hplane (by omega)
    omega
  · intro hfits
    refine ⟨fun _ _ _ => hle, fun pre c post hl hchannel hplane hleft => ?_⟩
    have := hfits pre c post hl hchannel hplane (by omega)
    omega

theorem controlFits_of_lt (h : left < minRlcPduSize) : ControlFits channel left l := by
  intro pre c post _ _ _ hleft
  omega

theorem controlFits_of_isUplane (h : ∀ b ∈ l, b.isUplane = true) : ControlFits channel left l := by
  intro pre b post hl _ hplane
  have hb := h b (hl ▸ List.mem_append_cons_self)
  rw [hplane] at hb
  cases hb

theorem controlFits_of_isCut (h : b.channel = channel) (hcut : isCut left b = true) :
    ControlFits channel left (b :: l) := by
  simp only [isCut, Bool.and_eq_true, decide_eq_true_eq] at hcut
  rw [controlFits_cons]
  refine ⟨fun _ hplane => ?_, fun pre c post _ _ _ hleft => ?_⟩
  · rw [hplane] at hcut
    cases hcut.1
  · rw [channelBytes_cons h] at hleft
    omega

theorem no_wrap_iff (hleft : left < 2 ^ 32) :
    (∀ r ∈ rounds channel left l, r.dPayload ≤ r.left) ↔ ControlFits channel left l := by
  induction l generalizing left with
  | nil =>
    refine ⟨fun _ pre b post hl => ?_, fun _ r hr => ?_⟩
    · cases pre <;> cases hl
    · cases hr
  | cons b l ih =>
    unfold rounds
    by_cases hchannel : b.channel = channel
    · rw [if_neg (not_not.2 hchannel)]
      by_cases hmin : left < minRlcPduSize
      · rw [if_pos hmin]
        exact ⟨fun _ => controlFits_of_lt hmin, fun _ r hr => nomatch hr⟩
      · rw [if_neg hmin]
        by_cases hcut : isCut left b = true
        · rw [if_pos hcut]
          refine ⟨fun _ => controlFits_of_isCut hchannel hcut, fun _ r hr => ?_⟩
          rw [List.mem_singleton.1 hr]
        · rw [if_neg hcut, List.forall_mem_cons]
          by_cases hle : b.dPayload ≤ left
          · rw [sub32_of_le hle hleft, ih (by omega), controlFits_cons_of_le hchannel hle]
            exact and_iff_right hle
          · -- A packet that is too long and is not cut is one of the control plane.
            refine ⟨fun h => absurd h.1 hle, fun hfits => ?_⟩
            have hplane : b.isUplane = false := by
              simp only [isCut, Bool.and_eq_true, decide_eq_true_eq, not_and] at hcut
              cases hplane : b.isUplane with
              | false => rfl
              | true => exact absurd (by omega) (hcut hplane)
            exact absurd ((controlFits_cons.1 hfits).1 hchannel hplane (by omega)) hle
    · rw [if_pos hchannel, ih hleft, controlFits_cons_of_ne hchannel]

theorem leftAfter_add (hleft : left < 2 ^ 32)
    (h : ∀ r ∈ rounds channel left l, r.dPayload ≤ r.left) :
    leftAfter left (rounds channel left l) +
      ((rounds channel left l).map Round.dPayload).sum = left := by
  induction l generalizing left with
  | nil => rfl
  | cons b l ih =>
    unfold rounds at h ⊢
    split at h
    · next hchannel =>
      rw [if_pos hchannel]
      exact ih hleft h
    · next hchannel =>
      rw [if_neg hchannel]
      split at h
      · next hmin =>
        rw [if_pos hmin]
        rfl
      · next hmin =>
        rw [if_neg hmin]
        split at h
        · next hcut =>
          rw [if_pos hcut]
          change sub32 left left + (left + 0) = left
          rw [sub32_of_le le_rfl hleft]
          omega
        · next hcut =>
          obtain ⟨hle, hrest⟩ := List.forall_mem_cons.1 h
          rw [if_neg hcut]
          have hle : b.dPayload ≤ left := hle
          have heq : sub32 left b.dPayload = left - b.dPayload := sub32_of_le hle hleft
          rw [heq] at hrest ⊢
          have hcount := ih (by omega) hrest
          have htotal (rest : List Round) : leftAfter left (⟨left, b.dPayload⟩ :: rest) +
              ((⟨left, b.dPayload⟩ :: rest : List Round).map Round.dPayload).sum =
                b.dPayload + (leftAfter (left - b.dPayload) rest +
                  (rest.map Round.dPayload).sum) := by
            rw [List.map_cons, List.sum_cons, ← heq]
            exact Nat.add_left_comm _ _ _
          rw [htotal, hcount]
          omega

/-- The payload that `LTENR_RLC_UM_SEND_PDU` hands to the MAC sublayer. -/
def grantBytes (s : UmTransmitter) (size : Nat) (channel : LogicalChannel) : Nat :=
  handedBytes UmdPdu.dPayload s.mac (s.sendPdu size channel).mac

theorem grantBytes_eq (s : UmTransmitter) (size : Nat) (channel : LogicalChannel) :
    s.grantBytes size channel =
      ((rounds channel size s.transmissionBuffer).map Round.dPayload).sum :=
  handedBytes_eq (mac_sendPdus channel s size s.transmissionBuffer)

theorem respects_iff (s : UmTransmitter) {size : Nat} (hsize : size < 2 ^ 32)
    (channel : LogicalChannel) :
    Respects size (s.grantBytes size channel) (rounds channel size s.transmissionBuffer)
        (s.sendPduReturn size channel) ↔ ControlFits channel size s.transmissionBuffer := by
  refine ⟨fun h => (no_wrap_iff hsize).1 h.no_wrap, fun hfits => ?_⟩
  have hwrap := (no_wrap_iff hsize).2 hfits
  have hcount := leftAfter_add hsize hwrap
  rw [grantBytes_eq]
  refine ⟨by omega, hwrap, ?_⟩
  unfold sendPduReturn
  rw [sub32_of_le (by omega) hsize]
  omega

end UmTransmitter

/-! ## AM entities -/

/-- The payload of the buffers of a list that go into `left` bytes, each with the bytes that `take`
gives it. -/
def fill (take : Nat → RlcBuffer → Nat) : Nat → List RlcBuffer → Nat
  | _, [] => 0
  | left, b :: l => take left b + fill take (left - take left b) l

theorem fill_eq_zero {take : Nat → RlcBuffer → Nat} {left : Nat} {l : List RlcBuffer}
    (h : ∀ b ∈ l, take left b = 0) : fill take left l = 0 := by
  induction l with
  | nil => rfl
  | cons b l ih =>
    obtain ⟨hb, hl⟩ := List.forall_mem_cons.1 h
    unfold fill
    rw [hb, Nat.sub_zero, ih hl]

theorem fill_split {take : Nat → RlcBuffer → Nat} {left : Nat} {pre post : List RlcBuffer}
    {buf : RlcBuffer} (hpre : ∀ b ∈ pre, take left b = 0)
    (hpre' : ∀ b ∈ pre, take (left - take left buf) b = 0) :
    fill take left (pre ++ buf :: post) =
      take left buf + fill take (left - take left buf) (pre ++ post) := by
  induction pre with
  | nil => rfl
  | cons b pre ih =>
    obtain ⟨hb, hl⟩ := List.forall_mem_cons.1 hpre
    obtain ⟨hb', hl'⟩ := List.forall_mem_cons.1 hpre'
    rw [List.cons_append, List.cons_append, fill, hb, Nat.sub_zero, Nat.zero_add, ih hl hl', fill,
      hb', Nat.sub_zero, Nat.zero_add]

namespace TransmittingEntity

/-- The rounds of the loop of `LTENR_RLCAM_SendPDUFromRetransmissionBuffer`. -/
def retransmissionRounds (channel : LogicalChannel) :
    Nat → TransmittingEntity → Nat → List Round
  | 0, _, _ => []
  | n + 1, s, left =>
    match splitFirst (s.retransmits channel left) s.retransmissionBuffer with
    | none => []
    | some (pre, buf, post) =>
      if left < minRlcPduSize then []
      else ⟨left, buf.dPayload⟩ ::
        retransmissionRounds channel n (s.sendAgain pre buf post) (left - buf.dPayload)

/-- The rounds of the loop of `LTENR_RLCAM_SendPDUFromTransmissionBuffer`. -/
def transmissionRounds (channel : LogicalChannel) : Nat → TransmittingEntity → Nat → List Round
  | 0, _, _ => []
  | n + 1, s, left =>
    match splitFirst (s.transmits channel left) s.transmissionBuffer with
    | none => []
    | some (pre, buf, post) =>
      if left < minRlcPduSize then []
      else ⟨left, (buf.fragment left).1.dPayload⟩ ::
        transmissionRounds channel n (s.sendNew left pre buf post)
          (left - (buf.fragment left).1.dPayload)

/-- The rounds of both loops of `LTENR_RLCAM_SEND_PDU`. -/
def rounds (s : TransmittingEntity) (size : Nat) (channel : LogicalChannel) : List Round :=
  let (t, left) := sendPDUFromRetransmissionBuffer channel s.retransmissionBuffer.length s size
  retransmissionRounds channel s.retransmissionBuffer.length s size ++
    transmissionRounds channel t.transmissionBuffer.length t left

/-- The value that `LTENR_RLCAM_SEND_PDU` returns. -/
def sendPduReturn (s : TransmittingEntity) (size : Nat) (channel : LogicalChannel) : Nat :=
  let (t, left) := sendPDUFromRetransmissionBuffer channel s.retransmissionBuffer.length s size
  let sent := size - left
  let (_, left) :=
    sendPDUFromTransmissionBuffer channel t.transmissionBuffer.length t (size - sent)
  let sent := sent + (size - sent - left)
  size - sent

/-- The payload that `LTENR_RLCAM_SEND_PDU` hands to the MAC sublayer. -/
def grantBytes (s : TransmittingEntity) (size : Nat) (channel : LogicalChannel) : Nat :=
  handedBytes AmdPdu.dPayload s.mac (s.sendPdu size channel).mac

def isEligible (s : TransmittingEntity) (channel : LogicalChannel) (b : RlcBuffer) : Bool :=
  b.channel = channel && s.isSNFallsInTransmittingWindow b.SN

def takeWhole (s : TransmittingEntity) (channel : LogicalChannel) (left : Nat) (b : RlcBuffer) :
    Nat :=
  if minRlcPduSize ≤ left ∧ s.isEligible channel b ∧ b.dPayload ≤ left then b.dPayload else 0

def takePart (s : TransmittingEntity) (channel : LogicalChannel) (left : Nat) (b : RlcBuffer) :
    Nat :=
  if minRlcPduSize ≤ left ∧ s.isEligible channel b then min b.dPayload left else 0

def fits (s : TransmittingEntity) (size : Nat) (channel : LogicalChannel) : Nat :=
  let again := fill (s.takeWhole channel) size s.retransmissionBuffer
  again + fill (s.takePart channel) (size - again) s.transmissionBuffer

variable {s s' s'' : TransmittingEntity} {channel : LogicalChannel} {left left' left'' size : Nat}
  {rounds rounds' : List Round}

/-! ### The counter of a sending loop -/

/-- Some rounds lead from `s`, with `left` bytes left, to `s'`, with `left'` bytes left. -/
structure Counted (s s' : TransmittingEntity) (left left' : Nat) (rounds : List Round) : Prop where
  mac : s'.mac.map AmdPdu.dPayload = s.mac.map AmdPdu.dPayload ++ rounds.map Round.dPayload
  no_wrap : ∀ r ∈ rounds, r.dPayload ≤ r.left
  count : left' + (rounds.map Round.dPayload).sum = left

theorem Counted.refl (s : TransmittingEntity) (left : Nat) : Counted s s left left [] :=
  ⟨(List.append_nil _).symm, nofun, rfl⟩

theorem Counted.append (h : Counted s s' left left' rounds)
    (h' : Counted s' s'' left' left'' rounds') : Counted s s'' left left'' (rounds ++ rounds') := by
  refine ⟨?_, ?_, ?_⟩
  · rw [h'.mac, h.mac, List.map_append, List.append_assoc]
  · intro r hr
    rcases List.mem_append.1 hr with hr | hr
    · exact h.no_wrap r hr
    · exact h'.no_wrap r hr
  · have h1 := h.count
    have h2 := h'.count
    rw [List.map_append, List.sum_append]
    omega

theorem Counted.round {p : AmdPdu} (hmac : ∃ P, s'.mac = s.mac ++ [{ p with P := P }])
    (hle : p.dPayload ≤ left) : Counted s s' left (left - p.dPayload) [⟨left, p.dPayload⟩] := by
  obtain ⟨P, hmac⟩ := hmac
  refine ⟨?_, fun r hr => ?_, ?_⟩
  · rw [hmac, List.map_append]
    rfl
  · rw [List.mem_singleton.1 hr]
    exact hle
  · exact Nat.sub_add_cancel hle

theorem dPayload_fragment (b : RlcBuffer) (left : Nat) :
    (b.fragment left).1.dPayload = min b.dPayload left := by
  unfold RlcBuffer.fragment
  split
  · next h => exact (Nat.min_eq_right (Nat.le_of_lt h)).symm
  · next h => exact (Nat.min_eq_left (Nat.not_lt.1 h)).symm

theorem counted_retransmission (channel : LogicalChannel) (n : Nat) (s : TransmittingEntity)
    (left : Nat) :
    Counted s (sendPDUFromRetransmissionBuffer channel n s left).1 left
      (sendPDUFromRetransmissionBuffer channel n s left).2
      (retransmissionRounds channel n s left) := by
  induction n generalizing s left with
  | zero => exact .refl s left
  | succ n ih =>
    unfold sendPDUFromRetransmissionBuffer retransmissionRounds
    cases hsplit : splitFirst (s.retransmits channel left) s.retransmissionBuffer with
    | none => exact .refl s left
    | some r =>
      obtain ⟨pre, buf, post⟩ := r
      dsimp only
      by_cases hleft : left < minRlcPduSize
      · rw [if_pos hleft, if_pos hleft]
        exact .refl s left
      · rw [if_neg hleft, if_neg hleft]
        obtain ⟨-, hstop, -⟩ := splitFirst_some hsplit
        simp only [retransmits, Bool.and_eq_true, Bool.or_eq_true, decide_eq_true_eq] at hstop
        have hle : buf.pdu.dPayload ≤ left := (hstop.2.resolve_left hleft).2
        obtain ⟨-, -, -, -, -, -, hmac⟩ := sent_sendAgain s pre buf post
        exact (Counted.round hmac hle).append (ih _ _)

theorem counted_transmission (channel : LogicalChannel) (n : Nat) (s : TransmittingEntity)
    (left : Nat) :
    Counted s (sendPDUFromTransmissionBuffer channel n s left).1 left
      (sendPDUFromTransmissionBuffer channel n s left).2
      (transmissionRounds channel n s left) := by
  induction n generalizing s left with
  | zero => exact .refl s left
  | succ n ih =>
    unfold sendPDUFromTransmissionBuffer transmissionRounds
    cases hsplit : splitFirst (s.transmits channel left) s.transmissionBuffer with
    | none => exact .refl s left
    | some r =>
      obtain ⟨pre, buf, post⟩ := r
      dsimp only
      by_cases hleft : left < minRlcPduSize
      · rw [if_pos hleft, if_pos hleft]
        exact .refl s left
      · rw [if_neg hleft, if_neg hleft]
        have hle : (buf.fragment left).1.pdu.dPayload ≤ left := by
          change (buf.fragment left).1.dPayload ≤ left
          rw [dPayload_fragment]
          exact Nat.min_le_right _ _
        obtain ⟨-, -, -, -, -, -, hmac⟩ := sent_sendNew s left pre buf post
        exact (Counted.round hmac hle).append (ih _ _)

/-! ### The bytes that a sending loop uses -/

theorem isEligible_congr (h : s'.TX_Next_Ack = s.TX_Next_Ack) :
    s'.isEligible channel = s.isEligible channel := by
  funext b
  unfold isEligible isSNFallsInTransmittingWindow
  rw [h]

theorem takeWhole_congr (h : s'.TX_Next_Ack = s.TX_Next_Ack) :
    s'.takeWhole channel = s.takeWhole channel := by
  funext left b
  unfold takeWhole
  rw [isEligible_congr h]

theorem takePart_congr (h : s'.TX_Next_Ack = s.TX_Next_Ack) :
    s'.takePart channel = s.takePart channel := by
  funext left b
  unfold takePart
  rw [isEligible_congr h]

theorem retransmission_fill (channel : LogicalChannel) (n : Nat) (s : TransmittingEntity)
    (left : Nat) (hn : s.retransmissionBuffer.length ≤ n) :
    (sendPDUFromRetransmissionBuffer channel n s left).2 +
        fill (s.takeWhole channel) left s.retransmissionBuffer = left ∧
      (sendPDUFromRetransmissionBuffer channel n s left).1.TX_Next_Ack = s.TX_Next_Ack ∧
      (sendPDUFromRetransmissionBuffer channel n s left).1.transmissionBuffer =
        s.transmissionBuffer := by
  induction n generalizing s left with
  | zero =>
    rw [List.eq_nil_of_length_eq_zero (Nat.le_zero.1 hn)]
    exact ⟨rfl, rfl, rfl⟩
  | succ n ih =>
    unfold sendPDUFromRetransmissionBuffer
    split
    · next hsplit =>
      have hnone := splitFirst_eq_none.1 hsplit
      have hzero : fill (s.takeWhole channel) left s.retransmissionBuffer = 0 := by
        refine fill_eq_zero fun b hb => if_neg ?_
        rintro ⟨-, helig, hle⟩
        have hno := hnone b hb
        simp only [isEligible, Bool.and_eq_true, decide_eq_true_eq] at helig
        simp [retransmits, helig.1, helig.2, hle] at hno
      rw [hzero]
      exact ⟨rfl, rfl, rfl⟩
    · next pre buf post hsplit =>
      obtain ⟨hlist, hstop, hpass⟩ := splitFirst_some hsplit
      split
      · next hmin =>
        have hzero : fill (s.takeWhole channel) left s.retransmissionBuffer = 0 :=
          fill_eq_zero fun b _ => if_neg fun h => by have := h.1; omega
        rw [hzero]
        exact ⟨rfl, rfl, rfl⟩
      · next hmin =>
        simp only [retransmits, Bool.and_eq_true, Bool.or_eq_true, decide_eq_true_eq] at hstop
        obtain ⟨hchannel, hgo⟩ := hstop
        obtain ⟨hwindow, hle⟩ := hgo.resolve_left hmin
        have htake : s.takeWhole channel left buf = buf.dPayload :=
          if_pos ⟨by omega, by simp [isEligible, hchannel, hwindow], hle⟩
        have hpass' (left' : Nat) (hleft' : left' ≤ left) :
            ∀ b ∈ pre, s.takeWhole channel left' b = 0 := by
          refine fun b hb => if_neg ?_
          rintro ⟨-, helig, hle'⟩
          have hno := hpass b hb
          simp only [isEligible, Bool.and_eq_true, decide_eq_true_eq] at helig
          simp only [retransmits, helig.1, helig.2, decide_true, Bool.true_and,
            Bool.or_eq_false_iff, decide_eq_false_iff_not] at hno
          omega
        obtain ⟨hack, -, htransmission, hretx, -⟩ := sent_sendAgain s pre buf post
        have hlength : (s.sendAgain pre buf post).retransmissionBuffer.length ≤ n := by
          rw [hretx]
          rw [hlist, List.length_append, List.length_cons] at hn
          rw [List.length_append]
          omega
        obtain ⟨hcount, hack', htransmission'⟩ := ih _ (left - buf.dPayload) hlength
        refine ⟨?_, hack'.trans hack, htransmission'.trans htransmission⟩
        rw [takeWhole_congr hack, hretx] at hcount
        rw [hlist, fill_split (hpass' left le_rfl) (hpass' _ (Nat.sub_le _ _)), htake]
        omega

theorem transmission_of_lt (h : left < minRlcPduSize) (channel : LogicalChannel) (n : Nat)
    (s : TransmittingEntity) : sendPDUFromTransmissionBuffer channel n s left = (s, left) := by
  cases n with
  | zero => rfl
  | succ n =>
    unfold sendPDUFromTransmissionBuffer
    split
    · rfl
    · exact if_pos h

theorem fill_takePart_of_lt (h : left < minRlcPduSize) (s : TransmittingEntity)
    (channel : LogicalChannel) (l : List RlcBuffer) : fill (s.takePart channel) left l = 0 :=
  fill_eq_zero fun _ _ => if_neg fun ⟨hmin, _⟩ => Nat.not_lt.2 hmin h

theorem transmission_fill (channel : LogicalChannel) (n : Nat) (s : TransmittingEntity)
    (left : Nat) (hn : s.transmissionBuffer.length ≤ n) :
    (sendPDUFromTransmissionBuffer channel n s left).2 +
        fill (s.takePart channel) left s.transmissionBuffer = left := by
  induction n generalizing s left with
  | zero =>
    rw [List.eq_nil_of_length_eq_zero (Nat.le_zero.1 hn)]
    rfl
  | succ n ih =>
    unfold sendPDUFromTransmissionBuffer
    split
    · next hsplit =>
      have hnone := splitFirst_eq_none.1 hsplit
      have hzero : fill (s.takePart channel) left s.transmissionBuffer = 0 := by
        refine fill_eq_zero fun b hb => if_neg fun ⟨_, helig⟩ => ?_
        have hno := hnone b hb
        simp only [isEligible, Bool.and_eq_true, decide_eq_true_eq] at helig
        simp [transmits, helig.1, helig.2] at hno
      rw [hzero]
      rfl
    · next pre buf post hsplit =>
      obtain ⟨hlist, hstop, hpass⟩ := splitFirst_some hsplit
      split
      · next hmin => rw [fill_takePart_of_lt hmin, Nat.add_zero]
      · next hmin =>
        simp only [transmits, Bool.and_eq_true, Bool.or_eq_true, decide_eq_true_eq] at hstop
        obtain ⟨hchannel, hgo⟩ := hstop
        have hwindow := hgo.resolve_left hmin
        have htake : s.takePart channel left buf = min buf.dPayload left :=
          if_pos ⟨by omega, by simp [isEligible, hchannel, hwindow]⟩
        have hpass' (left' : Nat) : ∀ b ∈ pre, s.takePart channel left' b = 0 := by
          refine fun b hb => if_neg fun ⟨_, helig⟩ => ?_
          have hno := hpass b hb
          simp only [isEligible, Bool.and_eq_true, decide_eq_true_eq] at helig
          simp [transmits, helig.1, helig.2] at hno
        obtain ⟨hack, -, htransmission, -⟩ := sent_sendNew s left pre buf post
        rw [hlist, fill_split (hpass' left) (hpass' _), htake, dPayload_fragment]
        by_cases hcut : left < buf.dPayload
        · -- The packet takes all that is left.
          have hmin' : left - min buf.dPayload left < minRlcPduSize := by
            rw [Nat.min_eq_right (Nat.le_of_lt hcut), Nat.sub_self]
            decide
          rw [transmission_of_lt hmin', fill_takePart_of_lt hmin']
          exact Nat.sub_add_cancel (Nat.min_le_right _ _)
        · have hrest : (buf.fragment left).2 = none := by
            unfold RlcBuffer.fragment
            rw [if_neg hcut]
          rw [hrest, Option.toList_none, List.nil_append] at htransmission
          have hlength : (s.sendNew left pre buf post).transmissionBuffer.length ≤ n := by
            rw [htransmission]
            rw [hlist, List.length_append, List.length_cons] at hn
            rw [List.length_append]
            omega
          have hcount := ih _ (left - min buf.dPayload left) hlength
          rw [takePart_congr hack, htransmission] at hcount
          rw [Nat.add_left_comm, hcount]
          exact Nat.add_sub_cancel' (Nat.min_le_right _ _)

/-! ### A grant -/

theorem counted_sendPdu (s : TransmittingEntity) (size : Nat) (channel : LogicalChannel) :
    ∃ left, Counted s (s.sendPdu size channel) size left (s.rounds size channel) ∧
      left + s.fits size channel = size ∧ s.sendPduReturn size channel = left := by
  obtain ⟨hfill, hack, htransmission⟩ := retransmission_fill channel
    s.retransmissionBuffer.length s size le_rfl
  have hcounted := counted_retransmission channel s.retransmissionBuffer.length s size
  unfold sendPdu rounds sendPduReturn fits
  cases hloop : sendPDUFromRetransmissionBuffer channel s.retransmissionBuffer.length s size with
  | mk t left =>
    rw [hloop] at hfill hack htransmission hcounted
    dsimp only at hfill hack htransmission hcounted ⊢
    have hcounted' := counted_transmission channel t.transmissionBuffer.length t left
    have hfill' := transmission_fill channel t.transmissionBuffer.length t left le_rfl
    rw [takePart_congr hack, htransmission] at hfill'
    have hsent : size - (size - left) = left := by omega
    have hagain : size - fill (s.takeWhole channel) size s.retransmissionBuffer = left := by omega
    rw [hsent, hagain]
    refine ⟨_, hcounted.append hcounted', ?_, ?_⟩
    · rw [htransmission]
      omega
    · rw [htransmission]
      omega

theorem grantBytes_eq (s : TransmittingEntity) (size : Nat) (channel : LogicalChannel) :
    s.grantBytes size channel = s.fits size channel := by
  obtain ⟨left, hcounted, hfits, -⟩ := counted_sendPdu s size channel
  unfold grantBytes
  rw [handedBytes_eq hcounted.mac]
  have := hcounted.count
  omega

theorem grantBytes_le (s : TransmittingEntity) (size : Nat) (channel : LogicalChannel) :
    s.grantBytes size channel ≤ size := by
  obtain ⟨left, -, hfits, -⟩ := counted_sendPdu s size channel
  rw [grantBytes_eq]
  omega

theorem respects_iff (s : TransmittingEntity) (size : Nat) (channel : LogicalChannel) :
    Respects size (s.grantBytes size channel) (s.rounds size channel)
        (s.sendPduReturn size channel) ↔ 2 * s.fits size channel = size := by
  obtain ⟨left, hcounted, hfits, hreturn⟩ := counted_sendPdu s size channel
  rw [grantBytes_eq, hreturn]
  constructor
  · intro h
    have := h.returned
    omega
  · intro h
    exact ⟨by omega, hcounted.no_wrap, by omega⟩

end TransmittingEntity

/-! ## Both entities -/

/-- `fn_NetSim_LTENR_RLC_TransmissionStatusNotification`, for the UM and the AM entity. -/
def transmissionStatusNotification (um : UmTransmitter) (am : TransmittingEntity) (size : Nat)
    (channel : LogicalChannel) : UmTransmitter × TransmittingEntity :=
  let left := if channel.isForUm then sub32 size (um.sendPduReturn size channel) else size
  (if channel.isForUm then um.sendPdu size channel else um,
    if channel.isForAm then am.sendPdu left channel else am)

/-- Grants of `size` bytes are respected, by each entity and by both together. -/
structure GrantsRespected (um : UmTransmitter) (am : TransmittingEntity) (size : Nat)
    (channel : LogicalChannel) : Prop where
  um_respects : Respects size (um.grantBytes size channel)
    (UmTransmitter.rounds channel size um.transmissionBuffer) (um.sendPduReturn size channel)
  am_respects : Respects size (am.grantBytes size channel) (am.rounds size channel)
    (am.sendPduReturn size channel)
  total_le : handedBytes UmdPdu.dPayload um.mac
        (transmissionStatusNotification um am size channel).1.mac +
      handedBytes AmdPdu.dPayload am.mac
        (transmissionStatusNotification um am size channel).2.mac ≤ size

theorem notification_le {um : UmTransmitter} (am : TransmittingEntity) {size : Nat}
    (hsize : size < 2 ^ 32) {channel : LogicalChannel}
    (h : UmTransmitter.ControlFits channel size um.transmissionBuffer) :
    handedBytes UmdPdu.dPayload um.mac (transmissionStatusNotification um am size channel).1.mac +
      handedBytes AmdPdu.dPayload am.mac
        (transmissionStatusNotification um am size channel).2.mac ≤ size := by
  obtain ⟨htotal, -, hreturn⟩ := (um.respects_iff hsize channel).2 h
  have hnone {α : Type} (dPayload : α → Nat) (mac : List α) : handedBytes dPayload mac mac = 0 := by
    simp [handedBytes]
  have ham (size' : Nat) : handedBytes AmdPdu.dPayload am.mac
      (if channel.isForAm then am.sendPdu size' channel else am).mac ≤ size' := by
    split
    · exact am.grantBytes_le size' channel
    · rw [hnone]
      exact Nat.zero_le _
  unfold transmissionStatusNotification
  by_cases hchannel : channel.isForUm = true
  · have hleft : sub32 size (um.sendPduReturn size channel) =
        size - um.grantBytes size channel := by
      rw [hreturn, sub32_of_le htotal hsize]
    rw [if_pos hchannel, if_pos hchannel, hleft]
    calc um.grantBytes size channel + _
        ≤ um.grantBytes size channel + (size - um.grantBytes size channel) :=
          Nat.add_le_add_left (ham _) _
      _ = size := Nat.add_sub_cancel' htotal
  · rw [if_neg hchannel, if_neg hchannel, hnone, Nat.zero_add]
    exact ham size

/-- Grants are respected if and only if the control packets of the UM entity fit, and those of the
AM entity take half of the grant. -/
theorem grantsRespected_iff (um : UmTransmitter) (am : TransmittingEntity) {size : Nat}
    (hsize : size < 2 ^ 32) (channel : LogicalChannel) :
    GrantsRespected um am size channel ↔
      UmTransmitter.ControlFits channel size um.transmissionBuffer ∧
        2 * am.fits size channel = size := by
  constructor
  · intro h
    exact ⟨(um.respects_iff hsize channel).1 h.um_respects,
      (am.respects_iff size channel).1 h.am_respects⟩
  · rintro ⟨hum, ham⟩
    exact ⟨(um.respects_iff hsize channel).2 hum, (am.respects_iff size channel).2 ham,
      notification_le am hsize hum⟩

/-- Grants for a UM entity with a packet of 50 bytes, and an AM entity with one of 100. -/
theorem grantsRespected_half :
    GrantsRespected (UmTransmitter.establish.handlePDUFromUpperLayer .dtch true 1 50)
      ((TransmittingEntity.establish 4 4 100).handlePDUFromUpperLayer .dtch 2 100) 200 .dtch :=
  (grantsRespected_iff _ _ (by decide) _).2
    ⟨UmTransmitter.controlFits_of_isUplane (by decide), by decide⟩

/-- An AM entity with a packet of 100 bytes returns 900 for a grant of 1000. -/
theorem not_grantsRespected : ¬ ∀ (um : UmTransmitter) (am : TransmittingEntity) (size : Nat)
    (channel : LogicalChannel), size < 2 ^ 32 → GrantsRespected um am size channel := by
  intro h
  have hreturned := (h UmTransmitter.establish
    ((TransmittingEntity.establish 4 4 100).handlePDUFromUpperLayer .dtch 2 100) 1000 .dtch
    (by decide)).am_respects.returned
  exact absurd hreturned (by decide)

end NetSim.Rlc
