import NetSim.Wlan.BlockAck

/-!
# What a block ack says

A block ack has the bits of the subframes that have arrived, and those left over from A-MPDUs whose
last subframe was lost. Its copy has no bits, and the sender reads only the first.
-/

namespace NetSim.Wlan

theorem getLsbD_setBit64 (val : BitVec 64) (k j : ℕ) :
    (setBit64 val k).getLsbD j = (val.getLsbD j || decide (j = k ∧ k < 64)) := by
  unfold setBit64
  grind

theorem bitIsSet64_eq (val : BitVec 64) (j : ℕ) : bitIsSet64 val j = val.getLsbD j := by
  have hbit : ∀ k, (val &&& (1#64 <<< j)).getLsbD k = (val.getLsbD k && decide (k = j)) := by
    intro k
    grind
  cases hj : val.getLsbD j with
  | true =>
    refine bne_iff_ne.2 fun hzero => ?_
    have h := hbit j
    rw [hzero, hj] at h
    simp at h
  | false =>
    refine bne_eq_false_iff_eq.2 (BitVec.eq_of_getLsbD_eq fun k _ => ?_)
    rw [hbit k]
    by_cases hk : k = j
    · subst hk
      simp [hj]
    · simp [hk]

/-! ## The receiver -/

def ackBits (packet : Option Hdr) (k : ℕ) : Bool :=
  match packet with
  | some hdr => (hdr.bitMap.getD 0#64).getLsbD k
  | none => false

def IsBlockAck (hdr : Hdr) : Prop := hdr.hdrType = .ack ∧ ∃ frame, hdr.hdr = .blockAck frame

theorem setBlockAckBitmap_isBlockAck {hdr : Hdr} (h : IsBlockAck hdr) (data : MacHeader) :
    IsBlockAck (setBlockAckBitmap hdr data) := by
  obtain ⟨htype, frame, hframe⟩ := h
  unfold setBlockAckBitmap
  rw [hframe]
  exact ⟨htype, _, rfl⟩

theorem ackBits_setBlockAckBitmap {hdr : Hdr} (h : IsBlockAck hdr) {data : MacHeader}
    (hnum : data.sequenceNumber - 1 < 64) (k : ℕ) :
    ackBits (some (setBlockAckBitmap hdr data)) k =
      (ackBits (some hdr) k || decide (k = data.sequenceNumber - 1)) := by
  obtain ⟨-, frame, hframe⟩ := h
  unfold setBlockAckBitmap
  simp only [ackBits, Hdr.bitMap, hframe, Option.getD_some]
  rw [getLsbD_setBit64]
  simp [hnum]

namespace Receiver

def Builds (mac : Receiver) : Prop := ∀ hdr ∈ mac.blockAckPacket, IsBlockAck hdr

theorem sendBlockAck_cases {mac : Receiver} (hmac : mac.Builds) (data : MacHeader) (sendInterfaceId : ℕ)
    (hnum : data.sequenceNumber - 1 < 64) :
    ∃ packet, IsBlockAck packet ∧
      (∀ k, ackBits (some packet) k =
        (ackBits mac.blockAckPacket k || decide (k = data.sequenceNumber - 1))) ∧
      mac.sendBlockAck data sendInterfaceId =
        if data.moreFragment then (none, { mac with blockAckPacket := some packet })
        else (some packet, { mac with blockAckPacket := none }) := by
  unfold sendBlockAck
  cases hpacket : mac.blockAckPacket with
  | some packet =>
    have hack : IsBlockAck packet := hmac packet hpacket
    exact ⟨_, setBlockAckBitmap_isBlockAck hack data, ackBits_setBlockAckBitmap hack hnum, rfl⟩
  | none =>
    have hack : IsBlockAck (mac.createBlockAckPacket data sendInterfaceId) := ⟨rfl, _, rfl⟩
    refine ⟨_, setBlockAckBitmap_isBlockAck hack data, fun k => ?_, rfl⟩
    rw [ackBits_setBlockAckBitmap hack hnum]
    simp [ackBits, Hdr.bitMap, createBlockAckPacket]

def receives (mac : Receiver) (sendInterfaceId : ℕ) (arrives : ℕ → Bool) :
    List MacHeader → List Hdr × Receiver
  | [] => ([], mac)
  | data :: rest =>
    if arrives data.sequenceNumber then
      let r := mac.sendBlockAck data sendInterfaceId
      let r' := r.2.receives sendInterfaceId arrives rest
      (r.1.toList ++ r'.1, r'.2)
    else mac.receives sendInterfaceId arrives rest

end Receiver

/-! ## Runs of A-MPDUs -/

/-- An A-MPDU and the numbers of those of its subframes that arrive. -/
structure Ampdu where
  length : ℕ
  pos : 0 < length
  le : length ≤ 64
  arrives : ℕ → Bool

namespace Ampdu

/-- The `k`-th bit is to be set. -/
def received (a : Ampdu) (k : ℕ) : Bool := decide (k < a.length) && a.arrives (k + 1)

def ends (a : Ampdu) : Bool := a.arrives a.length

end Ampdu

namespace Receiver

/-- With the last subframe of an A-MPDU its block ack has gone out, and otherwise it is kept. -/
def Acknowledges (mac : Receiver) (last : Bool) (bits : ℕ → Bool) (r : List Hdr × Receiver) : Prop :=
  (last = true → r.2 = { mac with blockAckPacket := none } ∧
    ∃ packet, r.1 = [packet] ∧ IsBlockAck packet ∧ ∀ k, ackBits (some packet) k = bits k) ∧
  (last = false → r.1 = [] ∧ r.2.Builds ∧ ∀ k, ackBits r.2.blockAckPacket k = bits k)

theorem Acknowledges.congr {mac mac' : Receiver} {last : Bool} {bits bits' : ℕ → Bool}
    {r : List Hdr × Receiver} (h : mac.Acknowledges last bits r)
    (hmac : { mac with blockAckPacket := none } = { mac' with blockAckPacket := none })
    (hbits : ∀ k, bits k = bits' k) : mac'.Acknowledges last bits' r := by
  refine ⟨fun hlast => ?_, fun hlast => ?_⟩
  · obtain ⟨hr, packet, hsent, hack, hb⟩ := h.1 hlast
    exact ⟨hr.trans hmac, packet, hsent, hack, fun k => (hb k).trans (hbits k)⟩
  · obtain ⟨hsent, hbuilds, hb⟩ := h.2 hlast
    exact ⟨hsent, hbuilds, fun k => (hb k).trans (hbits k)⟩

theorem numberBit_last {i : ℕ} (hi : 0 < i) (arrives : ℕ → Bool) (k : ℕ) :
    (decide (i ≤ k + 1 ∧ k + 1 < i + 1) && arrives (k + 1)) = (decide (k = i - 1) && arrives i) := by
  by_cases hk : k = i - 1
  · subst hk
    rw [Nat.sub_add_cancel hi]
    simp
  · have hno : ¬ (i ≤ k + 1 ∧ k + 1 < i + 1) := by omega
    rw [decide_eq_false hk, decide_eq_false hno, Bool.false_and, Bool.false_and]

theorem numberBit_succ {i : ℕ} (hi : 0 < i) (n : ℕ) (arrives : ℕ → Bool) (k : ℕ) :
    (decide (i ≤ k + 1 ∧ k + 1 < i + (n + 1)) && arrives (k + 1)) =
      ((decide (k = i - 1) && arrives i) ||
        (decide (i + 1 ≤ k + 1 ∧ k + 1 < i + 1 + n) && arrives (k + 1))) := by
  by_cases hk : k = i - 1
  · subst hk
    have hyes : i ≤ i ∧ i < i + (n + 1) := by omega
    have hno : ¬ (i + 1 ≤ i ∧ i < i + 1 + n) := by omega
    rw [Nat.sub_add_cancel hi, decide_eq_true hyes, decide_eq_false hno, decide_eq_true rfl,
      Bool.false_and, Bool.or_false]
  · have hiff : (i ≤ k + 1 ∧ k + 1 < i + (n + 1)) ↔ (i + 1 ≤ k + 1 ∧ k + 1 < i + 1 + n) := by omega
    rw [decide_eq_false hk, Bool.false_and, Bool.false_or, decide_eq_decide.2 hiff]

theorem receives_addMacHeaders {α : Type} (sendInterfaceId address2 : ℕ) (arrives : ℕ → Bool)
    (packets : List α) {i : ℕ} {mac : Receiver} (hmac : mac.Builds) (hi : 0 < i)
    (hle : i + packets.length ≤ 65) (hne : packets ≠ []) :
    mac.Acknowledges (arrives (i + packets.length - 1))
      (fun k => ackBits mac.blockAckPacket k ||
        (decide (i ≤ k + 1 ∧ k + 1 < i + packets.length) && arrives (k + 1)))
      (mac.receives sendInterfaceId arrives (addMacHeaders address2 i packets)) := by
  induction packets generalizing i mac with
  | nil => exact absurd rfl hne
  | cons p rest ih =>
    rw [List.length_cons] at hle
    have hmod : i % 2 ^ 12 = i := Nat.mod_eq_of_lt (by omega)
    simp only [addMacHeaders, receives, hmod]
    cases hrest : rest with
    | nil =>
      simp only [List.length_cons, List.length_nil, Nat.zero_add, Nat.add_sub_cancel, addMacHeaders,
        receives, List.isEmpty_nil, Bool.not_true, List.append_nil]
      cases harr : arrives i with
      | true =>
        obtain ⟨packet, hack, hbits, heq⟩ := sendBlockAck_cases hmac ⟨address2, false, i⟩
          sendInterfaceId (by dsimp only; omega)
        rw [if_pos rfl, heq]
        refine ⟨fun _ => ⟨rfl, packet, rfl, hack, fun k => ?_⟩, nofun⟩
        dsimp only
        rw [hbits k, numberBit_last hi, harr, Bool.and_true]
      | false =>
        rw [if_neg Bool.false_ne_true]
        refine ⟨nofun, fun _ => ⟨rfl, hmac, fun k => ?_⟩⟩
        dsimp only
        rw [numberBit_last hi, harr, Bool.and_false, Bool.or_false]
    | cons q rest' =>
      have hne' : rest ≠ [] := by
        rw [hrest]
        exact List.cons_ne_nil _ _
      rw [← hrest]
      have hlast : i + (p :: rest).length - 1 = i + 1 + rest.length - 1 := by
        rw [List.length_cons]
        omega
      rw [hlast]
      have hempty : (!rest.isEmpty) = true := by
        rw [hrest]
        rfl
      cases harr : arrives i with
      | true =>
        obtain ⟨packet, hack, hbits, heq⟩ := sendBlockAck_cases hmac
          ⟨address2, !rest.isEmpty, i⟩ sendInterfaceId (by dsimp only; omega)
        rw [if_pos rfl, heq, if_pos hempty]
        have hbuilds : Builds { mac with blockAckPacket := some packet } := by
          rintro hdr hdr'
          cases hdr'
          exact hack
        refine (ih (i := i + 1) hbuilds (Nat.succ_pos i) (by omega) hne').congr rfl fun k => ?_
        rw [List.length_cons, numberBit_succ hi, harr, Bool.and_true, ← Bool.or_assoc, ← hbits k]
      | false =>
        refine (ih (i := i + 1) hmac (Nat.succ_pos i) (by omega) hne').congr rfl fun k => ?_
        rw [List.length_cons, numberBit_succ hi, harr, Bool.and_false, Bool.false_or]

def start (address interfaceId : ℕ) : Receiver :=
  { address, interfaceId, blockAckPacket := none }

/-- The sender at `sendInterfaceId`, whose address is `address2`, sends an A-MPDU. -/
def transmit (sendInterfaceId address2 : ℕ) (mac : Receiver) (a : Ampdu) : List Hdr × Receiver :=
  mac.receives sendInterfaceId a.arrives (addMacHeaders address2 1 (List.replicate a.length ()))

def afterAll (sendInterfaceId address2 : ℕ) (mac : Receiver) : List Ampdu → Receiver
  | [] => mac
  | a :: earlier => (transmit sendInterfaceId address2 (afterAll sendInterfaceId address2 mac earlier) a).2

theorem transmit_acknowledges {mac : Receiver} (hmac : mac.Builds) (sendInterfaceId address2 : ℕ)
    (a : Ampdu) :
    mac.Acknowledges a.ends (fun k => ackBits mac.blockAckPacket k || a.received k)
      (transmit sendInterfaceId address2 mac a) := by
  have hlen : (List.replicate a.length ()).length = a.length := List.length_replicate
  have hne : List.replicate a.length () ≠ [] := by
    rw [ne_eq, List.replicate_eq_nil_iff]
    exact Nat.ne_of_gt a.pos
  have hle : 1 + (List.replicate a.length ()).length ≤ 65 := by
    have := a.le
    omega
  have h := receives_addMacHeaders sendInterfaceId address2 a.arrives (List.replicate a.length ())
    hmac Nat.one_pos hle hne
  rw [hlen, Nat.add_sub_cancel_left] at h
  refine h.congr rfl fun k => ?_
  have hiff : (1 ≤ k + 1 ∧ k + 1 < 1 + a.length) ↔ k < a.length := by omega
  rw [decide_eq_decide.2 hiff]
  rfl

end Receiver

/-- The bits left over since the last A-MPDU, the latest first, whose last subframe has arrived. -/
def leftover : List Ampdu → ℕ → Bool
  | [], _ => false
  | a :: earlier, k => if a.ends then false else leftover earlier k || a.received k

namespace Receiver

theorem afterAll_spec (sendInterfaceId address2 address interfaceId : ℕ) (earlier : List Ampdu) :
    let mac := afterAll sendInterfaceId address2 (start address interfaceId) earlier
    mac.Builds ∧ ∀ k, ackBits mac.blockAckPacket k = leftover earlier k := by
  induction earlier with
  | nil => exact ⟨fun _ h => (nomatch h), fun _ => rfl⟩
  | cons a earlier ih =>
    obtain ⟨hbuilds, hbits⟩ := ih
    obtain ⟨hends, hkeeps⟩ := transmit_acknowledges hbuilds sendInterfaceId address2 a
    unfold afterAll leftover
    cases hlast : a.ends with
    | true =>
      obtain ⟨hr, -⟩ := hends hlast
      rw [hr]
      exact ⟨fun _ h => (nomatch h), fun _ => rfl⟩
    | false =>
      obtain ⟨-, hb, hk⟩ := hkeeps hlast
      exact ⟨hb, fun k => (hk k).trans (congrArg (· || _) (hbits k))⟩

end Receiver

/-! ## The sender -/

section Sender

variable {α : Type} (bitMap : BitVec 64) (ps : List α)

def acknowledged : List α := (ps.zipIdx.filter fun x => bitMap.getLsbD x.2).map Prod.fst

def unacknowledged : List α := (ps.zipIdx.filter fun x => !bitMap.getLsbD x.2).map Prod.fst

theorem processBlockAckLoop_eq (i : ℕ) :
    processBlockAckLoop bitMap i ps = if bitMap.getLsbD i then (ps, []) else ([], ps) := by
  induction ps with
  | nil => cases bitMap.getLsbD i <;> rfl
  | cons t p ih =>
    rw [processBlockAckLoop, ih, bitIsSet64_eq]
    cases bitMap.getLsbD i <;> rfl

theorem processBlockAck_iff :
    processBlockAck bitMap ps = (acknowledged bitMap ps, unacknowledged bitMap ps) ↔
      ∀ k < ps.length, bitMap.getLsbD k = bitMap.getLsbD 0 := by
  rw [processBlockAck, processBlockAckLoop_eq]
  have hmem : ∀ k, ∀ h : k < ps.length, (ps[k], k) ∈ ps.zipIdx := fun k h =>
    List.mem_zipIdx_iff_getElem?.2 (List.getElem?_eq_getElem h)
  have hlt : ∀ x ∈ ps.zipIdx, x.2 < ps.length := fun x hx => List.snd_lt_of_mem_zipIdx hx
  have hfst : ps.zipIdx.map Prod.fst = ps := List.zipIdx_map_fst 0 ps
  cases h0 : bitMap.getLsbD 0 with
  | true =>
    rw [if_pos rfl, Prod.mk.injEq]
    constructor
    · rintro ⟨-, hnone⟩ k hk
      by_contra hbit
      have hkept : (ps[k], k) ∈ ps.zipIdx.filter fun x => !bitMap.getLsbD x.2 :=
        List.mem_filter.2 ⟨hmem k hk, by simpa using hbit⟩
      exact List.ne_nil_of_mem (List.mem_map_of_mem hkept) hnone.symm
    · intro hall
      refine ⟨?_, ?_⟩
      · rw [acknowledged, List.filter_eq_self.2 fun x hx => hall x.2 (hlt x hx), hfst]
      · rw [unacknowledged, List.filter_eq_nil_iff.2 fun x hx => by simp [hall x.2 (hlt x hx)],
          List.map_nil]
  | false =>
    rw [if_neg Bool.false_ne_true, Prod.mk.injEq]
    constructor
    · rintro ⟨hnone, -⟩ k hk
      by_contra hbit
      have htaken : (ps[k], k) ∈ ps.zipIdx.filter fun x => bitMap.getLsbD x.2 :=
        List.mem_filter.2 ⟨hmem k hk, by simpa using hbit⟩
      exact List.ne_nil_of_mem (List.mem_map_of_mem htaken) hnone.symm
    · intro hall
      refine ⟨?_, ?_⟩
      · rw [acknowledged, List.filter_eq_nil_iff.2 fun x hx => by simp [hall x.2 (hlt x hx)],
          List.map_nil]
      · rw [unacknowledged, List.filter_eq_self.2 fun x hx => by simp [hall x.2 (hlt x hx)], hfst]

end Sender

theorem bitMap_hdrCopy {hdr : Hdr} (h : IsBlockAck hdr) : (hdrCopy hdr).bitMap = none := by
  obtain ⟨htype, frame, hframe⟩ := h
  unfold hdrCopy
  rw [htype]
  rw [hframe]
  rfl

/-- The block ack goes out with the last subframe, and is right exactly if every bit left over is
one of its own. Its copy never is; and the sender is right exactly if all bits are equal to the
first. -/
theorem blockAckHonest (sendInterfaceId address2 address interfaceId : ℕ) (earlier : List Ampdu)
    (a : Ampdu) {α : Type} :
    let mac := Receiver.afterAll sendInterfaceId address2 (.start address interfaceId) earlier
    let sent := (Receiver.transmit sendInterfaceId address2 mac a).1
    (a.ends = false → sent = []) ∧
    (a.ends = true → ∃ back, sent = [back] ∧
      ((∀ k, ackBits (some back) k = a.received k) ↔
        ∀ k, leftover earlier k = true → a.received k = true) ∧
      (hdrCopy back).bitMap = none) ∧
    ∀ (bitMap : BitVec 64) (currentProcessingPacket : List α),
      processBlockAck bitMap currentProcessingPacket =
          (acknowledged bitMap currentProcessingPacket, unacknowledged bitMap currentProcessingPacket) ↔
        ∀ k < currentProcessingPacket.length, bitMap.getLsbD k = bitMap.getLsbD 0 := by
  intro mac sent
  obtain ⟨hbuilds, hbits⟩ :=
    Receiver.afterAll_spec sendInterfaceId address2 address interfaceId earlier
  obtain ⟨hends, hkeeps⟩ := Receiver.transmit_acknowledges hbuilds sendInterfaceId address2 a
  refine ⟨fun hlast => (hkeeps hlast).1, fun hlast => ?_, processBlockAck_iff⟩
  obtain ⟨-, back, hsent, hack, hb⟩ := hends hlast
  refine ⟨back, hsent, ?_, bitMap_hdrCopy hack⟩
  have hor : ∀ k, ackBits (some back) k = (leftover earlier k || a.received k) := fun k =>
    (hb k).trans (congrArg (· || _) (hbits k))
  constructor
  · intro hhonest k hleft
    rw [← hhonest k, hor k, hleft, Bool.true_or]
  · intro hsub k
    rw [hor k]
    cases hleft : leftover earlier k with
    | false => rfl
    | true => rw [hsub k hleft, Bool.or_true]

/-- Of the first two subframes only the first arrives, of the next two only the second: the block
ack has both bits, its copy none. -/
theorem not_blockAckHonest :
    let first : Ampdu := ⟨2, by decide, by decide, fun k => k == 1⟩
    let second : Ampdu := ⟨2, by decide, by decide, fun k => k == 2⟩
    let mac := Receiver.afterAll 1 7 (.start 8 1) [first]
    let sent := (Receiver.transmit 1 7 mac second).1
    sent.map (fun back => (ackBits (some back) 0, ackBits (some back) 1, (hdrCopy back).bitMap)) =
        [(true, true, none)] ∧ second.received 0 = false ∧
      processBlockAck 2#64 ['p', 'q'] = ([], ['p', 'q']) ∧ acknowledged 2#64 ['p', 'q'] = ['q'] := by
  decide

end NetSim.Wlan
