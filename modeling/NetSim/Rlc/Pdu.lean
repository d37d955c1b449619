import NetSim.Tcp.Segment

/-!
# PDUs of the RLC sublayer in acknowledged mode (`LTENR_RLCMSG.h`, `LTENR_RLCMSG.c`)

A segment of an SDU with its header is an AMD PDU. Sequence numbers are `UINT` and segment offsets
`UINT16`; the offset of a segment is its place among those of its SDU.
-/

namespace NetSim.Rlc

open NetSim.Tcp (u32 u16)

/-- The value that a `UINT8` keeps of `n`. -/
def u8 (n : Nat) : Nat := n % 2 ^ 8

/-- `AM_Window_Size`, for sequence numbers of 12 bits. -/
def amWindowSize : Nat := 0x800

def minRlcPduSize : Nat := 10

inductive LogicalChannel
  | none | pcch | bcch | ccch | dcch | dtch
deriving DecidableEq

inductive SI
  | all | first | last | middle
deriving DecidableEq

def SI.isEnd : SI → Bool
  | .all | .last => true
  | .first | .middle => false

/-- An AMD PDU: `LTENR_RLCMSG_AMDHDR`, and the part of the packet that RLC reads. -/
structure AmdPdu where
  P : Bool
  si : SI
  SN : Nat
  SO : Nat
  nPacketId : Nat
  dPayload : Nat
deriving DecidableEq

/-! ## SDUs -/

/-- An SDU, and the bytes of each segment that it has been cut into. -/
structure Sdu where
  nPacketId : Nat
  segments : List Nat
  length_pos : 0 < segments.length
  length_lt : segments.length < 2 ^ 16
deriving DecidableEq

/-- The `SI` of the segment with offset `so`. -/
def Sdu.si (sdu : Sdu) (so : Nat) : SI :=
  if so + 1 = sdu.segments.length then if so = 0 then .all else .last
  else if so = 0 then .first else .middle

/-- `p` carries a segment of `sdu`. -/
structure AmdPdu.IsSegment (sdu : Sdu) (p : AmdPdu) : Prop where
  so_lt : p.SO < sdu.segments.length
  si_eq : p.si = sdu.si p.SO
  nPacketId_eq : p.nPacketId = sdu.nPacketId
  dPayload_eq : p.dPayload = sdu.segments.getD p.SO 0

/-- The AMD PDU with the segment `so` of `sdu`, whose sequence number is `sn`. -/
def Sdu.pdu (sdu : Sdu) (P : Bool) (sn so : Nat) : AmdPdu where
  P := P
  si := sdu.si so
  SN := sn
  SO := so
  nPacketId := sdu.nPacketId
  dPayload := sdu.segments.getD so 0

theorem Sdu.isSegment_pdu {sdu : Sdu} {P : Bool} {sn so : Nat} (h : so < sdu.segments.length) :
    (sdu.pdu P sn so).IsSegment sdu := ⟨h, rfl, rfl, rfl⟩

namespace AmdPdu.IsSegment

variable {sdu : Sdu} {p : AmdPdu} (h : p.IsSegment sdu)
include h

theorem isEnd_iff : p.si.isEnd = true ↔ p.SO + 1 = sdu.segments.length := by
  rw [h.si_eq]
  unfold Sdu.si
  by_cases hlast : p.SO + 1 = sdu.segments.length
  · rw [if_pos hlast]
    constructor
    · exact fun _ => hlast
    · intro _
      split <;> rfl
  · rw [if_neg hlast]
    constructor
    · intro hend
      split at hend <;> cases hend
    · exact fun hlast' => absurd hlast' hlast

theorem all_iff : p.si = .all ↔ p.SO = 0 ∧ sdu.segments.length = 1 := by
  rw [h.si_eq]
  unfold Sdu.si
  by_cases hlast : p.SO + 1 = sdu.segments.length
  · rw [if_pos hlast]
    by_cases hzero : p.SO = 0
    · rw [if_pos hzero]
      exact ⟨fun _ => ⟨hzero, by omega⟩, fun _ => rfl⟩
    · rw [if_neg hzero]
      exact ⟨nofun, fun ⟨hzero', _⟩ => absurd hzero' hzero⟩
  · rw [if_neg hlast]
    constructor
    · intro hall
      split at hall <;> cases hall
    · rintro ⟨hzero, hone⟩
      omega

end AmdPdu.IsSegment

/-- `LTENR_RLCMSG_STATUSPDU_NACK`. -/
structure Nack where
  NAck_SN : Nat
  E2 : Bool
  E3 : Bool
  soStart : Nat
  soEnd : Nat
  NAckRange : Nat
deriving DecidableEq

/-- The segment `so` of the SDU `sn` is among those that the NACK reports. -/
def Nack.Reports (n : Nack) (sn so : Nat) : Prop :=
  if n.E3 then n.NAck_SN ≤ sn ∧ sn < n.NAck_SN + n.NAckRange
  else if n.E2 then sn = n.NAck_SN ∧ n.soStart ≤ so ∧ so ≤ n.soEnd
  else sn = n.NAck_SN

structure StatusPdu where
  Ack_SN : Nat
  nacks : List Nack
deriving DecidableEq

end NetSim.Rlc
