import NetSim.Aodv.Network

/-!
# Copies of control packets (`AODVlib.c`)

`fn_NetSim_AODV_CopyPacket_F` copies the flag arrays as strings, and not the congestion flag of an
RREP. The headers here have all the fields of `AODV.h`; `copyPayload` copies the parts that the
protocol reads.
-/

namespace NetSim.Aodv

/-! ## String copies -/

/-- `strcpy`: up to the first zero byte, without which it reads beyond the array. -/
def strcpyArray {n : ℕ} (dest src : Vector Char n) : Option (Vector Char n) :=
  (src.toList.findIdx? (· = '\x00')).map fun k =>
    Vector.ofFn fun i => if i.val ≤ k then src[i] else dest[i]

def zeros (n : ℕ) : Vector Char n := Vector.replicate n '\x00'

def IsCString {n : ℕ} (v : Vector Char n) : Prop :=
  ∃ k : Fin n, ∀ i : Fin n, v[i] = '\x00' ↔ k ≤ i
deriving Decidable

theorem strcpyArray_zeros_iff {n : ℕ} {src : Vector Char n} :
    strcpyArray (zeros n) src = some src ↔ IsCString src := by
  unfold strcpyArray
  rw [Option.map_eq_some_iff]
  constructor
  · rintro ⟨k, hk, hcopy⟩
    obtain ⟨hlt, hnul, hbefore⟩ := List.findIdx?_eq_some_iff_getElem.1 hk
    have hkn : k < n := by simpa using hlt
    refine ⟨⟨k, hkn⟩, fun i => ⟨fun hi => ?_, fun hi => ?_⟩⟩
    · by_contra hlt'
      have hik : i.val < k := not_le.1 hlt'
      have hne := hbefore i.val hik
      simp only [Vector.getElem_toList, decide_eq_true_eq] at hne
      exact hne hi
    · have hcopied : (Vector.ofFn fun j : Fin n => if j.val ≤ k then src[j] else (zeros n)[j])[i] = src[i] := by
        rw [hcopy]
      simp only [Fin.getElem_fin, Vector.getElem_ofFn] at hcopied
      rcases Nat.lt_or_eq_of_le (show k ≤ i.val from hi) with hki | hki
      · rw [if_neg (by omega)] at hcopied
        rw [Fin.getElem_fin, ← hcopied]
        simp [zeros]
      · simp only [Vector.getElem_toList, decide_eq_true_eq] at hnul
        simpa [Fin.getElem_fin, ← hki] using hnul
  · rintro ⟨k, hk⟩
    refine ⟨k.val, ?_, ?_⟩
    · rw [List.findIdx?_eq_some_iff_getElem]
      refine ⟨by simp, ?_, ?_⟩
      · simpa using (hk k).2 (Nat.le_refl k)
      · intro j hj
        have hne : src[(⟨j, hj.trans k.isLt⟩ : Fin n)] ≠ '\x00' := fun h => by
          have hle := (hk _).1 h
          exact absurd (show k.val ≤ j from hle) (by omega)
        simpa using hne
    · apply Vector.ext
      intro i hi
      rw [Vector.getElem_ofFn]
      dsimp only
      split
      · rfl
      · next hki =>
        have hnul := (hk ⟨i, hi⟩).2 (by
          rw [Fin.le_def]
          dsimp only
          omega)
        simpa [zeros] using hnul.symm

/-! ## The headers -/

/-- `AODV_RREQ` with all of its fields. -/
structure RREQHeader extends RREQ where
  type : UInt8
  reserved : BitVec 11
  deriving DecidableEq

/-- `AODV_RREP` with all of its fields. -/
structure RREPHeader extends RREP where
  type : UInt8
  ra : Vector Char 3
  reserved : BitVec 9
  prefixSz : BitVec 5
  deriving DecidableEq

/-- `AODV_RERR` with all of its fields; the two arrays hold the `DestCount` elements they are read
for. -/
structure RERRHeader extends RERR where
  type : UInt8
  n : Char
  reserved : BitVec 15
  address_le : destCount.toNat ≤ unreachableDestinationIPAddress.length
  sequence_le : destCount.toNat ≤ unreachableDestinationSequenceNumber.length

def RERRHeader.pairs (rerr : RERRHeader) : List (IPAddress × UInt32) :=
  (rerr.unreachableDestinationIPAddress.take rerr.destCount.toNat).zip
    (rerr.unreachableDestinationSequenceNumber.take rerr.destCount.toNat)

/-- `Packet_RoutingProtocol` of a control packet, by `nControlDataType`. -/
inductive CtrlHeader where
  | rreq (rreq : RREQHeader)
  | rrep (rrep : RREPHeader)
  | rerr (rerr : RERRHeader)

/-! ## `fn_NetSim_AODV_CopyPacket_F` -/

def copyRREQ (src : RREQHeader) : Option RREQHeader :=
  (strcpyArray (zeros 6) src.jrgdu).map fun jrgdu =>
    { destinationIPAddress := src.destinationIPAddress
      destinationSequenceNumber := src.destinationSequenceNumber
      hopCount := src.hopCount
      jrgdu := jrgdu
      lastAddress := src.lastAddress
      originatorIPAddress := src.originatorIPAddress
      originatorSequenceNumber := src.originatorSequenceNumber
      reserved := src.reserved
      rreqId := src.rreqId
      type := src.type }

/-- The RREP likewise; nothing is assigned to `congestionflag` of the new header. -/
def copyRREP (src : RREPHeader) : Option RREPHeader :=
  (strcpyArray (zeros 3) src.ra).map fun ra =>
    { destinationIPaddress := src.destinationIPaddress
      destinationSequenceNumber := src.destinationSequenceNumber
      hopCount := src.hopCount
      lastAddress := src.lastAddress
      lifetime := src.lifetime
      originatorIPaddress := src.originatorIPaddress
      prefixSz := src.prefixSz
      ra := ra
      reserved := src.reserved
      type := src.type
      congestionflag := false }

def copyRERR (src : RERRHeader) : RERRHeader where
  toRERR := { src.toRERR with
    unreachableDestinationIPAddress := src.unreachableDestinationIPAddress.take src.destCount.toNat
    unreachableDestinationSequenceNumber :=
      src.unreachableDestinationSequenceNumber.take src.destCount.toNat }
  type := src.type
  n := src.n
  reserved := src.reserved
  address_le := by simpa using src.address_le
  sequence_le := by simpa using src.sequence_le

/-- `fn_NetSim_AODV_CopyPacket_F`. -/
def copyPacket : CtrlHeader → Option CtrlHeader
  | .rreq src => (copyRREQ src).map .rreq
  | .rrep src => (copyRREP src).map .rrep
  | .rerr src => some (.rerr (copyRERR src))

/-! ## Faithful copies -/

structure SameRERR (dest src : RERRHeader) : Prop where
  type : dest.type = src.type
  n : dest.n = src.n
  reserved : dest.reserved = src.reserved
  destCount : dest.destCount = src.destCount
  pairs : dest.pairs = src.pairs

def SameHeader : CtrlHeader → CtrlHeader → Prop
  | .rreq dest, .rreq src => dest = src
  | .rrep dest, .rrep src => dest = src
  | .rerr dest, .rerr src => SameRERR dest src
  | _, _ => False

def CopiesFaithfully (packet : CtrlHeader) : Prop :=
  ∃ copy, copyPacket packet = some copy ∧ SameHeader copy packet

/-- The condition on the packet: its flags are a padded string, and an RREP has no congestion flag.
-/
def MeetsCopy : CtrlHeader → Prop
  | .rreq src => IsCString src.jrgdu
  | .rrep src => IsCString src.ra ∧ src.congestionflag = false
  | .rerr _ => True

theorem copyRREQ_iff {src : RREQHeader} : copyRREQ src = some src ↔ IsCString src.jrgdu := by
  rw [← strcpyArray_zeros_iff]
  unfold copyRREQ
  rw [Option.map_eq_some_iff]
  constructor
  · rintro ⟨jrgdu, hcopy, heq⟩
    rw [hcopy, ← heq]
  · intro hcopy
    exact ⟨src.jrgdu, hcopy, rfl⟩

theorem copyRREP_iff {src : RREPHeader} :
    copyRREP src = some src ↔ IsCString src.ra ∧ src.congestionflag = false := by
  rw [← strcpyArray_zeros_iff]
  unfold copyRREP
  rw [Option.map_eq_some_iff]
  constructor
  · rintro ⟨ra, hcopy, heq⟩
    rw [hcopy, ← heq]
    exact ⟨rfl, rfl⟩
  · rintro ⟨hcopy, hflag⟩
    refine ⟨src.ra, hcopy, ?_⟩
    rw [← hflag]

theorem sameRERR_copyRERR (src : RERRHeader) : SameRERR (copyRERR src) src := by
  refine ⟨rfl, rfl, rfl, rfl, ?_⟩
  unfold RERRHeader.pairs copyRERR
  rw [List.take_take, List.take_take, min_self]

theorem copiesFaithfully_rreq {src : RREQHeader} :
    CopiesFaithfully (.rreq src) ↔ IsCString src.jrgdu := by
  rw [← copyRREQ_iff]
  change (∃ copy, (copyRREQ src).map .rreq = some copy ∧ SameHeader copy (.rreq src)) ↔ _
  cases hcopy : copyRREQ src <;> simp [SameHeader]

theorem copiesFaithfully_rrep {src : RREPHeader} :
    CopiesFaithfully (.rrep src) ↔ IsCString src.ra ∧ src.congestionflag = false := by
  rw [← copyRREP_iff]
  change (∃ copy, (copyRREP src).map .rrep = some copy ∧ SameHeader copy (.rrep src)) ↔ _
  cases hcopy : copyRREP src <;> simp [SameHeader]

/-- A copy is faithful if the flags of the packet are a padded string and no congestion flag is set,
and not otherwise. -/
theorem copiesFaithfully_iff (packet : CtrlHeader) : CopiesFaithfully packet ↔ MeetsCopy packet := by
  cases packet with
  | rreq src => exact copiesFaithfully_rreq
  | rrep src => exact copiesFaithfully_rrep
  | rerr src => exact iff_of_true ⟨_, rfl, sameRERR_copyRERR src⟩ trivial

theorem strcpy_eq {src copy : Vector Char 6} (h : strcpyArray (zeros 6) src = some copy) :
    strcpy src = copy := by
  obtain ⟨k, hk, rfl⟩ := Option.map_eq_some_iff.1 h
  obtain ⟨hlt, hnul, hbefore⟩ := List.findIdx?_eq_some_iff_getElem.1 hk
  have hkn : k < 6 := by simpa using hlt
  simp only [Vector.getElem_toList, decide_eq_true_eq] at hnul hbefore
  unfold strcpy
  apply Vector.ext
  intro i hi
  rw [Vector.getElem_ofFn, Vector.getElem_ofFn]
  by_cases hik : i < k
  · rw [if_pos hik.le, if_pos]
    intro j hj
    exact hbefore j.val (lt_of_le_of_lt hj hik)
  · rw [if_neg fun hall => hall ⟨k, hkn⟩ (not_lt.1 hik) hnul]
    split
    · next hle =>
      have hki : k = i := le_antisymm (not_lt.1 hik) hle
      subst hki
      exact hnul.symm
    · simp [zeros]

theorem copyPayload_rreq {src copy : RREQHeader} (h : copyRREQ src = some copy) :
    copyPayload (.rreq src.toRREQ) = .rreq copy.toRREQ := by
  obtain ⟨jrgdu, hstr, rfl⟩ := Option.map_eq_some_iff.1 h
  have hcopy : strcpy src.toRREQ.jrgdu = jrgdu := strcpy_eq hstr
  change Payload.rreq { src.toRREQ with jrgdu := strcpy src.toRREQ.jrgdu } = _
  rw [hcopy]

theorem copyPayload_rrep {src copy : RREPHeader} (h : copyRREP src = some copy) :
    copyPayload (.rrep src.toRREP) = .rrep copy.toRREP := by
  obtain ⟨ra, -, rfl⟩ := Option.map_eq_some_iff.1 h
  rfl

theorem unreachable_copyRERR (src : RERRHeader) : (copyRERR src).unreachable = src.unreachable := by
  unfold RERR.unreachable copyRERR
  rw [List.take_take, min_self]

/-- The flag U of an RREQ is lost in a copy, and so is the congestion flag of an RREP. -/
theorem not_copiesFaithfully :
    ¬ CopiesFaithfully (.rreq ⟨⟨noFlags.set 4 '1', 0, 1, 9, 0, 1, 1, 1⟩, 1, 0⟩) ∧
      ¬ CopiesFaithfully (.rrep ⟨⟨1, 9, 5, 1, 6000, 9, true⟩, 2, zeros 3, 0, 0⟩) := by
  rw [copiesFaithfully_rreq, copiesFaithfully_rrep]
  decide

end NetSim.Aodv
