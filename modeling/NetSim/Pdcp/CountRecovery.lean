import NetSim.Pdcp.Receive

/-!
# COUNTs from sequence numbers (`LTENR_PDCP.c`, `LTENR_PDCP.h`)

The transmitter reduces a COUNT by `POW_2_SN_SIZE`, which is one less than the number of SNs, and
the receiver takes an SN for the low bits of a COUNT.
-/

namespace NetSim.Pdcp

open NetSim.Tcp

variable {entity : PdcpEntity} {c sn : Nat}

/-- The COUNT is in the window around `RX_DELIV`. -/
structure PdcpEntity.NearDeliv (entity : PdcpEntity) (c : Nat) : Prop where
  count_lt : c < 2 ^ 32
  deliv_lt : entity.RX_DELIV < 2 ^ 32
  low : entity.RX_DELIV ≤ c + pdcpWindowSize
  high : c < entity.RX_DELIV + pdcpWindowSize

/-- The COUNT that the receiver computes from the header that the transmitter writes for `c`. -/
def PdcpEntity.recovered (entity : PdcpEntity) (c : Nat) (packet : Packet) : Option Nat :=
  (addHdr c packet).pdcpHdr.map entity.calculateStateVariable

/-- The remainder by `POW_2_SN_SIZE` is the remainder by the number of SNs. -/
def RemaindersAgree (c : Nat) : Prop := pow2SnSize ∣ pdcpHfn c ∧ pdcpSn c ≠ pow2SnSize
deriving Decidable

theorem pdcpSn_pdcpCount (hfn : Nat) (h : sn < 2 ^ pdcpSnSize) : pdcpSn (pdcpCount hfn sn) = sn := by
  unfold pdcpSn pdcpCount u32 pdcpSnSize at *
  omega

theorem pdcpSn_calculateStateVariable (dcBit : DcBit) (h : sn < 2 ^ pdcpSnSize) :
    pdcpSn (entity.calculateStateVariable ⟨dcBit, sn⟩) = sn :=
  pdcpSn_pdcpCount _ h

theorem PdcpEntity.NearDeliv.calculateStateVariable (h : entity.NearDeliv c) (dcBit : DcBit) :
    entity.calculateStateVariable ⟨dcBit, pdcpSn c⟩ = c := by
  obtain ⟨hc, hd, hlow, hhigh⟩ := h
  unfold PdcpEntity.calculateStateVariable pdcpCount pdcpHfn pdcpSn u32
  unfold pdcpWindowSize at *
  unfold pdcpSnSize
  dsimp only
  split
  · omega
  · split
    · omega
    · omega

theorem mod_pow2SnSize_eq_iff (c : Nat) : c % pow2SnSize = pdcpSn c ↔ RemaindersAgree c := by
  have hsplit : c = pow2SnSize * pdcpHfn c + (pdcpHfn c + pdcpSn c) := by
    unfold pow2SnSize pdcpHfn pdcpSn pdcpSnSize
    omega
  have hsn : pdcpSn c ≤ pow2SnSize := by
    unfold pow2SnSize pdcpSn pdcpSnSize
    omega
  have hmod : c % pow2SnSize = (pdcpHfn c + pdcpSn c) % pow2SnSize := by
    conv_lhs => rw [hsplit]
    exact Nat.mul_add_mod _ _ _
  rw [hmod, RemaindersAgree, Nat.dvd_iff_mod_eq_zero]
  unfold pow2SnSize at *
  omega

/-- In the window the receiver recovers the COUNT from the transmitter's header exactly where the
two remainders agree. -/
theorem recovered_iff (h : entity.NearDeliv c) (packet : Packet) :
    entity.recovered c packet = some c ↔ RemaindersAgree c := by
  have hlt : c % pow2SnSize < 2 ^ pdcpSnSize := by
    unfold pow2SnSize pdcpSnSize
    omega
  change some (entity.calculateStateVariable ⟨.data, c % pow2SnSize⟩) = some c ↔ _
  rw [← mod_pow2SnSize_eq_iff, Option.some_inj]
  constructor
  · intro heq
    have hsn : pdcpSn (entity.calculateStateVariable ⟨.data, c % pow2SnSize⟩) =
        c % pow2SnSize := pdcpSn_calculateStateVariable .data hlt
    rw [heq] at hsn
    exact hsn.symm
  · intro hsn
    rw [hsn]
    exact h.calculateStateVariable .data

/-- A receiver that has delivered COUNT 4000 and a PDU with COUNT 4094. -/
theorem recovered_iff_4094 :
    PdcpEntity.recovered { createNewEntity with RX_DELIV := 4000 } 4094
      ⟨false, .uPlane, none, 4094⟩ = some 4094 :=
  (recovered_iff ⟨by decide, by decide, by decide, by decide⟩ _).2 (by decide)

def RecoversCount : Prop :=
  ∀ (entity : PdcpEntity) (c : Nat) (packet : Packet), entity.NearDeliv c →
    entity.recovered c packet = some c

/-- The PDU with COUNT 4095 carries the SN of COUNT 4096. -/
theorem not_recoversCount : ¬RecoversCount := by
  intro h
  have hrecovered := h { createNewEntity with RX_DELIV := 4090 } 4095 ⟨false, .uPlane, none, 4095⟩
    ⟨by decide, by decide, by decide, by decide⟩
  revert hrecovered
  decide

end NetSim.Pdcp
