import NetSim.Tcp.CreditCount
import NetSim.Tcp.DupAcks

/-!
# When an acknowledgment leaves the window alone (`Congestion.c`, `CUBIC.c`)

For each function that an `ack_received` may call, when the window is the same afterwards, and when
it is not larger.
-/

namespace NetSim.Tcp

namespace Tcb

variable {t : Tcb} {n : Nat}

/-- The window, the threshold and the segment size fit the `UINT16` that they are kept in. -/
structure Fits (t : Tcb) : Prop where
  cwnd_lt : t.congestionData.cwnd < 2 ^ 16
  ssthresh_lt : t.congestionData.ssthresh < 2 ^ 16
  smss_lt : t.congestionData.SMSS < 2 ^ 16

/-! ## An increase -/

/-- The scaled window and the increase fit a `UINT32` together. -/
def SumLt (t : Tcb) (n : Nat) : Prop := t.congestionData.cwnd <<< t.windShift + n < 2 ^ 32

/-- An increase by `n` bytes comes to no unit of the window, or the window is at its limit. -/
def NoRoom (t : Tcb) (n : Nat) : Prop :=
  n / 2 ^ t.windShift = 0 ∨ t.congestionData.cwnd = 65535

def CubicNoRoom (t : Tcb) (n : Nat) : Prop :=
  n / 2 ^ t.windShift = 0 ∨ t.isWindowScaling = false ∧ t.congestionData.cwnd = 65535

theorem sumLt_of_not_scaling (hcwnd : t.congestionData.cwnd < 2 ^ 16) (hn : n < 2 ^ 16)
    (hscaling : ¬t.isWindowScaling = true) : t.SumLt n := by
  rw [SumLt, windShift_of_not_scaling hscaling, Nat.shiftLeft_zero]
  omega

theorem increaseCwnd_of_not_sumLt (hcwnd : t.congestionData.cwnd < 2 ^ 16) (hn : n < 2 ^ 16)
    (hsum : ¬t.SumLt n) :
    (t.increaseCwnd n).congestionData.cwnd < t.congestionData.cwnd ∧
      (t.cubicIncreaseCwnd n).congestionData.cwnd < t.congestionData.cwnd := by
  have hscaling : t.isWindowScaling = true := by
    by_contra hno
    exact hsum (sumLt_of_not_scaling hcwnd hn hno)
  rw [SumLt, windShift_of_scaling hscaling] at hsum
  obtain ⟨hless, -⟩ := u32_div_lt hcwnd hn (Nat.le_of_not_lt hsum)
  rw [← Nat.shiftRight_eq_div_pow] at hless
  rw [increaseCwnd_scaled hscaling, cubicIncreaseCwnd_scaled hscaling, withCwnd_cwnd,
    withCwnd_cwnd, u16]
  generalize u32 (t.congestionData.cwnd <<< t.sndWindShift + n) >>> t.sndWindShift = q at hless
  omega

theorem increaseCwnd_of_sumLt (hsum : t.SumLt n) :
    (t.increaseCwnd n).congestionData.cwnd =
      min 65535 (t.congestionData.cwnd + n / 2 ^ t.windShift) := by
  rw [SumLt] at hsum
  by_cases hscaling : t.isWindowScaling = true
  · rw [windShift_of_scaling hscaling] at hsum ⊢
    rw [increaseCwnd_scaled hscaling, withCwnd_cwnd, u32_of_lt hsum, Nat.shiftRight_eq_div_pow,
      shiftLeft_add_div]
  · rw [increaseCwnd_unscaled hscaling, cubicIncreaseCwnd_unscaled hscaling, withCwnd_cwnd,
      grownCwnd, Nat.shiftRight_eq_div_pow, shiftLeft_add_div]

theorem cubicIncreaseCwnd_of_sumLt (hsum : t.SumLt n) :
    (t.cubicIncreaseCwnd n).congestionData.cwnd =
      if t.isWindowScaling then u16 (t.congestionData.cwnd + n / 2 ^ t.windShift)
      else min 65535 (t.congestionData.cwnd + n / 2 ^ t.windShift) := by
  rw [SumLt] at hsum
  by_cases hscaling : t.isWindowScaling = true
  · rw [windShift_of_scaling hscaling] at hsum ⊢
    rw [if_pos hscaling, cubicIncreaseCwnd_scaled hscaling, withCwnd_cwnd, u32_of_lt hsum,
      Nat.shiftRight_eq_div_pow, shiftLeft_add_div]
  · rw [if_neg hscaling, cubicIncreaseCwnd_unscaled hscaling, withCwnd_cwnd, grownCwnd,
      Nat.shiftRight_eq_div_pow, shiftLeft_add_div]

section

variable (hcwnd : t.congestionData.cwnd < 2 ^ 16)

include hcwnd

theorem increaseCwnd_kept_iff (hn : n < 2 ^ 16) :
    (t.increaseCwnd n).congestionData.cwnd = t.congestionData.cwnd ↔ t.SumLt n ∧ t.NoRoom n := by
  by_cases hsum : t.SumLt n
  · rw [increaseCwnd_of_sumLt hsum, and_iff_right hsum, NoRoom]
    generalize n / 2 ^ t.windShift = q
    omega
  · obtain ⟨hless, -⟩ := increaseCwnd_of_not_sumLt hcwnd hn hsum
    exact iff_of_false (Nat.ne_of_lt hless) fun h => hsum h.1

theorem increaseCwnd_le_iff (hn : n < 2 ^ 16) :
    (t.increaseCwnd n).congestionData.cwnd ≤ t.congestionData.cwnd ↔ ¬t.SumLt n ∨ t.NoRoom n := by
  by_cases hsum : t.SumLt n
  · rw [increaseCwnd_of_sumLt hsum, NoRoom, not_iff_false_intro hsum, false_or]
    generalize n / 2 ^ t.windShift = q
    omega
  · obtain ⟨hless, -⟩ := increaseCwnd_of_not_sumLt hcwnd hn hsum
    exact iff_of_true (Nat.le_of_lt hless) (Or.inl hsum)

theorem cubicIncreaseCwnd_kept_iff (hn : n < 2 ^ 16) :
    (t.cubicIncreaseCwnd n).congestionData.cwnd = t.congestionData.cwnd ↔
      t.SumLt n ∧ t.CubicNoRoom n := by
  by_cases hsum : t.SumLt n
  · have hq : n / 2 ^ t.windShift ≤ n := Nat.div_le_self _ _
    rw [cubicIncreaseCwnd_of_sumLt hsum, and_iff_right hsum, CubicNoRoom]
    generalize n / 2 ^ t.windShift = q at hq
    cases t.isWindowScaling with
    | true =>
      rw [if_pos rfl, u16]
      simp only [Bool.true_eq_false, false_and, or_false]
      omega
    | false =>
      rw [if_neg (by decide)]
      simp only [true_and]
      omega
  · obtain ⟨-, hless⟩ := increaseCwnd_of_not_sumLt hcwnd hn hsum
    exact iff_of_false (Nat.ne_of_lt hless) fun h => hsum h.1

theorem cubicIncreaseCwnd_le_iff (hn : n < 2 ^ 16) :
    (t.cubicIncreaseCwnd n).congestionData.cwnd ≤ t.congestionData.cwnd ↔
      ¬t.SumLt n ∨ t.CubicNoRoom n ∨
        t.isWindowScaling = true ∧ 2 ^ 16 ≤ t.congestionData.cwnd + n / 2 ^ t.windShift := by
  by_cases hsum : t.SumLt n
  · have hq : n / 2 ^ t.windShift ≤ n := Nat.div_le_self _ _
    rw [cubicIncreaseCwnd_of_sumLt hsum, CubicNoRoom, not_iff_false_intro hsum, false_or]
    generalize n / 2 ^ t.windShift = q at hq
    cases t.isWindowScaling with
    | true =>
      rw [if_pos rfl, u16]
      simp only [Bool.true_eq_false, false_and, or_false, true_and]
      omega
    | false =>
      rw [if_neg (by decide)]
      simp only [Bool.false_eq_true, false_and, or_false, true_and]
      omega
  · obtain ⟨-, hless⟩ := increaseCwnd_of_not_sumLt hcwnd hn hsum
    exact iff_of_true (Nat.le_of_lt hless) (Or.inl hsum)

end

/-! ## The functions of `Congestion.c` -/

theorem increaseCwnd_of_wnd {t' : Tcb} (h : t'.wnd = t.wnd) (n : Nat) :
    (t'.increaseCwnd n).congestionData.cwnd = (t.increaseCwnd n).congestionData.cwnd := by
  simp only [wnd, Prod.mk.injEq] at h
  obtain ⟨hcwnd, -, hscaling, hshift⟩ := h
  unfold increaseCwnd windowScaleGetCwnd getWND
  rw [hcwnd, hscaling, hshift]
  split
  · rfl
  · rfl

theorem cubicIncreaseCwnd_of_wnd {t' : Tcb} (h : t'.wnd = t.wnd) (n : Nat) :
    (t'.cubicIncreaseCwnd n).congestionData.cwnd =
      (t.cubicIncreaseCwnd n).congestionData.cwnd := by
  simp only [wnd, Prod.mk.injEq] at h
  obtain ⟨hcwnd, -, hscaling, hshift⟩ := h
  unfold cubicIncreaseCwnd windowScaleGetCwnd getWND
  rw [hcwnd, hscaling, hshift]
  split
  · rfl
  · rfl

/-- Slow start and congestion avoidance have no room, or the window has grown within the last round
trip. -/
def GrowKeeps (t : Tcb) (dEventTime : Nat) : Prop :=
  (t.SumLt (min t.ackedBytes t.congestionData.SMSS) ∧
      t.NoRoom (min t.ackedBytes t.congestionData.SMSS)) ∨
    t.getSsthres < t.getCwnd ∧ dEventTime ≤ t.congestionData.lastWinUpdateTime +
      t.retransmissionQueue.getRTT dEventTime t.SEG.ACK

def GrowLe (t : Tcb) (dEventTime : Nat) : Prop :=
  (¬t.SumLt (min t.ackedBytes t.congestionData.SMSS) ∨
      t.NoRoom (min t.ackedBytes t.congestionData.SMSS)) ∨
    t.getSsthres < t.getCwnd ∧ dEventTime ≤ t.congestionData.lastWinUpdateTime +
      t.retransmissionQueue.getRTT dEventTime t.SEG.ACK

theorem growCwnd_cwnd (t : Tcb) (dEventTime : Nat) :
    (t.growCwnd dEventTime).congestionData.cwnd =
      if t.getSsthres < t.getCwnd ∧ dEventTime ≤ t.congestionData.lastWinUpdateTime +
          t.retransmissionQueue.getRTT dEventTime t.SEG.ACK then t.congestionData.cwnd
      else (t.increaseCwnd (min t.ackedBytes t.congestionData.SMSS)).congestionData.cwnd := by
  unfold growCwnd
  by_cases hin : t.inSlowStart = true
  · have hle : ¬t.getSsthres < t.getCwnd := Nat.not_lt.2 (of_decide_eq_true hin)
    rw [if_pos hin, if_neg fun h => hle h.1]
    rfl
  · have hlt : t.getSsthres < t.getCwnd := Nat.lt_of_not_le fun h => hin (decide_eq_true h)
    rw [if_neg hin]
    unfold congestionAvoidance
    dsimp only
    split
    · next hlong =>
      rw [if_neg fun h => absurd h.2 (Nat.not_le.2 hlong)]
      refine increaseCwnd_of_wnd (t := t) ?_ _
      rfl
    · next hshort => rw [if_pos ⟨hlt, Nat.le_of_not_lt hshort⟩]

theorem growCwnd_kept_iff (hcwnd : t.congestionData.cwnd < 2 ^ 16) (dEventTime : Nat) :
    (t.growCwnd dEventTime).congestionData.cwnd = t.congestionData.cwnd ↔
      t.GrowKeeps dEventTime := by
  rw [growCwnd_cwnd, GrowKeeps, ← increaseCwnd_kept_iff hcwnd (ackedBytes_lt t)]
  split
  · next hwaits => exact iff_of_true rfl (.inr hwaits)
  · next hgrows => rw [or_iff_left hgrows]

theorem growCwnd_le_iff (hcwnd : t.congestionData.cwnd < 2 ^ 16) (dEventTime : Nat) :
    (t.growCwnd dEventTime).congestionData.cwnd ≤ t.congestionData.cwnd ↔
      t.GrowLe dEventTime := by
  rw [growCwnd_cwnd, GrowLe, ← increaseCwnd_le_iff hcwnd (ackedBytes_lt t)]
  split
  · next hwaits => exact iff_of_true (Nat.le_refl _) (.inr hwaits)
  · next hgrows => rw [or_iff_left hgrows]

/-! ## BIC -/

theorem increaseCwnd_monotone (hcwnd : t.congestionData.cwnd < 2 ^ 16) (hn : n < 2 ^ 16) :
    (t.windShift ≤ 16 → t.congestionData.cwnd ≤ (t.increaseCwnd n).congestionData.cwnd) ∧
      (16 < t.windShift → (t.increaseCwnd n).congestionData.cwnd ≤ t.congestionData.cwnd) := by
  constructor
  · intro hle
    have hpow : 2 ^ t.windShift ≤ 2 ^ 16 := Nat.pow_le_pow_right (by decide) hle
    have hmul : t.congestionData.cwnd * 2 ^ t.windShift ≤ 65535 * 2 ^ 16 :=
      Nat.mul_le_mul (by omega) hpow
    have hsum : t.SumLt n := by
      rw [SumLt, Nat.shiftLeft_eq]
      omega
    rw [increaseCwnd_of_sumLt hsum]
    generalize n / 2 ^ t.windShift = q
    omega
  · intro hgt
    have hpow : 2 ^ 16 ≤ 2 ^ t.windShift := Nat.pow_le_pow_right (by decide) (by omega)
    rw [increaseCwnd_le_iff hcwnd hn]
    exact .inr (.inl (Nat.div_eq_of_lt (by omega)))

/-- `bictcp_cong_avoid` adds a segment outside slow start. -/
def BicPays (t : Tcb) (dEventTime : Nat) : Prop :=
  0 < t.segmentAcked ∧
    (t.bicCounted dEventTime t.segmentAcked).congestionData.bic.cnt <
      (t.bicCounted dEventTime t.segmentAcked).congestionData.bic.cwndcnt

/-- `bictcp_cong_avoid` adds nothing. -/
def BicKeeps (t : Tcb) (dEventTime : Nat) : Prop :=
  if t.inSlowStart then
    t.SumLt (min t.ackedBytes t.congestionData.SMSS) ∧
      t.NoRoom (min t.ackedBytes t.congestionData.SMSS)
  else t.BicPays dEventTime → t.SumLt t.congestionData.SMSS ∧ t.NoRoom t.congestionData.SMSS

theorem bicPaid_cwnd (t : Tcb) :
    t.bicPaid.congestionData.cwnd =
      if t.congestionData.bic.cnt < t.congestionData.bic.cwndcnt then
        (t.increaseCwnd t.congestionData.SMSS).congestionData.cwnd
      else t.congestionData.cwnd := by
  unfold bicPaid
  split
  · rfl
  · rfl

theorem windShift_of_wnd {t' : Tcb} (h : t'.wnd = t.wnd) : t'.windShift = t.windShift := by
  simp only [wnd, Prod.mk.injEq] at h
  obtain ⟨-, -, hscaling, hshift⟩ := h
  rw [windShift, hscaling, hshift, windShift]

theorem bicPaid_monotone (hcwnd : t.congestionData.cwnd < 2 ^ 16)
    (hsmss : t.congestionData.SMSS < 2 ^ 16) :
    (t.windShift ≤ 16 → t.congestionData.cwnd ≤ t.bicPaid.congestionData.cwnd) ∧
      (16 < t.windShift → t.bicPaid.congestionData.cwnd ≤ t.congestionData.cwnd) := by
  rw [bicPaid_cwnd]
  split
  · exact increaseCwnd_monotone hcwnd hsmss
  · exact ⟨fun _ => Nat.le_refl _, fun _ => Nat.le_refl _⟩

theorem increaseCwnd_lt (hcwnd : t.congestionData.cwnd < 2 ^ 16) (hn : n < 2 ^ 16) :
    (t.increaseCwnd n).congestionData.cwnd < 2 ^ 16 := by
  rw [increaseCwnd_eq t hcwnd hn, withCwnd_cwnd]
  omega

theorem bictcpCongAvoid_monotone (hcwnd : t.congestionData.cwnd < 2 ^ 16)
    (hsmss : t.congestionData.SMSS < 2 ^ 16) (hin : t.inSlowStart = true) (dEventTime : Nat) :
    let after := (t.bictcpCongAvoid dEventTime t.segmentAcked).congestionData.cwnd
    (t.windShift ≤ 16 → t.slowStart.congestionData.cwnd ≤ after) ∧
      (16 < t.windShift → after ≤ t.slowStart.congestionData.cwnd) := by
  have hbehind : t.bicBehind = t.slowStart := if_pos hin
  have hstart := increaseCwnd_lt hcwnd (ackedBytes_lt t)
  obtain ⟨cwnd, hframe⟩ := t.increaseCwnd_frame (min t.ackedBytes t.congestionData.SMSS)
  rw [bictcpCongAvoid_eq, hbehind]
  unfold slowStart at hstart ⊢
  rw [hframe] at hstart ⊢
  split
  · have hwnd := wnd_bicCounted dEventTime t.bicCredit (t.withCwnd cwnd)
    have hshift := windShift_of_wnd hwnd
    simp only [wnd, Prod.mk.injEq] at hwnd
    obtain ⟨hcwnd', hsmss', -, -⟩ := hwnd
    have hpaid := bicPaid_monotone (t := (t.withCwnd cwnd).bicCounted dEventTime t.bicCredit)
      (hcwnd'.trans_lt hstart) (hsmss'.trans_lt hsmss)
    rw [hcwnd', hshift] at hpaid
    exact hpaid
  · exact ⟨fun _ => Nat.le_refl _, fun _ => Nat.le_refl _⟩

theorem bictcpCongAvoid_cwnd (hin : ¬t.inSlowStart = true) (dEventTime : Nat) :
    (t.BicPays dEventTime →
        (t.bictcpCongAvoid dEventTime t.segmentAcked).congestionData.cwnd =
          (t.increaseCwnd t.congestionData.SMSS).congestionData.cwnd) ∧
      (¬t.BicPays dEventTime →
        (t.bictcpCongAvoid dEventTime t.segmentAcked).congestionData.cwnd =
          t.congestionData.cwnd) := by
  have hbehind : t.bicBehind = t := if_neg hin
  have hcredit : t.bicCredit = t.segmentAcked := by
    rw [bicCredit, hbehind, creditBehind, if_neg hin, if_neg hin]
  have hwnd := wnd_bicCounted dEventTime t.segmentAcked t
  have hgrown := increaseCwnd_of_wnd hwnd t.congestionData.SMSS
  simp only [wnd, Prod.mk.injEq] at hwnd
  obtain ⟨hcwnd, hsmss, -, -⟩ := hwnd
  rw [bictcpCongAvoid_eq, hcredit, hbehind]
  constructor
  · rintro ⟨hpos, hlt⟩
    rw [if_pos hpos, bicPaid_cwnd, if_pos hlt, hsmss, hgrown]
  · intro hpays
    split
    · next hpos => rw [bicPaid_cwnd, if_neg fun hlt => hpays ⟨hpos, hlt⟩, hcwnd]
    · rfl

theorem bictcpCongAvoid_kept_iff (hcwnd : t.congestionData.cwnd < 2 ^ 16)
    (hsmss : t.congestionData.SMSS < 2 ^ 16) (dEventTime : Nat) :
    (t.bictcpCongAvoid dEventTime t.segmentAcked).congestionData.cwnd = t.congestionData.cwnd ↔
      t.BicKeeps dEventTime := by
  unfold BicKeeps
  by_cases hin : t.inSlowStart = true
  · rw [if_pos hin, ← increaseCwnd_kept_iff hcwnd (ackedBytes_lt t)]
    constructor
    · intro hsame
      obtain ⟨hup, hdown⟩ := bictcpCongAvoid_monotone hcwnd hsmss hin dEventTime
      obtain ⟨hup', hdown'⟩ := increaseCwnd_monotone hcwnd (ackedBytes_lt t)
      rw [hsame] at hup hdown
      rcases Nat.lt_or_ge 16 t.windShift with hgt | hle
      · exact Nat.le_antisymm (hdown' hgt) (hdown hgt)
      · exact Nat.le_antisymm (hup hle) (hup' hle)
    · intro hsame
      obtain ⟨cwnd, hframe⟩ := t.increaseCwnd_frame (min t.ackedBytes t.congestionData.SMSS)
      have hcw : cwnd = t.congestionData.cwnd := by rw [← hsame, hframe, withCwnd_cwnd]
      have hbehind : t.bicBehind = t := by
        rw [bicBehind, if_pos hin, slowStart, hframe, hcw]
        rfl
      have hcredit : t.bicCredit = 0 := by rw [bicCredit, hbehind, creditBehind, if_pos hin]
      rw [bictcpCongAvoid_eq, hcredit, if_neg (Nat.lt_irrefl 0), hbehind]
  · rw [if_neg hin, ← increaseCwnd_kept_iff hcwnd hsmss]
    obtain ⟨hpays, hkeeps⟩ := bictcpCongAvoid_cwnd hin dEventTime
    by_cases hpay : t.BicPays dEventTime
    · rw [hpays hpay, forall_prop_of_true hpay]
    · exact iff_of_true (hkeeps hpay) fun h => absurd h hpay

end Tcb

end NetSim.Tcp
