import NetSim.Tcp.WindowArithmetic

/-!
# The credit of acknowledged segments (`Congestion.c`, `CUBIC.c`)

BIC and CUBIC credit the segments that an acknowledgment covers to `cwndcnt`, a `UINT32`, and grow
the window after `cnt` of them. An acknowledgment that leaves slow start credits one less, which may
wrap.
-/

namespace NetSim.Tcp

/-! ## The count -/

/-- The window in bytes, the segments credited since it last grew, and the segments that one
increase takes. -/
structure Count where
  window : Nat
  cwndcnt : Nat
  cnt : Nat

/-- What an acknowledgment of `limit` whole segments may add: `slow` in slow start, and `credit` to
the count. -/
structure Credits (limit slow smss credit : Nat) (a b : Count) : Prop where
  credit_le : credit ≤ limit
  window_le : b.window ≤ a.window + slow + smss
  pays : a.window + slow < b.window → b.cnt < a.cwndcnt + credit ∧ b.cwndcnt = 0
  counts : b.cwndcnt = u32 (a.cwndcnt + credit) ∨ b.cwndcnt = 0 ∧ b.cnt < u32 (a.cwndcnt + credit)

theorem Credits.of_counted {limit slow smss credit : Nat} {a b c : Count}
    (hcredit : credit ≤ limit) (hslow : b.window ≤ a.window + slow)
    (hcount : b.cwndcnt = u32 (a.cwndcnt + credit))
    (hpaid : c = b ∨ b.cnt < b.cwndcnt ∧ c.cnt = b.cnt ∧ c.cwndcnt = 0 ∧
      c.window ≤ b.window + smss) : Credits limit slow smss credit a c := by
  rcases hpaid with rfl | ⟨hlt, hcnt, hzero, hwindow⟩
  · exact ⟨hcredit, by omega, fun hgrown => by omega, Or.inl hcount⟩
  · have hle : u32 (a.cwndcnt + credit) ≤ a.cwndcnt + credit := Nat.mod_le _ _
    exact ⟨hcredit, by omega, fun _ => ⟨by omega, hzero⟩, Or.inr ⟨hzero, by omega⟩⟩

namespace Tcb

def bicCount (t : Tcb) : Count := ⟨t.getCwnd, t.congestionData.bic.cwndcnt, t.congestionData.bic.cnt⟩

def cubicCount (t : Tcb) : Count :=
  ⟨t.getCwnd, t.congestionData.cubic.cwndcnt, t.congestionData.cubic.cnt⟩

def slowStartBytes (t : Tcb) : Nat :=
  if t.inSlowStart then min (t.SEG.ACK - t.SND.UNA) t.congestionData.SMSS else 0

/-- The `segmentAcked` that `bic_ack_received` and `cubic_ack_received` compute. -/
def segmentAcked (t : Tcb) : Nat := sub32 t.SEG.ACK t.SND.UNA / t.getMSS

/-- What an acknowledgment credits, when `after` is the state behind slow start. -/
def creditBehind (t after : Tcb) : Nat :=
  if after.inSlowStart then 0 else if t.inSlowStart then sub32 t.segmentAcked 1 else t.segmentAcked

/-! ## The condition -/

/-- The window of BIC after slow start has added the bytes of an acknowledgment below one
segment. -/
def bicSlowStartWindow (t : Tcb) : Nat :=
  min 65535 (u32 (t.getCwnd + (t.SEG.ACK - t.SND.UNA)) / 2 ^ t.windShift) * 2 ^ t.windShift

/-- The same of CUBIC, whose scaled window does not stop at 65535. -/
def cubicSlowStartWindow (t : Tcb) : Nat :=
  let units := u32 (t.getCwnd + (t.SEG.ACK - t.SND.UNA)) / 2 ^ t.windShift
  (if t.isWindowScaling then u16 units else min 65535 units) * 2 ^ t.windShift

/-- A whole segment is acknowledged, or slow start does not leave less than one. -/
def CountsWhole (t : Tcb) (slowStartWindow : Nat) : Prop :=
  t.congestionData.SMSS ≤ t.SEG.ACK - t.SND.UNA ∨ t.getSsthres < t.getCwnd ∨
    slowStartWindow ≤ t.getSsthres

/-- A new acknowledgment, in a TCB whose numbers fit their types. -/
structure NewAck (t : Tcb) : Prop where
  una_lt : t.SND.UNA < t.SEG.ACK
  ack_le : t.SEG.ACK ≤ t.SND.NXT
  nxt_lt : t.SND.NXT < 2 ^ 32
  smss_pos : 0 < t.congestionData.SMSS
  smss_lt : t.congestionData.SMSS < 2 ^ 16
  cwnd_lt : t.congestionData.cwnd < 2 ^ 16
  bic_lt : t.congestionData.bic.cwndcnt < 2 ^ 32
  cubic_lt : t.congestionData.cubic.cwndcnt < 2 ^ 32

variable {t : Tcb}

/-! ## The window -/

variable {n : Nat}

theorem units_mul_le {cwnd s : Nat} (h : cwnd ≤ n >>> s) : cwnd * 2 ^ s ≤ n := by
  rw [Nat.shiftRight_eq_div_pow] at h
  exact Nat.le_trans (Nat.mul_le_mul_right _ h) (Nat.div_mul_le_self _ _)

theorem getCwnd_withCwnd {cwnd : Nat} (h : cwnd ≤ n >>> t.windShift) (hn : n < 2 ^ 32) :
    (t.withCwnd cwnd).getCwnd = cwnd * 2 ^ t.windShift := by
  have hle := units_mul_le h
  by_cases hscaling : t.isWindowScaling = true
  · rw [windShift_of_scaling hscaling] at hle ⊢
    have hget : (t.withCwnd cwnd).getCwnd = u32 (cwnd <<< t.sndWindShift) := if_pos hscaling
    rw [hget, Nat.shiftLeft_eq, u32_of_lt (by omega)]
  · have hget : (t.withCwnd cwnd).getCwnd = cwnd := if_neg hscaling
    rw [hget, windShift_of_not_scaling hscaling, Nat.pow_zero, Nat.mul_one]

theorem getCwnd_withCwnd_le {cwnd : Nat} (h : cwnd ≤ n >>> t.windShift) (hn : n < 2 ^ 32) :
    (t.withCwnd cwnd).getCwnd ≤ n := by
  rw [getCwnd_withCwnd h hn]
  exact units_mul_le h

theorem increaseCwnd_eq (t : Tcb) (hcwnd : t.congestionData.cwnd < 2 ^ 16) (hn : n < 2 ^ 16) :
    t.increaseCwnd n = t.withCwnd (min 65535 (u32 (t.getCwnd + n) >>> t.windShift)) := by
  by_cases hscaling : t.isWindowScaling = true
  · rw [increaseCwnd_scaled hscaling, windShift_of_scaling hscaling, ← scaledSum_eq hscaling]
    rfl
  · have hget : t.getCwnd = t.congestionData.cwnd := if_neg hscaling
    rw [increaseCwnd_unscaled hscaling, cubicIncreaseCwnd_unscaled hscaling, grownCwnd, hget,
      windShift_of_not_scaling hscaling, Nat.shiftLeft_zero, u32_of_lt (by omega)]

theorem cubicIncreaseCwnd_eq (t : Tcb) (hcwnd : t.congestionData.cwnd < 2 ^ 16) (hn : n < 2 ^ 16) :
    t.cubicIncreaseCwnd n = t.withCwnd
      (if t.isWindowScaling then u16 (u32 (t.getCwnd + n) >>> t.windShift)
        else min 65535 (u32 (t.getCwnd + n) >>> t.windShift)) := by
  by_cases hscaling : t.isWindowScaling = true
  · rw [cubicIncreaseCwnd_scaled hscaling, windShift_of_scaling hscaling, ← scaledSum_eq hscaling,
      if_pos hscaling]
    rfl
  · rw [← increaseCwnd_unscaled hscaling, increaseCwnd_eq t hcwnd hn, if_neg hscaling]

theorem getCwnd_increaseCwnd_le (hcwnd : t.congestionData.cwnd < 2 ^ 16)
    (hn : n < 2 ^ 16) : (t.increaseCwnd n).getCwnd ≤ t.getCwnd + n := by
  have hle : (t.increaseCwnd n).getCwnd ≤ u32 (t.getCwnd + n) := by
    rw [increaseCwnd_eq t hcwnd hn]
    exact getCwnd_withCwnd_le (Nat.min_le_right _ _) (u32_lt _)
  exact Nat.le_trans hle (Nat.mod_le _ _)

theorem getCwnd_cubicIncreaseCwnd_le (hcwnd : t.congestionData.cwnd < 2 ^ 16)
    (hn : n < 2 ^ 16) : (t.cubicIncreaseCwnd n).getCwnd ≤ t.getCwnd + n := by
  have hle : (t.cubicIncreaseCwnd n).getCwnd ≤ u32 (t.getCwnd + n) := by
    rw [cubicIncreaseCwnd_eq t hcwnd hn]
    refine getCwnd_withCwnd_le ?_ (u32_lt _)
    split
    · exact Nat.mod_le _ _
    · exact Nat.min_le_right _ _
  exact Nat.le_trans hle (Nat.mod_le _ _)

/-! ## Slow start -/

theorem inSlowStart_iff (t : Tcb) : t.inSlowStart = true ↔ t.getCwnd ≤ t.getSsthres := by
  exact decide_eq_true_iff

theorem NewAck.sub_eq (h : NewAck t) : sub32 t.SEG.ACK t.SND.UNA = t.SEG.ACK - t.SND.UNA :=
  sub32_of_le (Nat.le_of_lt h.una_lt) (Nat.lt_of_le_of_lt h.ack_le h.nxt_lt)

theorem NewAck.ackedBytes_le (h : NewAck t) : t.ackedBytes ≤ t.SEG.ACK - t.SND.UNA := by
  rw [ackedBytes, h.sub_eq]
  exact Nat.mod_le _ _

theorem NewAck.ackedBytes_eq (h : NewAck t)
    (hless : t.SEG.ACK - t.SND.UNA < t.congestionData.SMSS) :
    min t.ackedBytes t.congestionData.SMSS = t.SEG.ACK - t.SND.UNA := by
  have hlt := h.smss_lt
  rw [ackedBytes, h.sub_eq, u16_of_lt (by omega)]
  omega

theorem NewAck.getCwnd_slowStart (h : NewAck t)
    (hless : t.SEG.ACK - t.SND.UNA < t.congestionData.SMSS) :
    t.slowStart.getCwnd = t.bicSlowStartWindow := by
  have hlt := h.smss_lt
  rw [slowStart, h.ackedBytes_eq hless, increaseCwnd_eq t h.cwnd_lt (by omega),
    getCwnd_withCwnd (Nat.min_le_right _ _) (u32_lt _), Nat.shiftRight_eq_div_pow]
  rfl

theorem NewAck.getCwnd_cubicSlowStart (h : NewAck t)
    (hless : t.SEG.ACK - t.SND.UNA < t.congestionData.SMSS) :
    t.cubicSlowStart.getCwnd = t.cubicSlowStartWindow := by
  have hlt := h.smss_lt
  have hle : (if t.isWindowScaling then
      u16 (u32 (t.getCwnd + (t.SEG.ACK - t.SND.UNA)) >>> t.windShift)
      else min 65535 (u32 (t.getCwnd + (t.SEG.ACK - t.SND.UNA)) >>> t.windShift)) ≤
      u32 (t.getCwnd + (t.SEG.ACK - t.SND.UNA)) >>> t.windShift := by
    split
    · exact Nat.mod_le _ _
    · exact Nat.min_le_right _ _
  rw [cubicSlowStart, h.ackedBytes_eq hless, cubicIncreaseCwnd_eq t h.cwnd_lt (by omega),
    getCwnd_withCwnd hle (u32_lt _), Nat.shiftRight_eq_div_pow]
  rfl

theorem NewAck.creditBehind_le_iff (h : NewAck t) {after : Tcb} {window : Nat}
    (hwindow : t.SEG.ACK - t.SND.UNA < t.congestionData.SMSS → t.inSlowStart = true →
      (after.inSlowStart = true ↔ window ≤ t.getSsthres)) :
    t.creditBehind after ≤ (t.SEG.ACK - t.SND.UNA) / t.getMSS ↔ t.CountsWhole window := by
  have hseg : t.segmentAcked = (t.SEG.ACK - t.SND.UNA) / t.congestionData.SMSS := by
    rw [segmentAcked, h.sub_eq, getMSS]
  have hpos := h.smss_pos
  have hslow := t.inSlowStart_iff
  have hless_iff : t.SEG.ACK - t.SND.UNA < t.congestionData.SMSS ↔ t.segmentAcked = 0 := by
    rw [hseg, Nat.div_eq_zero_iff]
    omega
  have hseg_lt : t.segmentAcked < 2 ^ 32 := by
    have hle := Nat.div_le_self (t.SEG.ACK - t.SND.UNA) t.congestionData.SMSS
    have hnxt := h.nxt_lt
    have hack := h.ack_le
    omega
  unfold creditBehind CountsWhole
  rw [getMSS, ← hseg]
  by_cases hin : t.inSlowStart = true
  · by_cases hless : t.SEG.ACK - t.SND.UNA < t.congestionData.SMSS
    · have hzero := hless_iff.1 hless
      have hw := hwindow hless hin
      rw [hzero]
      split
      · next hstay =>
        exact iff_of_true (Nat.zero_le _) (Or.inr (Or.inr (hw.1 hstay)))
      · next hleave =>
        refine iff_of_false (by decide) ?_
        rintro (hge | hout | hle)
        · omega
        · have hle := hslow.1 hin
          omega
        · exact hleave (hw.2 hle)
    · refine iff_of_true ?_ (Or.inl (by omega))
      split
      · exact Nat.zero_le _
      · rw [sub32_of_le (by omega) hseg_lt]
        omega
  · have hout : t.getSsthres < t.getCwnd := by
      rw [hslow] at hin
      omega
    refine iff_of_true ?_ (Or.inr (Or.inl hout))
    split
    · exact Nat.zero_le _
    · exact Nat.le_refl _

/-! ## BIC -/

def bicBehind (t : Tcb) : Tcb := if t.inSlowStart then t.slowStart else t

/-- The credit of `bictcp_cong_avoid`. -/
def bicCredit (t : Tcb) : Nat := t.creditBehind t.bicBehind

/-- The credit is counted, and `cnt` computed anew. -/
def bicCounted (dEventTime credit : Nat) (t : Tcb) : Tcb :=
  (t.mapCongestion fun c =>
    { c with bic := { c.bic with cwndcnt := u32 (c.bic.cwndcnt + credit) } }).bictcpUpdate dEventTime

def bicPaid (t : Tcb) : Tcb :=
  if t.congestionData.bic.cnt < t.congestionData.bic.cwndcnt then
    (t.increaseCwnd t.congestionData.SMSS).mapCongestion fun c =>
      { c with bic := { c.bic with cwndcnt := 0 } }
  else t

theorem bictcpCongAvoid_eq (dEventTime : Nat) (t : Tcb) :
    t.bictcpCongAvoid dEventTime t.segmentAcked =
      if 0 < t.bicCredit then (t.bicBehind.bicCounted dEventTime t.bicCredit).bicPaid
      else t.bicBehind := by
  unfold bictcpCongAvoid bicCredit creditBehind bicBehind
  by_cases hin : t.inSlowStart = true
  · simp only [hin, if_true]
    by_cases hstay : t.slowStart.inSlowStart = true
    · simp [hstay]
    · simp [hstay]
      rfl
  · simp [hin]
    rfl

theorem wnd_bicCounted (dEventTime credit : Nat) (t : Tcb) :
    (t.bicCounted dEventTime credit).wnd = t.wnd := by
  unfold bicCounted bictcpUpdate
  dsimp only [mapCongestion]
  split
  · rfl
  · rfl

theorem cwndcnt_bicCounted (dEventTime credit : Nat) (t : Tcb) :
    (t.bicCounted dEventTime credit).congestionData.bic.cwndcnt =
      u32 (t.congestionData.bic.cwndcnt + credit) := by
  unfold bicCounted bictcpUpdate
  dsimp only [mapCongestion]
  split
  · rfl
  · rfl

theorem getCwnd_of_wnd {t t' : Tcb} (h : t'.wnd = t.wnd) : t'.getCwnd = t.getCwnd := by
  simp only [wnd, Prod.mk.injEq] at h
  obtain ⟨hcwnd, -, hscaling, hshift⟩ := h
  rw [getCwnd, hcwnd, hscaling, hshift, getCwnd]

theorem bicPaid_count (hcwnd : t.congestionData.cwnd < 2 ^ 16)
    (hsmss : t.congestionData.SMSS < 2 ^ 16) :
    t.bicPaid.bicCount = t.bicCount ∨
      t.bicCount.cnt < t.bicCount.cwndcnt ∧ t.bicPaid.bicCount.cnt = t.bicCount.cnt ∧
        t.bicPaid.bicCount.cwndcnt = 0 ∧
        t.bicPaid.bicCount.window ≤ t.bicCount.window + t.congestionData.SMSS := by
  unfold bicPaid
  split
  · next hlt =>
    have hle := getCwnd_increaseCwnd_le hcwnd hsmss
    have heq := increaseCwnd_eq t hcwnd hsmss
    refine Or.inr ⟨hlt, ?_, rfl, hle⟩
    rw [heq]
    rfl
  · exact Or.inl rfl

theorem NewAck.bicBehind (h : NewAck t) :
    t.bicBehind.getCwnd ≤ t.getCwnd + t.slowStartBytes ∧ ∃ cwnd, cwnd < 2 ^ 16 ∧
      t.bicBehind = t.withCwnd cwnd := by
  unfold Tcb.bicBehind slowStartBytes
  split
  · have hbytes := h.ackedBytes_le
    have hsmss := h.smss_lt
    have hle := getCwnd_increaseCwnd_le h.cwnd_lt
      (show min t.ackedBytes t.congestionData.SMSS < 2 ^ 16 by omega)
    refine ⟨?_, _, ?_, increaseCwnd_eq t h.cwnd_lt (by omega)⟩
    · unfold slowStart
      omega
    · omega
  · exact ⟨Nat.le_add_right _ _, t.congestionData.cwnd, h.cwnd_lt, rfl⟩

theorem NewAck.bicCredit_le_iff (h : NewAck t) :
    t.bicCredit ≤ (t.SEG.ACK - t.SND.UNA) / t.getMSS ↔ t.CountsWhole t.bicSlowStartWindow := by
  apply h.creditBehind_le_iff
  intro hless hin
  have hbehind : t.bicBehind = t.slowStart := if_pos hin
  have hssthres : t.slowStart.getSsthres = t.getSsthres := by
    rw [slowStart, increaseCwnd_eq t h.cwnd_lt (Nat.lt_of_le_of_lt (Nat.min_le_right _ _) h.smss_lt)]
    rfl
  rw [hbehind, inSlowStart_iff, h.getCwnd_slowStart hless, hssthres]

theorem NewAck.bicCredits_iff (h : NewAck t) (dEventTime : Nat) :
    Credits ((t.SEG.ACK - t.SND.UNA) / t.getMSS) t.slowStartBytes t.congestionData.SMSS t.bicCredit
        t.bicCount (t.bictcpCongAvoid dEventTime t.segmentAcked).bicCount ↔
      t.CountsWhole t.bicSlowStartWindow := by
  rw [← h.bicCredit_le_iff]
  refine ⟨fun hcredits => hcredits.credit_le, fun hcredit => ?_⟩
  obtain ⟨hslow, cwnd, hcwnd, hbehind⟩ := h.bicBehind
  rw [bictcpCongAvoid_eq]
  split
  · have hwnd := wnd_bicCounted dEventTime t.bicCredit t.bicBehind
    have hcount := cwndcnt_bicCounted dEventTime t.bicCredit t.bicBehind
    rw [hbehind] at hwnd hcount hslow ⊢
    have hget := getCwnd_of_wnd hwnd
    simp only [wnd, Prod.mk.injEq] at hwnd
    obtain ⟨hcwnd', hsmss, -, -⟩ := hwnd
    have hpaid := bicPaid_count (t := (t.withCwnd cwnd).bicCounted dEventTime t.bicCredit)
      (by rw [hcwnd']; exact hcwnd) (by rw [hsmss]; exact h.smss_lt)
    rw [hsmss] at hpaid
    refine Credits.of_counted hcredit ?_ hcount hpaid
    exact hget.le.trans hslow
  · next hzero =>
    have hno : t.bicCredit = 0 := by omega
    refine Credits.of_counted hcredit hslow ?_ (Or.inl rfl)
    rw [hbehind, hno, Nat.add_zero]
    exact (u32_of_lt h.bic_lt).symm

/-! ## CUBIC -/

def cubicBehind (dEventTime : Nat) (t : Tcb) : Tcb := (t.cubicSlowStarted dEventTime 0).1

/-- The credit of `cubictcp_cong_avoid`. -/
def cubicCredit (dEventTime : Nat) (t : Tcb) : Nat := t.creditBehind (t.cubicBehind dEventTime)

def cubicPaid (t : Tcb) : Tcb :=
  if t.congestionData.cubic.cnt < t.congestionData.cubic.cwndcnt then
    (t.cubicIncreaseCwnd t.congestionData.SMSS).mapCubic fun ca => { ca with cwndcnt := 0 }
  else t

theorem cubicSlowStarted_eq (dEventTime segmentAcked : Nat) (t : Tcb) :
    t.cubicSlowStarted dEventTime segmentAcked =
      (t.cubicBehind dEventTime, if t.inSlowStart then sub32 segmentAcked 1 else segmentAcked) := by
  unfold cubicBehind cubicSlowStarted
  split
  · rfl
  · rfl

theorem cubictcpCongAvoid_eq (dEventTime : Nat) (t : Tcb) :
    t.cubictcpCongAvoid dEventTime t.segmentAcked =
      if 0 < t.cubicCredit dEventTime then
        ((t.cubicBehind dEventTime).cubicUpdated dEventTime (t.cubicCredit dEventTime)).cubicPaid
      else t.cubicBehind dEventTime := by
  have hpair := cubicSlowStarted_eq dEventTime t.segmentAcked t
  have hshape : t.cubictcpCongAvoid dEventTime t.segmentAcked =
      let pair := t.cubicSlowStarted dEventTime t.segmentAcked
      if !pair.1.inSlowStart && 0 < pair.2 then
        (pair.1.cubicUpdated dEventTime pair.2).cubicPaid
      else pair.1 := rfl
  rw [hshape, hpair]
  unfold cubicCredit creditBehind
  by_cases hstay : (t.cubicBehind dEventTime).inSlowStart = true
  · simp [hstay]
  · simp [hstay]

theorem cubictcpUpdate_frame (dEventTime acked : Nat) (t : Tcb) :
    (t.cubictcpUpdate dEventTime acked).wnd = t.wnd ∧
      (t.cubictcpUpdate dEventTime acked).congestionData.cubic.cwndcnt =
        t.congestionData.cubic.cwndcnt := by
  unfold cubictcpUpdate mapCubic mapCongestion
  dsimp only
  refine ⟨rfl, ?_⟩
  split
  · rfl
  · split
    · rfl
    · unfold cubicEpoch
      split
      · rfl
      · rfl

theorem cubicPaid_count (hcwnd : t.congestionData.cwnd < 2 ^ 16)
    (hsmss : t.congestionData.SMSS < 2 ^ 16) :
    t.cubicPaid.cubicCount = t.cubicCount ∨
      t.cubicCount.cnt < t.cubicCount.cwndcnt ∧ t.cubicPaid.cubicCount.cnt = t.cubicCount.cnt ∧
        t.cubicPaid.cubicCount.cwndcnt = 0 ∧
        t.cubicPaid.cubicCount.window ≤ t.cubicCount.window + t.congestionData.SMSS := by
  unfold cubicPaid
  split
  · next hlt =>
    have hle := getCwnd_cubicIncreaseCwnd_le hcwnd hsmss
    have heq := cubicIncreaseCwnd_eq t hcwnd hsmss
    refine Or.inr ⟨hlt, ?_, rfl, hle⟩
    rw [heq]
    rfl
  · exact Or.inl rfl

theorem cubicIncreaseCwnd_lt (t : Tcb) (n : Nat) :
    (t.cubicIncreaseCwnd n).congestionData.cwnd < 2 ^ 16 := by
  by_cases hscaling : t.isWindowScaling = true
  · rw [cubicIncreaseCwnd_scaled hscaling]
    exact u16_lt _
  · rw [cubicIncreaseCwnd_unscaled hscaling, withCwnd_cwnd, grownCwnd]
    omega

theorem NewAck.cubicBehind (h : NewAck t) (dEventTime : Nat) :
    let b := t.cubicBehind dEventTime
    b.getCwnd ≤ t.getCwnd + t.slowStartBytes ∧ b.congestionData.cwnd < 2 ^ 16 ∧
      b.congestionData.SMSS = t.congestionData.SMSS ∧
      b.congestionData.cubic.cwndcnt = t.congestionData.cubic.cwndcnt := by
  unfold Tcb.cubicBehind cubicSlowStarted slowStartBytes
  by_cases hin : t.inSlowStart = true
  · rw [if_pos hin, if_pos hin]
    have hbytes := h.ackedBytes_le
    have hsmss := h.smss_lt
    have hlt : min t.ackedBytes t.congestionData.SMSS < 2 ^ 16 := by omega
    -- the start of a round changes neither the window nor what slow start adds
    have hstep : ∀ t' : Tcb, t'.wnd = t.wnd → t'.ackedBytes = t.ackedBytes →
        t'.congestionData.cubic.cwndcnt = t.congestionData.cubic.cwndcnt →
        t'.cubicSlowStart.getCwnd ≤
            t.getCwnd + min (t.SEG.ACK - t.SND.UNA) t.congestionData.SMSS ∧
          t'.cubicSlowStart.congestionData.cwnd < 2 ^ 16 ∧
          t'.cubicSlowStart.congestionData.SMSS = t.congestionData.SMSS ∧
          t'.cubicSlowStart.congestionData.cubic.cwndcnt =
            t.congestionData.cubic.cwndcnt := by
      intro t' hwnd hacked hcount
      have hget := getCwnd_of_wnd hwnd
      simp only [wnd, Prod.mk.injEq] at hwnd
      obtain ⟨hcwnd, hsmss', -, -⟩ := hwnd
      have hcwnd' : t'.congestionData.cwnd < 2 ^ 16 := by
        rw [hcwnd]
        exact h.cwnd_lt
      unfold cubicSlowStart
      rw [hacked, hsmss']
      have hle := getCwnd_cubicIncreaseCwnd_le hcwnd' hlt
      refine ⟨by omega, cubicIncreaseCwnd_lt _ _, ?_, ?_⟩
      · rw [cubicIncreaseCwnd_eq t' hcwnd' hlt]
        exact hsmss'
      · rw [cubicIncreaseCwnd_eq t' hcwnd' hlt]
        exact hcount
    split
    · exact hstep _ rfl rfl rfl
    · exact hstep _ rfl rfl rfl
  · rw [if_neg hin, if_neg hin]
    exact ⟨Nat.le_add_right _ _, h.cwnd_lt, rfl, rfl⟩

theorem NewAck.hystartReset (h : NewAck t) (dEventTime : Nat) :
    NewAck (t.mapCubic (cubictcpHystartReset dEventTime t.SND.NXT)) :=
  ⟨h.una_lt, h.ack_le, h.nxt_lt, h.smss_pos, h.smss_lt, h.cwnd_lt, h.bic_lt, h.cubic_lt⟩

theorem cubicSlowStart_getSsthres (t : Tcb) : t.cubicSlowStart.getSsthres = t.getSsthres := by
  unfold cubicSlowStart cubicIncreaseCwnd
  split
  · rfl
  · rfl

theorem NewAck.cubicCredit_le_iff (h : NewAck t) (dEventTime : Nat) :
    t.cubicCredit dEventTime ≤ (t.SEG.ACK - t.SND.UNA) / t.getMSS ↔
      t.CountsWhole t.cubicSlowStartWindow := by
  apply h.creditBehind_le_iff
  intro hless hin
  unfold Tcb.cubicBehind cubicSlowStarted
  rw [if_pos hin]
  split
  · rw [inSlowStart_iff, (h.hystartReset dEventTime).getCwnd_cubicSlowStart hless,
      cubicSlowStart_getSsthres]
    rfl
  · rw [inSlowStart_iff, h.getCwnd_cubicSlowStart hless, cubicSlowStart_getSsthres]

theorem NewAck.cubicCredits_iff (h : NewAck t) (dEventTime : Nat) :
    Credits ((t.SEG.ACK - t.SND.UNA) / t.getMSS) t.slowStartBytes t.congestionData.SMSS
        (t.cubicCredit dEventTime) t.cubicCount
        (t.cubictcpCongAvoid dEventTime t.segmentAcked).cubicCount ↔
      t.CountsWhole t.cubicSlowStartWindow := by
  rw [← h.cubicCredit_le_iff dEventTime]
  refine ⟨fun hcredits => hcredits.credit_le, fun hcredit => ?_⟩
  obtain ⟨hslow, hcwnd, hsmss, hcount⟩ := h.cubicBehind dEventTime
  rw [cubictcpCongAvoid_eq]
  generalize t.cubicBehind dEventTime = b at hslow hcwnd hsmss hcount ⊢
  split
  · obtain ⟨hwnd, hcnt⟩ := cubictcpUpdate_frame dEventTime (t.cubicCredit dEventTime)
      (b.mapCubic fun ca => { ca with cwndcnt := u32 (ca.cwndcnt + t.cubicCredit dEventTime) })
    have hget := getCwnd_of_wnd hwnd
    simp only [wnd, Prod.mk.injEq] at hwnd
    obtain ⟨hcwnd', hsmss', -, -⟩ := hwnd
    have hpaid := cubicPaid_count (t := b.cubicUpdated dEventTime (t.cubicCredit dEventTime))
      (hcwnd'.trans_lt hcwnd) (hsmss'.trans_lt (hsmss.trans_lt h.smss_lt))
    have hcounted : (b.cubicUpdated dEventTime (t.cubicCredit dEventTime)).cubicCount.cwndcnt =
        u32 (t.cubicCount.cwndcnt + t.cubicCredit dEventTime) := by
      refine hcnt.trans ?_
      change u32 (b.congestionData.cubic.cwndcnt + _) = _
      rw [hcount]
      rfl
    refine Credits.of_counted hcredit ?_ hcounted ?_
    · exact hget.le.trans hslow
    · rw [← hsmss]
      exact hpaid
  · next hzero =>
    have hno : t.cubicCredit dEventTime = 0 := by omega
    refine Credits.of_counted hcredit hslow (hcount.trans ?_) (Or.inl rfl)
    rw [hno, Nat.add_zero]
    exact (u32_of_lt h.cubic_lt).symm

/-! ## Both algorithms -/

/-- A new acknowledgment is credited right exactly when it does not leave slow start with less than
one segment. -/
theorem congAvoid_credits_iff (t : Tcb) (h : NewAck t) (dEventTime : Nat) :
    (Credits ((t.SEG.ACK - t.SND.UNA) / t.getMSS) t.slowStartBytes t.congestionData.SMSS
        t.bicCredit t.bicCount (t.bictcpCongAvoid dEventTime t.segmentAcked).bicCount ↔
      t.CountsWhole t.bicSlowStartWindow) ∧
    (Credits ((t.SEG.ACK - t.SND.UNA) / t.getMSS) t.slowStartBytes t.congestionData.SMSS
        (t.cubicCredit dEventTime) t.cubicCount
        (t.cubictcpCongAvoid dEventTime t.segmentAcked).cubicCount ↔
      t.CountsWhole t.cubicSlowStartWindow) :=
  ⟨h.bicCredits_iff dEventTime, h.cubicCredits_iff dEventTime⟩

/-- A window of `cwnd` bytes below the threshold 4380, at an acknowledgment of `acked` bytes. -/
def slowStarting (cwnd acked : Nat) : Tcb :=
  { zeroTcb with
    SND := ⟨1, 20001, 0, 0, 0⟩
    SEG := ⟨0, 1 + acked, 0, 0⟩
    congestionData := { zeroCongestionVar with SMSS := 1460, cwnd := cwnd, ssthresh := 4380 } }

theorem newAck_slowStarting (cwnd acked : Nat) (hcwnd : cwnd < 2 ^ 16) (hpos : 0 < acked)
    (hacked : acked ≤ 20000) : NewAck (slowStarting cwnd acked) := by
  have hzero : 0 < 2 ^ 32 := by decide
  have hsmss : 0 < 1460 ∧ 1460 < 2 ^ 16 := by decide
  refine ⟨?_, ?_, (by decide : 20001 < 2 ^ 32), hsmss.1, hsmss.2, hcwnd, hzero, hzero⟩
  · change 1 < 1 + acked
    omega
  · change 1 + acked ≤ 20001
    omega

/-- The condition at an acknowledgment of two segments. -/
theorem congAvoid_credits_slowStarting :
    (slowStarting 4380 2920).bicCredit = 1 ∧
      Credits 2 1460 1460 (slowStarting 4380 2920).bicCredit (slowStarting 4380 2920).bicCount
        ((slowStarting 4380 2920).bictcpCongAvoid 0 2).bicCount := by
  have h := newAck_slowStarting 4380 2920 (by decide) (by decide) (by decide)
  exact ⟨by decide, (congAvoid_credits_iff _ h 0).1.2 (Or.inl (by decide))⟩

/-- The claimed law: every new acknowledgment is credited with whole segments. -/
def CreditsWhole : Prop :=
  ∀ (t : Tcb) (dEventTime : Nat), NewAck t →
    Credits ((t.SEG.ACK - t.SND.UNA) / t.getMSS) t.slowStartBytes t.congestionData.SMSS
      t.bicCredit t.bicCount (t.bictcpCongAvoid dEventTime t.segmentAcked).bicCount

/-- An acknowledgment of 100 bytes that leaves slow start is credited with `2 ^ 32 - 1` segments. -/
theorem not_creditsWhole : ¬CreditsWhole := by
  intro h
  have hnew := newAck_slowStarting 4380 100 (by decide) (by decide) (by decide)
  have hle := (h (slowStarting 4380 100) 0 hnew).credit_le
  revert hle
  decide

end Tcb

end NetSim.Tcp
