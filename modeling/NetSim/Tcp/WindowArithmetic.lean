import NetSim.Tcp.CongestionWindow

/-!
# The two copies of the window arithmetic (`Congestion.c`, `CUBIC.c`)

On an unscaled window the two copies of `set_cwnd` and `increase_cwnd` are the same. On a scaled one
those of CUBIC cast where the others cap at 65535, and do not raise a window of 0.
-/

namespace NetSim.Tcp

/-! ## Values kept in 16 bits -/

theorem shiftLeft_add_div (s cwnd n : Nat) : (cwnd <<< s + n) / 2 ^ s = cwnd + n / 2 ^ s := by
  rw [Nat.shiftLeft_eq, Nat.add_comm, Nat.add_mul_div_right _ _ (Nat.two_pow_pos s), Nat.add_comm]

theorem lt_two_pow_add_iff {s x : Nat} : x < 2 ^ (16 + s) ↔ x / 2 ^ s < 2 ^ 16 := by
  rw [Nat.div_lt_iff_lt_mul (Nat.two_pow_pos s), Nat.pow_add]

theorem u32_div_lt {s cwnd n : Nat} (hcwnd : cwnd < 2 ^ 16) (hn : n < 2 ^ 16)
    (hge : 2 ^ 32 ≤ cwnd <<< s + n) : u32 (cwnd <<< s + n) / 2 ^ s < cwnd ∧ n / 2 ^ s = 0 := by
  have hshift : 16 < s := by
    by_contra hle
    have hpow : 2 ^ s ≤ 2 ^ 16 := Nat.pow_le_pow_right (by decide) (Nat.le_of_not_lt hle)
    have hmul : cwnd * 2 ^ s ≤ 65535 * 2 ^ 16 := Nat.mul_le_mul (by omega) hpow
    omega
  have hbig : 2 ^ 17 ≤ 2 ^ s := Nat.pow_le_pow_right (by decide) hshift
  have hquot : n / 2 ^ s = 0 := Nat.div_eq_of_lt (by omega)
  refine ⟨?_, hquot⟩
  have hdiv := shiftLeft_add_div s cwnd n
  rcases Nat.lt_or_ge 32 s with hgt | hle
  · have hpos : cwnd ≠ 0 := by
      rintro rfl
      omega
    have hlt : 2 ^ 33 ≤ 2 ^ s := Nat.pow_le_pow_right (by decide) hgt
    have hu := u32_lt (cwnd <<< s + n)
    rw [Nat.div_eq_of_lt (by omega)]
    omega
  · have hpow : 2 ^ s ≤ 2 ^ 32 := Nat.pow_le_pow_right (by decide) hle
    have hsub : u32 (cwnd <<< s + n) ≤ cwnd <<< s + n - 2 ^ s := by
      unfold u32
      omega
    have hle' := Nat.div_le_div_right (c := 2 ^ s) hsub
    have hone : (cwnd <<< s + n) / 2 ^ s = (cwnd <<< s + n - 2 ^ s) / 2 ^ s + 1 :=
      Nat.div_eq_sub_div (Nat.two_pow_pos s) (by omega)
    omega

theorem cast_eq_cap_iff {s cwnd n : Nat} (hcwnd : cwnd < 2 ^ 16) (hn : n < 2 ^ 16) :
    u16 (u32 (cwnd <<< s + n) >>> s) = min 65535 ((cwnd <<< s + n) >>> s) ↔
      cwnd <<< s + n < 2 ^ min 32 (16 + s) := by
  have hmin : cwnd <<< s + n < 2 ^ min 32 (16 + s) ↔
      cwnd <<< s + n < 2 ^ 32 ∧ cwnd <<< s + n < 2 ^ (16 + s) := by
    rcases Nat.le_total 32 (16 + s) with hle | hle
    · have hpow : 2 ^ 32 ≤ 2 ^ (16 + s) := Nat.pow_le_pow_right (by decide) hle
      rw [Nat.min_eq_left hle]
      omega
    · have hpow : 2 ^ (16 + s) ≤ 2 ^ 32 := Nat.pow_le_pow_right (by decide) hle
      rw [Nat.min_eq_right hle]
      omega
  rw [hmin, lt_two_pow_add_iff, Nat.shiftRight_eq_div_pow, Nat.shiftRight_eq_div_pow]
  have hquot : n / 2 ^ s ≤ n := Nat.div_le_self _ _
  rw [shiftLeft_add_div]
  rcases Nat.lt_or_ge (cwnd <<< s + n) (2 ^ 32) with hlt | hge
  · rw [u32_of_lt hlt, and_iff_right hlt, shiftLeft_add_div, u16]
    generalize n / 2 ^ s = q at hquot
    omega
  · obtain ⟨hless, hzero⟩ := u32_div_lt hcwnd hn hge
    refine iff_of_false ?_ (fun h => absurd h.1 (by omega))
    rw [hzero, Nat.add_zero, u16]
    generalize u32 (cwnd <<< s + n) / 2 ^ s = q at hless
    omega

theorem kept_ne_zero_iff (n s : Nat) :
    u16 (n >>> s) ≠ 0 ↔ ∃ i, i < 16 ∧ n.testBit (s + i) = true := by
  constructor
  · intro hne
    obtain ⟨i, hi⟩ := Nat.exists_testBit_of_ne_zero hne
    rw [u16, Nat.testBit_mod_two_pow, Nat.testBit_shiftRight] at hi
    exact ⟨i, by simpa using hi⟩
  · rintro ⟨i, hi, hbit⟩ hzero
    have hkept : (u16 (n >>> s)).testBit i = true := by
      rw [u16, Nat.testBit_mod_two_pow, Nat.testBit_shiftRight, hbit]
      simpa using hi
    rw [hzero, Nat.zero_testBit] at hkept
    cases hkept

namespace Tcb

/-! ## `increase_cwnd` -/

def grownCwnd (t : Tcb) (increase : Nat) : Nat :=
  min 65535 ((t.congestionData.cwnd <<< t.windShift + increase) >>> t.windShift)

/-- Both `increase_cwnd` leave the same window, which is not smaller than before and stops at 65535
instead of wrapping. -/
structure GrowsAlike (t : Tcb) (increase : Nat) : Prop where
  same : t.increaseCwnd increase = t.cubicIncreaseCwnd increase
  grows : t.congestionData.cwnd ≤ (t.cubicIncreaseCwnd increase).congestionData.cwnd
  saturates : (t.cubicIncreaseCwnd increase).congestionData.cwnd = t.grownCwnd increase

/-- The window is not scaled, or the sum fits a `UINT32` and, above the shift, 16 bits. -/
def SumFits (t : Tcb) (increase : Nat) : Prop :=
  t.isWindowScaling = true →
    t.congestionData.cwnd <<< t.sndWindShift + increase < 2 ^ min 32 (16 + t.sndWindShift)

variable {t : Tcb} {increase newcwnd : Nat}

theorem windShift_of_scaling (hscaling : t.isWindowScaling = true) :
    t.windShift = t.sndWindShift := if_pos hscaling

theorem windShift_of_not_scaling (hscaling : ¬t.isWindowScaling = true) : t.windShift = 0 :=
  if_neg hscaling

theorem withCwnd_cwnd (t : Tcb) (cwnd : Nat) : (t.withCwnd cwnd).congestionData.cwnd = cwnd := rfl

theorem withCwnd_inj {a b : Nat} : t.withCwnd a = t.withCwnd b ↔ a = b :=
  ⟨fun h => by rw [← withCwnd_cwnd t a, h, withCwnd_cwnd], fun h => by rw [h]⟩

theorem le_grownCwnd (hcwnd : t.congestionData.cwnd < 2 ^ 16) (increase : Nat) :
    t.congestionData.cwnd ≤ t.grownCwnd increase := by
  have hle : t.congestionData.cwnd ≤
      (t.congestionData.cwnd <<< t.windShift + increase) >>> t.windShift := by
    rw [Nat.shiftRight_eq_div_pow, shiftLeft_add_div]
    exact Nat.le_add_right _ _
  unfold grownCwnd
  omega

theorem increaseCwnd_frame (t : Tcb) (increase : Nat) :
    ∃ cwnd, t.increaseCwnd increase = t.withCwnd cwnd := by
  unfold increaseCwnd
  split
  · exact ⟨_, rfl⟩
  · exact ⟨_, rfl⟩

theorem cubicIncreaseCwnd_frame (t : Tcb) (increase : Nat) :
    ∃ cwnd, t.cubicIncreaseCwnd increase = t.withCwnd cwnd := by
  unfold cubicIncreaseCwnd
  split
  · exact ⟨_, rfl⟩
  · exact ⟨_, rfl⟩

theorem scaledSum_eq (hscaling : t.isWindowScaling = true) (increase : Nat) :
    u32 (t.windowScaleGetCwnd + increase) =
      u32 (t.congestionData.cwnd <<< t.sndWindShift + increase) := by
  rw [windowScaleGetCwnd, if_pos hscaling, getWND]
  unfold u32
  rw [Nat.mod_add_mod]

theorem increaseCwnd_scaled (hscaling : t.isWindowScaling = true) (increase : Nat) :
    t.increaseCwnd increase = t.withCwnd (min 65535
      (u32 (t.congestionData.cwnd <<< t.sndWindShift + increase) >>> t.sndWindShift)) := by
  unfold increaseCwnd
  rw [if_pos hscaling, scaledSum_eq hscaling]
  rfl

theorem cubicIncreaseCwnd_scaled (hscaling : t.isWindowScaling = true) (increase : Nat) :
    t.cubicIncreaseCwnd increase = t.withCwnd (u16
      (u32 (t.congestionData.cwnd <<< t.sndWindShift + increase) >>> t.sndWindShift)) := by
  unfold cubicIncreaseCwnd
  rw [if_pos hscaling, scaledSum_eq hscaling]

theorem cubicIncreaseCwnd_unscaled (hscaling : ¬t.isWindowScaling = true) (increase : Nat) :
    t.cubicIncreaseCwnd increase = t.withCwnd (t.grownCwnd increase) := by
  unfold cubicIncreaseCwnd grownCwnd
  rw [if_neg hscaling, windShift_of_not_scaling hscaling, Nat.shiftLeft_zero, Nat.shiftRight_zero]
  rfl

theorem increaseCwnd_unscaled (hscaling : ¬t.isWindowScaling = true) (increase : Nat) :
    t.increaseCwnd increase = t.cubicIncreaseCwnd increase := by
  unfold increaseCwnd cubicIncreaseCwnd
  rw [if_neg hscaling, if_neg hscaling]

theorem increaseCwnd_eq_grown (hs : t.sndWindShift ≤ 14) (hcwnd : t.congestionData.cwnd < 2 ^ 16)
    (hincrease : increase < 2 ^ 16) : t.increaseCwnd increase = t.withCwnd (t.grownCwnd increase) := by
  by_cases hscaling : t.isWindowScaling = true
  · have hlt := shiftLeft_lt hcwnd hs
    rw [increaseCwnd_scaled hscaling, u32_of_lt (by omega), grownCwnd,
      windShift_of_scaling hscaling]
  · rw [increaseCwnd_unscaled hscaling, cubicIncreaseCwnd_unscaled hscaling]

theorem grownCwnd_eq (hcwnd : t.congestionData.cwnd < 2 ^ 16) (increase : Nat) :
    t.grownCwnd increase =
      t.congestionData.cwnd + min (65535 - t.congestionData.cwnd) (increase / 2 ^ t.windShift) := by
  rw [grownCwnd, Nat.shiftRight_eq_div_pow, shiftLeft_add_div]
  omega

theorem growsAlike_iff (hcwnd : t.congestionData.cwnd < 2 ^ 16) (hincrease : increase < 2 ^ 16) :
    t.GrowsAlike increase ↔ t.SumFits increase := by
  by_cases hscaling : t.isWindowScaling = true
  · have hcast := cast_eq_cap_iff (s := t.sndWindShift) hcwnd hincrease
    have hgrown : t.grownCwnd increase = min 65535
        ((t.congestionData.cwnd <<< t.sndWindShift + increase) >>> t.sndWindShift) := by
      rw [grownCwnd, windShift_of_scaling hscaling]
    unfold SumFits
    rw [← hcast, ← hgrown]
    constructor
    · rintro ⟨-, -, hsat⟩ -
      rwa [cubicIncreaseCwnd_scaled hscaling] at hsat
    · intro hfits
      have hsat := hfits hscaling
      have hlt : t.congestionData.cwnd <<< t.sndWindShift + increase < 2 ^ 32 := by
        have hpow : 2 ^ min 32 (16 + t.sndWindShift) ≤ 2 ^ 32 :=
          Nat.pow_le_pow_right (by decide) (Nat.min_le_left _ _)
        omega
      refine ⟨?_, ?_, ?_⟩
      · rw [increaseCwnd_scaled hscaling, cubicIncreaseCwnd_scaled hscaling, withCwnd_inj, hsat,
          hgrown, u32_of_lt hlt]
      · rw [cubicIncreaseCwnd_scaled hscaling, withCwnd_cwnd, hsat]
        exact le_grownCwnd hcwnd increase
      · rw [cubicIncreaseCwnd_scaled hscaling, withCwnd_cwnd, hsat]
  · refine iff_of_true ⟨increaseCwnd_unscaled hscaling increase, ?_, ?_⟩
      (fun h => absurd h hscaling)
    · rw [cubicIncreaseCwnd_unscaled hscaling, withCwnd_cwnd]
      exact le_grownCwnd hcwnd increase
    · rw [cubicIncreaseCwnd_unscaled hscaling, withCwnd_cwnd]

/-! ## `set_cwnd` -/

/-- Both `set_cwnd` leave the same window, which is not 0 if it was asked for more. -/
structure SetsAlike (t : Tcb) (newcwnd : Nat) : Prop where
  same : t.setCwnd newcwnd = t.cubicSetCwnd newcwnd
  ne_zero : newcwnd ≠ 0 → (t.cubicSetCwnd newcwnd).congestionData.cwnd ≠ 0

/-- One of the 16 bits of the request that the window keeps is set, or the window is not scaled and
the request is 0. -/
def KeepsBit (t : Tcb) (newcwnd : Nat) : Prop :=
  (∃ i, i < 16 ∧ newcwnd.testBit (t.windShift + i) = true) ∨
    t.isWindowScaling = false ∧ newcwnd = 0

theorem setCwnd_scaled (hscaling : t.isWindowScaling = true) (newcwnd : Nat) :
    t.setCwnd newcwnd = t.withCwnd (if u16 (newcwnd >>> t.sndWindShift) = 0 then 1
      else u16 (newcwnd >>> t.sndWindShift)) := by
  rw [setCwnd, if_pos hscaling]

theorem setCwnd_unscaled (hscaling : ¬t.isWindowScaling = true) (newcwnd : Nat) :
    t.setCwnd newcwnd = t.withCwnd (u16 newcwnd) := by
  rw [setCwnd, if_neg hscaling]

theorem setCwnd_frame (t : Tcb) (newcwnd : Nat) : ∃ cwnd, t.setCwnd newcwnd = t.withCwnd cwnd := by
  unfold setCwnd
  split
  · exact ⟨_, rfl⟩
  · exact ⟨_, rfl⟩

theorem cubicSetCwnd_eq (t : Tcb) (newcwnd : Nat) :
    t.cubicSetCwnd newcwnd = t.withCwnd (u16 (newcwnd >>> t.windShift)) := by
  unfold cubicSetCwnd windShift
  split
  · rfl
  · rw [Nat.shiftRight_zero]

theorem setsAlike_iff (t : Tcb) (newcwnd : Nat) : t.SetsAlike newcwnd ↔ t.KeepsBit newcwnd := by
  unfold KeepsBit
  rw [← kept_ne_zero_iff]
  by_cases hscaling : t.isWindowScaling = true
  · rw [windShift_of_scaling hscaling, hscaling]
    have hset := setCwnd_scaled hscaling newcwnd
    have hcubic := t.cubicSetCwnd_eq newcwnd
    rw [windShift_of_scaling hscaling] at hcubic
    constructor
    · rintro ⟨hsame, -⟩
      left
      intro hzero
      rw [hset, hcubic, withCwnd_inj, if_pos hzero, hzero] at hsame
      cases hsame
    · rintro (hne | ⟨hfalse, -⟩)
      · exact ⟨by rw [hset, hcubic, if_neg hne], fun _ => by rwa [hcubic]⟩
      · cases hfalse
  · rw [windShift_of_not_scaling hscaling, Nat.shiftRight_zero]
    have hset := setCwnd_unscaled hscaling newcwnd
    have hcubic := t.cubicSetCwnd_eq newcwnd
    rw [windShift_of_not_scaling hscaling, Nat.shiftRight_zero] at hcubic
    constructor
    · rintro ⟨-, hne⟩
      by_cases hzero : newcwnd = 0
      · exact Or.inr ⟨by simpa using hscaling, hzero⟩
      · left
        have h := hne hzero
        rwa [hcubic] at h
    · intro h
      refine ⟨by rw [hset, hcubic], fun hne => ?_⟩
      rw [hcubic]
      rcases h with hkept | ⟨-, hzero⟩
      · exact hkept
      · exact absurd hzero hne

/-! ## Both together -/

/-- The copies of `increase_cwnd` agree exactly when the sum fits; those of `set_cwnd` exactly when
the window keeps one of the bits of the request. -/
theorem windowArithmetic_iff (t : Tcb) (hcwnd : t.congestionData.cwnd < 2 ^ 16) :
    (∀ increase < 2 ^ 16, t.GrowsAlike increase ↔ t.SumFits increase) ∧
      ∀ newcwnd, t.SetsAlike newcwnd ↔ t.KeepsBit newcwnd :=
  ⟨fun _ hincrease => growsAlike_iff hcwnd hincrease, t.setsAlike_iff⟩

/-- A scaled window of `cwnd` units of 128 bytes. -/
def scaledTo (cwnd : Nat) : Tcb :=
  { zeroTcb with
    isWindowScaling := true, sndWindShift := 7
    congestionData := { zeroCongestionVar with cwnd := cwnd } }

/-- The condition at a window far from its limit. -/
theorem windowArithmetic_scaled :
    (scaledTo 100).congestionData.cwnd < 2 ^ 16 ∧ (scaledTo 100).GrowsAlike 1460 ∧
      (scaledTo 100).SetsAlike 4380 := by
  obtain ⟨hgrow, hset⟩ := windowArithmetic_iff (scaledTo 100) (by decide)
  refine ⟨by decide, (hgrow 1460 (by decide)).2 fun _ => by decide, (hset 4380).2 ?_⟩
  exact Or.inl ⟨1, by decide, by decide⟩

def CopiesAgree : Prop :=
  ∀ t : Tcb, t.congestionData.cwnd < 2 ^ 16 →
    (∀ increase < 2 ^ 16, t.GrowsAlike increase) ∧ ∀ newcwnd, t.SetsAlike newcwnd

/-- At its limit the window of CUBIC falls from 65535 units to 10. -/
theorem not_copiesAgree : ¬CopiesAgree := by
  intro h
  have hgrows := ((h (scaledTo 65535) (by decide)).1 1460 (by decide)).grows
  revert hgrows
  decide

end Tcb

end NetSim.Tcp
