import NetSim.Tcp.Cubic

/-!
# The cube root of CUBIC (`CUBIC.c`)

`count_bit` returns the place of the first `1` of the binary digits, which is 0. `cubic_root`
therefore never leaves its first branch.
-/

namespace NetSim.Tcp

/-- `_i64toa` with radix 2. -/
def i64toa (n : Nat) : List Char :=
  if n = 0 then ['0'] else (Nat.digits 2 n).reverse.map fun d => if d = 1 then '1' else '0'

def countBit (n : UInt64) : Nat := ((i64toa n.toNat).findIdx? (· = '1')).getD 0

/-- `cubic_root` with all of its branches; `none` outside of the table and for the divisor 0. -/
def cubicRootOf (a : UInt64) : Option Nat := do
  let b := countBit a
  if b < 7 then
    let v ← cubicRootTable[u32 a.toNat]?
    return (v + 35) >>> 6
  let b := u32 ((b * 84) >>> 8 + (2 ^ 32 - 1))
  let shift := u32 (a.toNat >>> (b * 3))
  let v ← cubicRootTable[shift]?
  let x := u32 ((v + 10) <<< b) >>> 6
  let divisor := x * u32 (x + (2 ^ 32 - 1))
  if divisor = 0 then none
  let x := u32 (2 * x + u32 (a.toNat / divisor))
  return u32 (x * 341) >>> 10

/-- There is a result, and it is near the real cube root. -/
def CubicRootRight (a : UInt64) : Prop :=
  ∃ x, cubicRootOf a = some x ∧
    |(x : ℝ) - (a.toNat : ℝ) ^ (1 / 3 : ℝ)| ≤ 1 + (a.toNat : ℝ) ^ (1 / 3 : ℝ) / 32

theorem countBit_eq_zero (n : UInt64) : countBit n = 0 := by
  unfold countBit i64toa
  by_cases hn : n.toNat = 0
  · rw [if_pos hn]
    rfl
  · have hne : Nat.digits 2 n.toNat ≠ [] := Nat.digits_ne_nil_iff_ne_zero.2 hn
    obtain ⟨d, rest, hdigits⟩ := List.exists_cons_of_ne_nil (List.reverse_ne_nil_iff.2 hne)
    -- The first digit is not 0.
    have hlast : (Nat.digits 2 n.toNat).getLast hne = d := by
      rw [← List.head_reverse (List.reverse_ne_nil_iff.2 hne)]
      simp only [hdigits, List.head_cons]
    have hpos : d ≠ 0 := hlast ▸ Nat.getLast_digit_ne_zero 2 hn
    have hlt : d < 2 := Nat.digits_lt_base (by decide) (hlast ▸ List.getLast_mem hne)
    have hone : d = 1 := by omega
    rw [if_neg hn, hdigits, hone, List.map_cons, List.findIdx?_cons]
    rfl

theorem cubicRootOf_eq (a : UInt64) :
    cubicRootOf a = (cubicRootTable[u32 a.toNat]?).map fun v => (v + 35) >>> 6 := by
  unfold cubicRootOf
  rw [countBit_eq_zero]
  cases cubicRootTable[u32 a.toNat]? <;> rfl

theorem cubicRootOf_of_lt {a : UInt64} (ha : a.toNat < 64) :
    cubicRootOf a = some (cubicRoot a.toNat) := by
  have hsmall : u32 a.toNat = a.toNat := u32_of_lt (by omega)
  have hlength : a.toNat < cubicRootTable.length := ha
  rw [cubicRootOf_eq]
  unfold cubicRoot
  rw [hsmall, List.getD_eq_getElem?_getD, List.getElem?_eq_getElem hlength]
  rfl

theorem near_cubicRoot : ∀ a < 64, (cubicRoot a - 1) ^ 3 ≤ a ∧ a ≤ (cubicRoot a + 1) ^ 3 := by
  decide +kernel

theorem cubicRoot_le : ∀ a < 64, cubicRoot a ≤ 4 := by decide +kernel

section
variable {a : Nat}

theorem cbrt_nonneg (a : Nat) : (0 : ℝ) ≤ (a : ℝ) ^ (1 / 3 : ℝ) :=
  Real.rpow_nonneg (Nat.cast_nonneg a) _

theorem cbrt_pow (a : Nat) : ((a : ℝ) ^ (1 / 3 : ℝ)) ^ 3 = a := by
  rw [← Real.rpow_natCast, ← Real.rpow_mul (Nat.cast_nonneg a)]
  norm_num

theorem le_cbrt {k : Nat} (h : k ^ 3 ≤ a) : (k : ℝ) ≤ (a : ℝ) ^ (1 / 3 : ℝ) := by
  refine le_of_pow_le_pow_left₀ three_ne_zero (cbrt_nonneg a) ?_
  rw [cbrt_pow]
  exact_mod_cast h

theorem cbrt_le {k : Nat} (h : a ≤ k ^ 3) : (a : ℝ) ^ (1 / 3 : ℝ) ≤ k := by
  refine le_of_pow_le_pow_left₀ three_ne_zero (Nat.cast_nonneg k) ?_
  rw [cbrt_pow]
  exact_mod_cast h

end

/-- `cubic_root` is right for the numbers below 64, and `count_bit` for 0. -/
theorem cubicRoot_right_iff (a n : UInt64) :
    (CubicRootRight a ↔ a.toNat < 64) ∧ (countBit n = n.toNat.size ↔ n = 0) := by
  refine ⟨⟨?_, fun ha => ?_⟩, ?_⟩
  · rintro ⟨x, hx, hnear⟩
    by_contra ha
    rw [cubicRootOf_eq] at hx
    obtain ⟨v, hv, rfl⟩ := Option.map_eq_some_iff.1 hx
    -- The table is read at the low half of `a`, so `a` is not below `2 ^ 32`.
    have hindex : u32 a.toNat < 64 := (List.getElem?_eq_some_iff.1 hv).1
    have hlarge : 1000 ^ 3 ≤ a.toNat := by
      unfold u32 at hindex
      omega
    have hroot : ((1000 : ℕ) : ℝ) ≤ (a.toNat : ℝ) ^ (1 / 3 : ℝ) := le_cbrt hlarge
    have hsmall : (v + 35) >>> 6 ≤ 4 := by
      have hle := cubicRoot_le (u32 a.toNat) hindex
      unfold cubicRoot at hle
      rwa [u32_of_lt (by omega), List.getD_eq_getElem?_getD, hv] at hle
    have hcast : (((v + 35) >>> 6 : ℕ) : ℝ) ≤ 4 := by exact_mod_cast hsmall
    have hlow := (abs_le.1 hnear).1
    push_cast at hroot
    linarith
  · refine ⟨cubicRoot a.toNat, cubicRootOf_of_lt ha, ?_⟩
    obtain ⟨hlow, hhigh⟩ := near_cubicRoot a.toNat ha
    have hlow := le_cbrt hlow
    have hhigh := cbrt_le hhigh
    have hsub : (cubicRoot a.toNat : ℝ) ≤ ((cubicRoot a.toNat - 1 : ℕ) : ℝ) + 1 := by
      have hnat : cubicRoot a.toNat ≤ cubicRoot a.toNat - 1 + 1 := by omega
      exact_mod_cast hnat
    have hpos := cbrt_nonneg a.toNat
    push_cast at hhigh
    rw [abs_le]
    constructor <;> linarith
  · rw [countBit_eq_zero, eq_comm, Nat.size_eq_zero]
    exact ⟨fun h => UInt64.toNat_inj.1 h, fun h => by rw [h]; rfl⟩

/-- 64 is read behind the end of the table, and the most significant bit of 1 is not found. -/
theorem not_cubicRoot_right : ¬ CubicRootRight 64 ∧ countBit 1 ≠ Nat.size 1 := by
  refine ⟨?_, by rw [countBit_eq_zero]; decide⟩
  rintro ⟨x, hx, -⟩
  rw [cubicRootOf_eq] at hx
  cases hx

end NetSim.Tcp
