import Mathlib

/-!
# Windows in a cyclic number space

Numbers modulo `m`, and the window of `w` numbers that starts at `a`, which may run over the end of
the number space.
-/

namespace NetSim.Lib

/-- How far `n` lies after `a`, modulo `m`. -/
def cyclicDist (m a n : Nat) : Nat := (n + (m - a % m)) % m

/-- `n` is one of the `w` numbers from `a` on. -/
def InCyclicWindow (m a w n : Nat) : Prop := cyclicDist m a n < w
deriving Decidable

variable {m a w n : Nat}

theorem cyclicDist_of_le (hn : n < m) (hle : a ≤ n) : cyclicDist m a n = n - a := by
  have ha : a % m = a := Nat.mod_eq_of_lt (by omega)
  have heq : n + (m - a) = n - a + m := by omega
  rw [cyclicDist, ha, heq, Nat.add_mod_right, Nat.mod_eq_of_lt (by omega)]

theorem cyclicDist_of_lt (ha : a < m) (hlt : n < a) : cyclicDist m a n = n + m - a := by
  have heq : n + (m - a) = n + m - a := by omega
  rw [cyclicDist, Nat.mod_eq_of_lt ha, heq, Nat.mod_eq_of_lt (by omega)]

theorem cyclicDist_mod (m a n : Nat) : cyclicDist m a (n % m) = cyclicDist m a n := by
  simp [cyclicDist]

theorem cyclicDist_shift (hm : 0 < m) (a n k : Nat) :
    cyclicDist m ((a + k) % m) (n + k) = cyclicDist m a n := by
  have hlt' := Nat.mod_lt a hm
  have hk : (a + k) % m = (a % m + k) % m := by simp
  unfold cyclicDist
  rw [Nat.mod_mod, hk]
  have hdiv := Nat.mod_add_div (a % m + k) m
  -- both sides differ by the multiple of `m` that `(a % m + k) / m` counts
  have heq : n + k + (m - (a % m + k) % m) = n + (m - a % m) + m * ((a % m + k) / m) := by
    have hle : (a % m + k) % m < m := Nat.mod_lt _ hm
    omega
  rw [heq, Nat.add_mul_mod_self_left]

theorem inCyclicWindow_of_le (hn : n < m) (ha : a < m) (hw : a + w ≤ m) :
    InCyclicWindow m a w n ↔ a ≤ n ∧ n < a + w := by
  unfold InCyclicWindow
  rcases Nat.lt_or_ge n a with hlt | hle
  · rw [cyclicDist_of_lt ha hlt]
    omega
  · rw [cyclicDist_of_le hn hle]
    omega

theorem inCyclicWindow_of_gt (hn : n < m) (ha : a < m) (hw : m < a + w) :
    InCyclicWindow m a w n ↔ ¬(a + w ≤ n + m ∧ n < a) := by
  unfold InCyclicWindow
  rcases Nat.lt_or_ge n a with hlt | hle
  · rw [cyclicDist_of_lt ha hlt]
    omega
  · rw [cyclicDist_of_le hn hle]
    omega

theorem cyclicDist_add (hm : 0 < m) (a n : Nat) : (a + cyclicDist m a n) % m = n % m := by
  have hlt := Nat.mod_lt a hm
  have hdiv := Nat.mod_add_div a m
  have heq : a + (n + (m - a % m)) = n + m * (a / m + 1) := by
    rw [Nat.mul_add, Nat.mul_one]
    omega
  rw [cyclicDist, Nat.add_mod_mod, heq, Nat.add_mul_mod_self_left]

theorem exists_step_iff (hm : 0 < m) (a s x : Nat) :
    (∃ k, (a + k * s) % m = x) ↔ x < m ∧ x % Nat.gcd s m = a % Nat.gcd s m := by
  have hdvd := Nat.gcd_dvd_right s m
  constructor
  · rintro ⟨k, rfl⟩
    refine ⟨Nat.mod_lt _ hm, ?_⟩
    obtain ⟨c, hc⟩ := (Nat.gcd_dvd_left s m).mul_left k
    rw [Nat.mod_mod_of_dvd _ hdvd, hc, Nat.add_mul_mod_self_left]
  · rintro ⟨hx, hgrid⟩
    have hle := Nat.le_of_dvd hm hdvd
    rcases Nat.lt_or_ge (Nat.gcd s m) m with hlt | hge
    · obtain ⟨j, -, hj⟩ := Nat.exists_mul_mod_eq_gcd hlt
      -- the distance is a multiple of the gcd
      have hdist : Nat.gcd s m ∣ cyclicDist m a x := by
        have hadd : (a + cyclicDist m a x) % Nat.gcd s m = a % Nat.gcd s m := by
          rw [← Nat.mod_mod_of_dvd _ hdvd, cyclicDist_add hm, Nat.mod_mod_of_dvd _ hdvd, hgrid]
        exact (Nat.modEq_zero_iff_dvd.1 (Nat.ModEq.add_left_cancel' a hadd))
      obtain ⟨q, hq⟩ := hdist
      refine ⟨q * j, ?_⟩
      have hstep : q * j * s % m = cyclicDist m a x % m := by
        rw [hq, Nat.mul_assoc, Nat.mul_comm j s, Nat.mul_mod, hj, Nat.mul_comm, ← Nat.mul_mod_mod]
        simp
      rw [Nat.add_mod, hstep, ← Nat.add_mod, cyclicDist_add hm, Nat.mod_eq_of_lt hx]
    · have heq : Nat.gcd s m = m := Nat.le_antisymm hle hge
      rw [heq, Nat.mod_eq_of_lt hx] at hgrid
      exact ⟨0, by rw [Nat.zero_mul, Nat.add_zero, hgrid]⟩

theorem exists_step_ge_iff (hm : 0 < m) (a s n : Nat) :
    (∃ k, n ≤ (a + k * s) % m) ↔ n ≤ m - Nat.gcd s m + a % Nat.gcd s m := by
  have hdvd := Nat.gcd_dvd_right s m
  have hle := Nat.le_of_dvd hm hdvd
  have hpos : 0 < Nat.gcd s m := Nat.gcd_pos_of_pos_right s hm
  have hrest := Nat.mod_lt a hpos
  constructor
  · rintro ⟨k, hk⟩
    obtain ⟨hlt, hgrid⟩ := (exists_step_iff hm a s _).1 ⟨k, rfl⟩
    generalize (a + k * s) % m = x at hk hlt hgrid
    have hx := Nat.mod_add_div x (Nat.gcd s m)
    obtain ⟨c, hc⟩ := hdvd
    -- `x` and `m` are `x / g` and `c` steps of the grid
    have hq : x / Nat.gcd s m < c := by
      rw [Nat.div_lt_iff_lt_mul hpos, Nat.mul_comm, ← hc]
      exact hlt
    have hmul : Nat.gcd s m * (x / Nat.gcd s m + 1) ≤ Nat.gcd s m * c := Nat.mul_le_mul_left _ hq
    rw [← hc, Nat.mul_add, Nat.mul_one] at hmul
    omega
  · intro hn
    have hmem : m - Nat.gcd s m + a % Nat.gcd s m < m ∧
        (m - Nat.gcd s m + a % Nat.gcd s m) % Nat.gcd s m = a % Nat.gcd s m := by
      refine ⟨by omega, ?_⟩
      obtain ⟨c, hc⟩ := (Nat.dvd_sub hdvd (dvd_refl _) : Nat.gcd s m ∣ m - Nat.gcd s m)
      rw [hc, Nat.mul_add_mod, Nat.mod_mod]
    obtain ⟨k, hk⟩ := (exists_step_iff hm a s _).2 hmem
    exact ⟨k, by rw [hk]; exact hn⟩

end NetSim.Lib
