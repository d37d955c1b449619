import NetSim.Ospf.LsUpdate
import NetSim.Ospf.Recency

/-!
# Recency as an order

`ospf_lsa_compare` takes the difference of two 16-bit ages as an `INT16`. With `LSAMaxAge` close to
2^16 that can wrap: then the comparison is no longer transitive.
-/

namespace NetSim.Ospf

/-! ## What is to be shown -/

/-- The age of a header fits its 16 bits and is at most `LSAMaxAge`, the bit `DoNotAge` apart. -/
structure Config.AgeOk (cfg : Config) (lsa : Lsa) : Prop where
  fits : lsa.LSAge < 2 ^ 16
  le : cfg.age lsa ≤ cfg.LSAMaxAge

/-- `a` is newer than `b`, both with possible ages. -/
structure Config.Newer (cfg : Config) (a b : Lsa) : Prop where
  left : cfg.AgeOk a
  right : cfg.AgeOk b
  newer : cfg.lsaCompare b a = 1

/-- The LSA with the bit `DoNotAge`. -/
def Lsa.withDoNotAge (lsa : Lsa) : Lsa := { lsa with LSAge := doNotAge ||| lsa.LSAge }

/-- The comparison is a consistent order. -/
structure Config.IsConsistent (cfg : Config) : Prop where
  antisymm : ∀ a b, cfg.AgeOk a → cfg.AgeOk b → cfg.lsaCompare a b = -cfg.lsaCompare b a
  trans : ∀ a b c, cfg.Newer a b → cfg.Newer b c → cfg.Newer a c
  acyclic : ∀ a, ¬Relation.TransGen cfg.Newer a a
  withDoNotAge : cfg.supportDC = true → ∀ a b, cfg.AgeOk a → cfg.AgeOk b →
    cfg.lsaCompare a.withDoNotAge b = cfg.lsaCompare a b ∧
      cfg.lsaCompare a b.withDoNotAge = cfg.lsaCompare a b

/-! ## The comparison of 16-bit ages -/

variable {cfg : Config} {a b c : Lsa}

/-- An instance is newer than another one with the same number. The difference of the ages may wrap.
-/
def Config.FindsYounger (cfg : Config) (old new : Lsa) : Prop :=
  (cfg.age old < cfg.LSAMaxAge ∧ cfg.LSAMaxAge ≤ cfg.age new) ∨
    ((cfg.age old < cfg.LSAMaxAge ↔ cfg.age new < cfg.LSAMaxAge) ∧
      cfg.age new + lsaMaxAgeDiff < cfg.age old ∧ cfg.age old + lsaMaxAgeDiff < cfg.age new + 2 ^ 16)

/-- `new` is more recent than `old`, as `ospf_lsa_compare` finds it. -/
def Config.FindsNewer (cfg : Config) (old new : Lsa) : Prop :=
  old.LSSequenceNumber.toNat < new.LSSequenceNumber.toNat ∨
    (old.LSSequenceNumber.toNat = new.LSSequenceNumber.toNat ∧ cfg.FindsYounger old new)

theorem age_lt (h : a.LSAge < 2 ^ 16) : cfg.age a < 2 ^ 16 := by
  unfold Config.age Config.maskDoNotAge
  split
  · exact Nat.lt_of_le_of_lt (Nat.mod_le _ _) h
  · exact h

theorem natAbs_bmod_gt {x y : Nat} (hx : x < 2 ^ 16) (hy : y < 2 ^ 16) (hlt : x < y) :
    (((x : Int) - y).bmod (2 ^ 16)).natAbs > lsaMaxAgeDiff ↔
      x + lsaMaxAgeDiff < y ∧ y + lsaMaxAgeDiff < x + 2 ^ 16 := by
  rw [Int.bmod_def, lsaMaxAgeDiff]
  split <;> omega

theorem diffOfAge_gt (ha : a.LSAge < 2 ^ 16) (hb : b.LSAge < 2 ^ 16) (hlt : cfg.age a < cfg.age b) :
    (cfg.diffOfAge a.LSAge b.LSAge).natAbs > lsaMaxAgeDiff ↔
      cfg.age a + lsaMaxAgeDiff < cfg.age b ∧ cfg.age b + lsaMaxAgeDiff < cfg.age a + 2 ^ 16 :=
  natAbs_bmod_gt (age_lt ha) (age_lt hb) hlt

theorem diffOfAge_natAbs_comm (x y : Nat) :
    (cfg.diffOfAge x y).natAbs = (cfg.diffOfAge y x).natAbs := by
  unfold Config.diffOfAge
  rw [Int.bmod_def, Int.bmod_def]
  split <;> split <;> omega

theorem lsaCompare_of_lt (cfg : Config) (ha : a.LSAge < 2 ^ 16) (hb : b.LSAge < 2 ^ 16) :
    (cfg.lsaCompare a b = 1 ∧ cfg.FindsNewer a b ∧ ¬cfg.FindsNewer b a) ∨
      (cfg.lsaCompare a b = -1 ∧ cfg.FindsNewer b a ∧ ¬cfg.FindsNewer a b) ∨
      (cfg.lsaCompare a b = 0 ∧ ¬cfg.FindsNewer a b ∧ ¬cfg.FindsNewer b a) := by
  have hyounger : (cfg.diffOfAge b.LSAge a.LSAge).natAbs > lsaMaxAgeDiff ∧ cfg.age b < cfg.age a ↔
      cfg.age b + lsaMaxAgeDiff < cfg.age a ∧ cfg.age a + lsaMaxAgeDiff < cfg.age b + 2 ^ 16 := by
    refine ⟨fun h => (diffOfAge_gt hb ha h.2).1 h.1, fun h => ?_⟩
    have hlt : cfg.age b < cfg.age a := by omega
    exact ⟨(diffOfAge_gt hb ha hlt).2 h, hlt⟩
  have holder : (cfg.diffOfAge b.LSAge a.LSAge).natAbs > lsaMaxAgeDiff ∧ cfg.age b > cfg.age a ↔
      cfg.age a + lsaMaxAgeDiff < cfg.age b ∧ cfg.age b + lsaMaxAgeDiff < cfg.age a + 2 ^ 16 := by
    rw [diffOfAge_natAbs_comm]
    refine ⟨fun h => (diffOfAge_gt ha hb h.2).1 h.1, fun h => ?_⟩
    have hlt : cfg.age a < cfg.age b := by omega
    exact ⟨(diffOfAge_gt ha hb hlt).2 h, hlt⟩
  unfold Config.lsaCompare Config.FindsNewer Config.FindsYounger
  have hage : ∀ x : Lsa, cfg.maskDoNotAge x.LSAge = cfg.age x := fun _ => rfl
  simp only [hage, hyounger, holder, gt_iff_lt, UInt32.lt_iff_toNat_lt, ge_iff_le]
  generalize a.LSSequenceNumber.toNat = s
  generalize b.LSSequenceNumber.toNat = t
  generalize cfg.age a = x
  generalize cfg.age b = y
  split_ifs <;> simp <;> omega

theorem lsaCompare_eq_one (cfg : Config) (ha : a.LSAge < 2 ^ 16) (hb : b.LSAge < 2 ^ 16) :
    cfg.lsaCompare a b = 1 ↔ cfg.FindsNewer a b := by
  rcases lsaCompare_of_lt cfg ha hb with ⟨h, h1, h2⟩ | ⟨h, h1, h2⟩ | ⟨h, h1, h2⟩ <;>
    simp [h, h1, h2]

theorem Config.newer_iff : cfg.Newer a b ↔ cfg.AgeOk a ∧ cfg.AgeOk b ∧ cfg.FindsNewer b a := by
  constructor
  · rintro ⟨ha, hb, hnewer⟩
    exact ⟨ha, hb, (lsaCompare_eq_one cfg hb.fits ha.fits).1 hnewer⟩
  · rintro ⟨ha, hb, hnewer⟩
    exact ⟨ha, hb, (lsaCompare_eq_one cfg hb.fits ha.fits).2 hnewer⟩

/-! ## What always holds -/

theorem lsaCompare_antisymm (ha : a.LSAge < 2 ^ 16) (hb : b.LSAge < 2 ^ 16) :
    cfg.lsaCompare a b = -cfg.lsaCompare b a := by
  have hb_one := lsaCompare_eq_one cfg hb ha
  rcases lsaCompare_of_lt cfg ha hb with ⟨h, -, hba⟩ | ⟨h, hba, -⟩ | ⟨h, hab, hba⟩
  · rcases lsaCompare_of_lt cfg hb ha with ⟨h', hba', -⟩ | ⟨h', -, -⟩ | ⟨-, -, hab'⟩
    · exact absurd hba' hba
    · rw [h, h']
      rfl
    · exact absurd ((lsaCompare_eq_one cfg ha hb).1 h) hab'
  · rw [h, hb_one.2 hba]
  · rcases lsaCompare_of_lt cfg hb ha with ⟨-, hba', -⟩ | ⟨-, hab', -⟩ | ⟨h', -, -⟩
    · exact absurd hba' hba
    · exact absurd hab' hab
    · rw [h, h']
      rfl

theorem Config.FindsNewer.isNewer (h : cfg.FindsNewer a b) : cfg.IsNewer a b := by
  rcases h with h | ⟨hseq, hage⟩
  · exact Or.inl h
  · refine Or.inr ⟨hseq, ?_⟩
    rcases hage with hclass | ⟨hclass, hdiff, -⟩
    · exact Or.inl hclass
    · exact Or.inr ⟨hclass, hdiff⟩

theorem not_transGen_newer (a : Lsa) : ¬Relation.TransGen cfg.Newer a a := by
  have hnewer : ∀ {x y}, Relation.TransGen cfg.Newer x y → cfg.IsNewer y x := by
    intro x y h
    induction h with
    | single h => exact (Config.newer_iff.1 h).2.2.isNewer
    | tail _ h ih => exact (Config.newer_iff.1 h).2.2.isNewer.trans ih
  exact fun h => Config.IsNewer.not_self (hnewer h)

theorem age_withDoNotAge (hdc : cfg.supportDC = true) (ha : a.LSAge < 2 ^ 16) :
    cfg.age a.withDoNotAge = cfg.age a := by
  have hor : doNotAge ||| a.LSAge = doNotAge + a.LSAge % doNotAge := by
    have hmod : a.LSAge % doNotAge < 2 ^ 15 := Nat.mod_lt _ (by decide)
    have hadd : doNotAge + a.LSAge % doNotAge = doNotAge ||| a.LSAge % doNotAge :=
      Nat.two_pow_add_eq_or_of_lt hmod 1
    rw [hadd]
    refine Nat.eq_of_testBit_eq fun i => ?_
    have hpow : doNotAge = 2 ^ 15 := rfl
    rw [Nat.testBit_or, Nat.testBit_or, hpow, Nat.testBit_mod_two_pow, Nat.testBit_two_pow]
    rcases Nat.lt_trichotomy i 15 with hi | rfl | hi
    · simp [hi]
    · simp
    · rw [Nat.testBit_lt_two_pow (Nat.lt_of_lt_of_le ha (Nat.pow_le_pow_right (by decide) hi))]
      simp
  have hbit : (doNotAge + a.LSAge % doNotAge) / doNotAge % 2 = 1 := by
    rw [doNotAge]
    omega
  unfold Config.age Config.maskDoNotAge Config.checkForDoNotAge Lsa.withDoNotAge
  rw [hdc, hor, hbit]
  simp only [Bool.true_and, beq_self_eq_true, if_true]
  split
  · rw [Nat.add_mod_left, Nat.mod_mod]
  · next hno =>
    rw [doNotAge] at hno ⊢
    have : a.LSAge / 2 ^ 15 % 2 ≠ 1 := by simpa using hno
    omega

theorem lsaCompare_congr {a' b' : Lsa} (ha : a'.LSSequenceNumber = a.LSSequenceNumber)
    (hb : b'.LSSequenceNumber = b.LSSequenceNumber) (hage : cfg.age a' = cfg.age a)
    (hage' : cfg.age b' = cfg.age b) : cfg.lsaCompare a' b' = cfg.lsaCompare a b := by
  unfold Config.age at hage hage'
  rw [Config.lsaCompare, Config.lsaCompare, Config.diffOfAge, Config.diffOfAge, ha, hb, hage, hage']

/-! ## Transitivity -/

theorem findsNewer_iff (ha : cfg.AgeOk a)
    (hok : cfg.supportDC = true ∨ cfg.LSAMaxAge ≤ 2 ^ 16 - lsaMaxAgeDiff) :
    cfg.FindsNewer a b ↔ cfg.IsNewer a b := by
  refine ⟨Config.FindsNewer.isNewer, ?_⟩
  rintro (h | ⟨hseq, hage⟩)
  · exact Or.inl h
  refine Or.inr ⟨hseq, ?_⟩
  rcases hage with hclass | ⟨hclass, hdiff⟩
  · exact Or.inl hclass
  refine Or.inr ⟨hclass, hdiff, ?_⟩
  have hle := ha.le
  rcases hok with hdc | hmax
  · have hlt : cfg.age a < 2 ^ 15 := by
      unfold Config.age Config.maskDoNotAge Config.checkForDoNotAge doNotAge
      have hfits := ha.fits
      rw [hdc]
      split
      · omega
      · next hno =>
        have : a.LSAge / 2 ^ 15 % 2 ≠ 1 := by simpa [doNotAge] using hno
        omega
    omega
  · unfold lsaMaxAgeDiff at *
    omega

theorem newer_trans (hok : cfg.supportDC = true ∨ cfg.LSAMaxAge ≤ 2 ^ 16 - lsaMaxAgeDiff)
    (hab : cfg.Newer a b) (hbc : cfg.Newer b c) : cfg.Newer a c := by
  obtain ⟨ha, hb, hab⟩ := Config.newer_iff.1 hab
  obtain ⟨-, hc, hbc⟩ := Config.newer_iff.1 hbc
  rw [findsNewer_iff hb hok] at hab
  rw [findsNewer_iff hc hok] at hbc
  exact Config.newer_iff.2 ⟨ha, hc, (findsNewer_iff hc hok).2 (hbc.trans hab)⟩

def headerOfAge (age : Nat) : Lsa where
  LSAge := age
  Options := 0
  LSType := .router
  LinkStateID := ⟨30, 30⟩
  AdvertisingRouter := ⟨30, 30⟩
  LSSequenceNumber := initialSequenceNumber
  length := lsaHdrLen
  lsaInfo := none
  time := 0

theorem not_newer_trans (cfg : Config) (hdc : cfg.supportDC = false)
    (hmax : 2 ^ 16 - lsaMaxAgeDiff < cfg.LSAMaxAge) (hfits : cfg.LSAMaxAge < 2 ^ 16) :
    cfg.Newer (headerOfAge 0) (headerOfAge 32000) ∧
      cfg.Newer (headerOfAge 32000) (headerOfAge (cfg.LSAMaxAge - 1)) ∧
      ¬cfg.Newer (headerOfAge 0) (headerOfAge (cfg.LSAMaxAge - 1)) := by
  have hage : ∀ n, cfg.age (headerOfAge n) = n := fun n => by
    simp [Config.age, Config.maskDoNotAge, Config.checkForDoNotAge, hdc, headerOfAge]
  have hok : ∀ n, n < cfg.LSAMaxAge → cfg.AgeOk (headerOfAge n) := fun n hn =>
    ⟨Nat.lt_trans hn hfits, by rw [hage]; exact Nat.le_of_lt hn⟩
  unfold lsaMaxAgeDiff at hmax
  have hfinds : ∀ x y, x < cfg.LSAMaxAge → y < cfg.LSAMaxAge →
      (cfg.FindsNewer (headerOfAge y) (headerOfAge x) ↔ x + 900 < y ∧ y + 900 < x + 2 ^ 16) := by
    intro x y hx hy
    rw [Config.FindsNewer, Config.FindsYounger, hage, hage, lsaMaxAgeDiff]
    refine ⟨fun h => ?_, fun h => Or.inr ⟨rfl, Or.inr ⟨iff_of_true hy hx, h⟩⟩⟩
    rcases h with h | ⟨-, h | h⟩
    · exact absurd h (Nat.lt_irrefl _)
    · exact absurd hx (Nat.not_lt.2 h.2)
    · exact h.2
  refine ⟨Config.newer_iff.2 ⟨hok _ (by omega), hok _ (by omega), (hfinds _ _ ?_ ?_).2 ?_⟩,
    Config.newer_iff.2 ⟨hok _ (by omega), hok _ (by omega), (hfinds _ _ ?_ ?_).2 ?_⟩, fun h => ?_⟩
  any_goals omega
  have hnewer := (hfinds _ _ (by omega) (by omega)).1 (Config.newer_iff.1 h).2.2
  omega

/-- The order is consistent exactly if demand circuits are supported, or `LSAMaxAge` is so small
that no difference wraps below the threshold. -/
theorem lsaCompare_consistent_iff (hmax : cfg.LSAMaxAge < 2 ^ 16) :
    cfg.IsConsistent ↔ cfg.supportDC = true ∨ cfg.LSAMaxAge ≤ 2 ^ 16 - lsaMaxAgeDiff := by
  constructor
  · intro h
    by_contra hnot
    rw [not_or, Bool.not_eq_true, Nat.not_le] at hnot
    obtain ⟨hab, hbc, hac⟩ := not_newer_trans cfg hnot.1 hnot.2 hmax
    exact hac (h.trans _ _ _ hab hbc)
  · intro hok
    refine ⟨fun a b ha hb => lsaCompare_antisymm ha.fits hb.fits,
      fun a b c => newer_trans hok, not_transGen_newer, fun hdc a b ha hb => ⟨?_, ?_⟩⟩
    · exact lsaCompare_congr rfl rfl (age_withDoNotAge hdc ha.fits) rfl
    · exact lsaCompare_congr rfl rfl rfl (age_withDoNotAge hdc hb.fits)

/-- The default `LSAMaxAge`. -/
theorem exampleConfig_consistent : exampleConfig.IsConsistent :=
  (lsaCompare_consistent_iff (by decide)).2 (Or.inr (by decide))

/-- With ages of 0, 32000 and 65534 seconds the first is newer than the second and the second than
the third, but the first and the third are the same. -/
theorem not_lsaCompare_consistent :
    ¬∀ cfg : Config, cfg.LSAMaxAge < 2 ^ 16 → cfg.IsConsistent := by
  intro h
  have hconsistent := h { exampleConfig with LSAMaxAge := 65535 } (by decide)
  have hnewer := not_newer_trans { exampleConfig with LSAMaxAge := 65535 } rfl (by decide)
    (by decide)
  exact hnewer.2.2 (hconsistent.trans _ _ _ hnewer.1 hnewer.2.1)

end NetSim.Ospf
