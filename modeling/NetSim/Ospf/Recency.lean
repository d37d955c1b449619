import NetSim.Ospf.Lsa

/-!
# Recency of LSAs

Between ages below 2^15, without the bit `DoNotAge`, `ospf_lsa_compare` is antisymmetric and its
strict part transitive.
-/

namespace NetSim.Ospf

/-- The age of an LSA without the bit `DoNotAge`. -/
def Config.age (cfg : Config) (lsa : Lsa) : Nat := cfg.maskDoNotAge lsa.LSAge

/-- The age fits into the 15 bits besides `DoNotAge`. -/
def Config.FitsAge (cfg : Config) (lsa : Lsa) : Prop := cfg.age lsa < doNotAge

def Config.IsYounger (cfg : Config) (old new : Lsa) : Prop :=
  (cfg.age old < cfg.LSAMaxAge ∧ cfg.LSAMaxAge ≤ cfg.age new) ∨
    ((cfg.age old < cfg.LSAMaxAge ↔ cfg.age new < cfg.LSAMaxAge) ∧
      cfg.age new + lsaMaxAgeDiff < cfg.age old)

/-- `new` is more recent than `old`, as `ospf_lsa_compare` finds it. -/
def Config.IsNewer (cfg : Config) (old new : Lsa) : Prop :=
  old.LSSequenceNumber.toNat < new.LSSequenceNumber.toNat ∨
    (old.LSSequenceNumber.toNat = new.LSSequenceNumber.toNat ∧ cfg.IsYounger old new)

variable {cfg : Config} {a b c : Lsa}

theorem lsaCompare_self (lsa : Lsa) : cfg.lsaCompare lsa lsa = 0 := by
  unfold Config.lsaCompare Config.diffOfAge
  simp only [gt_iff_lt, UInt32.lt_irrefl, if_false, Int.sub_self, Int.zero_bmod, Int.natAbs_zero]
  split_ifs <;> omega

theorem diffOfAge_of_fits (ha : cfg.FitsAge a) (hb : cfg.FitsAge b) :
    cfg.diffOfAge a.LSAge b.LSAge = (cfg.age a : Int) - cfg.age b := by
  unfold Config.FitsAge doNotAge at ha hb
  change ((cfg.age a : Int) - cfg.age b).bmod (2 ^ 16) = _
  rw [Int.bmod_eq_of_le] <;> omega

theorem lsaCompare_of_fits (ha : cfg.FitsAge a) (hb : cfg.FitsAge b) :
    (cfg.lsaCompare a b = 1 ∧ cfg.IsNewer a b ∧ ¬cfg.IsNewer b a) ∨
      (cfg.lsaCompare a b = -1 ∧ cfg.IsNewer b a ∧ ¬cfg.IsNewer a b) ∨
      (cfg.lsaCompare a b = 0 ∧ ¬cfg.IsNewer a b ∧ ¬cfg.IsNewer b a) := by
  have hdiff := diffOfAge_of_fits hb ha
  unfold Config.lsaCompare Config.IsNewer Config.IsYounger
  rw [hdiff]
  simp only [gt_iff_lt, UInt32.lt_iff_toNat_lt, ge_iff_le]
  have hage : ∀ x : Lsa, cfg.maskDoNotAge x.LSAge = cfg.age x := fun _ => rfl
  simp only [hage]
  split_ifs <;> simp <;> omega

theorem lsaCompare_eq_one_iff (ha : cfg.FitsAge a) (hb : cfg.FitsAge b) :
    cfg.lsaCompare a b = 1 ↔ cfg.IsNewer a b := by
  rcases lsaCompare_of_fits ha hb with ⟨h, h1, h2⟩ | ⟨h, h1, h2⟩ | ⟨h, h1, h2⟩ <;>
    simp [h, h1, h2]

theorem lsaCompare_eq_neg_one_iff (ha : cfg.FitsAge a) (hb : cfg.FitsAge b) :
    cfg.lsaCompare a b = -1 ↔ cfg.IsNewer b a := by
  rcases lsaCompare_of_fits ha hb with ⟨h, h1, h2⟩ | ⟨h, h1, h2⟩ | ⟨h, h1, h2⟩ <;>
    simp [h, h1, h2]

theorem Config.IsNewer.trans (hab : cfg.IsNewer a b) (hbc : cfg.IsNewer b c) : cfg.IsNewer a c := by
  unfold Config.IsNewer Config.IsYounger lsaMaxAgeDiff at *
  omega

theorem Config.IsNewer.not_self : ¬cfg.IsNewer a a := by
  unfold Config.IsNewer Config.IsYounger
  omega

theorem Config.IsNewer.asymm (hab : cfg.IsNewer a b) : ¬cfg.IsNewer b a := fun hba =>
  Config.IsNewer.not_self (hab.trans hba)

/-- `b` is `a`, or more recent than `a`. -/
def Config.IsAtLeast (cfg : Config) (a b : Lsa) : Prop := a = b ∨ cfg.IsNewer a b

theorem Config.IsAtLeast.refl (a : Lsa) : cfg.IsAtLeast a a := Or.inl rfl

theorem Config.IsAtLeast.trans (hab : cfg.IsAtLeast a b) (hbc : cfg.IsAtLeast b c) :
    cfg.IsAtLeast a c := by
  rcases hab with rfl | hab
  · exact hbc
  · rcases hbc with rfl | hbc
    · exact Or.inr hab
    · exact Or.inr (hab.trans hbc)

theorem Config.IsAtLeast.lsaCompare_ne (ha : cfg.FitsAge a) (hb : cfg.FitsAge b)
    (hab : cfg.IsAtLeast a b) : cfg.lsaCompare a b ≠ -1 := by
  rw [Ne, lsaCompare_eq_neg_one_iff ha hb]
  rcases hab with rfl | hab
  · exact Config.IsNewer.not_self
  · exact hab.asymm

end NetSim.Ospf
