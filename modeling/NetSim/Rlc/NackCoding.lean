import NetSim.Rlc.NackDecoding
import NetSim.Rlc.Report

/-!
# The coding of NACKs (`LTENR_RLC_AM.c`)

`LTENR_RLCAM_STATUSPDU_AddNack` extends the last NACK where it can. A range of SNs is coded with its
length, in 8 bits, and read as if this were the distance of the last one.
-/

namespace NetSim.Rlc

open NetSim.Tcp

/-! ## What is missing -/

/-- What `LTENR_RLCAM_STATUSPDU_AddNack` is called with: an SDU of which nothing has arrived, or a
segment. -/
inductive MissingPart
  | sdu (sn : Nat)
  | segment (sn so : Nat)
deriving DecidableEq

namespace MissingPart

def sn : MissingPart → Nat
  | .sdu sn => sn
  | .segment sn _ => sn

def Names : MissingPart → RlcBuffer → Prop
  | .sdu sn, b => b.SN = sn
  | .segment sn so, b => b.SN = sn ∧ b.SO = so

instance (m : MissingPart) (b : RlcBuffer) : Decidable (m.Names b) := by
  cases m <;> unfold Names <;> infer_instance

/-- `m` is before `m'` in a status report. -/
def Before : MissingPart → MissingPart → Prop
  | .segment sn so, .segment sn' so' => sn < sn' ∨ sn = sn' ∧ so < so'
  | m, m' => m.sn < m'.sn

instance (m m' : MissingPart) : Decidable (m.Before m') := by
  cases m <;> cases m' <;> unfold Before <;> infer_instance

/-- The numbers are a `UINT` and a `UINT16`. -/
def InRange : MissingPart → Prop
  | .sdu sn => sn < 2 ^ 32
  | .segment sn so => sn < 2 ^ 32 ∧ so < 2 ^ 16

instance (m : MissingPart) : Decidable m.InRange := by
  cases m <;> unfold InRange <;> infer_instance

/-- The call of `LTENR_RLCAM_STATUSPDU_AddNack`. -/
def addNack (nacks : List Nack) : MissingPart → List Nack
  | .sdu sn => ReceivingEntity.addNack nacks .all sn 0
  | .segment sn so => ReceivingEntity.addNack nacks .middle sn so

end MissingPart

/-- An increasing sequence of what is missing. -/
structure Increasing (ms : List MissingPart) : Prop where
  sorted : ms.Pairwise MissingPart.Before
  inRange : ∀ m ∈ ms, m.InRange

def nacksOf (ms : List MissingPart) : List Nack := (ms.foldl MissingPart.addNack []).reverse

def NamedBy (ms : List MissingPart) (b : RlcBuffer) : Prop := ∃ m ∈ ms, m.Names b
deriving Decidable

/-! ## What `LTENR_RLCAM_UpdateStatus` reports -/

namespace MissingPart

variable {m m' : MissingPart}

theorem before_of_sn_lt (h : m.sn < m'.sn) : m.Before m' := by
  cases m with
  | sdu sn => cases m' <;> exact h
  | segment sn so =>
    cases m' with
    | sdu sn' => exact h
    | segment sn' so' => exact .inl h

end MissingPart

namespace ReceivingEntity

/-- What is missing of the SDU `sn`. -/
def missingOf (s : ReceivingEntity) (sn : Nat) : List MissingPart :=
  match s.findLastStatusInfo sn with
  | none => [.sdu sn]
  | some st =>
    if st.si = .all then []
    else ((List.range (st.SO + 1)).filter fun so => s.findStatus sn so = none).map (.segment sn)

/-- What is missing from `RX_Next` up to `RX_Next_Highest`. -/
def missing (s : ReceivingEntity) : List MissingPart :=
  (List.range' s.RX_Next (s.RX_Next_Highest - s.RX_Next)).flatMap s.missingOf

variable {s : ReceivingEntity} {sn : Nat}

theorem nackSn_eq (s : ReceivingEntity) (nacks : List Nack) (sn : Nat) :
    s.nackSn nacks sn = (s.missingOf sn).foldl MissingPart.addNack nacks := by
  unfold nackSn missingOf
  cases s.findLastStatusInfo sn with
  | none => rfl
  | some st =>
    dsimp only
    by_cases hall : st.si = .all
    · rw [if_pos hall, if_pos hall]
      rfl
    · rw [if_neg hall, if_neg hall]
      rw [List.foldl_map, List.foldl_filter]
      simp only [decide_eq_true_eq]
      rfl

theorem nacksOf_missing (s : ReceivingEntity) : nacksOf s.missing = s.updateStatus.reverse := by
  unfold nacksOf missing updateStatus
  rw [List.foldl_flatMap]
  congr 2
  funext nacks sn
  exact (s.nackSn_eq nacks sn).symm

theorem sn_of_mem_missingOf {m : MissingPart} (h : m ∈ s.missingOf sn) : m.sn = sn := by
  unfold missingOf at h
  split at h
  · rw [List.mem_singleton.1 h]
    rfl
  · split at h
    · cases h
    · obtain ⟨so, -, rfl⟩ := List.mem_map.1 h
      rfl

theorem pairwise_missingOf (s : ReceivingEntity) (sn : Nat) :
    (s.missingOf sn).Pairwise MissingPart.Before := by
  unfold missingOf
  split
  · exact List.pairwise_singleton _ _
  · split
    · exact List.Pairwise.nil
    · rw [List.pairwise_map]
      exact (List.pairwise_lt_range.filter _).imp fun hlt => Or.inr ⟨rfl, hlt⟩

theorem increasing_missing (hhighest : s.RX_Next_Highest < 2 ^ 32)
    (hrecorded : ∀ sn st, s.findLastStatusInfo sn = some st → st.SO < 2 ^ 16) :
    Increasing s.missing := by
  constructor
  · unfold missing
    rw [List.pairwise_flatMap]
    refine ⟨fun sn _ => s.pairwise_missingOf sn, (List.pairwise_lt_range' _ Nat.one_pos).imp ?_⟩
    intro sn sn' hlt m hm m' hm'
    apply MissingPart.before_of_sn_lt
    rw [sn_of_mem_missingOf hm, sn_of_mem_missingOf hm']
    exact hlt
  · intro m hm
    obtain ⟨sn, hsn, hm⟩ := List.mem_flatMap.1 hm
    have hsn := List.mem_range'_1.1 hsn
    have hlt : sn < 2 ^ 32 := by omega
    unfold missingOf at hm
    split at hm
    · rw [List.mem_singleton.1 hm]
      exact hlt
    · next st hst =>
      split at hm
      · cases hm
      · obtain ⟨so, hso, rfl⟩ := List.mem_map.1 hm
        have hso := List.mem_range.1 (List.mem_of_mem_filter hso)
        have := hrecorded sn st hst
        exact ⟨hlt, by omega⟩

end ReceivingEntity

/-! ## Pieces -/

/-- A piece of a sequence that one NACK covers: `n` SDUs from `sn` on, or the segments of an SDU
from `lo` to `hi`. -/
inductive Piece
  | sdus (sn n : Nat)
  | segments (sn lo hi : Nat)
deriving DecidableEq

namespace Piece

def single : MissingPart → Piece
  | .sdu sn => .sdus sn 1
  | .segment sn so => .segments sn so so

def extend : Piece → MissingPart → Option Piece
  | .sdus sn n, .sdu sn' => if n < 2 ^ 8 ∧ sn + n = sn' then some (.sdus sn (n + 1)) else none
  | .segments sn lo hi, .segment sn' so' =>
    if sn = sn' ∧ hi + 1 = so' then some (.segments sn lo so') else none
  | _, _ => none

def items : Piece → List MissingPart
  | .sdus sn n => (List.range' sn n).map .sdu
  | .segments sn lo hi => (List.range' lo (hi + 1 - lo)).map (.segment sn)

def nack : Piece → Nack
  | .sdus sn n =>
    { NAck_SN := sn, E2 := false, E3 := n ≠ 1, soStart := 0, soEnd := 0
      NAckRange := if n = 1 then 0 else u8 n }
  | .segments sn lo hi =>
    { NAck_SN := sn, E2 := true, E3 := false, soStart := lo, soEnd := hi, NAckRange := 0 }

def WellFormed : Piece → Prop
  | .sdus _ n => 0 < n ∧ n ≤ 2 ^ 8
  | .segments _ lo hi => lo ≤ hi

/-- A sequence cut into pieces, of which `cur` is the first one. -/
def grow (cur : Piece) : List MissingPart → List Piece
  | [] => [cur]
  | m :: ms =>
    match cur.extend m with
    | some cur => grow cur ms
    | none => cur :: grow (single m) ms

end Piece

/-- A sequence cut into pieces: the maximal runs of SDUs and of segments, where 256 SDUs are one
piece. -/
def pieces : List MissingPart → List Piece
  | [] => []
  | m :: ms => (Piece.single m).grow ms

variable {ms : List MissingPart} {m : MissingPart} {cur p q : Piece}

namespace Piece

theorem wellFormed_single (m : MissingPart) : (single m).WellFormed := by
  cases m with
  | sdu sn => exact ⟨Nat.one_pos, by decide⟩
  | segment sn so => exact Nat.le_refl so

theorem items_sdus (sn n : Nat) : (sdus sn n).items = (List.range' sn n).map .sdu := rfl

theorem items_segments (sn lo hi : Nat) :
    (segments sn lo hi).items = (List.range' lo (hi + 1 - lo)).map (.segment sn) := rfl

theorem items_single (m : MissingPart) : (single m).items = [m] := by
  cases m with
  | sdu sn => rfl
  | segment sn so =>
    have hlength : so + 1 - so = 1 := Nat.add_sub_cancel_left so 1
    rw [single, items_segments, hlength]
    rfl

theorem extend_some (h : cur.extend m = some p) (hcur : cur.WellFormed) :
    p.WellFormed ∧ p.items = cur.items ++ [m] := by
  cases cur with
  | sdus sn n =>
    cases m with
    | sdu sn' =>
      obtain ⟨⟨hn, rfl⟩, heq⟩ := Option.ite_none_right_eq_some.1 h
      obtain rfl := Option.some.inj heq
      refine ⟨⟨Nat.succ_pos n, hn⟩, ?_⟩
      rw [items_sdus, items_sdus, List.range'_1_concat, List.map_append]
      rfl
    | segment sn' so' => cases h
  | segments sn lo hi =>
    cases m with
    | sdu sn' => cases h
    | segment sn' so' =>
      obtain ⟨⟨rfl, rfl⟩, heq⟩ := Option.ite_none_right_eq_some.1 h
      obtain rfl := Option.some.inj heq
      have hcur : lo ≤ hi := hcur
      refine ⟨Nat.le_succ_of_le hcur, ?_⟩
      have hlength : hi + 1 + 1 - lo = (hi + 1 - lo) + 1 := by omega
      have hlast : lo + (hi + 1 - lo) = hi + 1 := by omega
      rw [items_segments, items_segments, hlength, List.range'_1_concat, List.map_append, hlast]
      rfl

theorem wellFormed_grow (hcur : cur.WellFormed) : ∀ p ∈ cur.grow ms, p.WellFormed := by
  induction ms generalizing cur with
  | nil =>
    intro p hp
    rw [List.mem_singleton.1 hp]
    exact hcur
  | cons m ms ih =>
    unfold grow
    split
    · next hext => exact ih (extend_some hext hcur).1
    · exact List.forall_mem_cons.2 ⟨hcur, ih (wellFormed_single m)⟩

theorem items_grow (hcur : cur.WellFormed) : (cur.grow ms).flatMap items = cur.items ++ ms := by
  induction ms generalizing cur with
  | nil => simp [grow]
  | cons m ms ih =>
    unfold grow
    split
    · next hext =>
      obtain ⟨hwf, hitems⟩ := extend_some hext hcur
      rw [ih hwf, hitems, List.append_assoc]
      rfl
    · rw [List.flatMap_cons, ih (wellFormed_single m), items_single]
      rfl

end Piece

theorem items_pieces (ms : List MissingPart) : (pieces ms).flatMap Piece.items = ms := by
  cases ms with
  | nil => rfl
  | cons m ms =>
    unfold pieces
    rw [Piece.items_grow (Piece.wellFormed_single m), Piece.items_single]
    rfl

theorem wellFormed_pieces : ∀ p ∈ pieces ms, p.WellFormed := by
  cases ms with
  | nil => exact nofun
  | cons m ms => exact Piece.wellFormed_grow (Piece.wellFormed_single m)

/-! ## The NACKs of the pieces -/

theorem u32_add_eq_iff {a k sn : Nat} (ha : a < sn) (hsn : sn < 2 ^ 32) (hk : k ≤ 2 ^ 8) :
    u32 (a + k) = sn ↔ a + k = sn := by
  unfold u32
  omega

namespace Piece

theorem updateNackTail_sdus {sn n sn' : Nat} (hpos : 0 < n) (hle : n ≤ 2 ^ 8) (hlt : sn < sn')
    (hsn : sn' < 2 ^ 32) :
    ReceivingEntity.updateNackTail (sdus sn n).nack .all sn' 0 =
      ((sdus sn n).extend (.sdu sn')).map nack := by
  have hnext (k : Nat) (hk : k ≤ 2 ^ 8) : u32 (sn + k) = sn' ↔ sn + k = sn' :=
    u32_add_eq_iff hlt hsn hk
  by_cases hone : n = 1
  · subst hone
    by_cases heq : sn + 1 = sn'
    · have hu32 : u32 sn' = sn' := u32_of_lt hsn
      simp [ReceivingEntity.updateNackTail, nack, extend, heq, hu32, u8]
    · simp [ReceivingEntity.updateNackTail, nack, extend, hnext, heq]
  · by_cases hfull : n = 2 ^ 8
    · subst hfull
      have hne : sn ≠ sn' := Nat.ne_of_lt hlt
      have hsn0 : u32 sn = sn := u32_of_lt (by omega)
      simp [ReceivingEntity.updateNackTail, nack, extend, u8, hsn0, hne]
    · have hn : n < 256 := by omega
      have hu8 : u8 n = n := Nat.mod_eq_of_lt hn
      by_cases heq : sn + n = sn'
      · have hu32 : u32 sn' = sn' := u32_of_lt hsn
        have hzero : n ≠ 0 := by omega
        simp [ReceivingEntity.updateNackTail, nack, extend, hone, heq, hu32, hu8, hn, hzero]
      · simp [ReceivingEntity.updateNackTail, nack, extend, hone, hnext n hle, heq, hu8]

theorem updateNackTail_segments (sn lo hi sn' so' : Nat) :
    ReceivingEntity.updateNackTail (segments sn lo hi).nack .middle sn' so' =
      ((segments sn lo hi).extend (.segment sn' so')).map nack := by
  by_cases hsn : sn = sn'
  · by_cases hso : hi + 1 = so'
    · simp [ReceivingEntity.updateNackTail, nack, extend, hsn, hso]
    · simp [ReceivingEntity.updateNackTail, nack, extend, hsn, hso]
  · simp [ReceivingEntity.updateNackTail, nack, extend, hsn]

theorem addNack_nack (hcur : cur.WellFormed) (hbefore : ∀ c ∈ cur.items, c.Before m)
    (hm : m.InRange) (rest : List Nack) :
    MissingPart.addNack (cur.nack :: rest) m =
      match cur.extend m with
      | some cur => cur.nack :: rest
      | none => (single m).nack :: cur.nack :: rest := by
  cases cur with
  | sdus sn n =>
    cases m with
    | segment sn' so' =>
      have hnone : ReceivingEntity.updateNackTail (sdus sn n).nack .middle sn' so' = none := by
        simp [ReceivingEntity.updateNackTail, nack]
      unfold MissingPart.addNack ReceivingEntity.addNack
      dsimp only
      rw [hnone]
      rfl
    | sdu sn' =>
      obtain ⟨hpos, hle⟩ := hcur
      have hlt : sn < sn' := hbefore (.sdu sn)
        (List.mem_map_of_mem (List.mem_range'_1.2 ⟨Nat.le_refl sn, by omega⟩))
      unfold MissingPart.addNack ReceivingEntity.addNack
      dsimp only
      rw [updateNackTail_sdus hpos hle hlt hm]
      cases (sdus sn n).extend (.sdu sn') <;> rfl
  | segments sn lo hi =>
    cases m with
    | sdu sn' => rfl
    | segment sn' so' =>
      unfold MissingPart.addNack ReceivingEntity.addNack
      dsimp only
      rw [updateNackTail_segments]
      cases (segments sn lo hi).extend (.segment sn' so') <;> rfl

theorem foldl_addNack (hcur : cur.WellFormed)
    (hsorted : (cur.items ++ ms).Pairwise MissingPart.Before)
    (hrange : ∀ m ∈ ms, m.InRange) (rest : List Nack) :
    ms.foldl MissingPart.addNack (cur.nack :: rest) = ((cur.grow ms).map nack).reverse ++ rest := by
  induction ms generalizing cur rest with
  | nil => rfl
  | cons m ms ih =>
    obtain ⟨hm, hms⟩ := List.forall_mem_cons.1 hrange
    have hbefore : ∀ c ∈ cur.items, c.Before m := fun c hc =>
      (List.pairwise_append.1 hsorted).2.2 c hc m List.mem_cons_self
    rw [List.foldl_cons, addNack_nack hcur hbefore hm]
    unfold grow
    cases hext : cur.extend m with
    | some cur' =>
      obtain ⟨hwf, hitems⟩ := extend_some hext hcur
      refine ih hwf ?_ hms rest
      rw [hitems, List.append_assoc]
      exact hsorted
    | none =>
      have hrest : ((single m).items ++ ms).Pairwise MissingPart.Before := by
        rw [items_single]
        exact (List.pairwise_append.1 hsorted).2.1
      rw [ih (wellFormed_single m) hrest hms (cur.nack :: rest), List.map_cons, List.reverse_cons,
        List.append_assoc]
      rfl

end Piece

theorem nacksOf_eq (h : Increasing ms) : nacksOf ms = (pieces ms).map Piece.nack := by
  cases ms with
  | nil => rfl
  | cons m ms =>
    obtain ⟨-, hms⟩ := List.forall_mem_cons.1 h.inRange
    have hfirst : MissingPart.addNack [] m = [(Piece.single m).nack] := by
      cases m <;> rfl
    unfold nacksOf pieces
    rw [List.foldl_cons, hfirst, Piece.foldl_addNack (Piece.wellFormed_single m)
      (by rw [Piece.items_single]; exact h.sorted) hms, List.append_nil, List.reverse_reverse]

/-! ## What the NACK of a piece names -/

open TransmittingEntity (Names)

namespace Piece

def Named (p : Piece) (b : RlcBuffer) : Prop := ∃ m ∈ p.items, m.Names b

variable {b : RlcBuffer}

theorem named_sdus {sn n : Nat} : (sdus sn n).Named b ↔ sn ≤ b.SN ∧ b.SN < sn + n := by
  constructor
  · rintro ⟨m, hm, hname⟩
    obtain ⟨i, hi, rfl⟩ := List.mem_map.1 hm
    rw [hname]
    exact List.mem_range'_1.1 hi
  · intro h
    exact ⟨.sdu b.SN, List.mem_map_of_mem (List.mem_range'_1.2 h), rfl⟩

theorem named_segments {sn lo hi : Nat} :
    (segments sn lo hi).Named b ↔ b.SN = sn ∧ lo ≤ b.SO ∧ b.SO ≤ hi := by
  constructor
  · rintro ⟨m, hm, hname⟩
    obtain ⟨i, hi, rfl⟩ := List.mem_map.1 hm
    obtain ⟨hsn, rfl⟩ : b.SN = sn ∧ b.SO = i := hname
    have := List.mem_range'_1.1 hi
    exact ⟨hsn, by omega, by omega⟩
  · rintro ⟨rfl, hlo, hhi⟩
    exact ⟨.segment b.SN b.SO, List.mem_map_of_mem (List.mem_range'_1.2 (by omega)), rfl, rfl⟩

theorem names_single {sn : Nat} : Names (sdus sn 1).nack b ↔ b.SN = sn := Iff.rfl

theorem names_full {sn : Nat} (hsn : sn < 2 ^ 32) : Names (sdus sn (2 ^ 8)).nack b ↔ b.SN = sn := by
  change sn ≤ b.SN ∧ b.SN ≤ u32 sn ↔ b.SN = sn
  rw [u32_of_lt hsn]
  omega

theorem names_range {sn n : Nat} (hone : n ≠ 1) (hn : n < 2 ^ 8) :
    Names (sdus sn n).nack b ↔ sn ≤ b.SN ∧ b.SN ≤ u32 (sn + n) := by
  have hu8 : u8 n = n := Nat.mod_eq_of_lt hn
  simp [Names, nack, hone, hu8]

theorem names_segments {sn lo hi : Nat} :
    Names (segments sn lo hi).nack b ↔ (segments sn lo hi).Named b :=
  named_segments.symm

/-- The loop for a range ends and names, besides the range, only an SDU all of whose PDUs are
missing; where the range ends with the last SN, or has 256 SDUs, the PDUs that it should name are
not there. -/
def Decodes (ms : List MissingPart) (l : List RlcBuffer) : Piece → Prop
  | .sdus sn n =>
    if n = 1 then True
    else if n = 2 ^ 8 then ∀ b ∈ l, ¬ (sn < b.SN ∧ b.SN < sn + n)
    else if sn + n = 2 ^ 32 then ∀ b ∈ l, ¬ (sn ≤ b.SN ∧ b.SN < sn + n)
    else sn + n + 1 < 2 ^ 32 ∧ ∀ b ∈ l, b.SN = sn + n → NamedBy ms b
  | .segments _ _ hi => hi + 1 < 2 ^ 16

instance (ms : List MissingPart) (l : List RlcBuffer) (p : Piece) : Decidable (p.Decodes ms l) := by
  cases p <;> unfold Decodes <;> infer_instance

end Piece

theorem namedBy_iff {b : RlcBuffer} : NamedBy ms b ↔ ∃ p ∈ pieces ms, p.Named b := by
  conv_lhs => rw [← items_pieces ms]
  constructor
  · rintro ⟨m, hm, hname⟩
    obtain ⟨p, hp, hm⟩ := List.mem_flatMap.1 hm
    exact ⟨p, hp, m, hm, hname⟩
  · rintro ⟨p, hp, m, hm, hname⟩
    exact ⟨m, List.mem_flatMap.2 ⟨p, hp, hm⟩, hname⟩

theorem mem_of_mem_pieces (hp : p ∈ pieces ms) (hm : m ∈ p.items) : m ∈ ms := by
  rw [← items_pieces ms]
  exact List.mem_flatMap.2 ⟨p, hp, hm⟩

theorem sdus_le (h : Increasing ms) {sn n : Nat} (hp : .sdus sn n ∈ pieces ms) :
    sn + n ≤ 2 ^ 32 := by
  obtain ⟨hpos, -⟩ := wellFormed_pieces _ hp
  have hmem : MissingPart.sdu (sn + n - 1) ∈ (Piece.sdus sn n).items :=
    List.mem_map_of_mem (List.mem_range'_1.2 (by omega))
  have hlt : sn + n - 1 < 2 ^ 32 := h.inRange _ (mem_of_mem_pieces hp hmem)
  omega

theorem decodes_iff (h : Increasing ms) (hp : p ∈ pieces ms) {l : List RlcBuffer} :
    p.Decodes ms l ↔ p.nack.Ends ∧
      ∀ b ∈ l, (Names p.nack b → NamedBy ms b) ∧ (p.Named b → Names p.nack b) := by
  have hown {b : RlcBuffer} (hb : p.Named b) : NamedBy ms b := namedBy_iff.2 ⟨p, hp, hb⟩
  cases p with
  | segments sn lo hi =>
    refine (and_iff_left fun b _ => ⟨fun hb => ?_, Piece.names_segments.2⟩).symm
    exact hown (Piece.names_segments.1 hb)
  | sdus sn n =>
    have hle := sdus_le h hp
    obtain ⟨hpos, hlen⟩ := wellFormed_pieces _ hp
    rw [Piece.Decodes]
    by_cases hone : n = 1
    · subst hone
      refine iff_of_true trivial ⟨trivial, fun b _ => ⟨fun hb => ?_, fun hb => ?_⟩⟩
      · have := Piece.names_single.1 hb
        exact hown (Piece.named_sdus.2 (by omega))
      · have := Piece.named_sdus.1 hb
        exact Piece.names_single.2 (by omega)
    · rw [if_neg hone]
      by_cases hfull : n = 2 ^ 8
      · subst hfull
        have hends : (Piece.sdus sn (2 ^ 8)).nack.Ends := by
          change u32 sn + 1 < 2 ^ 32
          rw [u32_of_lt (by omega)]
          omega
        rw [if_pos rfl, and_iff_right hends]
        refine forall₂_congr fun b _ => ?_
        rw [Piece.names_full (by omega), Piece.named_sdus]
        constructor
        · intro hb
          exact ⟨fun heq => hown (Piece.named_sdus.2 (by omega)), by omega⟩
        · rintro ⟨-, hb⟩ hlost
          omega
      · have hlt : n < 2 ^ 8 := by omega
        have hends : (Piece.sdus sn n).nack.Ends ↔ u32 (sn + n) + 1 < 2 ^ 32 := by
          have hu8 : u8 n = n := Nat.mod_eq_of_lt hlt
          simp [Nack.Ends, Piece.nack, hone, hu8]
        rw [if_neg hfull, hends]
        by_cases hwrap : sn + n = 2 ^ 32
        · rw [if_pos hwrap, hwrap, and_iff_right (by decide)]
          refine forall₂_congr fun b _ => ?_
          rw [Piece.names_range hone hlt, Piece.named_sdus, hwrap]
          have hu32 : u32 (2 ^ 32) = 0 := by decide
          constructor
          · intro hb
            exact ⟨fun hname => by omega, fun hname => absurd hname hb⟩
          · rintro ⟨-, hb⟩ hname
            omega
        · rw [if_neg hwrap, u32_of_lt (by omega)]
          refine and_congr_right fun _ => forall₂_congr fun b _ => ?_
          rw [Piece.names_range hone hlt, Piece.named_sdus, u32_of_lt (by omega)]
          constructor
          · intro hb
            refine ⟨fun hname => ?_, by omega⟩
            by_cases hlast : b.SN = sn + n
            · exact hb hlast
            · exact hown (Piece.named_sdus.2 (by omega))
          · rintro ⟨hb, -⟩ hlast
            exact hb (by omega)

/-! ## No piece names what another one should -/

theorem MissingPart.sn_lt_of_before {sn : Nat} (h : m.Before (.sdu sn)) : m.sn < sn := by
  cases m <;> exact h

theorem MissingPart.lt_sn_of_before {sn : Nat} (h : (MissingPart.sdu sn).Before m) : sn < m.sn := by
  cases m <;> exact h

theorem MissingPart.not_before_self (m : MissingPart) : ¬ m.Before m := by
  cases m with
  | sdu sn => exact Nat.lt_irrefl sn
  | segment sn so =>
    rintro (h | ⟨-, h⟩)
    · exact Nat.lt_irrefl _ h
    · exact Nat.lt_irrefl _ h

theorem Increasing.nodup (h : Increasing ms) : ms.Nodup := by
  refine h.sorted.imp ?_
  rintro a b hbefore rfl
  exact a.not_before_self hbefore

theorem Increasing.not_segment (h : Increasing ms) {sn so : Nat} (hsdu : .sdu sn ∈ ms) :
    .segment sn so ∉ ms := by
  intro hsegment
  have hne : MissingPart.sdu sn ≠ .segment sn so := nofun
  have hordered : ms.Pairwise fun a b => a.Before b ∨ b.Before a := h.sorted.imp Or.inl
  have : Std.Symm fun a b : MissingPart => a.Before b ∨ b.Before a := ⟨fun _ _ => Or.symm⟩
  rcases hordered.forall hsdu hsegment hne with hbefore | hbefore
  · exact Nat.lt_irrefl _ hbefore
  · exact Nat.lt_irrefl _ hbefore

theorem eq_of_common (h : Increasing ms) (hp : p ∈ pieces ms) (hq : q ∈ pieces ms)
    (hm : m ∈ p.items) (hm' : m ∈ q.items) : p = q := by
  by_contra hne
  have hnodup := h.nodup
  rw [← items_pieces ms] at hnodup
  have hdisjoint := (List.nodup_flatMap.1 hnodup).2
  have : Std.Symm (Function.onFun List.Disjoint Piece.items) :=
    ⟨fun _ _ hd => List.disjoint_symm hd⟩
  exact hdisjoint.forall hp hq hne hm hm'

theorem Piece.not_mem_of_grow (hcur : cur.WellFormed)
    (hsorted : (cur.items ++ ms).Pairwise MissingPart.Before) {sn n : Nat}
    (hp : .sdus sn n ∈ cur.grow ms) (hn : n < 2 ^ 8) : .sdu (sn + n) ∉ cur.items ++ ms := by
  induction ms generalizing cur with
  | nil =>
    rw [← List.mem_singleton.1 hp, List.append_nil, items_sdus]
    intro hmem
    obtain ⟨i, hi, heq⟩ := List.mem_map.1 hmem
    have := List.mem_range'_1.1 hi
    have : i = sn + n := MissingPart.sdu.inj heq
    omega
  | cons m ms ih =>
    unfold grow at hp
    cases hext : cur.extend m with
    | some cur' =>
      rw [hext] at hp
      obtain ⟨hwf, hitems⟩ := extend_some hext hcur
      have hlist : cur'.items ++ ms = cur.items ++ m :: ms := by
        rw [hitems, List.append_assoc]
        rfl
      rw [← hlist] at hsorted ⊢
      exact ih hwf hsorted hp
    | none =>
      rw [hext] at hp
      obtain ⟨-, htail, hcross⟩ := List.pairwise_append.1 hsorted
      rcases List.mem_cons.1 hp with rfl | hp
      · have hlast : MissingPart.sdu (sn + n - 1) ∈ (sdus sn n).items :=
          List.mem_map_of_mem (List.mem_range'_1.2 (by have := hcur.1; omega))
        have hlt := MissingPart.lt_sn_of_before (hcross _ hlast m List.mem_cons_self)
        intro hmem
        rcases List.mem_append.1 hmem with hmem | hmem
        · obtain ⟨i, hi, heq⟩ := List.mem_map.1 hmem
          have := List.mem_range'_1.1 hi
          have : i = sn + n := MissingPart.sdu.inj heq
          omega
        · rcases List.mem_cons.1 hmem with rfl | hmem
          · rw [extend, if_pos ⟨hn, rfl⟩] at hext
            cases hext
          · have := MissingPart.sn_lt_of_before ((List.pairwise_cons.1 htail).1 _ hmem)
            omega
      · have hsingle : ((single m).items ++ ms).Pairwise MissingPart.Before := by
          rw [items_single]
          exact htail
        have hrest := ih (wellFormed_single m) hsingle hp
        have hitems : ((single m).grow ms).flatMap items = m :: ms := by
          rw [items_grow (wellFormed_single m), items_single]
          rfl
        rw [items_single] at hrest
        intro hmem
        rcases List.mem_append.1 hmem with hmem | hmem
        · have hwf := wellFormed_grow (wellFormed_single m) _ hp
          have hpos : 0 < n := hwf.1
          have hlast : MissingPart.sdu (sn + n - 1) ∈ m :: ms := by
            rw [← hitems]
            exact List.mem_flatMap.2 ⟨_, hp, List.mem_map_of_mem (List.mem_range'_1.2 (by omega))⟩
          have : sn + n < sn + n - 1 := MissingPart.lt_sn_of_before (hcross _ hmem _ hlast)
          omega
        · exact hrest hmem

theorem not_mem_of_piece (h : Increasing ms) {sn n : Nat} (hp : .sdus sn n ∈ pieces ms)
    (hn : n < 2 ^ 8) : .sdu (sn + n) ∉ ms := by
  cases ms with
  | nil => cases hp
  | cons m ms =>
    have := Piece.not_mem_of_grow (Piece.wellFormed_single m)
      (by rw [Piece.items_single]; exact h.sorted) hp hn
    rw [Piece.items_single] at this
    exact this

theorem names_of_named (h : Increasing ms) (hp : p ∈ pieces ms) (hq : q ∈ pieces ms)
    {b : RlcBuffer} (hb : p.Named b) (hname : Names q.nack b) : Names p.nack b := by
  cases p with
  | segments sn lo hi => exact Piece.names_segments.2 hb
  | sdus sn n =>
    have hmem : MissingPart.sdu b.SN ∈ (Piece.sdus sn n).items :=
      List.mem_map_of_mem (List.mem_range'_1.2 (Piece.named_sdus.1 hb))
    have hmissing := mem_of_mem_pieces hp hmem
    suffices heq : Piece.sdus sn n = q by rwa [heq]
    cases q with
    | segments sn' lo hi =>
      obtain ⟨m, hm, hmb⟩ := Piece.names_segments.1 hname
      obtain ⟨i, -, rfl⟩ := List.mem_map.1 hm
      obtain ⟨hsn, -⟩ : b.SN = sn' ∧ b.SO = i := hmb
      rw [hsn] at hmissing
      exact absurd (mem_of_mem_pieces hq hm) (h.not_segment hmissing)
    | sdus sn' n' =>
      suffices hnamed : (Piece.sdus sn' n').Named b from
        eq_of_common h hp hq hmem
          (List.mem_map_of_mem (List.mem_range'_1.2 (Piece.named_sdus.1 hnamed)))
      have hle := sdus_le h hq
      obtain ⟨hpos, hlen⟩ := wellFormed_pieces _ hq
      rw [Piece.named_sdus]
      by_cases hone : n' = 1
      · subst hone
        have := Piece.names_single.1 hname
        omega
      · by_cases hfull : n' = 2 ^ 8
        · subst hfull
          have := (Piece.names_full (by omega)).1 hname
          omega
        · have hlt : n' < 2 ^ 8 := by omega
          obtain ⟨hlo, hhi⟩ := (Piece.names_range hone hlt).1 hname
          have hnext : b.SN ≠ sn' + n' := by
            intro heq
            rw [heq] at hmissing
            exact not_mem_of_piece h hq hlt hmissing
          unfold u32 at hhi
          omega

/-! ## The round trip -/

namespace TransmittingEntity

variable {s : TransmittingEntity}

/-- The loop over the NACKs for `ms` ends, and the PDUs that it moves or drops are those of the
transmitted buffer that carry something missing. -/
def RoundTrip (s : TransmittingEntity) (ackSn : Nat) (ms : List MissingPart) : Prop :=
  ∃ t s' moved, (nacksOf ms).foldlM handleNack s = some t ∧
    s.receiveStatusPdu ⟨ackSn, nacksOf ms⟩ = some s' ∧
    s'.retransmissionBuffer = t.retransmissionBuffer ∧ Moved s t moved ∧
    ∀ sn so, (∃ c ∈ moved, c.SN = sn ∧ c.SO = so) ↔
      ∃ b ∈ s.transmittedBuffer, (b.SN = sn ∧ b.SO = so) ∧ NamedBy ms b

theorem receiveStatusPdu_of_nacks {t : TransmittingEntity} {pdu : StatusPdu}
    (h : pdu.nacks.foldlM handleNack s = some t) : ∃ s', s.receiveStatusPdu pdu = some s' ∧
      s'.retransmissionBuffer = t.retransmissionBuffer := by
  unfold receiveStatusPdu
  rw [h]
  refine ⟨_, rfl, ?_⟩
  dsimp only
  split <;> rfl

theorem namedBy_congr {b c : RlcBuffer} (hsn : c.SN = b.SN) (hso : c.SO = b.SO) :
    NamedBy ms c ↔ NamedBy ms b := by
  refine exists_congr fun m => and_congr_right fun _ => ?_
  cases m with
  | sdu sn => rw [MissingPart.Names, MissingPart.Names, hsn]
  | segment sn so => rw [MissingPart.Names, MissingPart.Names, hsn, hso]

theorem names_congr {n : Nack} {b c : RlcBuffer} (hsn : c.SN = b.SN) (hso : c.SO = b.SO) :
    Names n c ↔ Names n b := by
  unfold Names
  rw [hsn, hso]

theorem roundTrip_iff_names {ackSn : Nat} : s.RoundTrip ackSn ms ↔
    (∀ n ∈ nacksOf ms, n.Ends) ∧
      ∀ b ∈ s.transmittedBuffer, (∃ n ∈ nacksOf ms, Names n b) ↔ NamedBy ms b := by
  constructor
  · rintro ⟨t, s', moved, ht, -, -, hmoved, hpairs⟩
    have hends := ends_of_handleNacks ht
    obtain ⟨t', ht', moved', hmoved', hnamed, hall⟩ := handleNacks_of_ends hends s
    obtain rfl : t = t' := Option.some.inj (ht.symm.trans ht')
    have hsame : moved.Perm moved' := (List.perm_append_right_iff t.transmittedBuffer).1
      (hmoved.transmittedBuffer.symm.trans hmoved'.transmittedBuffer)
    refine ⟨hends, fun b hb => ⟨fun hname => ?_, fun hname => ?_⟩⟩
    · obtain ⟨c, hc, hsn, hso⟩ := hall b hb hname
      obtain ⟨b', -, ⟨hsn', hso'⟩, hname'⟩ := (hpairs b.SN b.SO).1 ⟨c, hsame.mem_iff.2 hc, hsn, hso⟩
      exact (namedBy_congr hsn' hso').1 hname'
    · obtain ⟨c, hc, hsn, hso⟩ := (hpairs b.SN b.SO).2 ⟨b, hb, ⟨rfl, rfl⟩, hname⟩
      obtain ⟨n, hn, hname'⟩ := hnamed c (hsame.mem_iff.1 hc)
      exact ⟨n, hn, (names_congr hsn hso).1 hname'⟩
  · rintro ⟨hends, hiff⟩
    obtain ⟨t, ht, moved, hmoved, hnamed, hall⟩ := handleNacks_of_ends hends s
    have ht' : (StatusPdu.mk ackSn (nacksOf ms)).nacks.foldlM handleNack s = some t := ht
    obtain ⟨s', hs', hretx⟩ := receiveStatusPdu_of_nacks ht'
    refine ⟨t, s', moved, ht, hs', hretx, hmoved, fun sn so => ⟨?_, ?_⟩⟩
    · rintro ⟨c, hc, hsn, hso⟩
      have hb : c ∈ s.transmittedBuffer :=
        hmoved.transmittedBuffer.mem_iff.2 (List.mem_append_left _ hc)
      exact ⟨c, hb, ⟨hsn, hso⟩, (hiff c hb).1 (hnamed c hc)⟩
    · rintro ⟨b, hb, ⟨rfl, rfl⟩, hname⟩
      exact hall b hb ((hiff b hb).2 hname)

/-- The round trip is exact if and only if every piece is decoded rightly. -/
theorem roundTrip_iff_decodes (h : Increasing ms) (s : TransmittingEntity) (ackSn : Nat) :
    s.RoundTrip ackSn ms ↔ ∀ p ∈ pieces ms, p.Decodes ms s.transmittedBuffer := by
  have hexists (b : RlcBuffer) : (∃ n ∈ (pieces ms).map Piece.nack, Names n b) ↔
      ∃ p ∈ pieces ms, Names p.nack b := by
    simp
  rw [roundTrip_iff_names, nacksOf_eq h, List.forall_mem_map]
  simp only [hexists]
  constructor
  · rintro ⟨hends, hiff⟩ p hp
    refine (decodes_iff h hp).2 ⟨hends p hp, fun b hb => ⟨fun hname => ?_, fun hnamed => ?_⟩⟩
    · exact (hiff b hb).1 ⟨p, hp, hname⟩
    · obtain ⟨q, hq, hname⟩ := (hiff b hb).2 (namedBy_iff.2 ⟨p, hp, hnamed⟩)
      exact names_of_named h hp hq hnamed hname
  · intro hdecodes
    refine ⟨fun p hp => ((decodes_iff h hp).1 (hdecodes p hp)).1, fun b hb => ⟨?_, ?_⟩⟩
    · rintro ⟨p, hp, hname⟩
      exact (((decodes_iff h hp).1 (hdecodes p hp)).2 b hb).1 hname
    · intro hnamed
      obtain ⟨p, hp, hnamed⟩ := namedBy_iff.1 hnamed
      exact ⟨p, hp, (((decodes_iff h hp).1 (hdecodes p hp)).2 b hb).2 hnamed⟩

/-- An entity that has sent `n` SDUs of 10 bytes. -/
def sentSdus (n : Nat) : TransmittingEntity :=
  ((List.range n).foldl (fun s i => s.handlePDUFromUpperLayer .dtch i 10)
    (establish 4 4 100)).sendPdu (10 * n) .dtch

/-- The last two of three SDUs are missing. -/
theorem roundTrip_lastTwo : (sentSdus 3).RoundTrip 3 [.sdu 1, .sdu 2] :=
  (roundTrip_iff_decodes ⟨by decide, by decide⟩ (sentSdus 3) 3).2 (by decide)

/-- The second and the third of four SDUs are missing: the fourth one is sent again as well. -/
theorem not_nackRoundTrip : ¬ ∀ (s : TransmittingEntity) (ackSn : Nat) (ms : List MissingPart),
    Increasing ms → s.RoundTrip ackSn ms := by
  intro h
  have htrip := h (sentSdus 4) 4 [.sdu 1, .sdu 2] ⟨by decide, by decide⟩
  have hiff := (roundTrip_iff_names.1 htrip).2 ⟨.all, 3, 0, 0, .dtch, 3, 10, false⟩ (by decide)
  have hnack : ⟨1, false, true, 0, 0, 2⟩ ∈ nacksOf [.sdu 1, .sdu 2] := by decide
  have hnames : Names ⟨1, false, true, 0, 0, 2⟩ ⟨.all, 3, 0, 0, .dtch, 3, 10, false⟩ :=
    ⟨by decide, by decide⟩
  exact absurd (hiff.1 ⟨_, hnack, hnames⟩) (by decide)

end TransmittingEntity

/-! ## The report of a receiver -/

open TransmittingEntity (Names)

variable {r : ReceivingEntity} {sn n : Nat} {b : RlcBuffer}

theorem ReceivingEntity.mem_missing (h : m ∈ r.missing) :
    (r.RX_Next ≤ m.sn ∧ m.sn < r.RX_Next_Highest) ∧ m ∈ r.missingOf m.sn := by
  obtain ⟨sn, hsn, hm⟩ := List.mem_flatMap.1 h
  obtain rfl := sn_of_mem_missingOf hm
  have := List.mem_range'_1.1 hsn
  exact ⟨by omega, hm⟩

theorem Piece.names_sdus (hn : n < 2 ^ 8) (hsn : sn + n < 2 ^ 32) :
    Names (sdus sn n).nack b ↔ (sdus sn n).Named b ∨ n ≠ 1 ∧ b.SN = sn + n := by
  rw [named_sdus]
  by_cases hone : n = 1
  · subst hone
    rw [names_single]
    omega
  · rw [names_range hone hn, u32_of_lt hsn]
    omega

end NetSim.Rlc
