import NetSim.Rlc.Delivery

/-!
# Status PDUs (`LTENR_RLC_AM.c`)

The NACKs of a status PDU cover an SDU of which nothing has been recorded, and the missing segments
of an SDU up to its last one, if that has arrived.
-/

namespace NetSim.Rlc

open NetSim.Lib NetSim.Tcp

def Reported (nacks : List Nack) (sn so : Nat) : Prop := ∃ n ∈ nacks, n.Reports sn so

/-- A status PDU reports every segment below `Ack_SN` that has not been received. -/
def Report.Honest (sdus : Nat → Sdu) (r : Report) : Prop :=
  ∀ sn < r.pdu.Ack_SN, ∀ so < (sdus sn).segments.length,
    sn ∈ r.delivered ∨ (∃ p ∈ r.held, p.SN = sn ∧ p.SO = so) ∨ Reported r.pdu.nacks sn so

/-! ## The NACKs -/

/-- The NACK that is being extended: its range has not wrapped, and nothing has been recorded of its
SDUs. -/
structure Nack.Open (missing : Nat → Prop) (n : Nack) : Prop where
  single : n.E3 = false → n.E2 = false → missing n.NAck_SN
  range : n.E3 = true → n.E2 = false ∧ 0 < n.NAckRange ∧ n.NAckRange < 2 ^ 8 ∧
    ∀ i < n.NAckRange, missing (n.NAck_SN + i)
  offsets : n.E2 = true → n.soStart ≤ n.soEnd

def OpenTail (missing : Nat → Prop) (nacks : List Nack) : Prop :=
  ∀ tail ∈ nacks.head?, tail.Open missing

structure Extends (missing : Nat → Prop) (nacks nacks' : List Nack) : Prop where
  tail : OpenTail missing nacks'
  reported : ∀ sn so, Reported nacks sn so → Reported nacks' sn so

section Nacks

open ReceivingEntity

variable {missing : Nat → Prop} {nacks : List Nack} {sn so : Nat}

theorem Extends.refl (h : OpenTail missing nacks) : Extends missing nacks nacks :=
  ⟨h, fun _ _ => id⟩

theorem Extends.trans {nacks' nacks'' : List Nack} (h : Extends missing nacks nacks')
    (h' : Extends missing nacks' nacks'') : Extends missing nacks nacks'' :=
  ⟨h'.tail, fun sn so hr => h'.reported sn so (h.reported sn so hr)⟩

theorem extends_cons {n : Nack} (hn : n.Open missing) : Extends missing nacks (n :: nacks) := by
  refine ⟨?_, ?_⟩
  · rintro tail htail
    obtain rfl := Option.some.inj htail
    exact hn
  · rintro sn so ⟨n', hn', hr⟩
    exact ⟨n', List.mem_cons_of_mem _ hn', hr⟩

variable {rest : List Nack}

theorem extends_tail {tail tail' : Nack} (hn : tail'.Open missing)
    (hmore : ∀ sn so, tail.Reports sn so → tail'.Reports sn so) :
    Extends missing (tail :: rest) (tail' :: rest) := by
  refine ⟨?_, ?_⟩
  · rintro t ht
    obtain rfl := Option.some.inj ht
    exact hn
  · rintro sn so ⟨n', hn', hr⟩
    rcases List.mem_cons.1 hn' with rfl | hn'
    · exact ⟨tail', List.mem_cons_self, hmore sn so hr⟩
    · exact ⟨n', List.mem_cons_of_mem _ hn', hr⟩

theorem reported_cons {n : Nack} (h : n.Reports sn so) :
    Reported (n :: rest) sn so := ⟨n, List.mem_cons_self, h⟩

theorem extends_newNack_all (hm : missing sn) :
    Extends missing nacks (newNack .all sn 0 :: nacks) ∧
      ∀ so, Reported (newNack .all sn 0 :: nacks) sn so :=
  ⟨extends_cons ⟨fun _ _ => hm, nofun, nofun⟩, fun _ => reported_cons rfl⟩

theorem extends_range {tail : Nack} (htail : tail.Open missing)
    (hE3 : tail.E3 = true) (hnext : tail.NAck_SN + tail.NAckRange = sn) (hm : missing sn)
    (hruns : ¬ ∃ a, ∀ i < 2 ^ 8, missing (a + i)) :
    Extends missing (tail :: rest) ({ tail with NAckRange := u8 (tail.NAckRange + 1) } :: rest) ∧
      ∀ so, Reported ({ tail with NAckRange := u8 (tail.NAckRange + 1) } :: rest) sn so := by
  obtain ⟨hE2, hpos, hrange, hmissing⟩ := htail.range hE3
  have hall : ∀ i < tail.NAckRange + 1, missing (tail.NAck_SN + i) := by
    intro i hi
    rcases Nat.lt_or_ge i tail.NAckRange with hlt | hge
    · exact hmissing i hlt
    · obtain rfl : i = tail.NAckRange := by omega
      rw [hnext]
      exact hm
  have hlt : tail.NAckRange + 1 < 2 ^ 8 := by
    by_contra hge
    exact hruns ⟨tail.NAck_SN, fun i hi => hall i (by omega)⟩
  have hu8 : u8 (tail.NAckRange + 1) = tail.NAckRange + 1 := Nat.mod_eq_of_lt hlt
  rw [hu8]
  refine ⟨extends_tail ⟨?_, ?_, ?_⟩ ?_, ?_⟩
  · intro hE3'
    rw [hE3] at hE3'
    cases hE3'
  · exact fun _ => ⟨hE2, Nat.succ_pos _, hlt, hall⟩
  · intro hE2'
    rw [hE2] at hE2'
    cases hE2'
  · intro sn' so' hr
    unfold Nack.Reports at hr ⊢
    rw [if_pos hE3] at hr ⊢
    dsimp only
    omega
  · intro so
    apply reported_cons
    unfold Nack.Reports
    rw [if_pos hE3]
    dsimp only
    omega

theorem extends_pair {tail : Nack} (htail : tail.Open missing)
    (hE3 : tail.E3 = false) (hE2 : tail.E2 = false) (hnext : tail.NAck_SN + 1 = sn)
    (hm : missing sn) :
    Extends missing (tail :: rest) ({ tail with E3 := true, NAckRange := 2 } :: rest) ∧
      ∀ so, Reported ({ tail with E3 := true, NAckRange := 2 } :: rest) sn so := by
  have hfirst := htail.single hE3 hE2
  have hrange : 2 < 2 ^ 8 := by decide
  refine ⟨extends_tail ⟨nofun, ?_, ?_⟩ ?_, ?_⟩
  · refine fun _ => ⟨hE2, Nat.zero_lt_two, hrange, fun i hi => ?_⟩
    have hi : i < 2 := hi
    rcases Nat.lt_or_ge i 1 with hlt | hge
    · obtain rfl : i = 0 := by omega
      exact hfirst
    · obtain rfl : i = 1 := by omega
      rw [hnext]
      exact hm
  · intro hE2'
    rw [hE2] at hE2'
    cases hE2'
  · intro sn' so' hr
    unfold Nack.Reports at hr ⊢
    rw [if_neg (by simp [hE3]), if_neg (by simp [hE2])] at hr
    rw [if_pos rfl]
    dsimp only
    omega
  · intro so
    apply reported_cons
    unfold Nack.Reports
    rw [if_pos rfl]
    dsimp only
    omega

theorem extends_addNack_all (h : OpenTail missing nacks) (hm : missing sn)
    (hlt : ∀ i, missing i → i + 1 < 2 ^ 32) (hruns : ¬ ∃ a, ∀ i < 2 ^ 8, missing (a + i)) :
    Extends missing nacks (addNack nacks .all sn 0) ∧
      ∀ so, Reported (addNack nacks .all sn 0) sn so := by
  cases nacks with
  | nil => exact extends_newNack_all hm
  | cons tail rest =>
    have htail : tail.Open missing := h tail rfl
    unfold addNack updateNackTail
    simp only [if_true]
    by_cases hE3 : tail.E3 = true
    · obtain ⟨-, hpos, -, hmissing⟩ := htail.range hE3
      have hlt := hlt _ (hmissing (tail.NAckRange - 1) (by omega))
      rw [if_pos hE3, u32_of_lt (by omega)]
      by_cases hnext : tail.NAck_SN + tail.NAckRange = sn
      · rw [if_pos hnext]
        exact extends_range htail hE3 hnext hm hruns
      · rw [if_neg hnext]
        exact extends_newNack_all hm
    · rw [Bool.not_eq_true] at hE3
      rw [if_neg (by simp [hE3])]
      by_cases hE2 : tail.E2 = false
      · rw [if_pos (by simp [hE2]), u32_of_lt (hlt _ (htail.single hE3 hE2))]
        by_cases hnext : tail.NAck_SN + 1 = sn
        · rw [if_pos hnext]
          exact extends_pair htail hE3 hE2 hnext hm
        · rw [if_neg hnext]
          exact extends_newNack_all hm
      · rw [if_neg (by simpa using hE2)]
        exact extends_newNack_all hm

theorem extends_newNack_middle :
    Extends missing nacks (newNack .middle sn so :: nacks) ∧
      Reported (newNack .middle sn so :: nacks) sn so :=
  ⟨extends_cons ⟨nofun, nofun, fun _ => Nat.le_refl _⟩,
    reported_cons ⟨rfl, Nat.le_refl _, Nat.le_refl _⟩⟩

theorem extends_addNack_middle (h : OpenTail missing nacks) :
    Extends missing nacks (addNack nacks .middle sn so) ∧
      Reported (addNack nacks .middle sn so) sn so := by
  cases nacks with
  | nil => exact extends_newNack_middle
  | cons tail rest =>
    have htail : tail.Open missing := h tail rfl
    unfold addNack updateNackTail
    simp only [reduceCtorEq, if_false, Bool.and_eq_true, decide_eq_true_eq]
    by_cases hsame : tail.NAck_SN = sn ∧ tail.E2 = true
    · rw [if_pos hsame]
      obtain ⟨hsn, hE2⟩ := hsame
      have hle := htail.offsets hE2
      have hE3 : tail.E3 = false := by
        by_contra hE3
        have := (htail.range (by simpa using hE3)).1
        rw [hE2] at this
        cases this
      by_cases hnext : tail.soEnd + 1 = so
      · rw [if_pos hnext]
        refine ⟨extends_tail ⟨?_, ?_, ?_⟩ ?_, reported_cons ?_⟩
        · intro _ hE2'
          rw [hE2] at hE2'
          cases hE2'
        · intro hE3'
          rw [hE3] at hE3'
          cases hE3'
        · intro _
          dsimp only
          omega
        · intro sn' so' hr
          unfold Nack.Reports at hr ⊢
          rw [if_neg (by simp [hE3]), if_pos hE2] at hr ⊢
          dsimp only
          omega
        · unfold Nack.Reports
          rw [if_neg (by simp [hE3]), if_pos hE2]
          dsimp only
          omega
      · rw [if_neg hnext]
        exact extends_newNack_middle
    · rw [if_neg hsame]
      exact extends_newNack_middle

theorem extends_foldl {α : Type} {f : List Nack → α → List Nack} {G : α → Nat → Nat → Prop}
    {l : List α} (hstep : ∀ nacks, ∀ a ∈ l, OpenTail missing nacks →
      Extends missing nacks (f nacks a) ∧ ∀ sn so, G a sn so → Reported (f nacks a) sn so) :
    ∀ nacks, OpenTail missing nacks → Extends missing nacks (l.foldl f nacks) ∧
      ∀ a ∈ l, ∀ sn so, G a sn so → Reported (l.foldl f nacks) sn so := by
  induction l with
  | nil => exact fun nacks h => ⟨.refl h, nofun⟩
  | cons a l ih =>
    intro nacks h
    obtain ⟨hextends, hreported⟩ := hstep nacks a List.mem_cons_self h
    obtain ⟨hrest, hreported'⟩ := ih (fun nacks b hb => hstep nacks b (List.mem_cons_of_mem _ hb))
      (f nacks a) hextends.tail
    refine ⟨hextends.trans hrest, ?_⟩
    intro b hb sn so hG
    rcases List.mem_cons.1 hb with rfl | hb
    · exact hrest.reported sn so (hreported sn so hG)
    · exact hreported' b hb sn so hG

end Nacks

namespace ReceivingEntity

variable {s : ReceivingEntity} {sn so : Nat} {nacks : List Nack}

/-! ## The records -/

theorem foldl_highest (l : List AmStatus) : ∀ ret, ∃ st, (st = ret ∨ st ∈ l) ∧
    l.foldl higherOffset (some ret) = some st := by
  induction l with
  | nil => exact fun ret => ⟨ret, .inl rfl, rfl⟩
  | cons a l ih =>
    intro ret
    have hround : higherOffset (some ret) a = if ret.SO < a.SO then some a else some ret := rfl
    rw [List.foldl_cons, hround]
    split
    · obtain ⟨st, hst, heq⟩ := ih a
      rw [heq]
      refine ⟨st, .inr ?_, rfl⟩
      rcases hst with rfl | hst
      · exact List.mem_cons_self
      · exact List.mem_cons_of_mem _ hst
    · obtain ⟨st, hst, heq⟩ := ih ret
      rw [heq]
      refine ⟨st, ?_, rfl⟩
      rcases hst with rfl | hst
      · exact .inl rfl
      · exact .inr (List.mem_cons_of_mem _ hst)

theorem findLastStatusInfo_eq_none :
    s.findLastStatusInfo sn = none ↔ ∀ st ∈ s.recvdInfo, st.SN ≠ sn := by
  unfold findLastStatusInfo
  dsimp only
  constructor
  · intro h
    split at h
    · cases h
    · cases hl : s.recvdInfo.filter fun st => st.SN = sn with
      | nil =>
        intro st hst heq
        have hmem : st ∈ s.recvdInfo.filter fun st => st.SN = sn :=
          List.mem_filter.2 ⟨hst, by simpa using heq⟩
        rw [hl] at hmem
        cases hmem
      | cons a l =>
        rw [hl, List.foldl_cons, higherOffset] at h
        obtain ⟨st, -, heq⟩ := foldl_highest l a
        rw [heq] at h
        cases h
  · intro h
    have hnil : (s.recvdInfo.filter fun st => st.SN = sn) = [] := by
      apply List.filter_eq_nil_iff.2
      simpa using h
    rw [hnil]
    rfl

theorem findLastStatusInfo_some {st : AmStatus} (h : s.findLastStatusInfo sn = some st) :
    st ∈ s.recvdInfo ∧ st.SN = sn ∧
      (st.si.isEnd = false → ∀ st' ∈ s.recvdInfo, st'.SN = sn → st'.si.isEnd = false) := by
  unfold findLastStatusInfo at h
  dsimp only at h
  have hfilter : ∀ {st}, st ∈ s.recvdInfo.filter (fun st => st.SN = sn) →
      st ∈ s.recvdInfo ∧ st.SN = sn := by
    intro st hst
    obtain ⟨hst, heq⟩ := List.mem_filter.1 hst
    exact ⟨hst, by simpa using heq⟩
  split at h
  · next st' hfind =>
    obtain rfl := Option.some.inj h
    obtain ⟨hst, hsn⟩ := hfilter (List.mem_of_find?_eq_some hfind)
    have hend : st'.si.isEnd = true := by simpa using List.find?_some hfind
    refine ⟨hst, hsn, fun hend' => ?_⟩
    rw [hend] at hend'
    cases hend'
  · next hfind =>
    have hnone := List.find?_eq_none.1 hfind
    have hmem : st ∈ s.recvdInfo.filter fun st => st.SN = sn := by
      cases hl : s.recvdInfo.filter fun st => st.SN = sn with
      | nil =>
        rw [hl] at h
        cases h
      | cons a l =>
        rw [hl, List.foldl_cons, higherOffset] at h
        obtain ⟨st', hst', heq⟩ := foldl_highest l a
        rw [heq] at h
        obtain rfl := Option.some.inj h
        rcases hst' with rfl | hst'
        · exact List.mem_cons_self
        · exact List.mem_cons_of_mem _ hst'
    obtain ⟨hst, hsn⟩ := hfilter hmem
    refine ⟨hst, hsn, fun _ st' hst' hsn' => ?_⟩
    have := hnone st' (List.mem_filter.2 ⟨hst', by simpa using hsn'⟩)
    simpa using this

/-- Nothing has been recorded of the SDU `sn`, which is in the range of a status PDU. -/
def Missing (s : ReceivingEntity) (sn : Nat) : Prop :=
  s.RX_Next ≤ sn ∧ sn < s.RX_Next_Highest ∧ ∀ st ∈ s.recvdInfo, st.SN ≠ sn

/-- A round of the loop of `LTENR_RLCAM_UpdateStatus` is to report the segment `so` of `sn`. -/
def ToReport (s : ReceivingEntity) (sn so : Nat) : Prop :=
  s.findLastStatusInfo sn = none ∨ ∃ st, s.findLastStatusInfo sn = some st ∧ st.si ≠ .all ∧
    so ≤ st.SO ∧ s.findStatus sn so = none

theorem extends_nackSegments (sn maxSO : Nat) (h : OpenTail s.Missing nacks) :
    Extends s.Missing nacks (s.nackSegments sn maxSO nacks) ∧
      ∀ so ≤ maxSO, s.findStatus sn so = none →
        Reported (s.nackSegments sn maxSO nacks) sn so := by
  have hstep : ∀ nacks, ∀ so ∈ List.range (maxSO + 1), OpenTail s.Missing nacks →
      Extends s.Missing nacks (s.nackSegment sn nacks so) ∧
        ∀ sn' so', sn' = sn ∧ so' = so ∧ s.findStatus sn so = none →
          Reported (s.nackSegment sn nacks so) sn' so' := by
    intro nacks so _ h
    unfold nackSegment
    split
    · obtain ⟨hextends, hreported⟩ := extends_addNack_middle h
      refine ⟨hextends, ?_⟩
      rintro sn' so' ⟨rfl, rfl, -⟩
      exact hreported
    · next hfound => exact ⟨.refl h, fun _ _ hnone => absurd hnone.2.2 hfound⟩
  obtain ⟨hextends, hreported⟩ := extends_foldl hstep nacks h
  refine ⟨hextends, fun so hso hnone => ?_⟩
  exact hreported so (List.mem_range.2 (by omega)) sn so ⟨rfl, rfl, hnone⟩

theorem extends_nackSn (hhighest : s.RX_Next_Highest < 2 ^ 32)
    (hruns : ¬ ∃ a, ∀ i < 2 ^ 8, s.Missing (a + i)) (hnext : s.RX_Next ≤ sn)
    (hlt : sn < s.RX_Next_Highest) (h : OpenTail s.Missing nacks) :
    Extends s.Missing nacks (s.nackSn nacks sn) ∧
      ∀ so, s.ToReport sn so → Reported (s.nackSn nacks sn) sn so := by
  unfold nackSn ToReport
  split
  · next hnone =>
    have hm : s.Missing sn := ⟨hnext, hlt, findLastStatusInfo_eq_none.1 hnone⟩
    obtain ⟨hextends, hreported⟩ := extends_addNack_all h hm (fun i hi => by
      have := hi.2.1
      omega) hruns
    exact ⟨hextends, fun so _ => hreported so⟩
  · next st hfind =>
    rw [hfind]
    split
    · next hall =>
      refine ⟨.refl h, ?_⟩
      rintro so (hnone | ⟨st', heq, hne, -⟩)
      · cases hnone
      · obtain rfl := Option.some.inj heq
        exact absurd hall hne
    · obtain ⟨hextends, hreported⟩ := extends_nackSegments sn st.SO h
      refine ⟨hextends, ?_⟩
      rintro so (hnone | ⟨st', heq, -, hle, hmissing⟩)
      · cases hnone
      · obtain rfl := Option.some.inj heq
        exact hreported so hle hmissing

theorem reported_updateStatus (hhighest : s.RX_Next_Highest < 2 ^ 32)
    (hruns : ¬ ∃ a, ∀ i < 2 ^ 8, s.Missing (a + i)) (hnext : s.RX_Next ≤ sn)
    (hlt : sn < s.RX_Next_Highest) (hr : s.ToReport sn so) : Reported s.updateStatus sn so := by
  have hstep : ∀ nacks, ∀ sn ∈ List.range' s.RX_Next (s.RX_Next_Highest - s.RX_Next),
      OpenTail s.Missing nacks → Extends s.Missing nacks (s.nackSn nacks sn) ∧
        ∀ sn' so, sn' = sn ∧ s.ToReport sn so → Reported (s.nackSn nacks sn) sn' so := by
    intro nacks sn hsn h
    rw [List.mem_range'_1] at hsn
    obtain ⟨hextends, hreported⟩ := extends_nackSn hhighest hruns hsn.1 (by omega) h
    refine ⟨hextends, ?_⟩
    rintro sn' so ⟨rfl, hr⟩
    exact hreported so hr
  obtain ⟨-, hreported⟩ := extends_foldl hstep [] nofun
  exact hreported sn (List.mem_range'_1.2 (by omega)) sn so ⟨rfl, hr⟩

theorem updateRxNext_le {b : ReceptionBuffer} (hb : b ∈ s.receptionBuffer) :
    s.updateRxNext ≤ b.SN := by
  unfold updateRxNext
  have hmem : b.SN ∈ s.receptionBuffer.map ReceptionBuffer.SN := List.mem_map_of_mem hb
  rw [if_neg (List.ne_nil_of_mem hb), List.foldl_min_eq_min (List.ne_nil_of_mem hmem)]
  exact Nat.le_trans (Nat.min_le_right _ _) (List.min_le_of_mem hmem)

theorem updateRxNext_le_highest (hinside : ∀ b ∈ s.receptionBuffer, b.SN < s.RX_Next_Highest) :
    s.updateRxNext ≤ s.RX_Next_Highest := by
  by_cases hnil : s.receptionBuffer = []
  · unfold updateRxNext
    rw [if_pos hnil]
  · obtain ⟨b, hb⟩ := List.exists_mem_of_ne_nil _ hnil
    exact Nat.le_of_lt (Nat.lt_of_le_of_lt (updateRxNext_le hb) (hinside b hb))

/-! ## The invariant -/

/-- The entity keeps a record of every segment in its buffers, and of delivered SDUs. -/
structure Tracked (sdus : Nat → Sdu) (s : ReceivingEntity) : Prop where
  assembling : Assembling sdus s
  highest_lt : s.RX_Next_Highest < 2 ^ 32
  next_le : s.RX_Next ≤ s.RX_Next_Highest
  inside : ∀ b ∈ s.receptionBuffer, s.RX_Next ≤ b.SN ∧ b.SN < s.RX_Next_Highest
  passed : ∀ sn < s.RX_Next, sn ∈ s.delivered ∨ sn ∈ s.abandoned
  recorded : ∀ st ∈ s.recvdInfo, st.SN ∈ s.delivered ∨
    ∃ p ∈ s.held, (⟨p.si, p.SN, p.SO⟩ : AmStatus) = st
  kept : ∀ p ∈ s.held, (⟨p.si, p.SN, p.SO⟩ : AmStatus) ∈ s.recvdInfo
  honest : ∀ r ∈ s.reports, r.Honest sdus

/-- The last segment of every SDU in the buffers has arrived, no SDU below `RX_Next` was given up,
and no run of missing SDUs is longer than a NACK can say. -/
structure ReportSafe (s : ReceivingEntity) : Prop where
  lastReceived : ∀ b ∈ s.receptionBuffer, b.SN ∉ s.delivered → b.isLastSDUReceived = true
  kept : ∀ sn ∈ s.abandoned, sn < s.RX_Next → sn ∈ s.delivered
  runs : ¬ ∃ a, ∀ i < 2 ^ 8, s.Missing (a + i)

variable {sdus : Nat → Sdu} {s' : ReceivingEntity} {p : AmdPdu}

theorem mem_held {q : AmdPdu} : q ∈ s.held ↔ ∃ b ∈ s.receptionBuffer, q ∈ b.packets :=
  List.mem_flatMap

theorem Assembling.isSegment (h : Assembling sdus s) {q : AmdPdu} (hq : q ∈ s.held) :
    q.IsSegment (sdus q.SN) := by
  obtain ⟨b, hb, hq⟩ := mem_held.1 hq
  rw [(h.wf b hb).sn_eq q hq]
  exact (h.wf b hb).segment q hq

theorem Tracked.of_core (h : Tracked sdus s) (hcore : s'.core = s.core) : Tracked sdus s' := by
  have hhighest : s'.RX_Next_Highest = s.RX_Next_Highest :=
    eq_of_core (g := RX_Next_Highest) (fun _ => rfl) hcore
  have hnext : s'.RX_Next = s.RX_Next := eq_of_core (g := RX_Next) (fun _ => rfl) hcore
  have hdelivered : s'.delivered = s.delivered := eq_of_core (g := delivered) (fun _ => rfl) hcore
  have habandoned : s'.abandoned = s.abandoned := eq_of_core (g := abandoned) (fun _ => rfl) hcore
  have hrecords : s'.recvdInfo = s.recvdInfo := eq_of_core (g := recvdInfo) (fun _ => rfl) hcore
  have hreports : s'.reports = s.reports := eq_of_core (g := reports) (fun _ => rfl) hcore
  have hheld : s'.held = s.held := eq_of_core (g := held) held_core hcore
  constructor
  · exact h.assembling.of_core hcore
  · rw [hhighest]
    exact h.highest_lt
  · rw [hhighest, hnext]
    exact h.next_le
  · intro b hb
    obtain ⟨b0, hb0, hsn, -⟩ := buffer_of_core hcore hb
    rw [hhighest, hnext, ← hsn]
    exact h.inside b0 hb0
  · rw [hnext, hdelivered, habandoned]
    exact h.passed
  · rw [hrecords, hdelivered, hheld]
    exact h.recorded
  · rw [hrecords, hheld]
    exact h.kept
  · rw [hreports]
    exact h.honest

theorem Tracked.toReport (h : Tracked sdus s) (hsafe : s.ReportSafe) {st : AmStatus}
    (hfind : s.findLastStatusInfo sn = some st) (hso : so < (sdus sn).segments.length)
    (hnew : sn ∉ s.delivered) : (∃ p ∈ s.held, p.SN = sn ∧ p.SO = so) ∨ s.ToReport sn so := by
  obtain ⟨hst, hsn, hlast⟩ := findLastStatusInfo_some hfind
  obtain ⟨p, hp, rfl⟩ := (h.recorded st hst).resolve_left (by rw [hsn]; exact hnew)
  dsimp only at hsn hlast
  have hseg := h.assembling.isSegment hp
  rw [hsn] at hseg
  -- the last segment of the SDU is in the buffer of `p`, and has a record
  have hend : p.si.isEnd = true := by
    obtain ⟨b, hb, hpb⟩ := mem_held.1 hp
    have hwf := h.assembling.wf b hb
    have hbsn : b.SN = sn := by rw [← hwf.sn_eq p hpb, hsn]
    obtain ⟨hlength, q, hq, hqso⟩ := hwf.last (hsafe.lastReceived b hb (by rw [hbsn]; exact hnew))
    have hqend : q.si.isEnd = true := (hwf.segment q hq).isEnd_iff.2 (by omega)
    by_contra hnot
    have := hlast (by simpa using hnot) _ (h.kept q (mem_held.2 ⟨b, hb, hq⟩))
      ((hwf.sn_eq q hq).trans hbsn)
    rw [hqend] at this
    cases this
  have hlength := hseg.isEnd_iff.1 hend
  by_cases hall : p.si = .all
  · obtain ⟨hzero, hone⟩ := hseg.all_iff.1 hall
    exact .inl ⟨p, hp, hsn, by omega⟩
  · cases hstatus : s.findStatus sn so with
    | none => exact .inr (.inr ⟨_, hfind, hall, by dsimp only; omega, hstatus⟩)
    | some st =>
      have hmem := List.mem_of_find?_eq_some hstatus
      have htest := List.find?_some hstatus
      simp only [Bool.and_eq_true, decide_eq_true_eq] at htest
      obtain ⟨q, hq, rfl⟩ := (h.recorded st hmem).resolve_left (by rw [htest.1]; exact hnew)
      exact .inl ⟨q, hq, htest⟩

theorem Tracked.constructStatusPdu (h : Tracked sdus s) (hsafe : s.ReportSafe) :
    Tracked sdus s.constructStatusPdu := by
  refine ⟨h.assembling.constructStatusPdu, h.highest_lt, h.next_le, h.inside, h.passed, ?_, ?_, ?_⟩
  · exact fun st hst => h.recorded st (List.mem_of_mem_filter hst)
  · intro p hp
    refine List.mem_filter.2 ⟨h.kept p hp, ?_⟩
    obtain ⟨b, hb, hpb⟩ := mem_held.1 hp
    have hle := (h.inside b hb).1
    rw [← (h.assembling.wf b hb).sn_eq p hpb] at hle
    simpa using hle
  · intro r hr
    rcases List.mem_append.1 hr with hr | hr
    · exact h.honest r hr
    · obtain rfl := List.mem_singleton.1 hr
      intro sn hsn so hso
      by_cases hold : sn ∈ s.delivered
      · exact .inl hold
      · have hnext : s.RX_Next ≤ sn := by
          by_contra hlt
          rcases h.passed sn (by omega) with hd | ha
          · exact hold hd
          · exact hold (hsafe.kept sn ha (by omega))
        refine .inr ?_
        have hreport : (∃ p ∈ s.held, p.SN = sn ∧ p.SO = so) ∨ s.ToReport sn so := by
          cases hfind : s.findLastStatusInfo sn with
          | none => exact .inr (.inl hfind)
          | some st => exact h.toReport hsafe hfind hso hold
        refine hreport.imp_right fun hr => ?_
        obtain ⟨n, hn, hrep⟩ := reported_updateStatus h.highest_lt hsafe.runs hnext hsn hr
        exact ⟨n, List.mem_reverse.2 hn, hrep⟩

theorem Assembling.mem_held_place (h : Assembling sdus s) {q : AmdPdu} :
    q ∈ (s.place p).held ↔ q ∈ s.held ∨ q = p := by
  rw [mem_held, mem_held]
  constructor
  · rintro ⟨b, hb, hq⟩
    rcases h.mem_place.1 hb with rfl | ⟨hb, -⟩
    · rcases ReceptionBuffer.mem_add.1 hq with hq | rfl
      · cases hfind : s.findReceptionBuffer p.SN with
        | none =>
          rw [hfind] at hq
          cases hq
        | some b =>
          rw [hfind] at hq
          exact .inl ⟨b, (lookup_some hfind).1, hq⟩
      · exact .inr rfl
    · exact .inl ⟨b, hb, hq⟩
  · rintro (⟨b, hb, hq⟩ | rfl)
    · by_cases hsn : b.SN = p.SN
      · have hfind : s.findReceptionBuffer p.SN = some b := by
          rw [← hsn]
          exact lookup_of_mem h.distinct hb
        refine ⟨s.filled p, h.mem_place.2 (.inl rfl), ReceptionBuffer.mem_add.2 (.inl ?_)⟩
        rw [hfind]
        exact hq
      · exact ⟨b, h.mem_place.2 (.inr ⟨hb, hsn⟩), hq⟩
    · exact ⟨s.filled q, h.mem_place.2 (.inl rfl), ReceptionBuffer.mem_add.2 (.inr rfl)⟩

theorem Tracked.place (h : Tracked sdus s) (haccepts : s.accepts p = true)
    (hp : p.IsSegment (sdus p.SN)) (hlt : p.SN + 1 < 2 ^ 32) : Tracked sdus (s.place p) := by
  have hhighest : (s.place p).RX_Next_Highest = max s.RX_Next_Highest (p.SN + 1) := by
    change (if s.RX_Next_Highest ≤ p.SN then u32 (p.SN + 1) else s.RX_Next_Highest) = _
    rw [u32_of_lt hlt]
    split <;> omega
  have hle : s.RX_Next ≤ p.SN := by
    simp only [accepts, isSNFallsInReceivingWindow, Bool.and_eq_true, decide_eq_true_eq] at haccepts
    exact haccepts.1.1
  have hheld {q : AmdPdu} : q ∈ (s.place p).held ↔ q ∈ s.held ∨ q = p := h.assembling.mem_held_place
  have hh := h.highest_lt
  have hnext := h.next_le
  refine ⟨h.assembling.place haccepts hp, ?_, ?_, ?_, h.passed, ?_, ?_, h.honest⟩
  · omega
  · rw [hhighest]
    exact Nat.le_trans hnext (Nat.le_max_left _ _)
  · intro b hb
    rcases h.assembling.mem_place.1 hb with rfl | ⟨hb, -⟩
    · rw [SN_filled]
      exact ⟨hle, by omega⟩
    · have := h.inside b hb
      exact ⟨this.1, by omega⟩
  · intro st hst
    rcases List.mem_append.1 hst with hst | hst
    · refine (h.recorded st hst).imp_right ?_
      rintro ⟨q, hq, heq⟩
      exact ⟨q, hheld.2 (.inl hq), heq⟩
    · obtain rfl := List.mem_singleton.1 hst
      exact .inr ⟨p, hheld.2 (.inr rfl), rfl⟩
  · intro q hq
    rcases hheld.1 hq with hq | rfl
    · exact List.mem_append_left _ (h.kept q hq)
    · exact List.mem_append_right _ List.mem_cons_self

/-- No SN from `lo` up to `hi` is outstanding below all the buffers. -/
def NoGap (buffers : List ReceptionBuffer) (lo hi : Nat) (done : List Nat) : Prop :=
  ∀ sn, lo ≤ sn → sn < hi → sn ∈ done ∨ ∃ b ∈ buffers, b.SN ≤ sn

theorem Tracked.recompute {t : ReceivingEntity} (h : Tracked sdus s) (ha : Assembling sdus t)
    (hhighest : t.RX_Next_Highest = s.RX_Next_Highest)
    (hsub : ∀ b ∈ t.receptionBuffer, b ∈ s.receptionBuffer) (hnext : t.RX_Next = t.updateRxNext)
    (hdelivered : s.delivered ⊆ t.delivered) (habandoned : s.abandoned ⊆ t.abandoned)
    (hgap : NoGap t.receptionBuffer s.RX_Next s.RX_Next_Highest (t.delivered ++ t.abandoned))
    (hrecorded : ∀ st ∈ t.recvdInfo, st.SN ∈ t.delivered ∨
      ∃ p ∈ t.held, (⟨p.si, p.SN, p.SO⟩ : AmStatus) = st)
    (hkept : ∀ p ∈ t.held, (⟨p.si, p.SN, p.SO⟩ : AmStatus) ∈ t.recvdInfo)
    (hreports : t.reports = s.reports) : Tracked sdus t := by
  have hinside : ∀ b ∈ t.receptionBuffer, b.SN < t.RX_Next_Highest := by
    intro b hb
    rw [hhighest]
    exact (h.inside b (hsub b hb)).2
  have hle : t.RX_Next ≤ t.RX_Next_Highest := by
    rw [hnext]
    exact updateRxNext_le_highest hinside
  refine ⟨ha, ?_, hle, ?_, ?_, hrecorded, hkept, ?_⟩
  · rw [hhighest]
    exact h.highest_lt
  · intro b hb
    refine ⟨?_, hinside b hb⟩
    rw [hnext]
    exact updateRxNext_le hb
  · intro sn hsn
    rcases Nat.lt_or_ge sn s.RX_Next with hlt | hge
    · exact (h.passed sn hlt).imp (@hdelivered sn) (@habandoned sn)
    · rcases hgap sn hge (by omega) with hdone | ⟨b, hb, hbsn⟩
      · exact List.mem_append.1 hdone
      · have := updateRxNext_le hb
        omega
  · rw [hreports]
    exact h.honest

theorem Tracked.deliver (h : Tracked sdus s) (haccepts : s.accepts p = true)
    (hp : p.IsSegment (sdus p.SN)) (hlt : p.SN + 1 < 2 ^ 32)
    (hgap : NoGap (s.receptionBuffer.filter (·.SN ≠ p.SN)) s.RX_Next (max s.RX_Next_Highest p.SN)
      (p.SN :: s.delivered ++ s.abandoned)) : Tracked sdus ((s.place p).deliver (s.filled p)) := by
  have ht := h.place haccepts hp hlt
  have hmem {b : ReceptionBuffer} : b ∈ ((s.place p).deliver (s.filled p)).receptionBuffer ↔
      b ∈ (s.place p).receptionBuffer ∧ b.SN ≠ p.SN := by
    rw [← SN_filled s p]
    exact mem_eraseFirst_iff ht.assembling.distinct
  have hdelivered : ((s.place p).deliver (s.filled p)).delivered = s.delivered ++ [p.SN] := by
    have hsn : (s.filled p).reassembleAllBytes.SN = p.SN := SN_filled s p
    unfold delivered ReceivingEntity.deliver
    rw [List.map_append, List.map_singleton, hsn]
    rfl
  have hheld {q : AmdPdu} : q ∈ ((s.place p).deliver (s.filled p)).held ↔
      q ∈ (s.place p).held ∧ q.SN ≠ p.SN := by
    rw [mem_held, mem_held]
    constructor
    · rintro ⟨b, hb, hq⟩
      obtain ⟨hb, hne⟩ := hmem.1 hb
      rw [(ht.assembling.wf b hb).sn_eq q hq]
      exact ⟨⟨b, hb, hq⟩, hne⟩
    · rintro ⟨⟨b, hb, hq⟩, hne⟩
      rw [(ht.assembling.wf b hb).sn_eq q hq] at hne
      exact ⟨b, hmem.2 ⟨hb, hne⟩, hq⟩
  refine ht.recompute (ht.assembling.deliver _) rfl (fun b hb => (hmem.1 hb).1) rfl ?_
    (fun _ => id) ?_ ?_ ?_ rfl
  · rw [hdelivered]
    exact List.subset_append_left _ _
  · intro sn hlo hhi
    by_cases hsn : sn = p.SN
    · left
      rw [hdelivered, hsn]
      simp
    · have hhighest : (s.place p).RX_Next_Highest ≤ max s.RX_Next_Highest (p.SN + 1) := by
        change (if s.RX_Next_Highest ≤ p.SN then u32 (p.SN + 1) else s.RX_Next_Highest) ≤ _
        rw [u32_of_lt hlt]
        split <;> omega
      refine (hgap sn hlo (by omega)).imp ?_ ?_
      · intro hdone
        rw [hdelivered]
        simp only [List.cons_append, List.mem_cons, List.mem_append] at hdone
        simp only [List.mem_append]
        rcases hdone with hdone | hdone | hdone
        · exact absurd hdone hsn
        · exact .inl (.inl hdone)
        · exact .inr hdone
      · rintro ⟨b, hb, hle⟩
        obtain ⟨hb, hne⟩ := List.mem_filter.1 hb
        have hne : b.SN ≠ p.SN := by simpa using hne
        exact ⟨b, hmem.2 ⟨h.assembling.mem_place.2 (.inr ⟨hb, hne⟩), hne⟩, hle⟩
  · intro st hst
    by_cases hsn : st.SN = p.SN
    · left
      rw [hdelivered, hsn]
      simp
    · rcases ht.recorded st hst with hd | ⟨q, hq, rfl⟩
      · left
        rw [hdelivered]
        exact List.mem_append_left _ hd
      · exact .inr ⟨q, hheld.2 ⟨hq, hsn⟩, rfl⟩
  · exact fun q hq => ht.kept q (hheld.1 hq).1

theorem Tracked.giveUp (h : Tracked sdus s)
    (hgap : NoGap s.updateReceptionBuffer.receptionBuffer s.RX_Next s.RX_Next_Highest
      (s.delivered ++ s.updateReceptionBuffer.abandoned)) : Tracked sdus s.giveUp := by
  have hmem {b : ReceptionBuffer} : b ∈ s.giveUp.receptionBuffer ↔
      b ∈ s.receptionBuffer ∧ ¬ s.maxRetxThreshold < b.reassembleCount := by
    change b ∈ s.receptionBuffer.filter _ ↔ _
    rw [List.mem_filter, decide_eq_true_eq]
  refine h.recompute h.assembling.giveUp rfl (fun b hb => (hmem.1 hb).1) rfl (fun _ => id)
    (List.subset_append_left _ _) hgap ?_ ?_ rfl
  · intro st hst
    obtain ⟨hst, hlive⟩ := List.mem_filter.1 hst
    refine (h.recorded st hst).imp_right ?_
    rintro ⟨q, hq, rfl⟩
    obtain ⟨b, hb, hqb⟩ := mem_held.1 hq
    refine ⟨q, mem_held.2 ⟨b, hmem.2 ⟨hb, fun hcount => ?_⟩, hqb⟩, rfl⟩
    have hsn := (h.assembling.wf b hb).sn_eq q hqb
    have hexpired : q.SN ∈ s.expired.map ReceptionBuffer.SN := by
      rw [hsn]
      exact List.mem_map_of_mem (List.mem_filter.2 ⟨hb, by simpa using hcount⟩)
    simp [hexpired] at hlive
  · intro q hq
    obtain ⟨b, hb, hqb⟩ := mem_held.1 hq
    obtain ⟨hb, hcount⟩ := hmem.1 hb
    refine List.mem_filter.2 ⟨h.kept q (mem_held.2 ⟨b, hb, hqb⟩), ?_⟩
    have hlive : q.SN ∉ s.expired.map ReceptionBuffer.SN := by
      intro hexpired
      obtain ⟨b', hb', hsn⟩ := List.mem_map.1 hexpired
      obtain ⟨hb', hcount'⟩ := List.mem_filter.1 hb'
      rw [(h.assembling.wf b hb).sn_eq q hqb] at hsn
      have hfind := lookup_of_mem h.assembling.distinct hb
      rw [← hsn, lookup_of_mem h.assembling.distinct hb'] at hfind
      obtain rfl := Option.some.inj hfind
      exact hcount (by simpa using hcount')
    simpa using hlive

theorem Tracked.endsIn (h : Tracked sdus s) (hsafe : s.ReportSafe) (hend : EndsIn s s') :
    Tracked sdus s' := by
  rcases hend with hcore | hcore
  · exact h.of_core hcore
  · exact (h.constructStatusPdu hsafe).of_core hcore

/-! ## Runs -/

/-- When an SDU is completed, or some are given up, every SN below the remaining buffers is over;
and status PDUs are built in states of `ReportSafe`. -/
def AckSafe (s : ReceivingEntity) : RxEvent → Prop
  | .pdu p => s.accepts p = true → p.SN + 1 < 2 ^ 32 ∧
      ((s.filled p).isAllByteSegmentReceived = true →
        NoGap (s.receptionBuffer.filter (·.SN ≠ p.SN)) s.RX_Next (max s.RX_Next_Highest p.SN)
          (p.SN :: s.delivered ++ s.abandoned)) ∧
      ((p.P || s.isStatusReportDelayed) = true → (s.takePdu p).ReportSafe)
  | .reassemblyTimeout =>
      NoGap s.updateReceptionBuffer.receptionBuffer s.RX_Next s.RX_Next_Highest
        (s.delivered ++ s.updateReceptionBuffer.abandoned) ∧ s.giveUp.ReportSafe
  | .statusProhibitTimeout => s.ReportSafe

theorem Tracked.takePdu (h : Tracked sdus s) (haccepts : s.accepts p = true)
    (hp : p.IsSegment (sdus p.SN)) (hsafe : s.AckSafe (.pdu p)) : Tracked sdus (s.takePdu p) := by
  obtain ⟨hlt, hgap, -⟩ := hsafe haccepts
  unfold ReceivingEntity.takePdu
  split
  · next hall => exact h.deliver haccepts hp hlt (hgap hall)
  · exact h.place haccepts hp hlt

theorem Tracked.stepped {e : RxEvent} (h : Tracked sdus s)
    (hpdu : ∀ p, e = .pdu p → p.IsSegment (sdus p.SN)) (hsafe : s.AckSafe e)
    (hs : Stepped s e s') : Tracked sdus s' := by
  cases hs with
  | discarded _ => exact h
  | @taken p s' haccepts hend hquiet =>
    have ht := h.takePdu haccepts (hpdu p rfl) hsafe
    cases hreport : p.P || s.isStatusReportDelayed with
    | false => exact ht.of_core (hquiet hreport)
    | true => exact ht.endsIn ((hsafe haccepts).2.2 hreport) hend
  | gaveUp hend => exact (h.giveUp hsafe.1).endsIn hsafe.2 hend
  | prohibited hend => exact h.endsIn hsafe hend

theorem tracked_establish (maxRetxThreshold : Nat) : Tracked sdus (establish maxRetxThreshold) :=
  ⟨⟨List.nodup_nil, nofun⟩, Nat.two_pow_pos _, Nat.le_refl _, nofun, nofun, nofun, nofun, nofun⟩

/-- `RX_Next` is not above an SN that is neither delivered nor given up, and every status PDU
reports what was missing. -/
structure Acknowledges (sdus : Nat → Sdu) (s : ReceivingEntity) : Prop where
  next : ∀ sn, sn ∉ s.delivered → sn ∉ s.abandoned → s.RX_Next ≤ sn
  honest : ∀ r ∈ s.reports, r.Honest sdus

theorem Tracked.acknowledges (h : Tracked sdus s) : Acknowledges sdus s := by
  refine ⟨fun sn hd ha => ?_, h.honest⟩
  by_contra hlt
  rcases h.passed sn (by omega) with hd' | ha'
  · exact hd hd'
  · exact ha ha'

/-- In every run whose steps are safe, whatever PDUs of the SDUs `sdus` are lost, repeated and
reordered. -/
theorem acknowledges_of_run {maxRetxThreshold : Nat} {tr : List (ReceivingEntity × RxEvent)}
    (run : Run ReceivingEntity.step (establish maxRetxThreshold) tr s)
    (hpdus : ∀ x ∈ tr, ∀ p, x.2 = .pdu p → p.IsSegment (sdus p.SN))
    (hsafe : ∀ x ∈ tr, x.1.AckSafe x.2) : Acknowledges sdus s := by
  apply Tracked.acknowledges
  apply run.induction (P := fun _ s => Tracked sdus s)
    (Q := fun s e => (∀ p, e = .pdu p → p.IsSegment (sdus p.SN)) ∧ s.AckSafe e)
  · exact tracked_establish maxRetxThreshold
  · rintro tr s e s' - h ⟨hpdu, hsafe⟩ hstep
    exact h.stepped hpdu hsafe (ReceivingEntity.stepped hstep)
  · exact fun x hx => ⟨hpdus x hx, hsafe x hx⟩

/-- A test for `NoGap`. -/
def noGap (buffers : List ReceptionBuffer) (lo hi : Nat) (done : List Nat) : Bool :=
  (List.range' lo (hi - lo)).all fun sn => sn ∈ done || buffers.any (·.SN ≤ sn)

theorem noGap_sound {buffers : List ReceptionBuffer} {lo hi : Nat} {done : List Nat}
    (h : noGap buffers lo hi done = true) : NoGap buffers lo hi done := by
  intro sn hlo hhi
  unfold noGap at h
  simp only [List.all_eq_true, List.mem_range'_1, Bool.or_eq_true, List.any_eq_true,
    decide_eq_true_eq] at h
  exact h sn ⟨hlo, by omega⟩

/-- A test for `ReportSafe`, on a range that is too short for a long run. -/
def isReportSafe (s : ReceivingEntity) : Bool :=
  (s.receptionBuffer.all fun b => b.SN ∈ s.delivered || b.isLastSDUReceived) &&
    (s.abandoned.all fun sn => sn ∈ s.delivered || s.RX_Next ≤ sn) && s.RX_Next_Highest < 2 ^ 8

theorem isReportSafe_sound (h : s.isReportSafe = true) : s.ReportSafe := by
  unfold isReportSafe at h
  simp only [Bool.and_eq_true, List.all_eq_true, Bool.or_eq_true, decide_eq_true_eq] at h
  obtain ⟨⟨hlast, hkept⟩, hshort⟩ := h
  refine ⟨fun b hb hnew => (hlast b hb).resolve_left hnew, ?_, ?_⟩
  · intro sn hsn hlt
    exact (hkept sn hsn).resolve_right (by omega)
  · rintro ⟨a, ha⟩
    have := (ha 255 (by decide)).2.1
    omega

/-- A test for `AckSafe`. -/
def isAckSafe (x : ReceivingEntity × RxEvent) : Bool :=
  match x.2 with
  | .pdu p => p.SN + 1 < 2 ^ 32 &&
      noGap (x.1.receptionBuffer.filter (·.SN ≠ p.SN)) x.1.RX_Next
        (max x.1.RX_Next_Highest p.SN) (p.SN :: x.1.delivered ++ x.1.abandoned) &&
      (x.1.takePdu p).isReportSafe
  | .reassemblyTimeout =>
      noGap x.1.updateReceptionBuffer.receptionBuffer x.1.RX_Next x.1.RX_Next_Highest
        (x.1.delivered ++ x.1.updateReceptionBuffer.abandoned) && x.1.giveUp.isReportSafe
  | .statusProhibitTimeout => x.1.isReportSafe

theorem isAckSafe_sound {x : ReceivingEntity × RxEvent} (h : isAckSafe x = true) :
    x.1.AckSafe x.2 := by
  obtain ⟨s, e⟩ := x
  cases e with
  | pdu p =>
    simp only [isAckSafe, Bool.and_eq_true, decide_eq_true_eq] at h
    exact fun _ => ⟨h.1.1, fun _ => noGap_sound h.1.2, fun _ => isReportSafe_sound h.2⟩
  | reassemblyTimeout =>
    simp only [isAckSafe, Bool.and_eq_true] at h
    exact ⟨noGap_sound h.1, isReportSafe_sound h.2⟩
  | statusProhibitTimeout => exact isReportSafe_sound h

/-- A poll comes while the first segment of an SDU is missing; the rest arrives after the reassembly
time. -/
theorem acknowledges_exampleSdus :
    ∃ tr s, Run ReceivingEntity.step (establish 4) tr s ∧ s.delivered = [0, 1] ∧
      s.reports.map Report.pdu =
        [⟨1, [⟨0, true, false, 0, 0, 0⟩]⟩, ⟨1, [⟨0, true, false, 0, 0, 0⟩]⟩, ⟨2, []⟩] ∧
      Acknowledges exampleSdus s := by
  have hexec : (exec ReceivingEntity.step (establish 4)
      [fun _ => some (.pdu { examplePdu 0 1 with P := true }), fun _ => some .reassemblyTimeout,
        fun _ => some (.pdu (examplePdu 0 0)),
        fun _ => some (.pdu { examplePdu 1 0 with P := true })]).any
      (fun r => (r.1.all isExampleArrival) && (r.1.all isAckSafe) &&
        decide (r.2.delivered = [0, 1] ∧ r.2.reports.map Report.pdu =
          [⟨1, [⟨0, true, false, 0, 0, 0⟩]⟩, ⟨1, [⟨0, true, false, 0, 0, 0⟩]⟩, ⟨2, []⟩])) =
      true := by decide +kernel
  obtain ⟨tr, s, run, htest⟩ := run_of_exec hexec
  simp only [Bool.and_eq_true, List.all_eq_true, decide_eq_true_eq] at htest
  obtain ⟨⟨harrivals, hsafe⟩, hdelivered, hreports⟩ := htest
  exact ⟨tr, s, run, hdelivered, hreports, acknowledges_of_run run
    (fun x hx => isSegment_of_isExampleArrival (harrivals x hx))
    fun x hx => isAckSafe_sound (hsafe x hx)⟩

/-- The SDU with SN 0 is lost, and the next one arrives complete with a poll. -/
theorem not_acknowledges_exampleSdus :
    ∃ tr s, Run ReceivingEntity.step (establish 4) tr s ∧
      (∀ x ∈ tr, ∀ p, x.2 = .pdu p → p.IsSegment (exampleSdus p.SN)) ∧
      s.RX_Next = 2 ∧ 0 ∉ s.delivered ∧ 0 ∉ s.abandoned ∧
      s.reports = [⟨⟨2, []⟩, [1], []⟩] ∧ ¬ Acknowledges exampleSdus s ∧
      ¬ ∀ r ∈ s.reports, r.Honest exampleSdus := by
  have hexec : (exec ReceivingEntity.step (establish 4)
      [fun _ => some (.pdu { examplePdu 1 0 with P := true })]).any
      (fun r => (r.1.all isExampleArrival) && decide (r.2.RX_Next = 2 ∧ 0 ∉ r.2.delivered ∧
        0 ∉ r.2.abandoned ∧ r.2.reports = [⟨⟨2, []⟩, [1], []⟩])) = true := by
    decide +kernel
  obtain ⟨tr, s, run, htest⟩ := run_of_exec hexec
  simp only [Bool.and_eq_true, List.all_eq_true, decide_eq_true_eq] at htest
  obtain ⟨harrivals, hnext, hnew, hlive, hreports⟩ := htest
  refine ⟨tr, s, run, fun x hx => isSegment_of_isExampleArrival (harrivals x hx), hnext, hnew,
    hlive, hreports, ?_, ?_⟩
  · intro h
    have := h.next 0 hnew hlive
    omega
  · intro h
    have hhonest := h _ (by rw [hreports]; exact List.mem_cons_self)
    rcases hhonest 0 (by decide) 0 (by decide) with h | ⟨p, hp, -⟩ | ⟨n, hn, -⟩
    · revert h
      decide
    · cases hp
    · cases hn

end ReceivingEntity

end NetSim.Rlc
