import NetSim.Aodv.Buffering

/-!
# The expanding ring of a route discovery (`RREQ.c`)

The radius from `fnIncreaseTTL` sets the TTL of the RREQ, the ttl of the sent table and the timeout,
each with an increment of its own.
-/

namespace NetSim.Aodv

open NetSim.Lib

/-! ## One radius -/

/-- A request for `dest` uses radius `r` throughout, where `base` is the TTL of a packet that goes
nowhere. -/
structure UsesRadius (base r count : ℕ) (c : Curr) (dest : IPAddress) (packet : Packet) (s : Sim) :
    Prop where
  nTTL : packet.nTTL = .ofNat (r + base)
  recorded : ∃ table ∈ findSentTable s.devVar dest,
    table.ttl = r ∧ table.dTimeoutTime = c.dEventTime + getTimeoutTime r count
  timeout : ⟨c.dEventTime + getTimeoutTime r count, .rreqTimeout dest⟩ ∈ s.added

/-- `GenerateRREQ` uses the radius that `fnIncreaseTTL` gives it. -/
def GenerateAgrees (base : ℕ) (c : Curr) (dest : IPAddress) (s : Sim) : Prop :=
  ∃ packet ∈ (generateRREQ c dest s).pPacket,
    UsesRadius base (increaseTTL s.devVar dest) 1 c dest packet (generateRREQ c dest s)

def Expires (c : Curr) (dest : IPAddress) (s : Sim) : Prop :=
  ∃ table ∈ findSentTable s.devVar dest, table.dTimeoutTime ≤ c.dEventTime

instance (c : Curr) (dest : IPAddress) (s : Sim) : Decidable (Expires c dest s) :=
  inferInstanceAs (Decidable (∃ table ∈ findSentTable s.devVar dest, _))

/-- `RetryRREQ`, run for this entry, uses the radius that `fnIncreaseTTL` gives it. -/
def RetryAgrees (base : ℕ) (c : Curr) (dest : IPAddress) (s : Sim) (table : RREQSentTable) : Prop :=
  ∃ packet, ⟨c.dEventTime, .networkOut packet⟩ ∈ (retryRREQ c dest s).added ∧
    UsesRadius base (increaseTTL s.devVar dest) table.times c dest packet (retryRREQ c dest s)

section Radius

variable {c : Curr} {dest : IPAddress} {s : Sim} {table : RREQSentTable}

theorem findSentTable_generateRREQ :
    findSentTable (generateRREQ c dest s).devVar dest =
      some (((findSentTable s.devVar dest).getD ⟨dest, 0, 1, 0⟩).assign
        (increaseTTL s.devVar dest + 1)
        (c.dEventTime + getTimeoutTime (increaseTTL s.devVar dest + 1) 1)) := by
  have h := findSentTable_sentAfter s.devVar dest dest (increaseTTL s.devVar dest + 1)
    (c.dEventTime + getTimeoutTime (increaseTTL s.devVar dest + 1) 1)
  rw [if_pos rfl] at h
  exact h

theorem retryRREQ_cases (c : Curr) (dest : IPAddress) (s : Sim) :
    (¬ Expires c dest s ∧ retryRREQ c dest s = s) ∨
      ∃ table, findSentTable s.devVar dest = some table ∧ table.dTimeoutTime ≤ c.dEventTime ∧
        ((aodvRreqRetries < table.times ∧
            retryRREQ c dest s = emptyFIFOBuffer dest (deleteRREQSentTable dest s)) ∨
          (table.times ≤ aodvRreqRetries ∧
            findSentTable (retryRREQ c dest s).devVar dest =
              some (table.assign (increaseTTL s.devVar dest)
                (c.dEventTime + getTimeoutTime (increaseTTL s.devVar dest + 1) table.times)))) := by
  cases hfind : findSentTable s.devVar dest with
  | none =>
    left
    refine ⟨?_, ?_⟩
    · rintro ⟨table, htable, -⟩
      rw [hfind] at htable
      cases htable
    · unfold retryRREQ
      rw [hfind]
  | some table =>
    by_cases htime : c.dEventTime < table.dTimeoutTime
    · left
      refine ⟨?_, ?_⟩
      · rintro ⟨table', htable', hdue⟩
        rw [hfind, Option.mem_some_iff] at htable'
        subst htable'
        exact absurd htime (not_lt.2 hdue)
      · unfold retryRREQ
        rw [hfind]
        exact if_pos htime
    · right
      refine ⟨table, rfl, not_lt.1 htime, ?_⟩
      by_cases htimes : aodvRreqRetries < table.times
      · left
        refine ⟨htimes, ?_⟩
        unfold retryRREQ
        rw [hfind]
        dsimp only
        rw [if_neg htime, if_pos htimes]
      · right
        refine ⟨not_lt.1 htimes, ?_⟩
        have h := findSentTable_sentAfter s.devVar dest dest (increaseTTL s.devVar dest)
          (c.dEventTime + getTimeoutTime (increaseTTL s.devVar dest + 1) table.times)
        rw [if_pos rfl, hfind] at h
        unfold retryRREQ
        rw [hfind]
        dsimp only
        rw [if_neg htime, if_neg htimes]
        exact h

theorem increaseTTL_le (v : DeviceVar) (dest : IPAddress) :
    increaseTTL v dest ≤ aodvTtlThreshold ∨ increaseTTL v dest = aodvNetDiameter := by
  cases hfind : findSentTable v dest with
  | none =>
    left
    unfold increaseTTL
    rw [hfind]
    decide
  | some table =>
    rw [increaseTTL_eq hfind, aodvTtlThreshold, aodvNetDiameter]
    split
    · exact .inr rfl
    · split <;> omega

theorem getTimeoutTime_succ_ne {r : ℕ} (hr : r ≤ aodvTtlThreshold ∨ r = aodvNetDiameter)
    (count count' : ℕ) : getTimeoutTime (r + 1) count ≠ getTimeoutTime r count' := by
  rcases hr with hr | rfl
  · have hr : r ≤ 7 := hr
    rw [getTimeoutTime_eq _ (by omega), getTimeoutTime_eq _ (by omega)]
    push_cast
    intro h
    linarith
  · rw [getTimeoutTime_eq _ (by decide)]
    unfold getTimeoutTime
    norm_num [aodvNetTraversalTime, aodvNodeTraversalTime, millisecond, aodvNetDiameter]
    intro h
    have h' : (3040000 : ℚ) = count' * 2800000 := h
    have hcast : (3040000 : ℕ) = count' * 2800000 := by exact_mod_cast h'
    omega

theorem not_generateAgrees (base : ℕ) : ¬ GenerateAgrees base c dest s := by
  rintro ⟨packet, -, -, ⟨table, htable, httl, -⟩, -⟩
  rw [findSentTable_generateRREQ, Option.mem_some_iff] at htable
  subst htable
  exact absurd httl (Nat.succ_ne_self _)

theorem not_retryAgrees (base : ℕ) (hfind : findSentTable s.devVar dest = some table)
    (hdue : table.dTimeoutTime ≤ c.dEventTime) (htimes : table.times ≤ aodvRreqRetries) :
    ¬ RetryAgrees base c dest s table := by
  rintro ⟨packet, -, -, ⟨table', htable', -, htime⟩, -⟩
  rcases retryRREQ_cases c dest s with ⟨hno, -⟩ | ⟨t, ht, -, ⟨hlt, -⟩ | ⟨-, hfind'⟩⟩
  · exact hno ⟨table, hfind, hdue⟩
  · rw [hfind, Option.some.injEq] at ht
    subst ht
    omega
  · rw [hfind, Option.some.injEq] at ht
    rw [hfind', Option.mem_some_iff] at htable'
    subst htable'
    exact getTimeoutTime_succ_ne (increaseTTL_le _ _) _ _ (add_left_cancel htime)

end Radius

/-! ## First requests and timeouts without a reply -/

inductive RingAction where
  | first (c : Curr)
  | timeout (c : Curr)

/-- The node after a first request, or after an `RREQ_TIMEOUT` event. -/
def RingAction.apply (dest : IPAddress) (s : Sim) : RingAction → Sim
  | .first c => generateRREQ c dest s
  | .timeout c => retryRREQ c dest s

def ringStep (dest : IPAddress) (s : Sim) (a : RingAction) : Option Sim := some (a.apply dest s)

/-- One entry of the sent table for each destination, and none beyond the net diameter. -/
structure SentWellFormed (dest : IPAddress) (s : Sim) : Prop where
  nodup : (s.devVar.rreqSentTable.map RREQSentTable.destAddress).Nodup
  ttl_le : ∀ table ∈ findSentTable s.devVar dest, table.ttl ≤ aodvNetDiameter

/-- In every step the recorded radius stays within the net diameter, and does not decrease. -/
def RadiusKept (dest : IPAddress) (tr : List (Sim × RingAction)) : Prop :=
  ∀ x ∈ tr, ∀ table' ∈ findSentTable (x.2.apply dest x.1).devVar dest,
    table'.ttl ≤ aodvNetDiameter ∧ ∀ table ∈ findSentTable x.1.devVar dest, table.ttl ≤ table'.ttl

/-- The condition on a step: a first request finds no entry that has reached the threshold. -/
def MeetsRing (dest : IPAddress) (s : Sim) : RingAction → Prop
  | .first _ => ∀ table ∈ findSentTable s.devVar dest, table.ttl < aodvTtlThreshold
  | .timeout _ => True

/-- The discovery is given up: its entry of the sent table and its FIFO list are removed. -/
structure Abandons (dest : IPAddress) (s s' : Sim) : Prop where
  sent : s'.devVar.rreqSentTable = eraseFirst RREQSentTable.destAddress dest s.devVar.rreqSentTable
  fifo : s'.devVar.fifo = eraseFirst FIFO.destination dest s.devVar.fifo

/-- A step of a run is a timeout that belongs to the entry it finds. -/
def isExpiry (dest : IPAddress) : Sim × RingAction → Bool
  | (_, .first _) => false
  | (s, .timeout c) => decide (Expires c dest s)

def RREQSentTable.timeoutsLeft (table : RREQSentTable) : ℕ :=
  (aodvTtlThreshold + 1 - table.ttl) / 2 + (aodvRreqRetries + 1 - table.times) + 1

section Steps

variable {dest : IPAddress} {s s' : Sim} {c : Curr} {a : RingAction} {table : RREQSentTable}

theorem nodup_generateRREQ (hs : (s.devVar.rreqSentTable.map RREQSentTable.destAddress).Nodup) :
    ((generateRREQ c dest s).devVar.rreqSentTable.map RREQSentTable.destAddress).Nodup :=
  nodup_sentAfter hs _ _ _

theorem nodup_retryRREQ (hs : (s.devVar.rreqSentTable.map RREQSentTable.destAddress).Nodup) :
    ((retryRREQ c dest s).devVar.rreqSentTable.map RREQSentTable.destAddress).Nodup := by
  unfold retryRREQ
  split
  · exact hs
  · split
    · exact hs
    · split
      · exact nodup_map_eraseFirst hs
      · exact nodup_sentAfter hs _ _ _

theorem findSentTable_retryRREQ (hs : SentWellFormed dest s) {table' : RREQSentTable}
    (hfind' : findSentTable (retryRREQ c dest s).devVar dest = some table') :
    findSentTable s.devVar dest = some table' ∨
      ∃ table, findSentTable s.devVar dest = some table ∧ table'.ttl = increaseTTL s.devVar dest := by
  rcases retryRREQ_cases c dest s with ⟨-, heq⟩ | ⟨table, hfind, -, ⟨-, heq⟩ | ⟨-, heq⟩⟩
  · rw [heq] at hfind'
    exact .inl hfind'
  · rw [heq] at hfind'
    have hnone : lookup RREQSentTable.destAddress dest
        (eraseFirst RREQSentTable.destAddress dest s.devVar.rreqSentTable) = none :=
      lookup_eraseFirst_self hs.nodup
    exact absurd (hfind'.symm.trans hnone) (Option.some_ne_none _)
  · rw [heq, Option.some.injEq] at hfind'
    subst hfind'
    exact .inr ⟨table, hfind, rfl⟩

theorem le_increaseTTL (hfind : findSentTable s.devVar dest = some table)
    (hle : table.ttl ≤ aodvNetDiameter) : table.ttl ≤ increaseTTL s.devVar dest := by
  rw [increaseTTL_eq hfind]
  split
  · exact hle
  · split <;> omega

theorem SentWellFormed.step (hs : SentWellFormed dest s) (hmeets : MeetsRing dest s a) :
    SentWellFormed dest (a.apply dest s) ∧
      ∀ table' ∈ findSentTable (a.apply dest s).devVar dest,
        ∀ table ∈ findSentTable s.devVar dest, table.ttl ≤ table'.ttl := by
  cases a with
  | first c =>
    have hlt : increaseTTL s.devVar dest + 1 ≤ aodvNetDiameter ∧
        ∀ table ∈ findSentTable s.devVar dest, table.ttl ≤ increaseTTL s.devVar dest + 1 := by
      cases hfind : findSentTable s.devVar dest with
      | none =>
        refine ⟨?_, nofun⟩
        unfold increaseTTL
        rw [hfind]
        decide
      | some table =>
        have hlt : table.ttl < 7 := hmeets table hfind
        have hinc := increaseTTL_eq hfind
        rw [if_neg (by omega)] at hinc
        refine ⟨?_, ?_⟩
        · rw [hinc, aodvNetDiameter]
          split <;> omega
        · rintro t ⟨⟩
          have := le_increaseTTL hfind (hs.ttl_le table hfind)
          omega
    refine ⟨⟨nodup_generateRREQ hs.nodup, ?_⟩, ?_⟩
    · intro table' htable'
      change findSentTable (generateRREQ c dest s).devVar dest = _ at htable'
      rw [findSentTable_generateRREQ, Option.some.injEq] at htable'
      subst htable'
      exact hlt.1
    · intro table' htable' table htable
      change findSentTable (generateRREQ c dest s).devVar dest = _ at htable'
      rw [findSentTable_generateRREQ, Option.some.injEq] at htable'
      subst htable'
      exact hlt.2 table htable
  | timeout c =>
    refine ⟨⟨nodup_retryRREQ hs.nodup, ?_⟩, ?_⟩
    · intro table' htable'
      rcases findSentTable_retryRREQ hs htable' with hfind | ⟨table, hfind, httl⟩
      · exact hs.ttl_le table' hfind
      · rw [httl]
        rcases increaseTTL_le s.devVar dest with hle | heq
        · exact hle.trans (by decide)
        · exact heq.le
    · intro table' htable' t ht
      rcases findSentTable_retryRREQ hs htable' with hfind | ⟨table, hfind, httl⟩
      · obtain rfl : t = table' := Option.some.inj (ht.symm.trans hfind)
        exact le_refl _
      · rw [httl]
        exact le_increaseTTL ht (hs.ttl_le t ht)

theorem meetsRing_of_ttl_le
    (h : ∀ table' ∈ findSentTable (a.apply dest s).devVar dest, table'.ttl ≤ aodvNetDiameter) :
    MeetsRing dest s a := by
  cases a with
  | timeout c => trivial
  | first c =>
    intro table htable
    by_contra hge
    have hle := h _ findSentTable_generateRREQ
    change increaseTTL s.devVar dest + 1 ≤ 35 at hle
    rw [increaseTTL_eq htable, if_pos (show 7 ≤ table.ttl from not_lt.1 hge)] at hle
    omega

theorem timeoutsLeft_generateRREQ (hfind : findSentTable s.devVar dest = some table) :
    ∃ table' ∈ findSentTable (generateRREQ c dest s).devVar dest,
      table'.timeoutsLeft ≤ table.timeoutsLeft := by
  refine ⟨_, findSentTable_generateRREQ, ?_⟩
  rw [hfind, Option.getD_some]
  have hinc := increaseTTL_eq hfind
  unfold RREQSentTable.timeoutsLeft RREQSentTable.assign aodvTtlThreshold aodvRreqRetries aodvNetDiameter
  dsimp only
  split at hinc
  · split <;> omega
  · split at hinc
    · split <;> omega
    · split <;> omega

theorem timeoutsLeft_retryRREQ (hfind : findSentTable s.devVar dest = some table)
    (hdue : table.dTimeoutTime ≤ c.dEventTime) :
    Abandons dest s (retryRREQ c dest s) ∨
      ∃ table' ∈ findSentTable (retryRREQ c dest s).devVar dest,
        table'.timeoutsLeft + 1 ≤ table.timeoutsLeft := by
  rcases retryRREQ_cases c dest s with ⟨hno, -⟩ | ⟨t, ht, -, ⟨-, heq⟩ | ⟨htimes, heq⟩⟩
  · exact absurd ⟨table, hfind, hdue⟩ hno
  · rw [heq]
    exact .inl ⟨rfl, rfl⟩
  · rw [hfind, Option.some.injEq] at ht
    subst ht
    refine .inr ⟨_, heq, ?_⟩
    have hinc := increaseTTL_eq hfind
    have htimes : table.times ≤ 2 := htimes
    unfold RREQSentTable.timeoutsLeft RREQSentTable.assign aodvTtlThreshold aodvRreqRetries
      aodvNetDiameter
    dsimp only
    split at hinc
    · rw [hinc, if_pos rfl]
      omega
    · split at hinc
      · rw [hinc, if_neg (by decide)]
        omega
      · rw [hinc, if_neg (by omega)]
        omega

end Steps

/-! ## Runs -/

section Runs

variable {dest : IPAddress} {s₀ s : Sim} {tr : List (Sim × RingAction)} {table : RREQSentTable}

theorem sentWellFormed_run (hs0 : SentWellFormed dest s₀) (run : Run (ringStep dest) s₀ tr s)
    (hmeets : ∀ x ∈ tr, MeetsRing dest x.1 x.2) : SentWellFormed dest s ∧ RadiusKept dest tr := by
  refine run.induction (P := fun tr s => SentWellFormed dest s ∧ RadiusKept dest tr)
    (Q := MeetsRing dest) ⟨hs0, nofun⟩ ?_ hmeets
  rintro tr s a s' - ⟨hs, hkept⟩ hmeets hstep
  obtain rfl := Option.some.inj hstep
  obtain ⟨hs', hle⟩ := hs.step hmeets
  refine ⟨hs', ?_⟩
  intro x hx
  rcases List.mem_cons.1 hx with rfl | hx
  · exact fun table' htable' => ⟨hs'.ttl_le table' htable', hle table' htable'⟩
  · exact hkept x hx

theorem expiries_le (hfind : findSentTable s₀.devVar dest = some table)
    (run : Run (ringStep dest) s₀ tr s) :
    (∃ x ∈ tr, Abandons dest x.1 (x.2.apply dest x.1)) ∨
      ∃ table' ∈ findSentTable s.devVar dest,
        (tr.filter (isExpiry dest)).length + table'.timeoutsLeft ≤ table.timeoutsLeft := by
  induction run with
  | nil => exact .inr ⟨table, hfind, by simp⟩
  | @snoc tr s s' a _ hstep ih =>
    obtain rfl := Option.some.inj hstep
    rcases ih with ⟨x, hx, habandons⟩ | ⟨table', htable', hle⟩
    · exact .inl ⟨x, List.mem_cons_of_mem _ hx, habandons⟩
    · cases a with
      | first c =>
        obtain ⟨table2, htable2, hle2⟩ := timeoutsLeft_generateRREQ (c := c) htable'
        refine .inr ⟨table2, htable2, ?_⟩
        rw [List.filter_cons_of_neg (by simp [isExpiry])]
        omega
      | timeout c =>
        by_cases hdue : Expires c dest s
        · obtain ⟨t, ht, hdue'⟩ := hdue
          obtain rfl : t = table' := Option.some.inj (ht.symm.trans htable')
          rcases timeoutsLeft_retryRREQ ht hdue' with habandons | ⟨table2, htable2, hle2⟩
          · exact .inl ⟨_, List.mem_cons_self, habandons⟩
          · refine .inr ⟨table2, htable2, ?_⟩
            rw [List.filter_cons_of_pos (by simpa [isExpiry] using ⟨t, ht, hdue'⟩), List.length_cons]
            omega
        · refine .inr ⟨table', ?_, ?_⟩
          · rcases retryRREQ_cases c dest s with ⟨-, heq⟩ | ⟨t, ht, hdue', -⟩
            · change findSentTable (retryRREQ c dest s).devVar dest = _
              rw [heq]
              exact htable'
            · exact absurd ⟨t, ht, hdue'⟩ hdue
          · rw [List.filter_cons_of_neg (by simpa [isExpiry] using hdue)]
            exact hle

/-- Neither function uses one radius throughout, in whatever state it runs. The recorded radius
stays bounded in the runs in which no first request finds an entry at the threshold, and in no
others; and a discovery is given up when it has used up its timeouts. -/
theorem expandingRing (dest : IPAddress) :
    (∀ base c s, ¬ GenerateAgrees base c dest s) ∧
    (∀ base c s, ∀ table ∈ findSentTable s.devVar dest, table.dTimeoutTime ≤ c.dEventTime →
      table.times ≤ aodvRreqRetries → ¬ RetryAgrees base c dest s table) ∧
    (∀ s₀ tr s, SentWellFormed dest s₀ → Run (ringStep dest) s₀ tr s →
      (RadiusKept dest tr ↔ ∀ x ∈ tr, MeetsRing dest x.1 x.2)) ∧
    ∀ s₀ tr s, ∀ table ∈ findSentTable s₀.devVar dest, Run (ringStep dest) s₀ tr s →
      table.timeoutsLeft ≤ (tr.filter (isExpiry dest)).length →
      ∃ x ∈ tr, Abandons dest x.1 (x.2.apply dest x.1) := by
  refine ⟨fun base c s => not_generateAgrees base, ?_, ?_, ?_⟩
  · exact fun base c s table hfind hdue htimes => not_retryAgrees base hfind hdue htimes
  · intro s₀ tr s hs₀ run
    constructor
    · exact fun hkept x hx => meetsRing_of_ttl_le fun table' htable' => (hkept x hx table' htable').1
    · exact fun hmeets => (sentWellFormed_run hs₀ run hmeets).2
  · intro s₀ tr s table hfind run hcount
    rcases expiries_le hfind run with habandons | ⟨table', -, hle⟩
    · exact habandons
    · have hpos : 1 ≤ table'.timeoutsLeft := Nat.le_add_left 1 _
      omega

/-- An entry with all retries made has one timeout left, at which the discovery is given up. -/
theorem expandingRing_last :
    ∃ x ∈ [((⟨{ DeviceVar.init with rreqSentTable := [⟨9, 35, 3, 0⟩] }, 0, [], none, 0⟩ : Sim),
        RingAction.timeout ⟨1, 0⟩)], Abandons 9 x.1 (x.2.apply 9 x.1) :=
  (expandingRing 9).2.2.2 _ _ _ ⟨9, 35, 3, 0⟩ rfl (Run.nil.snoc rfl) (by decide +kernel)

/-- The first request of all records radius 2 for a packet of radius 1. -/
theorem not_expandingRing :
    ¬ GenerateAgrees 1 ⟨1, 0⟩ 9 ⟨.init, 0, [], none, 0⟩ ∧
      ¬ RetryAgrees 1 ⟨1, 0⟩ 9 ⟨{ DeviceVar.init with rreqSentTable := [⟨9, 2, 1, 0⟩] }, 0, [], none, 0⟩
        ⟨9, 2, 1, 0⟩ :=
  ⟨not_generateAgrees 1, not_retryAgrees 1 rfl le_rfl (by decide)⟩

end Runs

end NetSim.Aodv
