import NetSim.Lib.GreedyCover
import NetSim.Zrp.Hello

/-!
# The choice of multipoint relays (`OLSR.c`)

The heuristic of RFC 3626, without the neighbours with `WILL_ALWAYS`, with neighbours of any status,
and with an `N2` that may have the node itself.
-/

namespace NetSim.Zrp

open NetSim.Lib

variable {Addr : Type} [DecidableEq Addr] {now : ℚ} {olsr : NodeOlsr Addr}
  {N2 : List (TwoHopTuple Addr)} {mpr : List Addr}

/-- The MPR set that `fn_NetSim_OLSR_PopulateMPRSet` ends with. -/
def computedMprSet (now : ℚ) (olsr : NodeOlsr Addr) : Option (List Addr) :=
  (olsrFill2HopNeighbor now olsr).map fun N2 =>
    let N := olsrFillNeighbor olsr
    let only := onlyMprs N N2.length N2 []
    moreMprs N only.1.length only.1 only.2

theorem populateMPRSet_marks (now : ℚ) (olsr : NodeOlsr Addr) :
    (populateMPRSet now olsr).map NodeOlsr.neighborSet =
      (computedMprSet now olsr).map fun mpr => olsrMarkMPR mpr olsr.neighborSet := by
  rw [populateMPRSet, computedMprSet, Option.map_map, Option.map_map]
  rfl

/-! ## What an MPR set is -/

def Willingness.rank : Willingness → ℕ
  | .never => 0
  | .low => 1
  | .default => 2
  | .high => 3
  | .always => 4

section

variable (olsr : NodeOlsr Addr)

def symmetric (a : Addr) : Bool :=
  (olsrFindNeighborSet olsr.neighborSet a).any fun n => n.nStatus ≠ .notNeigh

/-- The willingness of a neighbour, that of a stranger being `WILL_NEVER`. -/
def willingnessOf (a : Addr) : Willingness :=
  ((olsrFindNeighborSet olsr.neighborSet a).map NeighborTuple.nWillingness).getD .never

def strictTuples : List (TwoHopTuple Addr) :=
  olsr.twoHopNeighborSet.filter fun t =>
    symmetric olsr t.nNeighborMainAddr && willingnessOf olsr t.nNeighborMainAddr ≠ .never &&
      t.n2hopAddr ≠ olsr.mainAddress && !symmetric olsr t.n2hopAddr

def NoBetter (l : List (TwoHopTuple Addr)) (y y' : Addr) : Prop :=
  let degree y := l.countP fun t => t.nNeighborMainAddr = y
  (willingnessOf olsr y).rank < (willingnessOf olsr y').rank ∨
    (willingnessOf olsr y).rank = (willingnessOf olsr y').rank ∧ degree y ≤ degree y'
deriving Decidable

/-- The addresses that the relays in front of a relay reach do not count for the choice. -/
structure MprRight (mpr : List Addr) : Prop where
  neighbours : ∀ y ∈ mpr, symmetric olsr y = true ∧ willingnessOf olsr y ≠ .never
  once : mpr.Nodup
  always : ∀ y, symmetric olsr y = true → willingnessOf olsr y = .always → y ∈ mpr
  covers : ∀ t ∈ strictTuples olsr,
    ∃ t' ∈ strictTuples olsr, t'.nNeighborMainAddr ∈ mpr ∧ t'.n2hopAddr = t.n2hopAddr
  alone : ∀ t ∈ strictTuples olsr, (∀ t' ∈ strictTuples olsr, t'.n2hopAddr = t.n2hopAddr →
    t'.nNeighborMainAddr = t.nNeighborMainAddr) → t.nNeighborMainAddr ∈ mpr
  best : ∀ pre y post, mpr = pre ++ y :: post → willingnessOf olsr y ≠ .always →
    ∃ t ∈ uncovered TwoHopTuple.nNeighborMainAddr TwoHopTuple.n2hopAddr (strictTuples olsr) pre,
      t.nNeighborMainAddr = y ∧ ∀ t' ∈ strictTuples olsr, t'.n2hopAddr = t.n2hopAddr →
        NoBetter olsr (strictTuples olsr) t'.nNeighborMainAddr y

def AloneFor (y : Addr) : Prop :=
  ∃ t ∈ strictTuples olsr, t.nNeighborMainAddr = y ∧
    (strictTuples olsr).countP (fun t' => t'.n2hopAddr = t.n2hopAddr) = 1
deriving Decidable

/-- What is excluded from `N2` is what is not strict; `WILL_ALWAYS` is needed anyway; and the first
tuple of an address is of the best neighbour, unless a needed one covers it. -/
structure MprSafe (now : ℚ) : Prop where
  strict : ∀ t ∈ olsr.twoHopNeighborSet, willingnessOf olsr t.nNeighborMainAddr ≠ .never →
    (t ∈ strictTuples olsr ↔ olsrFindNeighborSet olsr.neighborSet t.n2hopAddr = none ∧
      ((olsrFindLinkSet olsr.linkSet t.n2hopAddr).any fun l => l.lSymTime ≥ now) = false)
  always : ∀ n ∈ olsr.neighborSet, symmetric olsr n.nNeighborMainAddr = true →
    willingnessOf olsr n.nNeighborMainAddr = .always → AloneFor olsr n.nNeighborMainAddr
  first : ∀ t ∈ strictTuples olsr,
    (strictTuples olsr).find? (fun t' => t'.n2hopAddr = t.n2hopAddr) = some t →
    (∀ t' ∈ strictTuples olsr, t'.n2hopAddr = t.n2hopAddr →
      ¬AloneFor olsr t'.nNeighborMainAddr) →
    ∀ t' ∈ strictTuples olsr, t'.n2hopAddr = t.n2hopAddr →
      NoBetter olsr (strictTuples olsr) t'.nNeighborMainAddr t.nNeighborMainAddr

/-- The two-hop tuples are of neighbours. -/
def Anchors : Prop :=
  ∀ t ∈ olsr.twoHopNeighborSet,
    (olsrFindNeighborSet olsr.neighborSet t.nNeighborMainAddr).isSome

end

theorem find_olsrFillNeighbor {y : Addr} (h : willingnessOf olsr y ≠ .never) :
    ∃ n, olsrFindNeighborSet (olsrFillNeighbor olsr) y = some n ∧ n.nNeighborMainAddr = y := by
  obtain ⟨n, hn⟩ : ∃ n, olsrFindNeighborSet olsr.neighborSet y = some n := by
    refine Option.isSome_iff_exists.1 ?_
    by_contra hnone
    rw [Option.not_isSome_iff_eq_none] at hnone
    exact h (by rw [willingnessOf, hnone]; rfl)
  have hmem : n ∈ olsrFillNeighbor olsr := by
    rw [willingnessOf, hn] at h
    exact List.mem_filter.2 ⟨(lookup_some hn).1, decide_eq_true h⟩
  cases hfind : olsrFindNeighborSet (olsrFillNeighbor olsr) y with
  | some n' => exact ⟨n', rfl, (lookup_some hfind).2⟩
  | none => exact absurd (lookup_some hn).2 (lookup_eq_none.1 hfind n hmem)

theorem olsrFill2HopNeighbor_eq (hanchored : Anchors olsr) (hsafe : MprSafe olsr now) :
    olsrFill2HopNeighbor now olsr = some (strictTuples olsr) := by
  have hloop : ∀ l acc : List (TwoHopTuple Addr), l ⊆ olsr.twoHopNeighborSet →
      l.foldlM (fill2HopTuple now olsr) acc =
        some (acc ++ l.filter fun t => t ∈ strictTuples olsr) := by
    intro l
    induction l with
    | nil => simp
    | cons t l ih =>
      intro acc hl
      have ht := hl List.mem_cons_self
      obtain ⟨n, hn⟩ := Option.isSome_iff_exists.1 (hanchored t ht)
      have hwilling : willingnessOf olsr t.nNeighborMainAddr = n.nWillingness := by
        rw [willingnessOf, hn]
        rfl
      have hstep : fill2HopTuple now olsr acc t =
          some (acc ++ [t].filter fun t => t ∈ strictTuples olsr) := by
        unfold fill2HopTuple
        rw [hn]
        dsimp only
        by_cases hnever : n.nWillingness = .never
        · have hnot : t ∉ strictTuples olsr := by
            simp [strictTuples, hwilling, hnever]
          rw [if_pos hnever, List.filter_cons_of_neg (by simpa using hnot), List.filter_nil,
            List.append_nil]
        · have hiff := hsafe.strict t ht (hwilling ▸ hnever)
          rw [if_neg hnever]
          by_cases hin : t ∈ strictTuples olsr
          · obtain ⟨hnone, hlink⟩ := hiff.1 hin
            rw [hnone, if_neg (by simp), if_neg (Bool.eq_false_iff.1 hlink),
              List.filter_cons_of_pos (by simpa using hin), List.filter_nil]
          · rw [List.filter_cons_of_neg (by simpa using hin), List.filter_nil, List.append_nil]
            by_cases hnone : olsrFindNeighborSet olsr.neighborSet t.n2hopAddr = none
            · rw [hnone, if_neg (by simp), if_pos]
              by_contra hlink
              exact hin (hiff.2 ⟨hnone, Bool.eq_false_iff.2 hlink⟩)
            · rw [if_pos (Option.isSome_iff_ne_none.2 hnone)]
      rw [List.foldlM_cons, hstep, Option.bind_eq_bind, Option.bind_some,
        ih _ fun x hx => hl (List.mem_cons_of_mem _ hx), List.append_assoc, ← List.filter_append,
        List.singleton_append]
  rw [olsrFill2HopNeighbor, hloop _ _ (List.Subset.refl _), List.nil_append]
  congr 1
  conv_rhs => rw [strictTuples]
  refine List.filter_congr fun t ht => ?_
  simp [strictTuples, ht]

/-! ## The loops -/

/-- The list `N2` of the source, after the relays `mpr` have been chosen. -/
abbrev left (N2 : List (TwoHopTuple Addr)) (mpr : List Addr) : List (TwoHopTuple Addr) :=
  uncovered TwoHopTuple.nNeighborMainAddr TwoHopTuple.n2hopAddr N2 mpr

theorem flush2HopSetBasedonMPR_eq (N2 : List (TwoHopTuple Addr)) (mpr : List Addr) :
    flush2HopSetBasedonMPR N2 mpr = left N2 mpr := by
  unfold flush2HopSetBasedonMPR
  induction mpr generalizing N2 with
  | nil => simp
  | cons j mpr ih =>
    have hone : (N2.filter fun t =>
        ¬∃ i ∈ N2, i.nNeighborMainAddr = j ∧ i.n2hopAddr = t.n2hopAddr) = left N2 [j] := by
      simp [left, uncovered]
    rw [List.foldl_cons, ih, hone, left, left, uncovered_uncovered, List.singleton_append]

theorem turn_eq (hN2 : ∀ t ∈ N2, willingnessOf olsr t.nNeighborMainAddr ≠ .never)
    {i : TwoHopTuple Addr} (hi : i ∈ left N2 mpr) :
    olsrAddtoMPRSet mpr (olsrFillNeighbor olsr) i = mpr ++ [i.nNeighborMainAddr] ∧
      flush2HopSetBasedonMPR (left N2 mpr) (mpr ++ [i.nNeighborMainAddr]) =
        left N2 (mpr ++ [i.nNeighborMainAddr]) := by
  obtain ⟨n, hn, haddr⟩ := find_olsrFillNeighbor (hN2 i (mem_uncovered.1 hi).1)
  refine ⟨?_, ?_⟩
  · rw [olsrAddtoMPRSet, hn]
    exact congrArg (fun a => mpr ++ [a]) haddr
  · rw [flush2HopSetBasedonMPR_eq, left, left, uncovered_uncovered]
    exact uncovered_congr fun a => by simp

variable {P : List Addr → TwoHopTuple Addr → Prop}

abbrev Chosen (N2 : List (TwoHopTuple Addr)) (P : List Addr → TwoHopTuple Addr → Prop)
    (mpr : List Addr) : Prop :=
  Greedy TwoHopTuple.nNeighborMainAddr TwoHopTuple.n2hopAddr N2 P mpr

theorem onlyMprs_spec (hN2 : ∀ t ∈ N2, willingnessOf olsr t.nNeighborMainAddr ≠ .never)
    (hP : ∀ mpr, ∀ i ∈ left N2 mpr,
      (left N2 mpr).countP (fun j => j.n2hopAddr = i.n2hopAddr) = 1 → P mpr i)
    (fuel : ℕ) (mpr : List Addr) (hfuel : (left N2 mpr).length ≤ fuel) (h : Chosen N2 P mpr) :
    ∃ mpr', onlyMprs (olsrFillNeighbor olsr) fuel (left N2 mpr) mpr = (left N2 mpr', mpr') ∧
      Chosen N2 P mpr' ∧ ∀ i ∈ left N2 mpr',
        (left N2 mpr').countP (fun j => j.n2hopAddr = i.n2hopAddr) ≠ 1 := by
  induction fuel generalizing mpr with
  | zero =>
    have hnil : left N2 mpr = [] := List.eq_nil_of_length_eq_zero (Nat.le_zero.1 hfuel)
    exact ⟨mpr, rfl, h, by rw [hnil]; exact nofun⟩
  | succ fuel ih =>
    unfold onlyMprs
    cases hfind : (left N2 mpr).find? fun i =>
        (left N2 mpr).countP (fun j => j.n2hopAddr = i.n2hopAddr) = 1 with
    | none =>
      refine ⟨mpr, rfl, h, fun i hi => ?_⟩
      simpa using List.find?_eq_none.1 hfind i hi
    | some i =>
      have hi := List.mem_of_find?_eq_some hfind
      have hone : (left N2 mpr).countP (fun j => j.n2hopAddr = i.n2hopAddr) = 1 := by
        simpa using List.find?_some hfind
      obtain ⟨hadd, hflush⟩ := turn_eq hN2 hi
      dsimp only
      rw [hadd, hflush]
      have hlt : (left N2 (mpr ++ [i.nNeighborMainAddr])).length < (left N2 mpr).length :=
        length_uncovered_lt hi
      exact ih _ (by omega) (h.snoc hi (hP mpr i hi hone))

theorem moreMprs_spec (hN2 : ∀ t ∈ N2, willingnessOf olsr t.nNeighborMainAddr ≠ .never)
    {only : List Addr} (hP : ∀ mpr i rest, only ⊆ mpr → left N2 mpr = i :: rest → P mpr i)
    (fuel : ℕ) (mpr : List Addr) (hfuel : (left N2 mpr).length ≤ fuel) (honly : only ⊆ mpr)
    (h : Chosen N2 P mpr) :
    Chosen N2 P (moreMprs (olsrFillNeighbor olsr) fuel (left N2 mpr) mpr) ∧
      only ⊆ moreMprs (olsrFillNeighbor olsr) fuel (left N2 mpr) mpr ∧
      left N2 (moreMprs (olsrFillNeighbor olsr) fuel (left N2 mpr) mpr) = [] := by
  induction fuel generalizing mpr with
  | zero => exact ⟨h, honly, List.eq_nil_of_length_eq_zero (Nat.le_zero.1 hfuel)⟩
  | succ fuel ih =>
    cases hleft : left N2 mpr with
    | nil => exact ⟨h, honly, hleft⟩
    | cons i rest =>
      have hi : i ∈ left N2 mpr := hleft ▸ List.mem_cons_self
      obtain ⟨hadd, hflush⟩ := turn_eq hN2 hi
      rw [moreMprs, hadd, ← hleft, hflush]
      have hlt : (left N2 (mpr ++ [i.nNeighborMainAddr])).length < (left N2 mpr).length :=
        length_uncovered_lt hi
      exact ih _ (by omega) (fun a ha => List.mem_append_left _ (honly ha))
        (h.snoc hi (hP mpr i rest honly hleft))

/-! ## The result -/

theorem eq_of_countP_eq_one {l : List (TwoHopTuple Addr)} {a : Addr} {i j : TwoHopTuple Addr}
    (h : l.countP (fun t => t.n2hopAddr = a) = 1) (hi : i ∈ l) (hj : j ∈ l)
    (hia : i.n2hopAddr = a) (hja : j.n2hopAddr = a) : i = j := by
  rw [List.countP_eq_length_filter, List.length_eq_one_iff] at h
  obtain ⟨x, hx⟩ := h
  have hmem : ∀ t ∈ l, t.n2hopAddr = a → t = x := fun t ht hta =>
    List.mem_singleton.1 (hx ▸ List.mem_filter.2 ⟨ht, decide_eq_true hta⟩)
  rw [hmem i hi hia, hmem j hj hja]

theorem countP_left {N2 : List (TwoHopTuple Addr)} {i : TwoHopTuple Addr} (hi : i ∈ left N2 mpr) :
    (left N2 mpr).countP (fun j => j.n2hopAddr = i.n2hopAddr) =
      N2.countP fun j => j.n2hopAddr = i.n2hopAddr := by
  rw [left, uncovered, List.countP_filter]
  refine List.countP_congr fun j hj => ?_
  simp only [Bool.and_eq_true, decide_eq_true_eq, and_iff_left_iff_imp]
  intro hsame
  exact of_decide_eq_true (List.mem_filter.1 (mem_uncovered_of_target hi hj hsame)).2

def IsBestFor (olsr : NodeOlsr Addr) (t : TwoHopTuple Addr) : Prop :=
  ∀ t' ∈ strictTuples olsr, t'.n2hopAddr = t.n2hopAddr →
    NoBetter olsr (strictTuples olsr) t'.nNeighborMainAddr t.nNeighborMainAddr

theorem mem_strictTuples {t : TwoHopTuple Addr} (ht : t ∈ strictTuples olsr) :
    symmetric olsr t.nNeighborMainAddr = true ∧ willingnessOf olsr t.nNeighborMainAddr ≠ .never := by
  have hp := (List.mem_filter.1 ht).2
  simp only [Bool.and_eq_true, decide_eq_true_eq] at hp
  exact hp.1.1

theorem exists_computedMprSet (hanchored : Anchors olsr) (hsafe : MprSafe olsr now) :
    ∃ mpr, computedMprSet now olsr = some mpr ∧
      Chosen (strictTuples olsr) (fun _ t => IsBestFor olsr t) mpr ∧
      (∀ y, AloneFor olsr y → y ∈ mpr) ∧ left (strictTuples olsr) mpr = [] := by
  have hwilling : ∀ t ∈ strictTuples olsr, willingnessOf olsr t.nNeighborMainAddr ≠ .never :=
    fun t ht => (mem_strictTuples ht).2
  obtain ⟨only, honly, hchosen, hnone⟩ :=
    onlyMprs_spec (P := fun _ t => IsBestFor olsr t) hwilling
      (by
        intro mpr i hi hone t ht hsame
        rw [countP_left hi] at hone
        rw [eq_of_countP_eq_one hone ht (mem_uncovered.1 hi).1 hsame rfl]
        exact .inr ⟨rfl, Nat.le_refl _⟩)
      (strictTuples olsr).length [] (by rw [left, uncovered_nil]) .nil
  rw [left, uncovered_nil] at honly
  -- After the first loop, the neighbours that are alone for an address are relays.
  have halone : ∀ y, AloneFor olsr y → y ∈ only := by
    rintro y ⟨t, ht, rfl, hone⟩
    by_contra hnot
    have hleft : t ∈ left (strictTuples olsr) only := by
      refine mem_uncovered.2 ⟨ht, fun i hi hsame => ?_⟩
      rw [eq_of_countP_eq_one hone hi ht hsame rfl]
      exact hnot
    exact hnone t hleft ((countP_left hleft).trans hone)
  obtain ⟨hgreedy, hsub, hnil⟩ :=
    moreMprs_spec (P := fun _ t => IsBestFor olsr t) hwilling
      (by
        intro mpr i rest hsub hleft
        have hi : i ∈ left (strictTuples olsr) mpr := hleft ▸ List.mem_cons_self
        refine hsafe.first i (mem_uncovered.1 hi).1 (find?_of_uncovered_cons hleft) ?_
        intro t ht hsame hneeded
        exact (mem_uncovered.1 hi).2 t ht hsame (hsub (halone _ hneeded)))
      _ only (Nat.le_refl _) (List.Subset.refl _) hchosen
  refine ⟨_, ?_, hgreedy, fun y hy => hsub (halone y hy), hnil⟩
  rw [computedMprSet, olsrFill2HopNeighbor_eq hanchored hsafe, Option.map_some]
  dsimp only
  rw [honly]

theorem computedMprSet_right (hanchored : Anchors olsr) (hsafe : MprSafe olsr now) :
    ∃ mpr, computedMprSet now olsr = some mpr ∧ MprRight olsr mpr := by
  obtain ⟨mpr, hmpr, hgreedy, halone, hnil⟩ := exists_computedMprSet hanchored hsafe
  have hcovers : ∀ t ∈ strictTuples olsr,
      ∃ t' ∈ strictTuples olsr, t'.nNeighborMainAddr ∈ mpr ∧ t'.n2hopAddr = t.n2hopAddr := by
    intro t ht
    by_contra hno
    have hin : t ∈ left (strictTuples olsr) mpr :=
      mem_uncovered.2 ⟨ht, fun i hi hsame hmem => hno ⟨i, hi, hmem, hsame⟩⟩
    rw [hnil] at hin
    cases hin
  refine ⟨mpr, hmpr, ?_, hgreedy.nodup, ?_, hcovers, ?_, ?_⟩
  · intro y hy
    obtain ⟨t, ht, rfl⟩ := hgreedy.mem y hy
    exact mem_strictTuples ht
  · intro y hsym halways
    obtain ⟨n, hn⟩ : ∃ n, olsrFindNeighborSet olsr.neighborSet y = some n := by
      unfold symmetric at hsym
      cases hfind : olsrFindNeighborSet olsr.neighborSet y with
      | none =>
        rw [hfind] at hsym
        cases hsym
      | some n => exact ⟨n, rfl⟩
    obtain ⟨hmem, rfl⟩ := lookup_some hn
    exact halone _ (hsafe.always n hmem hsym halways)
  · intro t ht hsole
    obtain ⟨t', ht', hmem, hsame⟩ := hcovers t ht
    exact hsole t' ht' hsame ▸ hmem
  · intro pre y post hsplit _
    obtain ⟨t, ht, rfl, hbest⟩ := hgreedy.chosen_for hsplit
    exact ⟨t, ht, rfl, hbest⟩

/-- Two neighbours lead to address 9, and the better one comes first. -/
def exampleOlsr (second : Willingness) : NodeOlsr ℕ where
  mainAddress := 0
  nZoneRadius := 2
  linkSet := []
  neighborSet := [⟨1, .symNeigh, .high⟩, ⟨2, .symNeigh, second⟩]
  twoHopNeighborSet := [⟨1, 9, 1⟩, ⟨2, 9, 1⟩]
  mprSelectionSet := []
  topologyInfoBase := []
  duplicateSet := []
  nMessageSequenceNumber := 0
  ansn := 0
  bRoutingTableUpdate := false
  bTCUpdateFlag := false

theorem computedMprSet_right_two :
    ∃ mpr, computedMprSet 0 (exampleOlsr .default) = some mpr ∧
      MprRight (exampleOlsr .default) mpr :=
  computedMprSet_right (by unfold Anchors; decide +kernel)
    { strict := by decide +kernel
      always := by decide +kernel
      first := by decide +kernel }

/-- The second neighbour has `WILL_ALWAYS`; the first one alone becomes a relay. -/
theorem not_computedMprSet_right :
    ¬∀ (now : ℚ) (olsr : NodeOlsr ℕ), Anchors olsr →
      ∃ mpr, computedMprSet now olsr = some mpr ∧ MprRight olsr mpr := by
  intro hlaw
  obtain ⟨mpr, hmpr, hright⟩ := hlaw 0 (exampleOlsr .always) (by unfold Anchors; decide +kernel)
  have hone : computedMprSet 0 (exampleOlsr .always) = some [1] := by decide +kernel
  obtain rfl : [1] = mpr := Option.some.inj (hone.symm.trans hmpr)
  have hnot := hright.always 2 (by decide +kernel) (by decide +kernel)
  exact absurd hnot (by decide)

end NetSim.Zrp
