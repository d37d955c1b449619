import NetSim.Lib.Run
import NetSim.Zrp.Hello

/-!
# The neighbourhood of an OLSR node

A node hears HELLOs and its link tuples expire, in any order. The five sets mirror the HELLOs heard
in every run whose steps meet `Meets`.
-/

namespace NetSim.Zrp

open NetSim.Lib Function

variable {Addr : Type}

structure LastHello (Addr : Type) where
  valid : ℚ
  hello : HelloMessage Addr

structure SaidLink where
  valid : ℚ
  linkType : LinkType

structure NeighborhoodState (Addr : Type) where
  olsr : NodeOlsr Addr
  timers : List (LinkTimer Addr)
  now : ℚ
  last : Addr → Option (LastHello Addr)
  said : Addr → Option SaidLink
  failed : Bool

inductive NeighborhoodAction (Addr : Type)
  | hello (hello : HelloMessage Addr) (time : ℚ)
  /-- The `n`-th expiry event comes. -/
  | expire (n : ℕ)
  | wait (time : ℚ)

def MarksMpr (main : Addr) (link : List (HelloLink Addr)) : Prop :=
  ∃ i ∈ link, i.neighborInterfaceAddress = main ∧ i.neighTypes = .mprNeigh

namespace NeighborhoodState

variable [DecidableEq Addr]

def start (mainAddress : Addr) (nZoneRadius : ℕ) : NeighborhoodState Addr :=
  { olsr :=
      { mainAddress
        nZoneRadius
        linkSet := []
        neighborSet := []
        twoHopNeighborSet := []
        mprSelectionSet := []
        topologyInfoBase := []
        duplicateSet := []
        nMessageSequenceNumber := 0
        ansn := 0
        bRoutingTableUpdate := false
        bTCUpdateFlag := false }
    timers := []
    now := 0
    last := fun _ => none
    said := fun _ => none
    failed := false }

/-- No expiry comes before `time`. -/
def Due (s : NeighborhoodState Addr) (time : ℚ) : Prop := ∀ x ∈ s.timers, time ≤ x.dEventTime

instance (s : NeighborhoodState Addr) (time : ℚ) : Decidable (s.Due time) :=
  inferInstanceAs (Decidable (∀ x ∈ s.timers, _))

def sayLink (s : NeighborhoodState Addr) (hello : HelloMessage Addr) (valid : ℚ) : Addr → Option SaidLink :=
  match hello.linkTo s.olsr.mainAddress with
  | none | some .unspecLink => s.said
  | some linkType => update s.said hello.originatorAddress (some { valid, linkType })

def step (convertMEToDouble : ℕ → ℚ) (s : NeighborhoodState Addr) :
    NeighborhoodAction Addr → Option (NeighborhoodState Addr)
  | .hello hello time =>
    if s.now ≤ time ∧ s.Due time then
      match receiveHello convertMEToDouble time hello s.olsr with
      | none => some { s with now := time, failed := true }
      | some (olsr, new) =>
        let valid := time + convertMEToDouble hello.vtime * second
        some
          { s with
            olsr
            timers := s.timers ++ new
            now := time
            last := update s.last hello.originatorAddress (some { valid, hello })
            said := s.sayLink hello valid }
    else none
  | .expire n =>
    match s.timers[n]? with
    | none => none
    | some x =>
      if s.Due x.dEventTime then
        match linkTupleExpire x s.olsr with
        | none => some { s with now := max s.now x.dEventTime, failed := true }
        | some (olsr, new) =>
          let forget := (olsrFindLinkSet olsr.linkSet x.lNeighborIfaceAddr).isNone
          some
            { s with
              olsr
              timers := s.timers.eraseIdx n ++ new
              now := max s.now x.dEventTime
              last := if forget then update s.last x.lNeighborIfaceAddr none else s.last
              said := if forget then update s.said x.lNeighborIfaceAddr none else s.said }
      else none
  | .wait time => if s.now ≤ time ∧ s.Due time then some { s with now := time } else none

/-- A link has one neighbour and one expiry event, and no tuple is left of a neighbour that is gone.
-/
structure Sound (s : NeighborhoodState Addr) : Prop where
  running : s.failed = false
  kept : Kept s.olsr
  timers : (s.timers.map LinkTimer.lNeighborIfaceAddr).Perm
    (s.olsr.linkSet.map LinkTuple.lNeighborIfaceAddr)

/-- The sets are what the last HELLOs say. -/
structure Mirrors (s : NeighborhoodState Addr) : Prop where
  live : ∀ l ∈ s.olsr.linkSet, s.now ≤ l.lTime
  status : ∀ l ∈ s.olsr.linkSet, ∀ n ∈ s.olsr.neighborSet, n.nNeighborMainAddr = l.lNeighborIfaceAddr →
    (n.nStatus ≠ .notNeigh ↔ s.now ≤ l.lSymTime)
  said : ∀ l ∈ s.olsr.linkSet,
    s.now ≤ l.lSymTime ↔ ∃ x ∈ s.said l.lNeighborIfaceAddr, s.now ≤ x.valid ∧ x.linkType.IsHeard
  willingness : ∀ n ∈ s.olsr.neighborSet, ∃ x ∈ s.last n.nNeighborMainAddr,
    n.nWillingness = x.hello.willingness
  twoHop : ∀ t ∈ s.olsr.twoHopNeighborSet,
    (∃ n ∈ s.olsr.neighborSet, n.nNeighborMainAddr = t.nNeighborMainAddr ∧ n.nStatus ≠ .notNeigh) ∧
      ∃ x ∈ s.last t.nNeighborMainAddr, ListsSym x.hello.link t.n2hopAddr
  selectors : ∀ a, a ∈ selectorAddrs s.olsr ↔
    a ∈ s.olsr.neighborSet.map NeighborTuple.nNeighborMainAddr ∧
      ∃ x ∈ s.last a, s.now ≤ x.valid ∧ MarksMpr s.olsr.mainAddress x.hello.link

/-- The link to `y` is symmetric at `time`, when a HELLO has come. -/
def SymAfter (s : NeighborhoodState Addr) (hello : HelloMessage Addr) (time : ℚ) (y : Addr) : Prop :=
  if y = hello.originatorAddress ∧ ∃ t ∈ hello.linkTo s.olsr.mainAddress, t ≠ .unspecLink then
    ∃ t ∈ hello.linkTo s.olsr.mainAddress, t.IsHeard
  else ∃ l ∈ olsrFindLinkSet s.olsr.linkSet y, time ≤ l.lSymTime

structure HelloMeets (convertMEToDouble : ℕ → ℚ) (s : NeighborhoodState Addr) (hello : HelloMessage Addr)
    (time : ℚ) : Prop where
  expiry : (∃ t ∈ hello.linkTo s.olsr.mainAddress, t.IsHeard) →
    ∀ x ∈ s.timers, x.lNeighborIfaceAddr = hello.originatorAddress →
      x.dEventTime ≤ time + max neighbHoldTime (convertMEToDouble hello.vtime * second)
  willingness : ∀ a ∈ hello.link.map HelloLink.neighborInterfaceAddress, a ≠ hello.originatorAddress →
    ∀ x ∈ s.last a, x.hello.willingness = hello.willingness
  own : hello.originatorAddress ∉ hello.link.map HelloLink.neighborInterfaceAddress →
    ((s.last hello.originatorAddress).map fun x => x.hello.willingness).getD .default = hello.willingness
  twoHop : ∀ k ∈ twoHopKeys s.olsr, s.SymAfter hello time k.1 ∧
    (k.1 = hello.originatorAddress → k.2 ∈ hello.link.map HelloLink.neighborInterfaceAddress)
  marks : ListsMpr hello.link ∨ hello.originatorAddress ∈ selectorAddrs s.olsr →
    MarksMpr s.olsr.mainAddress hello.link
  selectors : ∀ a ∈ selectorAddrs s.olsr, a ≠ hello.originatorAddress → ∀ x ∈ s.last a, time ≤ x.valid

/-- The links of the symmetric neighbours but `gone` are symmetric at `time`, and the HELLOs of the
selectors are valid. -/
structure StillFresh (s : NeighborhoodState Addr) (time : ℚ) (gone : Addr → Prop) : Prop where
  status : ∀ n ∈ s.olsr.neighborSet, n.nStatus ≠ .notNeigh → ¬ gone n.nNeighborMainAddr →
    ∀ l ∈ olsrFindLinkSet s.olsr.linkSet n.nNeighborMainAddr, time ≤ l.lSymTime
  selectors : ∀ a ∈ selectorAddrs s.olsr, ¬ gone a ∧ ∀ x ∈ s.last a, time ≤ x.valid

def Meets (convertMEToDouble : ℕ → ℚ) (s : NeighborhoodState Addr) : NeighborhoodAction Addr → Prop
  | .hello hello time => s.HelloMeets convertMEToDouble hello time
  | .expire n => ∀ x ∈ s.timers[n]?, s.StillFresh x.dEventTime fun a =>
      a = x.lNeighborIfaceAddr ∧ ∃ l ∈ olsrFindLinkSet s.olsr.linkSet a, l.lTime ≤ x.dEventTime
  | .wait time => s.StillFresh time fun _ => False

/-! ## What a step preserves -/

section
variable {convertMEToDouble : ℕ → ℚ} {s s' : NeighborhoodState Addr} {a : NeighborhoodAction Addr} {n : ℕ}
  {time : ℚ}

theorem sound_start (mainAddress : Addr) (nZoneRadius : ℕ) : (start mainAddress nZoneRadius).Sound :=
  ⟨rfl, ⟨List.nodup_nil, rfl, nofun, List.nodup_nil, nofun⟩, List.Perm.nil⟩

theorem Sound.exists_link (h : s.Sound) {x : LinkTimer Addr} (hx : x ∈ s.timers) :
    ∃ l, olsrFindLinkSet s.olsr.linkSet x.lNeighborIfaceAddr = some l := by
  obtain ⟨l, hl, hlx⟩ := List.mem_map.1 (h.timers.subset (List.mem_map_of_mem hx))
  exact ⟨l, hlx ▸ lookup_of_mem h.kept.links hl⟩

omit [DecidableEq Addr] in
theorem addrs_eraseIdx {x : LinkTimer Addr} (hx : s.timers[n]? = some x) :
    (x.lNeighborIfaceAddr :: (s.timers.eraseIdx n).map LinkTimer.lNeighborIfaceAddr).Perm
      (s.timers.map LinkTimer.lNeighborIfaceAddr) := by
  obtain ⟨hn, hget⟩ := List.getElem?_eq_some_iff.1 hx
  have hperm : (x :: s.timers.eraseIdx n).Perm s.timers := hget ▸ List.getElem_cons_eraseIdx_perm hn
  exact hperm.map LinkTimer.lNeighborIfaceAddr

theorem addrs_eraseFirst {links : List (LinkTuple Addr)} {b : Addr}
    (hb : b ∈ links.map LinkTuple.lNeighborIfaceAddr) :
    (b :: (eraseFirst LinkTuple.lNeighborIfaceAddr b links).map LinkTuple.lNeighborIfaceAddr).Perm
      (links.map LinkTuple.lNeighborIfaceAddr) := by
  induction links with
  | nil => cases hb
  | cons l links ih =>
    unfold eraseFirst at ih ⊢
    rw [List.eraseP_cons]
    by_cases hl : l.lNeighborIfaceAddr = b
    · rw [decide_eq_true hl, List.map_cons, hl]
      exact .refl _
    · have hb' := (List.mem_cons.1 hb).resolve_left (Ne.symm hl)
      rw [decide_eq_false hl]
      exact (List.Perm.swap _ _ _).trans ((ih hb').cons _)

theorem Sound.step (h : s.Sound) (hs : NeighborhoodState.step convertMEToDouble s a = some s') :
    s'.Sound := by
  cases a with
  | hello hello time =>
    dsimp only [NeighborhoodState.step] at hs
    split at hs
    · obtain ⟨olsr', timers, hrecv, hreceived, hkept⟩ :=
        received_receiveHello convertMEToDouble time hello h.kept
      rw [hrecv] at hs
      cases hs
      refine ⟨h.running, hkept, ?_⟩
      rw [hreceived.linkSet, hreceived.timers, List.map_append, addrs_populateLinkSet]
      unfold populateLinkSet
      dsimp only
      cases olsrFindLinkSet s.olsr.linkSet hello.originatorAddress with
      | some l => exact (List.append_nil _).symm ▸ h.timers
      | none => exact h.timers.append_right _
    · cases hs
  | expire n =>
    dsimp only [NeighborhoodState.step] at hs
    split at hs
    · cases hs
    · next x hx =>
      split at hs
      · have herase := addrs_eraseIdx hx
        obtain ⟨l, hl⟩ := h.exists_link (List.mem_of_getElem? hx)
        rcases expired_linkTupleExpire h.kept hl with ⟨-, hexp⟩ | ⟨-, olsr', hexp, hgone⟩
        · rw [hexp] at hs
          cases hs
          refine ⟨h.running, h.kept, ?_⟩
          rw [List.map_append, List.map_singleton]
          exact (List.perm_append_singleton _ _).trans (herase.trans h.timers)
        · rw [hexp] at hs
          cases hs
          refine ⟨h.running, kept_linkGone h.kept hgone, ?_⟩
          rw [List.append_nil, hgone.linkSet]
          have hmem : x.lNeighborIfaceAddr ∈ s.olsr.linkSet.map LinkTuple.lNeighborIfaceAddr :=
            h.timers.subset (List.mem_map_of_mem (List.mem_of_getElem? hx))
          exact (herase.trans (h.timers.trans (addrs_eraseFirst hmem).symm)).cons_inv
      · cases hs
  | wait time =>
    dsimp only [NeighborhoodState.step] at hs
    split at hs
    · cases hs
      exact ⟨h.running, h.kept, h.timers⟩
    · cases hs

end

/-! ## What a step that meets the condition preserves -/

structure Inv (s : NeighborhoodState Addr) : Prop where
  sound : s.Sound
  future : ∀ x ∈ s.timers, s.now ≤ x.dEventTime
  expiry : ∀ x ∈ s.timers, ∀ l ∈ olsrFindLinkSet s.olsr.linkSet x.lNeighborIfaceAddr,
    x.dEventTime ≤ l.lTime
  known : ∀ b, (s.last b).isSome = (olsrFindLinkSet s.olsr.linkSet b).isSome
  status : ∀ b, ∀ n ∈ olsrFindNeighborSet s.olsr.neighborSet b, ∀ l ∈ olsrFindLinkSet s.olsr.linkSet b,
    (n.nStatus ≠ .notNeigh ↔ s.now ≤ l.lSymTime)
  said : ∀ b, ∀ l ∈ olsrFindLinkSet s.olsr.linkSet b,
    (∃ x ∈ s.said b, x.linkType.IsHeard ∧ l.lSymTime = x.valid) ∨
      l.lSymTime < s.now ∧ ∀ x ∈ s.said b, ¬ x.linkType.IsHeard
  unsaid : ∀ b, olsrFindLinkSet s.olsr.linkSet b = none → s.said b = none
  willingness : ∀ b, ∀ n ∈ olsrFindNeighborSet s.olsr.neighborSet b, ∀ x ∈ s.last b,
    n.nWillingness = x.hello.willingness
  twoHop : ∀ k ∈ twoHopKeys s.olsr, (∃ l ∈ olsrFindLinkSet s.olsr.linkSet k.1, s.now ≤ l.lSymTime) ∧
    ∃ x ∈ s.last k.1, ListsSym x.hello.link k.2
  selectors : ∀ b, b ∈ selectorAddrs s.olsr ↔
    ∃ x ∈ s.last b, s.now ≤ x.valid ∧ MarksMpr s.olsr.mainAddress x.hello.link

section
variable {convertMEToDouble : ℕ → ℚ} {s s' : NeighborhoodState Addr} {a : NeighborhoodAction Addr} {n : ℕ}
  {time : ℚ}

theorem inv_start (mainAddress : Addr) (nZoneRadius : ℕ) : (start mainAddress nZoneRadius).Inv :=
  ⟨sound_start _ _, nofun, nofun, fun _ => rfl, nofun, nofun, fun _ _ => rfl, nofun, nofun,
    fun _ => iff_of_false nofun nofun⟩

theorem Inv.mirrors (h : s.Inv) : s.Mirrors := by
  have hkept := h.sound.kept
  have hnodup : (s.olsr.neighborSet.map NeighborTuple.nNeighborMainAddr).Nodup := hkept.matched ▸ hkept.links
  have hlink : ∀ l ∈ s.olsr.linkSet, olsrFindLinkSet s.olsr.linkSet l.lNeighborIfaceAddr = some l :=
    fun l hl => lookup_of_mem hkept.links hl
  have hneighbor : ∀ n ∈ s.olsr.neighborSet,
      olsrFindNeighborSet s.olsr.neighborSet n.nNeighborMainAddr = some n :=
    fun n hn => lookup_of_mem hnodup hn
  refine ⟨fun l hl => ?_, fun l hl n hn hnl => ?_, fun l hl => ?_, fun n hn => ?_, fun t ht => ?_, fun b => ?_⟩
  · have hmem : l.lNeighborIfaceAddr ∈ s.timers.map LinkTimer.lNeighborIfaceAddr :=
      h.sound.timers.symm.subset (List.mem_map_of_mem hl)
    obtain ⟨x, hx, hxl⟩ := List.mem_map.1 hmem
    have hle := h.expiry x hx l (by rw [hxl]; exact hlink l hl)
    exact (h.future x hx).trans hle
  · exact h.status l.lNeighborIfaceAddr n (hnl ▸ hneighbor n hn) l (hlink l hl)
  · rcases h.said l.lNeighborIfaceAddr l (hlink l hl) with ⟨x, hx, hheard, htime⟩ | ⟨hlt, hnone⟩
    · constructor
      · exact fun hle => ⟨x, hx, htime ▸ hle, hheard⟩
      · rintro ⟨y, hy, hle, -⟩
        rw [Option.mem_def, Option.mem_def.1 hx] at hy
        cases hy
        exact htime ▸ hle
    · constructor
      · exact fun hle => absurd hle (not_le.2 hlt)
      · rintro ⟨y, hy, -, hheard⟩
        exact absurd hheard (hnone y hy)
  · have hsome : (s.last n.nNeighborMainAddr).isSome = true := by
      rw [h.known, ← isSome_findNeighborSet hkept.matched, hneighbor n hn]
      rfl
    obtain ⟨x, hx⟩ := Option.isSome_iff_exists.1 hsome
    exact ⟨x, hx, h.willingness _ n (hneighbor n hn) x hx⟩
  · have hkey : t.key ∈ twoHopKeys s.olsr := List.mem_map_of_mem ht
    obtain ⟨⟨l, hl, hle⟩, hlisted⟩ := h.twoHop _ hkey
    obtain ⟨n, hn⟩ := Option.isSome_iff_exists.1 (hkept.anchored t ht)
    obtain ⟨hmem, haddr⟩ := lookup_some hn
    exact ⟨⟨n, hmem, haddr, (h.status _ n hn l hl).2 hle⟩, hlisted⟩
  · rw [h.selectors, hkept.matched]
    refine (and_iff_right_of_imp ?_).symm
    rintro ⟨x, hx, -⟩
    have hsome := h.known b
    rw [Option.mem_def.1 hx] at hsome
    obtain ⟨l, hl⟩ := Option.isSome_iff_exists.1 hsome.symm
    obtain ⟨hmem, haddr⟩ := lookup_some hl
    exact haddr ▸ List.mem_map_of_mem hmem

theorem Inv.pass (h : s.Inv) {gone : Addr → Prop} (hfresh : s.StillFresh time gone) (hle : s.now ≤ time)
    (b : Addr) (hgone : ¬ gone b) :
    (∀ n ∈ olsrFindNeighborSet s.olsr.neighborSet b, ∀ l ∈ olsrFindLinkSet s.olsr.linkSet b,
      (n.nStatus ≠ .notNeigh ↔ time ≤ l.lSymTime)) ∧
    ∀ l ∈ olsrFindLinkSet s.olsr.linkSet b, s.now ≤ l.lSymTime → time ≤ l.lSymTime := by
  have hsym : ∀ n ∈ olsrFindNeighborSet s.olsr.neighborSet b, ∀ l ∈ olsrFindLinkSet s.olsr.linkSet b,
      (n.nStatus ≠ .notNeigh ↔ time ≤ l.lSymTime) := by
    intro n hn l hl
    obtain ⟨hmem, haddr⟩ := lookup_some hn
    refine ⟨fun hstatus => ?_, fun htime => (h.status b n hn l hl).2 (hle.trans htime)⟩
    exact hfresh.status n hmem hstatus (haddr.symm ▸ hgone) l (haddr.symm ▸ hl)
  refine ⟨hsym, fun l hl hnow => ?_⟩
  have hsome : (olsrFindNeighborSet s.olsr.neighborSet b).isSome = true := by
    rw [isSome_findNeighborSet h.sound.kept.matched, Option.mem_def.1 hl]
    rfl
  obtain ⟨n, hn⟩ := Option.isSome_iff_exists.1 hsome
  exact (hsym n hn l hl).1 ((h.status b n hn l hl).2 hnow)

theorem Inv.wait (h : s.Inv) {gone : Addr → Prop} (hfresh : s.StillFresh time gone)
    (hnone : ∀ b, ¬ gone b) (hle : s.now ≤ time) (hdue : s.Due time) : ({ s with now := time }).Inv := by
  refine ⟨⟨h.sound.running, h.sound.kept, h.sound.timers⟩, hdue, h.expiry, h.known,
    fun b => (h.pass hfresh hle b (hnone b)).1, fun b l hl => ?_, h.unsaid, h.willingness, fun k hk => ?_,
    fun b => ?_⟩
  · exact (h.said b l hl).imp id fun hold => ⟨hold.1.trans_le hle, hold.2⟩
  · obtain ⟨⟨l, hl, hnow⟩, hlisted⟩ := h.twoHop k hk
    exact ⟨⟨l, hl, (h.pass hfresh hle k.1 (hnone k.1)).2 l hl hnow⟩, hlisted⟩
  · refine Iff.trans (h.selectors b) ⟨?_, ?_⟩
    · rintro ⟨x, hx, hvalid, hmarks⟩
      have hmem := (h.selectors b).2 ⟨x, hx, hvalid, hmarks⟩
      exact ⟨x, hx, (hfresh.selectors b hmem).2 x hx, hmarks⟩
    · rintro ⟨x, hx, hvalid, hmarks⟩
      exact ⟨x, hx, hle.trans hvalid, hmarks⟩

theorem Inv.renew (h : s.Inv) {x : LinkTimer Addr} {l : LinkTuple Addr}
    (hl : olsrFindLinkSet s.olsr.linkSet x.lNeighborIfaceAddr = some l) (hnow : s.now ≤ l.lTime)
    (hsound : ({ s with timers := s.timers.eraseIdx n ++ [{ x with dEventTime := l.lTime }] }).Sound) :
    ({ s with timers := s.timers.eraseIdx n ++ [{ x with dEventTime := l.lTime }] }).Inv := by
  have hcases : ∀ {P : LinkTimer Addr → Prop}, (∀ y ∈ s.timers, P y) → P { x with dEventTime := l.lTime } →
      ∀ y ∈ s.timers.eraseIdx n ++ [{ x with dEventTime := l.lTime }], P y := by
    intro P hold hnew y hy
    rcases List.mem_append.1 hy with hy | hy
    · exact hold y (List.mem_of_mem_eraseIdx hy)
    · exact List.mem_singleton.1 hy ▸ hnew
  refine { h with sound := hsound, future := hcases h.future hnow, expiry := hcases h.expiry fun l' hl' => ?_ }
  rw [Option.mem_def, hl] at hl'
  cases hl'
  exact le_refl _

variable {olsr olsr' : NodeOlsr Addr}

theorem findLinkSet_linkGone {c : Addr} (hkept : Kept olsr)
    (hgone : LinkGone c olsr olsr') (b : Addr) :
    olsrFindLinkSet olsr'.linkSet b = if b = c then none else olsrFindLinkSet olsr.linkSet b := by
  rw [hgone.linkSet]
  split
  · next hb =>
    rw [hb]
    exact lookup_eraseFirst_self hkept.links
  · next hb => exact lookup_eraseFirst_ne hb

theorem findNeighborSet_linkGone {c : Addr} (hgone : LinkGone c olsr olsr')
    {b : Addr} (hb : b ≠ c) :
    olsrFindNeighborSet olsr'.neighborSet b = olsrFindNeighborSet olsr.neighborSet b := by
  rw [hgone.neighborSet]
  exact lookup_filter_ne hb

theorem Inv.expire (h : s.Inv) {x : LinkTimer Addr} (hx : s.timers[n]? = some x) {l : LinkTuple Addr}
    (hl : olsrFindLinkSet s.olsr.linkSet x.lNeighborIfaceAddr = some l) (hold : l.lTime ≤ x.dEventTime)
    (hdue : s.Due x.dEventTime)
    (hfresh : s.StillFresh x.dEventTime fun a =>
      a = x.lNeighborIfaceAddr ∧ ∃ l ∈ olsrFindLinkSet s.olsr.linkSet a, l.lTime ≤ x.dEventTime)
    (hgone : LinkGone x.lNeighborIfaceAddr s.olsr olsr')
    (hs' : s' =
      { s with
        olsr := olsr'
        timers := s.timers.eraseIdx n
        now := x.dEventTime
        last := update s.last x.lNeighborIfaceAddr none
        said := update s.said x.lNeighborIfaceAddr none }) (hsound : s'.Sound) : s'.Inv := by
  have hle := h.future x (List.mem_of_getElem? hx)
  have hfind := findLinkSet_linkGone h.sound.kept hgone
  have hno : ∀ b, b ≠ x.lNeighborIfaceAddr → ¬ (b = x.lNeighborIfaceAddr ∧
      ∃ l ∈ olsrFindLinkSet s.olsr.linkSet b, l.lTime ≤ x.dEventTime) := fun b hb hgone => hb hgone.1
  -- What is looked up now is of another neighbour, and was there before.
  have hother : ∀ {b l}, l ∈ olsrFindLinkSet olsr'.linkSet b →
      b ≠ x.lNeighborIfaceAddr ∧ l ∈ olsrFindLinkSet s.olsr.linkSet b := by
    intro b l hl
    rw [hfind] at hl
    split at hl
    · cases hl
    · next hb => exact ⟨hb, hl⟩
  have hneighbor : ∀ {b n}, n ∈ olsrFindNeighborSet olsr'.neighborSet b →
      b ≠ x.lNeighborIfaceAddr ∧ n ∈ olsrFindNeighborSet s.olsr.neighborSet b := by
    intro b n hn
    have hb : b ≠ x.lNeighborIfaceAddr := by
      rintro rfl
      obtain ⟨hmem, haddr⟩ := lookup_some hn
      rw [hgone.neighborSet] at hmem
      exact of_decide_eq_true (List.mem_filter.1 hmem).2 haddr
    exact ⟨hb, findNeighborSet_linkGone hgone hb ▸ hn⟩
  have hmem : ∀ k ∈ twoHopKeys olsr', k.1 ≠ x.lNeighborIfaceAddr ∧ k ∈ twoHopKeys s.olsr := by
    intro k hk
    unfold twoHopKeys at hk
    rw [hgone.twoHopNeighborSet] at hk
    obtain ⟨t, ht, rfl⟩ := List.mem_map.1 hk
    obtain ⟨ht, hne⟩ := List.mem_filter.1 ht
    exact ⟨of_decide_eq_true hne, List.mem_map_of_mem ht⟩
  subst hs'
  refine ⟨hsound, fun y hy => hdue y (List.mem_of_mem_eraseIdx hy), fun y hy l' hl' => ?_, fun b => ?_,
    fun b n hn l' hl' => ?_, fun b l' hl' => ?_, fun b hb => ?_, fun b n hn y hy => ?_, fun k hk => ?_,
    fun b => ?_⟩
  · exact h.expiry y (List.mem_of_mem_eraseIdx hy) l' (hother hl').2
  · dsimp only
    rw [hfind, update_apply]
    split
    · rfl
    · exact h.known b
  · exact (h.pass hfresh hle b (hno b (hother hl').1)).1 n (hneighbor hn).2 l' (hother hl').2
  · dsimp only
    rw [update_of_ne (hother hl').1]
    exact (h.said b l' (hother hl').2).imp id fun hsaid => ⟨hsaid.1.trans_le hle, hsaid.2⟩
  · dsimp only at hb ⊢
    rw [hfind] at hb
    rw [update_apply]
    split
    · rfl
    · next hne =>
      rw [if_neg hne] at hb
      exact h.unsaid b hb
  · dsimp only at hy
    rw [update_of_ne (hneighbor hn).1] at hy
    exact h.willingness b n (hneighbor hn).2 y hy
  · obtain ⟨hb, hk⟩ := hmem k hk
    obtain ⟨⟨l', hl', hnow⟩, hlisted⟩ := h.twoHop k hk
    dsimp only
    rw [hfind, if_neg hb, update_of_ne hb]
    exact ⟨⟨l', hl', (h.pass hfresh hle k.1 (hno k.1 hb)).2 l' hl' hnow⟩, hlisted⟩
  · have hsel : selectorAddrs olsr' = selectorAddrs s.olsr :=
      congrArg (List.map MprSelector.msMainAddr) hgone.mprSelectionSet
    dsimp only
    rw [hsel, hgone.main, update_apply]
    split
    · next hb =>
      refine iff_of_false (fun hsel => ?_) nofun
      exact (hfresh.selectors b hsel).1 ⟨hb, l, hb ▸ hl, hold⟩
    · refine Iff.trans (h.selectors b) ⟨?_, ?_⟩
      · rintro ⟨y, hy, hvalid, hmarks⟩
        have hsel := (h.selectors b).2 ⟨y, hy, hvalid, hmarks⟩
        exact ⟨y, hy, (hfresh.selectors b hsel).2 y hy, hmarks⟩
      · rintro ⟨y, hy, hvalid, hmarks⟩
        exact ⟨y, hy, hle.trans hvalid, hmarks⟩

theorem le_lSymTime_of_symAfter {hello : HelloMessage Addr} (hconv : ∀ m, 0 ≤ convertMEToDouble m)
    (hsym : s.SymAfter hello time hello.originatorAddress) :
    time ≤ (heardLink convertMEToDouble time hello s.olsr).lSymTime := by
  unfold SymAfter at hsym
  rcases times_heardLink convertMEToDouble time hello s.olsr with
    ⟨-, hsymTime, -⟩ | ⟨hlost, -, -⟩ | ⟨hnot, hsymTime, -⟩
  · rw [hsymTime]
    exact le_add_of_nonneg_right (vTime_nonneg hconv)
  · rw [if_pos ⟨rfl, .lostLink, hlost, nofun⟩] at hsym
    obtain ⟨t, ht, hheard⟩ := hsym
    rw [hlost] at ht
    cases ht
    rcases hheard with h | h <;> cases h
  · have hno : ¬ (hello.originatorAddress = hello.originatorAddress ∧
        ∃ t ∈ hello.linkTo s.olsr.mainAddress, t ≠ .unspecLink) := by
      rintro ⟨-, t, ht, hne⟩
      rcases hnot with h | h
      · rw [h] at ht
        cases ht
      · rw [h] at ht
        cases ht
        exact hne rfl
    rw [if_neg hno] at hsym
    obtain ⟨l, hl, hle⟩ := hsym
    rw [hsymTime, oldLink, Option.mem_def.1 hl]
    exact hle

variable {new : List (LinkTimer Addr)}

theorem findLinkSet_received {hello : HelloMessage Addr}
    (hr : Received convertMEToDouble time hello olsr olsr' new) (b : Addr) :
    olsrFindLinkSet olsr'.linkSet b =
      if b = hello.originatorAddress then some (heardLink convertMEToDouble time hello olsr)
      else olsrFindLinkSet olsr.linkSet b := by
  rw [hr.linkSet]
  exact findLinkSet_populateLinkSet convertMEToDouble time hello olsr b

variable {last : LastHello Addr}

theorem Inv.twoHop_received (h : s.Inv) {hello : HelloMessage Addr} (hconv : ∀ m, 0 ≤ convertMEToDouble m)
    (hmeets : s.HelloMeets convertMEToDouble hello time)
    (hr : Received convertMEToDouble time hello s.olsr olsr' new)
    (hkept : Kept olsr') (hlast : last.hello = hello) :
    ∀ k ∈ twoHopKeys olsr', (∃ l ∈ olsrFindLinkSet olsr'.linkSet k.1, time ≤ l.lSymTime) ∧
      ∃ x ∈ update s.last hello.originatorAddress (some last) k.1, ListsSym x.hello.link k.2 := by
  intro k hk
  have htwoHop := hr.twoHop
  rw [findLinkSet_received hr, update_apply]
  by_cases hsrc : k.1 = hello.originatorAddress
  · rw [if_pos hsrc, if_pos hsrc]
    have hboth : time ≤ (heardLink convertMEToDouble time hello s.olsr).lSymTime ∧
        ListsSym hello.link k.2 := by
      by_cases hsym : (heardLink convertMEToDouble time hello s.olsr).lSymTime ≥ time
      · rw [if_pos hsym] at htwoHop
        refine ⟨hsym, ?_⟩
        rcases htwoHop.from_old k hk with hold | ⟨-, -, hlisted⟩
        · have hself : k.2 ≠ s.olsr.mainAddress := hr.main ▸ hkept.notSelf k hk
          exact htwoHop.listed k hk hsrc ((hmeets.twoHop k hold).2 hsrc) hself
        · exact hlisted
      · rw [if_neg hsym] at htwoHop
        have hafter := (hmeets.twoHop k (htwoHop ▸ hk)).1
        rw [hsrc] at hafter
        exact absurd (le_lSymTime_of_symAfter hconv hafter) hsym
    exact ⟨⟨_, rfl, hboth.1⟩, _, rfl, hlast ▸ hboth.2⟩
  · rw [if_neg hsrc, if_neg hsrc]
    have hold : k ∈ twoHopKeys s.olsr := by
      split at htwoHop
      · exact (htwoHop.from_old k hk).resolve_right fun hnew => hsrc hnew.1
      · exact htwoHop ▸ hk
    have hafter := (hmeets.twoHop k hold).1
    unfold SymAfter at hafter
    rw [if_neg fun h => hsrc h.1] at hafter
    exact ⟨hafter, (h.twoHop k hold).2⟩

theorem Inv.said_received (h : s.Inv) {hello : HelloMessage Addr} (hle : s.now ≤ time)
    (hr : Received convertMEToDouble time hello s.olsr olsr' new) :
    (∀ b, ∀ l ∈ olsrFindLinkSet olsr'.linkSet b,
      (∃ x ∈ s.sayLink hello (time + convertMEToDouble hello.vtime * second) b,
        x.linkType.IsHeard ∧ l.lSymTime = x.valid) ∨
      l.lSymTime < time ∧ ∀ x ∈ s.sayLink hello (time + convertMEToDouble hello.vtime * second) b,
        ¬ x.linkType.IsHeard) ∧
    ∀ b, olsrFindLinkSet olsr'.linkSet b = none →
      s.sayLink hello (time + convertMEToDouble hello.vtime * second) b = none := by
  have hfind := findLinkSet_received hr
  have hother : ∀ b, b ≠ hello.originatorAddress →
      s.sayLink hello (time + convertMEToDouble hello.vtime * second) b = s.said b := by
    intro b hb
    unfold sayLink
    cases hello.linkTo s.olsr.mainAddress with
    | none => rfl
    | some t =>
      cases t with
      | unspecLink => rfl
      | asymLink => exact update_of_ne hb ..
      | symLink => exact update_of_ne hb ..
      | lostLink => exact update_of_ne hb ..
  refine ⟨fun b l hl => ?_, fun b hb => ?_⟩
  · rw [hfind] at hl
    split at hl
    · next hb =>
      cases hl
      rw [hb]
      unfold sayLink
      rcases times_heardLink convertMEToDouble time hello s.olsr with
        ⟨⟨t, ht, hheard⟩, hsymTime, -⟩ | ⟨hlost, hsymTime, -⟩ | ⟨hnot, hsymTime, -⟩
      · refine .inl ⟨{ valid := time + convertMEToDouble hello.vtime * second, linkType := t }, ?_, hheard,
          hsymTime⟩
        rw [Option.mem_def.1 ht]
        rcases hheard with rfl | rfl
        · exact update_self ..
        · exact update_self ..
      · rw [hlost]
        refine .inr ⟨hsymTime ▸ sub_one_lt time, fun x hx hheard => ?_⟩
        dsimp only at hx
        rw [update_self] at hx
        cases hx
        rcases hheard with hheard | hheard <;> cases hheard
      · have hsame : (match hello.linkTo s.olsr.mainAddress with
            | none | some .unspecLink => s.said
            | some linkType => update s.said hello.originatorAddress
              (some { valid := time + convertMEToDouble hello.vtime * second, linkType })) = s.said := by
          rcases hnot with hnot | hnot <;> rw [hnot]
        rw [hsame, hsymTime]
        unfold oldLink
        cases hold : olsrFindLinkSet s.olsr.linkSet hello.originatorAddress with
        | some l =>
          exact (h.said _ l hold).imp id fun hsaid => ⟨hsaid.1.trans_le hle, hsaid.2⟩
        | none =>
          refine .inr ⟨sub_one_lt time, ?_⟩
          rw [h.unsaid _ hold]
          exact nofun
    · next hb =>
      rw [hother b hb]
      exact (h.said b l hl).imp id fun hsaid => ⟨hsaid.1.trans_le hle, hsaid.2⟩
  · rw [hfind] at hb
    split at hb
    · cases hb
    · next hne =>
      rw [hother b hne]
      exact h.unsaid b hb

theorem Inv.willingness_received (h : s.Inv) {hello : HelloMessage Addr}
    (hmeets : s.HelloMeets convertMEToDouble hello time) (hlast : last.hello = hello)
    {b : Addr} {x : LastHello Addr}
    (hx : x ∈ update s.last hello.originatorAddress (some last) b) :
    givenWillingness hello (neighborOr s.olsr.neighborSet b) = x.hello.willingness := by
  have hkept := h.sound.kept
  unfold givenWillingness
  rw [addr_neighborOr]
  rw [update_apply] at hx
  split at hx
  · next hb =>
    cases hx
    rw [hlast]
    split
    · rfl
    · next hlisted =>
      rw [← hmeets.own (hb ▸ hlisted), hb]
      have hknown := h.known hello.originatorAddress
      rw [← isSome_findNeighborSet hkept.matched] at hknown
      unfold neighborOr
      cases hn : olsrFindNeighborSet s.olsr.neighborSet hello.originatorAddress with
      | none =>
        rw [hn, Option.isSome_none] at hknown
        rw [Option.not_isSome_iff_eq_none.1 (ne_true_of_eq_false hknown)]
        rfl
      | some n =>
        rw [hn, Option.isSome_some] at hknown
        obtain ⟨y, hy⟩ := Option.isSome_iff_exists.1 hknown
        rw [hy]
        exact h.willingness _ n hn y hy
  · next hb =>
    have hknown := h.known b
    rw [Option.mem_def.1 hx, ← isSome_findNeighborSet hkept.matched] at hknown
    obtain ⟨n, hn⟩ := Option.isSome_iff_exists.1 hknown.symm
    split
    · next hlisted => exact (hmeets.willingness b hlisted hb x hx).symm
    · unfold neighborOr
      rw [hn]
      exact h.willingness b n hn x hx

theorem Inv.hello (h : s.Inv) {hello : HelloMessage Addr} (hconv : ∀ m, 0 ≤ convertMEToDouble m)
    (hle : s.now ≤ time) (hdue : s.Due time) (hmeets : s.HelloMeets convertMEToDouble hello time)
    (hr : Received convertMEToDouble time hello s.olsr olsr' new)
    (hlast : last = { valid := time + convertMEToDouble hello.vtime * second, hello })
    (hs' : s' =
      { s with
        olsr := olsr'
        timers := s.timers ++ new
        now := time
        last := update s.last hello.originatorAddress (some last)
        said := s.sayLink hello (time + convertMEToDouble hello.vtime * second) }) (hsound : s'.Sound) :
    s'.Inv := by
  have hv : 0 ≤ convertMEToDouble hello.vtime * second := vTime_nonneg hconv
  have hvalid : time ≤ last.valid := by
    rw [hlast]
    exact le_add_of_nonneg_right hv
  have hhello : last.hello = hello := by rw [hlast]
  have hfind := findLinkSet_received hr
  subst hs'
  have htwoHop := h.twoHop_received hconv hmeets hr hsound.kept hhello
  obtain ⟨hsaid, hunsaid⟩ := h.said_received hle hr
  obtain ⟨mpr, hmpr, hneighbors⟩ := hr.find
  have hlTime : ∀ y ∈ s.timers, y.lNeighborIfaceAddr = hello.originatorAddress →
      y.dEventTime ≤ (heardLink convertMEToDouble time hello s.olsr).lTime := by
    intro y hy hsrc
    obtain ⟨l, hl⟩ := h.sound.exists_link hy
    have hold : y.dEventTime ≤ (oldLink convertMEToDouble time hello s.olsr).lTime := by
      unfold oldLink
      rw [← hsrc, hl]
      exact h.expiry y hy l hl
    rcases times_heardLink convertMEToDouble time hello s.olsr with
      ⟨hheard, -, htime⟩ | ⟨-, -, htime⟩ | ⟨-, -, htime⟩
    · rw [htime, max_add_add_left]
      exact hmeets.expiry hheard y hy hsrc
    · rw [htime]
      exact hold.trans (le_max_left _ _)
    · rw [htime]
      exact hold.trans (le_max_left _ _)
  have hnew : ∀ y ∈ new, y.lNeighborIfaceAddr = hello.originatorAddress ∧
      y.dEventTime = (heardLink convertMEToDouble time hello s.olsr).lTime := by
    rw [hr.timers, timers_populateLinkSet]
    split
    · exact nofun
    · exact List.forall_mem_singleton.2 ⟨rfl, rfl⟩
  have hlate : time ≤ (heardLink convertMEToDouble time hello s.olsr).lTime := by
    have hle : time ≤ time + convertMEToDouble hello.vtime * second := le_add_of_nonneg_right hv
    rcases times_heardLink convertMEToDouble time hello s.olsr with
      ⟨-, -, htime⟩ | ⟨-, -, htime⟩ | ⟨-, -, htime⟩ <;> exact htime ▸ hle.trans (le_max_right _ _)
  refine ⟨hsound, fun y hy => ?_, fun y hy l hl => ?_, fun b => ?_, fun b n hn l hl => ?_, hsaid, hunsaid,
    fun b n hn x hx => ?_, htwoHop, fun b => ?_⟩
  · rcases List.mem_append.1 hy with hy | hy
    · exact hdue y hy
    · rw [(hnew y hy).2]
      exact hlate
  · rw [hfind] at hl
    rcases List.mem_append.1 hy with hy | hy
    · split at hl
      · next hsrc =>
        cases hl
        exact hlTime y hy hsrc
      · exact h.expiry y hy l hl
    · obtain ⟨hsrc, htime⟩ := hnew y hy
      rw [if_pos hsrc] at hl
      cases hl
      exact htime.le
  · dsimp only
    rw [hfind, update_apply]
    split
    · rfl
    · exact h.known b
  · rw [hneighbors, Option.mem_def.1 hl] at hn
    cases hn
    dsimp only
    split
    · next hb =>
      -- An MPR has two-hop neighbours, and so a symmetric link.
      refine iff_of_true nofun ?_
      obtain ⟨t, ht, htb⟩ := List.mem_map.1 (hmpr hb)
      obtain ⟨⟨l', hl', htime⟩, -⟩ := htwoHop t.key (List.mem_map_of_mem ht)
      have hkey : t.key.1 = b := htb
      rw [hkey, Option.mem_def.1 hl] at hl'
      cases hl'
      exact htime
    · unfold statusOf
      split
      · next hsym => exact iff_of_true nofun hsym
      · next hsym => exact iff_of_false (absurd rfl) hsym
  · rw [hneighbors] at hn
    obtain ⟨l, -, hnl⟩ := Option.map_eq_some_iff.1 hn
    rw [← hnl]
    exact h.willingness_received hmeets hhello hx
  · dsimp only
    rw [hr.selectors, hr.main, update_apply]
    by_cases hb : b = hello.originatorAddress
    · rw [if_pos hb, and_iff_right hb]
      constructor
      · intro hsel
        have hmarks := hmeets.marks (hsel.symm.imp id fun hsel => hb ▸ hsel)
        exact ⟨last, rfl, hvalid, hhello ▸ hmarks⟩
      · rintro ⟨x, hx, -, hmarks⟩
        cases hx
        rw [hhello] at hmarks
        obtain ⟨i, hi, -, htype⟩ := hmarks
        exact .inr ⟨i, hi, htype⟩
    · rw [if_neg hb, or_iff_left fun hsel => hb hsel.1, h.selectors]
      constructor
      · rintro ⟨x, hx, hnow, hmarks⟩
        have hsel := (h.selectors b).2 ⟨x, hx, hnow, hmarks⟩
        exact ⟨x, hx, hmeets.selectors b hsel hb x hx, hmarks⟩
      · rintro ⟨x, hx, htime, hmarks⟩
        exact ⟨x, hx, hle.trans htime, hmarks⟩

theorem Inv.step (h : s.Inv) (hconv : ∀ m, 0 ≤ convertMEToDouble m) (hmeets : s.Meets convertMEToDouble a)
    (hs : NeighborhoodState.step convertMEToDouble s a = some s') : s'.Inv := by
  have hsound := h.sound.step hs
  cases a with
  | hello hello time =>
    dsimp only [NeighborhoodState.step] at hs
    split at hs
    · next hat =>
      obtain ⟨olsr', new, hrecv, hreceived, -⟩ :=
        received_receiveHello convertMEToDouble time hello h.sound.kept
      rw [hrecv] at hs
      cases hs
      exact h.hello hconv hat.1 hat.2 hmeets hreceived rfl rfl hsound
    · cases hs
  | expire n =>
    dsimp only [NeighborhoodState.step] at hs
    split at hs
    · cases hs
    · next x hx =>
      split at hs
      · next hdue =>
        have hle := h.future x (List.mem_of_getElem? hx)
        have hfresh := hmeets x hx
        obtain ⟨l, hl⟩ := h.sound.exists_link (List.mem_of_getElem? hx)
        rcases expired_linkTupleExpire h.sound.kept hl with ⟨hlate, hexp⟩ | ⟨hold, olsr', hexp, hgone⟩
        · rw [hexp] at hs
          dsimp only at hs
          rw [hl, Option.isNone_some, if_neg Bool.false_ne_true, if_neg Bool.false_ne_true,
            max_eq_right hle] at hs
          cases hs
          refine Inv.renew (h.wait hfresh ?_ hle hdue) hl hlate.le hsound
          rintro b ⟨rfl, l', hl', hle'⟩
          rw [Option.mem_def, hl] at hl'
          cases hl'
          exact absurd hle' (not_le.2 hlate)
        · rw [hexp] at hs
          have hnone : olsrFindLinkSet olsr'.linkSet x.lNeighborIfaceAddr = none := by
            rw [findLinkSet_linkGone h.sound.kept hgone, if_pos rfl]
          dsimp only at hs
          rw [hnone, Option.isNone_none, if_pos rfl, if_pos rfl, max_eq_right hle, List.append_nil] at hs
          cases hs
          exact h.expire hx hl hold hdue hfresh hgone rfl hsound
      · cases hs
  | wait time =>
    dsimp only [NeighborhoodState.step] at hs
    split at hs
    · next hat =>
      cases hs
      exact h.wait hmeets (fun _ => id) hat.1 hat.2
    · cases hs

end

/-- In every run a link has one neighbour. In a run whose steps meet the condition the five sets are
what the last HELLOs say. -/
theorem neighborhood (convertMEToDouble : ℕ → ℚ) (hconv : ∀ m, 0 ≤ convertMEToDouble m)
    (mainAddress : Addr) (nZoneRadius : ℕ)
    (tr : List (NeighborhoodState Addr × NeighborhoodAction Addr)) (s : NeighborhoodState Addr)
    (run : Run (step convertMEToDouble) (start mainAddress nZoneRadius) tr s) :
    s.Sound ∧ ((∀ x ∈ tr, x.1.Meets convertMEToDouble x.2) → s.Mirrors) := by
  refine ⟨run.always (P := fun s => s.Sound) (sound_start _ _) fun _ _ _ h hs => h.step hs, fun hmeets => ?_⟩
  have hinv : s.Inv := run.induction (P := fun _ s => s.Inv)
    (Q := fun s a => s.Meets convertMEToDouble a) (inv_start _ _)
    (fun _ _ _ _ _ h hmeet hs => h.step hconv hmeet hs) hmeets
  exact hinv.mirrors

/-- Mantissa and exponent of a time in seconds, in steps of 1/16. -/
def exampleConvert (m : ℕ) : ℚ := 1 / 16 * (1 + (m / 16 % 16 : ℕ) / 16) * 2 ^ (m % 16)

theorem exampleConvert_nonneg (m : ℕ) : 0 ≤ exampleConvert m := by
  unfold exampleConvert
  positivity

def exampleHello (neighTypes : NeighborType) : HelloMessage ℕ :=
  { originatorAddress := 1
    vtime := 134
    willingness := .default
    link :=
      [{ linkType := .asymLink, neighTypes := .notNeigh, neighborInterfaceAddress := 0 },
        { linkType := .symLink, neighTypes, neighborInterfaceAddress := 2 }] }

/-- Node 1 is a symmetric neighbour, and node 2 a two-hop neighbour. -/
theorem neighborhood_hello : ∃ tr s, Run (step exampleConvert) (start 0 1) tr s ∧
    twoHopKeys s.olsr = [(1, 2)] ∧ s.Sound ∧ s.Mirrors := by
  have hstep : (step exampleConvert (start 0 1) (.hello (exampleHello .symNeigh) 0)).any
      (fun s => decide (twoHopKeys s.olsr = [(1, 2)])) = true := by
    decide +kernel
  obtain ⟨s, hs, htwo⟩ := (Option.any_eq_true _ _).1 hstep
  have run : Run (step exampleConvert) (start 0 1)
      [(start 0 1, .hello (exampleHello .symNeigh) 0)] s := Run.nil.snoc hs
  obtain ⟨hsound, hmirrors⟩ := neighborhood exampleConvert exampleConvert_nonneg 0 1 _ s run
  refine ⟨_, s, run, of_decide_eq_true htwo, hsound, hmirrors (List.forall_mem_singleton.2 ?_)⟩
  refine ⟨fun _ => nofun, fun _ _ _ => nofun, fun _ => rfl, nofun, ?_, nofun⟩
  rintro (⟨i, hi, htype⟩ | hsel)
  · have hnone : ¬ ∃ i ∈ (exampleHello .symNeigh).link, i.neighTypes = .mprNeigh := by decide
    exact absurd ⟨i, hi, htype⟩ hnone
  · cases hsel

/-- Node 1 has chosen node 2 as its MPR, and is taken for a selector of node 0. -/
theorem not_neighborhood : ¬ ∀ (convertMEToDouble : ℕ → ℚ) (_ : ∀ m, 0 ≤ convertMEToDouble m)
    (mainAddress nZoneRadius : ℕ) (tr : List (NeighborhoodState ℕ × NeighborhoodAction ℕ))
    (s : NeighborhoodState ℕ), Run (step convertMEToDouble) (start mainAddress nZoneRadius) tr s →
      s.Sound ∧ s.Mirrors := by
  intro h
  have hstep : (step exampleConvert (start 0 1) (.hello (exampleHello .mprNeigh) 0)).any
      (fun s => decide (1 ∈ selectorAddrs s.olsr ∧ s.olsr.mainAddress = 0 ∧
        (s.last 1).map LastHello.hello = some (exampleHello .mprNeigh))) = true := by
    decide +kernel
  obtain ⟨s, hs, htest⟩ := (Option.any_eq_true _ _).1 hstep
  obtain ⟨hsel, hmain, hlast⟩ := of_decide_eq_true htest
  have run : Run (step exampleConvert) (start 0 1)
      [(start 0 1, .hello (exampleHello .mprNeigh) 0)] s := Run.nil.snoc hs
  obtain ⟨-, x, hx, -, hmarks⟩ :=
    ((h exampleConvert exampleConvert_nonneg 0 1 _ s run).2.selectors 1).1 hsel
  rw [Option.mem_def.1 hx] at hlast
  have hhello : x.hello = exampleHello .mprNeigh := Option.some.inj hlast
  rw [hhello, hmain] at hmarks
  have hnone : ¬ ∃ i ∈ (exampleHello .mprNeigh).link,
      i.neighborInterfaceAddress = 0 ∧ i.neighTypes = .mprNeigh := by decide
  exact hnone hmarks

end NeighborhoodState

end NetSim.Zrp
