import NetSim.Ethernet.Convergence
import NetSim.Lib.ParentTree

/-!
# The forwarding links

When the exchange has ended, a link that is no switch's way to the root is blocked. No handler opens
a port again, so the rest spans the switches only if no blocked link is a way to the root.
-/

namespace NetSim.Ethernet

open NetSim.Lib

variable {V Id : Type} [LinearOrder Id]

namespace Net

variable {T : Topology V Id} {s s' : Net V Id}

/-! ## Termination -/

structure Ids (T : Topology V Id) (s : Net V Id) : Prop where
  rootId : ∀ v, (s.spt v).rootId ∈ Set.range T.switchId
  chan : ∀ v i, ∀ b ∈ s.chan v i, b.rootId ∈ Set.range T.switchId ∧ i ∈ T.interfaceId v

section Termination

variable [Fintype V]

def rank (T : Topology V Id) (id : Id) : ℕ := ((Finset.univ.image T.switchId).filter (· < id)).card

theorem rank_lt_rank {a b : Id} (ha : a ∈ Set.range T.switchId) (hab : a < b) :
    rank T a < rank T b := by
  refine Finset.card_lt_card (Finset.ssubset_iff_of_subset ?_ |>.2 ⟨a, ?_, ?_⟩)
  · exact Finset.monotone_filter_right _ fun c _ hc => hc.trans hab
  · obtain ⟨v, rfl⟩ := ha
    exact Finset.mem_filter.2 ⟨Finset.mem_image_of_mem _ (Finset.mem_univ _), hab⟩
  · exact fun h => lt_irrefl _ (Finset.mem_filter.1 h).2

def height (T : Topology V Id) (spt : Spt Id) : ℕ ×ₗ ℕ := toLex (rank T spt.rootId, spt.rootPathCost)

theorem height_lt {spt spt' : Spt Id} (hid : spt'.rootId ∈ Set.range T.switchId)
    (h : spt'.key < spt.key) : height T spt' < height T spt := by
  rcases Prod.Lex.toLex_lt_toLex.1 h with h | ⟨heq, h⟩
  · exact Prod.Lex.toLex_lt_toLex.2 (.inl (rank_lt_rank hid h))
  · exact Prod.Lex.toLex_lt_toLex.2 (.inr ⟨congrArg (rank T) heq, h⟩)

def inFlight (T : Topology V Id) (s : Net V Id) : ℕ :=
  ∑ v, ((T.interfaceId v).map fun i => (s.chan v i).length).sum

def measure (T : Topology V Id) (s : Net V Id) : (V → ℕ ×ₗ ℕ) ×ₗ ℕ :=
  toLex (fun v => height T (s.spt v), inFlight T s)

end Termination

section Steps

variable [DecidableEq V]

theorem ids_start (T : Topology V Id) (order : List V) : Ids T (start T order) := by
  refine ⟨fun v => ⟨v, rfl⟩, ?_⟩
  have hmulticast : ∀ (d : V) (dests : List V) (bpdu : Bpdu Id) (chan : V → ℕ → List (Bpdu Id)),
      bpdu.rootId ∈ Set.range T.switchId →
      (∀ v i, ∀ b ∈ chan v i, b.rootId ∈ Set.range T.switchId ∧ i ∈ T.interfaceId v) →
      ∀ v i, ∀ b ∈ multicastConfigBpdu T d dests bpdu chan v i,
        b.rootId ∈ Set.range T.switchId ∧ i ∈ T.interfaceId v := by
    intro d dests bpdu chan hid hchan
    induction dests generalizing chan with
    | nil => exact hchan
    | cons w rest ih =>
      refine ih _ fun v i b hb => ?_
      unfold sendOut at hb
      dsimp only at hb
      cases hl : T.connectedDevice d (T.getInterfaceId d w) with
      | none =>
        rw [hl] at hb
        exact hchan v i b hb
      | some x =>
        rw [hl] at hb
        dsimp only at hb
        split at hb
        · next heq =>
          obtain ⟨rfl, rfl⟩ := heq
          rcases List.mem_append.1 hb with hb | hb
          · exact hchan _ _ b hb
          · rw [List.mem_singleton.1 hb]
            exact ⟨hid, T.mem_interfaceId (T.symm hl)⟩
        · exact hchan v i b hb
  have hsend : ∀ (vs : List V) (chan : V → ℕ → List (Bpdu Id)),
      (∀ v i, ∀ b ∈ chan v i, b.rootId ∈ Set.range T.switchId ∧ i ∈ T.interfaceId v) →
      ∀ v i, ∀ b ∈ sendConfigBpdus T (startSpt T) vs chan v i,
        b.rootId ∈ Set.range T.switchId ∧ i ∈ T.interfaceId v := by
    intro vs
    induction vs with
    | nil => exact fun _ hchan => hchan
    | cons v vs ih => exact fun chan hchan => ih _ (hmulticast v _ _ chan ⟨v, rfl⟩ hchan)
  exact hsend order _ fun v i b hb => by cases hb

variable {v : V} {i : ℕ}

theorem Ids.step (hT : T.Simple) (ids : Ids T s) (h : step T s (v, i) = some s') : Ids T s' := by
  obtain ⟨b, ⟨-, hkept⟩ | ⟨-, hadopted⟩⟩ := step_cases hT h
  · refine ⟨fun w => ?_, fun w j x hx => ids.chan w j x (hkept.mem_chan hx)⟩
    rw [hkept.spt]
    exact ids.rootId w
  · have hb : b ∈ s.chan v i := by
      rw [hadopted.self]
      exact List.mem_cons_self
    obtain ⟨hid, -⟩ := ids.chan v i b hb
    refine ⟨fun w => ?_, fun w j x hx => ?_⟩
    · by_cases hw : w = v
      · subst hw
        rwa [hadopted.spt_self]
      · rw [hadopted.spt w hw]
        exact ids.rootId w
    · rcases hadopted.mem_chan hx with hx | ⟨rfl, k, hl, -⟩
      · exact ids.chan w j x hx
      · exact ⟨hid, T.mem_interfaceId (T.symm hl)⟩

variable [Fintype V]

theorem Kept.inFlight_lt {b : Bpdu Id} {blocked : Prop} (h : Kept s s' v i b blocked)
    (hi : i ∈ T.interfaceId v) : inFlight T s' < inFlight T s := by
  have hle : ∀ w j, (s'.chan w j).length ≤ (s.chan w j).length := by
    intro w j
    by_cases hself : w = v ∧ j = i
    · obtain ⟨rfl, rfl⟩ := hself
      rw [h.self]
      exact Nat.le_succ _
    · rw [h.chan w j hself]
  have hlt : (s'.chan v i).length < (s.chan v i).length := by
    rw [h.self]
    exact Nat.lt_succ_self _
  refine Finset.sum_lt_sum (fun w _ => ?_) ⟨v, Finset.mem_univ _, ?_⟩
  · exact List.sum_le_sum fun j _ => hle w j
  · exact List.sum_lt_sum _ _ (fun j _ => hle v j) ⟨i, hi, hlt⟩

theorem Ids.measure_lt (hT : T.Simple) (ids : Ids T s) (h : Net.step T s (v, i) = some s') :
    measure T s' < measure T s := by
  obtain ⟨b, ⟨-, hkept⟩ | ⟨hc, hadopted⟩⟩ := step_cases hT h
  · refine Prod.Lex.toLex_lt_toLex.2 (.inr ⟨?_, ?_⟩)
    · exact funext fun w => congrArg (height T) (hkept.spt w)
    · refine hkept.inFlight_lt (ids.chan v i b ?_).2
      rw [hkept.self]
      exact List.mem_cons_self
  · have hid : (s'.spt v).rootId ∈ Set.range T.switchId := (ids.step hT h).rootId v
    have hlt : height T (s'.spt v) < height T (s.spt v) :=
      height_lt hid (hadopted.key.trans_lt (lt_of_forward hc))
    refine Prod.Lex.toLex_lt_toLex.2 (.inl (Pi.lt_def.2 ⟨fun w => ?_, v, hlt⟩))
    by_cases hw : w = v
    · subst hw
      exact hlt.le
    · exact (congrArg (height T) (hadopted.spt w hw)).le

theorem terminates (hT : T.Simple) (order : List V) (f : ℕ → Net V Id) (h0 : f 0 = start T order) :
    ¬ ∀ n, ∃ x, step T (f n) x = some (f (n + 1)) := by
  intro hstep
  have hids : ∀ n, Ids T (f n) := by
    intro n
    induction n with
    | zero => exact h0 ▸ ids_start T order
    | succ n ih =>
      obtain ⟨⟨v, i⟩, h⟩ := hstep n
      exact ih.step hT h
  refine not_strictAnti_of_wellFoundedLT (fun n => measure T (f n)) (strictAnti_nat_of_succ_lt ?_)
  intro n
  obtain ⟨⟨v, i⟩, h⟩ := hstep n
  exact (hids n).measure_lt hT h

end Steps

/-! ## The links left open -/

def forwardingGraph (T : Topology V Id) (s : Net V Id) : SimpleGraph V where
  Adj v w := ∃ i j, T.connectedDevice v i = some (w, j) ∧ s.portState v i = .forwarding ∧
    s.portState w j = .forwarding
  symm := ⟨fun _ _ ⟨i, j, hl, hv, hw⟩ => ⟨j, i, T.symm hl, hw, hv⟩⟩
  loopless := ⟨fun _ ⟨_, _, hl, _⟩ => T.irrefl hl rfl⟩

/-- What the protocol is to have reached when no BPDU is in flight. -/
structure Spanned (T : Topology V Id) (s : Net V Id) : Prop where
  root : ∃ r, (∀ v, T.switchId r ≤ T.switchId v) ∧ (∀ v, (s.spt v).rootId = T.switchId r) ∧
    ∀ v, IsLeast {c | PathCost T r v c} (s.spt v).rootPathCost
  tree : (forwardingGraph T s).IsTree
  single : ∀ v i j w k l, T.connectedDevice v i = some (w, k) → T.connectedDevice v j = some (w, l) →
    s.portState v i = .forwarding → s.portState w k = .forwarding →
    s.portState v j = .forwarding → s.portState w l = .forwarding → i = j

def OpenRoots (T : Topology V Id) (s : Net V Id) : Prop :=
  ∀ ⦃v i w j⦄, T.connectedDevice v i = some (w, j) → s.RootPort v i →
    s.portState v i ≠ .blocking ∧ s.portState w j ≠ .blocking

theorem PathCost.stpCost_le {r v : V} {c : ℕ} (h : PathCost T r v c) (hv : v ≠ r) :
    T.stpCost r ≤ c := by
  induction h with
  | nil => exact absurd rfl hv
  | @snoc u v c i j path hl ih =>
    by_cases hu : u = r
    · subst hu
      exact Nat.le_add_left _ _
    · exact (ih hu).trans (Nat.le_add_right _ _)

section Quiet

variable {r v w : V} {i j : ℕ} (inv : Inv T s) (hquiet : s.Quiet)
  (hr : ∀ v, T.switchId r ≤ T.switchId v)
include inv hquiet hr

theorem Inv.exists_parent (hv : v ≠ r) : ∃ i u j, s.RootPort v i ∧
    T.connectedDevice v i = some (u, j) ∧
    (s.spt u).rootPathCost + T.stpCost u ≤ (s.spt v).rootPathCost := by
  have hroot := inv.rootId_eq hquiet hr
  have hne : (s.spt v).rootId ≠ (s.spt v).switchId := by
    rw [hroot, inv.switchId]
    exact fun h => hv (T.switchId_injective h).symm
  have hport : s.RootPort v (s.spt v).rootPort := ⟨hne, rfl⟩
  obtain ⟨u, j, hl, hadv⟩ := inv.rootPort hport
  refine ⟨_, u, j, hport, T.symm hl, ?_⟩
  rcases Prod.Lex.toLex_le_toLex.1 hadv with hlt | ⟨-, hle⟩
  · rw [hroot, hroot] at hlt
    exact absurd hlt (lt_irrefl _)
  · rwa [← inv.stpCost u]

theorem Inv.rootPort_of_root (hT : T.Simple) (hl : T.connectedDevice r i = some (w, j)) :
    s.RootPort w j := by
  obtain ⟨k, u, l, hport, hl', hcost⟩ := inv.exists_parent hquiet hr (v := w) (T.irrefl hl).symm
  have hnear : (s.spt w).rootPathCost ≤ T.stpCost r := by
    have hown : (s.spt r).rootId = (s.spt r).switchId := by
      rw [inv.rootId_eq hquiet hr, inv.switchId]
    calc (s.spt w).rootPathCost ≤ (s.spt r).rootPathCost + T.stpCost r := inv.cost_le hquiet hr hl
      _ = T.stpCost r := by rw [inv.rooted r hown, Nat.zero_add]
  have hu : u = r := by
    by_contra hu
    have hfar : T.stpCost r ≤ (s.spt u).rootPathCost :=
      PathCost.stpCost_le (inv.isLeast hquiet hr u).1 hu
    have hpos := T.stpCost_pos u
    omega
  subst hu
  obtain rfl : k = j := hT hl' (T.symm hl)
  exact hport

theorem Inv.rootPort_of_forwarding (hT : T.Simple) (hl : T.connectedDevice v i = some (w, j))
    (hv : s.portState v i = .forwarding) (hw : s.portState w j = .forwarding) :
    s.RootPort v i ∨ s.RootPort w j := by
  by_contra hno
  rw [not_or] at hno
  have hroot := inv.rootId_eq hquiet hr
  have hpending : ∀ v i key, ¬ s.Pending v i key := by
    rintro v i key ⟨b, hb, -⟩
    rw [hquiet] at hb
    cases hb
  rcases inv.blocked hl hno.1 hno.2 (by rw [hroot, hroot]) with hb | hb | hp | hp | hown | hown
  · rw [hv] at hb
    cases hb
  · rw [hw] at hb
    cases hb
  · exact hpending _ _ _ hp
  · exact hpending _ _ _ hp
  · obtain rfl : r = v := T.switchId_injective ((hroot v).symm.trans hown)
    exact hno.2 (inv.rootPort_of_root hquiet hr hT hl)
  · obtain rfl : r = w := T.switchId_injective ((hroot w).symm.trans hown)
    exact hno.1 (inv.rootPort_of_root hquiet hr hT (T.symm hl))

theorem Inv.isTree [Finite V] (hT : T.Simple) (hopen : OpenRoots T s) :
    (forwardingGraph T s).IsTree := by
  have hparent : ∀ v, ∃ u, v ≠ r → ∃ i j, s.RootPort v i ∧ T.connectedDevice v i = some (u, j) ∧
      (s.spt u).rootPathCost + T.stpCost u ≤ (s.spt v).rootPathCost := by
    intro v
    by_cases hv : v = r
    · exact ⟨v, fun h => absurd hv h⟩
    · obtain ⟨i, u, j, h⟩ := inv.exists_parent hquiet hr hv
      exact ⟨u, fun _ => ⟨i, j, h⟩⟩
  choose parent hparent using hparent
  have hforward : ∀ v i, s.portState v i ≠ .blocking → s.portState v i = .forwarding :=
    fun v i hne => (inv.states v i).resolve_right hne
  -- The link of a root port is that of the parent.
  have hedge : ∀ v, v ≠ r → (forwardingGraph T s).Adj v (parent v) := by
    intro v hv
    obtain ⟨i, j, hport, hl, -⟩ := hparent v hv
    obtain ⟨hv', hw'⟩ := hopen hl hport
    exact ⟨i, j, hl, hforward _ _ hv', hforward _ _ hw'⟩
  have hroot_ne : ∀ v i, s.RootPort v i → v ≠ r := by
    rintro v i hport rfl
    refine hport.1 ?_
    rw [inv.rootId_eq hquiet hr, inv.switchId]
  have hparent_eq : ∀ v i w j, s.RootPort v i → T.connectedDevice v i = some (w, j) →
      parent v = w := by
    intro v i w j hport hl
    obtain ⟨i', j', hport', hl', -⟩ := hparent v (hroot_ne v i hport)
    obtain rfl : i = i' := hport.2.symm.trans hport'.2
    have := hl'.symm.trans hl
    simp only [Option.some.injEq, Prod.mk.injEq] at this
    exact this.1
  refine isTree_of_parent r parent (fun v => (s.spt v).rootPathCost) (fun v hv => ?_)
    (fun v w => ⟨?_, ?_⟩)
  · obtain ⟨-, -, -, -, hcost⟩ := hparent v hv
    exact lt_of_lt_of_le (Nat.lt_add_of_pos_right (T.stpCost_pos _)) hcost
  · rintro ⟨i, j, hl, hv, hw⟩
    rcases inv.rootPort_of_forwarding hquiet hr hT hl hv hw with hport | hport
    · exact .inl ⟨hroot_ne _ _ hport, hparent_eq _ _ _ _ hport hl⟩
    · exact .inr ⟨hroot_ne _ _ hport, hparent_eq _ _ _ _ hport (T.symm hl)⟩
  · rintro (⟨hv, rfl⟩ | ⟨hw, rfl⟩)
    · exact hedge v hv
    · exact (hedge w hw).symm

end Quiet

/-! ## Runs that keep the links to the root open -/

/-- A BPDU is taken over only over a link open at both ends, with a cost that does not wrap, and
blocks no way to the root. -/
@[mk_iff]
structure Good (T : Topology V Id) (s : Net V Id) (x : V × ℕ) : Prop where
  fits : s.FitsWord x
  taken : ∀ b ∈ (s.chan x.1 x.2).head?, compareBpdu b (s.spt x.1) x.2 = .forward →
    s.portState x.1 x.2 ≠ .blocking ∧
      ∀ p ∈ T.connectedDevice x.1 x.2, s.portState p.1 p.2 ≠ .blocking
  spared : ∀ b ∈ (s.chan x.1 x.2).head?, compareBpdu b (s.spt x.1) x.2 = .block →
    ∀ p ∈ T.connectedDevice x.1 x.2, ¬ s.RootPort p.1 p.2

instance (s : Net V Id) (v : V) (i : ℕ) : Decidable (s.RootPort v i) := inferInstanceAs (Decidable (_ ∧ _))

instance (s : Net V Id) (x : V × ℕ) : Decidable (s.FitsWord x) := by
  unfold Net.FitsWord NoWrap
  infer_instance

instance (s : Net V Id) (x : V × ℕ) : Decidable (Good T s x) :=
  decidable_of_iff' _ (good_iff T s x)

section Runs

variable [DecidableEq V] {v : V} {i : ℕ}

theorem OpenRoots.step (hT : T.Simple) (inv : Inv T s) (hopen : OpenRoots T s)
    (hgood : Good T s (v, i)) (h : step T s (v, i) = some s') : OpenRoots T s' := by
  obtain ⟨b, hhead, ⟨hc, hkept⟩ | ⟨hc, u, k, hbetter⟩⟩ := inv.cases_step hT hgood.fits h
  · intro x p w q hl hport
    rw [hkept.rootPort_iff] at hport
    obtain ⟨hx, hw⟩ := hopen hl hport
    refine ⟨?_, ?_⟩
    · rw [hkept.portState x p]
      · exact hx
      · -- what comes to a root port is better than what is known
        rintro ⟨rfl, rfl, hblock⟩
        have hmem : b ∈ s.chan x p := by
          rw [hkept.self]
          exact List.mem_cons_self
        exact absurd (inv.fresh hport b hmem) (not_lt.2 (of_block hblock).2.2)
    · rw [hkept.portState w q]
      · exact hw
      · rintro ⟨rfl, rfl, hblock⟩
        exact hgood.spared b hhead hblock (x, p) (T.symm hl) hport
  · intro x p w q hl hport
    rw [hbetter.portState, hbetter.portState]
    by_cases hx : x = v
    · subst hx
      obtain rfl := hbetter.eq_of_rootPort hport
      obtain ⟨hself, hother⟩ := hgood.taken b hhead hc
      exact ⟨hself, hother (w, q) hl⟩
    · exact hopen hl ((hbetter.rootPort_iff hx).1 hport)

theorem openRoots_of_run (hT : T.Simple) {order : List V} (horder : Covers order)
    {tr : List (Net V Id × (V × ℕ))} (run : Run (step T) (start T order) tr s)
    (hgood : ∀ x ∈ tr, Good T x.1 x.2) : Inv T s ∧ OpenRoots T s := by
  refine run.induction (P := fun _ s => Inv T s ∧ OpenRoots T s) (Q := Good T)
    ⟨inv_start hT horder, fun v i w j _ hport => absurd rfl hport.1⟩ ?_ hgood
  rintro tr s ⟨v, i⟩ s' - ⟨inv, hopen⟩ hg h
  exact ⟨inv.step hT hg.fits h, hopen.step hT inv hg h⟩

variable [Fintype V] [Nonempty V]

/-- The exchange ends; if every step has kept the links to the root open, the links that forward
form a spanning tree. -/
theorem spansWhenQuiet (T : Topology V Id) (hT : T.Simple) (order : List V) (horder : Covers order) :
    (∀ f : ℕ → Net V Id, f 0 = start T order → ¬ ∀ n, ∃ x, step T (f n) x = some (f (n + 1))) ∧
    ∀ tr s, Run (step T) (start T order) tr s → (∀ x ∈ tr, Good T x.1 x.2) → s.Quiet →
      Spanned T s := by
  refine ⟨terminates hT order, fun tr s run hgood hquiet => ?_⟩
  obtain ⟨inv, hopen⟩ := openRoots_of_run hT horder run hgood
  obtain ⟨r, hr⟩ := Finite.exists_min T.switchId
  exact ⟨⟨r, hr, inv.rootId_eq hquiet hr, inv.isLeast hquiet hr⟩, inv.isTree hquiet hr hT hopen,
    fun v i j w k l hl hl' _ _ _ _ => hT hl hl'⟩

end Runs

/-! ## A square of switches -/

def squareLink : Fin 4 → ℕ → Option (Fin 4 × ℕ)
  | 0, 1 => some (1, 1)
  | 0, 2 => some (3, 1)
  | 1, 1 => some (0, 1)
  | 1, 2 => some (2, 1)
  | 2, 1 => some (1, 2)
  | 2, 2 => some (3, 2)
  | 3, 1 => some (0, 2)
  | 3, 2 => some (2, 2)
  | _, _ => none

theorem squareLink_mem {v w : Fin 4} {i j : ℕ} (h : squareLink v i = some (w, j)) : i ∈ [1, 2] := by
  unfold squareLink at h
  split at h <;> first | decide | cases h

theorem squareLink_connected (v w : Fin 4) :
    Relation.ReflTransGen (fun v w => ∃ i j, squareLink v i = some (w, j)) v w := by
  have hto : ∀ v, Relation.ReflTransGen (fun v w => ∃ i j, squareLink v i = some (w, j)) v 0
    | 0 => .refl
    | 1 => .single ⟨1, 1, rfl⟩
    | 2 => .head ⟨1, 2, rfl⟩ (.single ⟨1, 1, rfl⟩)
    | 3 => .single ⟨1, 2, rfl⟩
  have hfrom : ∀ w, Relation.ReflTransGen (fun v w => ∃ i j, squareLink v i = some (w, j)) 0 w
    | 0 => .refl
    | 1 => .single ⟨1, 1, rfl⟩
    | 2 => .head ⟨1, 1, rfl⟩ (.single ⟨2, 1, rfl⟩)
    | 3 => .single ⟨2, 1, rfl⟩
  exact (hto v).trans (hfrom w)

/-- The last switch forwards at twice the cost of the others. -/
def square : Topology (Fin 4) ℕ where
  switchId := Fin.val
  stpCost := fun v => if v = 3 then 2 else 1
  interfaceId := fun _ => [1, 2]
  connectedDevice := squareLink
  getInterfaceId := fun v w => if (squareLink v 1).map Prod.fst = some w then 1 else 2
  switchId_injective := Fin.val_injective
  stpCost_pos := by decide
  stpCost_lt := by decide
  nodup := by decide
  mem_interfaceId := squareLink_mem
  symm := fun {v i w j} h => by
    unfold squareLink at h
    split at h <;> cases h <;> rfl
  irrefl := fun {v i w j} h => by
    unfold squareLink at h
    split at h <;> cases h <;> decide
  connected := squareLink_connected
  connected_getInterfaceId := fun {v i w j} h => by
    unfold squareLink at h
    split at h <;> cases h <;> exact ⟨_, rfl⟩

theorem square_simple : square.Simple := by
  intro v i j w k l hl hl'
  have hi := squareLink_mem hl
  have hj := squareLink_mem hl'
  have hall : ∀ v, ∀ i ∈ [1, 2], ∀ j ∈ [1, 2],
      (squareLink v i).map Prod.fst = (squareLink v j).map Prod.fst → i = j := by decide
  refine hall v i hi j hj ?_
  have hl : squareLink v i = some (w, k) := hl
  have hl' : squareLink v j = some (w, l) := hl'
  rw [hl, hl']
  rfl

theorem square_quiet {tr : List (Net (Fin 4) ℕ × (Fin 4 × ℕ))} {s : Net (Fin 4) ℕ}
    {order : List (Fin 4)} (run : Run (step square) (start square order) tr s)
    (h : ∀ v, ∀ i ∈ [1, 2], s.chan v i = []) : s.Quiet := by
  have hids : Ids square s :=
    run.always (P := Ids square) (ids_start square _) fun _ _ _ h => h.step square_simple
  intro v i
  cases hchan : s.chan v i with
  | nil => rfl
  | cons b rest =>
    have hi : i ∈ [1, 2] := (hids.chan v i b (hchan ▸ List.mem_cons_self)).2
    rw [h v i hi] at hchan
    cases hchan

/-- In this order no link to the root is blocked, and the exchange ends in a spanning tree. -/
theorem spansWhenQuiet_square :
    ∃ tr s, Run (step square) (start square [0, 1, 2, 3]) tr s ∧ s.Quiet ∧ Spanned square s := by
  have hexec : (exec (step square) (start square [0, 1, 2, 3])
      ([(0, 1), (0, 2), (1, 1), (1, 2), (2, 1), (2, 1), (2, 2), (3, 1), (2, 2), (3, 2), (3, 2),
        (3, 2)].map fun x _ => some x)).any (fun x =>
      decide (∀ y ∈ x.1, Good square y.1 y.2) &&
        decide (∀ v, ∀ i ∈ [1, 2], x.2.chan v i = [])) = true := by decide +kernel
  obtain ⟨tr, s, run, htest⟩ := run_of_exec hexec
  obtain ⟨hgood, hquiet⟩ := (Bool.and_eq_true _ _).mp htest
  have hgood := of_decide_eq_true hgood
  have hcovers : Covers [0, 1, 2, (3 : Fin 4)] := ⟨by decide, by decide⟩
  have hq : s.Quiet := square_quiet run (of_decide_eq_true hquiet)
  exact ⟨tr, s, run, hq, (spansWhenQuiet square square_simple [0, 1, 2, 3] hcovers).2 tr s run hgood hq⟩

/-- The second switch blocks the link that the third will need for its shorter way, and cuts it off.
-/
theorem not_spansWhenQuiet :
    ∃ tr s, Run (step square) (start square [0, 1, 2, 3]) tr s ∧ s.Quiet ∧ ¬ Spanned square s := by
  have hexec : (exec (step square) (start square [0, 1, 2, 3])
      ([(3, 1), (1, 1), (2, 2), (2, 2), (2, 1), (2, 1), (1, 2), (1, 2), (0, 2), (0, 1), (3, 2),
        (3, 2)].map fun x _ => some x)).any (fun x =>
      decide (∀ v, ∀ i ∈ [1, 2], x.2.chan v i = []) &&
        (decide (x.2.portState 1 2 = .blocking) && decide (x.2.portState 3 2 = .blocking))) = true := by
    decide +kernel
  obtain ⟨tr, s, run, htest⟩ := run_of_exec hexec
  obtain ⟨hquiet, hblocked⟩ := (Bool.and_eq_true _ _).mp htest
  obtain ⟨h1, h3⟩ := (Bool.and_eq_true _ _).mp hblocked
  refine ⟨tr, s, run, square_quiet run (of_decide_eq_true hquiet), fun hspanned => ?_⟩
  -- a neighbour of the third switch in the tree would be the second or the fourth
  obtain ⟨w, i, j, hl, -, hw⟩ :=
    hspanned.tree.connected.preconnected.exists_adj_of_nontrivial (2 : Fin 4)
  have hcases : (w = 1 ∧ j = 2) ∨ (w = 3 ∧ j = 2) := by
    have hl : squareLink 2 i = some (w, j) := hl
    unfold squareLink at hl
    split at hl <;> cases hl <;> simp_all
  rcases hcases with ⟨rfl, rfl⟩ | ⟨rfl, rfl⟩
  · exact PortState.noConfusion (hw.symm.trans (of_decide_eq_true h1))
  · exact PortState.noConfusion (hw.symm.trans (of_decide_eq_true h3))

end Net

end NetSim.Ethernet
