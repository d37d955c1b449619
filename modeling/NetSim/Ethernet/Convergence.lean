import NetSim.Ethernet.Delivery

/-!
# Convergence of the spanning tree protocol

What a switch knows only gets better, and every neighbour has been told of it, or will be, unless it
is the one it comes from.
-/

namespace NetSim.Ethernet

variable {V Id : Type}

namespace Net

/-- `i` is the root port of a switch that is not a root. -/
def RootPort (s : Net V Id) (v : V) (i : ℕ) : Prop :=
  (s.spt v).rootId ≠ (s.spt v).switchId ∧ (s.spt v).rootPort = i

/-- A BPDU that says `key` is on its way to an interface. -/
def Pending (s : Net V Id) (v : V) (i : ℕ) (key : Id ×ₗ ℕ) : Prop := ∃ b ∈ s.chan v i, b.key = key

variable {s s' : Net V Id} {v : V} {i : ℕ} {b : Bpdu Id}

section

variable {blocked : Prop} (h : Kept s s' v i b blocked)

include h

variable {j : ℕ}

theorem Kept.mem_chan {w : V} {x : Bpdu Id} (hx : x ∈ s'.chan w j) : x ∈ s.chan w j := by
  by_cases hself : w = v ∧ j = i
  · obtain ⟨rfl, rfl⟩ := hself
    rw [h.self]
    exact List.mem_cons_of_mem _ hx
  · rwa [h.chan w j hself] at hx

theorem Kept.pending {w : V} {key : Id ×ₗ ℕ}
    (hp : s.Pending w j key) : s'.Pending w j key ∨ (w = v ∧ j = i ∧ b.key = key) := by
  obtain ⟨x, hx, rfl⟩ := hp
  by_cases hself : w = v ∧ j = i
  · obtain ⟨rfl, rfl⟩ := hself
    rw [h.self] at hx
    rcases List.mem_cons.1 hx with rfl | hx
    · exact .inr ⟨rfl, rfl, rfl⟩
    · exact .inl ⟨x, hx, rfl⟩
  · rw [← h.chan w j hself] at hx
    exact .inl ⟨x, hx, rfl⟩

theorem Kept.rootPort_iff {w : V} : s'.RootPort w j ↔ s.RootPort w j := by
  unfold RootPort
  rw [h.spt]

theorem Kept.portState_blocking {w : V}
    (hs : s.portState w j = .blocking) : s'.portState w j = .blocking := by
  by_cases hself : w = v ∧ j = i ∧ blocked
  · obtain ⟨rfl, rfl, hb⟩ := hself
    exact h.blocks hb
  · rw [h.portState w j hself, hs]

end

end Net

variable [LinearOrder Id]

/-- There is a path from `r` to `v` whose forwarding switches cost `c`. -/
inductive PathCost (T : Topology V Id) (r : V) : V → ℕ → Prop
  | nil : PathCost T r r 0
  | snoc {u v : V} {c i j : ℕ} (path : PathCost T r u c) (hl : T.connectedDevice u i = some (v, j)) :
      PathCost T r v (c + T.stpCost u)

def Tells (T : Topology V Id) (v : V) (key : Id ×ₗ ℕ) : Prop :=
  ∃ r c, key = toLex (T.switchId r, c) ∧ PathCost T r v c

namespace Net

variable {T : Topology V Id}

structure Inv (T : Topology V Id) (s : Net V Id) : Prop where
  switchId : ∀ v, (s.spt v).switchId = T.switchId v
  stpCost : ∀ v, (s.spt v).stpCost = T.stpCost v
  rooted : ∀ v, (s.spt v).Rooted
  rootId_le : ∀ v, (s.spt v).rootId ≤ T.switchId v
  tells : ∀ v, Tells T v (s.spt v).key
  chan : ∀ v i, ∀ b ∈ s.chan v i, ∃ u j, T.connectedDevice u j = some (v, i) ∧
    (s.spt u).advert ≤ b.key ∧ Tells T v b.key
  sorted : ∀ v i, (s.chan v i).Pairwise fun b b' => b'.key < b.key
  told : ∀ {u j v i}, T.connectedDevice u j = some (v, i) →
    (s.spt v).key ≤ (s.spt u).advert ∨ s.Pending v i (s.spt u).advert
  rootPort : ∀ {v i}, s.RootPort v i → ∃ u j, T.connectedDevice u j = some (v, i) ∧
    (s.spt u).advert ≤ (s.spt v).key
  fresh : ∀ {v i}, s.RootPort v i → ∀ b ∈ s.chan v i, b.key < (s.spt v).key
  blocked : ∀ {v i w j}, T.connectedDevice v i = some (w, j) → ¬ s.RootPort v i → ¬ s.RootPort w j →
    (s.spt v).rootId = (s.spt w).rootId →
    s.portState v i = .blocking ∨ s.portState w j = .blocking ∨
      s.Pending v i (s.spt w).advert ∨ s.Pending w j (s.spt v).advert ∨
      (s.spt v).rootId = T.switchId v ∨ (s.spt w).rootId = T.switchId w
  states : ∀ v i, s.portState v i = .forwarding ∨ s.portState v i = .blocking

variable {s s' : Net V Id} {v : V} {i : ℕ} {b : Bpdu Id}

theorem Inv.blocks_of_kept (inv : Inv T s) (hc : compareBpdu b (s.spt v) i ≠ .forward)
    (h : Kept s s' v i b (compareBpdu b (s.spt v) i = .block))
    (hroot : b.rootId = (s.spt v).rootId) (hport : ¬ s.RootPort v i) :
    s'.portState v i = .blocking ∨ (s.spt v).rootId = T.switchId v := by
  cases hcmp : compareBpdu b (s.spt v) i with
  | block => exact .inl (h.blocks hcmp)
  | forward => exact absurd hcmp hc
  | dontForward =>
    have hown : (s.spt v).rootId = (s.spt v).switchId := by
      rcases of_dontForward hcmp hroot with hown | hp
      · exact hown
      · by_contra hne
        exact hport ⟨hne, hp⟩
    exact .inr (hown.trans (inv.switchId v))

theorem Inv.kept (inv : Inv T s) (hc : compareBpdu b (s.spt v) i ≠ .forward)
    (h : Kept s s' v i b (compareBpdu b (s.spt v) i = .block)) : Inv T s' := by
  have hle : (s.spt v).key ≤ b.key := le_of_not_forward (inv.rooted v) hc
  constructor
  · exact fun w => by rw [h.spt]; exact inv.switchId w
  · exact fun w => by rw [h.spt]; exact inv.stpCost w
  · exact fun w => by rw [h.spt]; exact inv.rooted w
  · exact fun w => by rw [h.spt]; exact inv.rootId_le w
  · exact fun w => by rw [h.spt]; exact inv.tells w
  · intro w j x hx
    obtain ⟨u, j', hl, hadv, htells⟩ := inv.chan w j x (h.mem_chan hx)
    exact ⟨u, j', hl, by rwa [h.spt], htells⟩
  · intro w j
    have hsorted := inv.sorted w j
    by_cases hself : w = v ∧ j = i
    · obtain ⟨rfl, rfl⟩ := hself
      rw [h.self] at hsorted
      exact hsorted.of_cons
    · rwa [h.chan w j hself]
  · intro u j w k hl
    rw [h.spt, h.spt]
    rcases inv.told hl with hk | hp
    · exact .inl hk
    · rcases h.pending hp with hp | ⟨rfl, rfl, hkey⟩
      · exact .inr hp
      · exact .inl (hle.trans hkey.le)
  · intro w j hr
    obtain ⟨u, j', hl, hadv⟩ := inv.rootPort (h.rootPort_iff.1 hr)
    exact ⟨u, j', hl, by rwa [h.spt, h.spt]⟩
  · intro w j hr x hx
    rw [h.spt]
    exact inv.fresh (h.rootPort_iff.1 hr) x (h.mem_chan hx)
  · intro x p w q hl hx hw hroots
    rw [h.rootPort_iff] at hx hw
    simp only [h.spt] at hroots ⊢
    rcases inv.blocked hl hx hw hroots with hb | hb | hp | hp | hown
    · exact .inl (h.portState_blocking hb)
    · exact .inr (.inl (h.portState_blocking hb))
    · rcases h.pending hp with hp | ⟨rfl, rfl, hkey⟩
      · exact .inr (.inr (.inl hp))
      · have hbr : b.rootId = (s.spt w).rootId := congrArg (fun k => (ofLex k).1) hkey
        rcases inv.blocks_of_kept hc h (hbr.trans hroots.symm) hx with hb | hown
        · exact .inl hb
        · exact .inr (.inr (.inr (.inr (.inl hown))))
    · rcases h.pending hp with hp | ⟨rfl, rfl, hkey⟩
      · exact .inr (.inr (.inr (.inl hp)))
      · have hbr : b.rootId = (s.spt x).rootId := congrArg (fun k => (ofLex k).1) hkey
        rcases inv.blocks_of_kept hc h (hbr.trans hroots) hw with hb | hown
        · exact .inr (.inl hb)
        · exact .inr (.inr (.inr (.inr (.inr hown))))
    · exact .inr (.inr (.inr (.inr hown)))
  · intro w j
    by_cases hself : w = v ∧ j = i ∧ compareBpdu b (s.spt v) i = .block
    · obtain ⟨rfl, rfl, hb⟩ := hself
      exact .inr (h.blocks hb)
    · rw [h.portState w j hself]
      exact inv.states w j

/-! ## Deliveries that are taken over -/

theorem Adopted.mem_chan (h : Adopted T s s' v i b) {w : V} {j : ℕ} {x : Bpdu Id}
    (hx : x ∈ s'.chan w j) :
    x ∈ s.chan w j ∨ (x = copyBpdu (s.lan v) b ∧ ∃ k, T.connectedDevice v k = some (w, j) ∧ k ≠ i) := by
  by_cases hself : w = v ∧ j = i
  · obtain ⟨rfl, rfl⟩ := hself
    rw [h.self]
    exact .inl (List.mem_cons_of_mem _ hx)
  by_cases hsent : ∃ k, T.connectedDevice v k = some (w, j) ∧ k ≠ i
  · obtain ⟨k, hl, hk⟩ := hsent
    rw [h.sent w j k hl hk] at hx
    rcases List.mem_append.1 hx with hx | hx
    · exact .inl hx
    · exact .inr ⟨List.mem_singleton.1 hx, k, hl, hk⟩
  · have hother : ∀ k, T.connectedDevice v k = some (w, j) → k = i := by
      intro k hl
      by_contra hk
      exact hsent ⟨k, hl, hk⟩
    rw [h.chan w j hself hother] at hx
    exact .inl hx

theorem Adopted.pending (h : Adopted T s s' v i b) {w : V} {j : ℕ} {key : Id ×ₗ ℕ}
    (hp : s.Pending w j key) : s'.Pending w j key ∨ (w = v ∧ j = i ∧ b.key = key) := by
  obtain ⟨x, hx, rfl⟩ := hp
  by_cases hself : w = v ∧ j = i
  · obtain ⟨rfl, rfl⟩ := hself
    rw [h.self] at hx
    rcases List.mem_cons.1 hx with rfl | hx
    · exact .inr ⟨rfl, rfl, rfl⟩
    · exact .inl ⟨x, hx, rfl⟩
  refine .inl ⟨x, ?_, rfl⟩
  by_cases hsent : ∃ k, T.connectedDevice v k = some (w, j) ∧ k ≠ i
  · obtain ⟨k, hl, hk⟩ := hsent
    rw [h.sent w j k hl hk]
    exact List.mem_append_left _ hx
  · have hother : ∀ k, T.connectedDevice v k = some (w, j) → k = i := by
      intro k hl
      by_contra hk
      exact hsent ⟨k, hl, hk⟩
    rwa [h.chan w j hself hother]

theorem Adopted.key (h : Adopted T s s' v i b) : (s'.spt v).key = b.key := by
  rw [h.spt_self]
  rfl

theorem Adopted.rootPort_iff (h : Adopted T s s' v i b) {w : V} {j : ℕ} (hw : w ≠ v) :
    s'.RootPort w j ↔ s.RootPort w j := by
  unfold RootPort
  rw [h.spt w hw]

theorem Inv.rootId_lt (inv : Inv T s) (hlt : b.key < (s.spt v).key) : b.rootId < T.switchId v := by
  rcases Prod.Lex.toLex_lt_toLex.1 hlt with hlt | ⟨heq, hlt⟩
  · exact hlt.trans_le (inv.rootId_le v)
  · dsimp only at heq hlt
    rw [heq]
    refine (inv.rootId_le v).lt_of_ne fun hown => ?_
    have hzero : (s.spt v).rootPathCost = 0 := inv.rooted v (hown.trans (inv.switchId v).symm)
    omega

theorem advert_lt_advert {spt spt' : Spt Id} (hcost : spt'.stpCost = spt.stpCost)
    (h : spt'.key < spt.key) : spt'.advert < spt.advert := by
  rcases Prod.Lex.toLex_lt_toLex.1 h with h | ⟨heq, h⟩
  · exact Prod.Lex.toLex_lt_toLex.2 (.inl h)
  · refine Prod.Lex.toLex_lt_toLex.2 (.inr ⟨heq, ?_⟩)
    omega

/-- What follows when `v` takes over `b`, which its neighbour `u` has sent. -/
structure Better (T : Topology V Id) (s s' : Net V Id) (v : V) (i : ℕ) (b : Bpdu Id) (u : V) (j : ℕ) :
    Prop extends Adopted T s s' v i b where
  link : T.connectedDevice u j = some (v, i)
  tells : Tells T v b.key
  advert_le : (s.spt u).advert ≤ b.key
  key_lt : b.key < (s.spt v).key
  rootId_lt : b.rootId < T.switchId v
  advert_lt : (s'.spt v).advert < (s.spt v).advert
  key_copy : (copyBpdu (s.lan v) b).key = (s'.spt v).advert

theorem Inv.better (inv : Inv T s) (hc : compareBpdu b (s.spt v) i = .forward)
    (hwrap : NoWrap (s.spt v) b) (h : Adopted T s s' v i b) : ∃ u j, Better T s s' v i b u j := by
  have hlt : b.key < (s.spt v).key := lt_of_forward hc
  have hmem : b ∈ s.chan v i := by
    rw [h.self]
    exact List.mem_cons_self
  obtain ⟨u, j, hl, hadv, htells⟩ := inv.chan v i b hmem
  refine ⟨u, j, h, hl, htells, hadv, hlt, inv.rootId_lt hlt, ?_, ?_⟩
  · refine advert_lt_advert ?_ (h.key ▸ hlt)
    rw [h.spt_self]
    rfl
  · rw [h.spt_self]
    exact key_copyBpdu hwrap i

section Better

variable {u₀ : V} {j₀ : ℕ}

theorem Better.ends (_ : Better T s s' v i b u₀ j₀) {u w : V} {j k x : ℕ}
    (hl : T.connectedDevice u j = some (w, k)) (hl' : T.connectedDevice v x = some (w, k)) : u = v := by
  have := (T.symm hl).symm.trans (T.symm hl')
  simp only [Option.some.injEq, Prod.mk.injEq] at this
  exact this.1

section

variable (h : Better T s s' v i b u₀ j₀)

include h

variable {j : ℕ}

theorem Better.eq_of_rootPort (hr : s'.RootPort v j) : i = j := by
  have := hr.2
  rwa [h.spt_self] at this

theorem Better.rootPort (inv : Inv T s) : s'.RootPort v i := by
  refine ⟨?_, ?_⟩
  · rw [h.spt_self]
    exact ne_of_lt (inv.switchId v ▸ h.rootId_lt)
  · rw [h.spt_self]
    rfl

theorem Better.advert_le_of_le {u : V} {key : Id ×ₗ ℕ}
    (hle : (s.spt u).advert ≤ key) : (s'.spt u).advert ≤ key := by
  by_cases hu : u = v
  · subst hu
    exact h.advert_lt.le.trans hle
  · rwa [h.spt u hu]

variable {w : V}

theorem Better.copy_mem {k : ℕ}
    (hl : T.connectedDevice v k = some (w, j)) (hk : k ≠ i) : s'.Pending w j (s'.spt v).advert := by
  refine ⟨_, ?_, h.key_copy⟩
  rw [h.sent w j k hl hk]
  exact List.mem_append_right _ List.mem_cons_self

theorem Better.spt_all {P : V → Spt Id → Prop}
    (hv : P v (updateSpt (s.spt v) b i)) (hall : ∀ w, P w (s.spt w)) (w : V) : P w (s'.spt w) := by
  by_cases hw : w = v
  · subst hw
    rwa [h.spt_self]
  · rw [h.spt w hw]
    exact hall w

theorem Better.mem_told (inv : Inv T s) (w : V) (j : ℕ) :
    ∀ x ∈ s'.chan w j, ∃ u k, T.connectedDevice u k = some (w, j) ∧
      (s'.spt u).advert ≤ x.key ∧ Tells T w x.key := by
  intro x hx
  rcases h.mem_chan hx with hx | ⟨rfl, k, hl, -⟩
  · obtain ⟨u, k, hl, hadv, ht⟩ := inv.chan w j x hx
    exact ⟨u, k, hl, h.advert_le_of_le hadv, ht⟩
  · refine ⟨v, k, hl, h.key_copy.ge, ?_⟩
    obtain ⟨r, c, hrc, hpath⟩ := h.tells
    refine ⟨r, c + T.stpCost v, ?_, hpath.snoc hl⟩
    rw [h.key_copy, h.spt_self, ← inv.stpCost v]
    obtain ⟨hr, hcost⟩ : b.rootId = T.switchId r ∧ b.rootPathCost = c := by
      simpa [Bpdu.key] using hrc
    simp [Spt.advert, updateSpt, hr, hcost]

theorem Better.sorted (inv : Inv T s) (w : V) (j : ℕ) :
    (s'.chan w j).Pairwise fun b b' => b'.key < b.key := by
  by_cases hself : w = v ∧ j = i
  · obtain ⟨rfl, rfl⟩ := hself
    have hsorted := inv.sorted w j
    rw [h.self] at hsorted
    exact hsorted.of_cons
  by_cases hsent : ∃ k, T.connectedDevice v k = some (w, j) ∧ k ≠ i
  · obtain ⟨k, hl, hk⟩ := hsent
    rw [h.sent w j k hl hk]
    refine List.pairwise_append.2 ⟨inv.sorted w j, List.pairwise_singleton _ _, ?_⟩
    intro x hx y hy
    rw [List.mem_singleton.1 hy, h.key_copy]
    obtain ⟨u, j', hl', hadv, -⟩ := inv.chan w j x hx
    obtain rfl : u = v := h.ends hl' hl
    exact h.advert_lt.trans_le hadv
  · have hother : ∀ k, T.connectedDevice v k = some (w, j) → k = i := by
      intro k hl
      by_contra hk
      exact hsent ⟨k, hl, hk⟩
    rw [h.chan w j hself hother]
    exact inv.sorted w j

theorem Better.key_lt_advert (inv : Inv T s) : (s'.spt u₀).key < (s'.spt v).advert := by
  have hstp : 0 < (s.spt u₀).stpCost := inv.stpCost u₀ ▸ T.stpCost_pos u₀
  have hstp' : 0 < (s'.spt v).stpCost := by
    rw [h.spt_self]
    exact inv.stpCost v ▸ T.stpCost_pos v
  rw [h.spt u₀ (T.irrefl h.link)]
  calc (s.spt u₀).key < (s.spt u₀).advert := Spt.key_lt_advert hstp
    _ ≤ b.key := h.advert_le
    _ = (s'.spt v).key := h.key.symm
    _ < (s'.spt v).advert := Spt.key_lt_advert hstp'

theorem Better.told (inv : Inv T s) {u : V} {k : ℕ} (hl : T.connectedDevice u j = some (w, k)) :
    (s'.spt w).key ≤ (s'.spt u).advert ∨ s'.Pending w k (s'.spt u).advert := by
  by_cases hu : u = v
  · subst hu
    by_cases hj : j = i
    · subst hj
      obtain rfl : w = u₀ := by
        have := hl.symm.trans (T.symm h.link)
        simp only [Option.some.injEq, Prod.mk.injEq] at this
        exact this.1
      exact .inl (h.key_lt_advert inv).le
    · exact .inr (h.copy_mem hl hj)
  · rw [h.spt u hu]
    rcases inv.told hl with hk | hp
    · by_cases hw : w = v
      · subst hw
        rw [h.key]
        exact .inl (h.key_lt.le.trans hk)
      · rw [h.spt w hw]
        exact .inl hk
    · rcases h.pending hp with hp | ⟨rfl, rfl, hk⟩
      · exact .inr hp
      · exact .inl (h.key.trans hk).le

theorem Better.rootPort_link (inv : Inv T s) (hr : s'.RootPort w j) :
    ∃ u k, T.connectedDevice u k = some (w, j) ∧ (s'.spt u).advert ≤ (s'.spt w).key := by
  by_cases hw : w = v
  · subst hw
    obtain rfl := h.eq_of_rootPort hr
    rw [h.key]
    exact ⟨u₀, j₀, h.link, h.advert_le_of_le h.advert_le⟩
  · obtain ⟨u, k, hl, hadv⟩ := inv.rootPort ((h.rootPort_iff hw).1 hr)
    rw [h.spt w hw]
    exact ⟨u, k, hl, h.advert_le_of_le hadv⟩

theorem Better.fresh (inv : Inv T s)
    (hr : s'.RootPort w j) : ∀ x ∈ s'.chan w j, x.key < (s'.spt w).key := by
  intro x hx
  by_cases hw : w = v
  · subst hw
    obtain rfl := h.eq_of_rootPort hr
    have hsorted := inv.sorted w i
    rw [h.self] at hsorted
    rw [h.key]
    exact List.rel_of_pairwise_cons hsorted hx
  · have hr' := (h.rootPort_iff hw).1 hr
    rw [h.spt w hw]
    rcases h.mem_chan hx with hx | ⟨rfl, k, hl, -⟩
    · exact inv.fresh hr' x hx
    · obtain ⟨u, j', hl', hadv⟩ := inv.rootPort hr'
      obtain rfl : u = v := h.ends hl' hl
      exact h.key_copy.trans_lt (h.advert_lt.trans_le hadv)

theorem Better.blocked (inv : Inv T s) {x : V} {p q : ℕ}
    (hl : T.connectedDevice x p = some (w, q)) (hx : ¬ s'.RootPort x p) (hw : ¬ s'.RootPort w q)
    (hroots : (s'.spt x).rootId = (s'.spt w).rootId) :
    s'.portState x p = .blocking ∨ s'.portState w q = .blocking ∨
      s'.Pending x p (s'.spt w).advert ∨ s'.Pending w q (s'.spt x).advert ∨
      (s'.spt x).rootId = T.switchId x ∨ (s'.spt w).rootId = T.switchId w := by
  -- At its other interfaces `v` sends what it has taken over.
  by_cases hxv : x = v
  · subst hxv
    have hp : p ≠ i := by
      rintro rfl
      exact hx (h.rootPort inv)
    exact .inr (.inr (.inr (.inl (h.copy_mem hl hp))))
  by_cases hwv : w = v
  · subst hwv
    have hq : q ≠ i := by
      rintro rfl
      exact hw (h.rootPort inv)
    exact .inr (.inr (.inl (h.copy_mem (T.symm hl) hq)))
  rw [h.rootPort_iff hxv] at hx
  rw [h.rootPort_iff hwv] at hw
  rw [h.spt x hxv, h.spt w hwv] at hroots ⊢
  rw [h.portState, h.portState]
  rcases inv.blocked hl hx hw hroots with hb | hb | hp | hp | hown
  · exact .inl hb
  · exact .inr (.inl hb)
  · rcases h.pending hp with hp | ⟨rfl, -⟩
    · exact .inr (.inr (.inl hp))
    · exact absurd rfl hxv
  · rcases h.pending hp with hp | ⟨rfl, -⟩
    · exact .inr (.inr (.inr (.inl hp)))
    · exact absurd rfl hwv
  · exact .inr (.inr (.inr (.inr hown)))

end

theorem Inv.adopted (inv : Inv T s) (h : Better T s s' v i b u₀ j₀) : Inv T s' where
  switchId := h.spt_all (P := fun w spt => spt.switchId = T.switchId w) (inv.switchId v) inv.switchId
  stpCost := h.spt_all (P := fun w spt => spt.stpCost = T.stpCost w) (inv.stpCost v) inv.stpCost
  rooted := h.spt_all (P := fun _ spt => spt.Rooted)
    (fun hown => absurd (hown.trans (inv.switchId v)) h.rootId_lt.ne) inv.rooted
  rootId_le := h.spt_all (P := fun w spt => spt.rootId ≤ T.switchId w) h.rootId_lt.le inv.rootId_le
  tells := h.spt_all (P := fun w spt => Tells T w spt.key) h.tells inv.tells
  chan := h.mem_told inv
  sorted := h.sorted inv
  told := h.told inv
  rootPort := h.rootPort_link inv
  fresh := h.fresh inv
  blocked := h.blocked inv
  states := fun w j => by
    rw [h.portState]
    exact inv.states w j

end Better

/-! ## Runs -/

section Runs

variable [DecidableEq V]

theorem sendConfigBpdus_apply (hT : T.Simple) (lan : V → Lan Id) {w u : V} {j k : ℕ}
    (hl : T.connectedDevice w j = some (u, k)) {vs : List V} (hnd : vs.Nodup)
    {chan : V → ℕ → List (Bpdu Id)} :
    sendConfigBpdus T lan vs chan w j =
      if u ∈ vs then chan w j ++ [createBpdu (lan u)] else chan w j := by
  induction vs generalizing chan with
  | nil => rfl
  | cons v vs ih =>
    obtain ⟨hv, hnd⟩ := List.nodup_cons.1 hnd
    rw [sendConfigBpdus, ih hnd]
    by_cases huv : u = v
    · subst huv
      have hmem : w ∈ dest T u none := mem_dest.2 ⟨k, j, T.symm hl, nofun⟩
      rw [if_neg hv, if_pos List.mem_cons_self, multicast_apply hT hl (nodup_dest hT _ _), if_pos hmem]
      intro w' hw'
      obtain ⟨k', j', hl', -⟩ := mem_dest.1 hw'
      exact ⟨k', j', hl'⟩
    · have hne : ∀ k', T.connectedDevice w j ≠ some (v, k') := by
        intro k' hk'
        have := hl.symm.trans hk'
        simp only [Option.some.injEq, Prod.mk.injEq] at this
        exact huv this.1
      rw [multicast_apply_of_ne hne]
      simp only [List.mem_cons, huv, false_or]

theorem sendConfigBpdus_apply_of_none (lan : V → Lan Id) {w : V} {j : ℕ}
    (hl : T.connectedDevice w j = none) {vs : List V} {chan : V → ℕ → List (Bpdu Id)} :
    sendConfigBpdus T lan vs chan w j = chan w j := by
  induction vs generalizing chan with
  | nil => rfl
  | cons v vs ih =>
    rw [sendConfigBpdus, ih]
    exact multicast_apply_of_ne fun k hk => nomatch hl.symm.trans hk

omit [DecidableEq V] in
def Covers (order : List V) : Prop := order.Nodup ∧ ∀ v, v ∈ order

theorem chan_start (hT : T.Simple) {order : List V} (horder : Covers order) {w u : V} {j k : ℕ}
    (hl : T.connectedDevice w j = some (u, k)) :
    (start T order).chan w j = [createBpdu (startSpt T u)] := by
  have h : sendConfigBpdus T (startSpt T) order (fun _ _ => []) w j = _ :=
    sendConfigBpdus_apply hT _ hl horder.1
  rw [if_pos (horder.2 u)] at h
  exact h

theorem inv_start (hT : T.Simple) {order : List V} (horder : Covers order) :
    Inv T (start T order) := by
  have hadvert : ∀ v, (createBpdu (startSpt T v)).key = ((start T order).spt v).advert :=
    fun v => key_createBpdu _ rfl
  have hmem : ∀ w j, ∀ b ∈ (start T order).chan w j, ∃ u k, T.connectedDevice u k = some (w, j) ∧
      b = createBpdu (startSpt T u) := by
    intro w j b hb
    cases hl : T.connectedDevice w j with
    | none =>
      have hnil : (start T order).chan w j = [] := sendConfigBpdus_apply_of_none _ hl
      rw [hnil] at hb
      cases hb
    | some x =>
      rw [chan_start hT horder hl] at hb
      exact ⟨x.1, x.2, T.symm hl, List.mem_singleton.1 hb⟩
  refine ⟨fun _ => rfl, fun _ => rfl, fun _ _ => rfl, fun _ => le_rfl, fun v => ⟨v, 0, rfl, .nil⟩,
    ?_, ?_, ?_, fun hr => absurd rfl hr.1, fun hr => absurd rfl hr.1, ?_, fun _ _ => .inl rfl⟩
  · intro w j b hb
    obtain ⟨u, k, hl, rfl⟩ := hmem w j b hb
    refine ⟨u, k, hl, (hadvert u).ge, u, 0 + T.stpCost u, ?_, .snoc .nil hl⟩
    rw [Nat.zero_add]
    rfl
  · intro w j
    cases hl : T.connectedDevice w j with
    | none =>
      have hnil : (start T order).chan w j = [] := sendConfigBpdus_apply_of_none _ hl
      rw [hnil]
      exact .nil
    | some x =>
      rw [chan_start hT horder hl]
      exact List.pairwise_singleton _ _
  · intro u j w k hl
    refine .inr ⟨_, ?_, hadvert u⟩
    rw [chan_start hT horder (T.symm hl)]
    exact List.mem_cons_self
  · exact fun _ _ _ _ => .inr (.inr (.inr (.inr (.inl rfl))))

def FitsWord (s : Net V Id) (x : V × ℕ) : Prop :=
  ∀ b ∈ (s.chan x.1 x.2).head?, compareBpdu b (s.spt x.1) x.2 = .forward → NoWrap (s.spt x.1) b

theorem Inv.cases_step (hT : T.Simple) (inv : Inv T s) (hfits : s.FitsWord (v, i))
    (h : step T s (v, i) = some s') :
    ∃ b, (s.chan v i).head? = some b ∧
      ((compareBpdu b (s.spt v) i ≠ .forward ∧
        Kept s s' v i b (compareBpdu b (s.spt v) i = .block)) ∨
      (compareBpdu b (s.spt v) i = .forward ∧ ∃ u j, Better T s s' v i b u j)) := by
  obtain ⟨b, ⟨hc, hkept⟩ | ⟨hc, hadopted⟩⟩ := step_cases hT h
  · exact ⟨b, by rw [hkept.self]; rfl, .inl ⟨hc, hkept⟩⟩
  · have hhead : (s.chan v i).head? = some b := by
      rw [hadopted.self]
      rfl
    exact ⟨b, hhead, .inr ⟨hc, inv.better hc (hfits b hhead hc) hadopted⟩⟩

theorem Inv.step (hT : T.Simple) (inv : Inv T s) (hfits : s.FitsWord (v, i))
    (h : step T s (v, i) = some s') : Inv T s' := by
  obtain ⟨b, -, ⟨hc, hkept⟩ | ⟨-, u, j, hbetter⟩⟩ := inv.cases_step hT hfits h
  · exact inv.kept hc hkept
  · exact inv.adopted hbetter

end Runs

/-! ## When no BPDU is in flight -/

section Quiet

variable {w : V} {j : ℕ} (inv : Inv T s) (hquiet : s.Quiet)
include inv hquiet

theorem Inv.key_le (hl : T.connectedDevice v i = some (w, j)) :
    (s.spt w).key ≤ (s.spt v).advert := by
  rcases inv.told hl with hk | ⟨b, hb, -⟩
  · exact hk
  · rw [hquiet] at hb
    cases hb

theorem Inv.rootId_le_of_reaches {u : V}
    (h : Relation.ReflTransGen (fun v w => ∃ i j, T.connectedDevice v i = some (w, j)) v u) :
    (s.spt u).rootId ≤ (s.spt v).rootId := by
  induction h with
  | refl => exact le_rfl
  | tail _ hl ih =>
    obtain ⟨i, j, hl⟩ := hl
    refine le_trans ?_ ih
    rcases Prod.Lex.toLex_le_toLex.1 (inv.key_le hquiet hl) with hlt | ⟨heq, -⟩
    · exact hlt.le
    · exact heq.le

section

variable {r : V} (hr : ∀ v, T.switchId r ≤ T.switchId v)

include hr

theorem Inv.rootId_eq (v : V) : (s.spt v).rootId = T.switchId r := by
  refine le_antisymm ?_ ?_
  · exact (inv.rootId_le_of_reaches hquiet (T.connected r v)).trans (inv.rootId_le r)
  · obtain ⟨r', c, hkey, -⟩ := inv.tells v
    obtain ⟨hr', -⟩ : (s.spt v).rootId = T.switchId r' ∧ (s.spt v).rootPathCost = c := by
      simpa [Spt.key] using hkey
    rw [hr']
    exact hr r'

theorem Inv.cost_le (hl : T.connectedDevice v i = some (w, j)) :
    (s.spt w).rootPathCost ≤ (s.spt v).rootPathCost + T.stpCost v := by
  have hroot := inv.rootId_eq hquiet hr
  rcases Prod.Lex.toLex_le_toLex.1 (inv.key_le hquiet hl) with hlt | ⟨-, hle⟩
  · rw [hroot, hroot] at hlt
    exact absurd hlt (lt_irrefl _)
  · rwa [← inv.stpCost v]

theorem Inv.isLeast (v : V) : IsLeast {c | PathCost T r v c} (s.spt v).rootPathCost := by
  constructor
  · obtain ⟨r', c, hkey, hpath⟩ := inv.tells v
    obtain ⟨hr', rfl⟩ : (s.spt v).rootId = T.switchId r' ∧ (s.spt v).rootPathCost = c := by
      simpa [Spt.key] using hkey
    obtain rfl : r' = r := T.switchId_injective (hr'.symm.trans (inv.rootId_eq hquiet hr v))
    exact hpath
  · intro c hc
    induction hc with
    | nil =>
      have hown : (s.spt r).rootId = (s.spt r).switchId := by
        rw [inv.rootId_eq hquiet hr, inv.switchId]
      exact (inv.rooted r hown).le
    | snoc _ hl ih => exact (inv.cost_le hquiet hr hl).trans (Nat.add_le_add_right ih _)

end

end Quiet

end Net

end NetSim.Ethernet
