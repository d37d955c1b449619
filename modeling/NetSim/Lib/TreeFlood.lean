import Mathlib

/-!
# Relaying along the edges of a tree

A message leaves the root of a tree, and a vertex that receives it relays it, in any order. No
vertex receives two copies (`Flood.Once`).
-/

namespace NetSim.Lib

universe u

variable {V : Type u} {G : SimpleGraph V} {root u v w : V}

theorem notMem_support_of_dist_lt {q : G.Walk root u} (hq : q.length = G.dist root u)
    (h : G.dist root u < G.dist root v) : v ∉ q.support := by
  classical
  intro hv
  have hle : G.dist root v ≤ (q.takeUntil v hv).length := SimpleGraph.dist_le _
  have hlen := q.length_takeUntil_le_length hv
  omega

theorem eq_of_dist_add_one (hG : G.IsTree) (hu : G.Adj u v) (hw : G.Adj w v)
    (hud : G.dist root v = G.dist root u + 1) (hwd : G.dist root v = G.dist root w + 1) : u = w := by
  obtain ⟨p, hp, -⟩ := (hG.connected root v).exists_path_of_dist
  have hpen : ∀ {x : V}, G.Adj x v → G.dist root v = G.dist root x + 1 → x = p.penultimate := by
    intro x hx hd
    obtain ⟨q, hq, hlen⟩ := (hG.connected root x).exists_path_of_dist
    have hv : v ∉ q.support := notMem_support_of_dist_lt hlen (by omega)
    exact hG.isAcyclic.eq_penultimate_of_adj_end hp hx.symm
      (hG.isAcyclic.mem_support_of_ne_mem_support_of_adj_of_isPath hp hq hx.symm hv)
  rw [hpen hu hud, hpen hw hwd]

theorem exists_nearer (hG : G.Connected) (v : V) (hv : G.dist root v ≠ 0) :
    ∃ w, G.Adj w v ∧ G.dist root v = G.dist root w + 1 := by
  obtain ⟨p, -, hlen⟩ := hG.exists_path_of_dist root v
  have hnil : ¬ p.Nil := by
    intro hp
    have hzero := hp.length_eq_zero
    omega
  have hadj := p.adj_penultimate hnil
  refine ⟨p.penultimate, hadj, le_antisymm ?_ ?_⟩
  · have htri : G.dist root v ≤ G.dist root p.penultimate + G.dist p.penultimate v := hG.dist_triangle
    rwa [SimpleGraph.dist_eq_one_iff_adj.2 hadj] at htri
  · have hle : G.dist root p.penultimate ≤ p.dropLast.length := SimpleGraph.dist_le _
    have hdrop : p.dropLast.length = p.length - 1 := by simp
    omega

/-- The copies on their way, and the vertices that have received one. -/
structure Flood (V : Type u) where
  inFlight : Multiset (V × V)
  received : Multiset V

namespace Flood

/-- Every vertex a copy has been sent to. -/
def reached (s : Flood V) : Multiset V := s.inFlight.map Prod.snd + s.received

/-- The root has sent copies to the vertices in `out`. -/
def start (root : V) (out : Multiset V) : Flood V :=
  { inFlight := out.map fun w => (root, w), received := 0 }

/-- The copy from `u` to `v` has arrived, which leaves the copies in `rest`, and `v` relays it to
the vertices in `out`. -/
def arrive (s : Flood V) (v : V) (rest : Multiset (V × V)) (out : Multiset V) : Flood V :=
  { inFlight := rest + out.map fun w => (v, w), received := v ::ₘ s.received }

/-- No vertex is reached twice, the copies travel away from the root, and they come from vertices
that have received one. -/
structure Once (G : SimpleGraph V) (root : V) (s : Flood V) : Prop where
  nodup : (root ::ₘ s.reached).Nodup
  away : ∀ c ∈ s.inFlight, G.Adj c.1 c.2 ∧ G.dist root c.2 = G.dist root c.1 + 1
  parent : ∀ w ∈ s.reached, ∃ v ∈ root ::ₘ s.received, G.Adj v w ∧ G.dist root w = G.dist root v + 1

def Full (G : SimpleGraph V) (root : V) (s : Flood V) : Prop :=
  ∀ v ∈ root ::ₘ s.received, ∀ w, G.Adj v w → G.dist root w = G.dist root v + 1 → w ∈ s.reached

variable {s : Flood V} {rest : Multiset (V × V)} {out : Multiset V}

@[simp] theorem reached_start : (start root out).reached = out := by
  simp [reached, start]

theorem Once.start (hout : out.Nodup) (hadj : ∀ w ∈ out, G.Adj root w) :
    Once G root (start root out) := by
  have hdist : ∀ w ∈ out, G.dist root w = G.dist root root + 1 := by
    intro w hw
    rw [SimpleGraph.dist_self, SimpleGraph.dist_eq_one_iff_adj.2 (hadj w hw)]
  refine ⟨?_, ?_, ?_⟩
  · rw [reached_start, Multiset.nodup_cons]
    exact ⟨fun h => (hadj root h).ne rfl, hout⟩
  · intro c hc
    obtain ⟨w, hw, rfl⟩ := Multiset.mem_map.1 hc
    exact ⟨hadj w hw, hdist w hw⟩
  · intro w hw
    rw [reached_start] at hw
    exact ⟨root, Multiset.mem_cons_self _ _, hadj w hw, hdist w hw⟩

theorem Full.start (hadj : ∀ w, G.Adj root w → w ∈ out) : Full G root (start root out) := by
  intro v hv w hw _
  rw [reached_start]
  have hroot : v = root := by simpa [Flood.start] using hv
  exact hadj w (hroot ▸ hw)

theorem reached_arrive (hs : s.inFlight = (u, v) ::ₘ rest) :
    (s.arrive v rest out).reached = s.reached + out := by
  unfold reached arrive
  rw [hs, Multiset.map_add, Multiset.map_map, Multiset.map_cons]
  simp only [Function.comp_def, Multiset.map_id', Multiset.add_cons, Multiset.cons_add]
  congr 1
  rw [add_right_comm]

theorem Once.relay (h : Once G root s) (hG : G.IsTree) (hs : s.inFlight = (u, v) ::ₘ rest)
    (hw : G.Adj v w) (hne : w ≠ u) :
    G.dist root w = G.dist root v + 1 ∧ w ≠ root ∧ w ∉ s.reached := by
  have huv := h.away (u, v) (hs ▸ Multiset.mem_cons_self _ _)
  have hdist : G.dist root w = G.dist root v + 1 := by
    rcases hG.dist_eq_dist_add_one_of_adj root hw with hd | hd
    · exact absurd (eq_of_dist_add_one hG hw.symm huv.1 hd huv.2) hne
    · exact hd
  refine ⟨hdist, ?_, ?_⟩
  · rintro rfl
    rw [SimpleGraph.dist_self] at hdist
    omega
  · -- Its sender would be `v`, which has not received its copy.
    intro hmem
    obtain ⟨x, hx, hadj, hd⟩ := h.parent w hmem
    have hxv : x = v := eq_of_dist_add_one hG hadj hw hd hdist
    have hnd := h.nodup
    unfold reached at hnd
    rw [hs, Multiset.map_cons, Multiset.cons_add, Multiset.nodup_cons, Multiset.nodup_cons] at hnd
    rcases Multiset.mem_cons.1 hx with hx | hx
    · exact hnd.1 (Multiset.mem_cons.2 (.inl (hxv ▸ hx.symm)))
    · exact hnd.2.1 (Multiset.mem_add.2 (.inr (hxv ▸ hx)))

theorem Once.arrive (h : Once G root s) (hG : G.IsTree) (hs : s.inFlight = (u, v) ::ₘ rest)
    (hout : out.Nodup) (hadj : ∀ w ∈ out, G.Adj v w ∧ w ≠ u) : Once G root (s.arrive v rest out) := by
  have hrelay : ∀ w ∈ out, G.dist root w = G.dist root v + 1 ∧ w ≠ root ∧ w ∉ s.reached :=
    fun w hw => h.relay hG hs (hadj w hw).1 (hadj w hw).2
  refine ⟨?_, ?_, ?_⟩
  · rw [reached_arrive hs, ← Multiset.cons_add, Multiset.nodup_add]
    refine ⟨h.nodup, hout, ?_⟩
    rw [Multiset.disjoint_right]
    intro w hw hmem
    rcases Multiset.mem_cons.1 hmem with he | hmem
    · exact (hrelay w hw).2.1 he
    · exact (hrelay w hw).2.2 hmem
  · intro c hc
    rcases Multiset.mem_add.1 hc with hc | hc
    · exact h.away c (hs ▸ Multiset.mem_cons_of_mem hc)
    · obtain ⟨w, hw, rfl⟩ := Multiset.mem_map.1 hc
      exact ⟨(hadj w hw).1, (hrelay w hw).1⟩
  · intro w hw
    rw [reached_arrive hs] at hw
    rcases Multiset.mem_add.1 hw with hw | hw
    · obtain ⟨x, hx, hrest⟩ := h.parent w hw
      refine ⟨x, ?_, hrest⟩
      rcases Multiset.mem_cons.1 hx with hx | hx
      · exact Multiset.mem_cons.2 (.inl hx)
      · exact Multiset.mem_cons_of_mem (Multiset.mem_cons_of_mem hx)
    · exact ⟨v, Multiset.mem_cons_of_mem (Multiset.mem_cons_self _ _), (hadj w hw).1, (hrelay w hw).1⟩

theorem Full.arrive (h : Full G root s) (ho : Once G root s) (hs : s.inFlight = (u, v) ::ₘ rest)
    (hadj : ∀ w, G.Adj v w → w ≠ u → w ∈ out) : Full G root (s.arrive v rest out) := by
  have huv := ho.away (u, v) (hs ▸ Multiset.mem_cons_self _ _)
  intro x hx w hw hd
  rw [reached_arrive hs, Multiset.mem_add]
  have hx' : x = v ∨ x ∈ root ::ₘ s.received := by
    rcases Multiset.mem_cons.1 hx with hx | hx
    · exact .inr (Multiset.mem_cons.2 (.inl hx))
    · rcases Multiset.mem_cons.1 hx with hx | hx
      · exact .inl hx
      · exact .inr (Multiset.mem_cons_of_mem hx)
  rcases hx' with rfl | hx'
  · refine .inr (hadj w hw ?_)
    rintro rfl
    have hback := huv.2
    dsimp only at hback
    omega
  · exact .inl (h x hx' w hw hd)

theorem Once.nodup_received (h : Once G root s) : (root ::ₘ s.received).Nodup := by
  refine Multiset.nodup_of_le ?_ h.nodup
  exact Multiset.cons_le_cons _ (Multiset.le_add_left _ _)

theorem Full.mem_received (h : Full G root s) (hG : G.IsTree) (hs : s.inFlight = 0) (hv : v ≠ root) :
    v ∈ s.received := by
  suffices hmem : ∀ n v, G.dist root v = n → v ∈ root ::ₘ s.received by
    exact (Multiset.mem_cons.1 (hmem _ v rfl)).resolve_left hv
  intro n
  induction n with
  | zero =>
    intro v hd
    have he : root = v := (hG.connected.dist_eq_zero_iff).1 hd
    exact Multiset.mem_cons.2 (.inl he.symm)
  | succ n ih =>
    intro v hd
    have hne : G.dist root v ≠ 0 := by omega
    obtain ⟨w, hw, hwd⟩ := exists_nearer hG.connected v hne
    have hw' : w ∈ root ::ₘ s.received := ih w (by omega)
    have hreach := h w hw' v hw hwd
    unfold reached at hreach
    rw [hs, Multiset.map_zero, zero_add] at hreach
    exact Multiset.mem_cons_of_mem hreach

end Flood

end NetSim.Lib
