import NetSim.Zrp.QueryNetwork

/-!
# Query control

No node keeps a record of the queries it has seen: a query is sent on once at most by every node
only where the bordercast trees lead to each node along one way.
-/

namespace NetSim.Zrp

open NetSim.Lib Function

variable {Addr : Type} [DecidableEq Addr]

abbrev Zones (Addr : Type) := Addr → List Addr × List (Branch Addr)

namespace Zones

variable (zones : Zones Addr)

def borders (v : Addr) : List Addr := (zones v).2.map Branch.borderIP

/-- The node does not send a query for `dest` on. -/
def Stops (dest v : Addr) : Prop := dest = v ∨ dest ∈ (zones v).1

/-- The ways of a query for `dest` to a border: never straight back, through nodes that send it on.
-/
inductive Way (dest source : Addr) : List Addr → Addr → Prop
  | first {w : Addr} (hw : w ∈ zones.borders source) : Way dest source [source] w
  | next {u v w : Addr} {trail : List Addr} (way : Way dest source (u :: trail) v)
      (hv : ¬zones.Stops dest v) (hw : w ∈ zones.borders v) (hne : w ≠ u) :
      Way dest source (v :: u :: trail) w

structure OneWay (dest source : Addr) : Prop where
  nodup : ∀ v, (zones.borders v).Nodup
  unique : ∀ {trail trail' : List Addr} {w : Addr}, zones.Way dest source trail w →
    zones.Way dest source trail' w → trail = trail'
  not_source : ∀ trail, ¬zones.Way dest source trail source

end Zones

namespace QueryNet

/-- The counter of the node is one below the number of the packet, unless the node has no border to
send it to. -/
def Numbers (node : NodeZrp Addr) (packet : BrpPacket Addr) : Prop :=
  node.relayTargets packet.prevBordercastAddress = [] ∨
    (node.brpQueryId + 1) % 2 ^ 16 = packet.queryID

/-- The condition on a step: a query is sent where one way leads to each node, and the numbers fit
where it is sent on. -/
def Meets (s : QueryNet Addr) : QueryAction Addr → Prop
  | .ask _ source dataPacket => Zones.OneWay s.zones dataPacket.szDestIP source
  | .hop c v => c.packet.szDestIP = v →
    ¬(s.node v).Knows v c.packet.encapsulatedPacket.routeDestinationAddress →
      Numbers (s.node v) c.packet
  | _ => True

def Covered (s : QueryNet Addr) (numbered : ℕ) (v : Addr) : Prop :=
  (numbered, v) ∈ s.relayed ∨ ∃ q ∈ s.asked, q.numbered = numbered ∧ q.source = v

/-- `v` sends the copy `c` on for the first time, to nodes that have not covered their zones, under
its identity. -/
structure RelaysOnce (s : QueryNet Addr) (c : Copy Addr) (v : Addr)
    (copies : List (BrpPacket Addr)) : Prop where
  first : ¬s.Covered c.transmission.numbered v
  uncovered : ∀ p ∈ copies, p.szDestIP ≠ v ∧ ¬s.Covered c.transmission.numbered p.szDestIP
  identity : ∀ p ∈ copies, p.querySourceAddress = c.packet.querySourceAddress ∧
    p.queryID = c.packet.queryID
  alone : ∀ node : NodeZrp Addr, (node.zone, node.bodercastTree) = s.zones v →
    Numbers node c.packet → ∃ node', node.brpProcessPacket v c.packet =
      some (node', .relayed copies)

def Controlled (s : QueryNet Addr) : QueryAction Addr → Prop
  | .hop c v => ∀ node copies, (s.node v).brpProcessPacket v c.packet =
    some (node, .relayed copies) → s.RelaysOnce c v copies
  | _ => True

/-- Every node has sent a query on once at most, along each of its branches. -/
structure Sparse (s : QueryNet Addr) : Prop where
  relayed : s.relayed.Nodup
  branches : (s.sent.map fun t => (t.numbered, t.sender, t.border)).Nodup
  along : ∀ t ∈ s.sent, t.border ∈ Zones.borders s.zones t.sender
  few : ∀ (numbered : ℕ) (nodes : Finset Addr),
    (∀ t ∈ s.sent, t.numbered = numbered → t.sender ∈ nodes) →
      (s.sent.filter fun t => t.numbered = numbered).length ≤
        ∑ v ∈ nodes, (Zones.borders s.zones v).length

variable {s s' : QueryNet Addr}

/-! ## The zones stay -/

variable {node : NodeZrp Addr}

theorem zones_update {v : Addr} (h : (node.zone, node.bodercastTree) = s.zones v) :
    (fun w => ((update s.node v node w).zone,
      (update s.node v node w).bodercastTree)) = s.zones := by
  funext w
  by_cases hw : w = v
  · subst hw
    rw [update_self]
    exact h
  · rw [update_of_ne hw]
    rfl

theorem zone_bufferPacket (node : NodeZrp Addr) (me : Addr) (dataPacket : Buffered Addr) :
    ((node.bufferPacket me dataPacket).1.zone, (node.bufferPacket me dataPacket).1.bodercastTree) =
      (node.zone, node.bodercastTree) := by
  unfold NodeZrp.bufferPacket
  dsimp only
  split
  · rfl
  · rfl

theorem zone_generateRouteReply {me : Addr} {request : IerpPacket Addr}
    {r : NodeZrp Addr × Option (ReplyPacket Addr)}
    (h : node.generateRouteReply me request = some r) :
    (r.1.zone, r.1.bodercastTree) = (node.zone, node.bodercastTree) := by
  unfold NodeZrp.generateRouteReply at h
  split at h
  · cases h
    rfl
  · split at h
    · cases h
    · cases h
      rfl

theorem zone_brpProcessPacket {node' : NodeZrp Addr} {me : Addr} {packet : BrpPacket Addr}
    {outcome : NodeZrp.Outcome Addr} (h : node.brpProcessPacket me packet = some (node', outcome)) :
    (node'.zone, node'.bodercastTree) = (node.zone, node.bodercastTree) := by
  rcases NodeZrp.brpProcessPacket_cases h with
    ⟨-, reply, hreply, -⟩ | ⟨-, ⟨-, rfl, -⟩ | ⟨-, rfl, -⟩⟩
  · exact zone_generateRouteReply hreply
  · rfl
  · rfl

theorem zone_processRouteReply (node : NodeZrp Addr) (me : Addr) (packet : ReplyPacket Addr) :
    ((node.processRouteReply me packet).1.zone, (node.processRouteReply me packet).1.bodercastTree) =
      (node.zone, node.bodercastTree) := by
  unfold NodeZrp.processRouteReply NodeZrp.routePacketFromBuffer NodeZrp.extractRouteFromReply
  dsimp only
  split
  · rfl
  · rfl

/-! ## The invariant -/

/-- Every transmission follows a way; a copy in flight belongs to one; a node that relays has
received one. -/
structure Inv (s : QueryNet Addr) : Prop where
  oneWay : ∀ q ∈ s.asked, Zones.OneWay s.zones q.dest q.source
  numbered : (s.asked.map Query.numbered).Nodup
  way : ∀ t ∈ s.sent, ∃ q ∈ s.asked, q.numbered = t.numbered ∧
    Zones.Way s.zones q.dest q.source t.trail t.border
  nodup : s.sent.Nodup
  sender : ∀ t ∈ s.sent, s.Covered t.numbered t.sender
  copies : (s.copies.map Copy.transmission).Nodup
  carried : ∀ c ∈ s.copies, c.transmission ∈ s.sent ∧
    c.packet.szDestIP = c.transmission.border ∧
      c.packet.prevBordercastAddress = c.transmission.sender ∧
        ∃ q ∈ s.asked, q.numbered = c.transmission.numbered ∧
          c.packet.encapsulatedPacket.routeDestinationAddress = q.dest
  arrived : ∀ r ∈ s.relayed, ∃ t ∈ s.sent, t.numbered = r.1 ∧ t.border = r.2 ∧
    t ∉ s.copies.map Copy.transmission
  relayed : s.relayed.Nodup

variable {c : Copy Addr} {q q' : Query Addr} {t t' : Transmission Addr} {v : Addr}

theorem Inv.query_unique (h : s.Inv) (hq : q ∈ s.asked) (hq' : q' ∈ s.asked)
    (heq : q.numbered = q'.numbered) : q = q' :=
  List.inj_on_of_nodup_map h.numbered hq hq' heq

theorem Inv.eq_of_border (h : s.Inv) (ht : t ∈ s.sent) (ht' : t' ∈ s.sent)
    (hnumbered : t.numbered = t'.numbered) (hborder : t.border = t'.border) : t = t' := by
  obtain ⟨q, hq, hqt, hway⟩ := h.way t ht
  obtain ⟨q', hq', hqt', hway'⟩ := h.way t' ht'
  obtain rfl := h.query_unique hq hq' (hqt.trans (hnumbered.trans hqt'.symm))
  rw [← hborder] at hway'
  have htrail := (h.oneWay q hq).unique hway hway'
  cases t
  cases t'
  simp only [Transmission.trail, List.cons.injEq] at htrail
  simp_all

theorem Inv.not_covered (h : s.Inv) (ht : t ∈ s.sent)
    (hflies : t ∈ s.copies.map Copy.transmission) : ¬s.Covered t.numbered t.border := by
  rintro (hrelayed | ⟨q', hq', hnumbered, hsource⟩)
  · obtain ⟨t', ht', hnumbered, hborder, hnot⟩ := h.arrived _ hrelayed
    exact hnot (h.eq_of_border ht ht' hnumbered.symm hborder.symm ▸ hflies)
  · obtain ⟨q, hq, hqt, hway⟩ := h.way t ht
    obtain rfl := h.query_unique hq hq' (hqt.trans hnumbered.symm)
    rw [← hsource] at hway
    exact (h.oneWay q hq).not_source _ hway

/-! ## One step -/

variable {packets : List (BrpPacket Addr)} {before : List Addr}

variable {numbered : ℕ}

theorem mem_transmissions :
    t ∈ (packets.map (copyOf numbered before v)).map Copy.transmission ↔
      ∃ p ∈ packets, t = ⟨numbered, v, before, p.szDestIP⟩ := by
  rw [List.map_map, List.mem_map]
  constructor
  · rintro ⟨p, hp, rfl⟩
    exact ⟨p, hp, rfl⟩
  · rintro ⟨p, hp, rfl⟩
    exact ⟨p, hp, rfl⟩

theorem nodup_transmissions (h : (packets.map BrpPacket.szDestIP).Nodup) :
    ((packets.map (copyOf numbered before v)).map Copy.transmission).Nodup := by
  have hmap : (packets.map (copyOf numbered before v)).map Copy.transmission =
      (packets.map BrpPacket.szDestIP).map fun border => ⟨numbered, v, before, border⟩ := by
    rw [List.map_map, List.map_map]
    rfl
  rw [hmap]
  exact h.map fun b b' heq => (Transmission.mk.inj heq).2.2.2

theorem Inv.bordercast (h : s.Inv) (hq : q ∈ s.asked)
    (hfree : ∀ t ∈ s.sent, t.numbered = q.numbered → t.sender ≠ v)
    (hcovered : s.Covered q.numbered v) (hnodup : (packets.map BrpPacket.szDestIP).Nodup)
    (hpackets : ∀ p ∈ packets, Zones.Way s.zones q.dest q.source (v :: before) p.szDestIP ∧
      p.prevBordercastAddress = v ∧ p.encapsulatedPacket.routeDestinationAddress = q.dest) :
    (s.bordercast q.numbered before v packets).Inv := by
  have hnew : ∀ t ∈ s.sent,
      t ∉ (packets.map (copyOf q.numbered before v)).map Copy.transmission := by
    intro t ht hmem
    obtain ⟨p, -, rfl⟩ := mem_transmissions.1 hmem
    exact hfree _ ht rfl rfl
  refine ⟨h.oneWay, h.numbered, ?_, ?_, ?_, ?_, ?_, ?_, h.relayed⟩
  · intro t ht
    rcases List.mem_append.1 ht with ht | ht
    · exact h.way t ht
    · obtain ⟨p, hp, rfl⟩ := mem_transmissions.1 ht
      exact ⟨q, hq, rfl, (hpackets p hp).1⟩
  · refine List.nodup_append.2 ⟨h.nodup, nodup_transmissions hnodup, ?_⟩
    rintro t ht t' ht' rfl
    exact hnew t ht ht'
  · intro t ht
    rcases List.mem_append.1 ht with ht | ht
    · exact h.sender t ht
    · obtain ⟨p, -, rfl⟩ := mem_transmissions.1 ht
      exact hcovered
  · change ((s.copies ++ _).map Copy.transmission).Nodup
    rw [List.map_append]
    refine List.nodup_append.2 ⟨h.copies, nodup_transmissions hnodup, ?_⟩
    rintro t ht t' ht' rfl
    obtain ⟨c, hc, rfl⟩ := List.mem_map.1 ht
    exact hnew _ (h.carried c hc).1 ht'
  · intro c hc
    rcases List.mem_append.1 hc with hc | hc
    · obtain ⟨hsent, hrest⟩ := h.carried c hc
      exact ⟨List.mem_append_left _ hsent, hrest⟩
    · obtain ⟨p, hp, rfl⟩ := List.mem_map.1 hc
      obtain ⟨-, hprev, hdest⟩ := hpackets p hp
      exact ⟨List.mem_append_right _ (List.mem_map_of_mem hc), rfl, hprev, q, hq, rfl, hdest⟩
  · intro r hr
    obtain ⟨t, ht, hnumbered, hborder, hnot⟩ := h.arrived r hr
    refine ⟨t, List.mem_append_left _ ht, hnumbered, hborder, ?_⟩
    change t ∉ (s.copies ++ _).map Copy.transmission
    rw [List.map_append, List.mem_append, not_or]
    exact ⟨hnot, hnew t ht⟩

theorem Inv.erase (h : s.Inv) (c : Copy Addr) : Inv { s with copies := s.copies.erase c } := by
  have hsub : (s.copies.erase c).Sublist s.copies := List.erase_sublist
  have hmap := hsub.map Copy.transmission
  refine ⟨h.oneWay, h.numbered, h.way, h.nodup, h.sender, h.copies.sublist hmap, ?_, ?_, h.relayed⟩
  · exact fun c' hc' => h.carried c' (hsub.subset hc')
  · intro r hr
    obtain ⟨t, ht, hnumbered, hborder, hnot⟩ := h.arrived r hr
    exact ⟨t, ht, hnumbered, hborder, fun hmem => hnot (hmap.subset hmem)⟩

theorem Inv.transmission_erased (h : s.Inv) (hc : c ∈ s.copies) :
    c.transmission ∉ (s.copies.erase c).map Copy.transmission := by
  have hperm := (List.perm_cons_erase hc).map Copy.transmission
  have hnodup := hperm.nodup_iff.1 h.copies
  rw [List.map_cons, List.nodup_cons] at hnodup
  exact hnodup.1

theorem Inv.of_zones {node : Addr → NodeZrp Addr} (h : s.Inv)
    (hzones : (fun w => ((node w).zone, (node w).bodercastTree)) = s.zones) :
    Inv { s with node := node } := by
  have hsame : QueryNet.zones { s with node := node } = s.zones := hzones
  refine ⟨?_, h.numbered, ?_, h.nodup, h.sender, h.copies, h.carried, h.arrived, h.relayed⟩
  · rw [hsame]
    exact h.oneWay
  · rw [hsame]
    exact h.way

theorem Inv.replies (h : s.Inv) (replies : List (ReplyCopy Addr)) :
    Inv { s with replies := replies } :=
  ⟨h.oneWay, h.numbered, h.way, h.nodup, h.sender, h.copies, h.carried, h.arrived, h.relayed⟩

theorem Inv.pass (h : s.Inv) (hc : c ∈ s.copies) (w : Addr) (packet : BrpPacket Addr)
    (hdest : packet.szDestIP = c.packet.szDestIP)
    (hprev : packet.prevBordercastAddress = c.packet.prevBordercastAddress)
    (hroute : packet.encapsulatedPacket.routeDestinationAddress =
      c.packet.encapsulatedPacket.routeDestinationAddress) :
    Inv { s with copies := s.copies.erase c ++ [{ c with holder := w, packet := packet }] } := by
  have hperm : ((s.copies.erase c ++ [{ c with holder := w, packet := packet }]).map
      Copy.transmission).Perm (s.copies.map Copy.transmission) := by
    rw [List.map_append]
    exact List.perm_append_comm.trans ((List.perm_cons_erase hc).map Copy.transmission).symm
  refine ⟨h.oneWay, h.numbered, h.way, h.nodup, h.sender, hperm.nodup_iff.2 h.copies, ?_, ?_,
    h.relayed⟩
  · intro c' hc'
    rcases List.mem_append.1 hc' with hc' | hc'
    · exact h.carried c' (List.erase_subset hc')
    · obtain rfl := List.mem_singleton.1 hc'
      obtain ⟨hsent, hborder, hsender, hquery⟩ := h.carried c hc
      exact ⟨hsent, hdest.trans hborder, hprev.trans hsender, hroute ▸ hquery⟩
  · intro r hr
    obtain ⟨t, ht, hnumbered, hborder, hnot⟩ := h.arrived r hr
    exact ⟨t, ht, hnumbered, hborder, fun hmem => hnot (hperm.subset hmem)⟩

theorem Inv.query (h : s.Inv) (q : Query Addr) (hfresh : ∀ q' ∈ s.asked, q'.numbered ≠ q.numbered)
    (hway : Zones.OneWay s.zones q.dest q.source) : Inv { s with asked := q :: s.asked } := by
  refine ⟨?_, ?_, ?_, h.nodup, ?_, h.copies, ?_, h.arrived, h.relayed⟩
  · intro q' hq'
    rcases List.mem_cons.1 hq' with rfl | hq'
    · exact hway
    · exact h.oneWay q' hq'
  · rw [List.map_cons, List.nodup_cons, List.mem_map]
    exact ⟨fun ⟨q', hq', heq⟩ => hfresh q' hq' heq, h.numbered⟩
  · intro t ht
    obtain ⟨q', hq', hrest⟩ := h.way t ht
    exact ⟨q', List.mem_cons_of_mem _ hq', hrest⟩
  · intro t ht
    rcases h.sender t ht with hrelayed | ⟨q', hq', hrest⟩
    · exact .inl hrelayed
    · exact .inr ⟨q', List.mem_cons_of_mem _ hq', hrest⟩
  · intro c hc
    obtain ⟨hsent, hborder, hsender, q', hq', hrest⟩ := h.carried c hc
    exact ⟨hsent, hborder, hsender, q', List.mem_cons_of_mem _ hq', hrest⟩

theorem bufferPacket_packets (node : NodeZrp Addr) (me : Addr) (dataPacket : Buffered Addr) :
    (node.bufferPacket me dataPacket).2.map BrpPacket.szDestIP =
        node.bodercastTree.map Branch.borderIP ∧
      ∀ p ∈ (node.bufferPacket me dataPacket).2, p.prevBordercastAddress = me ∧
        p.encapsulatedPacket.routeDestinationAddress = dataPacket.szDestIP := by
  unfold NodeZrp.bufferPacket
  dsimp only
  split
  · next hempty =>
    rw [hempty]
    exact ⟨rfl, fun p hp => by cases hp⟩
  · refine ⟨NodeZrp.map_branchPackets _ _ _ _, fun p hp => ?_⟩
    obtain ⟨-, hprev, hrequest⟩ := NodeZrp.mem_branchPackets hp
    exact ⟨hprev, by rw [hrequest]⟩

theorem Inv.ask (h : s.Inv) {source : Addr} {dataPacket : Buffered Addr}
    (hfresh : ∀ q ∈ s.asked, q.numbered ≠ numbered)
    (hway : Zones.OneWay s.zones dataPacket.szDestIP source) :
    (s.ask numbered source dataPacket).Inv := by
  let q : Query Addr := ⟨numbered, source, dataPacket.szDestIP⟩
  have hzone := zone_bufferPacket (s.node source) source dataPacket
  obtain ⟨hdests, hpackets⟩ := bufferPacket_packets (s.node source) source dataPacket
  unfold QueryNet.ask
  generalize (s.node source).bufferPacket source dataPacket = r at hzone hdests hpackets
  obtain ⟨node, packets⟩ := r
  have hstays := zones_update hzone
  have hasked : Inv { s with node := update s.node source node, asked := q :: s.asked } :=
    (h.query q hfresh hway).of_zones hstays
  have hborders : packets.map BrpPacket.szDestIP = Zones.borders s.zones source := hdests
  have hq : q ∈ q :: s.asked := List.mem_cons_self
  refine hasked.bordercast hq ?_ ?_ ?_ ?_
  · intro t ht hnumbered
    obtain ⟨q', hq', hsame, -⟩ := h.way t ht
    exact absurd (hsame.trans hnumbered) (hfresh q' hq')
  · exact .inr ⟨q, List.mem_cons_self, rfl, rfl⟩
  · rw [hborders]
    exact hway.nodup source
  · intro p hp
    refine ⟨?_, hpackets p hp⟩
    have hzones : QueryNet.zones { s with
        node := update s.node source node, asked := q :: s.asked } = s.zones := hstays
    rw [hzones]
    apply Zones.Way.first
    rw [← hborders]
    exact List.mem_map_of_mem hp

theorem Inv.way_next (h : s.Inv) (hc : c ∈ s.copies) (hdest : c.packet.szDestIP = v)
    (hstops : ¬(s.node v).Knows v c.packet.encapsulatedPacket.routeDestinationAddress)
    {queryID : ℕ} {p : BrpPacket Addr}
    (hp : p ∈ (s.node v).relayCopies v (c.packet.visited v) queryID) :
    ∃ q ∈ s.asked, q.numbered = c.transmission.numbered ∧
      Zones.Way s.zones q.dest q.source (v :: c.transmission.trail) p.szDestIP ∧
      Zones.Way s.zones q.dest q.source c.transmission.trail v ∧
        p.prevBordercastAddress = v ∧ p.encapsulatedPacket.routeDestinationAddress = q.dest := by
  obtain ⟨hsent, hborder, hsender, q, hq, hnumbered, hroute⟩ := h.carried c hc
  obtain ⟨q', hq', hnumbered', hway⟩ := h.way _ hsent
  obtain rfl := h.query_unique hq hq' (hnumbered.trans hnumbered'.symm)
  rw [← hborder, hdest] at hway
  obtain ⟨⟨branch, hbranch, hne, hp'⟩, hprev, -, -, hrequest⟩ := NodeZrp.mem_relayCopies hp
  refine ⟨q, hq, hnumbered, ?_, hway, hprev, ?_⟩
  · apply Zones.Way.next hway
    · rw [hroute] at hstops
      exact hstops
    · rw [hp']
      exact List.mem_map_of_mem hbranch
    · rw [hp', ← hsender]
      exact hne
  · rw [hrequest]
    exact hroute

theorem nodup_relayCopies (h : (Zones.borders s.zones v).Nodup) (packet : BrpPacket Addr)
    (queryID : ℕ) : (((s.node v).relayCopies v packet queryID).map BrpPacket.szDestIP).Nodup := by
  have hmap : ((s.node v).relayCopies v packet queryID).map BrpPacket.szDestIP =
      ((s.node v).relayTargets packet.prevBordercastAddress).map Branch.borderIP := by
    unfold NodeZrp.relayCopies
    rw [List.map_map]
    rfl
  rw [hmap]
  exact h.sublist (List.filter_sublist.map _)

theorem relayCopies_congr {node' : NodeZrp Addr}
    (h : node.bodercastTree = node'.bodercastTree) (me : Addr) (packet : BrpPacket Addr)
    (queryID : ℕ) : node.relayCopies me packet queryID = node'.relayCopies me packet queryID := by
  unfold NodeZrp.relayCopies NodeZrp.relayTargets
  rw [h]

theorem relayCopies_of_numbers {packet : BrpPacket Addr} (h : Numbers node packet) (me : Addr) :
    node.relayCopies me (packet.visited me) ((node.brpQueryId + 1) % 2 ^ 16) =
      node.relayCopies me (packet.visited me) packet.queryID := by
  rcases h with hnone | hnumber
  · have hempty : node.relayTargets (packet.visited me).prevBordercastAddress = [] := hnone
    unfold NodeZrp.relayCopies
    rw [hempty]
    rfl
  · rw [hnumber]

theorem Inv.relaysOnce (h : s.Inv) (hc : c ∈ s.copies) (hdest : c.packet.szDestIP = v)
    (hstops : ¬(s.node v).Knows v c.packet.encapsulatedPacket.routeDestinationAddress)
    (hnumbers : Numbers (s.node v) c.packet) :
    s.RelaysOnce c v
      ((s.node v).relayCopies v (c.packet.visited v) (((s.node v).brpQueryId + 1) % 2 ^ 16)) := by
  obtain ⟨hsent, hborder, -⟩ := h.carried c hc
  have hfirst : ¬s.Covered c.transmission.numbered v := by
    rw [← hdest, hborder]
    exact h.not_covered hsent (List.mem_map_of_mem hc)
  refine ⟨hfirst, ?_, ?_, ?_⟩
  · intro p hp
    obtain ⟨q, hq, hnumbered, hway, hback, -⟩ := h.way_next hc hdest hstops hp
    have hone := h.oneWay q hq
    refine ⟨fun hself => ?_, ?_⟩
    · rw [hself] at hway
      exact absurd (hone.unique hway hback) (List.cons_ne_self _ _)
    · rintro (hrelayed | ⟨q', hq', hnumbered', hsource⟩)
      · -- The copy that has reached this border came from `v` too.
        obtain ⟨t, ht, htn, htb, -⟩ := h.arrived _ hrelayed
        obtain ⟨q', hq', hnumbered', hway'⟩ := h.way t ht
        obtain rfl := h.query_unique hq hq' (hnumbered.trans (htn.symm.trans hnumbered'.symm))
        rw [htb] at hway'
        have hsender : t.sender = v := (List.cons.inj (hone.unique hway' hway)).1
        have hcovered := h.sender t ht
        rw [hsender, htn] at hcovered
        exact hfirst hcovered
      · obtain rfl := h.query_unique hq hq' (hnumbered.trans hnumbered'.symm)
        rw [← hsource] at hway
        exact hone.not_source _ hway
  · intro p hp
    rw [relayCopies_of_numbers hnumbers] at hp
    obtain ⟨-, -, hid, hsource, -⟩ := NodeZrp.mem_relayCopies hp
    exact ⟨hsource, hid⟩
  · intro node hzone hnode
    obtain ⟨hzone, htree⟩ := Prod.mk.inj hzone
    have hstops' : ¬node.Knows v c.packet.encapsulatedPacket.routeDestinationAddress := by
      rwa [NodeZrp.Knows, hzone]
    rw [NodeZrp.brpProcessPacket_eq, if_neg hstops', if_pos hdest]
    refine ⟨{ node with brpQueryId := (node.brpQueryId + 1) % 2 ^ 16 }, ?_⟩
    dsimp only
    rw [relayCopies_of_numbers hnumbers, relayCopies_of_numbers hnode, relayCopies_congr htree]

theorem Inv.hop {s' : QueryNet Addr} (h : s.Inv) (hc : c ∈ s.copies)
    (hmeets : s.Meets (.hop c v)) (hstep : s.hop c v = some s') :
    s.Controlled (.hop c v) ∧ s'.Inv := by
  obtain ⟨⟨node, outcome⟩, hprocess, hs'⟩ := Option.map_eq_some_iff.1 hstep
  have hstays := zones_update (s := s) (zone_brpProcessPacket hprocess)
  rcases NodeZrp.brpProcessPacket_cases hprocess with
    ⟨-, reply, -, rfl⟩ | ⟨hstops, ⟨hdest, -, rfl⟩ | ⟨-, -, rfl⟩⟩
  · refine ⟨fun node' copies heq => ?_, ?_⟩
    · rw [hprocess] at heq
      cases heq
    · rw [← hs']
      exact ((h.erase c).of_zones hstays).replies _
  · have honce := h.relaysOnce hc hdest hstops (hmeets hdest hstops)
    refine ⟨fun node' copies heq => ?_, ?_⟩
    · rw [hprocess] at heq
      cases heq
      exact honce
    · rw [← hs']
      have hsent := (h.carried c hc).1
      have hrelayed : Inv { s with
          node := update s.node v node
          copies := s.copies.erase c
          relayed := (c.transmission.numbered, v) :: s.relayed } := by
        have herased := (h.erase c).of_zones hstays
        refine ⟨herased.oneWay, herased.numbered, herased.way, herased.nodup, ?_,
          herased.copies, herased.carried, ?_, ?_⟩
        · intro t ht
          rcases herased.sender t ht with hrelayed | hasked
          · exact .inl (List.mem_cons_of_mem _ hrelayed)
          · exact .inr hasked
        · intro r hr
          rcases List.mem_cons.1 hr with rfl | hr
          · have hborder := (h.carried c hc).2.1
            exact ⟨c.transmission, hsent, rfl, hborder ▸ hdest, h.transmission_erased hc⟩
          · exact herased.arrived r hr
        · exact List.nodup_cons.2 ⟨fun hmem => honce.first (.inl hmem), h.relayed⟩
      obtain ⟨q, hq, hnumbered, -⟩ := h.way _ hsent
      have hfree : ∀ t ∈ s.sent, t.numbered = q.numbered → t.sender ≠ v := by
        rintro t ht htn rfl
        have hcovered := h.sender t ht
        rw [htn, hnumbered] at hcovered
        exact honce.first hcovered
      rw [← hnumbered] at hrelayed ⊢
      refine hrelayed.bordercast hq hfree (.inl List.mem_cons_self)
        (nodup_relayCopies ((h.oneWay q hq).nodup v) _ _) fun p hp => ?_
      obtain ⟨q', hq', hnumbered', hway, -, hprev, hroute⟩ := h.way_next hc hdest hstops hp
      obtain rfl := h.query_unique hq hq' (hnumbered.trans hnumbered'.symm)
      have hzones : QueryNet.zones { s with
          node := update s.node v node
          copies := s.copies.erase c
          relayed := (q.numbered, v) :: s.relayed } = s.zones := hstays
      rw [hzones]
      exact ⟨hway, hprev, hroute⟩
  · refine ⟨fun node' copies heq => ?_, ?_⟩
    · rw [hprocess] at heq
      cases heq
    · rw [← hs']
      exact (h.of_zones hstays).pass hc v _ rfl rfl rfl

/-! ## Runs -/

variable {adj : Addr → Addr → Prop} [DecidableRel adj] {s₀ : QueryNet Addr}
  {tr : List (QueryNet Addr × QueryAction Addr)}

theorem Inv.step {a : QueryAction Addr} (h : s.Inv) (hmeets : s.Meets a)
    (hstep : step adj s a = some s') : s.Controlled a ∧ s'.Inv := by
  cases a with
  | ask numbered source dataPacket =>
    rw [QueryNet.step] at hstep
    split at hstep
    · next hfresh =>
      obtain rfl := Option.some.inj hstep
      exact ⟨trivial, h.ask hfresh hmeets⟩
    · cases hstep
  | hop c v =>
    rw [QueryNet.step] at hstep
    split at hstep
    · next hc => exact h.hop hc.1 hmeets hstep
    · cases hstep
  | lose c =>
    rw [QueryNet.step] at hstep
    split at hstep
    · obtain rfl := Option.some.inj hstep
      exact ⟨trivial, h.erase c⟩
    · cases hstep
  | replyHop r v =>
    rw [QueryNet.step] at hstep
    split at hstep
    · obtain rfl := Option.some.inj hstep
      exact ⟨trivial, (h.of_zones (zones_update (zone_processRouteReply _ _ _))).replies _⟩
    · cases hstep
  | loseReply r =>
    rw [QueryNet.step] at hstep
    split at hstep
    · obtain rfl := Option.some.inj hstep
      exact ⟨trivial, h.replies _⟩
    · cases hstep

theorem AtRest.inv (h : s.AtRest) : s.Inv := by
  obtain ⟨hcopies, -, hasked, hrelayed, hsent⟩ := h
  constructor
  all_goals simp [hcopies, hasked, hrelayed, hsent]

theorem mem_borders_of_way {zones : Zones Addr} {dest source u w : Addr} {before : List Addr}
    (h : zones.Way dest source (u :: before) w) : w ∈ zones.borders u := by
  cases h with
  | first hw => exact hw
  | next _ _ hw _ => exact hw

theorem Inv.sparse (h : s.Inv) : s.Sparse := by
  have hinj : ∀ t ∈ s.sent, ∀ t' ∈ s.sent, (t.numbered, t.sender, t.border) =
      (t'.numbered, t'.sender, t'.border) → t = t' := by
    intro t ht t' ht' heq
    simp only [Prod.mk.injEq] at heq
    exact h.eq_of_border ht ht' heq.1 heq.2.2
  have halong : ∀ t ∈ s.sent, t.border ∈ Zones.borders s.zones t.sender := by
    intro t ht
    obtain ⟨q, -, -, hway⟩ := h.way t ht
    exact mem_borders_of_way hway
  refine ⟨h.relayed, h.nodup.map_on hinj, halong, fun numbered nodes hnodes => ?_⟩
  let sent := s.sent.filter fun t => t.numbered = numbered
  have hnodup : (sent.map fun t => (t.sender, t.border)).Nodup := by
    refine (h.nodup.filter _).map_on fun t ht t' ht' heq => ?_
    obtain ⟨ht, hn⟩ := List.mem_filter.1 ht
    obtain ⟨ht', hn'⟩ := List.mem_filter.1 ht'
    exact h.eq_of_border ht ht' ((of_decide_eq_true hn).trans (of_decide_eq_true hn').symm)
      (Prod.mk.inj heq).2
  have hsub : (sent.map fun t => (t.sender, t.border)).toFinset ⊆
      nodes.biUnion fun v => ((Zones.borders s.zones v).map (Prod.mk v)).toFinset := by
    intro x hx
    obtain ⟨t, ht, rfl⟩ := List.mem_map.1 (List.mem_toFinset.1 hx)
    obtain ⟨ht, hn⟩ := List.mem_filter.1 ht
    rw [Finset.mem_biUnion]
    exact ⟨t.sender, hnodes t ht (of_decide_eq_true hn),
      List.mem_toFinset.2 (List.mem_map_of_mem (halong t ht))⟩
  calc sent.length = (sent.map fun t => (t.sender, t.border)).toFinset.card := by
        rw [List.toFinset_card_of_nodup hnodup, List.length_map]
    _ ≤ _ := Finset.card_le_card hsub
    _ ≤ ∑ v ∈ nodes, ((Zones.borders s.zones v).map (Prod.mk v)).toFinset.card :=
        Finset.card_biUnion_le
    _ ≤ ∑ v ∈ nodes, (Zones.borders s.zones v).length :=
        Finset.sum_le_sum fun v _ => by
          rw [← List.length_map (Prod.mk v)]
          exact List.toFinset_card_le _

theorem inv_of_run (hrest : s₀.AtRest) (run : Run (QueryNet.step adj) s₀ tr s)
    (hmeets : ∀ x ∈ tr, Meets x.1 x.2) : s.Inv :=
  run.induction (P := fun _ s => s.Inv) (Q := Meets) hrest.inv
    (fun _ _ _ _ _ hinv hQ hstep => (hinv.step hQ hstep).2) hmeets

/-- In every run whose steps meet `Meets`, each query is sent on as `RelaysOnce` and `Sparse` say.
-/
theorem query_controlled (hrest : s₀.AtRest) (run : Run (QueryNet.step adj) s₀ tr s)
    (hmeets : ∀ x ∈ tr, Meets x.1 x.2) : (∀ x ∈ tr, x.1.Controlled x.2) ∧ s.Sparse := by
  refine ⟨fun x hx => ?_, (inv_of_run hrest run hmeets).sparse⟩
  obtain ⟨pre, post, s', rfl, hpre, hstep⟩ := run.prefix_of_mem hx
  have hinv := inv_of_run hrest hpre fun y hy =>
    hmeets y (List.mem_append_right _ (List.mem_cons_of_mem _ hy))
  exact (hinv.step (hmeets x hx) hstep).1

/-- A node with zone radius 1 and the neighbours `neighbors`. -/
def radiusOne (neighbors : List ℕ) : NodeZrp ℕ :=
  let node : NodeZrp ℕ :=
    { nZoneRadius := 1, zone := [], buffer := [], routeTable := [], ierpQueryId := 0
      bodercastTree := [], brpQueryId := 0 }
  (node.brpUpdate (neighbors.map fun n => ⟨n, n, 1⟩)).getD node

/-- A network at rest in which `neighbors` tells the neighbours of each node. -/
def radiusOneNet (neighbors : ℕ → List ℕ) : QueryNet ℕ where
  node := fun v => radiusOne (neighbors v)
  copies := []
  replies := []
  asked := []
  relayed := []
  sent := []

def line : ℕ → List ℕ
  | 0 => [1]
  | 1 => [0, 2]
  | 2 => [1]
  | _ => []

def toNine : Buffered ℕ := { nPacketId := 1, nSourceId := 0, szSourceIP := 0, szDestIP := 9 }

theorem oneWay_line : Zones.OneWay (radiusOneNet line).zones 9 0 := by
  have hborders : ∀ v, Zones.borders (radiusOneNet line).zones v = line v := by
    intro v
    match v with
    | 0 | 1 | 2 | _ + 3 => rfl
  -- The only ways are 0, 1 and 0, 1, 2.
  have hways : ∀ trail w, Zones.Way (radiusOneNet line).zones 9 0 trail w →
      trail = [0] ∧ w = 1 ∨ trail = [1, 0] ∧ w = 2 := by
    intro trail w way
    induction way with
    | first hw =>
      rw [hborders] at hw
      exact .inl ⟨rfl, by simpa [line] using hw⟩
    | next way hv hw hne ih =>
      rw [hborders] at hw
      rcases ih with ⟨htrail, rfl⟩ | ⟨htrail, rfl⟩
      · obtain ⟨rfl, rfl⟩ := List.cons.inj htrail
        exact .inr ⟨rfl, by simpa [line, hne] using hw⟩
      · obtain ⟨rfl, rfl⟩ := List.cons.inj htrail
        exact absurd (by simpa [line] using hw) hne
  refine ⟨fun v => ?_, fun {trail trail' w} way way' => ?_, fun trail way => ?_⟩
  · match v with
    | 0 | 1 | 2 => decide
    | _ + 3 => exact List.nodup_nil
  · rcases hways _ _ way with ⟨rfl, rfl⟩ | ⟨rfl, rfl⟩
    · rcases hways _ _ way' with ⟨rfl, -⟩ | ⟨-, hw⟩
      · rfl
      · cases hw
    · rcases hways _ _ way' with ⟨-, hw⟩ | ⟨rfl, -⟩
      · cases hw
      · rfl
  · rcases hways _ _ way with ⟨-, hw⟩ | ⟨-, hw⟩
    · cases hw
    · cases hw

/-- The packet of node 0's query reaches node 1, which sends it on to node 2. -/
theorem query_controlled_line :
    let s := (radiusOneNet line).ask 0 0 toNine
    ∃ c s', s.copies = [c] ∧ s.hop c 1 = some s' ∧ s'.Sparse := by
  let s := (radiusOneNet line).ask 0 0 toNine
  let c := copyOf 0 [] 0 ((((radiusOneNet line).node 0).bufferPacket 0 toNine).2.head (by decide))
  obtain ⟨s', hs'⟩ : ∃ s', s.hop c 1 = some s' := Option.isSome_iff_exists.1 (by decide +kernel)
  refine ⟨c, s', by decide +kernel, hs', ?_⟩
  let adj : ℕ → ℕ → Prop := fun u v => u + 1 = v
  have hask : QueryNet.step adj (radiusOneNet line) (.ask 0 0 toNine) = some s := rfl
  have hc : c ∈ s.copies ∧ adj c.holder 1 := by decide +kernel
  have hhop : QueryNet.step adj s (.hop c 1) = some s' := by
    exact hs'
  refine (query_controlled ⟨rfl, rfl, rfl, rfl, rfl⟩ (.snoc (.snoc .nil hask) hhop) ?_).2
  intro x hx
  rcases List.mem_cons.1 hx with rfl | hx
  · exact fun _ _ => .inr (by decide +kernel)
  · obtain rfl := List.mem_singleton.1 hx
    exact oneWay_line

def QueryControl : Prop :=
  ∀ (Addr : Type) [DecidableEq Addr] (adj : Addr → Addr → Prop) [DecidableRel adj]
    (s₀ s : QueryNet Addr) (tr : List (QueryNet Addr × QueryAction Addr)),
    s₀.AtRest → Run (QueryNet.step adj) s₀ tr s → (∀ x ∈ tr, x.1.Controlled x.2) ∧ s.Sparse

/-- In the triangle 0, 1, 2 the copy that goes round one way makes node 2 send on the query again.
-/
theorem not_queryControl : ¬QueryControl := by
  intro h
  let triangle := radiusOneNet fun v => [0, 1, 2].erase v
  let first : QueryNet ℕ → Option (QueryAction ℕ) := fun s =>
    s.copies.head?.map fun c => .hop c c.packet.szDestIP
  have hexec : (exec (QueryNet.step fun u v => u ≠ v) triangle
      [fun _ => some (.ask 0 0 toNine), first, first, first]).any
        fun r => !decide r.2.relayed.Nodup := by decide +kernel
  obtain ⟨tr, s, run, htest⟩ := run_of_exec hexec
  have hsparse := (h ℕ _ triangle s tr ⟨rfl, rfl, rfl, rfl, rfl⟩ run).2
  simp [hsparse.relayed] at htest

end QueryNet

end NetSim.Zrp
