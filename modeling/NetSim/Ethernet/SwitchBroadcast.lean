import NetSim.Ethernet.SwitchDelivery
import NetSim.Lib.ParentTree

/-!
# What the stations receive

On a tree of open links no station receives a frame twice, the copies of a frame come to an end, and
a broadcast frame that no firewall refuses reaches all other stations.
-/

namespace NetSim.Ethernet

open NetSim.Lib

variable {V S Mac : Type} [DecidableEq V] [DecidableEq Mac]

namespace SwitchNet

variable {cfg : SwitchConfig V S Mac} {s s' : SwitchNet V S Mac} {ids : V → List ℕ} {n k : ℕ}
  {c : LinkCopy V S Mac} {tr : List (SwitchNet V S Mac × SwitchAction S Mac)}

def portCount (ids : V → List ℕ) : V ⊕ S → ℕ :=
  Sum.elim (fun v => (ids v).length) fun _ => 0

def copyCount (k : ℕ) (s : SwitchNet V S Mac) : ℕ :=
  (s.inFlight.filter fun c => c.frame.nPacketId = k).length +
    (s.arrived.filter fun c => c.frame.nPacketId = k).length

/-- Every copy of a frame has been sent by its station, or on a port of a switch that has received
it. -/
def Bounded (cfg : SwitchConfig V S Mac) (ids : V → List ℕ) (s : SwitchNet V S Mac) : Prop :=
  ∀ x ∈ s.sent, copyCount x.2.nPacketId s ≤
    1 + ((floodOf cfg x.2.nPacketId s).received.map (portCount ids)).sum

def Floods (cfg : SwitchConfig V S Mac) (s : SwitchNet V S Mac) : Prop :=
  ∀ x ∈ s.sent, x.2.szDestMac = cfg.broadcastMac →
    (floodOf cfg x.2.nPacketId s).Full cfg.openGraph (.inr x.1)

/-! ## The copies of a frame -/

omit [DecidableEq V] [DecidableEq Mac] in
theorem length_transmit_le {v : V} {i : ℕ} {lan : SwitchLan Mac} {sent : List (ℕ × Frame Mac)}
    (h : SentOn (cfg.ethVar v) lan i sent) : (transmit cfg v sent).length ≤ lan.interfaceId.length := by
  calc (transmit cfg v sent).length ≤ sent.length := List.length_filterMap_le ..
    _ = (sent.map Prod.fst).length := (List.length_map ..).symm
    _ ≤ lan.interfaceId.length := (h.nodup.subperm h.mem).length_le

theorem Inv.length_handle_le (h : Inv cfg ids s) (hids : ∀ v i e, cfg.peer v i = some e → i ∈ ids v)
    (hn : s.inFlight[n]? = some c) (hmeets : s.Meets cfg (.arrive n)) :
    (s.handle cfg c).2.length ≤ if cfg.Open c.dst then portCount ids (nodeOf c.dst) else 0 := by
  unfold handle
  split
  · exact Nat.zero_le _
  · next v i hdst =>
    have hr := h.relays hids hn hmeets hdst
    rw [hdst]
    dsimp only
    by_cases hb : cfg.portState v i = .blocking
    · rw [if_neg (show ¬ cfg.Open (.inl (v, i)) from not_not.2 hb), hr.blocking hb]
      exact le_refl _
    · rw [if_pos (show cfg.Open (.inl (v, i)) from hb)]
      have hlen := length_transmit_le (hr.sentOn hb)
      rwa [h.interfaceId v] at hlen

theorem Bounded.send (hb : Bounded cfg ids s) (h : Inv cfg ids s) {station : S} {frame : Frame Mac}
    (hs : step cfg s (.send station frame) = some s') : Bounded cfg ids s' := by
  obtain ⟨⟨-, -, hfresh⟩, rfl⟩ := step_send hs
  obtain ⟨hflight, harrived⟩ := h.fresh hfresh
  intro x hx
  rcases List.mem_append.1 hx with hx | hx
  · have hold := hb x hx
    unfold copyCount at hold ⊢
    rw [List.filter_append, List.filter_cons_of_neg (by simpa using (hfresh x hx).symm),
      List.filter_nil, List.append_nil]
    exact hold
  · obtain rfl := List.mem_singleton.1 hx
    have hold : s.inFlight.filter (fun c => c.frame.nPacketId = frame.nPacketId) = [] :=
      List.filter_eq_nil_iff.2 (by simpa using hflight)
    have hold' : s.arrived.filter (fun c => c.frame.nPacketId = frame.nPacketId) = [] :=
      List.filter_eq_nil_iff.2 (by simpa using harrived)
    have hnew := List.length_filter_le (fun c : LinkCopy V S Mac => c.frame.nPacketId = frame.nPacketId)
      [⟨.inr station, .inl (cfg.attached station), frame⟩]
    unfold copyCount
    rw [List.filter_append, hold, hold', List.nil_append, List.length_nil, Nat.add_zero]
    exact hnew.trans (Nat.le_add_right _ _)

theorem copyCount_arrive (hn : s.inFlight[n]? = some c) :
    copyCount k (s.arrive cfg n c) =
      copyCount k s + ((s.handle cfg c).2.filter fun q => q.frame.nPacketId = k).length := by
  obtain ⟨pre, post, hs, he⟩ := inFlight_eq hn
  unfold copyCount arrive
  rw [he, hs]
  simp only [List.filter_append, List.filter_cons, List.length_append]
  split
  · rw [List.length_cons, List.length_cons]
    omega
  · omega

theorem Bounded.arrive (hb : Bounded cfg ids s) (h : Inv cfg ids s) (htree : cfg.FormsTree)
    (hids : ∀ v i e, cfg.peer v i = some e → i ∈ ids v) (hn : s.inFlight[n]? = some c)
    (hmeets : s.Meets cfg (.arrive n)) : Bounded cfg ids (s.arrive cfg n c) := by
  have hout := h.outcome htree hids hn hmeets
  have hlen := h.length_handle_le hids hn hmeets
  intro x hx
  have hold := hb x hx
  rw [copyCount_arrive hn]
  by_cases hopen : c.frame.nPacketId = x.2.nPacketId ∧ cfg.Open c.dst
  · obtain ⟨rest, -, he⟩ := floodOf_arrive (s.handle cfg c).1 hn hopen.1 hopen.2 hout.src
    unfold SwitchNet.arrive
    rw [he]
    rw [if_pos hopen.2] at hlen
    have hfilter := List.length_filter_le (fun q => decide (q.frame.nPacketId = x.2.nPacketId))
      (s.handle cfg c).2
    unfold Flood.arrive
    rw [Multiset.map_cons, Multiset.sum_cons]
    omega
  · have hnone := hout.ne_of_not hopen
    unfold SwitchNet.arrive
    rw [floodOf_arrive_of_not hn hopen (openCopies_eq_nil hnone),
      List.filter_eq_nil_iff.2 (by simpa using hnone)]
    exact hold

/-! ## Broadcast frames -/

omit [DecidableEq V] in
theorem mem_sent_of_permits (eth : EthVar Mac) (firewall : MacFirewall Mac) {lan : SwitchLan Mac}
    {i o : ℕ} {packet : Frame Mac} (hip : lan.lanIP = false) (htag : packet.tag = none)
    (hne : packet.szDestMac ≠ packet.szSourceMac) (hdest : lan.outPort packet.szDestMac = none)
    (hin : firewall i packet .inbound = .permit) (ho : o ∈ lan.interfaceId) (hoi : o ≠ i)
    (hopen : eth.portState o ≠ .blocking)
    (hout : firewall o (packet.storeEthParamMacin i lan) .outbound = .permit) :
    o ∈ (ethernetMacProcessFrame eth firewall i lan packet).sent.map Prod.fst := by
  have hin' : firewall i packet .inbound ≠ .deny := by
    rw [hin]
    nofun
  rw [ethernetMacProcessFrame_of_permit hin' hip htag]
  have hunknown : findForwardInterface (lan.learned packet.szSourceMac i)
      (packet.storeEthParamMacin i lan) = 0 := by
    rw [findForwardInterface_eq, szDestMac_storeEthParamMacin, outPort_learned_ne hne, hdest]
    rfl
  unfold forwardFrame
  rw [hunknown, if_neg (fun h => h rfl), List.map_append, map_fst_forwardToLan, interfaceId_learned]
  exact List.mem_append_left _ (List.mem_filter.2 ⟨ho, decide_eq_true ⟨hoi, hopen, hout⟩⟩)

theorem Floods.send (hf : Floods cfg s) (h : Inv cfg ids s) {station : S} {frame : Frame Mac}
    (hs : step cfg s (.send station frame) = some s') : Floods cfg s' := by
  obtain ⟨⟨-, -, hfresh⟩, rfl⟩ := step_send hs
  obtain ⟨hflight, harrived⟩ := h.fresh hfresh
  intro x hx hbroad
  rcases List.mem_append.1 hx with hx | hx
  · rw [floodOf_send_of_ne (hfresh x hx)]
    exact hf x hx hbroad
  · obtain rfl := List.mem_singleton.1 hx
    rw [floodOf_send hflight harrived]
    refine Flood.Full.start ?_
    rintro w ⟨-, e, e', hlink, he, rfl⟩
    have hst : e = .inr station := by
      cases e with
      | inl p => cases he
      | inr t => exact congrArg Sum.inr (Sum.inr.inj he)
    have hopp := hlink.opposite
    rw [hst] at hopp
    obtain rfl := Option.some.inj hopp
    rw [if_pos hlink.dst]
    exact Multiset.mem_singleton_self _

theorem Inv.mem_handle (h : Inv cfg ids s) (hids : ∀ v i e, cfg.peer v i = some e → i ∈ ids v)
    (hn : s.inFlight[n]? = some c) (hpermits : s.Permits cfg (.arrive n))
    (hbroad : c.frame.szDestMac = cfg.broadcastMac) (hopen : cfg.Open c.dst) {w : V ⊕ S}
    (hw : cfg.openGraph.Adj (nodeOf c.dst) w) (hne : w ≠ nodeOf c.src) :
    ∃ q ∈ (s.handle cfg c).2, cfg.Open q.dst ∧ nodeOf q.dst = w := by
  have hc : c ∈ s.inFlight := List.mem_of_getElem? hn
  have hback := cfg.opposite_symm (h.link c hc).1
  obtain ⟨-, e, e', hlink, he, rfl⟩ := hw
  have hopp := hlink.opposite
  unfold handle
  split
  · next station hdst =>
    -- A station has one link, and the frame came in on it.
    rw [hdst] at he hback
    have hst : e = .inr station := by
      cases e with
      | inl p => cases he
      | inr t => exact congrArg Sum.inr (Sum.inr.inj he)
    rw [hst, hback] at hopp
    exact absurd (congrArg nodeOf (Option.some.inj hopp).symm) hne
  · next v i hdst =>
    rw [hdst] at he hback hopen
    obtain ⟨o, rfl⟩ : ∃ o, e = .inl (v, o) := by
      cases e with
      | inl p =>
        obtain ⟨w, o⟩ := p
        exact ⟨o, by rw [show w = v from Sum.inl.inj he]⟩
      | inr t => cases he
    have hoi : o ≠ i := by
      rintro rfl
      rw [hback] at hopp
      exact hne (congrArg nodeOf (Option.some.inj hopp).symm)
    have ho : o ∈ (s.lan v).interfaceId := h.interfaceId v ▸ hids v o e' hopp
    have hp := hpermits c hn
    rw [hdst] at hp
    obtain ⟨hin, hout⟩ := hp hbroad hopen
    have hframe := h.frame c hc
    have hmem := mem_sent_of_permits (cfg.ethVar v) (cfg.firewall v) (h.lanIP v) hframe.1
      (hbroad ▸ hframe.2.symm) (hbroad ▸ h.broadcast v) hin ho hoi hlink.src
      (hout o ho hoi hlink.src)
    obtain ⟨x, hx, hxo⟩ := List.mem_map.1 hmem
    refine ⟨⟨.inl (v, x.1), e', x.2⟩, ?_, hlink.dst, rfl⟩
    refine List.mem_filterMap.2 ⟨x, hx, ?_⟩
    have hpeer : cfg.peer v x.1 = some e' := hxo ▸ hopp
    rw [hpeer]
    rfl

theorem Floods.arrive (hf : Floods cfg s) (h : Inv cfg ids s) (htree : cfg.FormsTree)
    (hids : ∀ v i e, cfg.peer v i = some e → i ∈ ids v) (hn : s.inFlight[n]? = some c)
    (hmeets : s.Meets cfg (.arrive n)) (hpermits : s.Permits cfg (.arrive n)) :
    Floods cfg (s.arrive cfg n c) := by
  have hout := h.outcome htree hids hn hmeets
  have hc : c ∈ s.inFlight := List.mem_of_getElem? hn
  intro x hx hbroad
  have hold := hf x hx hbroad
  unfold SwitchNet.arrive
  by_cases hopen : c.frame.nPacketId = x.2.nPacketId ∧ cfg.Open c.dst
  · obtain ⟨rest, hrest, he⟩ := floodOf_arrive (s.handle cfg c).1 hn hopen.1 hopen.2 hout.src
    rw [he]
    refine hold.arrive (h.once x hx) hrest fun w hw hne => ?_
    have hdest := (h.szDestMac c hc x hx hopen.1.symm).trans hbroad
    obtain ⟨q, hq, hqo, rfl⟩ := h.mem_handle hids hn hpermits hdest hopen.2 hw hne
    have hid : q.frame.nPacketId = x.2.nPacketId := (hout.isCopy q hq).nPacketId.trans hopen.1
    rw [Multiset.mem_coe]
    exact List.mem_map_of_mem (List.mem_filter.2 ⟨hq, decide_eq_true ⟨hid, hqo⟩⟩)
  · rw [floodOf_arrive_of_not hn hopen (openCopies_eq_nil (hout.ne_of_not hopen))]
    exact hold

variable {s₀ : SwitchNet V S Mac}

theorem inv_of_run (htree : cfg.FormsTree) (hstart : s₀.IsStart cfg)
    (run : Run (step cfg) s₀ tr s) (hmeets : ∀ x ∈ tr, x.1.Meets cfg x.2) :
    Inv cfg (fun v => (s₀.lan v).interfaceId) s ∧ Bounded cfg (fun v => (s₀.lan v).interfaceId) s := by
  refine run.induction (P := fun _ s => Inv cfg (fun v => (s₀.lan v).interfaceId) s ∧
    Bounded cfg (fun v => (s₀.lan v).interfaceId) s) (Q := Meets cfg) ?_ ?_ hmeets
  · refine ⟨Inv.start hstart, ?_⟩
    intro x hx
    rw [hstart.sent] at hx
    cases hx
  · rintro tr s a s' - ⟨hinv, hb⟩ hm hs
    cases a with
    | send station frame => exact ⟨hinv.send htree hs, hb.send hinv hs⟩
    | arrive n =>
      obtain ⟨c, hn, rfl⟩ := step_arrive hs
      have hids : ∀ v i e, cfg.peer v i = some e → i ∈ (s₀.lan v).interfaceId :=
        fun v i e he => hstart.mem_interfaceId he
      exact ⟨hinv.arrive htree hids hn hm, hb.arrive hinv htree hids hn hm⟩

theorem floods_of_run (htree : cfg.FormsTree) (hstart : s₀.IsStart cfg)
    (run : Run (step cfg) s₀ tr s) (hmeets : ∀ x ∈ tr, x.1.Meets cfg x.2)
    (hpermits : ∀ x ∈ tr, x.1.Permits cfg x.2) : Floods cfg s := by
  refine (run.induction (P := fun _ s => Inv cfg (fun v => (s₀.lan v).interfaceId) s ∧ Floods cfg s)
    (Q := fun s a => s.Meets cfg a ∧ s.Permits cfg a) ⟨Inv.start hstart, ?_⟩ ?_
    fun x hx => ⟨hmeets x hx, hpermits x hx⟩).2
  · intro x hx
    rw [hstart.sent] at hx
    cases hx
  · rintro tr s a s' - ⟨hinv, hf⟩ ⟨hm, hp⟩ hs
    cases a with
    | send station frame => exact ⟨hinv.send htree hs, hf.send hinv hs⟩
    | arrive n =>
      obtain ⟨c, hn, rfl⟩ := step_arrive hs
      have hids : ∀ v i e, cfg.peer v i = some e → i ∈ (s₀.lan v).interfaceId :=
        fun v i e he => hstart.mem_interfaceId he
      exact ⟨hinv.arrive htree hids hn hm, hf.arrive hinv htree hids hn hm hp⟩

/-! ## The stations -/

omit [DecidableEq V] [DecidableEq Mac] in
theorem map_stations_sublist (cfg : SwitchConfig V S Mac) :
    ((stations k s).map Sum.inr).Sublist ((openCopies cfg k s.arrived).map fun c => nodeOf c.dst) := by
  unfold stations openCopies
  induction s.arrived with
  | nil => exact List.Sublist.slnil
  | cons c l ih =>
    by_cases hk : c.frame.nPacketId = k
    · have hstep : (c :: l).filter (fun c => c.frame.nPacketId = k) =
          c :: l.filter fun c => c.frame.nPacketId = k := List.filter_cons_of_pos (decide_eq_true hk)
      rw [hstep]
      cases hdst : c.dst with
      | inr t =>
        have hopen : c.frame.nPacketId = k ∧ cfg.Open c.dst := by
          rw [hdst]
          exact ⟨hk, trivial⟩
        have hstep' : (c :: l).filter (fun c => c.frame.nPacketId = k ∧ cfg.Open c.dst) =
            c :: l.filter fun c => c.frame.nPacketId = k ∧ cfg.Open c.dst :=
          List.filter_cons_of_pos (decide_eq_true hopen)
        rw [hstep', List.filterMap_cons_some (by rw [hdst]; rfl), List.map_cons, List.map_cons, hdst]
        exact ih.cons_cons _
      | inl p =>
        rw [List.filterMap_cons_none (by rw [hdst]; rfl)]
        refine ih.trans ((List.Sublist.filter _ (List.sublist_cons_self c l)).map _)
    · have hstep : (c :: l).filter (fun c => c.frame.nPacketId = k) =
          l.filter fun c => c.frame.nPacketId = k := List.filter_cons_of_neg (by simpa using hk)
      rw [hstep]
      exact ih.trans ((List.Sublist.filter _ (List.sublist_cons_self c l)).map _)

omit [DecidableEq V] [DecidableEq Mac] in
theorem mem_stations {t : S} (h : Sum.inr t ∈ (floodOf cfg k s).received) : t ∈ stations k s := by
  obtain ⟨c, hc, hnode⟩ := List.mem_map.1 (Multiset.mem_coe.1 h)
  obtain ⟨hmem, hk⟩ := List.mem_filter.1 hc
  refine List.mem_filterMap.2 ⟨c, List.mem_filter.2 ⟨hmem, ?_⟩, ?_⟩
  · exact decide_eq_true (of_decide_eq_true hk).1
  · cases hdst : c.dst with
    | inl p =>
      rw [hdst] at hnode
      cases hnode
    | inr t' =>
      rw [hdst] at hnode
      exact congrArg some (Sum.inr.inj hnode)

/-- What the stations have received of the frames sent, and how many copies there have been. -/
structure Delivered [Fintype V] (s : SwitchNet V S Mac) : Prop where
  atMostOnce : ∀ x ∈ s.sent, (x.1 :: stations x.2.nPacketId s).Nodup
  diesOut : ∀ x ∈ s.sent, copyCount x.2.nPacketId s ≤ 1 + ∑ v, (s.lan v).interfaceId.length

/-- When none of its copies is left, every other station has received a broadcast frame. -/
def BroadcastDelivered (cfg : SwitchConfig V S Mac) (s : SwitchNet V S Mac) : Prop :=
  ∀ x ∈ s.sent, x.2.szDestMac = cfg.broadcastMac →
    (∀ c ∈ s.inFlight, c.frame.nPacketId ≠ x.2.nPacketId) →
      ∀ t, t ≠ x.1 → t ∈ stations x.2.nPacketId s

omit [DecidableEq V] [DecidableEq Mac] in
theorem sum_portCount_le [Fintype V] (ids : V → List ℕ) {m : Multiset (V ⊕ S)} (hm : m.Nodup) :
    (m.map (portCount ids)).sum ≤ ∑ v, (ids v).length := by
  calc (m.map (portCount ids)).sum = ∑ x ∈ (⟨m, hm⟩ : Finset (V ⊕ S)), portCount ids x := rfl
    _ ≤ ∑ x ∈ Finset.univ.map Function.Embedding.inl, portCount ids x := by
      refine Finset.sum_le_sum_of_ne_zero fun x _ hx => ?_
      cases x with
      | inl v => exact Finset.mem_map_of_mem _ (Finset.mem_univ v)
      | inr t => exact absurd rfl hx
    _ = ∑ v, (ids v).length := Finset.sum_map ..

theorem delivered_of_run [Fintype V] (htree : cfg.FormsTree)
    (hstart : s₀.IsStart cfg) (run : Run (step cfg) s₀ tr s) (hmeets : ∀ x ∈ tr, x.1.Meets cfg x.2) :
    s.Delivered := by
  obtain ⟨hinv, hb⟩ := inv_of_run htree hstart run hmeets
  constructor
  · intro x hx
    have hnd := (hinv.once x hx).nodup_received
    have hsub : ((x.1 :: stations x.2.nPacketId s).map Sum.inr).Sublist
        (Sum.inr x.1 :: (openCopies cfg x.2.nPacketId s.arrived).map fun c => nodeOf c.dst) :=
      (map_stations_sublist cfg).cons_cons _
    exact List.Nodup.of_map _ (hsub.nodup (Multiset.coe_nodup.1 hnd))
  · intro x hx
    have hnd := (Multiset.nodup_cons.1 (hinv.once x hx).nodup_received).2
    refine (hb x hx).trans (Nat.add_le_add_left ?_ 1)
    have hsum := sum_portCount_le (fun v => (s₀.lan v).interfaceId) hnd
    simpa only [hinv.interfaceId] using hsum

theorem broadcastDelivered_of_run (htree : cfg.FormsTree)
    (hstart : s₀.IsStart cfg) (run : Run (step cfg) s₀ tr s) (hmeets : ∀ x ∈ tr, x.1.Meets cfg x.2)
    (hpermits : ∀ x ∈ tr, x.1.Permits cfg x.2) : s.BroadcastDelivered cfg := by
  have hf := floods_of_run htree hstart run hmeets hpermits
  intro x hx hbroad hquiet t ht
  have hnone : (floodOf cfg x.2.nPacketId s).inFlight = 0 := by
    unfold floodOf
    rw [openCopies_eq_nil hquiet]
    rfl
  exact mem_stations ((hf x hx hbroad).mem_received htree.isTree hnone fun h => ht (Sum.inr.inj h))

end SwitchNet

/-- Frames are processed and forwarded rightly just in the states of `MeetsWire` and of
`MeetsNetwork`. If every frame of a run on a tree of open links meets these, no station receives one
twice and every frame dies out; and a broadcast frame that no firewall refuses is received by every
other station. -/
theorem switchForwarding (V S Mac : Type) [DecidableEq V] [Fintype V] [DecidableEq Mac] :
    (∀ (eth : EthVar Mac) (firewall : MacFirewall Mac) (lan : SwitchLan Mac) (p : ℕ) (packet : Frame Mac),
        lan.WellFormed → lan.lanIP = false → p ∈ lan.interfaceId → packet.tag = none →
          (ProcessedRightly eth firewall lan p packet
              (ethernetMacProcessFrame eth firewall p lan packet) ↔
            MeetsWire eth firewall lan p packet)) ∧
      (∀ (eth : EthVar Mac) (firewall : MacFirewall Mac) (lan : SwitchLan Mac) (packet : Frame Mac),
        lan.WellFormed → packet.incomingPort ∈ lan.interfaceId → packet.incomingVlanId = 0 →
          (ForwardedRightly eth firewall lan.interfaceId packet.incomingPort
              packet.clearEthIncoming.addMacHeader (lan.outPort packet.szDestMac)
              (packetArriveFromNetworkLayer eth firewall lan packet) ↔
            MeetsNetwork eth firewall lan packet.incomingPort packet)) ∧
      ∀ (cfg : SwitchConfig V S Mac) (s₀ s : SwitchNet V S Mac)
        (tr : List (SwitchNet V S Mac × SwitchAction S Mac)), cfg.FormsTree → s₀.IsStart cfg →
          Run (SwitchNet.step cfg) s₀ tr s → (∀ x ∈ tr, x.1.Meets cfg x.2) →
            s.Delivered ∧ ((∀ x ∈ tr, x.1.Permits cfg x.2) → s.BroadcastDelivered cfg) :=
  ⟨fun _ _ _ _ _ hlan hip hp htag => processedRightly_iff hlan hip hp htag,
    fun _ _ _ _ hlan hp hvlan => forwardedRightly_network_iff hlan hp hvlan,
    fun _ _ _ _ htree hstart run hmeets =>
      ⟨SwitchNet.delivered_of_run htree hstart run hmeets,
        SwitchNet.broadcastDelivered_of_run htree hstart run hmeets⟩⟩

/-! ## A switch with three stations -/

section
variable {Mac : Type} (eth : EthVar Mac) (firewall : MacFirewall Mac) (interfaceId : List ℕ) (p : ℕ)
  (packet : Frame Mac)

instance : Decidable (NoFloodPort eth firewall interfaceId p packet) := by
  unfold NoFloodPort
  infer_instance

instance : Decidable (NoTrunkPort eth firewall interfaceId packet) :=
  inferInstanceAs (Decidable (_ → ∀ o ∈ eth.trunkPortIds, _))

instance (Sends : ℕ → Prop) [DecidablePred Sends] (target : Option ℕ) :
    Decidable (MeetsForward eth firewall interfaceId p packet Sends target) := by
  unfold MeetsForward
  split <;> infer_instance

instance [DecidableEq Mac] (lan : SwitchLan Mac) (target : Option ℕ) :
    Decidable (NothingDue eth firewall lan p packet target) := by
  unfold NothingDue
  split <;> infer_instance

instance (lan : SwitchLan Mac) : Decidable lan.Learns :=
  inferInstanceAs (Decidable (lan.switchingTechnique ≠ .null))

instance [DecidableEq Mac] (lan : SwitchLan Mac) : Decidable (MeetsWire eth firewall lan p packet) := by
  unfold MeetsWire
  infer_instance

end

section
variable {V S Mac : Type} [DecidableEq Mac] (cfg : SwitchConfig V S Mac) (s : SwitchNet V S Mac)
  (frame : Frame Mac)

instance (e : LinkEnd V S) : Decidable (s.MeetsEnd cfg frame e) := by
  unfold SwitchNet.MeetsEnd
  split <;> infer_instance

instance (e : LinkEnd V S) : Decidable (s.PermitsEnd cfg frame e) := by
  unfold SwitchNet.PermitsEnd
  split <;> infer_instance

instance (a : SwitchAction S Mac) : Decidable (s.Meets cfg a) := by
  unfold SwitchNet.Meets
  split <;> infer_instance

instance (a : SwitchAction S Mac) : Decidable (s.Permits cfg a) := by
  unfold SwitchNet.Permits
  split <;> infer_instance

end

/-- Three stations on the ports one to three of a switch, and a blocking port. -/
def starConfig : SwitchConfig Unit (Fin 3) ℕ where
  peer _ i := if h : 1 ≤ i ∧ i ≤ 3 then some (.inr ⟨i - 1, by omega⟩) else none
  attached t := ((), t + 1)
  peer_symm h := by
    split at h
    · cases h
    · cases h
  peer_attached {v i t} := by
    constructor
    · intro h
      split at h
      · next hi =>
        obtain rfl := Sum.inr.inj (Option.some.inj h)
        exact Prod.ext rfl (by dsimp only; omega)
      · cases h
    · intro h
      obtain rfl : (t : ℕ) + 1 = i := (Prod.ext_iff.1 h).2
      rw [dif_pos ⟨by omega, by omega⟩]
      rfl
  broadcastMac := 99
  portState _ i := if i = 4 then .blocking else .forwarding
  firewall _ _ _ _ := .permit

/-- The switch once had station 8 at the port that is now blocking. -/
def starLan : SwitchLan ℕ :=
  { lanId := 1
    vlanId := 0
    lanIP := false
    switchingTechnique := .storeForward
    interfaceId := [1, 2, 3, 4]
    switchTable := [⟨8, 4⟩] }

def starStart : SwitchNet Unit (Fin 3) ℕ :=
  { lan := fun _ => starLan, inFlight := [], sent := [], arrived := [] }

def sampleFrame (nPacketId szSourceMac szDestMac : ℕ) : Frame ℕ :=
  { nPacketId
    szSourceMac
    szDestMac
    tag := none
    networkSize := 100
    dPayload := 100
    dOverhead := 26
    incomingPort := 0
    incomingVlanId := 0 }

theorem wellFormed_starLan : starLan.WellFormed := by
  refine ⟨by decide, by decide, ?_⟩
  intro e he
  obtain rfl := List.mem_singleton.1 he
  decide

theorem isStart_starStart : starStart.IsStart starConfig := by
  refine ⟨fun _ => wellFormed_starLan, fun _ => rfl, ?_, fun _ => rfl, rfl, rfl, rfl⟩
  intro v i e h
  by_cases hi : 1 ≤ i ∧ i ≤ 3
  · have hcases : i = 1 ∨ i = 2 ∨ i = 3 := by omega
    rcases hcases with rfl | rfl | rfl <;> exact of_decide_eq_true rfl
  · have hnone : starConfig.peer v i = none := dif_neg hi
    rw [hnone] at h
    cases h

theorem openLink_star {e e' : LinkEnd Unit (Fin 3)} (h : starConfig.OpenLink e e') :
    ∃ t : Fin 3, e = .inr t ∧ e' = .inl ((), t + 1) ∨ e = .inl ((), t + 1) ∧ e' = .inr t := by
  have hopp := h.opposite
  cases e with
  | inr t => exact ⟨t, .inl ⟨rfl, (Option.some.inj hopp).symm⟩⟩
  | inl p =>
    obtain ⟨v, i⟩ := p
    by_cases hi : 1 ≤ i ∧ i ≤ 3
    · have hpeer : starConfig.opposite (.inl (v, i)) = some (.inr ⟨i - 1, by omega⟩) := dif_pos hi
      have he' := Option.some.inj (hpeer.symm.trans hopp)
      refine ⟨⟨i - 1, by omega⟩, .inr ⟨congrArg Sum.inl (Prod.ext rfl ?_), he'.symm⟩⟩
      dsimp only
      omega
    · have hpeer : starConfig.opposite (.inl (v, i)) = none := dif_neg hi
      rw [hpeer] at hopp
      cases hopp

theorem adj_star {a b : Unit ⊕ Fin 3} :
    starConfig.openGraph.Adj a b ↔ (a ≠ .inl () ∧ .inl () = b) ∨ (b ≠ .inl () ∧ .inl () = a) := by
  have hlink : ∀ t : Fin 3, starConfig.OpenLink (.inr t) (.inl ((), t + 1)) := by
    intro t
    refine ⟨rfl, trivial, ?_⟩
    fin_cases t <;> exact of_decide_eq_true rfl
  constructor
  · rintro ⟨-, e, e', h, rfl, rfl⟩
    obtain ⟨t, ⟨rfl, rfl⟩ | ⟨rfl, rfl⟩⟩ := openLink_star h
    · exact .inl ⟨nofun, rfl⟩
    · exact .inr ⟨nofun, rfl⟩
  · rintro (⟨ha, rfl⟩ | ⟨hb, rfl⟩)
    · cases a with
      | inl u => exact absurd rfl ha
      | inr t => exact ⟨ha, _, _, hlink t, rfl, rfl⟩
    · cases b with
      | inl u => exact absurd rfl hb
      | inr t => exact ⟨hb.symm, _, _, (hlink t).symm, rfl, rfl⟩

theorem formsTree_star : starConfig.FormsTree := by
  refine ⟨?_, ?_, ?_⟩
  · refine isTree_of_parent (.inl ()) (fun _ => .inl ()) (Sum.elim (fun _ => 0) fun _ => 1) ?_
      fun _ _ => adj_star
    intro a ha
    cases a with
    | inl u => exact absurd rfl ha
    | inr t => exact Nat.one_pos
  · intro e e' h
    obtain ⟨t, ⟨rfl, rfl⟩ | ⟨rfl, rfl⟩⟩ := openLink_star h
    · nofun
    · nofun
  · intro e e' f f' h h' hsrc hdst
    obtain ⟨t, ⟨rfl, rfl⟩ | ⟨rfl, rfl⟩⟩ := openLink_star h
    · obtain ⟨u, ⟨rfl, rfl⟩ | ⟨rfl, rfl⟩⟩ := openLink_star h'
      · exact congrArg Sum.inr (Sum.inr.inj hsrc)
      · cases hsrc
    · obtain ⟨u, ⟨rfl, rfl⟩ | ⟨rfl, rfl⟩⟩ := openLink_star h'
      · cases hsrc
      · rw [show t = u from Sum.inr.inj hdst]

/-- A broadcast frame of the first station, from the wire, from the network layer, and on its way to
the other stations. -/
theorem switchForwarding_star :
    ProcessedRightly (starConfig.ethVar ()) (starConfig.firewall ()) starLan 1 (sampleFrame 1 10 99)
        (ethernetMacProcessFrame (starConfig.ethVar ()) (starConfig.firewall ()) 1 starLan
          (sampleFrame 1 10 99)) ∧
      ForwardedRightly (starConfig.ethVar ()) (starConfig.firewall ()) starLan.interfaceId 1
        (sampleFrame 1 10 99) none
        (packetArriveFromNetworkLayer (starConfig.ethVar ()) (starConfig.firewall ()) starLan
          { sampleFrame 1 10 99 with incomingPort := 1 }) ∧
      ∃ tr s, Run (SwitchNet.step starConfig) starStart tr s ∧ s.Delivered ∧
        s.BroadcastDelivered starConfig ∧ s.sent ≠ [] ∧ s.inFlight = [] := by
  refine ⟨((switchForwarding Unit (Fin 3) ℕ).1 _ _ _ _ _ wellFormed_starLan rfl (by decide) rfl).2
    (by decide), ((switchForwarding Unit (Fin 3) ℕ).2.1 _ _ _ { sampleFrame 1 10 99 with incomingPort := 1 }
    wellFormed_starLan (by decide) rfl).2 ?_, ?_⟩
  · unfold MeetsNetwork
    decide
  have hexec : (exec (SwitchNet.step starConfig) starStart
      ([.send 0 (sampleFrame 1 10 99), .arrive 0, .arrive 0, .arrive 0].map fun x _ => some x)).any
        (fun x => decide (∀ y ∈ x.1, y.1.Meets starConfig y.2) &&
          (decide (∀ y ∈ x.1, y.1.Permits starConfig y.2) &&
            (decide (x.2.sent.length = 1) && decide (x.2.inFlight.length = 0)))) = true := by
    decide +kernel
  obtain ⟨tr, s, run, htest⟩ := run_of_exec hexec
  obtain ⟨hmeets, htest⟩ := (Bool.and_eq_true _ _).mp htest
  obtain ⟨hpermits, htest⟩ := (Bool.and_eq_true _ _).mp htest
  obtain ⟨hsent, hflight⟩ := (Bool.and_eq_true _ _).mp htest
  have hdel := (switchForwarding Unit (Fin 3) ℕ).2.2 starConfig starStart s tr formsTree_star
    isStart_starStart run (of_decide_eq_true hmeets)
  refine ⟨tr, s, run, hdel.1, hdel.2 (of_decide_eq_true hpermits), ?_,
    List.length_eq_zero_iff.1 (of_decide_eq_true hflight)⟩
  intro hnil
  rw [hnil] at hsent
  cases hsent

/-- A frame at the blocking port is learnt from and flooded; a station that has moved from it stays
unlearnt. -/
theorem not_switchForwarding :
    starLan.WellFormed ∧
      (¬ ProcessedRightly (starConfig.ethVar ()) (starConfig.firewall ()) starLan 4 (sampleFrame 1 7 99)
          (ethernetMacProcessFrame (starConfig.ethVar ()) (starConfig.firewall ()) 4 starLan
            (sampleFrame 1 7 99))) ∧
      ¬ ProcessedRightly (starConfig.ethVar ()) (starConfig.firewall ()) starLan 1 (sampleFrame 1 8 99)
          (ethernetMacProcessFrame (starConfig.ethVar ()) (starConfig.firewall ()) 1 starLan
            (sampleFrame 1 8 99)) := by
  refine ⟨wellFormed_starLan, ?_, ?_⟩
  · rw [processedRightly_iff wellFormed_starLan rfl (by decide) rfl]
    decide
  · rw [processedRightly_iff wellFormed_starLan rfl (by decide) rfl]
    decide

end NetSim.Ethernet
