import NetSim.Ethernet.SwitchNetwork

/-!
# Broadcast and unicast frames on a tree of switches

The copies of a frame flood the tree of open links (`floodOf`), in every run whose steps meet the
conditions of the switches.
-/

namespace NetSim.Ethernet

open NetSim.Lib

variable {V S Mac : Type}

/-! ## What one switch sends -/

section
variable {eth : EthVar Mac} {firewall : MacFirewall Mac} {lan : SwitchLan Mac} {i : ℕ}
  {packet : Frame Mac}

structure SentOn (eth : EthVar Mac) (lan : SwitchLan Mac) (i : ℕ) (sent : List (ℕ × Frame Mac)) :
    Prop where
  nodup : (sent.map Prod.fst).Nodup
  mem : ∀ o ∈ sent.map Prod.fst, o ∈ lan.interfaceId
  ne : ∀ o ∈ sent.map Prod.fst, o ≠ i
  nonblocking : ∀ o ∈ sent.map Prod.fst, eth.portState o ≠ .blocking

theorem SentOn.nil : SentOn eth lan i [] :=
  ⟨List.nodup_nil, nofun, nofun, nofun⟩

theorem Flooded.sentOn {sent : List (ℕ × Frame Mac)}
    (h : Flooded eth firewall lan.interfaceId i packet sent)
    (hmem : ∀ o ∈ sent.map Prod.fst, o ∈ lan.interfaceId) : SentOn eth lan i sent := by
  have hport : ∀ o ∈ sent.map Prod.fst, IsFloodPort eth firewall i packet o := by
    intro o ho
    by_contra hno
    have hcount := h o (hmem o ho)
    rw [if_neg hno] at hcount
    exact List.count_eq_zero.1 hcount ho
  refine ⟨?_, hmem, fun o ho => (hport o ho).1, fun o ho => (hport o ho).2.1⟩
  rw [List.nodup_iff_count_le_one]
  intro o
  by_cases ho : o ∈ lan.interfaceId
  · rw [h o ho]
    split <;> omega
  · rw [List.count_eq_zero_of_not_mem fun hs => ho (hmem o hs)]
    omega

theorem ForwardedRightly.sentOn {target : Option ℕ} {sent : List (ℕ × Frame Mac)}
    (hi : eth.portState i ≠ .blocking)
    (h : ForwardedRightly eth firewall lan.interfaceId i packet target sent)
    (hmem : ∀ o ∈ sent.map Prod.fst, o ∈ lan.interfaceId) : SentOn eth lan i sent := by
  unfold ForwardedRightly at h
  rw [if_neg hi] at h
  cases target with
  | none => exact Flooded.sentOn h hmem
  | some f =>
    dsimp only at h
    by_cases hf : f = i
    · rw [if_pos hf] at h
      exact h ▸ SentOn.nil
    · rw [if_neg hf] at h
      by_cases hb : eth.portState f = .blocking
      · rw [if_pos hb] at h
        exact Flooded.sentOn h hmem
      · rw [if_neg hb] at h
        have hall : ∀ o ∈ sent.map Prod.fst, o = f := by
          intro o ho
          rw [h] at ho
          exact List.mem_singleton.1 ho
        exact ⟨h ▸ List.nodup_singleton f, hmem, fun o ho => hall o ho ▸ hf, fun o ho => hall o ho ▸ hb⟩

structure IsCopy (packet q : Frame Mac) : Prop where
  nPacketId : q.nPacketId = packet.nPacketId
  szSourceMac : q.szSourceMac = packet.szSourceMac
  szDestMac : q.szDestMac = packet.szDestMac
  tag : q.tag = none

variable [DecidableEq Mac]

theorem mem_forwardFrame (hlan : lan.WellFormed) (hvlan : eth.isVLAN = false) {x : ℕ × Frame Mac}
    (hx : x ∈ forwardFrame eth firewall i lan packet) :
    x.1 ∈ lan.interfaceId ∧ x.2 = packet.clearEthIncoming := by
  unfold forwardFrame at hx
  dsimp only at hx
  split at hx
  · next hf =>
    split at hx
    · rw [List.mem_singleton.1 hx]
      refine ⟨?_, rfl⟩
      rw [findForwardInterface_eq] at hf ⊢
      cases hout : lan.outPort packet.szDestMac with
      | none => simp [hout] at hf
      | some f => exact hlan.outPort_mem_interfaceId hout
    · cases hx
  · have htrunk : vlanForwardToAllTrunk eth firewall packet lan = [] := by
      unfold vlanForwardToAllTrunk
      rw [hvlan]
      rfl
    rw [htrunk, List.append_nil] at hx
    obtain ⟨o, ho, rfl⟩ := List.mem_map.1 hx
    exact ⟨List.mem_of_mem_filter ho, rfl⟩

structure Relays (eth : EthVar Mac) (lan : SwitchLan Mac) (i : ℕ) (packet : Frame Mac)
    (r : Processed Mac) : Prop where
  wellFormed : r.lan.WellFormed
  lanIP : r.lan.lanIP = false
  interfaceId : r.lan.interfaceId = lan.interfaceId
  outPort : ∀ mac, mac ≠ packet.szSourceMac → r.lan.outPort mac = lan.outPort mac
  isCopy : ∀ x ∈ r.sent, IsCopy packet x.2
  blocking : eth.portState i = .blocking → r.sent = []
  sentOn : eth.portState i ≠ .blocking → SentOn eth lan i r.sent

theorem outPort_learned_ne {src mac : Mac} (h : mac ≠ src) :
    (lan.learned src i).outPort mac = lan.outPort mac := by
  unfold SwitchLan.learned
  split
  · rw [outPort_switchTableNew, if_neg h]
  · rfl

theorem lanIP_learned {src : Mac} : (lan.learned src i).lanIP = lan.lanIP := by
  unfold SwitchLan.learned
  split
  · exact lanIP_switchTableNew
  · rfl

theorem relays_of_meetsWire (hlan : lan.WellFormed) (hip : lan.lanIP = false)
    (hi : i ∈ lan.interfaceId) (htag : packet.tag = none) (hvlan : eth.isVLAN = false)
    (hmeets : MeetsWire eth firewall lan i packet) :
    Relays eth lan i packet (ethernetMacProcessFrame eth firewall i lan packet) := by
  have hright := (processedRightly_iff hlan hip hi htag).2 hmeets
  unfold ProcessedRightly at hright
  by_cases hin : firewall i packet .inbound = .deny
  · have hr : ethernetMacProcessFrame eth firewall i lan packet = { lan, sent := [], up := none } := by
      unfold ethernetMacProcessFrame
      rw [if_pos hin]
    rw [hr]
    exact ⟨hlan, hip, rfl, fun _ _ => rfl, nofun, fun _ => rfl, fun _ => SentOn.nil⟩
  · rw [ethernetMacProcessFrame_of_permit hin hip htag] at hright ⊢
    have hmem : ∀ x ∈ forwardFrame eth firewall i (lan.learned packet.szSourceMac i)
        (packet.storeEthParamMacin i lan), x.1 ∈ (lan.learned packet.szSourceMac i).interfaceId ∧
          x.2 = (packet.storeEthParamMacin i lan).clearEthIncoming :=
      fun x hx => mem_forwardFrame (hlan.learned hi packet.szSourceMac) hvlan hx
    rw [interfaceId_learned] at hmem
    refine ⟨hlan.learned hi _, lanIP_learned.trans hip, interfaceId_learned,
      fun mac hne => outPort_learned_ne hne, ?_, ?_, ?_⟩
    · intro x hx
      rw [(hmem x hx).2]
      unfold Frame.storeEthParamMacin
      rw [htag]
      exact ⟨rfl, rfl, rfl, rfl⟩
    · intro hb
      rw [if_pos hb] at hright
      exact hright.2
    · intro hb
      rw [if_neg hb] at hright
      refine ForwardedRightly.sentOn hb hright.2 ?_
      intro o ho
      obtain ⟨x, hx, rfl⟩ := List.mem_map.1 ho
      exact (hmem x hx).1

end

/-! ## The flood of one frame -/

namespace SwitchNet

section
variable (cfg : SwitchConfig V S Mac)

def openCopies (k : ℕ) (l : List (LinkCopy V S Mac)) : List (LinkCopy V S Mac) :=
  l.filter fun c => c.frame.nPacketId = k ∧ cfg.Open c.dst

def floodOf (k : ℕ) (s : SwitchNet V S Mac) : Flood (V ⊕ S) :=
  { inFlight := ↑((openCopies cfg k s.inFlight).map fun c => (nodeOf c.src, nodeOf c.dst))
    received := ↑((openCopies cfg k s.arrived).map fun c => nodeOf c.dst) }

variable {cfg}
variable {s : SwitchNet V S Mac} {n k : ℕ} {c : LinkCopy V S Mac}

theorem inFlight_eq (h : s.inFlight[n]? = some c) :
    ∃ pre post, s.inFlight = pre ++ c :: post ∧ s.inFlight.eraseIdx n = pre ++ post := by
  obtain ⟨hn, rfl⟩ := List.getElem?_eq_some_iff.1 h
  refine ⟨s.inFlight.take n, s.inFlight.drop (n + 1), ?_, List.eraseIdx_eq_take_drop_succ ..⟩
  rw [List.getElem_cons_drop, List.take_append_drop]

variable {l : List (LinkCopy V S Mac)}

theorem openCopies_cons_of_open (hk : c.frame.nPacketId = k)
    (ho : cfg.Open c.dst) : openCopies cfg k (c :: l) = c :: openCopies cfg k l :=
  List.filter_cons_of_pos (decide_eq_true ⟨hk, ho⟩)

theorem openCopies_cons_of_not
    (h : ¬ (c.frame.nPacketId = k ∧ cfg.Open c.dst)) : openCopies cfg k (c :: l) = openCopies cfg k l :=
  List.filter_cons_of_neg (by simpa using h)

theorem openCopies_append {l' : List (LinkCopy V S Mac)} :
    openCopies cfg k (l ++ l') = openCopies cfg k l ++ openCopies cfg k l' :=
  List.filter_append ..

theorem openCopies_eq_nil (h : ∀ c ∈ l, c.frame.nPacketId ≠ k) : openCopies cfg k l = [] :=
  List.filter_eq_nil_iff.2 fun c hc hk => h c hc (of_decide_eq_true hk).1

theorem floodOf_arrive_of_not {lan : V → SwitchLan Mac} {new : List (LinkCopy V S Mac)}
    (hn : s.inFlight[n]? = some c) (h : ¬ (c.frame.nPacketId = k ∧ cfg.Open c.dst))
    (hnew : openCopies cfg k new = []) :
    floodOf cfg k { s with lan, inFlight := s.inFlight.eraseIdx n ++ new, arrived := c :: s.arrived } =
      floodOf cfg k s := by
  obtain ⟨pre, post, hs, he⟩ := inFlight_eq hn
  unfold floodOf
  rw [he, hs, openCopies_cons_of_not h, openCopies_append, openCopies_append, openCopies_append,
    openCopies_cons_of_not h, hnew, List.append_nil]

theorem floodOf_arrive (lan : V → SwitchLan Mac) {new : List (LinkCopy V S Mac)}
    (hn : s.inFlight[n]? = some c) (hk : c.frame.nPacketId = k) (ho : cfg.Open c.dst)
    (hsrc : ∀ q ∈ new, nodeOf q.src = nodeOf c.dst) :
    ∃ rest, (floodOf cfg k s).inFlight = (nodeOf c.src, nodeOf c.dst) ::ₘ rest ∧
      floodOf cfg k
          { s with lan, inFlight := s.inFlight.eraseIdx n ++ new, arrived := c :: s.arrived } =
        (floodOf cfg k s).arrive (nodeOf c.dst) rest
          ↑((openCopies cfg k new).map fun q => nodeOf q.dst) := by
  obtain ⟨pre, post, hs, he⟩ := inFlight_eq hn
  refine ⟨↑((openCopies cfg k (pre ++ post)).map fun c => (nodeOf c.src, nodeOf c.dst)), ?_, ?_⟩
  · unfold floodOf
    rw [hs, openCopies_append, openCopies_cons_of_open hk ho, openCopies_append, List.map_append,
      List.map_append, List.map_cons, Multiset.cons_coe, Multiset.coe_eq_coe]
    exact List.perm_middle
  · unfold floodOf Flood.arrive
    rw [he, openCopies_cons_of_open hk ho, openCopies_append, List.map_append, List.map_cons,
      ← Multiset.coe_add, Multiset.map_coe, List.map_map, Multiset.cons_coe]
    congr 3
    refine List.map_congr_left fun q hq => ?_
    exact Prod.ext (hsrc q (List.mem_of_mem_filter hq)) rfl

theorem floodOf_send {station : S} {frame : Frame Mac}
    (hflight : ∀ c ∈ s.inFlight, c.frame.nPacketId ≠ frame.nPacketId)
    (harrived : ∀ c ∈ s.arrived, c.frame.nPacketId ≠ frame.nPacketId) {sent : List (S × Frame Mac)} :
    floodOf cfg frame.nPacketId
        { s with
          inFlight := s.inFlight ++ [⟨.inr station, .inl (cfg.attached station), frame⟩]
          sent } =
      Flood.start (.inr station)
        (if cfg.Open (.inl (cfg.attached station)) then {.inl (cfg.attached station).1} else 0) := by
  unfold floodOf Flood.start
  rw [openCopies_append, openCopies_eq_nil hflight, openCopies_eq_nil harrived, List.nil_append]
  split
  · next ho =>
    have hsingle : openCopies cfg frame.nPacketId
        [⟨.inr station, .inl (cfg.attached station), frame⟩] =
          [⟨.inr station, .inl (cfg.attached station), frame⟩] :=
      List.filter_cons_of_pos (decide_eq_true ⟨rfl, ho⟩)
    rw [hsingle]
    rfl
  · next ho =>
    have hnone : openCopies cfg frame.nPacketId
        [⟨.inr station, .inl (cfg.attached station), frame⟩] = [] :=
      List.filter_cons_of_neg fun hc => ho (of_decide_eq_true hc).2
    rw [hnone]
    rfl

theorem floodOf_send_of_ne {station : S} {frame : Frame Mac} (hk : k ≠ frame.nPacketId)
    {sent : List (S × Frame Mac)} :
    floodOf cfg k
        { s with
          inFlight := s.inFlight ++ [⟨.inr station, .inl (cfg.attached station), frame⟩]
          sent } = floodOf cfg k s := by
  have hnone : openCopies cfg k [⟨.inr station, .inl (cfg.attached station), frame⟩] = [] := by
    refine openCopies_eq_nil fun c hc he => ?_
    rw [List.mem_singleton.1 hc] at he
    exact hk he.symm
  unfold floodOf
  rw [openCopies_append, hnone, List.append_nil]

theorem once_send (htree : cfg.FormsTree) (station : S) :
    (Flood.start (.inr station)
      (if cfg.Open (.inl (cfg.attached station)) then {.inl (cfg.attached station).1} else 0)).Once
        cfg.openGraph (.inr station) := by
  split
  · next ho =>
    have hlink : cfg.OpenLink (.inr station) (.inl (cfg.attached station)) := ⟨rfl, trivial, ho⟩
    refine Flood.Once.start (Multiset.nodup_singleton _) fun w hw => ?_
    rw [Multiset.mem_singleton.1 hw]
    exact ⟨htree.ne hlink, _, _, hlink, rfl, rfl⟩
  · exact Flood.Once.start Multiset.nodup_zero fun w hw => absurd hw (Multiset.notMem_zero w)

variable {sent : List (ℕ × Frame Mac)}

theorem mem_transmit {v : V} (h : c ∈ transmit cfg v sent) :
    ∃ x ∈ sent, cfg.peer v x.1 = some c.dst ∧ c.src = .inl (v, x.1) ∧ c.frame = x.2 := by
  obtain ⟨x, hx, hc⟩ := List.mem_filterMap.1 h
  obtain ⟨e, he, rfl⟩ := Option.map_eq_some_iff.1 hc
  exact ⟨x, hx, he, rfl, rfl⟩

theorem openLink_of_mem {v : V} {i : ℕ} {lan : SwitchLan Mac}
    (hsent : SentOn (cfg.ethVar v) lan i sent) (h : c ∈ openCopies cfg k (transmit cfg v sent)) :
    cfg.OpenLink c.src c.dst ∧ ∃ o ∈ sent.map Prod.fst, c.src = .inl (v, o) := by
  obtain ⟨hmem, hopen⟩ := List.mem_filter.1 h
  obtain ⟨x, hx, hpeer, hsrc, -⟩ := mem_transmit hmem
  have hport : x.1 ∈ sent.map Prod.fst := List.mem_map_of_mem hx
  refine ⟨⟨?_, ?_, (of_decide_eq_true hopen).2⟩, x.1, hport, hsrc⟩
  · rw [hsrc]
    exact hpeer
  · rw [hsrc]
    exact hsent.nonblocking _ hport

theorem relayed (htree : cfg.FormsTree) {v : V} {i : ℕ} {lan : SwitchLan Mac}
    (hsent : SentOn (cfg.ethVar v) lan i sent)
    (hlink : cfg.OpenLink c.src c.dst) (hdst : c.dst = .inl (v, i)) :
    ((openCopies cfg k (transmit cfg v sent)).map fun q => nodeOf q.dst).Nodup ∧
      ∀ w ∈ (openCopies cfg k (transmit cfg v sent)).map fun q => nodeOf q.dst,
        cfg.openGraph.Adj (nodeOf c.dst) w ∧ w ≠ nodeOf c.src := by
  constructor
  · have hpair : (transmit cfg v sent).Pairwise fun a b => a.src ≠ b.src := by
      unfold transmit
      rw [List.pairwise_filterMap]
      refine (List.pairwise_map.1 hsent.nodup).imp ?_
      intro x y hne a ha b hb he
      obtain ⟨_, _, rfl⟩ := Option.map_eq_some_iff.1 ha
      obtain ⟨_, _, rfl⟩ := Option.map_eq_some_iff.1 hb
      exact hne (Prod.ext_iff.1 (Sum.inl.inj he)).2
    unfold List.Nodup
    rw [List.pairwise_map]
    refine ((hpair.filter _).imp_of_mem ?_)
    intro a b ha hb hne he
    obtain ⟨hla, o, -, hoa⟩ := openLink_of_mem hsent ha
    obtain ⟨hlb, o', -, hob⟩ := openLink_of_mem hsent hb
    exact hne (htree.single hla hlb (by rw [hoa, hob]; rfl) he)
  · intro w hw
    obtain ⟨q, hq, rfl⟩ := List.mem_map.1 hw
    obtain ⟨hl, o, ho, hsrc⟩ := openLink_of_mem hsent hq
    have hnode : nodeOf q.src = nodeOf c.dst := by
      rw [hsrc, hdst]
      rfl
    refine ⟨⟨hnode ▸ htree.ne hl, q.src, q.dst, hl, hnode, rfl⟩, ?_⟩
    -- Between two nodes there is one link, and the port of the frame is left out.
    intro hback
    have he : q.src = c.dst := htree.single hl hlink.symm hnode hback
    rw [hsrc, hdst] at he
    exact hsent.ne o ho (Prod.ext_iff.1 (Sum.inl.inj he)).2

end

/-! ## The invariant -/

section
variable [DecidableEq Mac]

structure Inv (cfg : SwitchConfig V S Mac) (ids : V → List ℕ) (s : SwitchNet V S Mac) : Prop where
  wellFormed : ∀ v, (s.lan v).WellFormed
  lanIP : ∀ v, (s.lan v).lanIP = false
  interfaceId : ∀ v, (s.lan v).interfaceId = ids v
  broadcast : ∀ v, (s.lan v).outPort cfg.broadcastMac = none
  link : ∀ c ∈ s.inFlight, cfg.opposite c.src = some c.dst ∧ cfg.Open c.src
  frame : ∀ c ∈ s.inFlight, c.frame.tag = none ∧ c.frame.szSourceMac ≠ cfg.broadcastMac
  sent : ∀ c ∈ s.inFlight, ∃ x ∈ s.sent, x.2.nPacketId = c.frame.nPacketId
  sent_arrived : ∀ c ∈ s.arrived, ∃ x ∈ s.sent, x.2.nPacketId = c.frame.nPacketId
  szDestMac : ∀ c ∈ s.inFlight, ∀ x ∈ s.sent, x.2.nPacketId = c.frame.nPacketId →
    c.frame.szDestMac = x.2.szDestMac
  once : ∀ x ∈ s.sent, (floodOf cfg x.2.nPacketId s).Once cfg.openGraph (.inr x.1)

variable {cfg : SwitchConfig V S Mac} {s s' : SwitchNet V S Mac} {ids : V → List ℕ} {n k : ℕ}
  {c : LinkCopy V S Mac}

theorem Inv.start (hs : s.IsStart cfg) : Inv cfg (fun v => (s.lan v).interfaceId) s := by
  refine ⟨hs.wellFormed, hs.lanIP, fun _ => rfl, hs.broadcast, ?_, ?_, ?_, ?_, ?_, ?_⟩
  · simp [hs.inFlight]
  · simp [hs.inFlight]
  · simp [hs.inFlight]
  · simp [hs.arrived]
  · simp [hs.inFlight]
  · simp [hs.sent]

/-- What comes of a copy that arrives: nothing at a closed end, and copies on other links at an open
one. -/
structure Outcome (cfg : SwitchConfig V S Mac) (c : LinkCopy V S Mac) (new : List (LinkCopy V S Mac)) :
    Prop where
  link : ∀ q ∈ new, cfg.opposite q.src = some q.dst ∧ cfg.Open q.src
  isCopy : ∀ q ∈ new, IsCopy c.frame q.frame
  src : ∀ q ∈ new, nodeOf q.src = nodeOf c.dst
  closed : ¬ cfg.Open c.dst → new = []
  relayed : cfg.OpenLink c.src c.dst → ∀ k,
    ((openCopies cfg k new).map fun q => nodeOf q.dst).Nodup ∧
      ∀ w ∈ (openCopies cfg k new).map fun q => nodeOf q.dst,
        cfg.openGraph.Adj (nodeOf c.dst) w ∧ w ≠ nodeOf c.src

omit [DecidableEq Mac] in
theorem Outcome.ne_of_not {new : List (LinkCopy V S Mac)} (hout : Outcome cfg c new)
    (h : ¬ (c.frame.nPacketId = k ∧ cfg.Open c.dst)) : ∀ q ∈ new, q.frame.nPacketId ≠ k := by
  intro q hq hid
  have hc : c.frame.nPacketId = k := (hout.isCopy q hq).nPacketId.symm.trans hid
  rw [hout.closed fun ho => h ⟨hc, ho⟩] at hq
  cases hq

theorem Inv.arrived (h : Inv cfg ids s) (htree : cfg.FormsTree) (hn : s.inFlight[n]? = some c)
    {lan : V → SwitchLan Mac} {new : List (LinkCopy V S Mac)} (hwf : ∀ v, (lan v).WellFormed)
    (hip : ∀ v, (lan v).lanIP = false) (hids : ∀ v, (lan v).interfaceId = ids v)
    (hbroad : ∀ v, (lan v).outPort cfg.broadcastMac = none) (hout : Outcome cfg c new) :
    Inv cfg ids
      { s with lan, inFlight := s.inFlight.eraseIdx n ++ new, arrived := c :: s.arrived } := by
  have hc : c ∈ s.inFlight := List.mem_of_getElem? hn
  have hmem : ∀ {P : LinkCopy V S Mac → Prop}, (∀ q ∈ s.inFlight, P q) → (∀ q ∈ new, P q) →
      ∀ q ∈ s.inFlight.eraseIdx n ++ new, P q := by
    intro P hold hnew q hq
    rcases List.mem_append.1 hq with hq | hq
    · exact hold q (List.mem_of_mem_eraseIdx hq)
    · exact hnew q hq
  refine ⟨hwf, hip, hids, hbroad, hmem h.link hout.link, hmem h.frame ?_, hmem h.sent ?_, ?_,
    hmem h.szDestMac ?_, ?_⟩
  · intro q hq
    have hcopy := hout.isCopy q hq
    exact ⟨hcopy.tag, hcopy.szSourceMac ▸ (h.frame c hc).2⟩
  · intro q hq
    rw [(hout.isCopy q hq).nPacketId]
    exact h.sent c hc
  · intro q hq
    rcases List.mem_cons.1 hq with rfl | hq
    · exact h.sent q hc
    · exact h.sent_arrived q hq
  · intro q hq
    rw [(hout.isCopy q hq).nPacketId, (hout.isCopy q hq).szDestMac]
    exact h.szDestMac c hc
  · intro x hx
    have honce := h.once x hx
    by_cases hopen : c.frame.nPacketId = x.2.nPacketId ∧ cfg.Open c.dst
    · obtain ⟨rest, hrest, he⟩ := floodOf_arrive lan hn hopen.1 hopen.2 hout.src
      rw [he]
      have hrel := hout.relayed ⟨(h.link c hc).1, (h.link c hc).2, hopen.2⟩ x.2.nPacketId
      exact honce.arrive htree.isTree hrest (Multiset.coe_nodup.2 hrel.1)
        fun w hw => hrel.2 w (Multiset.mem_coe.1 hw)
    · rw [floodOf_arrive_of_not hn hopen (openCopies_eq_nil (hout.ne_of_not hopen))]
      exact honce

theorem outcome_transmit (htree : cfg.FormsTree) {v : V} {i : ℕ} {lan : SwitchLan Mac}
    {r : Processed Mac} (hdst : c.dst = .inl (v, i)) (hr : Relays (cfg.ethVar v) lan i c.frame r) :
    Outcome cfg c (transmit cfg v r.sent) := by
  have hclosed : ¬ cfg.Open c.dst → r.sent = [] := by
    rw [hdst]
    exact fun ho => hr.blocking (not_not.1 ho)
  have hsent : SentOn (cfg.ethVar v) lan i r.sent := by
    by_cases ho : cfg.Open c.dst
    · refine hr.sentOn ?_
      rwa [hdst] at ho
    · rw [hclosed ho]
      exact SentOn.nil
  refine ⟨?_, ?_, ?_, ?_, fun hlink k => relayed htree hsent hlink hdst⟩
  · intro q hq
    obtain ⟨x, hx, hpeer, hsrc, -⟩ := mem_transmit hq
    rw [hsrc]
    exact ⟨hpeer, hsent.nonblocking _ (List.mem_map_of_mem hx)⟩
  · intro q hq
    obtain ⟨x, hx, -, -, hframe⟩ := mem_transmit hq
    exact hframe ▸ hr.isCopy x hx
  · intro q hq
    obtain ⟨x, -, -, hsrc, -⟩ := mem_transmit hq
    rw [hsrc, hdst]
    rfl
  · intro ho
    rw [hclosed ho]
    rfl

theorem Inv.relays (h : Inv cfg ids s) (hids : ∀ v i e, cfg.peer v i = some e → i ∈ ids v)
    (hn : s.inFlight[n]? = some c) (hmeets : s.Meets cfg (.arrive n)) {v : V} {i : ℕ}
    (hdst : c.dst = .inl (v, i)) :
    Relays (cfg.ethVar v) (s.lan v) i c.frame
      (ethernetMacProcessFrame (cfg.ethVar v) (cfg.firewall v) i (s.lan v) c.frame) := by
  have hc : c ∈ s.inFlight := List.mem_of_getElem? hn
  have hopp := cfg.opposite_symm (h.link c hc).1
  rw [hdst] at hopp
  have hi : i ∈ (s.lan v).interfaceId := h.interfaceId v ▸ hids v i _ hopp
  have hm := hmeets c hn
  rw [hdst] at hm
  exact relays_of_meetsWire (h.wellFormed v) (h.lanIP v) hi (h.frame c hc).1 rfl hm

variable [DecidableEq V]

theorem step_send {station : S} {frame : Frame Mac} (hs : step cfg s (.send station frame) = some s') :
    (frame.tag = none ∧ frame.szSourceMac ≠ cfg.broadcastMac ∧
        ∀ x ∈ s.sent, x.2.nPacketId ≠ frame.nPacketId) ∧
      s' =
        { s with
          inFlight := s.inFlight ++ [⟨.inr station, .inl (cfg.attached station), frame⟩]
          sent := s.sent ++ [(station, frame)] } := by
  unfold step at hs
  dsimp only at hs
  split at hs
  · next hcond => exact ⟨hcond, (Option.some.inj hs).symm⟩
  · cases hs

theorem step_arrive (hs : step cfg s (.arrive n) = some s') :
    ∃ c, s.inFlight[n]? = some c ∧ s' = s.arrive cfg n c := by
  obtain ⟨c, hc, he⟩ := Option.map_eq_some_iff.1 hs
  exact ⟨c, hc, he.symm⟩

omit [DecidableEq V] in
theorem Inv.fresh (h : Inv cfg ids s) (hk : ∀ x ∈ s.sent, x.2.nPacketId ≠ k) :
    (∀ c ∈ s.inFlight, c.frame.nPacketId ≠ k) ∧ ∀ c ∈ s.arrived, c.frame.nPacketId ≠ k := by
  constructor
  · intro c hc he
    obtain ⟨x, hx, hid⟩ := h.sent c hc
    exact hk x hx (hid.trans he)
  · intro c hc he
    obtain ⟨x, hx, hid⟩ := h.sent_arrived c hc
    exact hk x hx (hid.trans he)

theorem Inv.send (h : Inv cfg ids s) (htree : cfg.FormsTree) {station : S} {frame : Frame Mac}
    (hs : step cfg s (.send station frame) = some s') : Inv cfg ids s' := by
  obtain ⟨⟨htag, hsrc, hfresh⟩, rfl⟩ := step_send hs
  obtain ⟨hflight, harrived⟩ := h.fresh hfresh
  have hmem : ∀ {P : LinkCopy V S Mac → Prop}, (∀ c ∈ s.inFlight, P c) →
      P ⟨.inr station, .inl (cfg.attached station), frame⟩ →
      ∀ c ∈ s.inFlight ++ [⟨.inr station, .inl (cfg.attached station), frame⟩], P c := by
    intro P hold hnew c hc
    rcases List.mem_append.1 hc with hc | hc
    · exact hold c hc
    · exact List.mem_singleton.1 hc ▸ hnew
  refine ⟨h.wellFormed, h.lanIP, h.interfaceId, h.broadcast, hmem h.link ⟨rfl, trivial⟩,
    hmem h.frame ⟨htag, hsrc⟩, hmem ?_ ⟨(station, frame), by simp, rfl⟩, ?_, hmem ?_ ?_, ?_⟩
  · intro c hc
    obtain ⟨x, hx, hid⟩ := h.sent c hc
    exact ⟨x, List.mem_append_left _ hx, hid⟩
  · intro c hc
    obtain ⟨x, hx, hid⟩ := h.sent_arrived c hc
    exact ⟨x, List.mem_append_left _ hx, hid⟩
  · intro c hc x hx hid
    rcases List.mem_append.1 hx with hx | hx
    · exact h.szDestMac c hc x hx hid
    · rw [List.mem_singleton.1 hx] at hid
      exact absurd hid.symm (hflight c hc)
  · intro x hx hid
    rcases List.mem_append.1 hx with hx | hx
    · exact absurd hid (hfresh x hx)
    · rw [List.mem_singleton.1 hx]
  · intro x hx
    rcases List.mem_append.1 hx with hx | hx
    · rw [floodOf_send_of_ne (hfresh x hx)]
      exact h.once x hx
    · obtain rfl := List.mem_singleton.1 hx
      rw [floodOf_send hflight harrived]
      exact once_send htree station

theorem Inv.outcome (h : Inv cfg ids s) (htree : cfg.FormsTree)
    (hids : ∀ v i e, cfg.peer v i = some e → i ∈ ids v) (hn : s.inFlight[n]? = some c)
    (hmeets : s.Meets cfg (.arrive n)) : Outcome cfg c (s.handle cfg c).2 := by
  unfold handle
  split
  · exact ⟨nofun, nofun, nofun, fun _ => rfl, fun _ _ => ⟨List.nodup_nil, nofun⟩⟩
  · next v i hdst => exact outcome_transmit htree hdst (h.relays hids hn hmeets hdst)

theorem forall_handle {P : V → SwitchLan Mac → Prop} (hold : ∀ v, P v (s.lan v))
    (hnew : ∀ v i, c.dst = .inl (v, i) →
      P v (ethernetMacProcessFrame (cfg.ethVar v) (cfg.firewall v) i (s.lan v) c.frame).lan) (w : V) :
    P w ((s.handle cfg c).1 w) := by
  unfold handle
  split
  · exact hold w
  · next v i hdst =>
    dsimp only
    by_cases hw : w = v
    · rw [hw, Function.update_self]
      exact hnew v i hdst
    · rw [Function.update_of_ne hw]
      exact hold w

theorem Inv.arrive (h : Inv cfg ids s) (htree : cfg.FormsTree)
    (hids : ∀ v i e, cfg.peer v i = some e → i ∈ ids v) (hn : s.inFlight[n]? = some c)
    (hmeets : s.Meets cfg (.arrive n)) : Inv cfg ids (s.arrive cfg n c) := by
  have hc : c ∈ s.inFlight := List.mem_of_getElem? hn
  have hr := fun v i (hdst : c.dst = .inl (v, i)) => h.relays hids hn hmeets hdst
  refine h.arrived htree hn
    (forall_handle (P := fun _ l => l.WellFormed) h.wellFormed fun v i hd => (hr v i hd).wellFormed)
    (forall_handle (P := fun _ l => l.lanIP = false) h.lanIP fun v i hd => (hr v i hd).lanIP)
    (forall_handle (P := fun w l => l.interfaceId = ids w) h.interfaceId
      fun v i hd => (hr v i hd).interfaceId.trans (h.interfaceId v))
    (forall_handle (P := fun _ l => l.outPort cfg.broadcastMac = none) h.broadcast ?_)
    (h.outcome htree hids hn hmeets)
  intro v i hd
  rw [(hr v i hd).outPort _ (h.frame c hc).2.symm]
  exact h.broadcast v

end

end SwitchNet

end NetSim.Ethernet
