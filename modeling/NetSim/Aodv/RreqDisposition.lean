import NetSim.Aodv.Emission

/-!
# The disposition of an RREQ

`GenerateRREPByIntermediate` forwards the RREQ where its caller does as well, and the caller has no
branch for a device without a usable route: so the RREQ is forwarded twice, or not at all.
-/

namespace NetSim.Aodv

/-- The device variable with the reverse route that `rreq` gives. -/
def DeviceVar.withReverseRoute (c : Curr) (rreq : RREQ) (v : DeviceVar) : DeviceVar :=
  { v with routeTable := (reverseRoute c rreq).table c v.routeTable }

/-- The device may answer, and its next hop is not the device that the RREQ came from. -/
def canAnswer (c : Curr) (rreq : RREQ) (v : DeviceVar) : Bool :=
  mayAnswer c rreq v && decide (findNextHop v rreq.destinationIPAddress ≠ some rreq.lastAddress)

/-- The packet carries an RREP that answers `rreq`. -/
def IsReply (rreq : RREQ) (packet : Packet) : Prop :=
  ∃ rrep, packet.payload = .rrep rrep ∧
    rrep.destinationIPaddress = rreq.destinationIPAddress ∧
    rrep.originatorIPaddress = rreq.originatorIPAddress

/-- The packet carries `rreq` with one hop more. -/
def IsRebroadcast (rreq : RREQ) (packet : Packet) : Prop :=
  ∃ rreq', packet.payload = .rreq rreq' ∧ rreq'.rreqId = rreq.rreqId ∧
    rreq'.originatorIPAddress = rreq.originatorIPAddress ∧
    rreq'.destinationIPAddress = rreq.destinationIPAddress ∧ rreq'.hopCount = rreq.hopCount + 1

/-- The destination answers, a congested device discards, a device that can answer does, and any
other rebroadcasts unless the TTL has run out. -/
def DisposesOf (c : Curr) (nRREQId : UInt32) (v : DeviceVar) (packet : Packet) (rreq : RREQ) :
    Prop :=
  ∃ o, handle c nRREQId v (.networkIn packet) = some o ∧
    if c.ip = rreq.destinationIPAddress then ∃ reply, o.packets = [reply] ∧ IsReply rreq reply
    else if 25 < devCounter v.ncounter then o.packets = []
    else if canAnswer c rreq (v.withReverseRoute c rreq) then
      ∃ reply, o.packets = [reply] ∧ IsReply rreq reply
    else if packet.nTTL = 1 then o.packets = []
    else ∃ forwarded, o.packets = [forwarded] ∧ IsRebroadcast rreq forwarded

section Cases

variable {c : Curr} (nRREQId : UInt32) {v : DeviceVar} {packet : Packet} {rreq : RREQ}

theorem mayAnswer_accept :
    mayAnswer c rreq (v.accept c rreq) = mayAnswer c rreq (v.withReverseRoute c rreq) := by
  unfold mayAnswer checkRouteFound
  rw [accept_routeTable]
  rfl

theorem findNextHop_accept (ip : IPAddress) :
    findNextHop (v.accept c rreq) ip = findNextHop (v.withReverseRoute c rreq) ip := by
  unfold findNextHop
  rw [accept_routeTable]
  rfl

theorem canAnswer_of_reply (hmay : mayAnswer c rreq (v.accept c rreq) = true) {table : RouteTable}
    (hfind : findRouteTable (v.accept c rreq).routeTable rreq.destinationIPAddress = some table)
    (hnext : table.nextHop ≠ rreq.lastAddress) :
    canAnswer c rreq (v.withReverseRoute c rreq) = true := by
  unfold canAnswer
  rw [← mayAnswer_accept, ← findNextHop_accept, hmay, findNextHop, hfind, Bool.true_and,
    decide_eq_true_iff]
  exact fun heq => hnext (Option.some.inj heq)

variable (hrreq : packet.payload = .rreq rreq) (hseen : checkRREQSeenTable v rreq = false)
  (hdest : c.ip ≠ rreq.destinationIPAddress) (hcongested : devCounter v.ncounter ≤ 25)
include hrreq hseen hdest hcongested

theorem handle_rreq_canAnswer (hanswer : canAnswer c rreq (v.withReverseRoute c rreq) = true) :
    ∃ o reply, handle c nRREQId v (.networkIn packet) = some o ∧ o.packets = [reply] ∧
      IsReply rreq reply := by
  obtain ⟨hmay, hnext⟩ := Bool.and_eq_true_iff.1 hanswer
  rw [← mayAnswer_accept] at hmay
  rw [decide_eq_true_iff, ← findNextHop_accept] at hnext
  obtain ⟨table, hfind⟩ := exists_of_mayAnswer hmay
  have hnext : table.nextHop ≠ rreq.lastAddress := by
    intro h
    rw [findNextHop, hfind, Option.map_some, h] at hnext
    exact hnext rfl
  obtain ⟨o, ho, hpackets⟩ :=
    handle_rreq_answers nRREQId hrreq hseen hdest hcongested hmay hfind hnext
  exact ⟨o, _, ho, hpackets, _, rfl, rfl, rfl⟩

theorem not_disposesOf_noRoute (hmay : mayAnswer c rreq (v.withReverseRoute c rreq) = false)
    (hTTL : packet.nTTL ≠ 1) : ¬ DisposesOf c nRREQId v packet rreq := by
  obtain ⟨o, ho, hpackets⟩ :=
    handle_rreq_noRoute nRREQId hrreq hseen hdest hcongested (mayAnswer_accept.trans hmay)
  have hanswer : canAnswer c rreq (v.withReverseRoute c rreq) = false := by
    simp [canAnswer, hmay]
  unfold DisposesOf
  simp only [hdest, not_lt_of_ge hcongested, hanswer, hTTL, if_false, Bool.false_eq_true]
  rintro ⟨o', ho', forwarded, hforwarded, -⟩
  rw [ho] at ho'
  rw [← Option.some.inj ho', hpackets] at hforwarded
  cases hforwarded

theorem not_disposesOf_back (hmay : mayAnswer c rreq (v.withReverseRoute c rreq) = true)
    (hanswer : canAnswer c rreq (v.withReverseRoute c rreq) = false) :
    ¬ DisposesOf c nRREQId v packet rreq := by
  have hnext : findNextHop (v.withReverseRoute c rreq) rreq.destinationIPAddress =
      some rreq.lastAddress := by
    simpa [canAnswer, hmay] using hanswer
  have hback := handle_rreq_back nRREQId hrreq hseen hdest hcongested
    (mayAnswer_accept.trans hmay) ((findNextHop_accept _).trans hnext)
  unfold DisposesOf
  simp only [hdest, not_lt_of_ge hcongested, hanswer, if_false, Bool.false_eq_true]
  by_cases hTTL : packet.nTTL = 1
  · rw [if_pos hTTL] at hback
    rintro ⟨o', ho', -⟩
    rw [hback] at ho'
    cases ho'
  · rw [if_neg hTTL] at hback
    obtain ⟨o, ho, hpackets⟩ := hback
    simp only [if_neg hTTL]
    rintro ⟨o', ho', forwarded, hforwarded, -⟩
    rw [ho] at ho'
    rw [← Option.some.inj ho', hpackets] at hforwarded
    cases hforwarded

end Cases

/-- The RREQ is disposed of exactly when the device is the destination, or congested, or can answer,
or has no usable route and the TTL has run out. -/
theorem disposesOf_iff (c : Curr) (nRREQId : UInt32) (v : DeviceVar) (packet : Packet) (rreq : RREQ)
    (hrreq : packet.payload = .rreq rreq) (hseen : checkRREQSeenTable v rreq = false) :
    DisposesOf c nRREQId v packet rreq ↔
      c.ip = rreq.destinationIPAddress ∨ 25 < devCounter v.ncounter ∨
        canAnswer c rreq (v.withReverseRoute c rreq) = true ∨
        (mayAnswer c rreq (v.withReverseRoute c rreq) = false ∧ packet.nTTL = 1) := by
  by_cases hdest : c.ip = rreq.destinationIPAddress
  · obtain ⟨o, ho, hpackets, -⟩ := handle_rreq_destination nRREQId hrreq hseen hdest
    refine iff_of_true ⟨o, ho, ?_⟩ (Or.inl hdest)
    rw [if_pos hdest]
    exact ⟨_, hpackets, _, rfl, rfl, rfl⟩
  by_cases hcongested : 25 < devCounter v.ncounter
  · obtain ⟨o, ho, hpackets⟩ :=
      handle_rreq_congested nRREQId hrreq hseen hdest hcongested
    refine iff_of_true ⟨o, ho, ?_⟩ (Or.inr (Or.inl hcongested))
    rw [if_neg hdest, if_pos hcongested]
    exact hpackets
  have hcounter := le_of_not_gt hcongested
  cases hanswer : canAnswer c rreq (v.withReverseRoute c rreq) with
  | true =>
    obtain ⟨o, reply, ho, hpackets, hreply⟩ :=
      handle_rreq_canAnswer nRREQId hrreq hseen hdest hcounter hanswer
    refine iff_of_true ⟨o, ho, ?_⟩ (Or.inr (Or.inr (Or.inl rfl)))
    rw [if_neg hdest, if_neg hcongested, if_pos hanswer]
    exact ⟨reply, hpackets, hreply⟩
  | false =>
    cases hmay : mayAnswer c rreq (v.withReverseRoute c rreq) with
    | true =>
      exact iff_of_false (not_disposesOf_back nRREQId hrreq hseen hdest hcounter hmay hanswer)
        (by simp [hdest, hcongested])
    | false =>
      by_cases hTTL : packet.nTTL = 1
      · obtain ⟨o, ho, hpackets⟩ :=
          handle_rreq_noRoute nRREQId hrreq hseen hdest hcounter (mayAnswer_accept.trans hmay)
        refine iff_of_true ⟨o, ho, ?_⟩ (Or.inr (Or.inr (Or.inr ⟨rfl, hTTL⟩)))
        rw [if_neg hdest, if_neg hcongested, if_neg (by simp [hanswer]), if_pos hTTL]
        exact hpackets
      · exact iff_of_false (not_disposesOf_noRoute nRREQId hrreq hseen hdest hcounter hmay hTTL)
          (by simp [hdest, hcongested, hTTL])

/-- An RREQ of device 1 for device 2, as device 3 receives it. -/
def floodedRREQ : RREQ := ⟨noFlags, 0, 1, 2, 0, 1, 1, 1⟩

def floodedPacket (nTTL : UInt8) : Packet := ⟨1, broadcastIP, 1, none, none, nTTL, .rreq floodedRREQ⟩

theorem disposesOf_floodedPacket :
    ∃ o, handle ⟨2, 0⟩ 1 .init (.networkIn (floodedPacket 2)) = some o ∧
      DisposesOf ⟨2, 0⟩ 1 .init (floodedPacket 2) floodedRREQ := by
  obtain ⟨o, ho, hrest⟩ := (disposesOf_iff ⟨2, 0⟩ 1 .init (floodedPacket 2) floodedRREQ rfl rfl).2
    (Or.inl rfl)
  exact ⟨o, ho, o, ho, hrest⟩

/-- Device 3 has no route to device 2, and does not forward the RREQ. -/
theorem exists_not_disposesOf : ¬ ∀ c nRREQId v packet rreq, packet.payload = .rreq rreq →
    checkRREQSeenTable v rreq = false → DisposesOf c nRREQId v packet rreq := by
  intro h
  have hmay : mayAnswer ⟨3, 0⟩ floodedRREQ (DeviceVar.init.withReverseRoute ⟨3, 0⟩ floodedRREQ) =
      false := by
    decide +kernel
  have hnot : ¬ DisposesOf ⟨3, 0⟩ 1 .init (floodedPacket 2) floodedRREQ :=
    not_disposesOf_noRoute 1 rfl rfl (by decide) (by decide) hmay (by decide)
  exact hnot (h _ _ _ _ _ rfl rfl)

end NetSim.Aodv
