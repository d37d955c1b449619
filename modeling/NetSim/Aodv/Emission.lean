import NetSim.Aodv.RouteEffect

/-!
# The packets that an event puts out

`Emits` lists every reason for which a handler adds a `NETWORK_OUT` event or passes a frame to the
MAC layer, with the packet that results.
-/

namespace NetSim.Aodv

/-! ## Packets of events -/

/-- The packet of a `NETWORK_OUT` event. -/
def EventDetails.packet? (e : EventDetails) : Option Packet :=
  match e.subEvent with
  | .networkOut packet => some packet
  | _ => none

/-- The packets that wait for their `NETWORK_OUT` event. -/
def networkOuts (events : List EventDetails) : List Packet := events.filterMap EventDetails.packet?

@[simp] theorem networkOuts_nil : networkOuts [] = [] := rfl

@[simp] theorem networkOuts_append (l1 l2 : List EventDetails) :
    networkOuts (l1 ++ l2) = networkOuts l1 ++ networkOuts l2 :=
  List.filterMap_append

@[simp] theorem networkOuts_cons (e : EventDetails) (l : List EventDetails) :
    networkOuts (e :: l) = e.packet?.toList ++ networkOuts l := by
  unfold networkOuts
  rw [List.filterMap_cons]
  cases e.packet? <;> rfl

theorem mem_networkOuts {packet : Packet} {events : List EventDetails} :
    packet ∈ networkOuts events ↔ ∃ time, ⟨time, .networkOut packet⟩ ∈ events := by
  unfold networkOuts
  rw [List.mem_filterMap]
  constructor
  · rintro ⟨⟨time, subEvent⟩, hmem, hpacket⟩
    cases subEvent with
    | networkOut packet' =>
      simp only [EventDetails.packet?, Option.some.injEq] at hpacket
      exact ⟨time, hpacket ▸ hmem⟩
    | _ => cases hpacket
  · rintro ⟨time, hmem⟩
    exact ⟨_, hmem, rfl⟩

def Outcome.packets (o : Outcome) : List Packet := networkOuts o.added

def Outcome.emitted (o : Outcome) : List Packet := o.packets ++ o.frame.toList

/-! ## `ProcessRREQ` case by case -/

/-- The reply of `GenerateRREP`. -/
def destinationReply (c : Curr) (v : DeviceVar) (rreq : RREQ) : Packet :=
  generateCtrlPacket c.ip (some rreq.originatorIPAddress) (some rreq.lastAddress)
    (rreq.hopCount + 2) <| .rrep {
      hopCount := 1
      destinationIPaddress := rreq.destinationIPAddress
      destinationSequenceNumber := v.nSequenceNumber + 1
      originatorIPaddress := rreq.originatorIPAddress
      lifetime := toUnsigned aodvMyRouteTimeout
      lastAddress := c.ip
      congestionflag := false }

/-- The reply of `GenerateRREPByIntermediate`. -/
def intermediateReply (c : Curr) (v : DeviceVar) (rreq : RREQ) (table : RouteTable) : Packet :=
  generateCtrlPacket c.ip (some rreq.originatorIPAddress) (some rreq.lastAddress)
    (.ofNat aodvNetDiameter) (.rrep (intermediateRREP c rreq table (.start 0 v)))

theorem generateRREP_eq (c : Curr) (rreq : RREQ) (s : Sim) :
    generateRREP c rreq s =
      (s.modifyVar fun v => { v with nSequenceNumber := v.nSequenceNumber + 1 }).addEvent
        c.dEventTime (.networkOut (destinationReply c s.devVar rreq)) := rfl

/-- The RREQ that `ForwardRREQ` makes of `rreq`. -/
def rebroadcastRREQ (c : Curr) (v : DeviceVar) (rreq : RREQ) : RREQ :=
  let nSeq := findSequenceNumber v rreq.destinationIPAddress
  let seq := if rreq.destinationSequenceNumber < nSeq then nSeq else rreq.destinationSequenceNumber
  { rreq with
    hopCount := rreq.hopCount + 1
    destinationSequenceNumber := seq
    jrgdu := if seq ≠ 0 then rreq.jrgdu.set 4 '1' four_lt_six else rreq.jrgdu
    lastAddress := c.ip }

/-- The packet that `ForwardRREQ` makes of `packet`, which carries `rreq`. -/
def rebroadcast (c : Curr) (v : DeviceVar) (packet : Packet) (rreq : RREQ) : Packet :=
  { packet with
    nTransmitterId := c.ip
    nReceiverId := none
    szNextHopIp := none
    payload := .rreq (rebroadcastRREQ c v rreq) }

theorem forwardRREQ_eq {c : Curr} {s : Sim} {packet : Packet} {rreq : RREQ}
    (hpacket : s.pPacket = some packet) (hrreq : packet.payload = .rreq rreq) :
    forwardRREQ c s =
      if packet.nTTL = 1 then some { s with pPacket := none }
      else some { s with
        pPacket := some (rebroadcast c s.devVar packet rreq)
        packetEvents := s.packetEvents + 1 } := by
  unfold forwardRREQ
  simp only [hpacket, hrreq]
  rfl

/-- The packet that two calls of `ForwardRREQ` make of `packet`. -/
def rebroadcastTwice (c : Curr) (v : DeviceVar) (packet : Packet) (rreq : RREQ) : Packet :=
  rebroadcast c v (rebroadcast c v packet rreq) (rebroadcastRREQ c v rreq)

theorem forwardRREQ_twice {c : Curr} {s : Sim} {packet : Packet} {rreq : RREQ}
    (hpacket : s.pPacket = some packet) (hrreq : packet.payload = .rreq rreq) :
    (forwardRREQ c s).bind (forwardRREQ c) =
      if packet.nTTL = 1 then none
      else some { s with
        pPacket := some (rebroadcastTwice c s.devVar packet rreq)
        packetEvents := s.packetEvents + 2 } := by
  rw [forwardRREQ_eq hpacket hrreq]
  split
  · rfl
  · next hTTL =>
    exact if_neg hTTL

section AcceptRREQ

variable (c : Curr) (rreq : RREQ) (s : Sim)

theorem acceptRREQ_devVar : (acceptRREQ c rreq s).devVar =
    { s.devVar with
      routeTable := (reverseRoute c rreq).table c s.devVar.routeTable
      rreqSeenTable := s.devVar.rreqSeenTable ++
        [⟨rreq.originatorIPAddress, rreq.rreqId, c.dEventTime + aodvPathDiscoveryTime⟩]
      precursorsList := (insertInPrecursorsList rreq.lastAddress s).devVar.precursorsList } := by
  rw [acceptRREQ_eq]
  rfl

/-- The device variable once `ProcessRREQ` has taken note of the RREQ. -/
def DeviceVar.accept (c : Curr) (rreq : RREQ) (v : DeviceVar) : DeviceVar :=
  (acceptRREQ c rreq (.start 0 v)).devVar

theorem acceptRREQ_devVar_eq : (acceptRREQ c rreq s).devVar = s.devVar.accept c rreq := by
  unfold DeviceVar.accept
  rw [acceptRREQ_devVar, acceptRREQ_devVar]
  rfl

@[simp] theorem accept_ncounter (v : DeviceVar) : (v.accept c rreq).ncounter = v.ncounter := by
  unfold DeviceVar.accept
  rw [acceptRREQ_devVar]
  rfl

@[simp] theorem accept_nSequenceNumber (v : DeviceVar) :
    (v.accept c rreq).nSequenceNumber = v.nSequenceNumber := by
  unfold DeviceVar.accept
  rw [acceptRREQ_devVar]
  rfl

theorem accept_routeTable (v : DeviceVar) :
    (v.accept c rreq).routeTable = (reverseRoute c rreq).table c v.routeTable := by
  unfold DeviceVar.accept
  rw [acceptRREQ_devVar]
  rfl

theorem destinationReply_accept (v : DeviceVar) :
    destinationReply c (v.accept c rreq) rreq = destinationReply c v rreq := by
  unfold destinationReply
  rw [accept_nSequenceNumber]

@[simp] theorem acceptRREQ_pPacket : (acceptRREQ c rreq s).pPacket = s.pPacket := by
  rw [acceptRREQ_eq]
  rfl

@[simp] theorem acceptRREQ_packetEvents : (acceptRREQ c rreq s).packetEvents = s.packetEvents := by
  rw [acceptRREQ_eq]
  rfl

@[simp] theorem acceptRREQ_nRREQId : (acceptRREQ c rreq s).nRREQId = s.nRREQId := by
  rw [acceptRREQ_eq]
  rfl

theorem networkOuts_timers (op : RouteOp) (l : List RouteTable) :
    networkOuts (op.timers c l) = [] := by
  unfold networkOuts
  rw [List.filterMap_eq_nil_iff]
  intro e he
  obtain ⟨dest, htimer⟩ := subEvent_of_mem_timers he
  unfold EventDetails.packet?
  rw [htimer]

@[simp] theorem networkOuts_acceptRREQ :
    networkOuts (acceptRREQ c rreq s).added = networkOuts s.added := by
  rw [acceptRREQ_eq, applyOp_added, networkOuts_append, networkOuts_timers, List.append_nil]
  rfl

end AcceptRREQ

section ProcessRREQ

variable {c : Curr} {rreq : RREQ} (s : Sim)

theorem processRREQ_destination (hseen : checkRREQSeenTable s.devVar rreq = false)
    (hdest : c.ip = rreq.destinationIPAddress) :
    processRREQ c rreq s =
      some { generateRREP c rreq (acceptRREQ c rreq s) with pPacket := none } := by
  unfold processRREQ
  rw [if_neg (by simp [hseen])]
  exact if_pos hdest

theorem processRREQ_congested (hseen : checkRREQSeenTable s.devVar rreq = false)
    (hdest : c.ip ≠ rreq.destinationIPAddress) (hcongested : 25 < devCounter s.devVar.ncounter) :
    processRREQ c rreq s = some { acceptRREQ c rreq s with pPacket := none } := by
  unfold processRREQ
  rw [if_neg (by simp [hseen])]
  simp only [if_neg hdest, acceptRREQ_devVar_eq, accept_ncounter, if_pos hcongested]

variable (hseen : checkRREQSeenTable s.devVar rreq = false)
  (hdest : c.ip ≠ rreq.destinationIPAddress)
  (hcongested : devCounter s.devVar.ncounter ≤ 25)
include hseen hdest hcongested

theorem processRREQ_answers (hanswer : mayAnswer c rreq (s.devVar.accept c rreq) = true)
    {table : RouteTable} (hfind : findRouteTable (s.devVar.accept c rreq).routeTable
      rreq.destinationIPAddress = some table) (hnext : table.nextHop ≠ rreq.lastAddress) :
    processRREQ c rreq s =
      some { (acceptRREQ c rreq s).addEvent c.dEventTime
        (.networkOut (intermediateReply c (s.devVar.accept c rreq) rreq table)) with
        pPacket := none } := by
  rw [← accept_ncounter c rreq] at hcongested
  rw [← acceptRREQ_devVar_eq] at hcongested hanswer hfind ⊢
  unfold mayAnswer at hanswer
  unfold processRREQ generateRREPByIntermediate
  rw [if_neg (by simp [hseen])]
  simp only [if_neg hdest, if_neg (not_lt_of_ge hcongested), if_pos hanswer, hfind, if_neg hnext]
  rfl

theorem processRREQ_back (hanswer : mayAnswer c rreq (s.devVar.accept c rreq) = true)
    {table : RouteTable} (hfind : findRouteTable (s.devVar.accept c rreq).routeTable
      rreq.destinationIPAddress = some table) (hnext : table.nextHop = rreq.lastAddress) :
    processRREQ c rreq s = (forwardRREQ c (acceptRREQ c rreq s)).bind (forwardRREQ c) := by
  rw [← accept_ncounter c rreq] at hcongested
  rw [← acceptRREQ_devVar_eq] at hcongested hanswer hfind
  unfold mayAnswer at hanswer
  unfold processRREQ generateRREPByIntermediate
  rw [if_neg (by simp [hseen])]
  simp only [if_neg hdest, if_neg (not_lt_of_ge hcongested), if_pos hanswer, hfind, if_pos hnext]
  cases forwardRREQ c (acceptRREQ c rreq s) <;> rfl

theorem processRREQ_noRoute (hanswer : mayAnswer c rreq (s.devVar.accept c rreq) = false) :
    processRREQ c rreq s = some (acceptRREQ c rreq s) := by
  rw [← accept_ncounter c rreq] at hcongested
  rw [← acceptRREQ_devVar_eq] at hcongested hanswer
  unfold mayAnswer at hanswer
  unfold processRREQ
  rw [if_neg (by simp [hseen])]
  simp only [if_neg hdest, if_neg (not_lt_of_ge hcongested), hanswer]
  rfl

end ProcessRREQ

/-! ## What `ProcessRREQ` puts out -/

theorem packets_afterIn (c : Curr) (s : Sim) : (s.afterIn c).packets =
    networkOuts s.added ++ (s.pPacket.map (List.replicate s.packetEvents)).getD [] := by
  unfold Outcome.packets Sim.afterIn
  cases s.pPacket with
  | none => simp
  | some packet =>
    have hreplicate : ∀ n, networkOuts (List.replicate n ⟨c.dEventTime, .networkOut packet⟩) =
        List.replicate n packet := by
      intro n
      induction n with
      | zero => rfl
      | succ n ih => simp [List.replicate_succ, EventDetails.packet?, ih]
    simp [hreplicate]

section HandleRREQ

variable {c : Curr} (nRREQId : UInt32) {v : DeviceVar} {packet : Packet} {rreq : RREQ}

/-- The state that `ProcessRREQ` starts with. -/
def rreqStart (nRREQId : UInt32) (v : DeviceVar) (packet : Packet) : Sim :=
  { Sim.start nRREQId v with pPacket := some packet }

theorem handle_rreq (hrreq : packet.payload = .rreq rreq) :
    handle c nRREQId v (.networkIn packet) =
      (processRREQ c rreq (rreqStart nRREQId v packet)).map (·.afterIn c) := by
  unfold handle networkInEvent rreqStart
  simp only [hrreq]

variable (hrreq : packet.payload = .rreq rreq)
include hrreq

theorem handle_rreq_seen (hseen : checkRREQSeenTable v rreq = true) :
    handle c nRREQId v (.networkIn packet) = some ⟨v, nRREQId, [], none⟩ := by
  rw [handle_rreq nRREQId hrreq, processRREQ_seen hseen]
  rfl

variable (hseen : checkRREQSeenTable v rreq = false)
include hseen

theorem handle_rreq_destination (hdest : c.ip = rreq.destinationIPAddress) :
    ∃ o, handle c nRREQId v (.networkIn packet) = some o ∧ o.packets = [destinationReply c v rreq] ∧
      o.devVar.nSequenceNumber = v.nSequenceNumber + 1 := by
  rw [handle_rreq nRREQId hrreq, processRREQ_destination (rreqStart nRREQId v packet) hseen hdest]
  refine ⟨_, rfl, ?_, ?_⟩
  · rw [packets_afterIn, generateRREP_eq, acceptRREQ_devVar_eq, destinationReply_accept]
    simp [rreqStart, Sim.start, EventDetails.packet?]
  · rw [generateRREP_eq]
    simp only [Sim.afterIn, addEvent_devVar, modifyVar_devVar, acceptRREQ_devVar_eq,
      accept_nSequenceNumber]
    rfl

theorem handle_rreq_congested (hdest : c.ip ≠ rreq.destinationIPAddress)
    (hcongested : 25 < devCounter v.ncounter) :
    ∃ o, handle c nRREQId v (.networkIn packet) = some o ∧ o.packets = [] := by
  rw [handle_rreq nRREQId hrreq,
    processRREQ_congested (rreqStart nRREQId v packet) hseen hdest hcongested]
  refine ⟨_, rfl, ?_⟩
  rw [packets_afterIn]
  simp [rreqStart, Sim.start]

variable (hdest : c.ip ≠ rreq.destinationIPAddress) (hcongested : devCounter v.ncounter ≤ 25)
include hdest hcongested

theorem handle_rreq_answers (hmay : mayAnswer c rreq (v.accept c rreq) = true) {table : RouteTable}
    (hfind : findRouteTable (v.accept c rreq).routeTable rreq.destinationIPAddress = some table)
    (hnext : table.nextHop ≠ rreq.lastAddress) :
    ∃ o, handle c nRREQId v (.networkIn packet) = some o ∧
      o.packets = [intermediateReply c (v.accept c rreq) rreq table] := by
  rw [handle_rreq nRREQId hrreq,
    processRREQ_answers (rreqStart nRREQId v packet) hseen hdest hcongested hmay hfind hnext]
  refine ⟨_, rfl, ?_⟩
  rw [packets_afterIn]
  simp [rreqStart, Sim.start, EventDetails.packet?]

theorem handle_rreq_back (hmay : mayAnswer c rreq (v.accept c rreq) = true)
    (hnext : findNextHop (v.accept c rreq) rreq.destinationIPAddress = some rreq.lastAddress) :
    if packet.nTTL = 1 then handle c nRREQId v (.networkIn packet) = none
    else ∃ o, handle c nRREQId v (.networkIn packet) = some o ∧ o.packets = List.replicate 2
      (rebroadcastTwice c (v.accept c rreq) packet rreq) := by
  obtain ⟨table, hfind, hnext⟩ := Option.map_eq_some_iff.1 hnext
  have hpacket : (acceptRREQ c rreq (rreqStart nRREQId v packet)).pPacket = some packet :=
    acceptRREQ_pPacket ..
  rw [handle_rreq nRREQId hrreq,
    processRREQ_back (rreqStart nRREQId v packet) hseen hdest hcongested hmay hfind hnext,
    forwardRREQ_twice hpacket hrreq]
  split
  · rfl
  · refine ⟨_, rfl, ?_⟩
    rw [packets_afterIn]
    simp [rreqStart, Sim.start, acceptRREQ_devVar_eq]

theorem handle_rreq_noRoute (hmay : mayAnswer c rreq (v.accept c rreq) = false) :
    ∃ o, handle c nRREQId v (.networkIn packet) = some o ∧ o.packets = [] := by
  rw [handle_rreq nRREQId hrreq,
    processRREQ_noRoute (rreqStart nRREQId v packet) hseen hdest hcongested hmay]
  refine ⟨_, rfl, ?_⟩
  rw [packets_afterIn]
  simp [rreqStart, Sim.start]

end HandleRREQ

theorem exists_of_mayAnswer {c : Curr} {rreq : RREQ} {v : DeviceVar}
    (h : mayAnswer c rreq v = true) :
    ∃ table, findRouteTable v.routeTable rreq.destinationIPAddress = some table :=
  exists_of_checkRouteFound (Bool.and_eq_true_iff.1 h).1

/-! ## Every packet has a reason -/

def DataFIFO (v : DeviceVar) : Prop :=
  ∀ fifo ∈ v.fifo, ∀ packet ∈ fifo.packetList, packet.isControl = false

/-- The packet that `ForwardRREP` makes of `packet`, which carries `rrep`. -/
def forwardedRREP (c : Curr) (packet : Packet) (rrep : RREP) (nextHop : IPAddress) : Packet :=
  { packet with
    nTransmitterId := c.ip
    nReceiverId := some nextHop
    szNextHopIp := none
    payload := .rrep { rrep with hopCount := rrep.hopCount + 1, lastAddress := c.ip } }

/-- The reasons for which an event with outcome `o` puts out a packet. -/
inductive Emits (c : Curr) (nRREQId : UInt32) (v : DeviceVar) (o : Outcome) :
    NodeAction → Packet → Prop
  | sends (time : Time) (packet p : Packet) (hpayload : p.payload = packet.payload)
      (hTTL : p.nTTL = packet.nTTL) (htransmitter : p.nTransmitterId = c.ip)
      (hdest : p.szDestIP = packet.szDestIP) :
    Emits c nRREQId v o (.fire ⟨time, .networkOut packet⟩) p
  | data (a : NodeAction) (p : Packet) (hdata : p.isControl = false) : Emits c nRREQId v o a p
  /-- `GenerateRREQ` or `RetryRREQ`. -/
  | originates (a : NodeAction) (dest : IPAddress) (p : Packet)
      (hrreq : p.payload = .rreq (newRREQ c dest (.start nRREQId v)))
      (htransmitter : p.nTransmitterId = c.ip) (hcount : o.nRREQId = nRREQId + 1)
      (hseq : o.devVar.nSequenceNumber = v.nSequenceNumber + 1) : Emits c nRREQId v o a p
  /-- `GenerateRREP`. -/
  | destination (packet : Packet) (rreq : RREQ) (hrreq : packet.payload = .rreq rreq)
      (hseen : checkRREQSeenTable v rreq = false) (hdest : c.ip = rreq.destinationIPAddress)
      (hseq : o.devVar.nSequenceNumber = v.nSequenceNumber + 1) :
    Emits c nRREQId v o (.networkIn packet) (destinationReply c v rreq)
  /-- `GenerateRREPByIntermediate`. -/
  | intermediate (packet : Packet) (rreq : RREQ) (table : RouteTable)
      (hrreq : packet.payload = .rreq rreq) (hseen : checkRREQSeenTable v rreq = false)
      (hdest : c.ip ≠ rreq.destinationIPAddress) (hcongested : devCounter v.ncounter ≤ 25)
      (hanswer : mayAnswer c rreq (v.accept c rreq) = true)
      (hfind : findRouteTable (v.accept c rreq).routeTable rreq.destinationIPAddress = some table)
      (hnext : table.nextHop ≠ rreq.lastAddress) :
    Emits c nRREQId v o (.networkIn packet) (intermediateReply c (v.accept c rreq) rreq table)
  /-- `ForwardRREQ`, twice. -/
  | rebroadcasts (packet : Packet) (rreq : RREQ) (hrreq : packet.payload = .rreq rreq)
      (hseen : checkRREQSeenTable v rreq = false) (hdest : c.ip ≠ rreq.destinationIPAddress)
      (hcongested : devCounter v.ncounter ≤ 25)
      (hanswer : mayAnswer c rreq (v.accept c rreq) = true)
      (hnext : findNextHop (v.accept c rreq) rreq.destinationIPAddress = some rreq.lastAddress) :
    Emits c nRREQId v o (.networkIn packet) (rebroadcastTwice c (v.accept c rreq) packet rreq)
  /-- `ForwardRREP`. -/
  | forwards (packet : Packet) (rrep : RREP) (nextHop : IPAddress)
      (hrrep : packet.payload = .rrep rrep) (hdest : rrep.destinationIPaddress ≠ c.ip)
      (horiginator : c.ip ≠ rrep.originatorIPaddress) :
    Emits c nRREQId v o (.networkIn packet) (forwardedRREP c packet rrep nextHop)
  /-- `TransmitHelloMessage`. -/
  | hello (time : Time) (p : Packet) (hrrep : p.payload = .rrep (helloRREP c v))
      (hdest : p.szDestIP = broadcastIP) :
    Emits c nRREQId v o (.fire ⟨time, .transmitHello⟩) p
  /-- `GenerateRERR`. -/
  | breaks (nextHop : IPAddress) (p : Packet) (hrerr : p.payload =
      .rerr (newRERR (v.routeTable.filter fun table => table.nextHop = nextHop))) :
    Emits c nRREQId v o (.dropNotification nextHop) p
  /-- `ProcessRERR`. -/
  | relaysError (packet : Packet) (rerr : RERR) (hrerr : packet.payload = .rerr rerr) :
    Emits c nRREQId v o (.networkIn packet) { packet with szSourceIP := c.ip }

section EmittedMessages

variable {c : Curr} {nRREQId : UInt32} {v : DeviceVar} {o : Outcome} {a : NodeAction} {p : Packet}

theorem isControl_of_rreq {rreq : RREQ} (h : p.payload = .rreq rreq) : p.isControl = true := by
  unfold Packet.isControl
  rw [h]

theorem isControl_of_rrep {rrep : RREP} (h : p.payload = .rrep rrep) : p.isControl = true := by
  unfold Packet.isControl
  rw [h]

/-- The reasons for which an event with outcome `o` puts out a packet `p` that carries `rreq`. -/
inductive EmitsRREQ (c : Curr) (nRREQId : UInt32) (v : DeviceVar) (o : Outcome) (p : Packet)
    (rreq : RREQ) : NodeAction → Prop
  | sends (time : Time) (packet : Packet) (hrreq : packet.payload = .rreq rreq)
      (htransmitter : p.nTransmitterId = c.ip) :
    EmitsRREQ c nRREQId v o p rreq (.fire ⟨time, .networkOut packet⟩)
  | originates (a : NodeAction) (dest : IPAddress)
      (hrreq : rreq = newRREQ c dest (.start nRREQId v)) (htransmitter : p.nTransmitterId = c.ip)
      (hcount : o.nRREQId = nRREQId + 1) : EmitsRREQ c nRREQId v o p rreq a
  | rebroadcasts (packet : Packet) (rreq₀ : RREQ) (hrreq : packet.payload = .rreq rreq₀)
      (hseen : checkRREQSeenTable v rreq₀ = false) (hdest : c.ip ≠ rreq₀.destinationIPAddress)
      (hcongested : devCounter v.ncounter ≤ 25)
      (hanswer : mayAnswer c rreq₀ (v.accept c rreq₀) = true)
      (hnext : findNextHop (v.accept c rreq₀) rreq₀.destinationIPAddress = some rreq₀.lastAddress)
      (hp : p = rebroadcastTwice c (v.accept c rreq₀) packet rreq₀) :
    EmitsRREQ c nRREQId v o p rreq (.networkIn packet)

/-- The reasons for which an event with outcome `o` puts out a packet `p` that carries `rrep`. -/
inductive EmitsRREP (c : Curr) (v : DeviceVar) (o : Outcome) (p : Packet) (rrep : RREP) :
    NodeAction → Prop
  | sends (time : Time) (packet : Packet) (hrrep : packet.payload = .rrep rrep)
      (hdest : p.szDestIP = packet.szDestIP) :
    EmitsRREP c v o p rrep (.fire ⟨time, .networkOut packet⟩)
  | destination (packet : Packet) (rreq : RREQ) (hrreq : packet.payload = .rreq rreq)
      (hdest : c.ip = rreq.destinationIPAddress)
      (hseq : o.devVar.nSequenceNumber = v.nSequenceNumber + 1)
      (hp : p = destinationReply c v rreq) : EmitsRREP c v o p rrep (.networkIn packet)
  | intermediate (packet : Packet) (rreq : RREQ) (table : RouteTable)
      (hrreq : packet.payload = .rreq rreq) (hseen : checkRREQSeenTable v rreq = false)
      (hdest : c.ip ≠ rreq.destinationIPAddress) (hcongested : devCounter v.ncounter ≤ 25)
      (hanswer : mayAnswer c rreq (v.accept c rreq) = true)
      (hfind : findRouteTable (v.accept c rreq).routeTable rreq.destinationIPAddress = some table)
      (hnext : table.nextHop ≠ rreq.lastAddress)
      (hp : p = intermediateReply c (v.accept c rreq) rreq table) :
    EmitsRREP c v o p rrep (.networkIn packet)
  | forwards (packet : Packet) (rrep₀ : RREP) (nextHop : IPAddress)
      (hrrep : packet.payload = .rrep rrep₀) (hp : p = forwardedRREP c packet rrep₀ nextHop) :
    EmitsRREP c v o p rrep (.networkIn packet)
  | hello (time : Time) (hrrep : rrep = helloRREP c v) (hdest : p.szDestIP = broadcastIP) :
    EmitsRREP c v o p rrep (.fire ⟨time, .transmitHello⟩)

theorem Emits.rreq {rreq : RREQ} (h : Emits c nRREQId v o a p) (hrreq : p.payload = .rreq rreq) :
    EmitsRREQ c nRREQId v o p rreq a := by
  cases h with
  | sends time packet _ hpayload _ htransmitter =>
    exact .sends time packet (hpayload ▸ hrreq) htransmitter
  | data _ _ hdata =>
    rw [isControl_of_rreq hrreq] at hdata
    cases hdata
  | originates _ dest _ hpayload htransmitter hcount =>
    rw [hrreq] at hpayload
    exact .originates a dest (Payload.rreq.inj hpayload) htransmitter hcount
  | destination => cases hrreq
  | intermediate => cases hrreq
  | rebroadcasts packet rreq0 hpayload hseen hdest hcongested hanswer hnext =>
    exact .rebroadcasts packet rreq0 hpayload hseen hdest hcongested hanswer hnext rfl
  | forwards => cases hrreq
  | hello _ _ hpayload =>
    rw [hrreq] at hpayload
    cases hpayload
  | breaks _ _ hpayload =>
    rw [hrreq] at hpayload
    cases hpayload
  | relaysError packet rerr hpayload =>
    cases hpayload.symm.trans hrreq

theorem Emits.rrep {rrep : RREP} (h : Emits c nRREQId v o a p) (hrrep : p.payload = .rrep rrep) :
    EmitsRREP c v o p rrep a := by
  cases h with
  | sends time packet _ hpayload _ _ hdest =>
    exact .sends time packet (hpayload ▸ hrrep) hdest
  | data _ _ hdata =>
    rw [isControl_of_rrep hrrep] at hdata
    cases hdata
  | originates _ _ _ hpayload =>
    rw [hrrep] at hpayload
    cases hpayload
  | destination packet rreq hpayload _ hdest hseq =>
    exact .destination packet rreq hpayload hdest hseq rfl
  | intermediate packet rreq table hpayload hseen hdest hcongested hanswer hfind hnext =>
    exact .intermediate packet rreq table hpayload hseen hdest hcongested hanswer hfind hnext rfl
  | rebroadcasts => cases hrrep
  | forwards packet rrep0 nextHop hpayload =>
    exact .forwards packet rrep0 nextHop hpayload rfl
  | hello time _ hpayload hdest =>
    rw [hrrep] at hpayload
    exact .hello time (Payload.rrep.inj hpayload) hdest
  | breaks _ _ hpayload =>
    rw [hrrep] at hpayload
    cases hpayload
  | relaysError packet rerr hpayload =>
    cases hpayload.symm.trans hrrep

end EmittedMessages

section HandleEmits

variable {c : Curr} {nRREQId : UInt32} {v : DeviceVar} {o : Outcome} {p : Packet}

variable {a : NodeAction}

theorem of_handle {P : Outcome → Prop} (h : handle c nRREQId v a = some o)
    (hP : ∃ o, handle c nRREQId v a = some o ∧ P o) : P o := by
  obtain ⟨o', ho', hP⟩ := hP
  rw [h] at ho'
  rw [Option.some.inj ho']
  exact hP

theorem emitted_afterIn (c : Curr) (s : Sim) : (s.afterIn c).emitted = (s.afterIn c).packets :=
  List.append_nil _

variable {packet : Packet}

theorem emits_rreq {rreq : RREQ} (hrreq : packet.payload = .rreq rreq)
    (h : handle c nRREQId v (.networkIn packet) = some o) (hp : p ∈ o.emitted) :
    Emits c nRREQId v o (.networkIn packet) p := by
  have hframe : o.emitted = o.packets := by
    obtain ⟨s', -, rfl⟩ := Option.map_eq_some_iff.1 h
    exact emitted_afterIn c s'
  rw [hframe] at hp
  cases hseen : checkRREQSeenTable v rreq with
  | true =>
    rw [handle_rreq_seen nRREQId hrreq hseen] at h
    rw [← Option.some.inj h] at hp
    cases hp
  | false =>
    by_cases hdest : c.ip = rreq.destinationIPAddress
    · obtain ⟨hpackets, hseq⟩ := of_handle h (handle_rreq_destination nRREQId hrreq hseen hdest)
      rw [hpackets, List.mem_singleton] at hp
      rw [hp]
      exact .destination packet rreq hrreq hseen hdest hseq
    by_cases hcongested : 25 < devCounter v.ncounter
    · rw [of_handle h (handle_rreq_congested nRREQId hrreq hseen hdest hcongested)] at hp
      cases hp
    have hcounter := le_of_not_gt hcongested
    cases hmay : mayAnswer c rreq (v.accept c rreq) with
    | false =>
      rw [of_handle h (handle_rreq_noRoute nRREQId hrreq hseen hdest hcounter hmay)] at hp
      cases hp
    | true =>
      obtain ⟨table, hfind⟩ := exists_of_mayAnswer hmay
      by_cases hnext : table.nextHop = rreq.lastAddress
      · have hnextHop : findNextHop (v.accept c rreq) rreq.destinationIPAddress =
            some rreq.lastAddress := by
          rw [findNextHop, hfind, Option.map_some, hnext]
        have hback := handle_rreq_back nRREQId hrreq hseen hdest hcounter hmay hnextHop
        split at hback
        · rw [h] at hback
          cases hback
        · rw [of_handle h hback] at hp
          rw [List.eq_of_mem_replicate hp]
          exact .rebroadcasts packet rreq hrreq hseen hdest hcounter hmay hnextHop
      · rw [of_handle h (handle_rreq_answers nRREQId hrreq hseen hdest hcounter hmay hfind hnext),
          List.mem_singleton] at hp
        rw [hp]
        exact .intermediate packet rreq table hrreq hseen hdest hcounter hmay hfind hnext

theorem networkOuts_acceptRREP {rrep : RREP} {s : Sim}
    (hp : p ∈ networkOuts (acceptRREP c rrep s).added) :
    p ∈ networkOuts s.added ∨ ∃ fifo ∈ s.devVar.fifo, p ∈ fifo.packetList := by
  have hfifo : (countCongestion rrep s).devVar.fifo = s.devVar.fifo := by
    unfold countCongestion
    split <;> rfl
  simp only [acceptRREP, applyOp_added, networkOuts_append, networkOuts_timers, List.append_nil,
    insertInPrecursorsList, modifyVar_added, transmitFIFOBuffer,
    (countCongestion_routeTable rrep s).2, List.mem_append] at hp
  rcases hp with hp | hp
  · exact Or.inl hp
  · obtain ⟨time, hmem⟩ := mem_networkOuts.1 hp
    obtain ⟨fifo, hfifoMem, packet, hpacket, heq⟩ := networkOut_of_mem_flush hmem
    simp only [EventDetails.mk.injEq, SubEvent.networkOut.injEq] at heq
    refine Or.inr ⟨fifo, ?_, heq.2 ▸ hpacket⟩
    rw [← hfifo]
    exact hfifoMem

theorem acceptRREP_packet (c : Curr) (rrep : RREP) (s : Sim) :
    (acceptRREP c rrep s).pPacket = s.pPacket ∧
      (acceptRREP c rrep s).packetEvents = s.packetEvents := by
  have hcount : (countCongestion rrep s).pPacket = s.pPacket ∧
      (countCongestion rrep s).packetEvents = s.packetEvents := by
    unfold countCongestion
    split <;> exact ⟨rfl, rfl⟩
  exact hcount

theorem emits_rrep {rrep : RREP} (hfifo : DataFIFO v) (hrrep : packet.payload = .rrep rrep)
    (hp : p ∈ ((processRREP c packet rrep (rreqStart nRREQId v packet)).afterIn c).emitted) :
    Emits c nRREQId v o (.networkIn packet) p := by
  rw [emitted_afterIn, packets_afterIn, processRREP_eq] at hp
  obtain ⟨hpacket, hevents⟩ := acceptRREP_packet c rrep (rreqStart nRREQId v packet)
  have hflush : p ∈ networkOuts (acceptRREP c rrep (rreqStart nRREQId v packet)).added →
      Emits c nRREQId v o (.networkIn packet) p := by
    intro hmem
    rcases networkOuts_acceptRREP hmem with h | ⟨fifo, hmem, hp⟩
    · cases h
    · exact .data _ p (hfifo fifo hmem p hp)
  split at hp
  · cases hp
  · next hdest =>
    split at hp
    · rw [Option.map_none, Option.getD_none, List.append_nil] at hp
      exact hflush hp
    · next horiginator =>
      unfold forwardRREP at hp
      split at hp
      · split at hp
        · simp only [addPacketEvent_added, addPacketEvent_pPacket, addPacketEvent_packetEvents,
            List.mem_append, Option.map_some, Option.getD_some, hevents] at hp
          rcases hp with hp | hp
          · exact hflush hp
          · next nextHop _ _ =>
            rw [List.eq_of_mem_replicate hp]
            exact .forwards packet rrep nextHop hrrep hdest horiginator
        · rw [Option.map_none, Option.getD_none, List.append_nil] at hp
          exact hflush hp
      · rw [Option.map_none, Option.getD_none, List.append_nil] at hp
        exact hflush hp

theorem emits_networkIn (hfifo : DataFIFO v)
    (h : handle c nRREQId v (.networkIn packet) = some o) (hp : p ∈ o.emitted) :
    Emits c nRREQId v o (.networkIn packet) p := by
  cases hpayload : packet.payload with
  | rreq rreq => exact emits_rreq hpayload h hp
  | rrep rrep =>
    simp only [handle, networkInEvent, hpayload, Option.map_some, Option.some.injEq] at h
    rw [← h] at hp
    exact emits_rrep hfifo hpayload hp
  | rerr rerr =>
    simp only [handle, networkInEvent, hpayload, Option.map_some, Option.some.injEq] at h
    rw [← h, emitted_afterIn, packets_afterIn] at hp
    unfold processRERR at hp
    simp only at hp
    split at hp
    · rcases List.mem_append.1 hp with hp | hp
      · cases hp
      · rw [List.eq_of_mem_replicate hp]
        exact .relaysError packet rerr hpayload
    · cases hp
  | data nPacketId =>
    simp only [handle, networkInEvent, hpayload, Option.map_some, Option.some.injEq] at h
    rw [← h, emitted_afterIn, packets_afterIn] at hp
    split at hp <;> cases hp

theorem transmitIfAlive_pPacket (c : Curr) (s : Sim) :
    (transmitIfAlive c s).pPacket = s.pPacket ∨ (transmitIfAlive c s).pPacket = none := by
  unfold transmitIfAlive
  split
  · split
    · split <;> exact Or.inl rfl
    · exact Or.inr rfl
  · exact Or.inl rfl

theorem transmitIfAlive_counters (c : Curr) (s : Sim) :
    (transmitIfAlive c s).nRREQId = s.nRREQId ∧
      (transmitIfAlive c s).devVar.nSequenceNumber = s.devVar.nSequenceNumber := by
  obtain ⟨hv, hid, -⟩ := transmitIfAlive_devVar c s
  exact ⟨hid, by rcases hv with h | h <;> rw [h]⟩

theorem mem_emitted_transmitIfAlive {s : Sim} (hadded : networkOuts s.added = [])
    (hp : p ∈ ((transmitIfAlive c s).afterOut c).emitted) :
    ∃ packet, s.pPacket = some packet ∧ p = passToLowerLayer c packet := by
  simp only [Outcome.emitted, Outcome.packets, Sim.afterOut, (transmitIfAlive_devVar c s).2.2,
    hadded, List.nil_append, Option.mem_toList] at hp
  obtain ⟨packet, hpacket, rfl⟩ := Option.map_eq_some_iff.1 hp
  rcases transmitIfAlive_pPacket c s with h | h
  · exact ⟨packet, h ▸ hpacket, rfl⟩
  · rw [h] at hpacket
    cases hpacket

theorem emits_notFound
    (ho : o = (transmitIfAlive c (generalPacketProcessing c packet (.start nRREQId v))).afterOut c)
    (hroute : checkRouteFound c packet.szDestIP v = false) (hp : p ∈ o.emitted) :
    Emits c nRREQId v o a p := by
  have hgeneral := generalPacketProcessing_notFound (.start nRREQId v) hroute
  cases hadd : addToFIFOBuffer packet c.dEventTime v.fifo with
  | mk fifo rreqSent =>
    simp only [Sim.start, hadd] at hgeneral
    cases rreqSent with
    | true =>
      rw [ho, Sim.start, hgeneral] at hp
      obtain ⟨q, hq, -⟩ := mem_emitted_transmitIfAlive (by rfl) hp
      cases hq
    | false =>
      simp only [Bool.false_eq_true, if_false] at hgeneral
      rw [Sim.start, hgeneral] at ho
      rw [ho] at hp
      obtain ⟨q, hq, rfl⟩ := mem_emitted_transmitIfAlive (by rfl) hp
      simp only [generateRREQ, Option.some.injEq] at hq
      have hcounters := transmitIfAlive_counters c
      refine .originates a packet.szDestIP _ ?_ rfl ?_ ?_
      · rw [← hq]
        rfl
      · rw [ho]
        exact (hcounters _).1
      · rw [ho]
        exact (hcounters _).2

theorem emits_networkOutEvent
    (ha : (∃ time, a = .fire ⟨time, .networkOut packet⟩) ∨ packet.isControl = false)
    (ho : o = (networkOutEvent c packet (.start nRREQId v)).afterOut c) (hp : p ∈ o.emitted) :
    Emits c nRREQId v o a p := by
  have hsends : ∀ {q : Packet}, q.payload = packet.payload → q.nTTL = packet.nTTL →
      q.szDestIP = packet.szDestIP → p = passToLowerLayer c q → Emits c nRREQId v o a p := by
    rintro q hpayload hTTL hdest rfl
    rcases ha with ⟨time, rfl⟩ | hdata
    · exact .sends time packet _ hpayload hTTL rfl hdest
    · refine .data a _ ?_
      unfold Packet.isControl at hdata ⊢
      rw [show (passToLowerLayer c q).payload = packet.payload from hpayload]
      exact hdata
  unfold networkOutEvent at ho
  split at ho
  · rw [ho] at hp
    simp only [Outcome.emitted, Outcome.packets, Sim.afterOut, Sim.start, networkOuts_nil,
      List.nil_append, Option.mem_toList] at hp
    obtain ⟨q, hq, heq⟩ := Option.map_eq_some_iff.1 hp
    split at hq
    · cases hq
    · rw [← Option.some.inj hq] at heq
      exact hsends rfl rfl rfl heq.symm
  split at ho
  · rw [ho] at hp
    obtain ⟨q, hq, heq⟩ := mem_emitted_transmitIfAlive (by rfl) hp
    simp only [Option.some.injEq] at hq
    exact hsends (by rw [← hq]) (by rw [← hq]) (by rw [← hq]) heq
  next hcontrol =>
  cases hroute : checkRouteFound c packet.szDestIP v with
  | true =>
    obtain ⟨table, hfind⟩ := exists_of_checkRouteFound hroute
    rw [ho, generalPacketProcessing_found hroute hfind] at hp
    obtain ⟨q, hq, rfl⟩ := mem_emitted_transmitIfAlive (by rfl) hp
    refine .data a _ ?_
    simp only [Option.some.injEq] at hq
    rw [← hq]
    simpa [Packet.isControl, passToLowerLayer] using hcontrol
  | false => exact emits_notFound ho hroute hp

theorem emits_retryRREQ {time : Time} {dest : IPAddress}
    (ho : o = (retryRREQ c dest (.start nRREQId v)).afterIn c) (hp : p ∈ o.emitted) :
    Emits c nRREQId v o (.fire ⟨time, .rreqTimeout dest⟩) p := by
  subst ho
  rw [emitted_afterIn, packets_afterIn] at hp
  unfold retryRREQ at hp ⊢
  split at hp
  · cases hp
  · split at hp
    · cases hp
    · split at hp
      · cases hp
      · next h1 h2 =>
        simp only [h1, h2, if_false]
        simp [interstInRREQSentTable, addTimeOut, countRREQ, insertInRREQSeenTable, Sim.start,
          EventDetails.packet?] at hp
        subst hp
        exact .originates _ dest _ rfl rfl rfl rfl

theorem emits_transmitHelloMessage {time : Time}
    (hp : p ∈ ((transmitHelloMessage c (.start nRREQId v)).afterIn c).emitted) :
    Emits c nRREQId v o (.fire ⟨time, .transmitHello⟩) p := by
  rw [emitted_afterIn, packets_afterIn] at hp
  unfold transmitHelloMessage at hp
  simp only at hp
  split at hp
  · cases hp
  · split at hp
    · cases hp
    · simp [Sim.start, EventDetails.packet?] at hp
      exact .hello time p (by rw [hp]; rfl) (by rw [hp]; rfl)

theorem emits_dropNotification {nextHop : IPAddress}
    (h : handle c nRREQId v (.dropNotification nextHop) = some o) (hp : p ∈ o.emitted) :
    Emits c nRREQId v o (.dropNotification nextHop) p := by
  obtain ⟨s', hs', rfl⟩ := Option.map_eq_some_iff.1 h
  rw [emitted_afterIn, packets_afterIn] at hp
  unfold packetDropNotification at hs'
  split at hs'
  · obtain ⟨s1, hs1, rfl⟩ := Option.map_eq_some_iff.1 hs'
    unfold generateRERR at hs1
    split at hs1
    · cases hs1
    · rw [← Option.some.inj hs1] at hp
      split at hp
      · cases hp
      · simp [Sim.start, EventDetails.packet?] at hp
        exact .breaks nextHop p (by rw [hp]; rfl)
  · rw [← Option.some.inj hs'] at hp
    cases hp

theorem handle_emits (hfifo : DataFIFO v)
    (hdata : ∀ packet, a = .dataOut packet → packet.isControl = false)
    (h : handle c nRREQId v a = some o) (hp : p ∈ o.emitted) : Emits c nRREQId v o a p := by
  cases a with
  | fire e =>
    obtain ⟨time, subEvent⟩ := e
    cases subEvent with
    | networkOut packet =>
      exact emits_networkOutEvent (Or.inl ⟨time, rfl⟩) (Option.some.inj h).symm hp
    | rreqTimeout dest => exact emits_retryRREQ (Option.some.inj h).symm hp
    | transmitHello =>
      rw [← Option.some.inj h] at hp
      exact emits_transmitHelloMessage hp
    | activeRouteTimeout dest =>
      rw [← Option.some.inj h, emitted_afterIn, packets_afterIn, activeRouteTimeout_eq] at hp
      simp only [modifyVar_added, modifyVar_pPacket, applyOp_added, applyOp_pPacket,
        networkOuts_append, networkOuts_timers] at hp
      cases hp
  | dataOut packet =>
    exact emits_networkOutEvent (Or.inr (hdata packet rfl)) (Option.some.inj h).symm hp
  | networkIn packet => exact emits_networkIn hfifo h hp
  | dropNotification nextHop => exact emits_dropNotification h hp

end HandleEmits

end NetSim.Aodv
