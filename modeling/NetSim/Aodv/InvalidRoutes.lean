import NetSim.Aodv.RreqDisposition
import NetSim.Aodv.Bookkeeping

/-!
# Routes that an error has invalidated

`GenerateRERR` and `ProcessRERR` mark an entry `InValid`, but `CheckRouteFound`, which all users of
a route go through, compares the lifetime only.
-/

namespace NetSim.Aodv

open NetSim.Lib

/-- The device variable with the routes that `ForwardRREP` finds after `ProcessRREP` has taken in
`rrep`. -/
def DeviceVar.withRREP (c : Curr) (rrep : RREP) (v : DeviceVar) : DeviceVar :=
  { v with
    routeTable := tableAfter c v.routeTable
      [forwardRoute c rrep, .extend rrep.lastAddress rrep.lifetime.toNat] }

/-! ## Uses of a route -/

/-- The event, with outcome `o`, uses the route that the entry `table` describes. -/
inductive Uses (c : Curr) (v : DeviceVar) (o : Outcome) (table : RouteTable) : NodeAction → Prop
  /-- `GeneralPacketProcessing` sends a data packet along the route. -/
  | sends (a : NodeAction) (packet frame : Packet) (ha : a.Routes packet)
      (hdata : packet.isControl = false) (hrouted : packet.szNextHopIp = none)
      (hframe : o.frame = some frame) (hpayload : frame.payload = packet.payload)
      (hfind : findRouteTable v.routeTable packet.szDestIP = some table) : Uses c v o table a
  /-- `TransmitFIFOBuffer` empties the list of packets that waited for the route. -/
  | flushes (packet : Packet) (rrep : RREP) (fifo : FIFO) (hrrep : packet.payload = .rrep rrep)
      (hfifo : fifo ∈ v.fifo) (hwaiting : fifo.packetList ≠ [])
      (hempty : ∀ fifo' ∈ o.devVar.fifo, fifo'.destination = fifo.destination →
        fifo'.packetList = [])
      (hfind : findRouteTable (v.withForwardRoute c rrep).routeTable fifo.destination =
        some table) :
    Uses c v o table (.networkIn packet)
  /-- `ProcessRREQ` answers for another device with the route. -/
  | answers (packet reply : Packet) (rreq : RREQ) (rrep : RREP)
      (hrreq : packet.payload = .rreq rreq) (hdest : c.ip ≠ rreq.destinationIPAddress)
      (hreply : reply ∈ o.packets) (hpayload : reply.payload = .rrep rrep)
      (hfind : findRouteTable (v.withReverseRoute c rreq).routeTable rreq.destinationIPAddress =
        some table) :
    Uses c v o table (.networkIn packet)
  /-- `ForwardRREP` sends an RREP along the route to its originator. -/
  | forwards (packet p : Packet) (rrep rrep' : RREP) (hrrep : packet.payload = .rrep rrep)
      (hp : p ∈ o.packets) (hpayload : p.payload = .rrep rrep')
      (hfind : findRouteTable (v.withRREP c rrep).routeTable rrep.originatorIPaddress =
        some table) :
    Uses c v o table (.networkIn packet)

/-- The entry that `GeneralPacketProcessing` looks up for a packet. -/
def consultedOut (v : DeviceVar) (packet : Packet) : List RouteTable :=
  if packet.isControl || packet.szNextHopIp.isSome then []
  else (findRouteTable v.routeTable packet.szDestIP).toList

/-- The entry that `ProcessRREQ` looks up, where it would answer with it. -/
def consultedRREQ (c : Curr) (v : DeviceVar) (rreq : RREQ) : List RouteTable :=
  if checkRREQSeenTable v rreq || decide (c.ip = rreq.destinationIPAddress) ||
      decide (25 < devCounter v.ncounter) || rreq.destinationOnly then []
  else
    (findRouteTable (v.withReverseRoute c rreq).routeTable rreq.destinationIPAddress).toList.filter
      fun table => table.nextHop ≠ rreq.lastAddress

/-- The entries that `ProcessRREP` looks up: for the packets that wait, and for the originator. -/
def consultedRREP (c : Curr) (v : DeviceVar) (packet : Packet) (rrep : RREP) : List RouteTable :=
  if rrep.destinationIPaddress = c.ip then []
  else
    ((v.fifo.filter fun fifo => fifo.packetList ≠ []).filterMap fun fifo =>
        findRouteTable (v.withForwardRoute c rrep).routeTable fifo.destination) ++
      if c.ip = rrep.originatorIPaddress ∨ isBroadcastPacket packet then []
      else (findRouteTable (v.withRREP c rrep).routeTable rrep.originatorIPaddress).toList

/-- The entries that an event looks up in order to use them. -/
def consulted (c : Curr) (v : DeviceVar) : NodeAction → List RouteTable
  | .fire ⟨_, .networkOut packet⟩ => consultedOut v packet
  | .fire ⟨_, .rreqTimeout _⟩ => []
  | .fire ⟨_, .transmitHello⟩ => []
  | .fire ⟨_, .activeRouteTimeout _⟩ => []
  | .dataOut packet => consultedOut v packet
  | .networkIn packet =>
    match packet.payload with
    | .rreq rreq => consultedRREQ c v rreq
    | .rrep rrep => consultedRREP c v packet rrep
    | _ => []
  | .dropNotification _ => []

section Uses

variable {c : Curr} {nRREQId : UInt32} {v : DeviceVar} {o : Outcome} {table : RouteTable}

theorem onePerDestination_withForwardRoute (hl : OnePerDestination v.routeTable) (rrep : RREP) :
    OnePerDestination (v.withForwardRoute c rrep).routeTable :=
  hl.table (forwardRoute c rrep)

theorem onePerDestination_withReverseRoute (hl : OnePerDestination v.routeTable) (rreq : RREQ) :
    OnePerDestination (v.withReverseRoute c rreq).routeTable :=
  hl.table (reverseRoute c rreq)

theorem onePerDestination_withRREP (hl : OnePerDestination v.routeTable) (rrep : RREP) :
    OnePerDestination (v.withRREP c rrep).routeTable :=
  onePerDestination_tableAfter hl _

theorem checkRouteFound_of_find {ip : IPAddress} {w : DeviceVar}
    (hl : OnePerDestination w.routeTable) (hfind : findRouteTable w.routeTable ip = some table) :
    checkRouteFound c ip w = true ↔ c.dEventTime < table.lifetime := by
  rw [checkRouteFound_eq hl, hfind]
  exact decide_eq_true_iff

/-! ### Data packets -/

variable {packet : Packet}

theorem frame_notFound {frame : Packet}
    (ho : o = (transmitIfAlive c (generalPacketProcessing c packet (.start nRREQId v))).afterOut c)
    (hroute : checkRouteFound c packet.szDestIP v = false) (hframe : o.frame = some frame) :
    ∃ rreq, frame.payload = .rreq rreq := by
  have hgeneral := generalPacketProcessing_notFound (.start nRREQId v) hroute
  have hrest : ∀ {s : Sim}, o = (transmitIfAlive c s).afterOut c →
      ∃ p, s.pPacket = some p ∧ frame = passToLowerLayer c p := by
    rintro s rfl
    obtain ⟨p, hp, rfl⟩ := Option.map_eq_some_iff.1 hframe
    rcases transmitIfAlive_pPacket c s with h | h
    · exact ⟨p, h ▸ hp, rfl⟩
    · rw [h] at hp
      cases hp
  cases hadd : addToFIFOBuffer packet c.dEventTime v.fifo with
  | mk fifo rreqSent =>
    simp only [Sim.start, hadd] at hgeneral
    rw [Sim.start, hgeneral] at ho
    obtain ⟨p, hp, rfl⟩ := hrest ho
    cases rreqSent with
    | true => cases hp
    | false =>
      simp only [Bool.false_eq_true, if_false, generateRREQ, Option.some.injEq] at hp
      rw [← hp]
      exact ⟨_, rfl⟩

variable {a : NodeAction}

theorem handle_routes (ha : a.Routes packet) :
    handle c nRREQId v a = some ((networkOutEvent c packet (.start nRREQId v)).afterOut c) := by
  rcases ha with ⟨time, rfl⟩ | rfl <;> rfl

theorem consulted_routes (ha : a.Routes packet) : consulted c v a = consultedOut v packet := by
  rcases ha with ⟨time, rfl⟩ | rfl <;> rfl

theorem mem_consultedOut :
    table ∈ consultedOut v packet ↔ packet.isControl = false ∧ packet.szNextHopIp = none ∧
      findRouteTable v.routeTable packet.szDestIP = some table := by
  unfold consultedOut
  cases packet.isControl <;> cases packet.szNextHopIp <;> simp

theorem frame_iff (hl : OnePerDestination v.routeTable)
    (ha : a.Routes packet) (h : handle c nRREQId v a = some o)
    (hdata : packet.isControl = false) (hrouted : packet.szNextHopIp = none)
    (hfind : findRouteTable v.routeTable packet.szDestIP = some table) :
    (∃ frame, o.frame = some frame ∧ frame.payload = packet.payload) ↔
      c.dEventTime < table.lifetime := by
  rw [handle_routes ha, Option.some.injEq] at h
  unfold networkOutEvent at h
  simp only [hrouted, hdata, Option.isSome_none, Bool.false_eq_true, if_false] at h
  rw [← checkRouteFound_of_find hl hfind]
  constructor
  · rintro ⟨frame, hframe, hpayload⟩
    by_contra hroute
    obtain ⟨rreq, hrreq⟩ := frame_notFound h.symm (Bool.eq_false_iff.2 hroute) hframe
    rw [isControl_of_rreq (hpayload.symm.trans hrreq)] at hdata
    cases hdata
  · intro hroute
    rw [generalPacketProcessing_found hroute hfind] at h
    rw [← h]
    exact ⟨_, rfl, rfl⟩

theorem flushed_iff {fifo : FIFO} {w : DeviceVar} (hfifo : fifo ∈ w.fifo)
    (hwaiting : fifo.packetList ≠ []) :
    (∀ fifo' ∈ w.flushed c, fifo'.destination = fifo.destination → fifo'.packetList = []) ↔
      checkRouteFound c fifo.destination w = true := by
  constructor
  · intro hempty
    by_contra hroute
    refine hwaiting (hempty fifo (List.mem_map.2 ⟨fifo, hfifo, ?_⟩) rfl)
    rw [if_neg hroute]
  · intro hroute fifo' hfifo' hdest
    obtain ⟨g, -, rfl⟩ := List.mem_map.1 hfifo'
    by_cases hg : checkRouteFound c g.destination w = true
    · rw [if_pos hg]
    · rw [if_neg hg] at hdest
      rw [hdest] at hg
      exact absurd hroute hg

variable {rrep : RREP}

theorem handle_rrep_fifo (hrrep : packet.payload = .rrep rrep)
    (h : handle c nRREQId v (.networkIn packet) = some o) :
    o.devVar.fifo =
      if rrep.destinationIPaddress = c.ip then v.fifo else (v.withForwardRoute c rrep).flushed c := by
  simp only [handle, networkInEvent, hrrep, Option.map_some, Option.some.injEq] at h
  rw [processRREP_eq] at h
  rw [← h]
  split
  · rfl
  · split
    · exact congrArg Book.fifo (acceptRREP_book c rrep (rreqStart nRREQId v packet)).1
    · rw [show ∀ s : Sim, (s.afterIn c).devVar = s.devVar from fun _ => rfl,
        (forwardRREP_devVar c packet rrep _).1]
      exact congrArg Book.fifo (acceptRREP_book c rrep (rreqStart nRREQId v packet)).1

/-! ### RREPs on their way -/

theorem accept_routeTable_rrep (c : Curr) (rrep : RREP) (s : Sim) :
    (acceptRREP c rrep s).devVar.routeTable = (s.devVar.withRREP c rrep).routeTable := by
  obtain ⟨htable, -⟩ := acceptRREP_routeEffect c rrep s
  exact htable

theorem packets_forwardRREP (c : Curr) (packet : Packet) (rrep : RREP) (s : Sim)
    (hevents : s.packetEvents = 0) :
    ((forwardRREP c packet rrep s).afterIn c).packets = networkOuts s.added ++
      match findRouteTable s.devVar.routeTable rrep.originatorIPaddress with
      | some table =>
        if checkRouteFound c rrep.originatorIPaddress s.devVar && !isBroadcastPacket packet then
          [forwardedRREP c packet rrep table.nextHop]
        else []
      | none => [] := by
  rw [packets_afterIn, (forwardRREP_devVar c packet rrep s).2.2]
  unfold forwardRREP findNextHop
  cases findRouteTable s.devVar.routeTable rrep.originatorIPaddress with
  | none => rfl
  | some table =>
    simp only [Option.map_some]
    split
    · simp only [addPacketEvent_pPacket, addPacketEvent_packetEvents, hevents]
      rfl
    · rfl

def forwardsRREP (c : Curr) (v : DeviceVar) (packet : Packet) (rrep : RREP) : Bool :=
  decide (rrep.destinationIPaddress ≠ c.ip) && decide (c.ip ≠ rrep.originatorIPaddress) &&
    !isBroadcastPacket packet && checkRouteFound c rrep.originatorIPaddress (v.withRREP c rrep)

theorem forwardsRREP_iff (hdata : DataFIFO v)
    (hrrep : packet.payload = .rrep rrep) (h : handle c nRREQId v (.networkIn packet) = some o) :
    (∃ p rrep', p ∈ o.packets ∧ p.payload = .rrep rrep') ↔
      forwardsRREP c v packet rrep = true := by
  simp only [handle, networkInEvent, hrrep, Option.map_some, Option.some.injEq] at h
  change ((processRREP c packet rrep (rreqStart nRREQId v packet)).afterIn c) = o at h
  rw [processRREP_eq] at h
  have hflush : ∀ p ∈ networkOuts (acceptRREP c rrep (rreqStart nRREQId v packet)).added,
      ∀ rrep', p.payload ≠ .rrep rrep' := by
    intro p hp rrep' hpayload
    rcases networkOuts_acceptRREP hp with hp | ⟨fifo, hfifo, hp⟩
    · cases hp
    · have hcontrol := hdata fifo hfifo p hp
      rw [isControl_of_rrep hpayload] at hcontrol
      cases hcontrol
  unfold forwardsRREP
  split at h
  · next hdest =>
    refine iff_of_false ?_ (by simp [hdest])
    rintro ⟨p, rrep', hp, -⟩
    rw [← h, packets_afterIn] at hp
    cases hp
  next hdest =>
  split at h
  · next horiginator =>
    refine iff_of_false ?_ (by simp [horiginator])
    rintro ⟨p, rrep', hp, hpayload⟩
    rw [← h, packets_afterIn, Option.map_none, Option.getD_none, List.append_nil] at hp
    exact hflush p hp rrep' hpayload
  next horiginator =>
  have hcheck : checkRouteFound c rrep.originatorIPaddress
      (acceptRREP c rrep (rreqStart nRREQId v packet)).devVar =
      checkRouteFound c rrep.originatorIPaddress (v.withRREP c rrep) := by
    unfold checkRouteFound
    rw [accept_routeTable_rrep]
    rfl
  have hpackets := packets_forwardRREP c packet rrep
    (acceptRREP c rrep (rreqStart nRREQId v packet)) (acceptRREP_packet c rrep _).2
  rw [h, accept_routeTable_rrep, show (rreqStart nRREQId v packet).devVar = v from rfl, hcheck]
    at hpackets
  rw [hpackets, decide_eq_true hdest, decide_eq_true horiginator, Bool.true_and, Bool.true_and]
  constructor
  · rintro ⟨p, rrep', hp, hpayload⟩
    rcases List.mem_append.1 hp with hp | hp
    · exact absurd hpayload (hflush p hp rrep')
    · split at hp
      · split at hp
        · next hsend => rw [Bool.and_comm]; exact hsend
        · cases hp
      · cases hp
  · intro hsend
    rw [Bool.and_comm] at hsend
    obtain ⟨table, hfind⟩ := exists_of_checkRouteFound (Bool.and_eq_true_iff.1 hsend).1
    rw [hfind]
    refine ⟨forwardedRREP c packet rrep table.nextHop, _, List.mem_append_right _ ?_, rfl⟩
    simp only [hsend, if_true]
    exact List.mem_singleton_self _

theorem forwardsRREP_of_find (hl : OnePerDestination v.routeTable)
    (hfind : findRouteTable (v.withRREP c rrep).routeTable rrep.originatorIPaddress = some table) :
    forwardsRREP c v packet rrep = true ↔
      rrep.destinationIPaddress ≠ c.ip ∧
        ¬ (c.ip = rrep.originatorIPaddress ∨ isBroadcastPacket packet = true) ∧
        c.dEventTime < table.lifetime := by
  rw [← checkRouteFound_of_find (c := c) (onePerDestination_withRREP hl rrep) hfind]
  unfold forwardsRREP
  simp only [Bool.and_eq_true, decide_eq_true_eq, Bool.not_eq_true', not_or, Bool.not_eq_true,
    and_assoc]

/-! ### Answers -/

theorem answers_iff {rreq : RREQ} (hl : OnePerDestination v.routeTable)
    (hfifo : DataFIFO v) (hrreq : packet.payload = .rreq rreq)
    (hdest : c.ip ≠ rreq.destinationIPAddress) (h : handle c nRREQId v (.networkIn packet) = some o)
    (hfind : findRouteTable (v.withReverseRoute c rreq).routeTable rreq.destinationIPAddress =
      some table) :
    (∃ reply rrep, reply ∈ o.packets ∧ reply.payload = .rrep rrep) ↔
      table ∈ consultedRREQ c v rreq ∧ c.dEventTime < table.lifetime := by
  have hroute := checkRouteFound_of_find (c := c) (onePerDestination_withReverseRoute hl rreq) hfind
  have hmem : table ∈ consultedRREQ c v rreq ↔ checkRREQSeenTable v rreq = false ∧
      devCounter v.ncounter ≤ 25 ∧ rreq.destinationOnly = false ∧
      table.nextHop ≠ rreq.lastAddress := by
    unfold consultedRREQ
    rw [hfind]
    by_cases hcongested : 25 < devCounter v.ncounter
    · simp [hcongested]
    · cases checkRREQSeenTable v rreq <;> cases rreq.destinationOnly <;>
        simp [hdest, le_of_not_gt hcongested, hcongested]
  have hmay : mayAnswer c rreq (v.withReverseRoute c rreq) = true ↔
      c.dEventTime < table.lifetime ∧ rreq.destinationOnly = false := by
    unfold mayAnswer
    rw [Bool.and_eq_true_iff, hroute, Bool.not_eq_true']
  rw [hmem]
  constructor
  · rintro ⟨reply, rrep, hreply, hpayload⟩
    have hemits := handle_emits hfifo (fun _ heq => by cases heq) h (List.mem_append_left _ hreply)
    cases hemits.rrep hpayload with
    | destination _ rreq' hrreq' hdest' =>
      cases hrreq.symm.trans hrreq'
      exact absurd hdest' hdest
    | intermediate _ rreq' table' hrreq' hseen' _ hcongested' hanswer' hfind' hnext' =>
      cases hrreq.symm.trans hrreq'
      rw [mayAnswer_accept] at hanswer'
      obtain ⟨hlt, hflag⟩ := hmay.1 hanswer'
      rw [accept_routeTable] at hfind'
      cases hfind.symm.trans hfind'
      exact ⟨⟨hseen', hcongested', hflag, hnext'⟩, hlt⟩
    | forwards _ rrep' nextHop hrrep' => cases hrreq.symm.trans hrrep'
  · rintro ⟨⟨hseen, hcongested, hflag, hnext⟩, hlt⟩
    have hanswer : mayAnswer c rreq (v.accept c rreq) = true :=
      mayAnswer_accept.trans (hmay.2 ⟨hlt, hflag⟩)
    have hfind' : findRouteTable (v.accept c rreq).routeTable rreq.destinationIPAddress =
        some table := by
      rw [accept_routeTable]
      exact hfind
    obtain ⟨o', ho', hpackets⟩ :=
      handle_rreq_answers nRREQId hrreq hseen hdest hcongested hanswer hfind' hnext
    rw [h] at ho'
    cases ho'
    exact ⟨_, _, hpackets ▸ List.mem_singleton_self _, rfl⟩

theorem mem_consultedRREP :
    table ∈ consultedRREP c v packet rrep ↔ rrep.destinationIPaddress ≠ c.ip ∧
      ((∃ fifo ∈ v.fifo, fifo.packetList ≠ [] ∧
          findRouteTable (v.withForwardRoute c rrep).routeTable fifo.destination = some table) ∨
        ¬ (c.ip = rrep.originatorIPaddress ∨ isBroadcastPacket packet = true) ∧
          findRouteTable (v.withRREP c rrep).routeTable rrep.originatorIPaddress = some table) := by
  unfold consultedRREP
  by_cases hdest : rrep.destinationIPaddress = c.ip
  · simp [hdest]
  rw [if_neg hdest, List.mem_append, List.mem_filterMap]
  refine Iff.trans (or_congr ?_ ?_) (and_iff_right hdest).symm
  · simp [and_assoc]
  · split
    · next hnot => exact iff_of_false List.not_mem_nil fun hc => hc.1 hnot
    · next hnot => rw [Option.mem_toList, and_iff_right hnot]

section

variable (hl : OnePerDestination v.routeTable)

include hl

theorem flushes_iff {fifo : FIFO} (hrrep : packet.payload = .rrep rrep)
    (hdest : rrep.destinationIPaddress ≠ c.ip)
    (h : handle c nRREQId v (.networkIn packet) = some o) (hfifo : fifo ∈ v.fifo)
    (hwaiting : fifo.packetList ≠ [])
    (hfind : findRouteTable (v.withForwardRoute c rrep).routeTable fifo.destination =
      some table) :
    (∀ fifo' ∈ o.devVar.fifo, fifo'.destination = fifo.destination → fifo'.packetList = []) ↔
      c.dEventTime < table.lifetime := by
  rw [handle_rrep_fifo hrrep h, if_neg hdest,
    flushed_iff (w := v.withForwardRoute c rrep) hfifo hwaiting,
    checkRouteFound_of_find (onePerDestination_withForwardRoute hl rrep) hfind]

theorem consulted_of_uses
    (hfifo : DataFIFO v) (h : handle c nRREQId v a = some o) (huses : Uses c v o table a) :
    table ∈ consulted c v a ∧ c.dEventTime < table.lifetime := by
  cases huses with
  | sends _ packet frame ha hdata hrouted hframe hpayload hfind =>
    rw [consulted_routes ha, mem_consultedOut]
    exact ⟨⟨hdata, hrouted, hfind⟩,
      (frame_iff hl ha h hdata hrouted hfind).1 ⟨frame, hframe, hpayload⟩⟩
  | flushes packet rrep fifo hrrep hmem hwaiting hempty hfind =>
    simp only [consulted, hrrep]
    have hdest : rrep.destinationIPaddress ≠ c.ip := by
      intro hdest
      rw [handle_rrep_fifo hrrep h, if_pos hdest] at hempty
      exact hwaiting (hempty fifo hmem rfl)
    exact ⟨mem_consultedRREP.2 ⟨hdest, Or.inl ⟨fifo, hmem, hwaiting, hfind⟩⟩,
      (flushes_iff hl hrrep hdest h hmem hwaiting hfind).1 hempty⟩
  | answers packet reply rreq rrep hrreq hdest hreply hpayload hfind =>
    simp only [consulted, hrreq]
    exact (answers_iff hl hfifo hrreq hdest h hfind).1 ⟨reply, rrep, hreply, hpayload⟩
  | forwards packet p rrep rrep' hrrep hp hpayload hfind =>
    simp only [consulted, hrrep]
    obtain ⟨hdest, hnot, hlt⟩ := (forwardsRREP_of_find hl hfind).1
      ((forwardsRREP_iff hfifo hrrep h).1 ⟨p, rrep', hp, hpayload⟩)
    exact ⟨mem_consultedRREP.2 ⟨hdest, Or.inr ⟨hnot, hfind⟩⟩, hlt⟩

theorem uses_of_consultedOut (ha : a.Routes packet)
    (h : handle c nRREQId v a = some o) (hmem : table ∈ consultedOut v packet)
    (hlt : c.dEventTime < table.lifetime) : Uses c v o table a := by
  obtain ⟨hdata, hrouted, hfind⟩ := mem_consultedOut.1 hmem
  obtain ⟨frame, hframe, hpayload⟩ := (frame_iff hl ha h hdata hrouted hfind).2 hlt
  exact .sends a packet frame ha hdata hrouted hframe hpayload hfind

theorem uses_of_consultedRREQ {rreq : RREQ}
    (hfifo : DataFIFO v) (hrreq : packet.payload = .rreq rreq)
    (h : handle c nRREQId v (.networkIn packet) = some o) (hmem : table ∈ consultedRREQ c v rreq)
    (hlt : c.dEventTime < table.lifetime) : Uses c v o table (.networkIn packet) := by
  have hentry := hmem
  unfold consultedRREQ at hentry
  split at hentry
  · cases hentry
  · next hnot =>
    have hfind := Option.mem_toList.1 (List.mem_filter.1 hentry).1
    have hdest : c.ip ≠ rreq.destinationIPAddress := by
      intro heq
      simp [heq] at hnot
    obtain ⟨reply, rrep, hreply, hrrep⟩ := (answers_iff hl hfifo hrreq hdest h hfind).2 ⟨hmem, hlt⟩
    exact .answers packet reply rreq rrep hrreq hdest hreply hrrep hfind

theorem uses_of_consultedRREP (hfifo : DataFIFO v) (hrrep : packet.payload = .rrep rrep)
    (h : handle c nRREQId v (.networkIn packet) = some o)
    (hmem : table ∈ consultedRREP c v packet rrep) (hlt : c.dEventTime < table.lifetime) :
    Uses c v o table (.networkIn packet) := by
  obtain ⟨hdest, ⟨fifo, hmem, hwaiting, hfind⟩ | ⟨hnot, hfind⟩⟩ := mem_consultedRREP.1 hmem
  · exact .flushes packet rrep fifo hrrep hmem hwaiting
      ((flushes_iff hl hrrep hdest h hmem hwaiting hfind).2 hlt) hfind
  · obtain ⟨p, rrep', hp, hrrep'⟩ := (forwardsRREP_iff hfifo hrrep h).2
      ((forwardsRREP_of_find hl hfind).2 ⟨hdest, hnot, hlt⟩)
    exact .forwards packet p rrep rrep' hrrep hp hrrep' hfind

theorem uses_iff (hfifo : DataFIFO v) (h : handle c nRREQId v a = some o) :
    Uses c v o table a ↔ table ∈ consulted c v a ∧ c.dEventTime < table.lifetime := by
  refine ⟨consulted_of_uses hl hfifo h, ?_⟩
  rintro ⟨hmem, hlt⟩
  cases a with
  | fire e =>
    obtain ⟨time, subEvent⟩ := e
    cases subEvent with
    | networkOut packet => exact uses_of_consultedOut hl (Or.inl ⟨time, rfl⟩) h hmem hlt
    | rreqTimeout dest => cases hmem
    | transmitHello => cases hmem
    | activeRouteTimeout dest => cases hmem
  | dataOut packet => exact uses_of_consultedOut hl (Or.inr rfl) h hmem hlt
  | dropNotification nextHop => cases hmem
  | networkIn packet =>
    cases hpayload : packet.payload with
    | rreq rreq =>
      simp only [consulted, hpayload] at hmem
      exact uses_of_consultedRREQ hl hfifo hpayload h hmem hlt
    | rrep rrep =>
      simp only [consulted, hpayload] at hmem
      exact uses_of_consultedRREP hl hfifo hpayload h hmem hlt
    | rerr rerr => simp [consulted, hpayload] at hmem
    | data nPacketId => simp [consulted, hpayload] at hmem

end

end Uses

/-! ## Marks -/

/-- Whether the entry for `dest` is marked after an operation. -/
def RouteOp.mark (dest : IPAddress) (e : Option RouteTable) (m : Bool) : RouteOp → Bool
  | insert ip seqNumber hopCount _ _ =>
    if dest = ip ∧ e.all (fun table => table.accepts seqNumber hopCount) = true then false else m
  | extend _ _ => m
  | invalidate broken => m || e.any broken
  | expire _ => m

/-- Whether the entry for `dest` is marked after some operations. -/
def markAfter (c : Curr) (dest : IPAddress) : Option RouteTable → Bool → List RouteOp → Bool
  | _, m, [] => m
  | e, m, op :: ops => markAfter c dest (op.entry c dest e) (op.mark dest e m) ops

/-- Whether a run has marked the entry for `dest` since it was last inserted. -/
def marked (ip dest : IPAddress) : List (NodeState × NodeStepLabel) → Bool
  | [] => false
  | (_, .tick _ _) :: tr => marked ip dest tr
  | (s, .act a) :: tr =>
    markAfter ⟨ip, s.now⟩ dest (findRouteTable s.device.var.routeTable dest) (marked ip dest tr)
      (routeOps ⟨ip, s.now⟩ s.device.var a)

def MarkMatches (e : Option RouteTable) (m : Bool) : Prop :=
  ∀ table, e = some table → (table.routingFlags = .inValid ↔ m = true)

section Marks

variable {c : Curr} {dest : IPAddress} {e : Option RouteTable} {m : Bool}

theorem MarkMatches.entry (h : MarkMatches e m) (op : RouteOp) :
    MarkMatches (op.entry c dest e) (op.mark dest e m) := by
  intro table' htable'
  cases op with
  | insert ip seqNumber hopCount nextHop lifeTime =>
    simp only [RouteOp.entry] at htable'
    simp only [RouteOp.mark]
    by_cases hdest : dest = ip
    · rw [if_pos hdest] at htable'
      cases e with
      | none =>
        rw [← Option.some.inj htable', if_pos ⟨hdest, rfl⟩]
        exact iff_of_false RoutingFlag.noConfusion Bool.false_ne_true
      | some table =>
        rw [← Option.some.inj htable', Option.all_some]
        by_cases haccepts : table.accepts seqNumber hopCount = true
        · rw [if_pos haccepts, if_pos ⟨hdest, haccepts⟩]
          exact iff_of_false RoutingFlag.noConfusion Bool.false_ne_true
        · rw [if_neg haccepts, if_neg fun hc => haccepts hc.2]
          exact h table rfl
    · rw [if_neg hdest] at htable'
      rw [if_neg fun hc => hdest hc.1]
      exact h table' htable'
  | extend ip lifetime =>
    obtain ⟨table, rfl, rfl⟩ := Option.map_eq_some_iff.1 htable'
    have hflags : (if table.nextHop = ip ∨ table.destinationIPAddress = ip then
        { table with lifetime := maxTime table.lifetime lifetime } else table).routingFlags =
        table.routingFlags := by
      split <;> rfl
    rw [hflags]
    exact h table rfl
  | invalidate broken =>
    obtain ⟨table, rfl, rfl⟩ := Option.map_eq_some_iff.1 htable'
    simp only [RouteOp.mark, Option.any_some]
    cases hbroken : broken table with
    | true => exact iff_of_true rfl (Bool.or_true m)
    | false =>
      rw [if_neg Bool.false_ne_true, Bool.or_false]
      exact h table rfl
  | expire d =>
    simp only [RouteOp.entry] at htable'
    split at htable'
    · exact h table' (Option.filter_eq_some_iff.1 htable').1
    · exact h table' htable'

theorem MarkMatches.after (h : MarkMatches e m) (ops : List RouteOp) :
    MarkMatches (entryAfter c dest e ops) (markAfter c dest e m ops) := by
  induction ops generalizing e m with
  | nil => exact h
  | cons op ops ih => exact ih (h.entry op)

end Marks

variable {ip : IPAddress} {tr : List (NodeState × NodeStepLabel)}

theorem markMatches_of_run {s : NodeState} (run : NodeRun ip tr s) (dest : IPAddress) :
    MarkMatches (findRouteTable s.device.var.routeTable dest) (marked ip dest tr) := by
  induction run with
  | nil => exact fun _ h => nomatch h
  | snoc run hstep ih =>
    rcases NodeState.step_cases hstep with
      ⟨time, nRREQId, rfl, -, -, rfl⟩ | ⟨act, o, rfl, -, ho, rfl⟩
    · exact ih
    · have hentry := handle_entry ho (onePerDestination_of_nodeRun run) dest
      change MarkMatches (findRouteTable o.devVar.routeTable dest) _
      rw [hentry]
      exact ih.after _

theorem handled_of_mem {s s1 : NodeState}
    {a : NodeAction} (run : NodeRun ip tr s) (hmem : (s1, .act a) ∈ tr) :
    ∃ pre o, NodeRun ip pre s1 ∧
      handle ⟨ip, s1.now⟩ s1.nRREQId s1.device.var a = some o := by
  obtain ⟨pre, post, s', -, hpre, hstep⟩ := run.prefix_of_mem hmem
  rcases NodeState.step_cases hstep with ⟨time, nRREQId, heq, -⟩ | ⟨act, o, heq, -, ho, -⟩
  · cases heq
  · cases heq
    exact ⟨pre, o, hpre, ho⟩

/-- An entry is invalid from its route error to the next insertion, and no event has used an invalid
one. -/
structure InvalidUnused (ip : IPAddress) (tr : List (NodeState × NodeStepLabel)) (s : NodeState) :
    Prop where
  marks : ∀ dest table, findRouteTable s.device.var.routeTable dest = some table →
    (table.routingFlags = .inValid ↔ marked ip dest tr = true)
  unused : ∀ s₁ a o, (s₁, .act a) ∈ tr →
    handle ⟨ip, s₁.now⟩ s₁.nRREQId s₁.device.var a = some o →
    ∀ table, Uses ⟨ip, s₁.now⟩ s₁.device.var o table a → table.routingFlags ≠ .inValid

/-- A run has used no invalid entry exactly when every invalid entry that an event looked up had
expired. -/
theorem invalidUnused_iff {ip : IPAddress} {tr : List (NodeState × NodeStepLabel)} {s : NodeState}
    (run : NodeRun ip tr s) :
    InvalidUnused ip tr s ↔ ∀ s₁ a, (s₁, .act a) ∈ tr →
      ∀ table ∈ consulted ⟨ip, s₁.now⟩ s₁.device.var a,
        table.routingFlags = .inValid → table.lifetime ≤ s₁.now := by
  constructor
  · intro h s₁ a hmem table htable hflag
    obtain ⟨pre, o, hpre, ho⟩ := handled_of_mem run hmem
    by_contra hlt
    have huses := (uses_iff (onePerDestination_of_nodeRun hpre) (dataFIFO_of_nodeRun hpre) ho).2
      ⟨htable, lt_of_not_ge hlt⟩
    exact h.unused s₁ a o hmem ho table huses hflag
  · intro h
    refine ⟨fun dest => markMatches_of_run run dest, ?_⟩
    intro s₁ a o hmem ho table huses hflag
    obtain ⟨pre, -, hpre, -⟩ := handled_of_mem run hmem
    obtain ⟨htable, hlt⟩ :=
      (uses_iff (onePerDestination_of_nodeRun hpre) (dataFIFO_of_nodeRun hpre) ho).1 huses
    exact not_le_of_gt hlt (h s₁ a hmem table htable hflag)

open NodeStrategy

def brokenRoute : List NodeStrategy :=
  [receive ⟨2, 1, 2, some 1, none, 35, .rrep ⟨1, 2, 1, 1, 0, 2, false⟩⟩,
    receive ⟨2, broadcastIP, 2, none, none, 34, .rerr ⟨1, [2], [1]⟩⟩, due]

def untilDeleted : List NodeStrategy :=
  ((List.range 14).flatMap fun k =>
    [wait ((k + 1) * 1000), due, due] ++ if k = 2 then [due] else []) ++ [wait 15000]

/-- The invalid entries that an event of the run has looked up, with those that had not expired. -/
def invalidConsulted (ip : IPAddress) (tr : List (NodeState × NodeStepLabel)) :
    List (NodeState × RouteTable) :=
  tr.flatMap fun x =>
    match x.2 with
    | .tick _ _ => []
    | .act a => ((consulted ⟨ip, x.1.now⟩ x.1.device.var a).filter
        fun table => table.routingFlags = .inValid).map fun table => (x.1, table)

theorem mem_invalidConsulted {s1 : NodeState} {table : RouteTable} :
    (s1, table) ∈ invalidConsulted ip tr ↔ ∃ a, (s1, .act a) ∈ tr ∧
      table ∈ consulted ⟨ip, s1.now⟩ s1.device.var a ∧ table.routingFlags = .inValid := by
  unfold invalidConsulted
  rw [List.mem_flatMap]
  constructor
  · rintro ⟨⟨s2, label⟩, hmem, hx⟩
    cases label with
    | tick time nRREQId => cases hx
    | act a =>
      simp only [List.mem_map, List.mem_filter, decide_eq_true_eq, Prod.mk.injEq] at hx
      obtain ⟨table', ⟨htable, hflag⟩, rfl, rfl⟩ := hx
      exact ⟨a, hmem, htable, hflag⟩
  · rintro ⟨a, hmem, htable, hflag⟩
    refine ⟨(s1, .act a), hmem, ?_⟩
    simp only [List.mem_map, List.mem_filter, decide_eq_true_eq, Prod.mk.injEq]
    exact ⟨table, ⟨htable, hflag⟩, trivial, rfl⟩

def expiredConsulted (r : List (NodeState × NodeStepLabel) × NodeState) : Bool :=
  !(invalidConsulted 1 r.1).isEmpty &&
    (invalidConsulted 1 r.1).all fun x => decide (x.2.lifetime ≤ x.1.now)

theorem brokenRoute_expires : ((exec (NodeState.step 1) NodeState.init
    (brokenRoute ++ untilDeleted ++ [data 1 2 7])).any expiredConsulted) = true := by
  decide +kernel

theorem invalidUnused_of_brokenRoute : ∃ tr s, NodeRun 1 tr s ∧
    invalidConsulted 1 tr ≠ [] ∧ InvalidUnused 1 tr s := by
  obtain ⟨tr, s, run, htest⟩ := NodeRun.of_exec 1 (brokenRoute ++ untilDeleted ++ [data 1 2 7])
    expiredConsulted brokenRoute_expires
  simp only [expiredConsulted, Bool.and_eq_true, Bool.not_eq_true', List.isEmpty_eq_false_iff,
    List.all_eq_true, decide_eq_true_eq] at htest
  refine ⟨tr, s, run, htest.1, (invalidUnused_iff run).2 ?_⟩
  intro s₁ a hmem table htable hflag
  exact htest.2 (s₁, table) (mem_invalidConsulted.2 ⟨a, hmem, htable, hflag⟩)

def invalidFound (r : List (NodeState × NodeStepLabel) × NodeState) : Bool :=
  (invalidConsulted 1 r.1).any fun x => decide (x.1.now < x.2.lifetime)

theorem brokenRoute_found : ((exec (NodeState.step 1) NodeState.init
    (brokenRoute ++ [data 1 2 7])).any invalidFound) = true := by
  decide +kernel

/-- Data for device 2 still goes along the route that device 2 has reported broken. -/
theorem exists_not_invalidUnused : ¬ ∀ ip tr s, NodeRun ip tr s → InvalidUnused ip tr s := by
  intro h
  obtain ⟨tr, s, run, htest⟩ := NodeRun.of_exec 1 (brokenRoute ++ [data 1 2 7]) invalidFound
    brokenRoute_found
  obtain ⟨⟨s₁, table⟩, hmem, hlt⟩ := List.any_eq_true.1 htest
  obtain ⟨a, hmem, htable, hflag⟩ := mem_invalidConsulted.1 hmem
  obtain ⟨pre, o, hpre, ho⟩ := handled_of_mem run hmem
  have huses := (uses_iff (onePerDestination_of_nodeRun hpre) (dataFIFO_of_nodeRun hpre) ho).2
    ⟨htable, of_decide_eq_true hlt⟩
  exact (h 1 tr s run).unused s₁ a o hmem ho table huses hflag

end NetSim.Aodv
