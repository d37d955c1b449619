import NetSim.Aodv.Discovery
import NetSim.Lib.Run

/-!
# One AODV device (`AODV.c`, `GeneralPacketProcessing.c`, `AODV_RouteError.c`, `HelloMessage.c`)

`nodeStep` is what one event does to a device, its pending events and the frames it puts out;
`NodeState.step` adds the clock, for a device that receives arbitrary packets.
-/

namespace NetSim.Aodv

open NetSim.Lib

/-! ## Route errors -/

/-- The mark that `GenerateRERR` and `ProcessRERR` put on an entry. -/
def RouteTable.invalidate (c : Curr) (table : RouteTable) : RouteTable :=
  { table with routingFlags := .inValid, lifetime := c.dEventTime + aodvDeletePeriod }

/-- The RERR for the entries that have become unreachable; `DestCount` keeps 8 bits. -/
def newRERR (tables : List RouteTable) : RERR where
  destCount := .ofNat tables.length
  unreachableDestinationIPAddress := tables.map RouteTable.destinationIPAddress
  unreachableDestinationSequenceNumber := tables.map RouteTable.destinationSequenceNumber

/-- `fn_NetSim_AODV_GenerateRERR`. It reads `precursorList->count`, so without a precursor list
there is no result. -/
def generateRERR (c : Curr) (unreachableIP : IPAddress) (s : Sim) : Option Sim :=
  match s.devVar.precursorsList with
  | none => none
  | some list =>
    let broken := s.devVar.routeTable.filter fun table => table.nextHop = unreachableIP
    let s := s.modifyVar fun v => { v with
      ncounter := v.ncounter - 1
      routeTable := v.routeTable.map fun table =>
        if table.nextHop = unreachableIP then table.invalidate c else table
      precursorsList := some (list.erase unreachableIP) }
    some <|
      if broken = [] then s
      else
        s.addEvent c.dEventTime <| .networkOut
          { generateCtrlPacket c.ip none none (.ofNat aodvNetDiameter) (.rerr (newRERR broken)) with
            szNextHopIp := none }

/-- `fn_NetSim_AODV_PacketDropNotification`, for a packet that the MAC layer has dropped. -/
def packetDropNotification (c : Curr) (nextHop : IPAddress) (s : Sim) : Option Sim :=
  if 10 < s.devVar.nRerrCount then
    (generateRERR c nextHop s).map (·.modifyVar fun v => { v with nRerrCount := 1 + 1 })
  else some (s.modifyVar fun v => { v with nRerrCount := v.nRerrCount + 1 })

/-- The destinations that the loop of `ProcessRERR` compares with. -/
def RERR.unreachable (rerr : RERR) : List IPAddress :=
  rerr.unreachableDestinationIPAddress.take rerr.destCount.toNat

/-- The test of `ProcessRERR` on an entry. -/
def RouteTable.brokenBy (nextHop : IPAddress) (rerr : RERR) (table : RouteTable) : Bool :=
  decide (table.destinationIPAddress ∈ rerr.unreachable) && decide (table.nextHop = nextHop)

/-- `fn_NetSim_AODV_ProcessRERR`, on the packet being processed. -/
def processRERR (c : Curr) (packet : Packet) (rerr : RERR) (s : Sim) : Sim :=
  let flag := s.devVar.routeTable.any (·.brokenBy packet.szSourceIP rerr)
  let s := s.modifyVar fun v => { v with
    routeTable := v.routeTable.map fun table =>
      if table.brokenBy packet.szSourceIP rerr then table.invalidate c else table }
  if flag then { s with pPacket := some { packet with szSourceIP := c.ip } }.addPacketEvent else s

/-- The RREP of `fn_NetSim_AODV_TransmitHelloMessage`. -/
def helloRREP (c : Curr) (devVar : DeviceVar) : RREP where
  hopCount := 0
  destinationIPaddress := c.ip
  destinationSequenceNumber := devVar.nSequenceNumber
  originatorIPaddress := c.ip
  lifetime := toUnsigned c.dEventTime + aodvAllowedHelloLoss * toUnsigned aodvHelloInterval
  lastAddress := c.ip
  congestionflag := false

def transmitHelloMessage (c : Curr) (s : Sim) : Sim :=
  let s := s.addEvent (c.dEventTime + aodvHelloInterval) .transmitHello
  if c.dEventTime < s.devVar.dLastBroadcastTime + aodvHelloInterval then s
  else if s.devVar.routeTable = [] then s
  else
    s.addEvent c.dEventTime <| .networkOut
      { generateCtrlPacket c.ip none none 2 (.rrep (helloRREP c s.devVar)) with
        szNextHopIp := none }

/-- `fn_NetSim_AODV_GeneralPacketProcessing`, on the packet being processed. -/
def generalPacketProcessing (c : Curr) (packet : Packet) (s : Sim) : Sim :=
  match checkRouteFound c packet.szDestIP s.devVar, findNextHop s.devVar packet.szDestIP with
  | true, some nextHop =>
    { updateRouteTable packet.szDestIP (c.dEventTime + aodvActiveRouteTimeout) s with
      pPacket := some { packet with
        nTransmitterId := c.ip
        nReceiverId := some nextHop
        szNextHopIp := some nextHop
        nTTL := .ofNat aodvNetDiameter } }
  | _, _ =>
    let (fifo, rreqSent) := addToFIFOBuffer packet c.dEventTime s.devVar.fifo
    let s := s.modifyVar fun v => { v with fifo := fifo }
    if rreqSent then { s with pPacket := none } else generateRREQ c packet.szDestIP s

/-! ## `fn_NetSim_AODV_Run` -/

def Packet.isControl (packet : Packet) : Bool :=
  match packet.payload with
  | .data _ => false
  | _ => true

/-- The end of `NETWORK_OUT_EVENT`: the packet goes on when its TTL exceeds 1. -/
def transmitIfAlive (c : Curr) (s : Sim) : Sim :=
  match s.pPacket with
  | some packet =>
    if 1 < packet.nTTL then
      if packet.nReceiverId = none then
        s.modifyVar fun v => { v with dLastBroadcastTime := c.dEventTime }
      else s
    else { s with pPacket := none }
  | none => s

/-- `NETWORK_OUT_EVENT`. A packet that has its next hop already (`szNextHopIp`) is not routed. -/
def networkOutEvent (c : Curr) (packet : Packet) (s : Sim) : Sim :=
  if packet.szNextHopIp.isSome then
    { s with pPacket := if packet.nTTL = 0 then none else some packet }
  else if packet.isControl then
    transmitIfAlive c
      { s with pPacket := some { packet with szNextHopIp := some (getDevIP packet.nReceiverId) } }
  else transmitIfAlive c (generalPacketProcessing c packet s)

/-- The frame that the IP layer passes to the MAC layer (`pass_to_lower_layer`). -/
def passToLowerLayer (c : Curr) (packet : Packet) : Packet :=
  { packet with
    nTransmitterId := c.ip
    nReceiverId := packet.szNextHopIp.filter (· ≠ broadcastIP) }

def networkInEvent (c : Curr) (packet : Packet) (s : Sim) : Option Sim :=
  let s := { s with pPacket := some packet }
  match packet.payload with
  | .rreq rreq => processRREQ c rreq s
  | .rrep rrep => some (processRREP c packet rrep s)
  | .rerr rerr => some (processRERR c packet rerr s)
  | .data _ =>
    let lifetime := c.dEventTime + aodvActiveRouteTimeout
    some <|
      if packet.szDestIP = c.ip then updateRouteTable packet.szSourceIP lifetime s
      else
        updateRouteTable packet.szSourceIP lifetime (updateRouteTable packet.szDestIP lifetime s)

/-! ## What one event does to a device -/

/-- A pending event is due, a data packet is to be routed, a packet arrives, or the MAC layer has
dropped a data packet for `nextHop`. -/
inductive NodeAction where
  | fire (event : EventDetails)
  | dataOut (packet : Packet)
  | networkIn (packet : Packet)
  | dropNotification (nextHop : IPAddress)
  deriving DecidableEq

structure Device where
  var : DeviceVar
  events : List EventDetails

/-- What a handler leaves behind: the device, the shared RREQ counter, the events it added and the
frame it put out. -/
structure Outcome where
  devVar : DeviceVar
  nRREQId : UInt32
  added : List EventDetails
  frame : Option Packet

/-- The end of a `NETWORK_OUT_EVENT`: what is left of the packet is passed to the MAC layer. -/
def Sim.afterOut (c : Curr) (s : Sim) : Outcome where
  devVar := s.devVar
  nRREQId := s.nRREQId
  added := s.added
  frame := s.pPacket.map (passToLowerLayer c)

/-- The end of any other event. The added events that point at the packet of this event find it as
the handler left it. -/
def Sim.afterIn (c : Curr) (s : Sim) : Outcome where
  devVar := s.devVar
  nRREQId := s.nRREQId
  added := s.added ++
    match s.pPacket with
    | some packet => List.replicate s.packetEvents ⟨c.dEventTime, .networkOut packet⟩
    | none => []
  frame := none

def Sim.start (nRREQId : UInt32) (devVar : DeviceVar) : Sim := ⟨devVar, nRREQId, [], none, 0⟩

/-- `fn_NetSim_AODV_Run` and `fn_NetSim_AODV_PacketDropNotification`. -/
def handle (c : Curr) (nRREQId : UInt32) (devVar : DeviceVar) : NodeAction → Option Outcome
  | .fire ⟨_, .networkOut packet⟩ =>
    some ((networkOutEvent c packet (.start nRREQId devVar)).afterOut c)
  | .fire ⟨_, .rreqTimeout dest⟩ => some ((retryRREQ c dest (.start nRREQId devVar)).afterIn c)
  | .fire ⟨_, .transmitHello⟩ =>
    some ((transmitHelloMessage c (.start nRREQId devVar)).afterIn c)
  | .fire ⟨_, .activeRouteTimeout dest⟩ =>
    some ((activeRouteTimeout c dest (.start nRREQId devVar)).afterIn c)
  | .dataOut packet => some ((networkOutEvent c packet (.start nRREQId devVar)).afterOut c)
  | .networkIn packet =>
    (networkInEvent c packet (.start nRREQId devVar)).map (·.afterIn c)
  | .dropNotification nextHop =>
    (packetDropNotification c nextHop (.start nRREQId devVar)).map (·.afterIn c)

/-- When an action can happen: a pending event when its time has come, and data is what the upper
layers hand down. -/
def NodeAction.enabled (now : Time) (events : List EventDetails) : NodeAction → Bool
  | .fire event => decide (event ∈ events) && decide (event.dEventTime = now)
  | .dataOut packet => !packet.isControl && packet.szNextHopIp.isNone
  | .networkIn _ => true
  | .dropNotification _ => true

def NodeAction.remaining (events : List EventDetails) : NodeAction → List EventDetails
  | .fire event => events.erase event
  | _ => events

def nodeStep (c : Curr) (nRREQId : UInt32) (d : Device) (a : NodeAction) :
    Option (Device × Outcome) :=
  if a.enabled c.dEventTime d.events then
    (handle c nRREQId d.var a).map fun o => (⟨o.devVar, a.remaining d.events ++ o.added⟩, o)
  else none

/-! ## Runs of one device -/

/-- A device with the clock and the shared RREQ counter. -/
structure NodeState where
  now : Time
  nRREQId : UInt32
  device : Device

/-- Time passes, while other devices may draw RREQ ids, or an event is processed. -/
inductive NodeStepLabel where
  | tick (time : Time) (nRREQId : UInt32)
  | act (a : NodeAction)
  deriving DecidableEq

/-- One step of the device with address `ip`. -/
def NodeState.step (ip : IPAddress) (s : NodeState) : NodeStepLabel → Option NodeState
  | .tick time nRREQId =>
    if s.now ≤ time ∧ ∀ e ∈ s.device.events, time ≤ e.dEventTime then
      some { s with now := time, nRREQId := nRREQId }
    else none
  | .act a =>
    (nodeStep ⟨ip, s.now⟩ s.nRREQId s.device a).map fun r =>
      { s with nRREQId := r.2.nRREQId, device := r.1 }

/-- The device as `fn_NetSim_AODV_Init_F` leaves it: its first hello is due after one interval. -/
def Device.init : Device where
  var := .init
  events := [⟨aodvHelloInterval, .transmitHello⟩]

def NodeState.init : NodeState := ⟨0, 0, .init⟩

/-- The runs of the device with address `ip`, which may receive any packets. -/
abbrev NodeRun (ip : IPAddress) (tr : List (NodeState × NodeStepLabel)) (s : NodeState) : Prop :=
  Run (NodeState.step ip) .init tr s

/-- The state after the device has handled `act` with outcome `o`. -/
def NodeState.after (s : NodeState) (act : NodeAction) (o : Outcome) : NodeState where
  now := s.now
  nRREQId := o.nRREQId
  device := ⟨o.devVar, act.remaining s.device.events ++ o.added⟩

theorem NodeState.step_cases {ip : IPAddress} {s s' : NodeState} {a : NodeStepLabel}
    (h : s.step ip a = some s') :
    (∃ time nRREQId, a = .tick time nRREQId ∧ s.now ≤ time ∧
        (∀ e ∈ s.device.events, time ≤ e.dEventTime) ∧
        s' = { s with now := time, nRREQId := nRREQId }) ∨
      ∃ act o, a = .act act ∧ act.enabled s.now s.device.events = true ∧
        handle ⟨ip, s.now⟩ s.nRREQId s.device.var act = some o ∧ s' = s.after act o := by
  cases a with
  | tick time nRREQId =>
    simp only [NodeState.step] at h
    split at h
    · next htime =>
      exact Or.inl ⟨time, nRREQId, rfl, htime.1, htime.2, (Option.some.inj h).symm⟩
    · cases h
  | act act =>
    obtain ⟨r, hstep, rfl⟩ := Option.map_eq_some_iff.1 h
    unfold nodeStep at hstep
    split at hstep
    · next henabled =>
      obtain ⟨o, ho, rfl⟩ := Option.map_eq_some_iff.1 hstep
      exact Or.inr ⟨act, o, rfl, henabled, ho, rfl⟩
    · cases hstep

theorem NodeRun.device_invariant {ip : IPAddress} {P : DeviceVar → Prop} (h0 : P .init)
    (hstep : ∀ c nRREQId v a o, P v → handle c nRREQId v a = some o → P o.devVar)
    {tr : List (NodeState × NodeStepLabel)} {s : NodeState} (run : NodeRun ip tr s) :
    P s.device.var := by
  refine run.always (P := fun s => P s.device.var) h0 ?_
  intro s a s' hP h
  rcases NodeState.step_cases h with ⟨time, nRREQId, -, -, -, rfl⟩ | ⟨act, o, -, -, ho, rfl⟩
  · exact hP
  · exact hstep _ _ _ _ _ hP ho

/-! ## Strategies for executions -/

abbrev NodeStrategy := NodeState → Option NodeStepLabel

namespace NodeStrategy

def due : NodeStrategy := fun s =>
  (s.device.events.find? fun e => e.dEventTime = s.now).map fun e => .act (.fire e)

/-- Time passes until `ms` milliseconds. -/
def wait (ms : ℕ) : NodeStrategy := fun s => some (.tick (ms * millisecond) s.nRREQId)

def receive (packet : Packet) : NodeStrategy := fun _ => some (.act (.networkIn packet))

/-- The upper layers of `src` hand down data packet `nPacketId` for `dest`. -/
def data (src dest : IPAddress) (nPacketId : ℕ) : NodeStrategy := fun _ =>
  some (.act (.dataOut ⟨src, dest, src, none, none, 0, .data nPacketId⟩))

end NodeStrategy

theorem NodeRun.of_exec (ip : IPAddress) (acts : List NodeStrategy)
    (test : List (NodeState × NodeStepLabel) × NodeState → Bool)
    (h : (exec (NodeState.step ip) NodeState.init acts).any test = true) :
    ∃ tr s, NodeRun ip tr s ∧ test (tr, s) = true :=
  run_of_exec h

end NetSim.Aodv
