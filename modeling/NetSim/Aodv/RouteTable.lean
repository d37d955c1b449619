import NetSim.Aodv.Packet

/-!
# The route table (`RouteTable.c`, `AODV_CheckRouteFound.c`)

Look-ups, `InsertInRouteTable`, `UpdateRouteTable`, the precursor list and the loop of
`ActiveRouteTimeout`, on the state that a handler of one device works on.
-/

namespace NetSim.Aodv

open NetSim.Lib

/-- What `set_aodv_curr` and the event being processed say: this device's address and the time. -/
structure Curr where
  ip : IPAddress
  dEventTime : Time

/-- The device variable, the counter `nRREQId` that all devices share, the events added, the packet
of the event (`none` once freed), and how many of the added `NETWORK_OUT` events point at that very
packet. -/
structure Sim where
  devVar : DeviceVar
  nRREQId : UInt32
  added : List EventDetails
  pPacket : Option Packet
  packetEvents : ℕ

/-- `fnpAddEvent`, for an event that does not point at the packet being processed. -/
def Sim.addEvent (s : Sim) (dEventTime : Time) (subEvent : SubEvent) : Sim :=
  { s with added := s.added ++ [⟨dEventTime, subEvent⟩] }

/-- `fnpAddEvent` for a `NETWORK_OUT` event whose packet is the one being processed. -/
def Sim.addPacketEvent (s : Sim) : Sim := { s with packetEvents := s.packetEvents + 1 }

def Sim.modifyVar (s : Sim) (f : DeviceVar → DeviceVar) : Sim := { s with devVar := f s.devVar }

section Fields

variable (s : Sim) (t : Time) (e : SubEvent) (f : DeviceVar → DeviceVar)

@[simp] theorem addEvent_devVar : (s.addEvent t e).devVar = s.devVar := rfl
@[simp] theorem addEvent_nRREQId : (s.addEvent t e).nRREQId = s.nRREQId := rfl
@[simp] theorem addEvent_added : (s.addEvent t e).added = s.added ++ [⟨t, e⟩] := rfl
@[simp] theorem addEvent_pPacket : (s.addEvent t e).pPacket = s.pPacket := rfl
@[simp] theorem addEvent_packetEvents : (s.addEvent t e).packetEvents = s.packetEvents := rfl

@[simp] theorem addPacketEvent_devVar : s.addPacketEvent.devVar = s.devVar := rfl
@[simp] theorem addPacketEvent_nRREQId : s.addPacketEvent.nRREQId = s.nRREQId := rfl
@[simp] theorem addPacketEvent_added : s.addPacketEvent.added = s.added := rfl
@[simp] theorem addPacketEvent_pPacket : s.addPacketEvent.pPacket = s.pPacket := rfl
@[simp] theorem addPacketEvent_packetEvents :
    s.addPacketEvent.packetEvents = s.packetEvents + 1 := rfl

@[simp] theorem modifyVar_devVar : (s.modifyVar f).devVar = f s.devVar := rfl
@[simp] theorem modifyVar_nRREQId : (s.modifyVar f).nRREQId = s.nRREQId := rfl
@[simp] theorem modifyVar_added : (s.modifyVar f).added = s.added := rfl
@[simp] theorem modifyVar_pPacket : (s.modifyVar f).pPacket = s.pPacket := rfl
@[simp] theorem modifyVar_packetEvents : (s.modifyVar f).packetEvents = s.packetEvents := rfl

end Fields

/-! ## Look-ups -/

/-- `fnFindRouteTable`: the first entry for `dest`. -/
def findRouteTable (table : List RouteTable) (dest : IPAddress) : Option RouteTable :=
  lookup RouteTable.destinationIPAddress dest table

def findNextHop (devVar : DeviceVar) (dest : IPAddress) : Option IPAddress :=
  (findRouteTable devVar.routeTable dest).map RouteTable.nextHop

/-- `fnFindSequenceNumber`: 0 when there is no entry. -/
def findSequenceNumber (devVar : DeviceVar) (ip : IPAddress) : UInt32 :=
  match findRouteTable devVar.routeTable ip with
  | some table => table.destinationSequenceNumber
  | none => 0

/-- `fn_NetSim_AODV_CheckRouteFound`: the test reads the lifetime only, not `routingFlags`. -/
def checkRouteFound (c : Curr) (ip : IPAddress) (devVar : DeviceVar) : Bool :=
  devVar.routeTable.any fun table =>
    table.destinationIPAddress = ip && decide (c.dEventTime < table.lifetime)

/-! ## Insertion -/

/-- The tests on an entry in the loop of `InsertInRouteTable`: `true` where the source breaks to
overwrite the entry, `false` where it returns. -/
def RouteTable.accepts (table : RouteTable) (seqNumber hopCount : UInt32) : Bool :=
  if table.validDestinationSequenceNumberflag = false then true
  else if table.destinationSequenceNumber < seqNumber then true
  else if seqNumber < table.destinationSequenceNumber then false
  else decide (hopCount + 1 < table.hopCount) || decide (table.routingFlags = .inValid)

/-- The assignments at the end of `InsertInRouteTable`. `DestinationIPAddress` and `NextHop` are
assigned to a new entry only. -/
def RouteTable.overwrite (table : RouteTable) (seqNumber hopCount : UInt32) (lifeTime : Time) :
    RouteTable :=
  { table with
    destinationSequenceNumber := seqNumber
    validDestinationSequenceNumberflag :=
      if seqNumber ≠ 0 then true else table.validDestinationSequenceNumberflag
    routingFlags := .valid
    hopCount := hopCount
    lifetime := maxTime table.lifetime lifeTime }

/-- The entry that `InsertInRouteTable` allocates when there is none for `ip`. -/
def RouteTable.alloc (c : Curr) (ip nextHop : IPAddress) : RouteTable where
  destinationIPAddress := ip
  destinationSequenceNumber := 0
  validDestinationSequenceNumberflag := false
  routingFlags := .valid
  hopCount := 0
  nextHop := nextHop
  lifetime := c.dEventTime + aodvActiveRouteTimeout

def insertInRouteTable (c : Curr) (ip : IPAddress) (seqNumber hopCount : UInt32)
    (nextHop : IPAddress) (lifeTime : Time) (s : Sim) : Sim :=
  match findRouteTable s.devVar.routeTable ip with
  | some table =>
    if table.accepts seqNumber hopCount then
      s.modifyVar fun v => { v with
        routeTable := modifyFirst RouteTable.destinationIPAddress ip
          (·.overwrite seqNumber hopCount lifeTime) v.routeTable }
    else s
  | none =>
    (s.modifyVar fun v => { v with
      routeTable := v.routeTable ++
        [(RouteTable.alloc c ip nextHop).overwrite seqNumber hopCount lifeTime] }).addEvent
      (c.dEventTime + aodvActiveRouteTimeout) (.activeRouteTimeout ip)

def insertInPrecursorsList (ip : IPAddress) (s : Sim) : Sim :=
  s.modifyVar fun v =>
    let list := v.precursorsList.getD []
    { v with precursorsList := some (if ip ∈ list then list else list ++ [ip]) }

def updateRouteTable (ip : IPAddress) (lifetime : Time) (s : Sim) : Sim :=
  s.modifyVar fun v => { v with
    routeTable := v.routeTable.map fun table =>
      if table.nextHop = ip ∨ table.destinationIPAddress = ip then
        { table with lifetime := maxTime table.lifetime lifetime }
      else table }

/-- The loop of `fn_NetSim_AODV_ActiveRouteTimeout`, with the event time and the congestion counter
it has reached. An entry for `dest` that has not expired re-adds the event at its lifetime, which
becomes the event time of the rest. -/
def activeRouteTimeoutLoop (dest : IPAddress) :
    Time → UInt32 → List RouteTable → List RouteTable × UInt32 × List EventDetails
  | _, ncounter, [] => ([], ncounter, [])
  | dEventTime, ncounter, table :: tables =>
    if table.destinationIPAddress = dest then
      if table.lifetime ≤ dEventTime then
        activeRouteTimeoutLoop dest dEventTime (ncounter - 1) tables
      else
        let (tables', ncounter', added) :=
          activeRouteTimeoutLoop dest table.lifetime ncounter tables
        (table :: tables', ncounter', ⟨table.lifetime, .activeRouteTimeout dest⟩ :: added)
    else
      let (tables', ncounter', added) := activeRouteTimeoutLoop dest dEventTime ncounter tables
      (table :: tables', ncounter', added)

def activeRouteTimeout (c : Curr) (dest : IPAddress) (s : Sim) : Sim :=
  let (tables, ncounter, added) :=
    activeRouteTimeoutLoop dest c.dEventTime s.devVar.ncounter s.devVar.routeTable
  { s with
    devVar := { s.devVar with routeTable := tables, ncounter := ncounter }
    added := s.added ++ added }

end NetSim.Aodv
