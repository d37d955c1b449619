import NetSim.Zrp.RoutingTable

/-!
# The interzone routing protocol (`IERP.c`, `IERP_RoutingTable.c`)

A node without a route asks the borders of its zone, and a node with the destination in its zone
answers with the whole way. Devices are named by the addresses of their first interfaces; `me` is
the device of the event.
-/

namespace NetSim.Zrp

variable {Addr : Type} [DecidableEq Addr]

/-- `IERP_PACKET`, with the source of the packet that carries it. -/
structure IerpPacket (Addr : Type) where
  nSourceId : Addr
  queryID : ℕ
  routeSourceAddress : Addr
  intermediateNodeAddress : List Addr
  routeDestinationAddress : Addr
deriving DecidableEq

/-- `IERP_ROUTE_TABLE`, whose `count` is the length of `route`. An empty `Route` is null in an entry
of IARP, and an array with a null address in one from a reply, which has the `flag`. -/
structure IerpRoute (Addr : Type) where
  destAddr : Addr
  route : List Addr
  flag : Bool
deriving DecidableEq

structure Buffered (Addr : Type) where
  nPacketId : ℕ
  nSourceId : Addr
  szSourceIP : Addr
  szDestIP : Addr
deriving DecidableEq

/-- `BRP_BODERCAST_TREE`. -/
structure Branch (Addr : Type) where
  borderIP : Addr
  nexthop : Addr
deriving DecidableEq

/-- `NODE_ZRP`, with `NODE_IERP` and `NODE_BRP`. -/
structure NodeZrp (Addr : Type) where
  nZoneRadius : ℕ
  zone : List Addr
  buffer : List (Buffered Addr)
  routeTable : List (IerpRoute Addr)
  ierpQueryId : ℕ
  bodercastTree : List (Branch Addr)
  brpQueryId : ℕ
deriving DecidableEq

structure ReplyPacket (Addr : Type) where
  szDestIP : Addr
  szNextHopIp : Option Addr
  reply : IerpPacket Addr
deriving DecidableEq

/-! ## The table of routes -/

def checkDestInRouteTable (table : List (IerpRoute Addr)) (dest : Addr) : Option (IerpRoute Addr) :=
  table.find? fun entry => entry.destAddr = dest

def IerpRoute.nextHop (entry : IerpRoute Addr) : Option Addr :=
  match entry.route with
  | hop :: _ => some hop
  | [] => if entry.flag then none else some entry.destAddr

def findInIarpTable (table : List (Route Addr)) (ip : Addr) : Option (Route Addr) :=
  table.find? fun entry => entry.networkDestination = ip

/-- The `Route` of `addToIERPTableFromIARP`, gateway after gateway; `none` when a gateway has no
entry. -/
def routeFromIARP (table : List (Route Addr)) : ℕ → Option (Route Addr) → Option (List Addr)
  | 0, _ => some []
  | _ + 1, none => none
  | count + 1, some entry =>
    (routeFromIARP table count (findInIarpTable table entry.gateway)).map (entry.gateway :: ·)

def entryFromIARP (table : List (Route Addr)) (entry : Route Addr) : Option (IerpRoute Addr) :=
  (routeFromIARP table (entry.metric - 1) (some entry)).map fun route =>
    { destAddr := entry.networkDestination, route := route, flag := false }

def addToIERPTableFromIARP (routeTable : List (IerpRoute Addr)) (iarpTable : List (Route Addr)) :
    Option (List (IerpRoute Addr)) :=
  (iarpTable.mapM (entryFromIARP iarpTable)).map (routeTable ++ ·)

def flushIerpTable (routeTable : List (IerpRoute Addr)) : List (IerpRoute Addr) :=
  routeTable.filter fun entry => entry.flag

/-- `flushIERPTableFromIARP`: a route from a reply stays while IARP has its first hop as a
neighbour. -/
def flushIERPTableFromIARP (routeTable : List (IerpRoute Addr)) (iarpTable : List (Route Addr)) :
    List (IerpRoute Addr) :=
  routeTable.filter fun entry => !entry.flag || iarpTable.any fun temp =>
    entry.route.head? = some temp.networkDestination ∧ temp.metric = 1

/-- `fn_NetSim_BRP_Update`, which OLSR calls with its table of routes. -/
def NodeZrp.brpUpdate (node : NodeZrp Addr) (iarpTable : List (Route Addr)) :
    Option (NodeZrp Addr) :=
  (addToIERPTableFromIARP (flushIerpTable node.routeTable) iarpTable).map fun routeTable =>
    { node with
      routeTable := flushIERPTableFromIARP routeTable iarpTable
      bodercastTree := (iarpTable.filter fun entry => entry.metric = node.nZoneRadius).map
        fun entry => { borderIP := entry.networkDestination, nexthop := entry.gateway }
      zone := (iarpTable.filter fun entry => entry.metric ≤ node.nZoneRadius).map
        Route.networkDestination }

/-! ## Replies -/

/-- The node behind the first `ip` in a list that ends before `dest`. -/
def hopAfter (dest ip : Addr) : List Addr → Option Addr
  | [] => none
  | a :: rest => if ip = a then some (rest.head?.getD dest) else hopAfter dest ip rest

def replyGetNextHop (reply : IerpPacket Addr) (ip : Addr) : Option Addr :=
  if ip = reply.routeSourceAddress then
    some (reply.intermediateNodeAddress.head?.getD reply.routeDestinationAddress)
  else hopAfter reply.routeDestinationAddress ip reply.intermediateNodeAddress

/-- The reply of `fn_NetSim_IERP_GenerateRouteReply`: the route and the nodes of the request,
backwards. -/
def NodeZrp.replyTo (node : NodeZrp Addr) (me : Addr) (request : IerpPacket Addr)
    (entry : IerpRoute Addr) : IerpPacket Addr where
  nSourceId := me
  queryID := (node.ierpQueryId + 1) % 2 ^ 16
  routeSourceAddress := request.routeDestinationAddress
  intermediateNodeAddress :=
    entry.route.reverse ++ me :: request.intermediateNodeAddress.reverse
  routeDestinationAddress := request.routeSourceAddress

/-- `fn_NetSim_IERP_GenerateRouteReply`. A node without an entry reads through a null pointer. -/
def NodeZrp.generateRouteReply (node : NodeZrp Addr) (me : Addr) (request : IerpPacket Addr) :
    Option (NodeZrp Addr × Option (ReplyPacket Addr)) :=
  if me = request.nSourceId then some (node, none)
  else
    match checkDestInRouteTable node.routeTable request.routeDestinationAddress with
    | none => none
    | some entry =>
      let reply := node.replyTo me request entry
      some ({ node with ierpQueryId := reply.queryID }, some {
        szDestIP := request.nSourceId
        szNextHopIp := replyGetNextHop reply me
        reply := reply })

/-- `extractRouteFromreply`: the nodes before this one, backwards. An entry that is there already
stays. -/
def NodeZrp.extractRouteFromReply (node : NodeZrp Addr) (me : Addr) (reply : IerpPacket Addr) :
    NodeZrp Addr :=
  if (checkDestInRouteTable node.routeTable reply.routeSourceAddress).isSome then node
  else { node with
    routeTable := node.routeTable ++ [{
      destAddr := reply.routeSourceAddress
      route := (reply.intermediateNodeAddress.takeWhile fun a => a ≠ me).reverse
      flag := true }] }

/-- `routePacketFromBuffer`: the packets with a route leave, each with its next hop. -/
def NodeZrp.routePacketFromBuffer (node : NodeZrp Addr) :
    NodeZrp Addr × List (Buffered Addr × Option Addr) :=
  ({ node with buffer := node.buffer.filter fun packet =>
      (checkDestInRouteTable node.routeTable packet.szDestIP).isNone },
    node.buffer.filterMap fun packet =>
      (checkDestInRouteTable node.routeTable packet.szDestIP).map fun entry =>
        (packet, entry.nextHop))

/-- `fn_NetSim_IERP_ProcessRouteReply`: the packets that leave the buffer, and the reply if it goes
on. -/
def NodeZrp.processRouteReply (node : NodeZrp Addr) (me : Addr) (packet : ReplyPacket Addr) :
    NodeZrp Addr × List (Buffered Addr × Option Addr) × Option (ReplyPacket Addr) :=
  let (node, sent) := (node.extractRouteFromReply me packet.reply).routePacketFromBuffer
  (node, sent,
    if packet.szDestIP = me then none
    else some { packet with szNextHopIp := replyGetNextHop packet.reply me })

/-! ## Requests -/

inductive RequestOutcome (Addr : Type)
  | answered (packet : Option (ReplyPacket Addr))
  | goesOn (request : IerpPacket Addr)
deriving DecidableEq

def NodeZrp.Knows (node : NodeZrp Addr) (me dest : Addr) : Prop :=
  dest = me ∨ dest ∈ node.zone

instance (node : NodeZrp Addr) (me dest : Addr) : Decidable (node.Knows me dest) :=
  inferInstanceAs (Decidable (_ ∨ _))

def NodeZrp.processRouteRequest (node : NodeZrp Addr) (me : Addr) (request : IerpPacket Addr) :
    Option (NodeZrp Addr × RequestOutcome Addr) :=
  if node.Knows me request.routeDestinationAddress then
    (node.generateRouteReply me request).map fun r => (r.1, .answered r.2)
  else some (node, .goesOn { request with
    intermediateNodeAddress := request.intermediateNodeAddress ++ [me] })

end NetSim.Zrp
