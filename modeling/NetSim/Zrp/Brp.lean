import NetSim.Zrp.Ierp

/-!
# The bordercast resolution protocol (`BRP.c`)

A request goes to every border of the zone, each of which sends it on to its own. Every node on the
way looks at the request as well.
-/

namespace NetSim.Zrp

variable {Addr : Type} [DecidableEq Addr]

/-- `BRP_HEADER`, with the fields of the header of IP that BRP looks at. -/
structure BrpPacket (Addr : Type) where
  szSourceIP : Addr
  szDestIP : Addr
  querySourceAddress : Addr
  queryDestinationAddress : Addr
  queryID : ℕ
  queryExtension : ℕ
  prevBordercastAddress : Addr
  encapsulatedPacket : IerpPacket Addr
deriving DecidableEq

/-- The packet when its request has been at the node `me`. -/
def BrpPacket.visited (packet : BrpPacket Addr) (me : Addr) : BrpPacket Addr :=
  { packet with encapsulatedPacket := { packet.encapsulatedPacket with
    intermediateNodeAddress := packet.encapsulatedPacket.intermediateNodeAddress ++ [me] } }

namespace NodeZrp

variable (node : NodeZrp Addr) (me : Addr)

/-- The packets of `fn_NetSim_BRP_BodercastPacket` for the branches `tree`, the counter being
`nQueryId`. -/
def branchPackets (dataPacket : IerpPacket Addr) : ℕ → List (Branch Addr) → List (BrpPacket Addr)
  | _, [] => []
  | nQueryId, branch :: tree =>
    { szSourceIP := me
      szDestIP := branch.borderIP
      querySourceAddress := me
      queryDestinationAddress := branch.borderIP
      queryID := (nQueryId + 1) % 2 ^ 16
      queryExtension := 1
      prevBordercastAddress := me
      encapsulatedPacket := dataPacket } ::
      branchPackets dataPacket ((nQueryId + 1) % 2 ^ 16) tree

/-- `fn_NetSim_BRP_BodercastPacket`: the counter goes up by one for each branch. -/
def bodercastPacket (dataPacket : IerpPacket Addr) : NodeZrp Addr × List (BrpPacket Addr) :=
  ({ node with
    brpQueryId := node.bodercastTree.foldl (fun nQueryId _ => (nQueryId + 1) % 2 ^ 16)
      node.brpQueryId },
    branchPackets me dataPacket node.brpQueryId node.bodercastTree)

def generateRouteRequest (dataPacket : Buffered Addr) : NodeZrp Addr × List (BrpPacket Addr) :=
  let queryID := (node.ierpQueryId + 1) % 2 ^ 16
  { node with ierpQueryId := queryID }.bodercastPacket me {
    nSourceId := dataPacket.nSourceId
    queryID := queryID
    routeSourceAddress := dataPacket.szSourceIP
    intermediateNodeAddress := []
    routeDestinationAddress := dataPacket.szDestIP }

/-- A packet without a route, in `fn_NetSim_IERP_RoutePacket`. -/
def bufferPacket (dataPacket : Buffered Addr) : NodeZrp Addr × List (BrpPacket Addr) :=
  let node := { node with buffer := node.buffer ++ [dataPacket] }
  if node.bodercastTree = [] then (node, []) else node.generateRouteRequest me dataPacket

/-- The node answers; it sends `copies` to its borders; or the packet passes by. -/
inductive Outcome (Addr : Type)
  | answered (packet : Option (ReplyPacket Addr))
  | relayed (copies : List (BrpPacket Addr))
  | passes (packet : BrpPacket Addr)
deriving DecidableEq

/-- The borders that a packet which came from the border `prev` is sent to. -/
def relayTargets (prev : Addr) : List (Branch Addr) :=
  node.bodercastTree.filter fun branch => branch.borderIP ≠ prev

/-- The copies that are sent on, whose headers have the number `queryID`. -/
def relayCopies (packet : BrpPacket Addr) (queryID : ℕ) : List (BrpPacket Addr) :=
  (node.relayTargets packet.prevBordercastAddress).map fun branch => { packet with
    szSourceIP := me
    szDestIP := branch.borderIP
    queryID := queryID
    prevBordercastAddress := me }

def brpProcessPacket (packet : BrpPacket Addr) : Option (NodeZrp Addr × Outcome Addr) :=
  (node.processRouteRequest me packet.encapsulatedPacket).map fun (node, outcome) =>
    match outcome with
    | .answered reply => (node, .answered reply)
    | .goesOn request =>
      let packet := { packet with encapsulatedPacket := request }
      if packet.szDestIP = me then
        let queryID := (node.brpQueryId + 1) % 2 ^ 16
        ({ node with brpQueryId := queryID }, .relayed (node.relayCopies me packet queryID))
      else (node, .passes packet)

theorem brpProcessPacket_eq (packet : BrpPacket Addr) :
    node.brpProcessPacket me packet =
      if node.Knows me packet.encapsulatedPacket.routeDestinationAddress then
        (node.generateRouteReply me packet.encapsulatedPacket).map fun r => (r.1, .answered r.2)
      else if packet.szDestIP = me then
        let queryID := (node.brpQueryId + 1) % 2 ^ 16
        some ({ node with brpQueryId := queryID },
          .relayed (node.relayCopies me (packet.visited me) queryID))
      else some (node, .passes (packet.visited me)) := by
  unfold brpProcessPacket processRouteRequest
  split
  · rw [Option.map_map]
    rfl
  · rw [Option.map_some]
    dsimp only
    split
    · rfl
    · rfl

variable {node me} {node' : NodeZrp Addr} {packet : BrpPacket Addr} {outcome : Outcome Addr}

theorem brpProcessPacket_cases (h : node.brpProcessPacket me packet = some (node', outcome)) :
    (node.Knows me packet.encapsulatedPacket.routeDestinationAddress ∧
        ∃ reply, node.generateRouteReply me packet.encapsulatedPacket = some (node', reply) ∧
          outcome = .answered reply) ∨
      ¬node.Knows me packet.encapsulatedPacket.routeDestinationAddress ∧
        (packet.szDestIP = me ∧
            node' = { node with brpQueryId := (node.brpQueryId + 1) % 2 ^ 16 } ∧
            outcome = .relayed
              (node.relayCopies me (packet.visited me) ((node.brpQueryId + 1) % 2 ^ 16)) ∨
          packet.szDestIP ≠ me ∧ node' = node ∧ outcome = .passes (packet.visited me)) := by
  rw [brpProcessPacket_eq] at h
  split at h
  · next hknows =>
    obtain ⟨⟨node1, reply⟩, hreply, hout⟩ := Option.map_eq_some_iff.1 h
    cases hout
    exact .inl ⟨hknows, reply, hreply, rfl⟩
  · next hknows =>
    split at h
    · next hdest =>
      cases h
      exact .inr ⟨hknows, .inl ⟨hdest, rfl, rfl⟩⟩
    · next hdest =>
      cases h
      exact .inr ⟨hknows, .inr ⟨hdest, rfl, rfl⟩⟩

theorem mem_relayCopies {p : BrpPacket Addr} {queryID : ℕ}
    (hp : p ∈ node.relayCopies me packet queryID) :
    (∃ branch ∈ node.bodercastTree, branch.borderIP ≠ packet.prevBordercastAddress ∧
        p.szDestIP = branch.borderIP) ∧
      p.prevBordercastAddress = me ∧ p.queryID = queryID ∧
      p.querySourceAddress = packet.querySourceAddress ∧
      p.encapsulatedPacket = packet.encapsulatedPacket := by
  obtain ⟨branch, hbranch, rfl⟩ := List.mem_map.1 hp
  obtain ⟨hmem, hne⟩ := List.mem_filter.1 hbranch
  exact ⟨⟨branch, hmem, of_decide_eq_true hne, rfl⟩, rfl, rfl, rfl, rfl⟩

theorem mem_branchPackets {dataPacket : IerpPacket Addr} {tree : List (Branch Addr)}
    {nQueryId : ℕ} {p : BrpPacket Addr} (hp : p ∈ branchPackets me dataPacket nQueryId tree) :
    (∃ branch ∈ tree, p.szDestIP = branch.borderIP) ∧ p.prevBordercastAddress = me ∧
      p.encapsulatedPacket = dataPacket := by
  induction tree generalizing nQueryId with
  | nil => cases hp
  | cons branch tree ih =>
    rcases List.mem_cons.1 hp with rfl | hp
    · exact ⟨⟨branch, List.mem_cons_self, rfl⟩, rfl, rfl⟩
    · obtain ⟨⟨b, hb, hdest⟩, hrest⟩ := ih hp
      exact ⟨⟨b, List.mem_cons_of_mem _ hb, hdest⟩, hrest⟩

theorem map_branchPackets (me : Addr) (dataPacket : IerpPacket Addr) (nQueryId : ℕ)
    (tree : List (Branch Addr)) :
    (branchPackets me dataPacket nQueryId tree).map BrpPacket.szDestIP =
      tree.map Branch.borderIP := by
  induction tree generalizing nQueryId with
  | nil => rfl
  | cons branch tree ih =>
    rw [branchPackets, List.map_cons, ih]
    rfl

end NodeZrp

end NetSim.Zrp
