import NetSim.Lib.Run
import NetSim.Zrp.Brp

/-!
# Queries in a network of ZRP nodes

Zones are fixed while queries and replies travel from neighbour to neighbour, in any order; packets
may be lost. The numbers of the queries, their ways and the lists of what has happened are
bookkeeping.
-/

namespace NetSim.Zrp

variable {Addr : Type} [DecidableEq Addr]

/-- `sender` has sent `numbered` to `border`; `before` has the nodes that bordercast it before, the
latest first. -/
structure Transmission (Addr : Type) where
  numbered : ℕ
  sender : Addr
  before : List Addr
  border : Addr
deriving DecidableEq

def Transmission.trail (t : Transmission Addr) : List Addr := t.sender :: t.before

/-- A packet of BRP that `holder` is to send on. -/
structure Copy (Addr : Type) where
  transmission : Transmission Addr
  holder : Addr
  packet : BrpPacket Addr
deriving DecidableEq

/-- A reply that `holder` is to send on. -/
structure ReplyCopy (Addr : Type) where
  holder : Addr
  packet : ReplyPacket Addr
deriving DecidableEq

/-- A query that `source` has sent. -/
structure Query (Addr : Type) where
  numbered : ℕ
  source : Addr
  dest : Addr
deriving DecidableEq

structure QueryNet (Addr : Type) where
  node : Addr → NodeZrp Addr
  copies : List (Copy Addr)
  replies : List (ReplyCopy Addr)
  asked : List (Query Addr)
  relayed : List (ℕ × Addr)
  sent : List (Transmission Addr)

inductive QueryAction (Addr : Type)
  /-- A packet without a route at `source`. -/
  | ask (numbered : ℕ) (source : Addr) (dataPacket : Buffered Addr)
  | hop (c : Copy Addr) (v : Addr)
  | lose (c : Copy Addr)
  | replyHop (r : ReplyCopy Addr) (v : Addr)
  | loseReply (r : ReplyCopy Addr)

/-- The copy that `holder` sends to one of its borders. -/
def copyOf (numbered : ℕ) (before : List Addr) (holder : Addr) (packet : BrpPacket Addr) :
    Copy Addr where
  transmission :=
    { numbered := numbered, sender := holder, before := before, border := packet.szDestIP }
  holder := holder
  packet := packet

namespace QueryNet

section

variable (s : QueryNet Addr)

/-- The node `holder` sends the packets on to its borders. -/
def bordercast (numbered : ℕ) (before : List Addr) (holder : Addr)
    (packets : List (BrpPacket Addr)) : QueryNet Addr :=
  let copies := packets.map (copyOf numbered before holder)
  { s with
    copies := s.copies ++ copies
    sent := s.sent ++ copies.map Copy.transmission }

def ask (numbered : ℕ) (source : Addr) (dataPacket : Buffered Addr) : QueryNet Addr :=
  let (node, packets) := (s.node source).bufferPacket source dataPacket
  { s with
    node := Function.update s.node source node
    asked := { numbered := numbered, source := source, dest := dataPacket.szDestIP } :: s.asked
    }.bordercast numbered [] source packets

/-- The copy `c` arrives at `v`. -/
def hop (c : Copy Addr) (v : Addr) : Option (QueryNet Addr) :=
  ((s.node v).brpProcessPacket v c.packet).map fun (node, outcome) =>
    let s := { s with node := Function.update s.node v node, copies := s.copies.erase c }
    match outcome with
    | .answered reply =>
      { s with replies := s.replies ++ reply.toList.map fun packet => ⟨v, packet⟩ }
    | .relayed packets =>
      { s with relayed := (c.transmission.numbered, v) :: s.relayed }.bordercast
        c.transmission.numbered c.transmission.trail v packets
    | .passes packet => { s with copies := s.copies ++ [{ c with holder := v, packet := packet }] }

/-- The reply `r` arrives at `v`. -/
def replyHop (r : ReplyCopy Addr) (v : Addr) : QueryNet Addr :=
  let (node, _, reply) := (s.node v).processRouteReply v r.packet
  { s with
    node := Function.update s.node v node
    replies := s.replies.erase r ++ reply.toList.map fun packet => ⟨v, packet⟩ }

def zones : Addr → List Addr × List (Branch Addr) :=
  fun v => ((s.node v).zone, (s.node v).bodercastTree)

/-- No query has been sent yet. -/
structure AtRest : Prop where
  copies : s.copies = []
  replies : s.replies = []
  asked : s.asked = []
  relayed : s.relayed = []
  sent : s.sent = []

end

/-- Packets travel between neighbours, replies to their next hop. A query has a number of its
own. -/
def step (adj : Addr → Addr → Prop) [DecidableRel adj] (s : QueryNet Addr) :
    QueryAction Addr → Option (QueryNet Addr)
  | .ask numbered source dataPacket =>
    if ∀ q ∈ s.asked, q.numbered ≠ numbered then some (s.ask numbered source dataPacket) else none
  | .hop c v => if c ∈ s.copies ∧ adj c.holder v then s.hop c v else none
  | .lose c => if c ∈ s.copies then some { s with copies := s.copies.erase c } else none
  | .replyHop r v =>
    if r ∈ s.replies ∧ adj r.holder v ∧ r.packet.szNextHopIp = some v then some (s.replyHop r v)
    else none
  | .loseReply r =>
    if r ∈ s.replies then some { s with replies := s.replies.erase r } else none

end QueryNet

end NetSim.Zrp
