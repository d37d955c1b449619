import NetSim.Ethernet.SwitchForwarding
import NetSim.Lib.TreeFlood

/-!
# Frames in a network of switches

Switches without VLANs and their stations. The copies of a frame keep its packet id, and arrive in
any order, each on the link it was sent on.
-/

namespace NetSim.Ethernet

abbrev LinkEnd (V S : Type) := (V × ℕ) ⊕ S

def nodeOf {V S : Type} : LinkEnd V S → V ⊕ S
  | .inl (v, _) => .inl v
  | .inr s => .inr s

structure Wiring (V S : Type) where
  peer : V → ℕ → Option (LinkEnd V S)
  attached : S → V × ℕ
  peer_symm : ∀ {v i w j}, peer v i = some (.inl (w, j)) → peer w j = some (.inl (v, i))
  peer_attached : ∀ {v i s}, peer v i = some (.inr s) ↔ attached s = (v, i)

/-- The switches of a network as configured. The spanning tree has set the states of their ports. -/
structure SwitchConfig (V S Mac : Type) extends Wiring V S where
  broadcastMac : Mac
  portState : V → ℕ → PortState
  firewall : V → MacFirewall Mac

structure LinkCopy (V S Mac : Type) where
  src : LinkEnd V S
  dst : LinkEnd V S
  frame : Frame Mac

structure SwitchNet (V S Mac : Type) where
  lan : V → SwitchLan Mac
  inFlight : List (LinkCopy V S Mac)
  sent : List (S × Frame Mac)
  arrived : List (LinkCopy V S Mac)

inductive SwitchAction (S Mac : Type)
  | send (s : S) (frame : Frame Mac)
  | arrive (n : ℕ)

variable {V S Mac : Type}

namespace SwitchConfig

variable (cfg : SwitchConfig V S Mac)

/-- `ETH_VAR` of a switch. Nothing is tagged. -/
def ethVar (v : V) : EthVar Mac :=
  { lanVar := [], portState := cfg.portState v, isVLAN := false, trunkPortIds := [] }

def opposite : LinkEnd V S → Option (LinkEnd V S)
  | .inl (v, i) => cfg.peer v i
  | .inr s => some (.inl (cfg.attached s))

def Open : LinkEnd V S → Prop
  | .inl (v, i) => cfg.portState v i ≠ .blocking
  | .inr _ => True

instance : DecidablePred cfg.Open
  | .inl (v, i) => inferInstanceAs (Decidable (cfg.portState v i ≠ .blocking))
  | .inr _ => isTrue trivial

structure OpenLink (e e' : LinkEnd V S) : Prop where
  opposite : cfg.opposite e = some e'
  src : cfg.Open e
  dst : cfg.Open e'

theorem opposite_symm {e e' : LinkEnd V S} (h : cfg.opposite e = some e') :
    cfg.opposite e' = some e := by
  match e, e' with
  | .inl (v, i), .inl (w, j) => exact cfg.peer_symm h
  | .inl (v, i), .inr s => exact congrArg (fun x => some (Sum.inl x)) (cfg.peer_attached.1 h)
  | .inr s, .inl (v, i) =>
    exact cfg.peer_attached.2 (Sum.inl.inj (Option.some.inj h))

variable {cfg} in
theorem OpenLink.symm {e e' : LinkEnd V S} (h : cfg.OpenLink e e') : cfg.OpenLink e' e :=
  ⟨cfg.opposite_symm h.opposite, h.dst, h.src⟩

def openGraph : SimpleGraph (V ⊕ S) where
  Adj a b := a ≠ b ∧ ∃ e e', cfg.OpenLink e e' ∧ nodeOf e = a ∧ nodeOf e' = b
  symm := ⟨fun _ _ ⟨hne, e, e', h, ha, hb⟩ => ⟨hne.symm, e', e, h.symm, hb, ha⟩⟩
  loopless := ⟨fun _ h => h.1 rfl⟩

/-- The links that are not blocked form a tree, so no two of them join the same two switches. -/
structure FormsTree : Prop where
  isTree : cfg.openGraph.IsTree
  ne : ∀ {e e'}, cfg.OpenLink e e' → nodeOf e ≠ nodeOf e'
  single : ∀ {e e' f f'}, cfg.OpenLink e e' → cfg.OpenLink f f' → nodeOf e = nodeOf f →
    nodeOf e' = nodeOf f' → e = f

end SwitchConfig

namespace SwitchNet

variable [DecidableEq V] [DecidableEq Mac] (cfg : SwitchConfig V S Mac)

def transmit (v : V) (sent : List (ℕ × Frame Mac)) : List (LinkCopy V S Mac) :=
  sent.filterMap fun x => (cfg.peer v x.1).map fun e => ⟨.inl (v, x.1), e, x.2⟩

/-- The LANs after a copy has arrived, and the copies that it makes a switch send. -/
def handle (s : SwitchNet V S Mac) (c : LinkCopy V S Mac) :
    (V → SwitchLan Mac) × List (LinkCopy V S Mac) :=
  match c.dst with
  | .inr _ => (s.lan, [])
  | .inl (v, i) =>
    let r := ethernetMacProcessFrame (cfg.ethVar v) (cfg.firewall v) i (s.lan v) c.frame
    (Function.update s.lan v r.lan, transmit cfg v r.sent)

/-- The copy in flight at place `n` arrives. -/
def arrive (s : SwitchNet V S Mac) (n : ℕ) (c : LinkCopy V S Mac) : SwitchNet V S Mac :=
  { s with
    lan := (s.handle cfg c).1
    inFlight := s.inFlight.eraseIdx n ++ (s.handle cfg c).2
    arrived := c :: s.arrived }

/-- A station sends untagged frames with packet ids of their own, and no address stands for all
stations as the source. -/
def step (s : SwitchNet V S Mac) : SwitchAction S Mac → Option (SwitchNet V S Mac)
  | .send station frame =>
    if frame.tag = none ∧ frame.szSourceMac ≠ cfg.broadcastMac ∧
        ∀ x ∈ s.sent, x.2.nPacketId ≠ frame.nPacketId then
      some
        { s with
          inFlight := s.inFlight ++ [⟨.inr station, .inl (cfg.attached station), frame⟩]
          sent := s.sent ++ [(station, frame)] }
    else none
  | .arrive n => s.inFlight[n]?.map (s.arrive cfg n)

/-- The start, with any table. -/
structure IsStart (s : SwitchNet V S Mac) : Prop where
  wellFormed : ∀ v, (s.lan v).WellFormed
  lanIP : ∀ v, (s.lan v).lanIP = false
  mem_interfaceId : ∀ {v i e}, cfg.peer v i = some e → i ∈ (s.lan v).interfaceId
  broadcast : ∀ v, (s.lan v).outPort cfg.broadcastMac = none
  inFlight : s.inFlight = []
  sent : s.sent = []
  arrived : s.arrived = []

def MeetsEnd (s : SwitchNet V S Mac) (frame : Frame Mac) : LinkEnd V S → Prop
  | .inl (v, i) => MeetsWire (cfg.ethVar v) (cfg.firewall v) (s.lan v) i frame
  | .inr _ => True

/-- The frame that arrives meets the conditions of the switch it arrives at. -/
def Meets (s : SwitchNet V S Mac) : SwitchAction S Mac → Prop
  | .send _ _ => True
  | .arrive n => ∀ c ∈ s.inFlight[n]?, s.MeetsEnd cfg c.frame c.dst

def PermitsEnd (s : SwitchNet V S Mac) (frame : Frame Mac) : LinkEnd V S → Prop
  | .inl (v, i) =>
    frame.szDestMac = cfg.broadcastMac → cfg.portState v i ≠ .blocking →
      cfg.firewall v i frame .inbound = .permit ∧
        ∀ o ∈ (s.lan v).interfaceId, o ≠ i → cfg.portState v o ≠ .blocking →
          cfg.firewall v o (frame.storeEthParamMacin i (s.lan v)) .outbound = .permit
  | .inr _ => True

def Permits (s : SwitchNet V S Mac) : SwitchAction S Mac → Prop
  | .send _ _ => True
  | .arrive n => ∀ c ∈ s.inFlight[n]?, s.PermitsEnd cfg c.frame c.dst

def stations (k : ℕ) (s : SwitchNet V S Mac) : List S :=
  (s.arrived.filter fun c => c.frame.nPacketId = k).filterMap fun c => c.dst.getRight?

end SwitchNet

end NetSim.Ethernet
