import NetSim.Lib.Run

/-!
# The spanning tree protocol of an Ethernet switch

`processConfigBpdu` compares a BPDU with what the switch knows, and blocks the port, or takes the
BPDU over and forwards it. `_stricmp` reads switch ids as members of a linear order.
-/

namespace NetSim.Ethernet

inductive PortState
  | disabled
  | listening
  | learning
  | forwarding
  | blocking
deriving DecidableEq

inductive PortType
  | designated
  | nondesignated
  | root
deriving DecidableEq

structure EthIf where
  portState : PortState
  portType : PortType

/-- `ETH_BPDU`. -/
structure Bpdu (Id : Type) where
  rootId : Id
  rootPathCost : ℕ
  bridgeId : Id
deriving DecidableEq

/-- `ETH_SPT`. The interfaces are numbered from one, and a root port of zero is none. -/
structure Spt (Id : Type) where
  stpCost : ℕ
  switchId : Id
  rootId : Id
  rootPathCost : ℕ
  rootPort : ℕ

/-- `ETH_LAN`, with its interfaces by their ids. -/
structure Lan (Id : Type) where
  ethIfVar : ℕ → EthIf
  spt : Spt Id

inductive CompareBpdu
  | block
  | forward
  | dontForward
deriving DecidableEq

def costModulus : ℕ := 2 ^ 32

variable {Id : Type} [LinearOrder Id]

def createBpdu (lan : Lan Id) : Bpdu Id :=
  { rootId := lan.spt.rootId, rootPathCost := lan.spt.stpCost, bridgeId := lan.spt.switchId }

def copyBpdu (lan : Lan Id) (b : Bpdu Id) : Bpdu Id :=
  { rootId := b.rootId
    rootPathCost := (lan.spt.stpCost + b.rootPathCost) % costModulus
    bridgeId := lan.spt.switchId }

def compareBpdu (bpdu : Bpdu Id) (spt : Spt Id) (port : ℕ) : CompareBpdu :=
  if bpdu.rootId = spt.rootId then
    if spt.rootId = spt.switchId then .dontForward -- I am root
    else if bpdu.rootPathCost = spt.rootPathCost then
      if spt.rootPort = port then .dontForward else .block
    else if bpdu.rootPathCost < spt.rootPathCost then .forward
    else .block
  else if bpdu.rootId < spt.rootId then .forward
  else .dontForward

def blockPort (lan : Lan Id) (port : ℕ) : Lan Id :=
  { lan with ethIfVar := Function.update lan.ethIfVar port ⟨.blocking, .nondesignated⟩ }

/-- `mark_port`. The states of the ports stay as they are. -/
def markPort (lan : Lan Id) (port : ℕ) : Lan Id :=
  { ethIfVar := fun i => { lan.ethIfVar i with portType := if i = port then .root else .designated }
    spt := { lan.spt with rootPort := port } }

def updateSpt (spt : Spt Id) (bpdu : Bpdu Id) (port : ℕ) : Spt Id :=
  { spt with rootId := bpdu.rootId, rootPathCost := bpdu.rootPathCost, rootPort := port }

/-! ## The switches and their links -/

/-- A connected topology of switches with the protocol enabled, and what is configured on each. -/
structure Topology (V Id : Type) [LinearOrder Id] where
  switchId : V → Id
  stpCost : V → ℕ
  interfaceId : V → List ℕ
  connectedDevice : V → ℕ → Option (V × ℕ)
  /-- `get_interface_id`: the interface that leads to a switch. -/
  getInterfaceId : V → V → ℕ
  switchId_injective : Function.Injective switchId
  stpCost_pos : ∀ v, 0 < stpCost v
  stpCost_lt : ∀ v, stpCost v < 2 ^ 31
  nodup : ∀ v, (interfaceId v).Nodup
  mem_interfaceId : ∀ {v i w j}, connectedDevice v i = some (w, j) → i ∈ interfaceId v
  symm : ∀ {v i w j}, connectedDevice v i = some (w, j) → connectedDevice w j = some (v, i)
  irrefl : ∀ {v i w j}, connectedDevice v i = some (w, j) → v ≠ w
  connected : ∀ v w, Relation.ReflTransGen (fun v w => ∃ i j, connectedDevice v i = some (w, j)) v w
  connected_getInterfaceId : ∀ {v i w j}, connectedDevice v i = some (w, j) →
    ∃ k, connectedDevice v (getInterfaceId v w) = some (w, k)

/-- The switches, and the BPDUs that have been sent to each of their interfaces, the oldest first.
-/
structure Net (V Id : Type) where
  lan : V → Lan Id
  chan : V → ℕ → List (Bpdu Id)

namespace Net

variable {V : Type} [DecidableEq V] (T : Topology V Id)

/-- A BPDU goes out of interface `i` of `d`. -/
def sendOut (d : V) (bpdu : Bpdu Id) (chan : V → ℕ → List (Bpdu Id)) (i : ℕ) : V → ℕ → List (Bpdu Id) :=
  match T.connectedDevice d i with
  | none => chan
  | some (c, ci) => fun w j => if w = c ∧ j = ci then chan w j ++ [bpdu] else chan w j

def multicastConfigBpdu (d : V) (dest : List V) (bpdu : Bpdu Id) (chan : V → ℕ → List (Bpdu Id)) :
    V → ℕ → List (Bpdu Id) :=
  dest.foldl (fun chan des => sendOut T d bpdu chan (T.getInterfaceId d des)) chan

/-- The switches a BPDU of `d` is for: those at its interfaces, the one it came in by left out. -/
def dest (d : V) (inter : Option ℕ) : List V :=
  ((T.interfaceId d).filter fun i => decide (some i ≠ inter)).filterMap
    fun i => (T.connectedDevice d i).map Prod.fst

/-- `start_spt_for_lan`, up to the BPDU it sends. -/
def startSpt (v : V) : Lan Id :=
  { ethIfVar := fun _ => ⟨.forwarding, .designated⟩
    spt :=
      { stpCost := T.stpCost v
        switchId := T.switchId v
        rootId := T.switchId v
        rootPathCost := 0
        rootPort := 0 } }

def sendConfigBpdus (lan : V → Lan Id) : List V → (V → ℕ → List (Bpdu Id)) → V → ℕ → List (Bpdu Id)
  | [], chan => chan
  | v :: vs, chan =>
    sendConfigBpdus lan vs (multicastConfigBpdu T v (dest T v none) (createBpdu (lan v)) chan)

/-- The start, in which the switches have sent their BPDUs in the order of the list. -/
def start (order : List V) : Net V Id :=
  { lan := startSpt T, chan := sendConfigBpdus T (startSpt T) order fun _ _ => [] }

/-- `process_configbpdu`: `bpdu` has arrived at interface `i` of switch `d`. -/
def processConfigBpdu (s : Net V Id) (d : V) (i : ℕ) (bpdu : Bpdu Id) : Net V Id :=
  let lan := s.lan d
  match compareBpdu bpdu lan.spt i with
  | .block => { s with lan := Function.update s.lan d (blockPort lan i) }
  | .forward =>
    let lan := markPort lan i
    let lan := { lan with spt := updateSpt lan.spt bpdu i }
    { lan := Function.update s.lan d lan
      chan := multicastConfigBpdu T d (dest T d (some i)) (copyBpdu lan bpdu) s.chan }
  | .dontForward => s

/-- The oldest BPDU on its way to an interface is delivered. -/
def step (s : Net V Id) (x : V × ℕ) : Option (Net V Id) :=
  match s.chan x.1 x.2 with
  | [] => none
  | bpdu :: rest =>
    some (processConfigBpdu T
      { s with chan := fun w j => if w = x.1 ∧ j = x.2 then rest else s.chan w j } x.1 x.2 bpdu)

def Quiet (s : Net V Id) : Prop := ∀ v i, s.chan v i = []

end Net

end NetSim.Ethernet
