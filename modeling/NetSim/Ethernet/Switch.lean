import NetSim.Ethernet.SpanningTree
import NetSim.Lib.KeyedList

/-!
# The forwarding of frames by an Ethernet switch

The four functions that choose the ports of a frame. What is sent is the list of the copies with
their ports, in the order of `send_to_phy`.
-/

namespace NetSim.Ethernet

open NetSim.Lib

inductive SwitchingTechnique
  | null
  | storeForward
  | cutThrough
  | fragmentFree
deriving DecidableEq

structure SwitchTable (Mac : Type) where
  mac : Mac
  outPort : ℕ
deriving DecidableEq

/-- `ETH_LAN` of a switch, as the forwarding of frames reads it. The interfaces are numbered from
one. -/
structure SwitchLan (Mac : Type) where
  lanId : ℕ
  vlanId : ℕ
  lanIP : Bool
  switchingTechnique : SwitchingTechnique
  interfaceId : List ℕ
  switchTable : List (SwitchTable Mac)
deriving DecidableEq

/-- `ETH_VAR`, with the states of the ports by their ids. -/
structure EthVar (Mac : Type) where
  lanVar : List (SwitchLan Mac)
  portState : ℕ → PortState
  isVLAN : Bool
  trunkPortIds : List ℕ

/-- A frame, with what `store_eth_incoming` has recorded of it. -/
structure Frame (Mac : Type) where
  nPacketId : ℕ
  szSourceMac : Mac
  szDestMac : Mac
  /-- The `VID` of the tag. -/
  tag : Option ℕ
  networkSize : ℕ
  dPayload : ℕ
  dOverhead : ℕ
  incomingPort : ℕ
  incomingVlanId : ℕ
deriving DecidableEq

inductive AclType
  | inbound
  | outbound
deriving DecidableEq

inductive AclAction
  | permit
  | deny
deriving DecidableEq

/-- `fn_NetSim_MAC_Firewall` of a device. -/
abbrev MacFirewall (Mac : Type) := ℕ → Frame Mac → AclType → AclAction

def ieee8011QTagLen : ℕ := 4

def ethernetFrameHeaderLen : ℕ := 26

variable {Mac : Type}

namespace Frame

def dPacketSize (packet : Frame Mac) : ℕ := packet.dOverhead + packet.dPayload

def clearEthIncoming (packet : Frame Mac) : Frame Mac :=
  { packet with incomingPort := 0, incomingVlanId := 0 }

/-- `add_vlan_tag`. The `VID` has twelve bits. -/
def addVlanTag (packet : Frame Mac) (vlanId : ℕ) : Frame Mac :=
  { packet with tag := some (vlanId % 2 ^ 12), dOverhead := packet.dOverhead + ieee8011QTagLen }

def addMacHeader (packet : Frame Mac) : Frame Mac :=
  { packet with dPayload := packet.networkSize, dOverhead := ethernetFrameHeaderLen }

/-- `store_eth_param_macin`: the tag is taken off, and the port and the VLAN are recorded. -/
def storeEthParamMacin (packet : Frame Mac) (inPort : ℕ) (lan : SwitchLan Mac) : Frame Mac :=
  match packet.tag with
  | none => { packet with incomingPort := inPort, incomingVlanId := lan.vlanId }
  | some vid =>
    { packet with
      tag := none
      dOverhead := packet.dOverhead - ieee8011QTagLen
      incomingPort := inPort
      incomingVlanId := vid }

end Frame

/-! ## The switch table -/

section
variable [DecidableEq Mac]

def switchTableFind (lan : SwitchLan Mac) (dest : Mac) : Option (SwitchTable Mac) :=
  lookup SwitchTable.mac dest lan.switchTable

def switchTableNew (lan : SwitchLan Mac) (dest : Mac) (outport : ℕ) : SwitchLan Mac :=
  match switchTableFind lan dest with
  | some _ => lan
  | none => { lan with switchTable := lan.switchTable ++ [⟨dest, outport⟩] }

def findForwardInterface (lan : SwitchLan Mac) (packet : Frame Mac) : ℕ :=
  match switchTableFind lan packet.szDestMac with
  | some table => table.outPort
  | none => 0

end

/-- The LAN `lan` has been changed. -/
def EthVar.setLan (eth : EthVar Mac) (lan : SwitchLan Mac) : EthVar Mac :=
  { eth with lanVar := eth.lanVar.map fun l => if l.lanId = lan.lanId then lan else l }

/-! ## The ports of a flooded frame -/

def getVlan (eth : EthVar Mac) (vlanId : ℕ) : Option (SwitchLan Mac) :=
  if eth.isVLAN then eth.lanVar.find? fun lan => lan.vlanId = vlanId else none

def forwardToLan (eth : EthVar Mac) (firewall : MacFirewall Mac) (inPort : ℕ) (lan : SwitchLan Mac)
    (packet : Frame Mac) : List (ℕ × Frame Mac) :=
  (lan.interfaceId.filter fun inter =>
    inter ≠ inPort ∧ eth.portState inter ≠ .blocking ∧ firewall inter packet .outbound = .permit).map
      fun inter => (inter, packet.clearEthIncoming)

def vlanForwardToAllTrunk (eth : EthVar Mac) (firewall : MacFirewall Mac) (packet : Frame Mac)
    (lan : SwitchLan Mac) : List (ℕ × Frame Mac) :=
  if eth.isVLAN then
    (eth.trunkPortIds.filter fun inter =>
      inter ∉ lan.interfaceId ∧ inter ≠ packet.incomingPort ∧ eth.portState inter ≠ .blocking ∧
        firewall inter packet .outbound = .permit).map
          fun inter => (inter, packet.clearEthIncoming.addVlanTag packet.incomingVlanId)
  else [] -- VLAN is not configured

def vlanForwardToTrunk (eth : EthVar Mac) (firewall : MacFirewall Mac) (inPort vlanId : ℕ)
    (packet : Frame Mac) : List (ℕ × Frame Mac) :=
  if eth.isVLAN then
    (eth.trunkPortIds.filter fun inter =>
      inter ≠ inPort ∧ eth.portState inter ≠ .blocking ∧
        firewall inter packet .outbound = .permit).map
          fun inter => (inter, packet.clearEthIncoming.addVlanTag vlanId)
  else [] -- VLAN is not configured

/-! ## The four forwarding functions -/

section
variable [DecidableEq Mac] (eth : EthVar Mac) (firewall : MacFirewall Mac)

/-- `forward_frame` of a switch. -/
def forwardFrame (inPort : ℕ) (lan : SwitchLan Mac) (packet : Frame Mac) : List (ℕ × Frame Mac) :=
  let f := findForwardInterface lan packet
  if f ≠ 0 then
    if firewall f packet .outbound = .permit then [(f, packet.clearEthIncoming)] else []
  else
    forwardToLan eth firewall inPort lan packet ++ vlanForwardToAllTrunk eth firewall packet lan

/-- `vlan_macin_forward_packet`, for a switch without an IP address. -/
def vlanMacinForwardPacket (inPort : ℕ) (packet : Frame Mac) : List (ℕ × Frame Mac) :=
  let vlanId := packet.incomingVlanId
  match getVlan eth vlanId with
  | none => vlanForwardToTrunk eth firewall inPort vlanId packet -- No vlan is found
  | some lan =>
    let f := findForwardInterface lan packet
    if f ≠ 0 then
      if firewall f packet .outbound = .permit ∧ f ≠ inPort then [(f, packet.clearEthIncoming)] else []
    else
      vlanForwardToTrunk eth firewall inPort vlanId packet ++
        forwardToLan eth firewall inPort lan packet

def vlanMacoutForwardPacket (lan : SwitchLan Mac) (vlanId incoming : ℕ) (packet : Frame Mac) :
    List (ℕ × Frame Mac) :=
  let out := findForwardInterface lan packet
  if out ≠ 0 then
    if firewall out packet .outbound = .permit ∧ out ≠ incoming then
      [(out, packet.clearEthIncoming)]
    else []
  else
    vlanForwardToTrunk eth firewall incoming vlanId packet ++
      forwardToLan eth firewall incoming lan packet

/-- `packet_arrive_from_network_layer`, for one packet of the buffer of an interface of `lan`. -/
def packetArriveFromNetworkLayer (lan : SwitchLan Mac) (packet : Frame Mac) : List (ℕ × Frame Mac) :=
  let vlanId := packet.incomingVlanId
  let incoming := packet.incomingPort
  let packet := packet.clearEthIncoming
  if vlanId ≠ 0 then vlanMacoutForwardPacket eth firewall lan vlanId incoming packet
  else
    let out := if 1 < lan.interfaceId.length then findForwardInterface lan packet else 0
    let packet := packet.addMacHeader
    if out ≠ 0 then
      if firewall out packet .outbound = .permit ∧ out ≠ incoming then
        [(out, packet.clearEthIncoming)]
      else []
    else
      forwardToLan eth firewall incoming lan packet ++ vlanForwardToAllTrunk eth firewall packet lan

structure Processed (Mac : Type) where
  lan : SwitchLan Mac
  sent : List (ℕ × Frame Mac)
  /-- `check_move_frame_up`: the frame goes to the network layer. -/
  up : Option (Frame Mac)

/-- `ethernet_mac_process_frame`: `packet` has arrived at interface `inPort` of `lan`. -/
def ethernetMacProcessFrame (inPort : ℕ) (lan : SwitchLan Mac) (packet : Frame Mac) : Processed Mac :=
  if firewall inPort packet .inbound = .deny then { lan, sent := [], up := none }
  else
    let lan :=
      if lan.switchingTechnique ≠ .null then switchTableNew lan packet.szSourceMac inPort else lan
    let isTag := packet.tag.isSome
    let packet := packet.storeEthParamMacin inPort lan
    if lan.lanIP then { lan, sent := [], up := some packet }
    else if isTag then
      { lan, sent := vlanMacinForwardPacket (eth.setLan lan) firewall inPort packet, up := none }
    else { lan, sent := forwardFrame eth firewall inPort lan packet, up := none }

end

end NetSim.Ethernet
