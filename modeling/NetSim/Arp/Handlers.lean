import NetSim.Lib.KeyedList

/-!
# The handlers of ARP

The handlers for one interface. The flags and the retry counters are indexed by device ids.
-/

namespace NetSim.Arp

open NetSim.Lib Function

structure DataPacket (Ip : Type) where
  nPacketId : ℕ
  nReceiverId : ℕ
  /-- `get_first_dest_from_packet`. -/
  firstDest : ℕ
  szNextHopIp : Ip
deriving DecidableEq

/-- `ARP_PACKET`: the protocol and hardware addresses of the sender, and the protocol address of the
target. -/
structure ArpPacket (Ip Mac : Type) where
  spa : Ip
  sha : Mac
  tpa : Ip
deriving DecidableEq

structure ArpTable (Ip Mac : Type) where
  szIPAddress : Ip
  szMACAddress : Mac
deriving DecidableEq

structure ArpBuffer (Ip : Type) where
  szDestAdd : Ip
  pstruPacket : DataPacket Ip
deriving DecidableEq

structure ArpVariables (Ip Mac : Type) where
  pstruArpTable : List (ArpTable Ip Mac)
  nArpRetryLimit : ℕ
  pnArpRequestFlag : ℕ → Bool
  pnArpReplyFlag : ℕ → Bool
  pnArpRetryCount : ℕ → ℕ
  pstruPacketBuffer : List (ArpBuffer Ip)

/-- The interface and what the stack knows of addresses. -/
structure ArpConfig (Ip Mac : Type) where
  szAddress : Ip
  szMacAddress : Mac
  /-- `IP_IS_IN_SAME_NETWORK_IPV4` with the address and the mask of the interface. -/
  isInSameNetwork : Ip → Bool
  /-- `BROADCAST_MAC` and `multicastIP_to_Mac`. -/
  groupMac : Ip → Option Mac
  /-- `fn_NetSim_Stack_GetDeviceId_asIP`. -/
  getDeviceId : Ip → ℕ

inductive ArpEvent (Ip : Type)
  | generateArpRequest (packet : DataPacket Ip)
  | arpRequestTimeout (packet : DataPacket Ip)
deriving DecidableEq

inductive Output (Ip Mac : Type)
  | data (packet : DataPacket Ip) (szDestMac : Mac)
  | request (packet : ArpPacket Ip Mac)
  | reply (packet : ArpPacket Ip Mac)
  | event (event : ArpEvent Ip)

variable {Ip Mac : Type} [DecidableEq Ip]

def readTable (table : List (ArpTable Ip Mac)) (ip : Ip) : Option Mac :=
  (lookup ArpTable.szIPAddress ip table).map ArpTable.szMACAddress

namespace ArpVariables

variable (cfg : ArpConfig Ip Mac) (var : ArpVariables Ip Mac)

def readArpTable (packet : DataPacket Ip) : ArpVariables Ip Mac × List (Output Ip Mac) :=
  match cfg.groupMac packet.szNextHopIp <|> readTable var.pstruArpTable packet.szNextHopIp with
  | some szDestMac => (var, [.data packet szDestMac])
  | none =>
    let pstruPacketBuffer := var.pstruPacketBuffer ++
      [{ szDestAdd := packet.szNextHopIp, pstruPacket := packet }]
    if var.pnArpRequestFlag packet.nReceiverId = false then
      ({ var with
          pstruPacketBuffer
          pnArpRequestFlag := update var.pnArpRequestFlag packet.nReceiverId true },
        [.event (.generateArpRequest packet)])
    else ({ var with pstruPacketBuffer }, [])

/-- `fn_NetSim_Generate_ARP_Request`. A next hop in another network has no target address to print.
-/
def generateArpRequest (packet : DataPacket Ip) :
    Option (ArpVariables Ip Mac × List (Output Ip Mac)) :=
  let nDestinationId := packet.firstDest
  if cfg.isInSameNetwork packet.szNextHopIp then
    some
      ({ var with
          pnArpRequestFlag := update var.pnArpRequestFlag nDestinationId true
          pnArpRetryCount := update var.pnArpRetryCount nDestinationId
            (var.pnArpRetryCount nDestinationId + 1) },
        [.request { spa := cfg.szAddress, sha := cfg.szMacAddress, tpa := packet.szNextHopIp },
          .event (.arpRequestTimeout packet)])
  else none

/-- `fn_NetSim_ARP_Request_Timeout`. Before it drops packets it looks at the first that is buffered.
-/
def arpRequestTimeout (packet : DataPacket Ip) :
    Option (ArpVariables Ip Mac × List (Output Ip Mac)) :=
  let szDestIPadd := packet.szNextHopIp
  let nDestinationId := cfg.getDeviceId szDestIPadd
  let pnArpRequestFlag := update var.pnArpRequestFlag nDestinationId false
  let pnArpRetryCount := update var.pnArpRetryCount nDestinationId 0
  match readTable var.pstruArpTable szDestIPadd with
  | some _ => some ({ var with pnArpRequestFlag, pnArpRetryCount }, [])
  | none =>
    if var.pnArpRetryCount nDestinationId < var.nArpRetryLimit then
      some ({ var with pnArpRequestFlag }, [.event (.generateArpRequest packet)])
    else if var.pstruPacketBuffer = [] then none
    else
      some
        ({ var with
            pstruPacketBuffer := var.pstruPacketBuffer.filter fun b => b.szDestAdd ≠ szDestIPadd
            pnArpRequestFlag
            pnArpRetryCount },
          [])

/-- The loop of `fn_NetSim_Update_ARP_Table_ForwardPacket` over the buffer: what it forwards, and
what stays linked. -/
def forwardBuffered (ip : Ip) (mac : Mac) :
    List (ArpBuffer Ip) → List (Output Ip Mac) × List (ArpBuffer Ip)
  | [] => ([], [])
  | b :: rest =>
    let (outputs, kept) := forwardBuffered ip mac rest
    if b.szDestAdd = ip then (.data b.pstruPacket mac :: outputs, kept) else (outputs, b :: kept)

/-- `fn_NetSim_Update_ARP_Table_ForwardPacket`. The entry is appended through a copy of the head, so
the head of an empty table stays null. -/
def updateArpTableForwardPacket (reply : ArpPacket Ip Mac) (nSourceId : ℕ) :
    ArpVariables Ip Mac × List (Output Ip Mac) :=
  let (outputs, pstruPacketBuffer) := forwardBuffered reply.spa reply.sha var.pstruPacketBuffer
  ({ var with
      pstruArpTable :=
        if var.pstruArpTable = [] then []
        else var.pstruArpTable ++ [{ szIPAddress := reply.spa, szMACAddress := reply.sha }]
      pstruPacketBuffer
      pnArpReplyFlag := update var.pnArpReplyFlag nSourceId true
      pnArpRequestFlag := update var.pnArpRequestFlag nSourceId false },
    outputs)

def mergeSender (request : ArpPacket Ip Mac) : ArpVariables Ip Mac :=
  match readTable var.pstruArpTable request.spa with
  | some _ => var
  | none =>
    { var with
      pstruArpTable := var.pstruArpTable ++
        [{ szIPAddress := request.spa, szMACAddress := request.sha }] }

def generateArpReply (request : ArpPacket Ip Mac) : ArpVariables Ip Mac × List (Output Ip Mac) :=
  (var.mergeSender request, [.reply { spa := request.tpa, sha := cfg.szMacAddress, tpa := request.spa }])

/-- A request that arrives: `fn_Netsim_ARP_CheckDestinationDevice`, and the reply if it is for the
interface. -/
def checkDestinationDevice (request : ArpPacket Ip Mac) :
    ArpVariables Ip Mac × List (Output Ip Mac) :=
  if request.tpa = cfg.szAddress then var.generateArpReply cfg request
  else (var.mergeSender request, [])

end ArpVariables

/-! ## What the handlers do -/

section
variable {cfg : ArpConfig Ip Mac} {var : ArpVariables Ip Mac} {table : List (ArpTable Ip Mac)}
  {request reply : ArpPacket Ip Mac} {nSourceId : ℕ} {ip : Ip} {mac : Mac}

theorem readTable_append {x : ArpTable Ip Mac} :
    readTable (table ++ [x]) ip =
      (readTable table ip).or (if x.szIPAddress = ip then some x.szMACAddress else none) := by
  unfold readTable
  rw [lookup_append_single]
  cases lookup ArpTable.szIPAddress ip table with
  | some y => rfl
  | none =>
    by_cases h : x.szIPAddress = ip
    · simp [h]
    · simp [h]

theorem nodup_append_of_readTable {x : ArpTable Ip Mac} (h : (table.map ArpTable.szIPAddress).Nodup)
    (hnone : readTable table x.szIPAddress = none) :
    ((table ++ [x]).map ArpTable.szIPAddress).Nodup :=
  nodup_append_single h (Option.map_eq_none_iff.1 hnone)

theorem forwardBuffered_eq {buffer : List (ArpBuffer Ip)} :
    ArpVariables.forwardBuffered ip mac buffer =
      ((buffer.filter fun b => b.szDestAdd = ip).map fun b => .data b.pstruPacket mac,
        buffer.filter fun b => b.szDestAdd ≠ ip) := by
  induction buffer with
  | nil => rfl
  | cons b rest ih =>
    unfold ArpVariables.forwardBuffered
    rw [ih]
    by_cases h : b.szDestAdd = ip
    · simp [h]
    · simp [h]

theorem checkDestinationDevice_fst :
    (var.checkDestinationDevice cfg request).1 = var.mergeSender request := by
  unfold ArpVariables.checkDestinationDevice
  split <;> rfl

end

end NetSim.Arp
