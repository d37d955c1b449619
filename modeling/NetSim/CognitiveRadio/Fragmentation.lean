import Mathlib

/-!
# Fragmentation and packing (`Fragmentation.c`)

A `double` is a rational number. A packet list is the packet it starts with and the packets that
follow. What `fn_NetSim_CR_CPE_PackPacket` moves to the network layer is what it returns here.
-/

namespace NetSim.CognitiveRadio

def gmhSize : ℚ := 4

def fragmentSize : ℚ := 3

/-- `B2_00` to `B2_11`. -/
inductive B2
  | b00 | b01 | b10 | b11
deriving DecidableEq

/-- `stru_802_22_FragmentSubHeader`, with `FSN` of 10 bits and `length` of 11. -/
structure FragmentSubHeader where
  FC : B2
  FSN : Nat
  length : Nat
  nFragmentId : UInt32
deriving DecidableEq

/-- What is used of a `GMH`: `n_Length` of 11 bits and, where `sz_Type[FRAGMANET_BIT]` is `'1'`, the
fragment header. -/
structure Gmh where
  n_Length : Nat
  subheader : Option FragmentSubHeader
deriving DecidableEq

structure LayerData where
  dArrivalTime : ℚ
  dEndTime : ℚ
  dPayload : ℚ
  dOverhead : ℚ
  dPacketSize : ℚ
deriving DecidableEq

/-- A `NetSim_PACKET`: the sizes and payloads of its layers. -/
structure Packet where
  networkPacketSize : ℚ
  appPayload : Option ℚ
  mac : LayerData
  phy : LayerData
  gmh : Gmh
deriving DecidableEq

/-- What a field of `w` bits keeps of a size. -/
def toBits (w : Nat) (size : ℚ) : Nat := ⌊size⌋₊ % 2 ^ w

/-! ## Fragmentation -/

def Packet.updateSizes (packet : Packet) (now dOverhead : ℚ) : Packet :=
  let dPacketSize := dOverhead + packet.mac.dPayload
  { packet with
    mac := { packet.mac with
      dArrivalTime := now, dOverhead := dOverhead, dPacketSize := dPacketSize }
    phy := { packet.phy with
      dPayload := dPacketSize, dOverhead := 0, dPacketSize := 0 + dPacketSize } }

def Packet.setMacPayload (packet : Packet) (dPayload : ℚ) : Packet :=
  { packet with mac := { packet.mac with dPayload := dPayload } }

def Packet.setHeader (packet : Packet) (subheader : Option FragmentSubHeader) : Packet :=
  { packet with gmh := ⟨toBits 11 packet.mac.dPacketSize, subheader⟩ }

def wholePacket (now : ℚ) (packet : Packet) : Packet :=
  ((packet.setMacPayload packet.networkPacketSize).updateSizes now gmhSize).setHeader none

def firstFragment (now : ℚ) (nFragmentId : UInt32) (dSDUSize : ℚ) (nCount : Nat)
    (packet : Packet) : Packet :=
  { ((packet.setMacPayload dSDUSize).updateSizes now (gmhSize + fragmentSize)).setHeader
      (some ⟨.b10, 1, toBits 11 dSDUSize, nFragmentId⟩) with
    appPayload := packet.appPayload.map fun dPayload => dPayload / nCount }

/-- The loop of `fn_NetSim_CR_FragmentPacket`. The sizes of a fragment are set before its payload
is. -/
def fragmentLoop (now : ℚ) (nFragmentId : UInt32) (dSDUSize : ℚ) :
    Nat → ℚ → Nat → Packet → List Packet
  | 0, _, _, _ => []
  | nCount + 1, dSize, n, packet =>
    let FC := if dSize > dSDUSize then B2.b11 else B2.b01
    let dPayload := if dSize > dSDUSize then dSDUSize else dSize
    let fragment := ((packet.updateSizes now (gmhSize + fragmentSize)).setHeader
      (some ⟨FC, (n + 1) % 2 ^ 10, toBits 11 dSDUSize, nFragmentId⟩)).setMacPayload dPayload
    fragment :: fragmentLoop now nFragmentId dSDUSize nCount (dSize - dSDUSize) (n + 1) fragment

/-- `fn_NetSim_CR_FragmentPacket`, with `g_FragmentId` after it and the packet list. -/
def fragmentPacket (now : ℚ) (g_FragmentId : UInt32) (packet : Packet) (following : List Packet)
    (dSDUSize : ℚ) : UInt32 × List Packet :=
  let dSize := packet.networkPacketSize
  if dSize ≤ dSDUSize then (g_FragmentId, wholePacket now packet :: following)
  else
    let nFragmentId := g_FragmentId + 1
    let nCount := ⌈dSize / dSDUSize⌉₊
    let first := firstFragment now nFragmentId dSDUSize nCount packet
    (nFragmentId,
      first :: fragmentLoop now nFragmentId dSDUSize (nCount - 1) (dSize - dSDUSize) 1 first)

/-! ## Packing -/

/-- The sizes of a layer are added, and its time is that of the later packet. -/
def LayerData.add (stored data : LayerData) : LayerData :=
  { stored with
    dPacketSize := stored.dPacketSize + data.dPacketSize
    dPayload := stored.dPayload + data.dPayload
    dOverhead := stored.dOverhead + data.dOverhead
    dEndTime := data.dEndTime }

def Packet.add (stored packet : Packet) : Packet :=
  { stored with
    mac := stored.mac.add packet.mac
    phy := stored.phy.add packet.phy
    appPayload :=
      match stored.appPayload, packet.appPayload with
      | some dPayload, some dPayload' => some (dPayload + dPayload')
      | dPayload, _ => dPayload }

def Packet.isOf (nFragmentId : UInt32) (packet : Packet) : Bool :=
  packet.gmh.subheader.any fun header => header.nFragmentId == nFragmentId

/-- What packing leaves, and whether the header of a packet has been read after it was freed. -/
structure Packed where
  pstruFragmentPacketList : List Packet
  returned : Option Packet
  readsFreed : Bool
deriving DecidableEq

/-- The walk over the fragments. `frees`: a fragment is freed before its header is read for the last
time. -/
def packLoop (frees : Bool) (packet : Packet) (header : FragmentSubHeader) :
    List Packet → Packed
  | [] => ⟨[packet], none, false⟩
  | stored :: list =>
    if stored.isOf header.nFragmentId then
      if header.FC = .b01 then ⟨list, some (stored.add packet), frees⟩
      else ⟨stored.add packet :: list, none, frees⟩
    else
      let packed := packLoop frees packet header list
      { packed with pstruFragmentPacketList := stored :: packed.pstruFragmentPacketList }

def packPacket (frees : Bool) (pstruFragmentPacketList : List Packet) (packet : Packet) : Packed :=
  match packet.gmh.subheader with
  | none => ⟨pstruFragmentPacketList, some packet, false⟩
  | some header => packLoop frees packet header pstruFragmentPacketList

/-- `fn_NetSim_CR_BS_PackPacket`, which frees the fragment and then reads `FC` of its header. -/
def bsPackPacket : List Packet → Packet → Packed := packPacket true

/-- `fn_NetSim_CR_CPE_PackPacket`, which reads `FC` before it frees the fragment. -/
def cpePackPacket : List Packet → Packet → Packed := packPacket false

end NetSim.CognitiveRadio
