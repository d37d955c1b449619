import NetSim.Scheduling.Buffer
import NetSim.Wlan.Sender

/-!
# The queue of an access category

`fn_NetSim_IEEE802_11_MacInit` empties the access buffer into the queues of the access categories.
Interfaces are counted from one; `isInterfaceUsed` gets the number less one, unsigned.
-/

namespace NetSim.Wlan

open Lib Function
open Scheduling (Qos)

abbrev NetsimId := BitVec 32

/-- `IEEE802_11_BSS_TYPE`. -/
inductive BssType
  | infrastructure
  | independent
  | mesh
  | anyBss
deriving DecidableEq

/-- A packet on its way through the queue. `packetSize` is what `fnGetPacketSize` returns, in
bytes. -/
structure Msdu where
  nPacketId : ℕ
  nQOS : Option Qos
  packetSize : ℚ
  nonneg : 0 ≤ packetSize
  networkPacketSize : ℚ
  multicast : Bool
  broadcast : Bool
  destinations : List NetsimId
  szNextHopIp : ℕ
  nReceiverId : NetsimId
  nTransmitterId : NetsimId
  dPayload : ℚ
  dArrivalTime : ℚ
  dEventTime : ℚ
deriving DecidableEq

def Msdu.bits (packet : Msdu) : ℚ := packet.packetSize * 8

/-- `QOS_LIST`, from the head to the tail. -/
structure QosList where
  packets : List Msdu
  dMaximumSize : ℚ
  dCurrentSize : ℚ
deriving DecidableEq

/-- A device and the MACs of its interfaces. The searches through the stack are those of the network
stack's library. -/
structure AccessConfig where
  deviceId : NetsimId
  ifCount : NetsimId
  mediumAccessProtocol : NetsimId → MediumAccessProtocol
  bssType : NetsimId → BssType
  /-- The address of the interface is the `BSSId`. -/
  isAccessPoint : NetsimId → Bool
  nBSSId : NetsimId → NetsimId
  devIdsinBSS : NetsimId → List NetsimId
  parentInterfaceId : NetsimId → NetsimId
  MSDULifeTime : NetsimId → ℕ
  dMaxBufferSize : NetsimId → ℚ
  findVirtualInterface : ℕ → NetsimId
  getDeviceIdAsIP : ℕ → NetsimId

/-- The queues of the interfaces. -/
structure AccessQueues where
  qosList : NetsimId → QosList
  /-- What `fn_NetSim_IEEE802_11e_AddtoQueue` has appended, the oldest first. -/
  accepted : NetsimId → List Msdu
  /-- What `fn_NetSim_IEEE802_11e_GetPacketFromQueue` has returned, the oldest first. -/
  returned : NetsimId → List Msdu

def getAcFromQos : Option Qos → ℕ
  | some .ugs | some .rtPS => 3
  | some .nrtPS | some .ertPS => 2
  | some .be => 1
  | none => 1

/-- `TU`, in microseconds. -/
def timeUnit : ℚ := 1024

namespace AccessConfig

variable (cfg : AccessConfig)

def findVirtualMacInterface (nInterfaceId : NetsimId) (ac : ℕ) : NetsimId :=
  match cfg.mediumAccessProtocol nInterfaceId with
  | .dcf => nInterfaceId
  | .edcaf => cfg.findVirtualInterface ac

def isPacketforsameInfrastructureBSS (nInterfaceId : NetsimId) (packet : Msdu) : Bool :=
  if cfg.isAccessPoint nInterfaceId then
    (cfg.devIdsinBSS nInterfaceId).any (· ∈ packet.destinations)
  else true

/-- `fn_NetSim_802_11_InfrastructureBSS_UpdateReceiver`. -/
def infrastructureUpdateReceiver (nInterfaceId : NetsimId) (packet : Msdu) : Msdu :=
  if cfg.isAccessPoint nInterfaceId then
    { packet with
      nReceiverId :=
        if packet.multicast || packet.broadcast then 0 else packet.destinations.head?.getD 0
      nTransmitterId := cfg.deviceId }
  else
    { packet with nReceiverId := cfg.nBSSId nInterfaceId, nTransmitterId := cfg.deviceId }

def isPacketforsameMeshBSS (_packet : Msdu) : Bool := true

/-- `fn_NetSim_802_11_MeshBSS_UpdateReceiver`. -/
def meshUpdateReceiver (packet : Msdu) : Msdu :=
  if packet.broadcast then packet
  else if packet.multicast then packet
  else if packet.nReceiverId ≠ 0 then packet
  else { packet with nReceiverId := cfg.getDeviceIdAsIP packet.szNextHopIp }

def stamp (now : ℚ) (packet : Msdu) : Msdu :=
  { packet with dArrivalTime := now, dPayload := packet.networkPacketSize }

def Expired (nInterfaceId : NetsimId) (now : ℚ) (t : Msdu) : Prop :=
  cfg.mediumAccessProtocol nInterfaceId = .edcaf ∧
    t.dEventTime + cfg.MSDULifeTime nInterfaceId * timeUnit < now

instance (nInterfaceId : NetsimId) (now : ℚ) (t : Msdu) :
    Decidable (cfg.Expired nInterfaceId now t) :=
  inferInstanceAs (Decidable (_ ∧ _))

end AccessConfig

/-- What `fn_NetSim_IEEE802_11e_GetPacketFromQueue` leaves behind: the packets it returns,
`nPacketCount` and the list. -/
structure FromQueue where
  packets : List Msdu
  nPacketCount : BitVec 32
  list : List Msdu
  dCurrentSize : ℚ

/-- The loop of `fn_NetSim_IEEE802_11e_GetPacketFromQueue`: the `i--` for a freed packet goes below
zero. -/
def getPacketLoop (cfg : AccessConfig) (nInterfaceId : NetsimId) (now : ℚ)
    (nPacketRequire : BitVec 32) :
    List Msdu → (i nPacketCount : BitVec 32) → (dCurrentSize : ℚ) → FromQueue
  | [], _, nPacketCount, dCurrentSize => ⟨[], nPacketCount, [], dCurrentSize⟩
  | t :: list, i, nPacketCount, dCurrentSize =>
    if i < nPacketRequire then
      if cfg.Expired nInterfaceId now t then
        getPacketLoop cfg nInterfaceId now nPacketRequire list (i - 1 + 1) nPacketCount
          (dCurrentSize - t.bits)
      else
        let r := getPacketLoop cfg nInterfaceId now nPacketRequire list (i + 1) (nPacketCount + 1)
          (dCurrentSize - t.bits)
        { r with packets := t :: r.packets }
    else ⟨[], nPacketCount, t :: list, dCurrentSize⟩

/-- `fn_NetSim_IEEE802_11e_GetPacketFromQueue`, with `nPacketCount` as the caller left it. -/
def getPacketFromQueue (cfg : AccessConfig) (nInterfaceId : NetsimId) (now : ℚ)
    (nPacketRequire nPacketCount : BitVec 32) (qosList : QosList) : FromQueue :=
  if qosList.packets = [] then ⟨[], 0, [], qosList.dCurrentSize⟩
  else getPacketLoop cfg nInterfaceId now nPacketRequire qosList.packets 0 nPacketCount
    qosList.dCurrentSize

namespace AccessQueues

variable (cfg : AccessConfig)

def append (s : AccessQueues) (vin : NetsimId) (packet : Msdu) : AccessQueues :=
  { s with
    qosList := update s.qosList vin
      { s.qosList vin with
        packets := (s.qosList vin).packets ++ [packet]
        dCurrentSize := (s.qosList vin).dCurrentSize + packet.bits }
    accepted := update s.accepted vin (s.accepted vin ++ [packet]) }

/-- `fn_NetSim_IEEE802_11e_AddtoQueue`: a packet that is refused is freed, and the interface
returned is 0. -/
def addtoQueue (s : AccessQueues) (nInterfaceId : NetsimId) (now : ℚ) (packet : Msdu) :
    AccessQueues × NetsimId :=
  let vin := cfg.findVirtualMacInterface nInterfaceId (getAcFromQos packet.nQOS)
  let qosList := s.qosList vin
  if qosList.dMaximumSize ≠ 0 ∧ qosList.dCurrentSize + packet.bits > qosList.dMaximumSize then
    (s, 0)
  else (s.append vin { packet with dEventTime := now }, vin)

/-- The loop of `fn_NetSim_IEEE802_11_MacInit`, with the places where `isInterfaceUsed` is written.
-/
def macInitLoop (s : AccessQueues) (nInterfaceId : NetsimId) (now : ℚ) :
    List Msdu → AccessQueues × List NetsimId
  | [] => (s, [])
  | packet :: rest =>
    match cfg.bssType nInterfaceId with
    | .infrastructure =>
      if cfg.isPacketforsameInfrastructureBSS nInterfaceId packet then
        let packet := AccessConfig.stamp now (cfg.infrastructureUpdateReceiver nInterfaceId packet)
        let r := s.addtoQueue cfg nInterfaceId now packet
        let later := macInitLoop r.1 nInterfaceId now rest
        (later.1, (r.2 - 1) :: later.2)
      else macInitLoop s nInterfaceId now rest
    | .mesh =>
      if AccessConfig.isPacketforsameMeshBSS packet then
        let packet := AccessConfig.stamp now (cfg.meshUpdateReceiver packet)
        let r := s.addtoQueue cfg nInterfaceId now packet
        let later := macInitLoop r.1 nInterfaceId now rest
        (later.1, (r.2 - 1) :: later.2)
      else macInitLoop s nInterfaceId now rest
    | .independent => (s, [])
    | .anyBss => (s, [])

/-- `fn_NetSim_IEEE802_11_MacInit`. `processing` is set where `currentProcessingPacket` is. -/
def macInit (s : AccessQueues) (nInterfaceId : NetsimId) (now : ℚ) (processing : Bool)
    (buffer : List Msdu) : AccessQueues × List NetsimId :=
  let marks :=
    (if processing then [nInterfaceId - 1] else []) ++
      (if cfg.parentInterfaceId nInterfaceId ≠ nInterfaceId then [nInterfaceId - 1] else []) ++
      if (s.qosList nInterfaceId).packets ≠ [] then [nInterfaceId - 1] else []
  let r := s.macInitLoop cfg nInterfaceId now buffer
  (r.1, marks ++ r.2)

/-- The queue after `fn_NetSim_IEEE802_11e_GetPacketFromQueue`. -/
def take (s : AccessQueues) (nInterfaceId : NetsimId) (r : FromQueue) : AccessQueues :=
  { s with
    qosList := update s.qosList nInterfaceId
      { s.qosList nInterfaceId with packets := r.list, dCurrentSize := r.dCurrentSize }
    returned := update s.returned nInterfaceId (s.returned nInterfaceId ++ r.packets) }

end AccessQueues

/-- The calls. -/
inductive AccessCall
  | macInit (nInterfaceId : NetsimId) (processing : Bool) (buffer : List Msdu)
  | getPacket (nInterfaceId : NetsimId) (nPacketRequire nPacketCount : BitVec 32)
deriving DecidableEq

/-- The queues as `fn_NetSim_IEEE802_EDCA_Init` leaves them. -/
def AccessConfig.start (cfg : AccessConfig) : AccessQueues where
  qosList vin := ⟨[], cfg.dMaxBufferSize vin * 1024 * 1024, 0⟩
  accepted _ := []
  returned _ := []

def AccessQueues.step (cfg : AccessConfig) (s : AccessQueues) (x : ℚ × AccessCall) :
    Option AccessQueues :=
  match x.2 with
  | .macInit nInterfaceId processing buffer =>
    if 1 ≤ nInterfaceId ∧ nInterfaceId ≤ cfg.ifCount then
      some (s.macInit cfg nInterfaceId x.1 processing buffer).1
    else none
  | .getPacket nInterfaceId nPacketRequire nPacketCount =>
    if 1 ≤ nInterfaceId ∧ nInterfaceId ≤ cfg.ifCount then
      some (s.take nInterfaceId (getPacketFromQueue cfg nInterfaceId x.1 nPacketRequire nPacketCount
        (s.qosList nInterfaceId)))
    else none

/-- The size of a queue is that of its packets and within the maximum, and packets leave it in
order, all of them unless some expire. -/
structure AccessQueues.Right (cfg : AccessConfig) (s : AccessQueues) (vin : NetsimId) : Prop where
  size : (s.qosList vin).dCurrentSize = ((s.qosList vin).packets.map Msdu.bits).sum
  within : (s.qosList vin).dCurrentSize ≤ (s.qosList vin).dMaximumSize
  order : ∃ removed, s.accepted vin = removed ++ (s.qosList vin).packets ∧
    (s.returned vin).Sublist removed ∧
      (cfg.mediumAccessProtocol vin = .dcf → s.returned vin = removed)

/-- `isInterfaceUsed` is written for interfaces of the device; at most `nPacketRequire` packets are
returned, none of them expired. -/
def AccessQueues.StepRight (cfg : AccessConfig) (s : AccessQueues) (x : ℚ × AccessCall) : Prop :=
  match x.2 with
  | .macInit nInterfaceId processing buffer =>
    ∀ i ∈ (s.macInit cfg nInterfaceId x.1 processing buffer).2, i < cfg.ifCount
  | .getPacket nInterfaceId nPacketRequire nPacketCount =>
    let qosList := s.qosList nInterfaceId
    let r := getPacketFromQueue cfg nInterfaceId x.1 nPacketRequire nPacketCount qosList
    (∀ packet ∈ r.packets, ¬cfg.Expired nInterfaceId x.1 packet) ∧
      r.packets.length ≤ nPacketRequire.toNat ∧
        r.nPacketCount = (if qosList.packets = [] then 0 else nPacketCount) +
          BitVec.ofNat 32 r.packets.length

namespace AccessConfig

variable (cfg : AccessConfig)

/-- The packets of the access buffer that are for the BSS of an interface. -/
def offered (nInterfaceId : NetsimId) (buffer : List Msdu) : List Msdu :=
  match cfg.bssType nInterfaceId with
  | .infrastructure => buffer.filter (cfg.isPacketforsameInfrastructureBSS nInterfaceId)
  | .mesh => buffer.filter isPacketforsameMeshBSS
  | .independent => []
  | .anyBss => []

/-- The packets for the queue of `vin`. -/
def packetsFor (nInterfaceId vin : NetsimId) (packets : List Msdu) : List Msdu :=
  packets.filter fun packet =>
    cfg.findVirtualMacInterface nInterfaceId (getAcFromQos packet.nQOS) = vin

/-- There is room in every queue for all that is offered to it. -/
def Fits (s : AccessQueues) (x : ℚ × AccessCall) : Prop :=
  match x.2 with
  | .macInit nInterfaceId _ buffer =>
    ∀ vin, (s.qosList vin).dCurrentSize +
      ((cfg.packetsFor nInterfaceId vin (cfg.offered nInterfaceId buffer)).map Msdu.bits).sum ≤
        (s.qosList vin).dMaximumSize
  | .getPacket _ _ _ => True

end AccessConfig

namespace AccessQueues

variable {cfg : AccessConfig} {s s' : AccessQueues} {nInterfaceId vin : NetsimId} {now : ℚ}

def queueAll (cfg : AccessConfig) (s : AccessQueues) (nInterfaceId : NetsimId) (now : ℚ) :
    List Msdu → AccessQueues × List NetsimId
  | [] => (s, [])
  | packet :: rest =>
    let r := s.addtoQueue cfg nInterfaceId now packet
    let later := queueAll cfg r.1 nInterfaceId now rest
    (later.1, (r.2 - 1) :: later.2)

def prepared (cfg : AccessConfig) (nInterfaceId : NetsimId) (now : ℚ) (packet : Msdu) : Msdu :=
  AccessConfig.stamp now
    (match cfg.bssType nInterfaceId with
    | .infrastructure => cfg.infrastructureUpdateReceiver nInterfaceId packet
    | .mesh => cfg.meshUpdateReceiver packet
    | .independent => packet
    | .anyBss => packet)

theorem macInitLoop_eq (cfg : AccessConfig) (s : AccessQueues) (nInterfaceId : NetsimId) (now : ℚ)
    (buffer : List Msdu) :
    s.macInitLoop cfg nInterfaceId now buffer =
      s.queueAll cfg nInterfaceId now
        ((cfg.offered nInterfaceId buffer).map (prepared cfg nInterfaceId now)) := by
  induction buffer generalizing s with
  | nil =>
    cases h : cfg.bssType nInterfaceId <;>
      simp [macInitLoop, AccessConfig.offered, h, queueAll]
  | cons packet rest ih =>
    unfold macInitLoop
    cases h : cfg.bssType nInterfaceId with
    | infrastructure =>
      by_cases hfor : cfg.isPacketforsameInfrastructureBSS nInterfaceId packet = true
      · simp [hfor, ih, AccessConfig.offered, h, queueAll, prepared]
      · simp [hfor, ih, AccessConfig.offered, h]
    | mesh =>
      have hfor : AccessConfig.isPacketforsameMeshBSS packet = true := rfl
      simp [hfor, ih, AccessConfig.offered, h, queueAll, prepared]
    | independent => simp [AccessConfig.offered, h, queueAll]
    | anyBss => simp [AccessConfig.offered, h, queueAll]

theorem prepared_keeps (packet : Msdu) :
    (prepared cfg nInterfaceId now packet).bits = packet.bits ∧
      (prepared cfg nInterfaceId now packet).nQOS = packet.nQOS := by
  unfold prepared AccessConfig.stamp Msdu.bits
  cases cfg.bssType nInterfaceId with
  | infrastructure =>
    dsimp only
    unfold AccessConfig.infrastructureUpdateReceiver
    split <;> exact ⟨rfl, rfl⟩
  | mesh =>
    dsimp only
    unfold AccessConfig.meshUpdateReceiver
    repeat' split
    all_goals exact ⟨rfl, rfl⟩
  | independent => exact ⟨rfl, rfl⟩
  | anyBss => exact ⟨rfl, rfl⟩

@[simp]
theorem prepared_bits (packet : Msdu) : (prepared cfg nInterfaceId now packet).bits = packet.bits :=
  (prepared_keeps packet).1

@[simp]
theorem prepared_nQOS (packet : Msdu) : (prepared cfg nInterfaceId now packet).nQOS = packet.nQOS :=
  (prepared_keeps packet).2

/-- The packets queued at `vin` among those offered, as they are queued. -/
def queuedFor (cfg : AccessConfig) (nInterfaceId : NetsimId) (now : ℚ) (vin : NetsimId)
    (packets : List Msdu) : List Msdu :=
  (cfg.packetsFor nInterfaceId vin packets).map fun packet => { packet with dEventTime := now }

structure Appended (s s' : AccessQueues) (new : NetsimId → List Msdu) (vin : NetsimId) : Prop where
  packets : (s'.qosList vin).packets = (s.qosList vin).packets ++ new vin
  maximum : (s'.qosList vin).dMaximumSize = (s.qosList vin).dMaximumSize
  current : (s'.qosList vin).dCurrentSize =
    (s.qosList vin).dCurrentSize + ((new vin).map Msdu.bits).sum
  accepted : s'.accepted vin = s.accepted vin ++ new vin
  returned : s'.returned vin = s.returned vin

theorem sum_bits_nonneg (packets : List Msdu) : 0 ≤ (packets.map Msdu.bits).sum := by
  refine List.sum_nonneg fun x hx => ?_
  obtain ⟨packet, -, rfl⟩ := List.mem_map.1 hx
  have := packet.nonneg
  unfold Msdu.bits
  linarith

theorem sum_bits_queuedFor (packets : List Msdu) :
    ((queuedFor cfg nInterfaceId now vin packets).map Msdu.bits).sum =
      ((cfg.packetsFor nInterfaceId vin packets).map Msdu.bits).sum := by
  unfold queuedFor
  rw [List.map_map]
  rfl

theorem packetsFor_prepared (packets : List Msdu) :
    ((cfg.packetsFor nInterfaceId vin (packets.map (prepared cfg nInterfaceId now))).map
      Msdu.bits).sum = ((cfg.packetsFor nInterfaceId vin packets).map Msdu.bits).sum := by
  induction packets with
  | nil => rfl
  | cons packet rest ih =>
    unfold AccessConfig.packetsFor at ih ⊢
    by_cases h : cfg.findVirtualMacInterface nInterfaceId (getAcFromQos packet.nQOS) = vin
    · simp [h, ih]
    · simp [h, ih]

theorem sum_packetsFor_cons (packet : Msdu) (rest : List Msdu) :
    ((cfg.packetsFor nInterfaceId vin (packet :: rest)).map Msdu.bits).sum =
      ((cfg.packetsFor nInterfaceId vin [packet]).map Msdu.bits).sum +
        ((cfg.packetsFor nInterfaceId vin rest).map Msdu.bits).sum := by
  unfold AccessConfig.packetsFor
  rw [← List.sum_append, ← List.map_append, ← List.filter_append, List.singleton_append]

theorem appended_append (cfg : AccessConfig) (nInterfaceId : NetsimId) (now : ℚ)
    (s : AccessQueues) (packet : Msdu) (vin : NetsimId) :
    Appended s (s.append (cfg.findVirtualMacInterface nInterfaceId (getAcFromQos packet.nQOS))
      { packet with dEventTime := now })
      (fun vin => queuedFor cfg nInterfaceId now vin [packet]) vin := by
  unfold queuedFor AccessConfig.packetsFor append
  by_cases h : cfg.findVirtualMacInterface nInterfaceId (getAcFromQos packet.nQOS) = vin
  · subst h
    constructor <;> simp [Msdu.bits]
  · have hne : vin ≠ cfg.findVirtualMacInterface nInterfaceId (getAcFromQos packet.nQOS) :=
      Ne.symm h
    constructor <;> simp [h, update_of_ne hne]

theorem Appended.trans {s'' : AccessQueues} {new new' : NetsimId → List Msdu}
    (h : Appended s s' new vin) (h' : Appended s' s'' new' vin) :
    Appended s s'' (fun vin => new vin ++ new' vin) vin where
  packets := by rw [h'.packets, h.packets, List.append_assoc]
  maximum := h'.maximum.trans h.maximum
  current := by rw [h'.current, h.current, List.map_append, List.sum_append, add_assoc]
  accepted := by rw [h'.accepted, h.accepted, List.append_assoc]
  returned := h'.returned.trans h.returned

theorem queuedFor_cons (packet : Msdu) (rest : List Msdu) :
    queuedFor cfg nInterfaceId now vin (packet :: rest) =
      queuedFor cfg nInterfaceId now vin [packet] ++ queuedFor cfg nInterfaceId now vin rest := by
  unfold queuedFor AccessConfig.packetsFor
  rw [← List.map_append, ← List.filter_append, List.singleton_append]

theorem appended_of_writes {packets : List Msdu}
    (h : ∀ i ∈ (s.queueAll cfg nInterfaceId now packets).2, i < cfg.ifCount) (vin : NetsimId) :
    Appended s (s.queueAll cfg nInterfaceId now packets).1
      (fun vin => queuedFor cfg nInterfaceId now vin packets) vin := by
  induction packets generalizing s with
  | nil => constructor <;> simp [queueAll, queuedFor, AccessConfig.packetsFor]
  | cons packet rest ih =>
    unfold queueAll at h ⊢
    rw [List.forall_mem_cons] at h
    obtain ⟨hfirst, hrest⟩ := h
    unfold addtoQueue at hfirst hrest ⊢
    dsimp only at hfirst hrest ⊢
    split at hfirst
    · -- the interface returned for a refused packet is none of the device
      bv_omega
    · next hfits =>
      rw [if_neg hfits] at hrest ⊢
      have hlater := (appended_append cfg nInterfaceId now s packet vin).trans (ih hrest)
      simpa only [queuedFor_cons packet rest] using hlater

theorem writes_of_fits {packets : List Msdu}
    (hfind : ∀ qos, 1 ≤ cfg.findVirtualMacInterface nInterfaceId (getAcFromQos qos) ∧
      cfg.findVirtualMacInterface nInterfaceId (getAcFromQos qos) ≤ cfg.ifCount)
    (hfits : ∀ vin, (s.qosList vin).dCurrentSize +
      ((cfg.packetsFor nInterfaceId vin packets).map Msdu.bits).sum ≤
        (s.qosList vin).dMaximumSize) :
    ∀ i ∈ (s.queueAll cfg nInterfaceId now packets).2, i < cfg.ifCount := by
  induction packets generalizing s with
  | nil => intro i hi; cases hi
  | cons packet rest ih =>
    have hcons : ∀ vin, (s.qosList vin).dCurrentSize +
        (((cfg.packetsFor nInterfaceId vin [packet]).map Msdu.bits).sum +
          ((cfg.packetsFor nInterfaceId vin rest).map Msdu.bits).sum) ≤
            (s.qosList vin).dMaximumSize := by
      intro vin
      rw [← sum_packetsFor_cons]
      exact hfits vin
    set vin := cfg.findVirtualMacInterface nInterfaceId (getAcFromQos packet.nQOS) with hvin
    have hmine := hcons vin
    have hone : ((cfg.packetsFor nInterfaceId vin [packet]).map Msdu.bits).sum = packet.bits := by
      simp [AccessConfig.packetsFor, hvin]
    have hrest := sum_bits_nonneg (cfg.packetsFor nInterfaceId vin rest)
    have hroom : ¬((s.qosList vin).dMaximumSize ≠ 0 ∧
        (s.qosList vin).dCurrentSize + packet.bits > (s.qosList vin).dMaximumSize) :=
      fun h => absurd h.2 (not_lt.2 (by linarith))
    unfold queueAll addtoQueue
    rw [← hvin, if_neg hroom, List.forall_mem_cons]
    refine ⟨?_, ih fun other => ?_⟩
    · have := hfind packet.nQOS
      bv_omega
    · have happended := appended_append cfg nInterfaceId now s packet other
      rw [happended.current, happended.maximum, sum_bits_queuedFor, add_assoc]
      exact hcons other

theorem macInit_fst (processing : Bool) (buffer : List Msdu) :
    (s.macInit cfg nInterfaceId now processing buffer).1 =
      (s.queueAll cfg nInterfaceId now
        ((cfg.offered nInterfaceId buffer).map (prepared cfg nInterfaceId now))).1 := by
  unfold macInit
  rw [macInitLoop_eq]

theorem macInit_writes (hlow : 1 ≤ nInterfaceId) (hhigh : nInterfaceId ≤ cfg.ifCount)
    (processing : Bool) (buffer : List Msdu) :
    (∀ i ∈ (s.macInit cfg nInterfaceId now processing buffer).2, i < cfg.ifCount) ↔
      ∀ i ∈ (s.queueAll cfg nInterfaceId now
        ((cfg.offered nInterfaceId buffer).map (prepared cfg nInterfaceId now))).2,
          i < cfg.ifCount := by
  have hself : nInterfaceId - 1 < cfg.ifCount := by bv_omega
  unfold macInit
  rw [macInitLoop_eq]
  simp only [List.forall_mem_append]
  refine ⟨fun h => h.2, fun h => ⟨⟨⟨?_, ?_⟩, ?_⟩, h⟩⟩
  all_goals
    intro i hi
    split at hi
    · rw [List.mem_singleton.1 hi]
      exact hself
    · cases hi

theorem Appended.right {new : NetsimId → List Msdu} (h : Appended s s' new vin)
    (hright : s.Right cfg vin)
    (hroom : (s.qosList vin).dCurrentSize + ((new vin).map Msdu.bits).sum ≤
      (s.qosList vin).dMaximumSize) : s'.Right cfg vin where
  size := by
    rw [h.current, h.packets, hright.size, List.map_append, List.sum_append]
  within := by
    rw [h.current, h.maximum]
    exact hroom
  order := by
    obtain ⟨removed, haccepted, hsub, hdcf⟩ := hright.order
    refine ⟨removed, ?_, ?_, ?_⟩
    · rw [h.accepted, h.packets, haccepted, List.append_assoc]
    · rw [h.returned]
      exact hsub
    · rw [h.returned]
      exact hdcf

theorem getPacketLoop_spec {nPacketRequire : BitVec 32} {i : BitVec 32} (hi : i ≤ nPacketRequire)
    (list : List Msdu) (nPacketCount : BitVec 32) (dCurrentSize : ℚ) :
    let r := getPacketLoop cfg nInterfaceId now nPacketRequire list i nPacketCount dCurrentSize
    ∃ removed, list = removed ++ r.list ∧
      r.packets = removed.filter (fun t => ¬cfg.Expired nInterfaceId now t) ∧
      r.dCurrentSize = dCurrentSize - (removed.map Msdu.bits).sum ∧
      r.nPacketCount = nPacketCount + BitVec.ofNat 32 r.packets.length ∧
      i.toNat + r.packets.length ≤ nPacketRequire.toNat := by
  induction list generalizing i nPacketCount dCurrentSize with
  | nil => exact ⟨[], rfl, rfl, by simp [getPacketLoop], by simp [getPacketLoop],
      by simpa [getPacketLoop] using BitVec.le_def.1 hi⟩
  | cons t list ih =>
    unfold getPacketLoop
    by_cases hmore : i < nPacketRequire
    · rw [if_pos hmore]
      by_cases hexpired : cfg.Expired nInterfaceId now t
      · rw [if_pos hexpired, BitVec.sub_add_cancel]
        obtain ⟨removed, hlist, hpackets, hsize, hcount, hlength⟩ :=
          ih hi nPacketCount (dCurrentSize - t.bits)
        refine ⟨t :: removed, by rw [List.cons_append, ← hlist], ?_, ?_, hcount, hlength⟩
        · rw [hpackets, List.filter_cons_of_neg (by simpa using hexpired)]
        · rw [hsize, List.map_cons, List.sum_cons, sub_sub]
      · rw [if_neg hexpired]
        obtain ⟨removed, hlist, hpackets, hsize, hcount, hlength⟩ :=
          ih (i := i + 1) (by bv_omega) (nPacketCount + 1) (dCurrentSize - t.bits)
        refine ⟨t :: removed, by rw [List.cons_append, ← hlist], ?_, ?_, ?_, ?_⟩
        · rw [List.filter_cons_of_pos (by simpa using hexpired), ← hpackets]
        · rw [List.map_cons, List.sum_cons, ← sub_sub]
          exact hsize
        · rw [hcount, List.length_cons]
          bv_omega
        · rw [List.length_cons]
          bv_omega
    · rw [if_neg hmore]
      exact ⟨[], rfl, rfl, by simp, by simp, by simpa using BitVec.le_def.1 hi⟩

theorem getPacketFromQueue_spec (cfg : AccessConfig) (nInterfaceId : NetsimId) (now : ℚ)
    (nPacketRequire nPacketCount : BitVec 32) (qosList : QosList) :
    let r := getPacketFromQueue cfg nInterfaceId now nPacketRequire nPacketCount qosList
    ∃ removed, qosList.packets = removed ++ r.list ∧
      r.packets = removed.filter (fun t => ¬cfg.Expired nInterfaceId now t) ∧
      r.dCurrentSize = qosList.dCurrentSize - (removed.map Msdu.bits).sum ∧
      r.nPacketCount = (if qosList.packets = [] then 0 else nPacketCount) +
        BitVec.ofNat 32 r.packets.length ∧
      r.packets.length ≤ nPacketRequire.toNat := by
  unfold getPacketFromQueue
  by_cases hempty : qosList.packets = []
  · rw [if_pos hempty, if_pos hempty]
    exact ⟨[], hempty, rfl, by simp, by simp, Nat.zero_le _⟩
  · rw [if_neg hempty, if_neg hempty]
    obtain ⟨removed, hlist, hpackets, hsize, hcount, hlength⟩ :=
      getPacketLoop_spec (i := 0) (by bv_omega) qosList.packets nPacketCount
        qosList.dCurrentSize
    exact ⟨removed, hlist, hpackets, hsize, hcount, by omega⟩

theorem Right.take (h : ∀ vin, s.Right cfg vin) (nPacketRequire nPacketCount : BitVec 32) :
    (s.take nInterfaceId (getPacketFromQueue cfg nInterfaceId now nPacketRequire nPacketCount
      (s.qosList nInterfaceId))).Right cfg vin := by
  unfold AccessQueues.take
  by_cases hvin : vin = nInterfaceId
  · subst hvin
    obtain ⟨removed, hlist, hpackets, hsize, -⟩ :=
      getPacketFromQueue_spec cfg vin now nPacketRequire nPacketCount (s.qosList vin)
    obtain ⟨before, haccepted, hsub, hdcf⟩ := (h vin).order
    have hcurrent := (h vin).size
    have hremoved := sum_bits_nonneg removed
    rw [hlist, List.map_append, List.sum_append] at hcurrent
    refine ⟨?_, ?_, before ++ removed, ?_, ?_, ?_⟩
    · simp only [update_self]
      rw [hsize, hcurrent, add_sub_cancel_left]
    · simp only [update_self]
      have hwithin := (h vin).within
      linarith
    · simp only [update_self]
      rw [haccepted, hlist, List.append_assoc]
    · simp only [update_self]
      rw [hpackets]
      exact hsub.append List.filter_sublist
    · intro hprotocol
      have hnone : ∀ t ∈ removed, decide (¬cfg.Expired vin now t) = true := by
        intro t _
        refine decide_eq_true fun hexpired => ?_
        unfold AccessConfig.Expired at hexpired
        rw [hprotocol] at hexpired
        cases hexpired.1
      simp only [update_self]
      rw [hpackets, hdcf hprotocol, List.filter_eq_self.2 hnone]
  · constructor
    · simpa only [update_of_ne hvin] using (h vin).size
    · simpa only [update_of_ne hvin] using (h vin).within
    · simpa only [update_of_ne hvin] using (h vin).order

theorem findVirtualMacInterface_mem (hlow : 1 ≤ nInterfaceId) (hhigh : nInterfaceId ≤ cfg.ifCount)
    (hfind : ∀ ac, 1 ≤ ac → ac ≤ 3 →
      1 ≤ cfg.findVirtualInterface ac ∧ cfg.findVirtualInterface ac ≤ cfg.ifCount)
    (qos : Option Qos) :
    1 ≤ cfg.findVirtualMacInterface nInterfaceId (getAcFromQos qos) ∧
      cfg.findVirtualMacInterface nInterfaceId (getAcFromQos qos) ≤ cfg.ifCount := by
  unfold AccessConfig.findVirtualMacInterface
  cases cfg.mediumAccessProtocol nInterfaceId with
  | dcf => exact ⟨hlow, hhigh⟩
  | edcaf =>
    refine hfind _ ?_ ?_
    all_goals
      unfold getAcFromQos
      split <;> decide

theorem step_macInit (now : ℚ) (h : 1 ≤ nInterfaceId ∧ nInterfaceId ≤ cfg.ifCount)
    (processing : Bool) (buffer : List Msdu) :
    s.step cfg (now, .macInit nInterfaceId processing buffer) =
      some (s.macInit cfg nInterfaceId now processing buffer).1 :=
  if_pos h

theorem step_getPacket (now : ℚ) (h : 1 ≤ nInterfaceId ∧ nInterfaceId ≤ cfg.ifCount)
    (nPacketRequire nPacketCount : BitVec 32) :
    s.step cfg (now, .getPacket nInterfaceId nPacketRequire nPacketCount) =
      some (s.take nInterfaceId (getPacketFromQueue cfg nInterfaceId now nPacketRequire nPacketCount
        (s.qosList nInterfaceId))) :=
  if_pos h

theorem step_right_iff {x : ℚ × AccessCall}
    (hfind : ∀ ac, 1 ≤ ac → ac ≤ 3 →
      1 ≤ cfg.findVirtualInterface ac ∧ cfg.findVirtualInterface ac ≤ cfg.ifCount)
    (h : ∀ vin, s.Right cfg vin) (hstep : s.step cfg x = some s') :
    (s.StepRight cfg x ∧ ∀ vin, s'.Right cfg vin) ↔ cfg.Fits s x := by
  obtain ⟨now, call⟩ := x
  unfold StepRight AccessConfig.Fits
  cases call with
  | macInit nInterfaceId processing buffer =>
    dsimp only at hstep ⊢
    obtain ⟨⟨hlow, hhigh⟩, hs'⟩ := Option.ite_none_right_eq_some.1 hstep
    cases hs'
    rw [macInit_writes hlow hhigh, macInit_fst]
    set packets := (cfg.offered nInterfaceId buffer).map (prepared cfg nInterfaceId now)
    have hsum : ∀ vin, ((cfg.packetsFor nInterfaceId vin (cfg.offered nInterfaceId buffer)).map
        Msdu.bits).sum = ((cfg.packetsFor nInterfaceId vin packets).map Msdu.bits).sum :=
      fun vin => (packetsFor_prepared (cfg.offered nInterfaceId buffer)).symm
    simp only [hsum]
    constructor
    · rintro ⟨hwrites, hright⟩ vin
      have happended := appended_of_writes hwrites vin
      have hwithin := (hright vin).within
      rwa [happended.current, happended.maximum, sum_bits_queuedFor] at hwithin
    · intro hfits
      have hwrites : ∀ i ∈ (s.queueAll cfg nInterfaceId now packets).2, i < cfg.ifCount :=
        writes_of_fits (findVirtualMacInterface_mem hlow hhigh hfind) hfits
      refine ⟨hwrites, fun vin => (appended_of_writes hwrites vin).right (h vin) ?_⟩
      rw [sum_bits_queuedFor]
      exact hfits vin
  | getPacket nInterfaceId nPacketRequire nPacketCount =>
    obtain ⟨-, hs'⟩ := Option.ite_none_right_eq_some.1 hstep
    cases hs'
    refine iff_of_true ⟨⟨?_, ?_, ?_⟩, fun vin => Right.take h nPacketRequire nPacketCount⟩ trivial
    all_goals
      obtain ⟨removed, -, hpackets, -, hcount, hlength⟩ := getPacketFromQueue_spec cfg nInterfaceId
        now nPacketRequire nPacketCount (s.qosList nInterfaceId)
    · intro packet hpacket
      rw [hpackets] at hpacket
      exact of_decide_eq_true (List.mem_filter.1 hpacket).2
    · exact hlength
    · exact hcount

theorem start_right (hmax : ∀ vin, 0 ≤ cfg.dMaxBufferSize vin) : cfg.start.Right cfg vin where
  size := rfl
  within := by
    have := hmax vin
    unfold AccessConfig.start
    linarith
  order := ⟨[], rfl, .refl _, fun _ => rfl⟩

/-- All calls of a run are right and leave the queues right, exactly where what they offer always
fits. -/
theorem accessQueue_right_iff (hmax : ∀ vin, 0 ≤ cfg.dMaxBufferSize vin)
    (hfind : ∀ ac, 1 ≤ ac → ac ≤ 3 →
      1 ≤ cfg.findVirtualInterface ac ∧ cfg.findVirtualInterface ac ≤ cfg.ifCount)
    {tr : List (AccessQueues × (ℚ × AccessCall))} (run : Run (step cfg) cfg.start tr s) :
    ((∀ x ∈ tr, x.1.StepRight cfg x.2 ∧ ∀ vin, x.1.Right cfg vin) ∧ ∀ vin, s.Right cfg vin) ↔
      ∀ x ∈ tr, cfg.Fits x.1 x.2 := by
  induction run with
  | nil => exact iff_of_true ⟨nofun, fun vin => start_right hmax⟩ nofun
  | snoc run hstep ih =>
    rw [List.forall_mem_cons, List.forall_mem_cons, ← ih]
    constructor
    · rintro ⟨⟨⟨hcall, hright⟩, hearlier⟩, hright'⟩
      exact ⟨(step_right_iff hfind hright hstep).1 ⟨hcall, hright'⟩, hearlier, hright⟩
    · rintro ⟨hfits, hearlier, hright⟩
      obtain ⟨hcall, hright'⟩ := (step_right_iff hfind hright hstep).2 hfits
      exact ⟨⟨⟨hcall, hright⟩, hearlier⟩, hright'⟩

end AccessQueues

/-- A device of two interfaces. The second is that of all access categories. -/
def exampleAccess (mediumAccessProtocol : MediumAccessProtocol) : AccessConfig where
  deviceId := 1
  ifCount := 2
  mediumAccessProtocol _ := mediumAccessProtocol
  bssType _ := .mesh
  isAccessPoint _ := false
  nBSSId _ := 2
  devIdsinBSS _ := []
  parentInterfaceId _ := 1
  MSDULifeTime _ := 100
  dMaxBufferSize _ := 1
  findVirtualInterface _ := 2
  getDeviceIdAsIP _ := 2

def exampleMsdu (nPacketId : ℕ) : Msdu :=
  ⟨nPacketId, some .be, 70000, by decide, 70000, false, false, [2], 2, 0, 0, 0, 0, 0⟩

theorem exampleAccess_fits (nPacketId : ℕ) (now : ℚ) :
    (exampleAccess .edcaf).Fits (exampleAccess .edcaf).start
      (now, .macInit 1 false [exampleMsdu nPacketId]) := by
  intro vin
  by_cases h : (2 : NetsimId) = vin
  · subst h
    norm_num [AccessConfig.start, AccessConfig.packetsFor, AccessConfig.offered, exampleAccess,
      exampleMsdu, AccessConfig.isPacketforsameMeshBSS, AccessConfig.findVirtualMacInterface,
      Msdu.bits]
  · norm_num [AccessConfig.start, AccessConfig.packetsFor, AccessConfig.offered, exampleAccess,
      exampleMsdu, AccessConfig.isPacketforsameMeshBSS, AccessConfig.findVirtualMacInterface, h]

/-- One packet is queued, and taken while it is alive. -/
theorem accessQueue_right_one :
    ∃ tr s, Run (AccessQueues.step (exampleAccess .edcaf)) (exampleAccess .edcaf).start tr s ∧
      tr.length = 2 ∧ (s.returned 2).length = 1 ∧
      ((∀ x ∈ tr, x.1.StepRight (exampleAccess .edcaf) x.2 ∧
        ∀ vin, x.1.Right (exampleAccess .edcaf) vin) ∧
          ∀ vin, s.Right (exampleAccess .edcaf) vin) := by
  have run : Run (AccessQueues.step (exampleAccess .edcaf)) (exampleAccess .edcaf).start _ _ :=
    (Run.nil.snoc (AccessQueues.step_macInit 0
      (by decide : 1 ≤ (1 : NetsimId) ∧ 1 ≤ (2 : NetsimId)) false [exampleMsdu 1])).snoc
        (AccessQueues.step_getPacket 5 (by decide : 1 ≤ (2 : NetsimId) ∧ 2 ≤ (2 : NetsimId)) 1 0)
  refine ⟨_, _, run, rfl, by decide +kernel, ?_⟩
  refine (AccessQueues.accessQueue_right_iff (fun _ => zero_le_one)
    (fun ac _ _ => (by decide : (1 : NetsimId) ≤ 2 ∧ (2 : NetsimId) ≤ 2)) run).2 ?_
  rw [List.forall_mem_cons, List.forall_mem_singleton]
  exact ⟨trivial, exampleAccess_fits 1 0⟩

/-- A packet that does not fit is refused, and the mark for it is set outside. -/
theorem not_accessQueue_right :
    ¬∀ (cfg : AccessConfig) (tr : List (AccessQueues × (ℚ × AccessCall))) (s : AccessQueues),
      (∀ vin, 0 ≤ cfg.dMaxBufferSize vin) →
      (∀ ac, 1 ≤ ac → ac ≤ 3 →
        1 ≤ cfg.findVirtualInterface ac ∧ cfg.findVirtualInterface ac ≤ cfg.ifCount) →
      Run (AccessQueues.step cfg) cfg.start tr s →
      (∀ x ∈ tr, x.1.StepRight cfg x.2 ∧ ∀ vin, x.1.Right cfg vin) ∧ ∀ vin, s.Right cfg vin := by
  intro h
  have run : Run (AccessQueues.step (exampleAccess .dcf)) (exampleAccess .dcf).start _ _ :=
    Run.nil.snoc (AccessQueues.step_macInit 0
      (by decide : 1 ≤ (1 : NetsimId) ∧ 1 ≤ (2 : NetsimId)) false [exampleMsdu 1, exampleMsdu 2])
  have hright := (h _ _ _ (fun _ => zero_le_one)
    (fun ac _ _ => (by decide : (1 : NetsimId) ≤ 2 ∧ (2 : NetsimId) ≤ 2)) run).1 _
      (List.mem_singleton_self _)
  have hwrites := hright.1 (0 - 1) (by decide +kernel)
  exact absurd hwrites (by decide)

end NetSim.Wlan
