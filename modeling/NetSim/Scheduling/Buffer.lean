import Mathlib

/-!
# The buffer of an interface (`Scheduling.c`)

A `double` is a rational number, `pow` that of the C library, and `last` the end of the packet list.
`now` is the time of the event and `random` the value of `NETSIM_RAND_01`. Assertions are compiled
out.
-/

namespace NetSim.Scheduling

/-- `enum_PacketPriority`; a control packet has none. -/
inductive Priority
  | low | normal | medium | high
deriving DecidableEq

def Priority.toNat : Priority → Nat
  | low => 2
  | normal => 4
  | medium => 6
  | high => 8

/-- `enum_Packet_QOS`. -/
inductive Qos
  | ugs | rtPS | ertPS | nrtPS | be
deriving DecidableEq

/-- What the buffer reads of a packet: the sizes of its network and MAC data, where the former may
be missing. -/
structure Packet where
  networkPacketSize : Option Nat
  macPacketSize : Nat
  nPacketPriority : Option Priority
  nQOS : Option Qos
  dEventTime : ℚ
deriving DecidableEq

def Packet.dataSize (packet : Packet) : Nat := packet.networkPacketSize.getD packet.macPacketSize

def Packet.priority (packet : Packet) : Nat := (packet.nPacketPriority.map Priority.toNat).getD 0

structure RedClass where
  min_th : ℚ
  max_th : ℚ
  max_p : ℚ
  count : Int
  random_value : ℚ

/-- `QUEUING_RED_VAR` and `QUEUING_WRED_VAR`, with one class or one for each priority. -/
structure RedVar (Classes : Type) where
  classes : Classes
  avg_queue_size : ℚ
  wq : ℚ
  q_time : ℚ

/-- `QUEUINGTECHNIQUE` with `queuingParam`. -/
inductive Queuing
  | null
  | dropTail
  | red (queuing_var : RedVar RedClass)
  | wred (queuing_var : RedVar (Priority → RedClass))

/-- `SCHEDULING_TYPE` with `schedulingParam`, the maximum latency of each class in milliseconds. -/
inductive SchedulingType
  | none
  | fifo
  | priority
  | roundRobin
  | wfq
  | edf (max_latency : Qos → ℚ)
  | classBased

def SchedulingType.hasHeads : SchedulingType → Bool
  | .roundRobin | .wfq => true
  | _ => false

structure Head where
  nPacketId : Int
  packets : List Packet
deriving DecidableEq

/-- The five heads that round robin and weighted fair queuing allocate; of the first one only
`nPacketPriority` is used. -/
structure Heads where
  nPacketPriority : Option Priority
  low : Head
  normal : Head
  medium : Head
  high : Head
deriving DecidableEq

/-- `enum_BUFFER`. -/
inductive Status
  | underflow | overflow
deriving DecidableEq

/-- A `NetSim_BUFFER`. `isNegative` tells whether the error "Buffer size is negative" has been
reported. -/
structure Buffer where
  dMaxBufferSize : ℚ
  dCurrentBufferSize : Int
  nSchedulingType : SchedulingType
  queuingTechnique : Queuing
  nQueuedPacket : UInt32
  nDequeuedPacket : UInt32
  nDroppedPacket : UInt32
  pstruPacketlist : List Packet
  heads : Option Heads
  isNegative : Bool

/-! ## The lists of the priorities -/

/-- `fnGetList`. -/
def Heads.getList (heads : Heads) : Priority → Head
  | .low => heads.low
  | .normal => heads.normal
  | .medium => heads.medium
  | .high => heads.high

def Heads.setList (heads : Heads) (head : Head) : Priority → Heads
  | .low => { heads with low := head }
  | .normal => { heads with normal := head }
  | .medium => { heads with medium := head }
  | .high => { heads with high := head }

/-- `fnpAllocateMemory` for the heads. -/
def Heads.allocate : Heads := ⟨none, ⟨0, []⟩, ⟨0, []⟩, ⟨0, []⟩, ⟨0, []⟩⟩

def Heads.packets (heads : Heads) : List Packet :=
  heads.low.packets ++ heads.normal.packets ++ heads.medium.packets ++ heads.high.packets

namespace Buffer

def packets (b : Buffer) : List Packet :=
  if b.nSchedulingType.hasHeads then (b.heads.map Heads.packets).getD [] else b.pstruPacketlist

/-- `pstruPacketlist` is not null. -/
def hasPacketlist (b : Buffer) : Bool :=
  if b.nSchedulingType.hasHeads then b.heads.isSome else !b.pstruPacketlist.isEmpty

/-! ## Queuing -/

/-- The conversion to `int`. -/
def toInt (x : Int) : Int := x.bmod (2 ^ 32)

def chainSize (data : Packet) (rest : List Packet) : Int := (rest.length + 1) * data.dataSize

def maximumBufferSize (b : Buffer) : ℚ := b.dMaxBufferSize * 1024 * 1024

def setMaximum (b : Buffer) : Buffer :=
  if b.dMaxBufferSize = 0 then { b with dMaxBufferSize := 2 ^ 64 } else b

def checkBuffer (b : Buffer) (data : Packet) (rest : List Packet) : Buffer × Status :=
  let b := b.setMaximum
  let ldCurrentBufferSize := b.dCurrentBufferSize + chainSize data rest
  if (ldCurrentBufferSize : ℚ) ≤ b.maximumBufferSize then
    ({ b with dCurrentBufferSize := toInt ldCurrentBufferSize }, .underflow)
  else (b, .overflow)

def dropTail (b : Buffer) (data : Packet) (rest : List Packet) : Buffer × Status :=
  b.checkBuffer data rest

def addCurrentSizeBuffer (b : Buffer) (data : Packet) (rest : List Packet) : Buffer :=
  { b with dCurrentBufferSize := toInt (b.dCurrentBufferSize + chainSize data rest) }

/-- `reduce_current_size_buffer`, and the same steps of `fn_NetSim_GetPacketFromBuffer`. -/
def reduceCurrentSizeBuffer (b : Buffer) (data : Packet) : Buffer :=
  let dCurrentBufferSize := b.dCurrentBufferSize - toInt data.dataSize
  if dCurrentBufferSize < 0 then { b with dCurrentBufferSize := 0, isNegative := true }
  else { b with dCurrentBufferSize := dCurrentBufferSize }

end Buffer

/-- `red_algorithm` and `wred_algorithm`. By a zero `pb` the quotient is infinite or no number. -/
def redAlgorithm (avg_queue_size random : ℚ) (c : RedClass) : RedClass × Status :=
  if c.min_th ≤ avg_queue_size ∧ avg_queue_size < c.max_th then
    let count := c.count + 1
    let pb := c.max_p * (avg_queue_size - c.min_th) / (c.max_th - c.min_th)
    if count > 0 ∧ pb ≠ 0 ∧ count > c.random_value / pb then
      ({ c with count := 0, random_value := random }, .overflow)
    else ({ c with count := count }, .underflow)
  else if c.max_th ≤ avg_queue_size then ({ c with count := -1 }, .overflow)
  else ({ c with count := -1 }, .underflow)

/-- The new `avg_queue_size`. -/
def RedVar.averageQueueSize {Classes : Type} (queuing_var : RedVar Classes) (pow : ℚ → ℚ → ℚ)
    (now : ℚ) (dCurrentBufferSize : Int) : ℚ :=
  let sizeInMB : ℚ := dCurrentBufferSize / 1048576
  if sizeInMB = 0 then
    pow (1 - queuing_var.wq) (now - queuing_var.q_time) * queuing_var.avg_queue_size
  else
    queuing_var.avg_queue_size + queuing_var.wq * (sizeInMB - queuing_var.avg_queue_size)

namespace Buffer

variable (pow : ℚ → ℚ → ℚ) (now random : ℚ)

/-- The end of `fn_NetSim_RED` and `fn_NetSim_WRED`. -/
def addUnlessDropped (b : Buffer) (queuingTechnique : Queuing) (status : Status) (data : Packet)
    (rest : List Packet) : Buffer × Status :=
  let b := { b with queuingTechnique := queuingTechnique }
  (if status = .underflow then b.addCurrentSizeBuffer data rest else b, status)

/-- `fn_NetSim_RED`. -/
def red (b : Buffer) (queuing_var : RedVar RedClass) (data : Packet) (rest : List Packet) :
    Buffer × Status :=
  match b.checkBuffer data rest with
  | (b, .overflow) => (b, .overflow)
  | (b, .underflow) =>
    let b := b.reduceCurrentSizeBuffer data
    let avg_queue_size := queuing_var.averageQueueSize pow now b.dCurrentBufferSize
    let (c, status) := redAlgorithm avg_queue_size random queuing_var.classes
    b.addUnlessDropped (.red { queuing_var with classes := c, avg_queue_size := avg_queue_size })
      status data rest

/-- `fn_NetSim_WRED`. A control packet is always queued. -/
def wred (b : Buffer) (queuing_var : RedVar (Priority → RedClass)) (data : Packet)
    (rest : List Packet) : Buffer × Status :=
  match b.checkBuffer data rest with
  | (b, .overflow) => (b, .overflow)
  | (b, .underflow) =>
    let b := b.reduceCurrentSizeBuffer data
    let avg_queue_size := queuing_var.averageQueueSize pow now b.dCurrentBufferSize
    match data.nPacketPriority with
    | none =>
      b.addUnlessDropped (.wred { queuing_var with avg_queue_size := avg_queue_size }) .underflow
        data rest
    | some priority =>
      let (c, status) := redAlgorithm avg_queue_size random (queuing_var.classes priority)
      let classes := fun p => if p = priority then c else queuing_var.classes p
      b.addUnlessDropped
        (.wred { queuing_var with classes := classes, avg_queue_size := avg_queue_size })
        status data rest

/-- `fn_NetSim_Queuing`. -/
def queuing (b : Buffer) (data : Packet) (rest : List Packet) : Buffer × Status :=
  match b.queuingTechnique with
  | .red queuing_var => b.red pow now random queuing_var data rest
  | .wred queuing_var => b.wred pow now random queuing_var data rest
  | _ => b.dropTail data rest

/-! ## Adding to the packet list -/

/-- `fn_NetSim_Priority` with `ADD`: before the first packet of a lower priority, which then follows
instead of the chain, or at the end. -/
def insertByPriority (data : Packet) (rest : List Packet) : List Packet → List Packet
  | [] => data :: rest
  | p :: list =>
    if p.priority < data.priority then data :: p :: list
    else p :: insertByPriority data rest list

/-- `fn_NetSim_RoundRobin` with `ADD`. -/
def addRoundRobin (heads : Option Heads) (data : Packet) (rest : List Packet) : Heads :=
  let heads := heads.getD Heads.allocate
  let priority := data.nPacketPriority.getD .low
  let head := heads.getList priority
  heads.setList { head with packets := head.packets ++ data :: rest } priority

/-- `fn_NetSim_WFQ` with `ADD`. -/
def addWFQ (heads : Option Heads) (data : Packet) (rest : List Packet) : Heads :=
  let heads := heads.getD Heads.allocate
  let priority := data.nPacketPriority.getD .low
  let head := heads.getList priority
  heads.setList ⟨head.nPacketId + 1, head.packets ++ data :: rest⟩ priority

/-- The switch of `fn_NetSim_Packet_AddPacketToBuffer`. -/
def addToList (b : Buffer) (data : Packet) (rest : List Packet) : Buffer :=
  match b.nSchedulingType with
  | .priority => { b with pstruPacketlist := insertByPriority data rest b.pstruPacketlist }
  | .roundRobin => { b with heads := some (addRoundRobin b.heads data rest) }
  | .wfq => { b with heads := some (addWFQ b.heads data rest) }
  | _ => { b with pstruPacketlist := b.pstruPacketlist ++ data :: rest }

def addPacketToBuffer (b : Buffer) (data : Packet) (rest : List Packet) : Buffer :=
  match b.queuing pow now random data rest with
  | (b, .underflow) => { b with nQueuedPacket := b.nQueuedPacket + 1 }.addToList data rest
  | (b, .overflow) => { b with nDroppedPacket := b.nDroppedPacket + 1 }

/-! ## Taking from the packet list -/

/-- `fn_NetSim_Priority` and `fn_NetSim_FIFO` with `GET`. -/
def getFirst (b : Buffer) (nFlag : Bool) : Buffer × Option Packet :=
  match b.pstruPacketlist with
  | [] => (b, none)
  | packet :: list => (if nFlag then { b with pstruPacketlist := list } else b, some packet)

def nextPriority : Option Priority → Priority
  | none => .high
  | some .low => .high
  | some .normal => .low
  | some .medium => .normal
  | some .high => .medium

/-- `fn_NetSim_RoundRobin` with `GET`. Its priority is restored if the packet stays. -/
def getRoundRobin (nFlag : Bool) (nPacketPriority : Option Priority) :
    Nat → Heads → Heads × Option Packet
  | 0, heads => (heads, none)
  | tries + 1, heads =>
    let priority := nextPriority heads.nPacketPriority
    let heads := { heads with nPacketPriority := some priority }
    match (heads.getList priority).packets with
    | [] => getRoundRobin nFlag nPacketPriority tries heads
    | packet :: list =>
      (if nFlag then heads.setList { heads.getList priority with packets := list } priority
        else { heads with nPacketPriority := nPacketPriority }, some packet)

/-- The conversion of a `long long` to `UINT64`. -/
def toUInt64 (x : Int) : Int := if x < 0 then x + 2 ^ 64 else x

/-- An element of `nCount`. -/
def nCount (heads : Heads) (priority : Priority) : Int :=
  toUInt64 ((heads.getList priority).nPacketId * (priority.toNat / 2 : Nat))

def positionMaximumNumber (nCount : Priority → Int) : Priority :=
  [.normal, .medium, .high].foldl (fun m p => if nCount p ≥ nCount m then p else m) .low

/-- `fn_NetSim_WFQ` with `GET`. -/
def getWFQ (nFlag : Bool) (heads : Heads) : Heads × Option Packet :=
  let priority := positionMaximumNumber (nCount heads)
  let head := heads.getList priority
  match head.packets with
  | [] => (heads, none)
  | packet :: list =>
    (if nFlag then heads.setList ⟨head.nPacketId - 1, list⟩ priority else heads, some packet)

def deadline (max_latency : Qos → ℚ) (packet : Packet) (qos : Qos) : ℚ :=
  max_latency qos * 1000 - (now - packet.dEventTime)

/-- The test of `edf_algorithm_drop_expired_packets`. -/
def isExpired (max_latency : Qos → ℚ) (packet : Packet) : Bool :=
  match packet.nQOS with
  | none => false
  | some qos => deadline now max_latency packet qos < 0

def dropExpiredPackets (b : Buffer) (max_latency : Qos → ℚ) : Buffer :=
  let dropped := b.pstruPacketlist.filter (isExpired now max_latency)
  { b with
    pstruPacketlist := b.pstruPacketlist.filter fun packet => !isExpired now max_latency packet
    nDroppedPacket := b.nDroppedPacket + UInt32.ofNat dropped.length }

/-- The loop of `edf_algorithm_get_earliest_deadline_packet`: the place of the packet it finds. -/
def earliestDeadlineLoop (max_latency : Qos → ℚ) :
    Nat → Option Nat → ℚ → List Packet → Option Nat
  | _, found, _, [] => found
  | place, found, earliest, packet :: list =>
    match packet.nQOS with
    | none => some place
    | some qos =>
      let curr := deadline now max_latency packet qos
      if curr < earliest then earliestDeadlineLoop max_latency (place + 1) (some place) curr list
      else earliestDeadlineLoop max_latency (place + 1) found earliest list

def earliestDeadlinePacket (max_latency : Qos → ℚ) (list : List Packet) : Option Nat :=
  earliestDeadlineLoop now max_latency 0 none (2 ^ 64) list

/-- `fn_NetSim_EDF` with `GET`. -/
def getEDF (b : Buffer) (max_latency : Qos → ℚ) (nFlag : Bool) : Buffer × Option Packet :=
  let b := b.dropExpiredPackets now max_latency
  match earliestDeadlinePacket now max_latency b.pstruPacketlist with
  | none => (b, none)
  | some place =>
    (if nFlag then { b with pstruPacketlist := b.pstruPacketlist.eraseIdx place } else b,
      b.pstruPacketlist[place]?)

def getFromHeads (b : Buffer) (get : Heads → Heads × Option Packet) : Buffer × Option Packet :=
  match b.heads with
  | none => (b, none)
  | some heads => ({ b with heads := some (get heads).1 }, (get heads).2)

/-- The switch of `fn_NetSim_GetPacketFromBuffer`. -/
def getFromList (b : Buffer) (nFlag : Bool) : Buffer × Option Packet :=
  match b.nSchedulingType with
  | .roundRobin =>
    b.getFromHeads fun heads => getRoundRobin nFlag heads.nPacketPriority 4 heads
  | .wfq => b.getFromHeads (getWFQ nFlag)
  | .edf max_latency => b.getEDF now max_latency nFlag
  | _ => b.getFirst nFlag

def setIdle (b : Buffer) : Buffer :=
  match b.queuingTechnique with
  | .red queuing_var =>
    if b.dCurrentBufferSize = 0 then
      { b with queuingTechnique := .red { queuing_var with q_time := now } }
    else b
  | .wred queuing_var =>
    if b.dCurrentBufferSize = 0 then
      { b with queuingTechnique := .wred { queuing_var with q_time := now } }
    else b
  | _ => b

/-- The part of `fn_NetSim_GetPacketFromBuffer` after the switch, for a packet. -/
def accountTaken (b : Buffer) (nFlag : Bool) (packet : Packet) : Buffer :=
  (if nFlag = true ∧ b.dMaxBufferSize ≠ 0 then b.reduceCurrentSizeBuffer packet else b).setIdle now

def countDequeued (b : Buffer) (nFlag : Bool) : Buffer :=
  if nFlag then { b with nDequeuedPacket := b.nDequeuedPacket + 1 } else b

/-- `fn_NetSim_GetPacketFromBuffer`, with the packet it returns. -/
def getPacketFromBuffer (b : Buffer) (nFlag : Bool) : Buffer × Option Packet :=
  if b.hasPacketlist then
    match (b.countDequeued nFlag).getFromList now nFlag with
    | (b, none) => (b, none)
    | (b, some packet) => (b.accountTaken now nFlag packet, some packet)
  else (b, none)

end Buffer

end NetSim.Scheduling
