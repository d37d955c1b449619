import NetSim.Scheduling.Accounting

/-!
# The order of service

What a buffer should serve, from the packets that have arrived and not left.
`fn_NetSim_GetBufferStatus` moves the cursor of round robin.
-/

namespace NetSim.Scheduling

open Buffer

namespace Buffer

/-- The loop of `fn_NetSim_GetBufferStatus` over the lists of the priorities, which leaves the cursor
where it ends. -/
def statusHeads : Nat → Heads → Heads × Bool
  | 0, heads => (heads, false)
  | tries + 1, heads =>
    let priority := nextPriority heads.nPacketPriority
    let heads := { heads with nPacketPriority := some priority }
    if (heads.getList priority).packets = [] then statusHeads tries heads else (heads, true)

def getBufferStatus (b : Buffer) : Buffer × Bool :=
  match b.nSchedulingType with
  | .none | .priority | .edf _ | .fifo => (b, !b.pstruPacketlist.isEmpty)
  | .roundRobin | .wfq =>
    match b.heads with
    | none => (b, false)
    | some heads => ({ b with heads := some (statusHeads 4 heads).1 }, (statusHeads 4 heads).2)
  | .classBased => (b, false)

end Buffer

/-! ## Calls -/

/-- The calls of a buffer. A peek is a get with `nFlag` 0. -/
inductive ServiceCall
  | add (now random : ℚ) (data : Packet) (rest : List Packet)
  | peek (now : ℚ)
  | status (now : ℚ)
  | get (now : ℚ)

def ServiceCall.now : ServiceCall → ℚ
  | add now .. => now
  | peek now => now
  | status now => now
  | get now => now

def ServiceCall.isGet : ServiceCall → Bool
  | get _ => true
  | _ => false

def Buffer.serve (pow : ℚ → ℚ → ℚ) (b : Buffer) : ServiceCall → Buffer
  | .add now random data rest => b.addPacketToBuffer pow now random data rest
  | .peek now => (b.getPacketFromBuffer now false).1
  | .status _ => b.getBufferStatus.1
  | .get now => (b.getPacketFromBuffer now true).1

def Buffer.gets (pow : ℚ → ℚ → ℚ) (b : Buffer) : List ServiceCall → List (Option Packet)
  | [] => []
  | call :: calls =>
    let later := (b.serve pow call).gets pow calls
    if call.isGet then (b.getPacketFromBuffer call.now true).2 :: later else later

def Packet.cls (packet : Packet) : Priority := packet.nPacketPriority.getD .low

def weight (p : Priority) : Nat := p.toNat / 2

def backlog (queue : List Packet) (p : Priority) : Nat := queue.countP fun packet => packet.cls = p

/-- A buffer, the packets queued and not left, in order, and the time of the last call. -/
structure Service where
  buffer : Buffer
  queue : List Packet
  now : ℚ

namespace Service

variable (pow : ℚ → ℚ → ℚ)

def present (s : Service) (now : ℚ) : List Packet :=
  match s.buffer.nSchedulingType with
  | .edf max_latency => s.queue.filter fun packet => !isExpired now max_latency packet
  | _ => s.queue

def taken (s : Service) (now : ℚ) : Option Packet := (s.buffer.getPacketFromBuffer now true).2

def queueAfter (s : Service) : ServiceCall → List Packet
  | .add now random data rest =>
    if (s.buffer.queuing pow now random data rest).2 = .underflow then s.queue ++ data :: rest
    else s.queue
  | .peek now => s.present now
  | .status _ => s.queue
  | .get now =>
    match s.taken now with
    | none => s.present now
    | some packet => (s.present now).erase packet

def step (s : Service) (call : ServiceCall) : Option Service :=
  if s.now ≤ call.now then
    some { buffer := s.buffer.serve pow call, queue := s.queueAfter pow call, now := call.now }
  else none

/-- No packet has been added. -/
structure IsEmpty (s : Service) : Prop where
  list : s.buffer.pstruPacketlist = []
  heads : s.buffer.heads = none
  queue : s.queue = []

/-! ## What is to be shown -/

def ServedRight (s : Service) (now : ℚ) (packet : Packet) : Prop :=
  packet ∈ s.present now ∧
    match s.buffer.nSchedulingType with
    | .priority =>
      (∀ x ∈ s.present now, x.priority ≤ packet.priority) ∧
        (s.present now).find? (fun x => x.priority = packet.priority) = some packet
    | .roundRobin => (s.present now).find? (fun x => x.cls = packet.cls) = some packet
    | .wfq =>
      (∀ p, weight p * backlog (s.present now) p ≤
          weight packet.cls * backlog (s.present now) packet.cls) ∧
        (s.present now).find? (fun x => x.cls = packet.cls) = some packet
    | .edf max_latency =>
      ∀ qos ∈ packet.nQOS, ∀ x ∈ s.present now, ∃ qos' ∈ x.nQOS,
        deadline now max_latency packet qos ≤ deadline now max_latency x qos'
    | _ => (s.present now).head? = some packet

def NoEffect (s : Service) (call : ServiceCall) : Prop :=
  ∀ calls : List ServiceCall, (∀ later ∈ calls, call.now ≤ later.now) →
    (s.buffer.serve pow call).gets pow calls = s.buffer.gets pow calls

def StepRight (s : Service) : ServiceCall → Prop
  | .add .. => True
  | .peek now => s.NoEffect pow (.peek now)
  | .status now =>
    (s.present now = s.queue → s.buffer.getBufferStatus.2 = (s.taken now).isSome) ∧
      s.NoEffect pow (.status now)
  | .get now => (∀ packet ∈ s.taken now, s.ServedRight now packet) ∧
      (s.taken now = none → s.present now = [])

def Fair (tr : List (Service × ServiceCall)) : Prop :=
  ∀ post part pre p, tr = post ++ part ++ pre → (∀ x ∈ part, 0 < backlog x.1.queue p) →
    4 ≤ part.countP (fun x => x.2.isGet) →
    ∃ x ∈ part, x.2.isGet = true ∧ ∃ packet ∈ x.1.taken x.2.now, packet.cls = p

/-- The service in a run is right. -/
structure RunRight (tr : List (Service × ServiceCall)) : Prop where
  step : ∀ x ∈ tr, x.1.StepRight pow x.2
  fair : (∀ x ∈ tr, x.1.buffer.nSchedulingType = .roundRobin) → Fair tr

/-! ## The condition -/

def cursor (s : Service) : Priority := (s.buffer.heads.bind Heads.nPacketPriority).getD .low

/-- The packets chained to `data` go to the same list in the same order. -/
def ChainOk (s : Service) (data : Packet) (rest : List Packet) : Prop :=
  match s.buffer.nSchedulingType with
  | .priority => (∀ x ∈ s.queue, data.priority ≤ x.priority) ∧
      (data :: rest).Pairwise fun x y => y.priority ≤ x.priority
  | .roundRobin => ∀ x ∈ rest, x.cls = data.cls
  | .wfq => False
  | _ => True

def HasNear (s : Service) (now : ℚ) : Prop :=
  match s.buffer.nSchedulingType with
  | .edf max_latency => s.present now ≠ [] →
      ∃ x ∈ s.present now, ∀ qos ∈ x.nQOS, deadline now max_latency x qos < 2 ^ 64
  | _ => True

def StepOk (s : Service) : ServiceCall → Prop
  | .add now random data rest =>
    (s.buffer.queuing pow now random data rest).2 = .overflow ∨ rest = [] ∨ s.ChainOk data rest
  | .peek now =>
    match s.buffer.queuingTechnique with
    | .red _ | .wred _ => s.present now = [] ∨ s.buffer.dCurrentBufferSize ≠ 0
    | _ => True
  | .status now =>
    match s.buffer.nSchedulingType with
    | .roundRobin => ∀ p, p ≠ s.cursor → backlog s.queue p = 0
    | .classBased => s.queue = []
    | _ => s.HasNear now
  | .get now => s.HasNear now

end Service

end NetSim.Scheduling
