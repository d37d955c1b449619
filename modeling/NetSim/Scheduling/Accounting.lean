import NetSim.Lib.Run
import NetSim.Scheduling.Buffer

/-!
# The accounts of a buffer

The size of the buffer is the sum of its packets as long as packets come one by one, none with a
size has passed its deadline, and none is taken from a buffer that has none to give.
-/

namespace NetSim.Scheduling

open NetSim.Lib

/-! ## Calls -/

/-- `fn_NetSim_Packet_AddPacketToBuffer`, with a chain, or `fn_NetSim_GetPacketFromBuffer`, which
leaves the packet where `nFlag` is false. -/
inductive Call
  | add (now random : ℚ) (data : Packet) (rest : List Packet)
  | get (now : ℚ) (nFlag : Bool)

namespace Buffer

def call (pow : ℚ → ℚ → ℚ) (b : Buffer) : Call → Option Buffer
  | .add now random data rest => some (b.addPacketToBuffer pow now random data rest)
  | .get now nFlag => some (b.getPacketFromBuffer now nFlag).1

def expired (b : Buffer) : Call → List Packet
  | .add .. => []
  | .get now _ =>
    match b.nSchedulingType with
    | .edf max_latency => b.pstruPacketlist.filter (isExpired now max_latency)
    | _ => []

/-- A buffer that no packet has been added to. -/
structure IsNew (b : Buffer) : Prop where
  size : b.dCurrentBufferSize = 0
  queued : b.nQueuedPacket = 0
  dequeued : b.nDequeuedPacket = 0
  list : b.pstruPacketlist = []
  heads : b.heads = none
  isNegative : b.isNegative = false

def HasMaximum (b : Buffer) : Prop := 0 < b.dMaxBufferSize ∧ b.maximumBufferSize < 2 ^ 31

def totalSize (packets : List Packet) : Nat := (packets.map Packet.dataSize).sum

/-- The accounts are right, where `dropped` packets have been dropped after they had been queued. -/
structure Accounted (b : Buffer) (dropped : Nat) : Prop where
  size : b.dCurrentBufferSize = totalSize b.packets
  le_maximum : (b.dCurrentBufferSize : ℚ) ≤ b.maximumBufferSize
  notNegative : b.isNegative = false
  counters : b.nQueuedPacket = b.nDequeuedPacket + UInt32.ofNat (b.packets.length + dropped)

def IsServable (b : Buffer) (now : ℚ) (packet : Packet) : Prop :=
  match b.nSchedulingType with
  | .edf max_latency =>
    isExpired now max_latency packet = false ∧
      ∀ qos ∈ packet.nQOS, deadline now max_latency packet qos < 2 ^ 64
  | _ => True

def CallOk (b : Buffer) : Call → Prop
  | .add _ _ data rest => rest = [] ∨ (b.checkBuffer data rest).2 = .overflow
  | .get now nFlag =>
    (∀ packet ∈ b.expired (.get now nFlag), packet.dataSize = 0) ∧
      (nFlag = true → b.hasPacketlist = true → ∃ packet ∈ b.packets, b.IsServable now packet)

/-! ## Queuing -/

section

variable {b b' : Buffer} {data : Packet} {rest : List Packet} {dropped : Nat}

theorem toInt_of_lt {x : Int} (h0 : 0 ≤ x) (h : x < 2 ^ 31) : toInt x = x := by
  unfold toInt
  rw [Int.bmod_def]
  split <;> omega

theorem totalSize_append (l1 l2 : List Packet) :
    totalSize (l1 ++ l2) = totalSize l1 + totalSize l2 := by
  simp [totalSize]

theorem totalSize_perm {l1 l2 : List Packet} (h : l1.Perm l2) : totalSize l1 = totalSize l2 :=
  (h.map _).sum_eq

structure SameLists (b b' : Buffer) : Prop where
  maximum : b'.dMaxBufferSize = b.dMaxBufferSize
  scheduling : b'.nSchedulingType = b.nSchedulingType
  queued : b'.nQueuedPacket = b.nQueuedPacket
  dequeued : b'.nDequeuedPacket = b.nDequeuedPacket
  list : b'.pstruPacketlist = b.pstruPacketlist
  heads : b'.heads = b.heads
  isNegative : b'.isNegative = b.isNegative

namespace SameLists

theorem refl (b : Buffer) : SameLists b b := ⟨rfl, rfl, rfl, rfl, rfl, rfl, rfl⟩

theorem trans {b'' : Buffer} (h : SameLists b b') (h' : SameLists b' b'') : SameLists b b'' :=
  ⟨h'.maximum.trans h.maximum, h'.scheduling.trans h.scheduling, h'.queued.trans h.queued,
    h'.dequeued.trans h.dequeued, h'.list.trans h.list, h'.heads.trans h.heads,
    h'.isNegative.trans h.isNegative⟩

theorem packets (h : SameLists b b') : b'.packets = b.packets := by
  unfold Buffer.packets
  rw [h.scheduling, h.heads, h.list]

theorem maximumBufferSize (h : SameLists b b') : b'.maximumBufferSize = b.maximumBufferSize := by
  unfold Buffer.maximumBufferSize
  rw [h.maximum]

end SameLists

/-- `fn_NetSim_Queuing` adds the size of a packet that is queued, and only if there is room. -/
structure Queued (b : Buffer) (size : Nat) (x : Buffer × Status) : Prop where
  same : SameLists b x.1
  overflow : x.2 = .overflow → x.1.dCurrentBufferSize = b.dCurrentBufferSize
  underflow : x.2 = .underflow → x.1.dCurrentBufferSize = b.dCurrentBufferSize + size ∧
    (x.1.dCurrentBufferSize : ℚ) ≤ b.maximumBufferSize

theorem setMaximum_eq (hmax : b.HasMaximum) : b.setMaximum = b := if_neg (ne_of_gt hmax.1)

theorem lt_of_le_maximum (hmax : b.HasMaximum) {x : Int} (h : (x : ℚ) ≤ b.maximumBufferSize) :
    x < 2 ^ 31 := by
  have hlt : (x : ℚ) < ((2 ^ 31 : Int) : ℚ) := lt_of_le_of_lt h (by exact_mod_cast hmax.2)
  exact_mod_cast hlt

theorem chainSize_single (data : Packet) : chainSize data [] = data.dataSize := by
  simp [chainSize]

theorem checkBuffer_queued (hmax : b.HasMaximum) (h0 : 0 ≤ b.dCurrentBufferSize) :
    Queued b data.dataSize (b.checkBuffer data []) := by
  unfold checkBuffer
  rw [setMaximum_eq hmax, chainSize_single]
  dsimp only
  split
  · next hle =>
    have hlt := lt_of_le_maximum hmax hle
    have hint : toInt (b.dCurrentBufferSize + data.dataSize) =
        b.dCurrentBufferSize + data.dataSize := toInt_of_lt (by omega) hlt
    refine ⟨⟨rfl, rfl, rfl, rfl, rfl, rfl, rfl⟩, nofun, fun _ => ⟨hint, ?_⟩⟩
    rw [hint]
    exact hle
  · exact ⟨.refl b, fun _ => rfl, nofun⟩

theorem addUnlessDropped_queued (hmax : b.HasMaximum) (h0 : 0 ≤ b.dCurrentBufferSize)
    (hcheck : Queued b data.dataSize (b', .underflow)) (technique : Queuing) (status : Status) :
    Queued b data.dataSize
      ((b'.reduceCurrentSizeBuffer data).addUnlessDropped technique status data []) := by
  obtain ⟨hsize, hle⟩ := hcheck.underflow rfl
  have hsame := hcheck.same
  have hlt := lt_of_le_maximum hmax hle
  have hint : toInt data.dataSize = data.dataSize := toInt_of_lt (by omega) (by omega)
  have hreduce : b'.reduceCurrentSizeBuffer data =
      { b' with dCurrentBufferSize := b.dCurrentBufferSize } := by
    unfold reduceCurrentSizeBuffer
    rw [hint, hsize, Int.add_sub_cancel]
    exact if_neg (by omega)
  rw [hreduce]
  unfold addUnlessDropped addCurrentSizeBuffer
  rw [chainSize_single]
  dsimp only
  refine ⟨?_, fun hover => ?_, fun hunder => ?_⟩
  · split <;> exact hsame.trans ⟨rfl, rfl, rfl, rfl, rfl, rfl, rfl⟩
  · dsimp only at hover
    rw [if_neg (by rw [hover]; decide)]
  · rw [if_pos hunder]
    rw [toInt_of_lt (by omega) (by omega), ← hsize]
    exact ⟨rfl, hle⟩

theorem queuing_queued (pow : ℚ → ℚ → ℚ) (now random : ℚ) (hmax : b.HasMaximum)
    (h0 : 0 ≤ b.dCurrentBufferSize) :
    Queued b data.dataSize (b.queuing pow now random data []) := by
  have hcheck : Queued b data.dataSize (b.checkBuffer data []) := checkBuffer_queued hmax h0
  unfold queuing
  split
  · unfold Buffer.red
    split
    · next b' heq => exact heq ▸ hcheck
    · next b' heq => exact addUnlessDropped_queued hmax h0 (heq ▸ hcheck) _ _
  · unfold Buffer.wred
    split
    · next b' heq => exact heq ▸ hcheck
    · next b' heq =>
      split
      · exact addUnlessDropped_queued hmax h0 (heq ▸ hcheck) _ _
      · exact addUnlessDropped_queued hmax h0 (heq ▸ hcheck) _ _
  · exact hcheck

theorem queuing_of_overflow (pow : ℚ → ℚ → ℚ) (now random : ℚ) (hmax : b.HasMaximum)
    (hover : (b.checkBuffer data rest).2 = .overflow) :
    b.queuing pow now random data rest = (b, .overflow) := by
  have hcheck : b.checkBuffer data rest = (b, .overflow) := by
    revert hover
    unfold checkBuffer
    rw [setMaximum_eq hmax]
    dsimp only
    split
    · nofun
    · exact fun _ => rfl
  unfold queuing
  split
  · unfold Buffer.red
    rw [hcheck]
  · unfold Buffer.wred
    rw [hcheck]
  · exact hcheck

/-! ## The lists of the priorities -/

theorem packets_setList (heads : Heads) (head : Head) (priority : Priority) :
    (head.packets ++ heads.packets).Perm
      ((heads.getList priority).packets ++ (heads.setList head priority).packets) := by
  rw [List.perm_iff_count]
  intro packet
  cases priority <;>
    simp only [Heads.packets, Heads.getList, Heads.setList, List.count_append] <;> omega

theorem packets_setList_cons (heads : Heads) (nPacketId : Int) (priority : Priority) :
    (heads.setList ⟨nPacketId, (heads.getList priority).packets ++ [data]⟩ priority).packets.Perm
      (data :: heads.packets) := by
  have h := packets_setList heads ⟨nPacketId, (heads.getList priority).packets ++ [data]⟩ priority
  rw [List.append_assoc, List.singleton_append] at h
  exact ((List.perm_append_left_iff _).1 h).symm

theorem packets_getD (heads : Option Heads) :
    (heads.getD Heads.allocate).packets = (heads.map Heads.packets).getD [] := by
  cases heads <;> rfl

theorem insertByPriority_perm (list : List Packet) :
    (insertByPriority data [] list).Perm (data :: list) := by
  induction list with
  | nil => exact .refl _
  | cons p list ih =>
    rw [insertByPriority]
    split
    · exact .refl _
    · exact (ih.cons p).trans (.swap data p list)

structure SameAccounts (b b' : Buffer) : Prop where
  maximum : b'.dMaxBufferSize = b.dMaxBufferSize
  size : b'.dCurrentBufferSize = b.dCurrentBufferSize
  scheduling : b'.nSchedulingType = b.nSchedulingType
  queued : b'.nQueuedPacket = b.nQueuedPacket
  dequeued : b'.nDequeuedPacket = b.nDequeuedPacket
  isNegative : b'.isNegative = b.isNegative

theorem SameAccounts.refl (b : Buffer) : SameAccounts b b := ⟨rfl, rfl, rfl, rfl, rfl, rfl⟩

theorem addToList_same : SameAccounts b (b.addToList data rest) := by
  unfold addToList
  split <;> exact ⟨rfl, rfl, rfl, rfl, rfl, rfl⟩

theorem addToList_packets : (b.addToList data []).packets.Perm (data :: b.packets) := by
  unfold packets
  unfold addToList
  cases hs : b.nSchedulingType with
  | priority => exact insertByPriority_perm _
  | roundRobin =>
    refine (packets_setList_cons _ _ _).trans ?_
    rw [packets_getD]
    exact .refl _
  | wfq =>
    refine (packets_setList_cons _ _ _).trans ?_
    rw [packets_getD]
    exact .refl _
  | _ => exact List.perm_append_comm

/-! ## Counting the packets of a priority -/

def CountsHeads (b : Buffer) : Prop :=
  b.nSchedulingType = .wfq → ∀ heads ∈ b.heads, ∀ priority,
    (heads.getList priority).nPacketId = (heads.getList priority).packets.length

theorem getList_setList (heads : Heads) (head : Head) (p q : Priority) :
    (heads.setList head p).getList q = if q = p then head else heads.getList q := by
  cases p <;> cases q <;> rfl

theorem CountsHeads.addToList (h : CountsHeads b) : CountsHeads (b.addToList data []) := by
  intro hs heads hheads priority
  rw [addToList_same.scheduling] at hs
  unfold Buffer.addToList at hheads
  rw [hs] at hheads
  cases hheads
  have hcounts : ∀ p, ((b.heads.getD Heads.allocate).getList p).nPacketId =
      ((b.heads.getD Heads.allocate).getList p).packets.length := by
    cases hb : b.heads with
    | none => intro p; cases p <;> rfl
    | some heads => exact h hs heads hb
  unfold addWFQ
  rw [getList_setList]
  split
  · simp [hcounts]
  · exact hcounts priority

theorem CountsHeads.of_heads (h : CountsHeads b) (hs : b'.nSchedulingType = b.nSchedulingType)
    (hheads : b'.heads = b.heads) : CountsHeads b' := by
  unfold CountsHeads
  rw [hs, hheads]
  exact h

/-! ## Taking a packet -/

def visits : Nat → Option Priority → List Priority
  | 0, _ => []
  | tries + 1, priority => nextPriority priority :: visits tries (some (nextPriority priority))

theorem mem_visits (start : Option Priority) (priority : Priority) : priority ∈ visits 4 start := by
  cases start with
  | none => cases priority <;> decide
  | some start => cases start <;> cases priority <;> decide

structure TakenFromHeads (nFlag : Bool) (heads : Heads) (x : Heads × Option Packet) : Prop where
  packets : ((if nFlag then x.2.toList else []) ++ x.1.packets).Perm heads.packets
  empty : x.2 = none → heads.packets = []

variable {heads : Heads}

theorem Heads.packets_eq_nil
    (h : ∀ priority, (heads.getList priority).packets = []) : heads.packets = [] := by
  have hlow : heads.low.packets = [] := h .low
  have hnormal : heads.normal.packets = [] := h .normal
  have hmedium : heads.medium.packets = [] := h .medium
  have hhigh : heads.high.packets = [] := h .high
  rw [Heads.packets, hlow, hnormal, hmedium, hhigh]
  rfl

variable {list : List Packet}

theorem packets_setList_tail {priority : Priority} {packet : Packet}
    (hlist : (heads.getList priority).packets = packet :: list) (nPacketId : Int) :
    (packet :: (heads.setList ⟨nPacketId, list⟩ priority).packets).Perm heads.packets := by
  have h := packets_setList heads ⟨nPacketId, list⟩ priority
  rw [hlist, List.cons_append] at h
  exact (List.perm_append_left_iff list).1 (List.perm_middle.trans h.symm)

variable {nFlag : Bool}

theorem getRoundRobin_taken {start : Option Priority} (tries : Nat) (heads : Heads) :
    ((if nFlag then (getRoundRobin nFlag start tries heads).2.toList else []) ++
        (getRoundRobin nFlag start tries heads).1.packets).Perm heads.packets ∧
      ((getRoundRobin nFlag start tries heads).2 = none →
        ∀ priority ∈ visits tries heads.nPacketPriority,
          (heads.getList priority).packets = []) := by
  induction tries generalizing heads with
  | zero => cases nFlag <;> exact ⟨.refl _, fun _ => nofun⟩
  | succ tries ih =>
    set next := nextPriority heads.nPacketPriority with hnext
    rw [getRoundRobin]
    cases hl : ({ heads with nPacketPriority := some next }.getList next).packets with
    | nil =>
      obtain ⟨hperm, hvisits⟩ := ih { heads with nPacketPriority := some next }
      refine ⟨hperm, fun hnone priority hp => ?_⟩
      rcases List.mem_cons.1 hp with rfl | hp
      · exact hl
      · exact hvisits hnone priority hp
    | cons packet list =>
      refine ⟨?_, nofun⟩
      cases nFlag with
      | true => exact packets_setList_tail hl _
      | false => exact .refl _

theorem getRoundRobin_takenFromHeads (heads : Heads) :
    TakenFromHeads nFlag heads (getRoundRobin nFlag heads.nPacketPriority 4 heads) := by
  obtain ⟨hperm, hvisits⟩ := getRoundRobin_taken 4 heads
  exact ⟨hperm, fun hnone => Heads.packets_eq_nil fun priority =>
    hvisits hnone priority (mem_visits _ priority)⟩

theorem le_positionMaximumNumber (nCount : Priority → Int) (priority : Priority) :
    nCount priority ≤ nCount (positionMaximumNumber nCount) := by
  unfold positionMaximumNumber
  simp only [List.foldl_cons, List.foldl_nil]
  cases priority <;> split_ifs <;> omega

theorem nCount_eq {priority : Priority}
    (h : (heads.getList priority).nPacketId = (heads.getList priority).packets.length) :
    nCount heads priority =
      (heads.getList priority).packets.length * (priority.toNat / 2 : Nat) := by
  unfold nCount toUInt64
  rw [h]
  exact if_neg (not_lt.2 (by positivity))

theorem getWFQ_takenFromHeads
    (h : ∀ priority,
      (heads.getList priority).nPacketId = (heads.getList priority).packets.length) :
    TakenFromHeads nFlag heads (getWFQ nFlag heads) := by
  unfold getWFQ
  dsimp only
  split
  · next hempty =>
    refine ⟨?_, fun _ => Heads.packets_eq_nil fun priority => ?_⟩
    · cases nFlag <;> exact .refl _
    · have hle := le_positionMaximumNumber (nCount heads) priority
      rw [nCount_eq (h _), nCount_eq (h _), hempty] at hle
      have hlength : (heads.getList priority).packets.length * (priority.toNat / 2) ≤ 0 := by
        rw [List.length_nil, Nat.cast_zero, zero_mul] at hle
        exact_mod_cast hle
      cases priority <;> simpa [Priority.toNat] using hlength
  · next packet list hlist =>
    refine ⟨?_, nofun⟩
    cases nFlag with
    | true => exact packets_setList_tail hlist _
    | false => exact .refl _

theorem CountsHeads.getWFQ
    (h : ∀ priority,
      (heads.getList priority).nPacketId = (heads.getList priority).packets.length)
    (priority : Priority) :
    ((getWFQ nFlag heads).1.getList priority).nPacketId =
      ((getWFQ nFlag heads).1.getList priority).packets.length := by
  unfold Buffer.getWFQ
  dsimp only
  split
  · exact h priority
  · next packet list hlist =>
    cases nFlag with
    | false => exact h priority
    | true =>
      rw [if_pos rfl, getList_setList]
      split
      · dsimp only
        rw [h, hlist, List.length_cons]
        omega
      · exact h priority

variable {now : ℚ} {max_latency : Qos → ℚ}

theorem earliestDeadlineLoop_place {start place : Nat} {found : Option Nat} {earliest : ℚ}
    (h : earliestDeadlineLoop now max_latency start found earliest list = some place) :
    found = some place ∨ start ≤ place ∧ place < start + list.length := by
  induction list generalizing start found earliest with
  | nil => exact Or.inl h
  | cons packet list ih =>
    rw [earliestDeadlineLoop] at h
    rw [List.length_cons]
    split at h
    · cases h
      exact Or.inr ⟨Nat.le_refl _, by omega⟩
    · dsimp only at h
      split at h
      · rcases ih h with hfound | hplace
        · cases hfound
          exact Or.inr ⟨Nat.le_refl _, by omega⟩
        · exact Or.inr ⟨by omega, by omega⟩
      · rcases ih h with hfound | hplace
        · exact Or.inl hfound
        · exact Or.inr ⟨by omega, by omega⟩

theorem earliestDeadlineLoop_none {start : Nat} {found : Option Nat} {earliest : ℚ}
    (h : earliestDeadlineLoop now max_latency start found earliest list = none) :
    found = none ∧ ∀ packet ∈ list, ∃ qos ∈ packet.nQOS,
      earliest ≤ deadline now max_latency packet qos := by
  induction list generalizing start found earliest with
  | nil => exact ⟨h, nofun⟩
  | cons packet list ih =>
    rw [earliestDeadlineLoop] at h
    split at h
    · cases h
    · next qos hqos =>
      dsimp only at h
      split at h
      · cases (ih h).1
      · next hge =>
        obtain ⟨hfound, hlist⟩ := ih h
        refine ⟨hfound, fun p hp => ?_⟩
        rcases List.mem_cons.1 hp with rfl | hp
        · exact ⟨qos, hqos, not_lt.1 hge⟩
        · exact hlist p hp

structure Taken (b : Buffer) (now : ℚ) (nFlag : Bool) (x : Buffer × Option Packet) : Prop where
  same : SameAccounts b x.1
  packets : (b.expired (.get now nFlag) ++ ((if nFlag then x.2.toList else []) ++ x.1.packets)).Perm
    b.packets
  none : x.2 = none → ∀ packet ∈ b.packets, ¬b.IsServable now packet
  counts : CountsHeads b → CountsHeads x.1

theorem getEDF_taken (hs : b.nSchedulingType = .edf max_latency) :
    Taken b now nFlag (b.getEDF now max_latency nFlag) := by
  have hwfq : ∀ {b' : Buffer}, b'.nSchedulingType = b.nSchedulingType → CountsHeads b' := by
    intro b' hs' hwfq
    rw [hs', hs] at hwfq
    cases hwfq
  have hpackets : b.packets = b.pstruPacketlist := by
    unfold packets
    rw [hs]
    rfl
  have hexpired : b.expired (.get now nFlag) =
      b.pstruPacketlist.filter (isExpired now max_latency) := by
    unfold expired
    rw [hs]
  have hperm := List.filter_append_perm (isExpired now max_latency) b.pstruPacketlist
  set list := b.pstruPacketlist.filter fun packet => !isExpired now max_latency packet with hlist
  have hdrop : (b.dropExpiredPackets now max_latency).pstruPacketlist = list := rfl
  unfold getEDF
  dsimp only
  rw [hdrop]
  split
  · next hnone =>
    refine ⟨⟨rfl, rfl, rfl, rfl, rfl, rfl⟩, ?_, fun _ packet hpacket hservable => ?_, fun _ => hwfq rfl⟩
    · rw [hexpired, hpackets, packets, show (b.dropExpiredPackets now max_latency).nSchedulingType =
        .edf max_latency from hs]
      cases nFlag <;> exact hperm
    · rw [IsServable, hs] at hservable
      obtain ⟨hnot, hdeadline⟩ := hservable
      rw [hpackets] at hpacket
      have hmem : packet ∈ list := List.mem_filter.2 ⟨hpacket, by rw [hnot]; rfl⟩
      obtain ⟨qos, hqos, hle⟩ := (earliestDeadlineLoop_none hnone).2 packet hmem
      exact absurd (hdeadline qos hqos) (not_lt.2 hle)
  · next place hplace =>
    have hlt : place < list.length := by
      rcases earliestDeadlineLoop_place hplace with hfound | hbound
      · cases hfound
      · omega
    have hat : list[place]? = some list[place] := List.getElem?_eq_getElem hlt
    refine ⟨?_, ?_, fun hnone => ?_, fun _ => hwfq ?_⟩
    · cases nFlag <;> exact ⟨rfl, rfl, rfl, rfl, rfl, rfl⟩
    · rw [hexpired, hpackets, hat]
      refine List.Perm.trans (List.Perm.append_left _ ?_) hperm
      cases nFlag with
      | true =>
        rw [if_pos rfl, if_pos rfl, packets, show ({ b.dropExpiredPackets now max_latency with
          pstruPacketlist := list.eraseIdx place } : Buffer).nSchedulingType = .edf max_latency
            from hs]
        exact List.getElem_cons_eraseIdx_perm hlt
      | false =>
        rw [if_neg Bool.false_ne_true, if_neg Bool.false_ne_true, packets,
          show (b.dropExpiredPackets now max_latency).nSchedulingType = .edf max_latency from hs]
        exact .refl _
    · rw [hat] at hnone
      cases hnone
    · cases nFlag <;> rfl

theorem getFirst_taken (hheads : b.nSchedulingType.hasHeads = false)
    (hexpired : b.expired (.get now nFlag) = []) : Taken b now nFlag (b.getFirst nFlag) := by
  have hpackets : ∀ {b' : Buffer}, b'.nSchedulingType = b.nSchedulingType →
      b'.packets = b'.pstruPacketlist := by
    intro b' hs
    unfold packets
    rw [hs, hheads]
    exact if_neg Bool.false_ne_true
  unfold getFirst
  split
  · next hlist =>
    refine ⟨.refl b, ?_, fun _ packet hpacket => ?_, id⟩
    · rw [hexpired]
      cases nFlag <;> exact .refl _
    · rw [hpackets rfl, hlist] at hpacket
      cases hpacket
  · next packet list hlist =>
    refine ⟨?_, ?_, nofun, fun h => ?_⟩
    · cases nFlag <;> exact ⟨rfl, rfl, rfl, rfl, rfl, rfl⟩
    · have hb : b.packets = packet :: list := (hpackets rfl).trans hlist
      have htaken : ({ b with pstruPacketlist := list } : Buffer).packets = list := hpackets rfl
      rw [hexpired, hb]
      cases nFlag with
      | true =>
        rw [if_pos rfl, if_pos rfl, htaken]
        exact .refl _
      | false =>
        rw [if_neg Bool.false_ne_true, if_neg Bool.false_ne_true, hb]
        exact .refl _
    · cases nFlag <;> exact h.of_heads rfl rfl

theorem getFromHeads_taken {get : Heads → Heads × Option Packet}
    (hheads : b.nSchedulingType.hasHeads = true) (hexpired : b.expired (.get now nFlag) = [])
    (hget : ∀ heads ∈ b.heads, TakenFromHeads nFlag heads (get heads))
    (hcounts : b.nSchedulingType = .wfq → ∀ heads ∈ b.heads, ∀ priority,
      ((get heads).1.getList priority).nPacketId =
        ((get heads).1.getList priority).packets.length) :
    Taken b now nFlag (b.getFromHeads get) := by
  have hpackets : ∀ {b' : Buffer}, b'.nSchedulingType = b.nSchedulingType →
      b'.packets = (b'.heads.map Heads.packets).getD [] := by
    intro b' hs
    unfold packets
    rw [hs, hheads]
    exact if_pos rfl
  unfold getFromHeads
  split
  · next hnone =>
    refine ⟨.refl b, ?_, fun _ packet hpacket => ?_, id⟩
    · rw [hexpired]
      cases nFlag <;> exact .refl _
    · rw [hpackets rfl, hnone] at hpacket
      cases hpacket
  · next heads hsome =>
    have htaken := hget heads hsome
    refine ⟨⟨rfl, rfl, rfl, rfl, rfl, rfl⟩, ?_, fun hnone packet hpacket => ?_, ?_⟩
    · have hb : b.packets = heads.packets := by
        rw [hpackets rfl, hsome]
        rfl
      have htaken' : ({ b with heads := some (get heads).1 } : Buffer).packets =
          (get heads).1.packets := hpackets rfl
      rw [hexpired, hb, htaken']
      exact htaken.packets
    · rw [hpackets rfl, hsome, Option.map_some, Option.getD_some, htaken.empty hnone] at hpacket
      cases hpacket
    · intro _ hwfq heads' hheads' priority
      cases hheads'
      exact hcounts hwfq heads hsome priority

theorem getFromList_taken (hcounts : CountsHeads b) :
    Taken b now nFlag (b.getFromList now nFlag) := by
  unfold getFromList
  split
  · next hs =>
    refine getFromHeads_taken (by rw [hs]; rfl) (by rw [expired, hs])
      (fun heads _ => getRoundRobin_takenFromHeads heads) fun hwfq => ?_
    rw [hs] at hwfq
    cases hwfq
  · next hs =>
    exact getFromHeads_taken (by rw [hs]; rfl) (by rw [expired, hs])
      (fun heads hheads => getWFQ_takenFromHeads (hcounts hs heads hheads))
      fun _ heads hheads => CountsHeads.getWFQ (hcounts hs heads hheads)
  · next max_latency hs => exact getEDF_taken hs
  · next hrr hwfq hedf =>
    refine getFirst_taken ?_ ?_
    · cases hs : b.nSchedulingType with
      | roundRobin => exact absurd hs hrr
      | wfq => exact absurd hs hwfq
      | _ => rfl
    · unfold expired
      dsimp only
      split
      · next max_latency hs => exact absurd hs (hedf max_latency)
      · rfl

/-! ## What a call keeps -/

theorem setIdle_same :
    SameLists b (b.setIdle now) ∧ (b.setIdle now).dCurrentBufferSize = b.dCurrentBufferSize := by
  unfold setIdle
  split
  · split <;> exact ⟨⟨rfl, rfl, rfl, rfl, rfl, rfl, rfl⟩, rfl⟩
  · split <;> exact ⟨⟨rfl, rfl, rfl, rfl, rfl, rfl, rfl⟩, rfl⟩
  · exact ⟨.refl b, rfl⟩

/-- What every call keeps; in between, the packets `out` have been taken and their sizes are not
taken off yet. -/
structure Kept (b : Buffer) (out : List Packet) (dropped : Nat) : Prop where
  size : b.dCurrentBufferSize = (totalSize out + totalSize b.packets : Nat)
  le_maximum : (b.dCurrentBufferSize : ℚ) ≤ b.maximumBufferSize
  notNegative : b.isNegative = false
  counters : b.nQueuedPacket = b.nDequeuedPacket + UInt32.ofNat (b.packets.length + dropped)
  maximum : b.HasMaximum
  counts : CountsHeads b

theorem HasMaximum.of_eq (h : b.HasMaximum) (hmax : b'.dMaxBufferSize = b.dMaxBufferSize) :
    b'.HasMaximum := by
  unfold HasMaximum maximumBufferSize
  rw [hmax]
  exact h

theorem totalSize_nil : totalSize [] = 0 := rfl

theorem totalSize_singleton (packet : Packet) : totalSize [packet] = packet.dataSize := by
  simp [totalSize]

theorem totalSize_eq_zero {l : List Packet} (h : ∀ packet ∈ l, packet.dataSize = 0) :
    totalSize l = 0 := by
  rw [totalSize, List.sum_eq_zero]
  intro size hsize
  obtain ⟨packet, hpacket, rfl⟩ := List.mem_map.1 hsize
  exact h packet hpacket

theorem Kept.accounted_of_nil (h : Kept b [] dropped) : Accounted b dropped := by
  refine ⟨?_, h.le_maximum, h.notNegative, h.counters⟩
  rw [h.size, totalSize_nil, Nat.zero_add]

theorem Kept.add (h : Kept b [] dropped) {pow : ℚ → ℚ → ℚ} {random : ℚ}
    (hok : rest = [] ∨ (b.checkBuffer data rest).2 = .overflow) :
    Kept (b.addPacketToBuffer pow now random data rest) [] dropped := by
  obtain ⟨hsize, hle, hnot, hcounters, hmax, hcounts⟩ := h
  unfold addPacketToBuffer
  rcases hok with rfl | hover
  · have hqueued : Queued b data.dataSize (b.queuing pow now random data []) :=
      queuing_queued pow now random hmax (by rw [hsize]; exact Int.natCast_nonneg _)
    split
    · next b1 heq =>
      rw [heq] at hqueued
      obtain ⟨hsize1, hle1⟩ := hqueued.underflow rfl
      have hsame := hqueued.same
      set b2 := { b1 with nQueuedPacket := b1.nQueuedPacket + 1 } with hb2
      have hsame2 : SameAccounts b2 (b2.addToList data []) := addToList_same
      have hpackets2 : b2.packets = b.packets := hsame.packets
      have hperm : (b2.addToList data []).packets.Perm (data :: b.packets) := by
        rw [← hpackets2]
        exact addToList_packets
      have hcounts2 : CountsHeads b2 := hcounts.of_heads hsame.scheduling hsame.heads
      refine ⟨?_, ?_, ?_, ?_, hmax.of_eq (hsame2.maximum.trans hsame.maximum), hcounts2.addToList⟩
      · rw [hsame2.size, totalSize_perm hperm]
        refine hsize1.trans ?_
        rw [hsize, totalSize_nil, totalSize, totalSize, List.map_cons, List.sum_cons]
        omega
      · unfold maximumBufferSize
        rw [hsame2.size, hsame2.maximum, hb2, hsame.maximum]
        exact hle1
      · exact hsame2.isNegative.trans (hsame.isNegative.trans hnot)
      · rw [hsame2.queued, hsame2.dequeued, hperm.length_eq, List.length_cons, hb2]
        rw [hsame.queued, hsame.dequeued, hcounters, Nat.add_right_comm, UInt32.ofNat_add _ 1,
          ← UInt32.add_assoc]
        rfl
    · next b1 heq =>
      rw [heq] at hqueued
      have hsame := hqueued.same
      have hsize1 := hqueued.overflow rfl
      have hpackets : ({ b1 with nDroppedPacket := b1.nDroppedPacket + 1 } : Buffer).packets =
          b.packets := hsame.packets
      refine ⟨?_, ?_, hsame.isNegative.trans hnot, ?_, hmax.of_eq hsame.maximum,
        hcounts.of_heads hsame.scheduling hsame.heads⟩
      · rw [hpackets]
        exact hsize1.trans hsize
      · rw [hsize1, hsame.maximum]
        exact hle
      · rw [hpackets]
        exact hsame.queued.trans (by rw [hcounters, hsame.dequeued])
  · rw [queuing_of_overflow pow now random hmax hover]
    exact ⟨hsize, hle, hnot, hcounters, hmax, hcounts⟩

theorem expired_of_no_list (h : b.hasPacketlist = false) : b.expired (.get now nFlag) = [] := by
  unfold expired
  dsimp only
  split
  · next max_latency hs =>
    rw [hasPacketlist, hs] at h
    have hempty : b.pstruPacketlist = [] := by simpa [SchedulingType.hasHeads] using h
    rw [hempty]
    rfl
  · rfl

theorem Kept.reduce {packet : Packet} (h : Kept b [packet] dropped) :
    Kept (b.reduceCurrentSizeBuffer packet) [] dropped := by
  obtain ⟨hsize, hle, hnot, hcounters, hmax, hcounts⟩ := h
  rw [totalSize_singleton] at hsize
  have hlt := lt_of_le_maximum hmax hle
  have hint : toInt packet.dataSize = packet.dataSize := toInt_of_lt (by omega) (by omega)
  have hreduce : b.reduceCurrentSizeBuffer packet =
      { b with dCurrentBufferSize := totalSize b.packets } := by
    have hsub : b.dCurrentBufferSize - packet.dataSize = totalSize b.packets := by omega
    unfold reduceCurrentSizeBuffer
    rw [hint, hsub]
    exact if_neg (not_lt.2 (Int.natCast_nonneg _))
  have hsize' : ((totalSize b.packets : Int) : ℚ) ≤ b.maximumBufferSize := by
    refine le_trans ?_ hle
    exact_mod_cast (by omega : (totalSize b.packets : Int) ≤ b.dCurrentBufferSize)
  rw [hreduce]
  refine ⟨?_, hsize', hnot, hcounters, hmax, hcounts⟩
  rw [totalSize_nil, Nat.zero_add]
  rfl

theorem Kept.setIdle (h : Kept b [] dropped) : Kept (b.setIdle now) [] dropped := by
  obtain ⟨hsame, hsize⟩ := setIdle_same (b := b)
  refine ⟨?_, ?_, hsame.isNegative.trans h.notNegative, ?_, h.maximum.of_eq hsame.maximum,
    h.counts.of_heads hsame.scheduling hsame.heads⟩
  · rw [hsize, hsame.packets, h.size]
  · rw [hsize, hsame.maximumBufferSize]
    exact h.le_maximum
  · rw [hsame.queued, hsame.dequeued, hsame.packets, h.counters]

theorem Kept.getFromList (h : Kept b [] dropped)
    (hok : CallOk b (.get now nFlag)) (hlist : b.hasPacketlist = true) :
    ∃ out, (if nFlag then ((b.countDequeued nFlag).getFromList now nFlag).2.toList else []) = out ∧
      (nFlag = true → out ≠ []) ∧
      Kept ((b.countDequeued nFlag).getFromList now nFlag).1 out
        ((b.expired (.get now nFlag)).length + dropped) := by
  obtain ⟨hsize, hle, hnot, hcounters, hmax, hcounts⟩ := h
  have hcounts1 : CountsHeads (b.countDequeued nFlag) := by cases nFlag <;> exact hcounts
  have hpackets1 : (b.countDequeued nFlag).packets = b.packets := by cases nFlag <;> rfl
  have hexpired1 : (b.countDequeued nFlag).expired (.get now nFlag) = b.expired (.get now nFlag) := by
    cases nFlag <;> rfl
  have htaken : Taken (b.countDequeued nFlag) now nFlag _ := getFromList_taken hcounts1
  have hperm := htaken.packets
  rw [hpackets1, hexpired1] at hperm
  have hsome : nFlag = true → ((b.countDequeued nFlag).getFromList now nFlag).2 ≠ none := by
    rintro rfl hnone
    obtain ⟨packet, hpacket, hserv⟩ := hok.2 rfl hlist
    exact htaken.none hnone packet hpacket hserv
  refine ⟨_, rfl, ?_, ?_⟩
  · rintro rfl hnil
    exact hsome rfl (Option.toList_eq_nil_iff.1 hnil)
  have hmax1 : (b.countDequeued nFlag).dMaxBufferSize = b.dMaxBufferSize := by cases nFlag <;> rfl
  have hsize1 : (b.countDequeued nFlag).dCurrentBufferSize = b.dCurrentBufferSize := by
    cases nFlag <;> rfl
  refine ⟨?_, ?_, ?_, ?_, hmax.of_eq (htaken.same.maximum.trans hmax1), htaken.counts hcounts1⟩
  · rw [htaken.same.size, hsize1, hsize, ← totalSize_perm hperm, totalSize_append,
      totalSize_append, totalSize_eq_zero hok.1, totalSize_nil]
    omega
  · unfold maximumBufferSize
    rw [htaken.same.size, htaken.same.maximum, hsize1, hmax1]
    exact hle
  · rw [htaken.same.isNegative]
    cases nFlag <;> exact hnot
  · have hlength := hperm.length_eq
    rw [List.length_append, List.length_append] at hlength
    rw [htaken.same.queued, htaken.same.dequeued]
    cases nFlag with
    | false =>
      refine hcounters.trans ?_
      rw [← hlength]
      congr 2
      simp
      omega
    | true =>
      obtain ⟨packet, hpacket⟩ := Option.ne_none_iff_exists'.1 (hsome rfl)
      rw [hpacket, if_pos rfl, Option.toList_some, List.length_singleton] at hlength
      have hsum : (b.expired (.get now true)).length +
          (1 + ((b.countDequeued true).getFromList now true).1.packets.length) + dropped =
            1 + (((b.countDequeued true).getFromList now true).1.packets.length +
              ((b.expired (.get now true)).length + dropped)) := by omega
      refine hcounters.trans ?_
      rw [← hlength, hsum, UInt32.ofNat_add 1, ← UInt32.add_assoc]
      rfl

theorem Kept.get (h : Kept b [] dropped) (hok : CallOk b (.get now nFlag)) :
    Kept (b.getPacketFromBuffer now nFlag).1 []
      ((b.expired (.get now nFlag)).length + dropped) := by
  unfold getPacketFromBuffer
  split
  · next hlist =>
    obtain ⟨out, hout, hne, hkept⟩ := h.getFromList hok hlist
    generalize (b.countDequeued nFlag).getFromList now nFlag = x at hout hkept ⊢
    obtain ⟨b2, taken⟩ := x
    cases nFlag with
    | false =>
      subst hout
      cases taken with
      | none => exact hkept
      | some packet =>
        exact hkept.setIdle
    | true =>
      cases taken with
      | none => exact absurd hout.symm (hne rfl)
      | some packet =>
        subst hout
        have haccount : b2.accountTaken now true packet =
            (b2.reduceCurrentSizeBuffer packet).setIdle now := by
          rw [accountTaken, if_pos ⟨rfl, ne_of_gt hkept.maximum.1⟩]
        show Kept (b2.accountTaken now true packet) [] _
        rw [haccount]
        exact hkept.reduce.setIdle
  · next hlist =>
    rw [expired_of_no_list ((Bool.not_eq_true _).mp hlist), List.length_nil, Nat.zero_add]
    exact h

/-- The number of packets that the calls of a run have dropped from the packet list. -/
def droppedAfterQueuing (tr : List (Buffer × Call)) : Nat :=
  (tr.map fun x => (x.1.expired x.2).length).sum

/-- In every run of calls that meet the condition, the accounts of the buffer are right. -/
theorem accounts_right {pow : ℚ → ℚ → ℚ} {b₀ : Buffer} {tr : List (Buffer × Call)}
    (run : Run (call pow) b₀ tr b) (hnew : b₀.IsNew) (hmax : b₀.HasMaximum)
    (hok : ∀ x ∈ tr, CallOk x.1 x.2) : Accounted b (droppedAfterQueuing tr) := by
  have hkept : Kept b [] (droppedAfterQueuing tr) := by
    refine run.induction (P := fun tr b => Kept b [] (droppedAfterQueuing tr))
      (Q := fun b c => CallOk b c) ?_ ?_ hok
    · have hpackets : b₀.packets = [] := by
        unfold packets
        rw [hnew.list, hnew.heads]
        exact ite_self _
      refine ⟨?_, ?_, hnew.isNegative, ?_, hmax, fun _ heads hheads => ?_⟩
      · rw [hpackets]
        exact hnew.size
      · rw [hnew.size]
        have := hmax.1
        unfold maximumBufferSize
        positivity
      · rw [hpackets, hnew.queued, hnew.dequeued]
        rfl
      · rw [hnew.heads] at hheads
        cases hheads
    · intro tr b c b' _ hP hQ hstep
      cases c with
      | add now random data rest =>
        cases hstep
        unfold droppedAfterQueuing
        rw [List.map_cons, List.sum_cons]
        exact (Nat.zero_add _).symm ▸ hP.add hQ
      | get now nFlag =>
        cases hstep
        exact hP.get hQ
  exact hkept.accounted_of_nil

end

/-! ## Examples -/

instance (b : Buffer) (now : ℚ) (packet : Packet) : Decidable (b.IsServable now packet) := by
  unfold IsServable
  split <;> infer_instance

instance (b : Buffer) (c : Call) : Decidable (CallOk b c) := by
  unfold CallOk
  split <;> infer_instance

def exampleBuffer (nSchedulingType : SchedulingType) : Buffer where
  dMaxBufferSize := 1
  dCurrentBufferSize := 0
  nSchedulingType := nSchedulingType
  queuingTechnique := .dropTail
  nQueuedPacket := 0
  nDequeuedPacket := 0
  nDroppedPacket := 0
  pstruPacketlist := []
  heads := none
  isNegative := false

theorem exampleBuffer_isNew (t : SchedulingType) : (exampleBuffer t).IsNew :=
  ⟨rfl, rfl, rfl, rfl, rfl, rfl⟩

theorem exampleBuffer_hasMaximum (t : SchedulingType) : (exampleBuffer t).HasMaximum := by
  constructor <;> norm_num [exampleBuffer, maximumBufferSize]

/-- A packet of 1000 bytes of the class with the shortest latency. -/
def examplePacket : Packet := ⟨some 1000, 1020, some .high, some .ugs, 0⟩

def exampleEDF : SchedulingType := .edf fun _ => 100

/-- Two packets are added, looked at, and one of them is taken. -/
theorem accounts_right_edf : ∃ tr b, Run (call fun _ _ => 1) (exampleBuffer exampleEDF) tr b ∧
    b.packets = [examplePacket] ∧ Accounted b (droppedAfterQueuing tr) := by
  have hexec : (exec (call fun _ _ => 1) (exampleBuffer exampleEDF)
      [fun _ => some (.add 0 0 examplePacket []), fun _ => some (.add 0 0 examplePacket []),
        fun _ => some (.get 10 false), fun _ => some (.get 10 true)]).any (fun x =>
      decide (x.2.packets = [examplePacket] ∧ ∀ y ∈ x.1, CallOk y.1 y.2)) = true := by
    decide +kernel
  obtain ⟨tr, b, run, htest⟩ := run_of_exec hexec
  obtain ⟨hpackets, hok⟩ := of_decide_eq_true htest
  exact ⟨tr, b, run, hpackets,
    accounts_right run (exampleBuffer_isNew _) (exampleBuffer_hasMaximum _) hok⟩

/-- An expired packet is dropped with its size still counted, and taking from empty priorities is
counted. -/
theorem not_accounts_right :
    (¬∀ (pow : ℚ → ℚ → ℚ) (b₀ : Buffer) (tr : List (Buffer × Call)) (b : Buffer),
      Run (call pow) b₀ tr b → b₀.IsNew → b₀.HasMaximum →
        b.dCurrentBufferSize = totalSize b.packets) ∧
    ¬∀ (pow : ℚ → ℚ → ℚ) (b₀ : Buffer) (tr : List (Buffer × Call)) (b : Buffer),
      Run (call pow) b₀ tr b → b₀.IsNew → b₀.HasMaximum →
        b.nQueuedPacket = b.nDequeuedPacket +
          UInt32.ofNat (b.packets.length + droppedAfterQueuing tr) := by
  constructor
  · intro hclaim
    have hexec : (exec (call fun _ _ => 1) (exampleBuffer exampleEDF)
        [fun _ => some (.add 0 0 examplePacket []),
          fun _ => some (.get 200000 true)]).any (fun x =>
        decide (x.2.dCurrentBufferSize ≠ (totalSize x.2.packets : Int))) = true := by
      decide +kernel
    obtain ⟨tr, b, run, htest⟩ := run_of_exec hexec
    exact of_decide_eq_true htest
      (hclaim _ _ tr b run (exampleBuffer_isNew _) (exampleBuffer_hasMaximum _))
  · intro hclaim
    have hexec : (exec (call fun _ _ => 1) (exampleBuffer .roundRobin)
        [fun _ => some (.add 0 0 examplePacket []), fun _ => some (.get 1 true),
          fun _ => some (.get 2 true)]).any (fun x =>
        decide (x.2.nQueuedPacket ≠ x.2.nDequeuedPacket +
          UInt32.ofNat (x.2.packets.length + droppedAfterQueuing x.1))) = true := by
      decide +kernel
    obtain ⟨tr, b, run, htest⟩ := run_of_exec hexec
    exact of_decide_eq_true htest
      (hclaim _ _ tr b run (exampleBuffer_isNew _) (exampleBuffer_hasMaximum _))

end Buffer

end NetSim.Scheduling
