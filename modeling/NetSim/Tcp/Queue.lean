import NetSim.Tcp.Segment

/-!
# The queues of a TCP connection (`TCB.c`)

A queue carries the fact that its counter `size` is the number of bytes queued, as far as a `UINT`
can hold it.
-/

namespace NetSim.Tcp

structure QueueInfo where
  packet : Segment
  time : Nat
  isSacked : Bool
deriving DecidableEq

/-- The bytes of the queued packets, each cast to `UINT`. -/
def queueBytes (queue : List QueueInfo) : Nat :=
  (queue.map fun info => u32 info.packet.dPacketSize).sum

structure TcpQueue where
  size : Nat
  queue : List QueueInfo
  size_eq : size = u32 (queueBytes queue)
deriving DecidableEq

namespace TcpQueue

def empty : TcpQueue := ⟨0, [], rfl⟩

instance : Inhabited TcpQueue := ⟨empty⟩

def segments (q : TcpQueue) : List Segment := q.queue.map QueueInfo.packet

def seqLe (a b : QueueInfo) : Prop := a.packet.seqNum ≤ b.packet.seqNum

instance : DecidableRel seqLe := fun a b => Nat.decLe a.packet.seqNum b.packet.seqNum

theorem queueBytes_perm {l l' : List QueueInfo} (h : l.Perm l') : queueBytes l = queueBytes l' :=
  (h.map _).sum_eq

@[simp] theorem queueBytes_cons (info : QueueInfo) (l : List QueueInfo) :
    queueBytes (info :: l) = u32 info.packet.dPacketSize + queueBytes l := by
  simp [queueBytes]

/-- `add_packet_to_queue`: before the first packet whose `SeqNum` is not smaller. -/
def addPacketToQueue (q : TcpQueue) (packet : Segment) (time : Nat) : TcpQueue where
  size := u32 (q.size + u32 packet.dPacketSize)
  queue := q.queue.orderedInsert seqLe ⟨packet, time, false⟩
  size_eq := by
    rw [queueBytes_perm (List.perm_orderedInsert _ _ _), queueBytes_cons, q.size_eq]
    dsimp only
    unfold u32
    omega

def isSegmentInQueue (q : TcpQueue) (packet : Segment) : Bool :=
  q.queue.any fun info => packet.seqNum = info.packet.seqNum

def isAnySegmentInQueue (q : TcpQueue) : Bool := 0 < q.size

theorem queueBytes_eraseP {p : QueueInfo → Bool} {l : List QueueInfo} {info : QueueInfo}
    (h : l.find? p = some info) :
    queueBytes l = u32 info.packet.dPacketSize + queueBytes (l.eraseP p) := by
  induction l with
  | nil => simp at h
  | cons a l ih =>
    by_cases hp : p a
    · rw [List.find?_cons_of_pos hp, Option.some.injEq] at h
      rw [List.eraseP_cons_of_pos hp, queueBytes_cons, h]
    · rw [List.find?_cons_of_neg hp] at h
      rw [List.eraseP_cons_of_neg hp, queueBytes_cons, queueBytes_cons, ih h]
      omega

/-- `get_segment_from_queue`: the first packet with this `SeqNum`, taken out of the queue. -/
def getSegmentFromQueue (q : TcpQueue) (seqNo : Nat) : Option (Segment × TcpQueue) :=
  match h : q.queue.find? fun info => info.packet.seqNum = seqNo with
  | none => none
  | some info => some (info.packet,
      { size := sub32 q.size (u32 info.packet.dPacketSize)
        queue := q.queue.eraseP fun info => info.packet.seqNum = seqNo
        size_eq := by
          have hb := queueBytes_eraseP h
          rw [q.size_eq, hb]
          unfold sub32 u32
          omega })

/-- `get_copy_segment_from_queue`: a copy of the first packet with this `SeqNum`, and its flag. -/
def getCopySegmentFromQueue (q : TcpQueue) (seqNo : Nat) : Option (Segment × Bool) :=
  (q.queue.find? fun info => info.packet.seqNum = seqNo).map fun info =>
    (info.packet, info.isSacked)

theorem queueBytes_filter (p : QueueInfo → Bool) (l : List QueueInfo) :
    queueBytes l = queueBytes (l.filter p) + queueBytes (l.filter fun info => !p info) := by
  induction l with
  | nil => rfl
  | cons a l ih =>
    rw [List.filter_cons, List.filter_cons, queueBytes_cons, ih]
    cases hp : p a
    · simp
      omega
    · simp
      omega

/-- `delete_segment_from_queue`: without the packets that end at or below `ackNo`. -/
def deleteSegmentFromQueue (q : TcpQueue) (ackNo : Nat) : TcpQueue where
  size := sub32 q.size (queueBytes (q.queue.filter fun info => info.packet.seqEnd ≤ ackNo))
  queue := q.queue.filter fun info => !decide (info.packet.seqEnd ≤ ackNo)
  size_eq := by
    have hb := queueBytes_filter (fun info => decide (info.packet.seqEnd ≤ ackNo)) q.queue
    rw [q.size_eq, hb]
    unfold sub32 u32
    omega

/-- `delete_all_segment_from_queue` frees the packets and leaves the two fields as they are. -/
def deleteAllSegmentFromQueue (q : TcpQueue) : TcpQueue := q

/-- `check_for_other_segment_to_send_from_queue`: the first packet, if its `SeqNum` is below
`rcvNxt`. -/
def popBelow (q : TcpQueue) (rcvNxt : Nat) : Option (Segment × TcpQueue) :=
  match h : q.queue with
  | [] => none
  | info :: rest =>
    if info.packet.seqNum < rcvNxt then
      some (info.packet,
        { size := sub32 q.size (u32 info.packet.dPacketSize)
          queue := rest
          size_eq := by
            rw [q.size_eq, h, queueBytes_cons]
            unfold sub32 u32
            omega })
    else none

def mapSacked (q : TcpQueue) (f : QueueInfo → Bool) : TcpQueue where
  size := q.size
  queue := q.queue.map fun info => { info with isSacked := f info }
  size_eq := by
    rw [q.size_eq]
    simp [queueBytes, Function.comp_def]

/-- The packet whose end an acknowledgment names, for `get_RTT`. -/
def getRTT (q : TcpQueue) (dEventTime ackNo : Nat) : Nat :=
  match q.queue.find? fun info => info.packet.seqEnd = ackNo with
  | some info => dEventTime - info.time
  | none => 0

/-! ## What the operations do to the packets -/

@[simp] theorem segments_empty : empty.segments = [] := rfl

@[simp] theorem segments_mapSacked (q : TcpQueue) (f : QueueInfo → Bool) :
    (q.mapSacked f).segments = q.segments := by
  simp [segments, mapSacked, Function.comp_def]

theorem segments_addPacketToQueue (q : TcpQueue) (packet : Segment) (time : Nat) :
    (q.addPacketToQueue packet time).segments =
      q.segments.orderedInsert (fun a b => a.seqNum ≤ b.seqNum) packet := by
  unfold segments
  change (q.queue.orderedInsert seqLe ⟨packet, time, false⟩).map _ = _
  induction q.queue with
  | nil => rfl
  | cons a l ih =>
    rw [List.orderedInsert_cons, List.map_cons, List.orderedInsert_cons]
    by_cases h : seqLe ⟨packet, time, false⟩ a
    · rw [if_pos h, if_pos (show packet.seqNum ≤ a.packet.seqNum from h)]
      rfl
    · rw [if_neg h, if_neg (show ¬ packet.seqNum ≤ a.packet.seqNum from h), List.map_cons, ih]

variable {packet : Segment}

theorem pairwise_orderedInsert {l : List Segment}
    (hl : l.Pairwise fun a b => a.seqNum < b.seqNum) (hne : ∀ p ∈ l, p.seqNum ≠ packet.seqNum) :
    (l.orderedInsert (fun a b => a.seqNum ≤ b.seqNum) packet).Pairwise
      fun a b => a.seqNum < b.seqNum := by
  induction l with
  | nil => simp
  | cons a l ih =>
    obtain ⟨ha, hl⟩ := List.pairwise_cons.1 hl
    have hnea := hne a List.mem_cons_self
    rw [List.orderedInsert_cons]
    split
    · next hle =>
      apply List.pairwise_cons.2
      refine ⟨fun b hb => ?_, List.pairwise_cons.2 ⟨ha, hl⟩⟩
      rcases List.mem_cons.1 hb with rfl | hb
      · omega
      · have := ha b hb
        omega
    · next hgt =>
      apply List.pairwise_cons.2
      refine ⟨fun b hb => ?_, ih hl fun p hp => hne p (List.mem_cons_of_mem _ hp)⟩
      rcases (List.mem_orderedInsert _).1 hb with rfl | hb
      · omega
      · exact ha b hb

theorem segments_deleteSegmentFromQueue (q : TcpQueue) (ackNo : Nat) :
    (q.deleteSegmentFromQueue ackNo).segments = q.segments.filter fun p => ackNo < p.seqEnd := by
  unfold segments deleteSegmentFromQueue
  rw [List.filter_map]
  congr 1
  apply List.filter_congr
  intro info _
  simp only [Function.comp_apply, ← decide_not, Nat.not_le]

variable {q : TcpQueue}

theorem isSegmentInQueue_iff :
    q.isSegmentInQueue packet = true ↔ ∃ p ∈ q.segments, p.seqNum = packet.seqNum := by
  simp only [isSegmentInQueue, segments, List.any_eq_true, decide_eq_true_eq, List.mem_map]
  constructor
  · rintro ⟨info, hmem, heq⟩
    exact ⟨info.packet, ⟨info, hmem, rfl⟩, heq.symm⟩
  · rintro ⟨p, ⟨info, hmem, rfl⟩, heq⟩
    exact ⟨info, hmem, heq.symm⟩

theorem getSegmentFromQueue_eq_none {seqNo : Nat} :
    q.getSegmentFromQueue seqNo = none ↔ ∀ p ∈ q.segments, p.seqNum ≠ seqNo := by
  unfold getSegmentFromQueue
  split
  · next h =>
    simpa [segments] using h
  · next info h =>
    simp only [reduceCtorEq, false_iff, not_forall, not_not]
    have hmem := List.mem_of_find?_eq_some h
    have hseq := List.find?_some h
    exact ⟨info.packet, List.mem_map_of_mem hmem, by simpa using hseq⟩

variable {q' : TcpQueue}

theorem getSegmentFromQueue_some {seqNo : Nat}
    (h : q.getSegmentFromQueue seqNo = some (packet, q')) :
    packet.seqNum = seqNo ∧ ∃ l1 l2, q.segments = l1 ++ packet :: l2 ∧ q'.segments = l1 ++ l2 ∧
      ∀ p ∈ l1, p.seqNum ≠ seqNo := by
  unfold getSegmentFromQueue at h
  split at h
  · cases h
  · next info hfind =>
    obtain ⟨rfl, rfl⟩ := h
    have hseq : info.packet.seqNum = seqNo := by simpa using List.find?_some hfind
    obtain ⟨-, l1, l2, hq, hl1⟩ := List.find?_eq_some_iff_append.1 hfind
    refine ⟨hseq, l1.map QueueInfo.packet, l2.map QueueInfo.packet, ?_, ?_, ?_⟩
    · simp [segments, hq]
    · have he : (q.queue.eraseP fun info => decide (info.packet.seqNum = seqNo)) = l1 ++ l2 := by
        rw [hq, List.eraseP_append_right _ (by simpa using hl1), List.eraseP_cons_of_pos (by simpa)]
      simp [segments, he]
    · intro p hp
      obtain ⟨i, hi, rfl⟩ := List.mem_map.1 hp
      simpa using hl1 i hi

theorem mem_of_getSegmentFromQueue {seqNo : Nat}
    (h : q.getSegmentFromQueue seqNo = some (packet, q')) :
    packet ∈ q.segments ∧ ∀ p ∈ q'.segments, p ∈ q.segments := by
  obtain ⟨-, l1, l2, hq, hq', -⟩ := getSegmentFromQueue_some h
  rw [hq, hq']
  refine ⟨by simp, fun p hp => ?_⟩
  rcases List.mem_append.1 hp with hp | hp
  · exact List.mem_append_left _ hp
  · exact List.mem_append_right _ (List.mem_cons_of_mem _ hp)

theorem mem_addPacketToQueue {p : Segment} {time : Nat}
    (h : p ∈ (q.addPacketToQueue packet time).segments) : p = packet ∨ p ∈ q.segments := by
  rw [segments_addPacketToQueue] at h
  exact (List.mem_orderedInsert _).1 h

theorem segments_popBelow {rcvNxt : Nat} (h : q.popBelow rcvNxt = some (packet, q')) :
    q.segments = packet :: q'.segments ∧ packet.seqNum < rcvNxt := by
  unfold popBelow at h
  split at h
  · cases h
  · next info rest hq =>
    split at h
    · next hlt =>
      obtain ⟨rfl, rfl⟩ := h
      exact ⟨by simp [segments, hq], hlt⟩
    · cases h

theorem popBelow_eq_none {rcvNxt : Nat} :
    q.popBelow rcvNxt = none ↔ ∀ p, q.segments.head? = some p → rcvNxt ≤ p.seqNum := by
  unfold popBelow
  split
  · next hq => simp [segments, hq]
  · next info rest hq =>
    split
    · next hlt =>
      simp only [reduceCtorEq, segments, hq, false_iff, List.map_cons, List.head?_cons]
      intro h
      have := h _ rfl
      omega
    · next hlt =>
      simp only [segments, hq, true_iff, List.map_cons, List.head?_cons, Option.some.injEq]
      rintro p rfl
      omega

theorem segments_eq_nil (h : q.isAnySegmentInQueue = false)
    (hfit : queueBytes q.queue < 2 ^ 32) (hpos : ∀ p ∈ q.segments, 0 < u32 p.dPacketSize) :
    q.segments = [] := by
  have hsize : q.size = 0 := by simpa [isAnySegmentInQueue] using h
  have hb : queueBytes q.queue = 0 := by
    have := q.size_eq
    rwa [hsize, u32_of_lt hfit, eq_comm] at this
  unfold segments at *
  cases hq : q.queue with
  | nil => rfl
  | cons info l =>
    rw [hq, queueBytes_cons] at hb
    have := hpos info.packet (by simp [hq])
    omega

end TcpQueue

end NetSim.Tcp
