import NetSim.Tcp.QueueHeap

/-!
# The queue operations keep a queue what it is

The functions on cells do what those on a `TcpQueue` say (`represents_…`), in every run in which
`delete_all_segment_from_queue` finds an empty queue.
-/

namespace NetSim.Tcp

open NetSim.Lib

namespace HeapQueue

/-! ## The functions on a `TcpQueue` -/

def Represents (s : HeapQueue) (q : TcpQueue) : Prop :=
  ∃ l, s.HoldsCells l ∧ l.map Prod.snd = q.queue ∧ s.size = q.size

section Represents

variable {s : HeapQueue} {q : TcpQueue}

variable {info : QueueInfo}

theorem orderedInsert_append {l₁ l₂ : List QueueInfo}
    (h₁ : ∀ x ∈ l₁, x.packet.seqNum < info.packet.seqNum)
    (h₂ : ∀ x ∈ l₂.head?, info.packet.seqNum ≤ x.packet.seqNum) :
    (l₁ ++ l₂).orderedInsert TcpQueue.seqLe info = l₁ ++ info :: l₂ := by
  induction l₁ with
  | nil =>
    cases l₂ with
    | nil => rfl
    | cons x l₂ => exact if_pos (h₂ x rfl)
  | cons x l₁ ih =>
    have hx : ¬ TcpQueue.seqLe info x := not_le.2 (h₁ x List.mem_cons_self)
    rw [List.cons_append, List.orderedInsert_cons, if_neg hx,
      ih fun y hy => h₁ y (List.mem_cons_of_mem _ hy), List.cons_append]

theorem represents_addPacketToQueue (h : Represents s q) {a : Nat} (ha : s.list.heap a = none)
    (packet : Segment) (time : Nat) :
    ∃ s', s.addPacketToQueue a packet time = some s' ∧
      Represents s' (q.addPacketToQueue packet time) ∧ s'.taken = s.taken ∧ s'.freed = s.freed := by
  obtain ⟨l, hl, hqueue, hsize⟩ := h
  obtain ⟨s', l₁, l₂, hs', rfl, h₁, h₂, hcells, hsize', htaken, hfreed⟩ :=
    addPacketToQueue_spec hl ha packet time
  refine ⟨s', hs', ⟨_, hcells, ?_, ?_⟩, htaken, hfreed⟩
  · rw [List.map_append] at hqueue
    change _ = q.queue.orderedInsert TcpQueue.seqLe ⟨packet, time, false⟩
    rw [← hqueue, orderedInsert_append]
    · simp
    · intro x hx
      obtain ⟨y, hy, rfl⟩ := List.mem_map.1 hx
      exact h₁ y hy
    · intro x hx
      rw [List.head?_map] at hx
      obtain ⟨y, hy, rfl⟩ := Option.map_eq_some_iff.1 hx
      exact h₂ y hy
  · rw [hsize', hsize]
    rfl

theorem getSegmentFromQueue_of_split {seqNo : Nat} {l₁ l₂ : List QueueInfo}
    (hq : q.queue = l₁ ++ info :: l₂) (hinfo : info.packet.seqNum = seqNo)
    (h₁ : ∀ x ∈ l₁, x.packet.seqNum ≠ seqNo) :
    ∃ q', q.getSegmentFromQueue seqNo = some (info.packet, q') ∧ q'.queue = l₁ ++ l₂ ∧
      q'.size = sub32 q.size (u32 info.packet.dPacketSize) := by
  have hfind : (q.queue.find? fun info => info.packet.seqNum = seqNo) = some info := by
    rw [List.find?_eq_some_iff_append]
    exact ⟨by simpa using hinfo, l₁, l₂, hq, by simpa using h₁⟩
  have herase : (q.queue.eraseP fun info => info.packet.seqNum = seqNo) = l₁ ++ l₂ := by
    rw [hq, List.eraseP_append_right _ (by simpa using h₁), List.eraseP_cons_of_pos (by simpa)]
  unfold TcpQueue.getSegmentFromQueue
  split
  · next hnone =>
    rw [hfind] at hnone
    cases hnone
  · next info' hsome =>
    rw [hfind, Option.some.injEq] at hsome
    subst hsome
    exact ⟨_, rfl, herase, rfl⟩

theorem represents_getSegmentFromQueue (h : Represents s q) (seqNo : Nat) :
    ∃ s', s.getSegmentFromQueue seqNo = some s' ∧ s'.freed = s.freed ∧
      match q.getSegmentFromQueue seqNo with
      | none => s' = s
      | some (packet, q') => Represents s' q' ∧ s'.taken = s.taken ++ [packet] := by
  obtain ⟨l, hl, hqueue, hsize⟩ := h
  obtain ⟨s', hs', hgot⟩ := getSegmentFromQueue_spec hl seqNo
  refine ⟨s', hs', ?_⟩
  rcases hgot with ⟨rfl, hnone⟩ | ⟨l₁, x, l₂, rfl, hx, h₁, hcells, hsize', htaken, hfreed⟩
  · have hq : q.getSegmentFromQueue seqNo = none := by
      rw [TcpQueue.getSegmentFromQueue_eq_none]
      intro p hp
      obtain ⟨info, hinfo, rfl⟩ := List.mem_map.1 hp
      rw [← hqueue] at hinfo
      obtain ⟨y, hy, rfl⟩ := List.mem_map.1 hinfo
      exact hnone y hy
    rw [hq]
    exact ⟨rfl, rfl⟩
  · rw [List.map_append, List.map_cons] at hqueue
    obtain ⟨q', hq', hqueue', hqsize⟩ :=
      getSegmentFromQueue_of_split hqueue.symm hx (List.forall_mem_map.2 h₁)
    rw [hq']
    refine ⟨hfreed, ⟨l₁ ++ l₂, hcells, ?_, ?_⟩, htaken⟩
    · rw [List.map_append, hqueue']
    · rw [hsize', hqsize, hsize]
      rfl

theorem sizeWithout_eq {size : Nat} (hsize : size < 2 ^ 32) (l : List QueueInfo) :
    sizeWithout size (l.map QueueInfo.packet) = sub32 size (queueBytes l) := by
  induction l generalizing size with
  | nil =>
    change size = sub32 size 0
    unfold sub32
    omega
  | cons info l ih =>
    have hlt : sub32 size (u32 info.packet.dPacketSize) < 2 ^ 32 := Nat.mod_lt _ (by decide)
    change sizeWithout (sub32 size (u32 info.packet.dPacketSize)) (l.map QueueInfo.packet) = _
    rw [ih hlt, TcpQueue.queueBytes_cons]
    unfold sub32
    omega

theorem keeps_eq (ackNo : Nat) (x : Nat × QueueInfo) :
    keeps ackNo x = !decide (x.2.packet.seqEnd ≤ ackNo) := by
  by_cases h : x.2.packet.seqEnd ≤ ackNo
  · rw [decide_eq_true h]
    exact decide_eq_false (not_lt.2 h)
  · rw [decide_eq_false h]
    exact decide_eq_true (not_le.1 h)

theorem represents_deleteSegmentFromQueue (h : Represents s q) (ackNo : Nat) :
    ∃ s', s.deleteSegmentFromQueue ackNo = some s' ∧
      Represents s' (q.deleteSegmentFromQueue ackNo) ∧ s'.taken = s.taken ∧
      s'.freed = s.freed ++
        (q.queue.filter fun info => info.packet.seqEnd ≤ ackNo).map QueueInfo.packet := by
  obtain ⟨l, hl, hqueue, hsize⟩ := h
  obtain ⟨s', hs', hcells, hsize', htaken, hfreed⟩ := deleteSegmentFromQueue_spec hl ackNo
  have hremoved : (l.filter fun x => !keeps ackNo x).map packetOf =
      (q.queue.filter fun info => info.packet.seqEnd ≤ ackNo).map QueueInfo.packet := by
    rw [← hqueue, List.filter_map, List.map_map]
    congr 1
    refine List.filter_congr fun x _ => ?_
    rw [keeps_eq, Bool.not_not]
    rfl
  refine ⟨s', hs', ⟨_, hcells, ?_, ?_⟩, htaken, hremoved ▸ hfreed⟩
  · change _ = q.queue.filter fun info => !decide (info.packet.seqEnd ≤ ackNo)
    rw [← hqueue, List.filter_map]
    exact congrArg _ (List.filter_congr fun x _ => keeps_eq ackNo x)
  · have hlt : q.size < 2 ^ 32 := by
      rw [q.size_eq]
      exact u32_lt _
    rw [hsize', hremoved, hsize, sizeWithout_eq hlt]
    rfl

theorem popBelow_of_cons {rcvNxt : Nat} {rest : List QueueInfo}
    (hq : q.queue = info :: rest) (hlt : info.packet.seqNum < rcvNxt) :
    ∃ q', q.popBelow rcvNxt = some (info.packet, q') ∧ q'.queue = rest ∧
      q'.size = sub32 q.size (u32 info.packet.dPacketSize) := by
  unfold TcpQueue.popBelow
  split
  · next hnil =>
    rw [hq] at hnil
    cases hnil
  · next info' rest' hcons =>
    rw [hq, List.cons.injEq] at hcons
    obtain ⟨rfl, rfl⟩ := hcons
    rw [if_pos hlt]
    exact ⟨_, rfl, rfl, rfl⟩

theorem represents_popBelow (h : Represents s q) (rcvNxt : Nat) :
    ∃ s', s.popBelow rcvNxt = some s' ∧ s'.freed = s.freed ∧
      match q.popBelow rcvNxt with
      | none => s' = s
      | some (packet, q') => Represents s' q' ∧ s'.taken = s.taken ++ [packet] := by
  obtain ⟨l, hl, hqueue, hsize⟩ := h
  obtain ⟨s', hs', hpop⟩ := popBelow_spec hl rcvNxt
  refine ⟨s', hs', ?_⟩
  rcases hpop with ⟨rfl, hnone⟩ | ⟨x, l₂, rfl, hx, hcells, hsize', htaken, hfreed⟩
  · have hq : q.popBelow rcvNxt = none := by
      rw [TcpQueue.popBelow_eq_none]
      intro p hp
      unfold TcpQueue.segments at hp
      rw [← hqueue, List.map_map, List.head?_map] at hp
      obtain ⟨y, hy, rfl⟩ := Option.map_eq_some_iff.1 hp
      exact hnone y hy
    rw [hq]
    exact ⟨rfl, rfl⟩
  · obtain ⟨q', hq', hqueue', hqsize⟩ := popBelow_of_cons hqueue.symm hx
    rw [hq']
    refine ⟨hfreed, ⟨l₂, hcells, hqueue'.symm, ?_⟩, htaken⟩
    rw [hsize', hqsize, hsize]
    rfl

end Represents

/-! ## Runs -/

def Queued (s : HeapQueue) (l : List QueueInfo) : Prop :=
  ∃ cells, s.HoldsCells cells ∧ cells.map Prod.snd = l

/-- A call of one of the five functions; `a` is the address that `calloc` returns. -/
inductive QueueAction where
  | add (a : Nat) (packet : Segment) (time : Nat)
  | get (seqNo : Nat)
  | delete (ackNo : Nat)
  | pop (rcvNxt : Nat)
  | deleteAll

/-- `calloc` returns an address that is not allocated. -/
def Possible (s : HeapQueue) : QueueAction → Prop
  | .add a _ _ => s.list.heap a = none
  | _ => True

/-- One call. It fails where the code reads or writes through a pointer to no cell. -/
def step (s : HeapQueue) : QueueAction → Option HeapQueue
  | .add a packet time =>
    if (s.list.heap a).isNone then s.addPacketToQueue a packet time else none
  | .get seqNo => s.getSegmentFromQueue seqNo
  | .delete ackNo => s.deleteSegmentFromQueue ackNo
  | .pop rcvNxt => s.popBelow rcvNxt
  | .deleteAll => s.deleteAllSegmentFromQueue

def Changes (s s' : HeapQueue) (l l' : List QueueInfo) : QueueAction → Prop
  | .add _ packet time =>
    l'.Perm (⟨packet, time, false⟩ :: l) ∧ s'.taken = s.taken ∧ s'.freed = s.freed
  | .get seqNo =>
    s'.freed = s.freed ∧
      (((∀ info ∈ l, info.packet.seqNum ≠ seqNo) ∧ l' = l ∧ s'.taken = s.taken) ∨
        ∃ l₁ info l₂, l = l₁ ++ info :: l₂ ∧ info.packet.seqNum = seqNo ∧
          (∀ x ∈ l₁, x.packet.seqNum ≠ seqNo) ∧ l' = l₁ ++ l₂ ∧
          s'.taken = s.taken ++ [info.packet])
  | .delete ackNo =>
    l' = l.filter (fun info => !decide (info.packet.seqEnd ≤ ackNo)) ∧ s'.taken = s.taken ∧
      s'.freed = s.freed ++
        (l.filter fun info => info.packet.seqEnd ≤ ackNo).map QueueInfo.packet
  | .pop rcvNxt =>
    s'.freed = s.freed ∧
      (((∀ info ∈ l.head?, rcvNxt ≤ info.packet.seqNum) ∧ l' = l ∧ s'.taken = s.taken) ∨
        ∃ info, l = info :: l' ∧ info.packet.seqNum < rcvNxt ∧
          s'.taken = s.taken ++ [info.packet])
  | .deleteAll =>
    l' = [] ∧ s'.size = 0 ∧ s'.list.head = none ∧ (∀ a, s'.list.heap a = none) ∧
      s'.taken = s.taken ∧ s'.freed = s.freed ++ l.map QueueInfo.packet

/-- The call touches allocated cells only, and does what it names to the elements. -/
def Does (s : HeapQueue) (act : QueueAction) : Prop :=
  ∀ l, s.Queued l → ∃ s' l', s.step act = some s' ∧ s'.Queued l' ∧ Changes s s' l l' act

/-- The elements are sorted, and `size` is the sum of their packet sizes. -/
def QueueRight (s : HeapQueue) : Prop :=
  ∃ l, s.Queued l ∧ l.Pairwise TcpQueue.seqLe ∧ s.size = queueBytes l ∧
    (s.isAnySegmentInQueue = true ↔ l ≠ [])

/-- Packets have a size, and fit a `UINT` together; `delete_all_segment_from_queue` finds the queue
empty. -/
def MeetsQueue (s : HeapQueue) : QueueAction → Prop
  | .add _ packet _ => 0 < u32 packet.dPacketSize ∧ s.size + u32 packet.dPacketSize < 2 ^ 32
  | .deleteAll => s.list.head = none
  | _ => True

end HeapQueue

def TcpQueue.next (q : TcpQueue) : HeapQueue.QueueAction → TcpQueue
  | .add _ packet time => q.addPacketToQueue packet time
  | .get seqNo => ((q.getSegmentFromQueue seqNo).map Prod.snd).getD q
  | .delete ackNo => q.deleteSegmentFromQueue ackNo
  | .pop rcvNxt => ((q.popBelow rcvNxt).map Prod.snd).getD q
  | .deleteAll => .empty

namespace HeapQueue

section Steps

variable {s : HeapQueue} {q : TcpQueue} {act : QueueAction} {l l' : List QueueInfo}

theorem Queued.unique (h : s.Queued l) (h' : s.Queued l') : l = l' := by
  obtain ⟨cells, hcells, rfl⟩ := h
  obtain ⟨cells', hcells', rfl⟩ := h'
  rw [hcells.holds.seg.unique hcells'.holds.seg]

theorem Represents.queued (h : Represents s q) : s.Queued q.queue := by
  obtain ⟨cells, hcells, hqueue, -⟩ := h
  exact ⟨cells, hcells, hqueue⟩

theorem Represents.eq_nil (h : Represents s q) (hhead : s.list.head = none) : q.queue = [] := by
  obtain ⟨cells, hcells, hqueue, -⟩ := h
  have hseg := hcells.holds.seg
  rw [hhead] at hseg
  have hnil : cells = [] := hseg.unique rfl
  rw [← hqueue, hnil, List.map_nil]

theorem Represents.heap_eq_none (h : Represents s q) (hq : q.queue = []) (a : Nat) :
    s.list.heap a = none := by
  obtain ⟨cells, hcells, hqueue, -⟩ := h
  have hnil : cells = [] := List.map_eq_nil_iff.1 (hqueue.trans hq)
  by_contra ha
  have hmem := (hcells.holds.allocated a).1 ha
  rw [hnil] at hmem
  cases hmem

theorem queue_getSegmentFromQueue {q' : TcpQueue} {seqNo : Nat} {packet : Segment}
    (h : q.getSegmentFromQueue seqNo = some (packet, q')) :
    ∃ l₁ info l₂, q.queue = l₁ ++ info :: l₂ ∧ info.packet = packet ∧ packet.seqNum = seqNo ∧
      (∀ x ∈ l₁, x.packet.seqNum ≠ seqNo) ∧ q'.queue = l₁ ++ l₂ := by
  unfold TcpQueue.getSegmentFromQueue at h
  split at h
  · cases h
  · next info hfind =>
    obtain ⟨rfl, rfl⟩ := h
    obtain ⟨hinfo, l₁, l₂, hq, h₁⟩ := List.find?_eq_some_iff_append.1 hfind
    refine ⟨l₁, info, l₂, hq, rfl, of_decide_eq_true hinfo, by simpa using h₁, ?_⟩
    change q.queue.eraseP _ = _
    rw [hq, List.eraseP_append_right _ (by simpa using h₁), List.eraseP_cons_of_pos (by exact hinfo)]

theorem queue_popBelow {q' : TcpQueue} {rcvNxt : Nat} {packet : Segment}
    (h : q.popBelow rcvNxt = some (packet, q')) :
    ∃ info, q.queue = info :: q'.queue ∧ info.packet = packet ∧ packet.seqNum < rcvNxt := by
  unfold TcpQueue.popBelow at h
  split at h
  · cases h
  · next info rest hq =>
    split at h
    · next hlt =>
      obtain ⟨rfl, rfl⟩ := h
      exact ⟨info, hq, rfl, hlt⟩
    · cases h

theorem step_spec (h : Represents s q) (hp : s.Possible act) (hm : s.MeetsQueue act) :
    ∃ s', s.step act = some s' ∧ Represents s' (q.next act) ∧
      Changes s s' q.queue (q.next act).queue act := by
  cases act with
  | add a packet time =>
    obtain ⟨s', hs', hr, htaken, hfreed⟩ := represents_addPacketToQueue h hp packet time
    refine ⟨s', ?_, hr, List.perm_orderedInsert _ _ _, htaken, hfreed⟩
    have ha : s.list.heap a = none := hp
    change (if _ then _ else _) = _
    rw [ha]
    exact hs'
  | get seqNo =>
    obtain ⟨s', hs', hfreed, hmatch⟩ := represents_getSegmentFromQueue h seqNo
    refine ⟨s', hs', ?_⟩
    change Represents s' (((q.getSegmentFromQueue seqNo).map Prod.snd).getD q) ∧
      Changes s s' q.queue (((q.getSegmentFromQueue seqNo).map Prod.snd).getD q).queue _
    cases hget : q.getSegmentFromQueue seqNo with
    | none =>
      rw [hget] at hmatch
      subst hmatch
      refine ⟨h, rfl, .inl ⟨fun info hinfo => ?_, rfl, rfl⟩⟩
      exact TcpQueue.getSegmentFromQueue_eq_none.1 hget _ (List.mem_map_of_mem hinfo)
    | some r =>
      obtain ⟨packet, q'⟩ := r
      rw [hget] at hmatch
      obtain ⟨hr, htaken⟩ := hmatch
      obtain ⟨l₁, info, l₂, hq, rfl, hinfo, h₁, hq'⟩ := queue_getSegmentFromQueue hget
      exact ⟨hr, hfreed, .inr ⟨l₁, info, l₂, hq, hinfo, h₁, hq', htaken⟩⟩
  | delete ackNo =>
    obtain ⟨s', hs', hr, htaken, hfreed⟩ := represents_deleteSegmentFromQueue h ackNo
    exact ⟨s', hs', hr, rfl, htaken, hfreed⟩
  | pop rcvNxt =>
    obtain ⟨s', hs', hfreed, hmatch⟩ := represents_popBelow h rcvNxt
    refine ⟨s', hs', ?_⟩
    change Represents s' (((q.popBelow rcvNxt).map Prod.snd).getD q) ∧
      Changes s s' q.queue (((q.popBelow rcvNxt).map Prod.snd).getD q).queue _
    cases hpop : q.popBelow rcvNxt with
    | none =>
      rw [hpop] at hmatch
      subst hmatch
      refine ⟨h, rfl, .inl ⟨?_, rfl, rfl⟩⟩
      intro info hinfo
      apply TcpQueue.popBelow_eq_none.1 hpop
      unfold TcpQueue.segments
      rw [List.head?_map, Option.map_eq_some_iff]
      exact ⟨info, hinfo, rfl⟩
    | some r =>
      obtain ⟨packet, q'⟩ := r
      rw [hpop] at hmatch
      obtain ⟨hr, htaken⟩ := hmatch
      obtain ⟨info, hq, rfl, hlt⟩ := queue_popBelow hpop
      exact ⟨hr, hfreed, .inr ⟨info, hq, hlt, htaken⟩⟩
  | deleteAll =>
    have hhead : s.list.head = none := hm
    have hq := h.eq_nil hhead
    have hsize : s.size = 0 := by
      obtain ⟨-, -, -, hsize⟩ := h
      rw [hsize, q.size_eq, hq]
      rfl
    refine ⟨s, deleteAllSegmentFromQueue_of_nil hhead, ?_, ?_⟩
    · obtain ⟨cells, hcells, hqueue, -⟩ := h
      exact ⟨cells, hcells, hqueue.trans hq, hsize⟩
    · rw [hq]
      exact ⟨rfl, hsize, hhead, h.heap_eq_none hq, rfl, (List.append_nil _).symm⟩

theorem possible_of_step {s' : HeapQueue} (h : s.step act = some s') : s.Possible act := by
  cases act with
  | add a packet time =>
    by_contra ha
    have hsome : ¬ (s.list.heap a).isNone = true :=
      fun hnone => ha (Option.isNone_iff_eq_none.1 hnone)
    change (if _ then _ else _) = _ at h
    rw [if_neg hsome] at h
    cases h
  | _ => trivial

theorem next_sublist (hact : ∀ a packet time, act ≠ .add a packet time) :
    (q.next act).queue.Sublist q.queue := by
  cases act with
  | add a packet time => exact absurd rfl (hact a packet time)
  | get seqNo =>
    change (((q.getSegmentFromQueue seqNo).map Prod.snd).getD q).queue.Sublist _
    cases hget : q.getSegmentFromQueue seqNo with
    | none => exact List.Sublist.refl _
    | some r =>
      obtain ⟨packet, q'⟩ := r
      obtain ⟨l₁, info, l₂, hq, -, -, -, hq'⟩ := queue_getSegmentFromQueue hget
      change q'.queue.Sublist q.queue
      rw [hq, hq']
      exact (List.sublist_cons_self _ _).append_left l₁
  | delete ackNo => exact List.filter_sublist
  | pop rcvNxt =>
    change (((q.popBelow rcvNxt).map Prod.snd).getD q).queue.Sublist _
    cases hpop : q.popBelow rcvNxt with
    | none => exact List.Sublist.refl _
    | some r =>
      obtain ⟨info, hq, -, -⟩ := queue_popBelow hpop
      rw [hq]
      exact List.sublist_cons_self _ _
  | deleteAll => exact List.nil_sublist _

structure Ordered (q : TcpQueue) : Prop where
  sorted : q.queue.Pairwise TcpQueue.seqLe
  pos : ∀ info ∈ q.queue, 0 < u32 info.packet.dPacketSize
  fits : queueBytes q.queue < 2 ^ 32

theorem Ordered.size_eq (hq : Ordered q) : q.size = queueBytes q.queue :=
  q.size_eq.trans (u32_of_lt hq.fits)

instance : Std.Total TcpQueue.seqLe := ⟨fun a b => Nat.le_total a.packet.seqNum b.packet.seqNum⟩

instance : IsTrans QueueInfo TcpQueue.seqLe := ⟨fun _ _ _ => Nat.le_trans⟩

theorem Ordered.next (hq : Ordered q) (h : Represents s q) (hm : s.MeetsQueue act) :
    Ordered (q.next act) := by
  by_cases hact : ∃ a packet time, act = .add a packet time
  · obtain ⟨a, packet, time, rfl⟩ := hact
    obtain ⟨hpos, hfits⟩ := hm
    have hperm := List.perm_orderedInsert TcpQueue.seqLe ⟨packet, time, false⟩ q.queue
    obtain ⟨-, -, -, hsize⟩ := h
    refine ⟨hq.sorted.orderedInsert _ _, fun info hinfo => ?_, ?_⟩
    · rcases List.mem_cons.1 (hperm.mem_iff.1 hinfo) with rfl | hinfo
      · exact hpos
      · exact hq.pos info hinfo
    · change queueBytes (q.queue.orderedInsert TcpQueue.seqLe ⟨packet, time, false⟩) < _
      rw [TcpQueue.queueBytes_perm hperm, TcpQueue.queueBytes_cons, ← hq.size_eq, ← hsize,
        Nat.add_comm]
      exact hfits
  · push Not at hact
    have hsub : (q.next act).queue.Sublist q.queue := next_sublist hact
    refine ⟨hq.sorted.sublist hsub, fun info hinfo => hq.pos info (hsub.subset hinfo), ?_⟩
    have hle : queueBytes (q.next act).queue ≤ queueBytes q.queue :=
      (hsub.map _).sum_le_sum fun _ _ => Nat.zero_le _
    exact lt_of_le_of_lt hle hq.fits

theorem Ordered.queueRight (hq : Ordered q) (h : Represents s q) : s.QueueRight := by
  have hqueued := h.queued
  obtain ⟨-, -, -, hsize⟩ := h
  refine ⟨q.queue, hqueued, hq.sorted, hsize.trans hq.size_eq, ?_⟩
  unfold isAnySegmentInQueue
  rw [hsize, hq.size_eq, decide_eq_true_eq]
  constructor
  · intro hpos hnil
    rw [hnil] at hpos
    exact absurd hpos (lt_irrefl _)
  · intro hne
    obtain ⟨info, l, hcons⟩ := List.exists_cons_of_ne_nil hne
    have hinfo := hq.pos info (hcons ▸ List.mem_cons_self)
    rw [hcons, TcpQueue.queueBytes_cons]
    omega

theorem represents_empty : Represents empty .empty :=
  ⟨[], ⟨LinkedList.holds_nil, le_rfl⟩, rfl, rfl⟩

theorem stale_of_deleteAll {s' : HeapQueue} (h : s.Queued l) (hne : l ≠ [])
    (hs' : s.deleteAllSegmentFromQueue = some s') :
    s'.list.head ≠ none ∧ ∀ a, s'.list.heap a = none := by
  obtain ⟨cells, hcells, rfl⟩ := h
  obtain ⟨t, ht, hhead, -, hheap⟩ := deleteAllSegmentFromQueue_spec hcells
  rw [hs', Option.some.injEq] at ht
  subst ht
  refine ⟨?_, hheap⟩
  rw [hhead, hcells.holds.head_eq]
  cases cells with
  | nil => exact absurd rfl hne
  | cons x cells => exact Option.some_ne_none _

theorem not_queued_of_stale (hhead : s.list.head ≠ none) (hheap : ∀ a, s.list.heap a = none) :
    ¬ s.Queued l := by
  rintro ⟨cells, hcells, -⟩
  have hseg := hcells.holds.seg
  cases cells with
  | nil => exact hhead hseg
  | cons x cells =>
    obtain ⟨-, next, hcell, -⟩ := hseg
    rw [hheap] at hcell
    cases hcell

theorem head_eq_none_of_does (h : Represents s q) (hdoes : s.Does .deleteAll) :
    s.list.head = none := by
  obtain ⟨s', l', hs', hl', -⟩ := hdoes q.queue h.queued
  by_contra hhead
  have hne : q.queue ≠ [] := by
    intro hnil
    obtain ⟨cells, hcells, hqueue, -⟩ := h
    have hcells_nil : cells = [] := List.map_eq_nil_iff.1 (hqueue.trans hnil)
    rw [hcells.holds.head_eq, hcells_nil] at hhead
    exact hhead rfl
  obtain ⟨hhead', hheap⟩ := stale_of_deleteAll h.queued hne hs'
  exact not_queued_of_stale hhead' hheap hl'

end Steps

/-- In every run a queue is what it should be, and every call does what it names. -/
def QueueRepresentation : Prop :=
  ∀ tr s, Run step empty tr s → s.QueueRight ∧ ∀ act, s.Possible act → s.Does act

/-- It is so in a run of calls that meet the condition, and exactly for the next call that does. -/
theorem queueRepresentation_of_meets {tr : List (HeapQueue × QueueAction)} {s : HeapQueue}
    (run : Run step empty tr s) (hmeets : ∀ x ∈ tr, x.1.MeetsQueue x.2) :
    s.QueueRight ∧ (∀ act, s.Possible act → s.MeetsQueue act → s.Does act) ∧
      (s.Does .deleteAll ↔ s.MeetsQueue .deleteAll) := by
  have hinv : ∃ q, Represents s q ∧ Ordered q := by
    refine run.induction (P := fun _ s => ∃ q, Represents s q ∧ Ordered q)
      (Q := fun s act => s.MeetsQueue act) ⟨.empty, represents_empty, ?_⟩ ?_ hmeets
    · exact ⟨List.Pairwise.nil, nofun, by decide⟩
    · rintro tr s act s' - ⟨q, hr, hq⟩ hm hstep
      obtain ⟨t, ht, hr', -⟩ := step_spec hr (possible_of_step hstep) hm
      rw [hstep, Option.some.injEq] at ht
      subst ht
      exact ⟨q.next act, hr', hq.next hr hm⟩
  obtain ⟨q, hr, hq⟩ := hinv
  have hdoes : ∀ act, s.Possible act → s.MeetsQueue act → s.Does act := by
    intro act hp hm l hl
    obtain rfl := hr.queued.unique hl
    obtain ⟨s', hs', hr', hchanges⟩ := step_spec hr hp hm
    exact ⟨s', _, hs', hr'.queued, hchanges⟩
  exact ⟨hq.queueRight hr, hdoes, fun h => head_eq_none_of_does hr h, hdoes .deleteAll trivial⟩

def segment₀ : Segment := ⟨0, 0, 20, false, false, false, true, 0, [], none, 5, none⟩

def queue₁ : HeapQueue where
  list := ⟨Function.update (fun _ => none) 0 (some ⟨⟨segment₀, 0, false⟩, none⟩), some 0⟩
  size := 25
  taken := []
  freed := []
  callocs := 1

theorem run_queue₁ : Run step empty [(empty, .add 0 segment₀ 0)] queue₁ := Run.nil.snoc rfl

theorem queueRepresentation_queue₁ :
    queue₁.QueueRight ∧ (∀ act, queue₁.Possible act → queue₁.MeetsQueue act → queue₁.Does act) ∧
      (queue₁.Does .deleteAll ↔ queue₁.MeetsQueue .deleteAll) :=
  queueRepresentation_of_meets run_queue₁ (by
    rintro x (_ | ⟨_, hx⟩)
    · exact ⟨by decide, by decide⟩
    · cases hx)

/-- A reset in `TCPCONNECTION_SYN_RECEIVED` deletes a queue: the head points to freed memory. -/
theorem not_queueRepresentation : ¬ QueueRepresentation := by
  intro h
  obtain ⟨⟨l, hl, -, hsize, -⟩, hdoes⟩ := h _ _ run_queue₁
  obtain ⟨s', l', hs', hl', -⟩ := hdoes .deleteAll trivial l hl
  have hne : l ≠ [] := by
    rintro rfl
    cases hsize
  obtain ⟨hhead, hheap⟩ := stale_of_deleteAll hl hne hs'
  exact not_queued_of_stale hhead hheap hl'

end HeapQueue

end NetSim.Tcp
