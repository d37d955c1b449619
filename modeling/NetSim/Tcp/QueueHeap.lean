import NetSim.Lib.LinkedList
import NetSim.Lib.Run
import NetSim.Tcp.Queue

/-!
# The queues of a TCP connection as linked lists (`TCB.c`)

The functions that cut `Queueinfo` cells into and out of a `TCP_QUEUE`, pointer by pointer.
`delete_all_segment_from_queue` frees the cells and leaves the pointer to the first.
-/

namespace NetSim.Tcp

open NetSim.Lib

/-- `TCP_QUEUE` with its cells, the packets handed back and freed, and the number of cells ever
allocated. -/
structure HeapQueue where
  list : LinkedList QueueInfo
  size : Nat
  taken : List Segment
  freed : List Segment
  callocs : Nat

namespace HeapQueue

/-- A zeroed `TCP_QUEUE`. -/
def empty : HeapQueue := ⟨.nil, 0, [], [], 0⟩

def isAnySegmentInQueue (s : HeapQueue) : Bool := 0 < s.size

/-! ## The functions -/

/-- The loop of `add_packet_to_queue`: the last cell with a smaller number, and the one behind it.
-/
def findPlace (heap : Nat → Option (Cell QueueInfo)) (seqNum : Nat) :
    Nat → Option Nat → Option Nat → Option (Option Nat × Option Nat)
  | _, pinfo, none => some (pinfo, none)
  | 0, _, some _ => none
  | fuel + 1, pinfo, some info =>
    match heap info with
    | none => none
    | some cell =>
      if cell.val.packet.seqNum < seqNum then findPlace heap seqNum fuel (some info) cell.next
      else some (pinfo, some info)

/-- `add_packet_to_queue`; `a` is the address that `calloc` returns. -/
def addPacketToQueue (s : HeapQueue) (a : Nat) (packet : Segment) (time : Nat) : Option HeapQueue :=
  match findPlace s.list.heap packet.seqNum s.callocs none s.list.head with
  | none => none
  | some (pinfo, info) =>
    (s.list.link pinfo a ⟨packet, time, false⟩ info).map fun list =>
      { s with
        list := list
        size := u32 (s.size + u32 packet.dPacketSize)
        callocs := s.callocs + 1 }

/-- The loop of `get_segment_from_queue`. -/
def getLoop (s : HeapQueue) (seqNo : Nat) : Nat → Option Nat → Option Nat → Option HeapQueue
  | _, _, none => some s
  | 0, _, some _ => none
  | fuel + 1, pr, some info =>
    match s.list.heap info with
    | none => none
    | some cell =>
      if cell.val.packet.seqNum = seqNo then
        (s.list.unlink pr info).map fun list =>
          { s with
            list := list
            size := sub32 s.size (u32 cell.val.packet.dPacketSize)
            taken := s.taken ++ [cell.val.packet] }
      else getLoop s seqNo fuel (some info) cell.next

def getSegmentFromQueue (s : HeapQueue) (seqNo : Nat) : Option HeapQueue :=
  getLoop s seqNo s.callocs none s.list.head

/-- The loop of `delete_segment_from_queue`. -/
def deleteLoop (ackNo : Nat) : Nat → HeapQueue → Option Nat → Option Nat → Option HeapQueue
  | _, s, _, none => some s
  | 0, _, _, some _ => none
  | fuel + 1, s, pr, some info =>
    match s.list.heap info with
    | none => none
    | some cell =>
      if cell.val.packet.seqEnd ≤ ackNo then
        match s.list.unlink pr info with
        | none => none
        | some list =>
          match list.behind pr with
          | none => none
          | some next =>
            deleteLoop ackNo fuel
              { s with
                list := list
                size := sub32 s.size (u32 cell.val.packet.dPacketSize)
                freed := s.freed ++ [cell.val.packet] } pr next
      else deleteLoop ackNo fuel s (some info) cell.next

def deleteSegmentFromQueue (s : HeapQueue) (ackNo : Nat) : Option HeapQueue :=
  deleteLoop ackNo s.callocs s none s.list.head

/-- The queue part of `check_for_other_segment_to_send_from_queue`. -/
def popBelow (s : HeapQueue) (rcvNxt : Nat) : Option HeapQueue :=
  match s.list.head with
  | none => some s
  | some info =>
    match s.list.heap info with
    | none => none
    | some cell =>
      if cell.val.packet.seqNum < rcvNxt then
        (s.list.unlink none info).map fun list =>
          { s with
            list := list
            size := sub32 s.size (u32 cell.val.packet.dPacketSize)
            taken := s.taken ++ [cell.val.packet] }
      else some s

/-- The loop of `free_queue`, which changes neither the head nor the counter. -/
def freeQueue : Nat → HeapQueue → Option Nat → Option HeapQueue
  | _, s, none => some s
  | 0, _, some _ => none
  | fuel + 1, s, some info =>
    match s.list.heap info with
    | none => none
    | some cell =>
      freeQueue fuel
        { s with
          list := { s.list with heap := Function.update s.list.heap info none }
          freed := s.freed ++ [cell.val.packet] } cell.next

def deleteAllSegmentFromQueue (s : HeapQueue) : Option HeapQueue :=
  freeQueue s.callocs s s.list.head

/-! ## What they do to the cells -/

structure HoldsCells (s : HeapQueue) (l : List (Nat × QueueInfo)) : Prop where
  holds : s.list.Holds l
  length_le : l.length ≤ s.callocs

def packetOf (x : Nat × QueueInfo) : Segment := x.2.packet

section Spec

variable {s : HeapQueue} {l l₁ l₂ : List (Nat × QueueInfo)}

theorem findPlace_spec (list : LinkedList QueueInfo) (seqNum : Nat) :
    ∀ (fuel : Nat) (l₁ l₂ : List (Nat × QueueInfo)), list.Holds (l₁ ++ l₂) → l₂.length ≤ fuel →
      ∃ l3 l4, l₂ = l3 ++ l4 ∧ (∀ x ∈ l3, (packetOf x).seqNum < seqNum) ∧
        (∀ x ∈ l4.head?, seqNum ≤ (packetOf x).seqNum) ∧
        findPlace list.heap seqNum fuel (LinkedList.lastAddr l₁) (LinkedList.headAddr l₂) =
          some (LinkedList.lastAddr (l₁ ++ l3), LinkedList.headAddr l4)
  | fuel, l₁, [], _, _ => ⟨[], [], rfl, nofun, nofun, by cases fuel <;> simp [findPlace, LinkedList.headAddr]⟩
  | 0, _, _ :: _, _, hfuel => by simp at hfuel
  | fuel + 1, l₁, (a, v) :: l₂, h, hfuel => by
    have hcell := h.heap_eq
    change ∃ l3 l4, _ ∧ _ ∧ _ ∧ findPlace list.heap seqNum (fuel + 1) _ (some a) = _
    unfold findPlace
    rw [hcell]
    dsimp only
    by_cases hlt : v.packet.seqNum < seqNum
    · rw [if_pos hlt]
      have h' : list.Holds ((l₁ ++ [(a, v)]) ++ l₂) := by simpa using h
      obtain ⟨l3, l4, rfl, hl3, hl4, heq⟩ :=
        findPlace_spec list seqNum fuel (l₁ ++ [(a, v)]) l₂ h' (by simpa using hfuel)
      rw [LinkedList.lastAddr_concat, List.append_assoc] at heq
      refine ⟨(a, v) :: l3, l4, rfl, ?_, hl4, heq⟩
      rintro x (_ | ⟨_, hx⟩)
      · exact hlt
      · exact hl3 x hx
    · rw [if_neg hlt]
      refine ⟨[], (a, v) :: l₂, rfl, nofun, ?_, by simp [LinkedList.headAddr]⟩
      rintro x ⟨⟩
      exact not_lt.1 hlt

theorem addPacketToQueue_spec (h : s.HoldsCells l) {a : Nat} (ha : s.list.heap a = none)
    (packet : Segment) (time : Nat) :
    ∃ s' l₁ l₂, s.addPacketToQueue a packet time = some s' ∧ l = l₁ ++ l₂ ∧
      (∀ x ∈ l₁, (packetOf x).seqNum < packet.seqNum) ∧
      (∀ x ∈ l₂.head?, packet.seqNum ≤ (packetOf x).seqNum) ∧
      s'.HoldsCells (l₁ ++ (a, ⟨packet, time, false⟩) :: l₂) ∧
      s'.size = u32 (s.size + u32 packet.dPacketSize) ∧ s'.taken = s.taken ∧ s'.freed = s.freed := by
  obtain ⟨l₁, l₂, rfl, hl1, hl2, hplace⟩ :=
    findPlace_spec s.list packet.seqNum s.callocs [] l h.holds h.length_le
  obtain ⟨list, hlist, hholds⟩ := LinkedList.link_spec h.holds ha ⟨packet, time, false⟩
  have hhead : s.list.head = LinkedList.headAddr (l₁ ++ l₂) := h.holds.head_eq
  rw [LinkedList.lastAddr_nil, List.nil_append, ← hhead] at hplace
  refine ⟨{ s with
      list := list
      size := u32 (s.size + u32 packet.dPacketSize)
      callocs := s.callocs + 1 }, l₁, l₂, ?_, rfl, hl1, hl2, ⟨hholds, ?_⟩, rfl, rfl, rfl⟩
  · unfold addPacketToQueue
    rw [hplace]
    dsimp only
    rw [hlist]
    rfl
  · have hlen := h.length_le
    simp only [List.length_append, List.length_cons] at hlen ⊢
    omega

/-- What `get_segment_from_queue` leaves: the first packet with the number is handed back. -/
def Got (s : HeapQueue) (p : Segment → Prop) (l : List (Nat × QueueInfo)) (s' : HeapQueue) : Prop :=
  (s' = s ∧ ∀ x ∈ l, ¬ p (packetOf x)) ∨
    ∃ l₁ x l₂, l = l₁ ++ x :: l₂ ∧ p (packetOf x) ∧ (∀ y ∈ l₁, ¬ p (packetOf y)) ∧
      s'.HoldsCells (l₁ ++ l₂) ∧ s'.size = sub32 s.size (u32 (packetOf x).dPacketSize) ∧
      s'.taken = s.taken ++ [packetOf x] ∧ s'.freed = s.freed

theorem getLoop_spec (hl : l.length ≤ s.callocs) (seqNo : Nat) :
    ∀ (fuel : Nat) (l₁ l₂ : List (Nat × QueueInfo)), l = l₁ ++ l₂ → s.list.Holds (l₁ ++ l₂) →
      (∀ x ∈ l₁, (packetOf x).seqNum ≠ seqNo) → l₂.length ≤ fuel →
      ∃ s', getLoop s seqNo fuel (LinkedList.lastAddr l₁) (LinkedList.headAddr l₂) = some s' ∧
        Got s (fun p => p.seqNum = seqNo) l s'
  | fuel, l₁, [], hsplit, _, hl1, _ => by
    refine ⟨s, by cases fuel <;> simp [getLoop, LinkedList.headAddr], .inl ⟨rfl, ?_⟩⟩
    rw [hsplit, List.append_nil]
    exact hl1
  | 0, _, _ :: _, _, _, _, hfuel => by simp at hfuel
  | fuel + 1, l₁, (a, v) :: l₂, hsplit, h, hl1, hfuel => by
    have hcell := h.heap_eq
    change ∃ s', getLoop s seqNo (fuel + 1) _ (some a) = some s' ∧ _
    unfold getLoop
    rw [hcell]
    dsimp only
    by_cases heq : v.packet.seqNum = seqNo
    · rw [if_pos heq]
      obtain ⟨list, hlist, hholds⟩ := LinkedList.unlink_spec h
      rw [hlist]
      refine ⟨_, rfl, .inr ⟨l₁, (a, v), l₂, hsplit, heq, hl1, ⟨hholds, ?_⟩, rfl, rfl, rfl⟩⟩
      rw [hsplit] at hl
      simp only [List.length_append, List.length_cons] at hl ⊢
      omega
    · rw [if_neg heq]
      have h' : s.list.Holds ((l₁ ++ [(a, v)]) ++ l₂) := by simpa using h
      have hrest := getLoop_spec hl seqNo fuel (l₁ ++ [(a, v)]) l₂ (by simpa using hsplit) h' (by
        intro x hx
        rcases List.mem_append.1 hx with hx | hx
        · exact hl1 x hx
        · rw [List.mem_singleton.1 hx]
          exact heq) (by simpa using hfuel)
      rwa [LinkedList.lastAddr_concat] at hrest

theorem getSegmentFromQueue_spec (h : s.HoldsCells l) (seqNo : Nat) :
    ∃ s', s.getSegmentFromQueue seqNo = some s' ∧ Got s (fun p => p.seqNum = seqNo) l s' := by
  have hget := getLoop_spec h.length_le seqNo s.callocs [] l rfl h.holds nofun h.length_le
  rwa [LinkedList.lastAddr_nil, ← h.holds.head_eq] at hget

theorem popBelow_spec (h : s.HoldsCells l) (rcvNxt : Nat) :
    ∃ s', s.popBelow rcvNxt = some s' ∧
      ((s' = s ∧ ∀ x ∈ l.head?, rcvNxt ≤ (packetOf x).seqNum) ∨
        ∃ x l₂, l = x :: l₂ ∧ (packetOf x).seqNum < rcvNxt ∧ s'.HoldsCells l₂ ∧
          s'.size = sub32 s.size (u32 (packetOf x).dPacketSize) ∧
          s'.taken = s.taken ++ [packetOf x] ∧ s'.freed = s.freed) := by
  have hhead := h.holds.head_eq
  have hlen := h.length_le
  unfold popBelow
  rw [hhead]
  match l with
  | [] => exact ⟨s, rfl, .inl ⟨rfl, nofun⟩⟩
  | (a, v) :: l₂ =>
    have hholds : s.list.Holds ([] ++ (a, v) :: l₂) := h.holds
    have hcell := hholds.heap_eq
    change ∃ s', (match s.list.heap a with
      | none => none
      | some cell => _) = some s' ∧ _
    rw [hcell]
    dsimp only
    by_cases hlt : v.packet.seqNum < rcvNxt
    · rw [if_pos hlt]
      obtain ⟨list, hlist, hholds'⟩ := LinkedList.unlink_spec hholds
      rw [LinkedList.lastAddr_nil] at hlist
      rw [hlist]
      refine ⟨_, rfl, .inr ⟨(a, v), l₂, rfl, hlt, ⟨hholds', ?_⟩, rfl, rfl, rfl⟩⟩
      simp only [List.length_cons] at hlen ⊢
      omega
    · rw [if_neg hlt]
      refine ⟨s, rfl, .inl ⟨rfl, ?_⟩⟩
      rintro x ⟨⟩
      exact not_lt.1 hlt

def sizeWithout (size : Nat) (packets : List Segment) : Nat :=
  packets.foldl (fun size p => sub32 size (u32 p.dPacketSize)) size

/-- The cells that `delete_segment_from_queue` keeps. -/
def keeps (ackNo : Nat) (x : Nat × QueueInfo) : Bool := ackNo < (packetOf x).seqEnd

theorem deleteLoop_spec (ackNo : Nat) :
    ∀ (fuel : Nat) (s : HeapQueue) (l₁ l₂ : List (Nat × QueueInfo)), s.HoldsCells (l₁ ++ l₂) →
      l₂.length ≤ fuel →
      ∃ s', deleteLoop ackNo fuel s (LinkedList.lastAddr l₁) (LinkedList.headAddr l₂) = some s' ∧
        s'.HoldsCells (l₁ ++ l₂.filter (keeps ackNo)) ∧
        s'.size = sizeWithout s.size ((l₂.filter fun x => !keeps ackNo x).map packetOf) ∧
        s'.taken = s.taken ∧
        s'.freed = s.freed ++ (l₂.filter fun x => !keeps ackNo x).map packetOf
  | fuel, s, l₁, [], h, _ => by
    refine ⟨s, by cases fuel <;> simp [deleteLoop, LinkedList.headAddr], h, rfl, rfl, ?_⟩
    simp
  | 0, _, _, _ :: _, _, hfuel => by simp at hfuel
  | fuel + 1, s, l₁, (a, v) :: l₂, h, hfuel => by
    have hcell := h.holds.heap_eq
    change ∃ s', deleteLoop ackNo (fuel + 1) _ _ (some a) = some s' ∧ _
    unfold deleteLoop
    rw [hcell]
    dsimp only
    by_cases hle : v.packet.seqEnd ≤ ackNo
    · have hkeeps : keeps ackNo (a, v) = false := decide_eq_false (not_lt.2 hle)
      rw [if_pos hle]
      obtain ⟨list, hlist, hholds⟩ := LinkedList.unlink_spec h.holds
      rw [hlist]
      dsimp only
      rw [hholds.behind_eq]
      dsimp only
      have hlen := h.length_le
      simp only [List.length_append, List.length_cons] at hlen hfuel
      obtain ⟨s', hs', hcells, hsize, htaken, hfreed⟩ := deleteLoop_spec ackNo fuel
        { s with
          list := list
          size := sub32 s.size (u32 v.packet.dPacketSize)
          freed := s.freed ++ [v.packet] } l₁ l₂
        ⟨hholds, by simp only [List.length_append]; omega⟩ (by omega)
      refine ⟨s', hs', ?_, ?_, htaken, ?_⟩
      · rw [List.filter_cons_of_neg (by simp [hkeeps])]
        exact hcells
      · rw [hsize, List.filter_cons_of_pos (by simp [hkeeps])]
        rfl
      · rw [hfreed, List.filter_cons_of_pos (by simp [hkeeps])]
        simp [packetOf]
    · have hkeeps : keeps ackNo (a, v) = true := decide_eq_true (not_le.1 hle)
      rw [if_neg hle]
      have h' : s.HoldsCells ((l₁ ++ [(a, v)]) ++ l₂) := by simpa using h
      obtain ⟨s', hs', hcells, hsize, htaken, hfreed⟩ :=
        deleteLoop_spec ackNo fuel s (l₁ ++ [(a, v)]) l₂ h' (by simpa using hfuel)
      rw [LinkedList.lastAddr_concat] at hs'
      refine ⟨s', hs', ?_, ?_, htaken, ?_⟩
      · rw [List.filter_cons_of_pos hkeeps]
        simpa using hcells
      · rw [hsize, List.filter_cons_of_neg (by simp [hkeeps])]
      · rw [hfreed, List.filter_cons_of_neg (by simp [hkeeps])]

theorem deleteSegmentFromQueue_spec (h : s.HoldsCells l) (ackNo : Nat) :
    ∃ s', s.deleteSegmentFromQueue ackNo = some s' ∧ s'.HoldsCells (l.filter (keeps ackNo)) ∧
      s'.size = sizeWithout s.size ((l.filter fun x => !keeps ackNo x).map packetOf) ∧
      s'.taken = s.taken ∧ s'.freed = s.freed ++ (l.filter fun x => !keeps ackNo x).map packetOf := by
  have hdelete := deleteLoop_spec ackNo s.callocs s [] l h h.length_le
  rwa [LinkedList.lastAddr_nil, ← h.holds.head_eq] at hdelete

theorem freeQueue_spec :
    ∀ (fuel : Nat) (s : HeapQueue) (p : Option Nat) (l : List (Nat × QueueInfo)),
      LinkedList.Seg s.list.heap p l none → (LinkedList.addrs l).Nodup → l.length ≤ fuel →
      ∃ s', freeQueue fuel s p = some s' ∧ s'.list.head = s.list.head ∧ s'.size = s.size ∧
        ∀ a, s'.list.heap a ≠ none → s.list.heap a ≠ none ∧ a ∉ LinkedList.addrs l
  | fuel, s, p, [], hseg, _, _ => by
    obtain rfl : p = none := hseg
    exact ⟨s, by cases fuel <;> rfl, rfl, rfl, fun _ ha => ⟨ha, nofun⟩⟩
  | 0, _, _, _ :: _, _, _, hfuel => by simp at hfuel
  | fuel + 1, s, p, (a, v) :: l, hseg, hnodup, hfuel => by
    obtain ⟨rfl, next, hcell, hrest⟩ := hseg
    rw [LinkedList.addrs, List.map_cons, List.nodup_cons] at hnodup
    unfold freeQueue
    rw [hcell]
    obtain ⟨s', hs', hhead, hsize, hheap⟩ := freeQueue_spec fuel
      { s with
        list := { s.list with heap := Function.update s.list.heap a none }
        freed := s.freed ++ [v.packet] } next l (hrest.update hnodup.1 _) hnodup.2
      (by simpa using hfuel)
    refine ⟨s', hs', hhead, hsize, fun b hb => ?_⟩
    obtain ⟨hb', hrest'⟩ := hheap b hb
    dsimp only at hb'
    by_cases he : b = a
    · subst he
      simp at hb'
    · rw [Function.update_of_ne he] at hb'
      refine ⟨hb', ?_⟩
      rintro (_ | ⟨_, hmem⟩)
      · exact he rfl
      · exact hrest' hmem

theorem deleteAllSegmentFromQueue_spec (h : s.HoldsCells l) :
    ∃ s', s.deleteAllSegmentFromQueue = some s' ∧ s'.list.head = s.list.head ∧ s'.size = s.size ∧
      ∀ a, s'.list.heap a = none := by
  obtain ⟨s', hs', hhead, hsize, hheap⟩ :=
    freeQueue_spec s.callocs s s.list.head l h.holds.seg h.holds.nodup h.length_le
  refine ⟨s', hs', hhead, hsize, fun a => ?_⟩
  by_contra ha
  obtain ⟨hs, hmem⟩ := hheap a ha
  exact hmem ((h.holds.allocated a).1 hs)

theorem deleteAllSegmentFromQueue_of_nil (h : s.list.head = none) :
    s.deleteAllSegmentFromQueue = some s := by
  unfold deleteAllSegmentFromQueue
  rw [h]
  cases s.callocs <;> rfl

end Spec

end HeapQueue

end NetSim.Tcp
