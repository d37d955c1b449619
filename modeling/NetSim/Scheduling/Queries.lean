import NetSim.Scheduling.Service

/-!
# Peeks and status queries

Two buffers are alike if the same packets can be taken from them in every run of later calls. Calls
keep that, and so do queries that meet their condition.
-/

namespace NetSim.Scheduling

/-! ## The lists of the priorities -/

def Heads.cursor (heads : Heads) : Priority := heads.nPacketPriority.getD .low

def Heads.hasPackets (heads : Heads) (p : Priority) : Bool := !(heads.getList p).packets.isEmpty

structure Heads.Alike (hasCursor : Bool) (heads heads' : Heads) : Prop where
  list : ∀ p, heads'.getList p = heads.getList p
  cursor : hasCursor = true → heads'.cursor = heads.cursor

namespace Buffer

variable {heads heads' : Heads} {hasCursor nFlag : Bool}

theorem getList_cursor (heads : Heads) (c : Option Priority) (p : Priority) :
    ({ heads with nPacketPriority := c }.getList p) = heads.getList p := by
  cases p <;> rfl

theorem setList_nPacketPriority (heads : Heads) (head : Head) (p : Priority) :
    (heads.setList head p).nPacketPriority = heads.nPacketPriority := by
  cases p <;> rfl

theorem visits_getD (tries : Nat) (c : Option Priority) :
    visits tries (some (c.getD .low)) = visits tries c := by
  cases c with
  | none => cases tries <;> rfl
  | some c => rfl

theorem getLast?_visits (c : Option Priority) : (visits 4 c).getLast? = some (c.getD .low) := by
  cases c with
  | none => rfl
  | some c => cases c <;> rfl

def found (tries : Nat) (heads : Heads) : Option Priority :=
  (visits tries heads.nPacketPriority).find? heads.hasPackets

theorem found_succ (tries : Nat) (heads : Heads) :
    found (tries + 1) heads =
      if heads.hasPackets (nextPriority heads.nPacketPriority) then
        some (nextPriority heads.nPacketPriority)
      else found tries { heads with nPacketPriority := some (nextPriority heads.nPacketPriority) } := by
  have hsame : (Heads.hasPackets { heads with
      nPacketPriority := some (nextPriority heads.nPacketPriority) }) = heads.hasPackets := by
    funext p
    rw [Heads.hasPackets, getList_cursor, Heads.hasPackets]
  rw [found, visits, List.find?_cons, found, hsame]
  cases heads.hasPackets (nextPriority heads.nPacketPriority) <;> rfl

def cursorAfter (tries : Nat) (heads : Heads) : Option Priority :=
  ((visits tries heads.nPacketPriority).getLast?).or heads.nPacketPriority

theorem cursorAfter_succ (tries : Nat) (heads : Heads) :
    cursorAfter (tries + 1) heads =
      cursorAfter tries { heads with nPacketPriority := some (nextPriority heads.nPacketPriority) } := by
  unfold cursorAfter
  rw [visits, List.getLast?_cons]
  cases (visits tries (some (nextPriority heads.nPacketPriority))).getLast? <;> rfl

theorem getRoundRobin_eq (start : Option Priority) (tries : Nat) (heads : Heads) :
    getRoundRobin nFlag start tries heads =
      match found tries heads with
      | none => ({ heads with nPacketPriority := cursorAfter tries heads }, none)
      | some p =>
        (if nFlag then ({ heads with nPacketPriority := some p }).setList
            { heads.getList p with packets := (heads.getList p).packets.tail } p
          else { heads with nPacketPriority := start }, (heads.getList p).packets.head?) := by
  induction tries generalizing heads with
  | zero => rfl
  | succ tries ih =>
    rw [getRoundRobin, found_succ, cursorAfter_succ]
    rw [getList_cursor]
    unfold Heads.hasPackets
    cases hlist : (heads.getList (nextPriority heads.nPacketPriority)).packets with
    | nil =>
      rw [ih]
      rfl
    | cons packet list =>
      simp only [List.isEmpty_cons, Bool.not_false, if_true, hlist, List.tail_cons, List.head?_cons]

theorem statusHeads_eq (tries : Nat) (heads : Heads) :
    statusHeads tries heads =
      match found tries heads with
      | none => ({ heads with nPacketPriority := cursorAfter tries heads }, false)
      | some p => ({ heads with nPacketPriority := some p }, true) := by
  induction tries generalizing heads with
  | zero => rfl
  | succ tries ih =>
    rw [statusHeads, found_succ, cursorAfter_succ, getList_cursor]
    unfold Heads.hasPackets
    cases hlist : (heads.getList (nextPriority heads.nPacketPriority)).packets with
    | nil =>
      rw [if_pos rfl, ih]
      rfl
    | cons packet list => rfl

theorem cursorAfter_four (heads : Heads) : cursorAfter 4 heads = some heads.cursor := by
  rw [cursorAfter, getLast?_visits]
  rfl

theorem found_four_eq_none : found 4 heads = none ↔ ∀ p, (heads.getList p).packets = [] := by
  rw [found, List.find?_eq_none]
  refine ⟨fun h p => ?_, fun h p _ => by simp [Heads.hasPackets, h p]⟩
  simpa [Heads.hasPackets] using h p (mem_visits _ p)

theorem found_spec {tries : Nat} {p : Priority} (h : found tries heads = some p) :
    (heads.getList p).packets ≠ [] := by
  have hp := List.find?_some h
  simpa [Heads.hasPackets] using hp

theorem hasPackets_alike (h : heads.Alike hasCursor heads') :
    heads'.hasPackets = heads.hasPackets := by
  funext p
  rw [Heads.hasPackets, h.list, Heads.hasPackets]

theorem found_alike (h : heads.Alike true heads') (tries : Nat) :
    found tries heads' = found tries heads := by
  rw [found, found, hasPackets_alike h, ← visits_getD, ← visits_getD _ heads.nPacketPriority]
  exact congrArg (fun c => (visits tries (some c)).find? heads.hasPackets) (h.cursor rfl)

theorem getRoundRobin_alike (h : heads.Alike true heads') :
    (getRoundRobin nFlag heads'.nPacketPriority 4 heads').2 =
        (getRoundRobin nFlag heads.nPacketPriority 4 heads).2 ∧
      (getRoundRobin nFlag heads.nPacketPriority 4 heads).1.Alike true
        (getRoundRobin nFlag heads'.nPacketPriority 4 heads').1 := by
  rw [getRoundRobin_eq, getRoundRobin_eq, found_alike h]
  cases hfound : found 4 heads with
  | none =>
    refine ⟨rfl, fun p => ?_, fun _ => ?_⟩
    · simp only [getList_cursor, h.list]
    · simp only [Heads.cursor, cursorAfter_four, Option.getD_some]
      exact h.cursor rfl
  | some p =>
    dsimp only
    rw [h.list]
    refine ⟨rfl, ?_⟩
    cases nFlag with
    | false =>
      refine ⟨fun q => ?_, fun _ => h.cursor rfl⟩
      exact h.list q
    | true =>
      refine ⟨fun q => ?_, fun _ => ?_⟩
      · simp only [if_true, getList_setList, getList_cursor, h.list]
      · simp only [if_true, Heads.cursor, setList_nPacketPriority]

theorem getWFQ_alike (h : heads.Alike false heads') :
    (getWFQ nFlag heads').2 = (getWFQ nFlag heads).2 ∧
      (getWFQ nFlag heads).1.Alike false (getWFQ nFlag heads').1 := by
  have hcount : nCount heads' = nCount heads := by
    funext p
    rw [nCount, h.list, nCount]
  unfold getWFQ
  dsimp only
  rw [hcount, h.list]
  split
  · exact ⟨rfl, h⟩
  · refine ⟨rfl, ?_⟩
    cases nFlag with
    | false => exact h
    | true =>
      refine ⟨fun q => ?_, nofun⟩
      simp only [if_true, getList_setList, h.list]

theorem statusHeads_getList (tries : Nat) (p : Priority) :
    (statusHeads tries heads).1.getList p = heads.getList p := by
  rw [statusHeads_eq]
  cases found tries heads <;> exact getList_cursor _ _ p

theorem statusHeads_alike (h : heads.Alike hasCursor heads') :
    (statusHeads 4 heads).1.Alike hasCursor (statusHeads 4 heads').1 := by
  refine ⟨fun p => by rw [statusHeads_getList, statusHeads_getList, h.list], fun hc => ?_⟩
  subst hc
  rw [statusHeads_eq, statusHeads_eq, found_alike h]
  cases found 4 heads with
  | none =>
    simp only [Heads.cursor, cursorAfter_four, Option.getD_some]
    exact h.cursor rfl
  | some p => rfl

theorem statusHeads_cursor (h : ∀ p, p ≠ heads.cursor → (heads.getList p).packets = []) :
    (statusHeads 4 heads).1.cursor = heads.cursor := by
  rw [statusHeads_eq]
  cases hfound : found 4 heads with
  | none => simp only [Heads.cursor, cursorAfter_four, Option.getD_some]
  | some p =>
    by_contra hne
    exact found_spec hfound (h p hne)

/-! ## What the account of a buffer decides -/

def relist (b other : Buffer) : Buffer :=
  { b with
    nSchedulingType := other.nSchedulingType
    nDequeuedPacket := other.nDequeuedPacket
    nDroppedPacket := other.nDroppedPacket
    pstruPacketlist := other.pstruPacketlist
    heads := other.heads }

variable {b b' other : Buffer} {pow : ℚ → ℚ → ℚ} {now random : ℚ} {data : Packet}
  {rest : List Packet}

theorem relist_self (b : Buffer) : b.relist b = b := rfl

theorem checkBuffer_relist (b other : Buffer) :
    (b.relist other).checkBuffer data rest =
      ((b.checkBuffer data rest).1.relist other, (b.checkBuffer data rest).2) := by
  have hmax : (b.relist other).setMaximum = b.setMaximum.relist other := by
    unfold setMaximum relist
    split <;> rfl
  unfold checkBuffer
  rw [hmax]
  generalize b.setMaximum = m
  have hsize : (m.relist other).dCurrentBufferSize = m.dCurrentBufferSize := rfl
  have hmaximum : (m.relist other).maximumBufferSize = m.maximumBufferSize := rfl
  dsimp only
  rw [hsize, hmaximum]
  by_cases hle : ((m.dCurrentBufferSize + chainSize data rest : Int) : ℚ) ≤ m.maximumBufferSize
  · rw [if_pos hle, if_pos hle]
    rfl
  · rw [if_neg hle, if_neg hle]

theorem reduceCurrentSizeBuffer_relist (b other : Buffer) :
    (b.relist other).reduceCurrentSizeBuffer data =
      (b.reduceCurrentSizeBuffer data).relist other := by
  have hsize : (b.relist other).dCurrentBufferSize = b.dCurrentBufferSize := rfl
  unfold reduceCurrentSizeBuffer
  rw [hsize]
  by_cases hneg : b.dCurrentBufferSize - toInt data.dataSize < 0
  · rw [if_pos hneg, if_pos hneg]
    rfl
  · rw [if_neg hneg, if_neg hneg]
    rfl

theorem addUnlessDropped_relist (b other : Buffer) (technique : Queuing) (status : Status) :
    (b.relist other).addUnlessDropped technique status data rest =
      ((b.addUnlessDropped technique status data rest).1.relist other,
        (b.addUnlessDropped technique status data rest).2) := by
  cases status <;> rfl

theorem queuing_relist (pow : ℚ → ℚ → ℚ) (now random : ℚ) (data : Packet) (rest : List Packet)
    (b other : Buffer) :
    (b.relist other).queuing pow now random data rest =
      ((b.queuing pow now random data rest).1.relist other,
        (b.queuing pow now random data rest).2) := by
  have htechnique : (b.relist other).queuingTechnique = b.queuingTechnique := rfl
  unfold queuing
  rw [htechnique]
  cases b.queuingTechnique with
  | null => exact checkBuffer_relist b other
  | dropTail => exact checkBuffer_relist b other
  | red queuing_var =>
    unfold Buffer.red
    rw [checkBuffer_relist]
    rcases b.checkBuffer data rest with ⟨b, _ | _⟩
    · dsimp only
      rw [reduceCurrentSizeBuffer_relist, addUnlessDropped_relist]
      rfl
    · rfl
  | wred queuing_var =>
    unfold Buffer.wred
    rw [checkBuffer_relist]
    rcases b.checkBuffer data rest with ⟨b, _ | _⟩
    · dsimp only
      rw [reduceCurrentSizeBuffer_relist]
      cases data.nPacketPriority with
      | none =>
        rfl
      | some priority =>
        dsimp only
        rw [addUnlessDropped_relist]
        rfl
    · rfl

theorem setIdle_relist (b other : Buffer) :
    (b.relist other).setIdle now = (b.setIdle now).relist other := by
  have htechnique : (b.relist other).queuingTechnique = b.queuingTechnique := rfl
  have hsize : (b.relist other).dCurrentBufferSize = b.dCurrentBufferSize := rfl
  unfold setIdle
  rw [htechnique, hsize]
  cases b.queuingTechnique with
  | null => rfl
  | dropTail => rfl
  | red queuing_var => by_cases hzero : b.dCurrentBufferSize = 0 <;> simp only [hzero] <;> rfl
  | wred queuing_var => by_cases hzero : b.dCurrentBufferSize = 0 <;> simp only [hzero] <;> rfl

theorem accountTaken_relist (now : ℚ) (nFlag : Bool) (packet : Packet) (b other : Buffer) :
    (b.relist other).accountTaken now nFlag packet =
      (b.accountTaken now nFlag packet).relist other := by
  have hmax : (b.relist other).dMaxBufferSize = b.dMaxBufferSize := rfl
  unfold accountTaken
  rw [hmax, reduceCurrentSizeBuffer_relist]
  by_cases hcount : nFlag = true ∧ b.dMaxBufferSize ≠ 0
  · rw [if_pos hcount, if_pos hcount, setIdle_relist]
  · rw [if_neg hcount, if_neg hcount, setIdle_relist]

theorem getFromList_relist {nFlag : Bool} (b : Buffer) :
    (b.getFromList now nFlag).1 = b.relist (b.getFromList now nFlag).1 := by
  unfold getFromList
  split
  · unfold getFromHeads
    split <;> rfl
  · unfold getFromHeads
    split <;> rfl
  · unfold getEDF
    dsimp only
    split
    · rfl
    · cases nFlag <;> rfl
  · unfold getFirst
    split
    · rfl
    · cases nFlag <;> rfl

/-! ## Buffers that are alike -/

/-- The same packets can be taken from two buffers from `now` on. -/
def ListsAlike (now : ℚ) (b b' : Buffer) : Prop :=
  match b.nSchedulingType with
  | .roundRobin => Option.Rel (Heads.Alike true) b.heads b'.heads
  | .wfq => Option.Rel (Heads.Alike false) b.heads b'.heads
  | .edf max_latency => ∀ t, now ≤ t →
      b'.pstruPacketlist.filter (fun packet => !isExpired t max_latency packet) =
        b.pstruPacketlist.filter fun packet => !isExpired t max_latency packet
  | _ => b'.pstruPacketlist = b.pstruPacketlist

structure Alike (now : ℚ) (b b' : Buffer) : Prop where
  account : b' = b.relist b'
  scheduling : b'.nSchedulingType = b.nSchedulingType
  lists : b.ListsAlike now b'

theorem alike_refl (heads : Heads) : heads.Alike hasCursor heads := ⟨fun _ => rfl, fun _ => rfl⟩

theorem alike_setList (h : heads.Alike hasCursor heads') (p : Priority) (head : Head) :
    (heads.setList head p).Alike hasCursor (heads'.setList head p) := by
  refine ⟨fun q => ?_, fun hc => ?_⟩
  · rw [getList_setList, getList_setList, h.list]
  · rw [Heads.cursor, setList_nPacketPriority, Heads.cursor, setList_nPacketPriority]
    exact h.cursor hc

theorem relAlike_refl (heads : Option Heads) : Option.Rel (Heads.Alike hasCursor) heads heads := by
  cases heads with
  | none => exact .none
  | some heads => exact .some (alike_refl heads)

theorem relAlike_symm {heads heads' : Option Heads}
    (h : Option.Rel (Heads.Alike hasCursor) heads heads') :
    Option.Rel (Heads.Alike hasCursor) heads' heads := by
  cases h with
  | none => exact .none
  | some h => exact .some ⟨fun p => (h.list p).symm, fun hc => (h.cursor hc).symm⟩

theorem relAlike_trans {heads heads' heads'' : Option Heads}
    (h : Option.Rel (Heads.Alike hasCursor) heads heads')
    (h' : Option.Rel (Heads.Alike hasCursor) heads' heads'') :
    Option.Rel (Heads.Alike hasCursor) heads heads'' := by
  cases h with
  | none =>
    cases h'
    exact .none
  | some h =>
    cases h' with
    | some h' =>
      exact .some ⟨fun p => (h'.list p).trans (h.list p),
        fun hc => (h'.cursor hc).trans (h.cursor hc)⟩

theorem getD_alike {heads heads' : Option Heads}
    (h : Option.Rel (Heads.Alike hasCursor) heads heads') :
    (heads.getD Heads.allocate).Alike hasCursor (heads'.getD Heads.allocate) := by
  cases h with
  | none => exact alike_refl _
  | some h => exact h

/-! ## Alike buffers are an equivalence -/

theorem getFromList_scheduling (now : ℚ) (nFlag : Bool) (b : Buffer) :
    (b.getFromList now nFlag).1.nSchedulingType = b.nSchedulingType := by
  unfold getFromList
  split
  · unfold getFromHeads
    split <;> rfl
  · unfold getFromHeads
    split <;> rfl
  · unfold getEDF
    dsimp only
    split
    · rfl
    · cases nFlag <;> rfl
  · unfold getFirst
    split
    · rfl
    · cases nFlag <;> rfl

namespace Alike

theorem of_lists (haccount : b' = b.relist b') (hs : b'.nSchedulingType = b.nSchedulingType)
    (hlist : b'.pstruPacketlist = b.pstruPacketlist) (hheads : b'.heads = b.heads) :
    b.Alike now b' := by
  refine ⟨haccount, hs, ?_⟩
  unfold ListsAlike
  rw [hlist, hheads]
  split
  · exact relAlike_refl _
  · exact relAlike_refl _
  · exact fun _ _ => rfl
  · rfl

theorem refl (b : Buffer) : b.Alike now b := of_lists rfl rfl rfl rfl

theorem symm (h : b.Alike now b') : b'.Alike now b := by
  refine ⟨by rw [h.account]; rfl, h.scheduling.symm, ?_⟩
  have hlists := h.lists
  unfold ListsAlike at hlists ⊢
  rw [h.scheduling]
  split at hlists
  · exact relAlike_symm hlists
  · exact relAlike_symm hlists
  · exact fun t ht => (hlists t ht).symm
  · exact hlists.symm

theorem trans {b'' : Buffer} (h : b.Alike now b') (h' : b'.Alike now b'') : b.Alike now b'' := by
  refine ⟨by rw [h'.account, h.account]; rfl, h'.scheduling.trans h.scheduling, ?_⟩
  have hlists := h.lists
  have hlists' := h'.lists
  unfold ListsAlike at hlists hlists' ⊢
  rw [h.scheduling] at hlists'
  revert hlists hlists'
  split
  · exact relAlike_trans
  · exact relAlike_trans
  · exact fun hlists hlists' t ht => (hlists' t ht).trans (hlists t ht)
  · exact fun hlists hlists' => hlists'.trans hlists

theorem relist (h : b.Alike now b') (x : Buffer) : (x.relist b).Alike now (x.relist b') :=
  ⟨rfl, h.scheduling, h.lists⟩

/-! ## Calls keep buffers alike -/

theorem addToList (h : b.Alike now b') :
    (b.addToList data rest).Alike now (b'.addToList data rest) := by
  have hsame : ∀ b : Buffer, b.addToList data rest = b.relist (b.addToList data rest) := by
    intro b
    unfold Buffer.addToList
    split <;> rfl
  have haccount := h.account
  refine ⟨?_, ?_, ?_⟩
  · rw [hsame b', haccount, hsame b]
    rfl
  · rw [addToList_same.scheduling, addToList_same.scheduling, h.scheduling]
  · have hlists := h.lists
    unfold ListsAlike at hlists ⊢
    unfold Buffer.addToList
    rw [h.scheduling]
    cases hs : b.nSchedulingType with
    | roundRobin =>
      rw [hs] at hlists
      have hget := getD_alike hlists
      refine .some ?_
      unfold addRoundRobin
      dsimp only
      rw [hget.list]
      exact alike_setList hget _ _
    | wfq =>
      rw [hs] at hlists
      have hget := getD_alike hlists
      refine .some ?_
      unfold addWFQ
      dsimp only
      rw [hget.list]
      exact alike_setList hget _ _
    | edf max_latency =>
      rw [hs] at hlists
      intro t ht
      rw [List.filter_append, List.filter_append, hlists t ht]
    | _ =>
      rw [hs] at hlists
      rw [hlists]

theorem addPacketToBuffer (h : b.Alike now b') {t : ℚ} :
    (b.addPacketToBuffer pow t random data rest).Alike now
      (b'.addPacketToBuffer pow t random data rest) := by
  have hqueuing := queuing_relist pow t random data rest b b'
  have hself := queuing_relist pow t random data rest b b
  rw [← h.account] at hqueuing
  rw [relist_self] at hself
  unfold Buffer.addPacketToBuffer
  rw [hqueuing]
  have hx := congrArg Prod.fst hself
  generalize b.queuing pow t random data rest = q at hx ⊢
  obtain ⟨x, status⟩ := q
  dsimp only at hx ⊢
  rw [hx]
  cases status with
  | underflow => exact (h.relist { x with nQueuedPacket := x.nQueuedPacket + 1 }).addToList
  | overflow => exact ⟨rfl, h.scheduling, h.lists⟩

theorem getFromHeads_alike {get : Heads → Heads × Option Packet}
    (hget : ∀ {heads heads' : Heads}, heads.Alike hasCursor heads' →
      (get heads').2 = (get heads).2 ∧ (get heads).1.Alike hasCursor (get heads').1)
    (h : Option.Rel (Heads.Alike hasCursor) b.heads b'.heads) :
    (b'.getFromHeads get).2 = (b.getFromHeads get).2 ∧
      Option.Rel (Heads.Alike hasCursor) (b.getFromHeads get).1.heads
        (b'.getFromHeads get).1.heads := by
  unfold getFromHeads
  cases hheads : b.heads with
  | none =>
    rw [hheads] at h
    cases hheads' : b'.heads with
    | none =>
      rw [hheads'] at h
      rw [hheads, hheads']
      exact ⟨rfl, h⟩
    | some heads' =>
      rw [hheads'] at h
      cases h
  | some heads =>
    rw [hheads] at h
    cases hheads' : b'.heads with
    | none =>
      rw [hheads'] at h
      cases h
    | some heads' =>
      rw [hheads'] at h
      cases h with
      | some h =>
        obtain ⟨hsame, hafter⟩ := hget h
        exact ⟨hsame, .some hafter⟩

theorem getFromList (h : b.Alike now b') {t : ℚ} (ht : now ≤ t) (nFlag : Bool) :
    (b'.getFromList t nFlag).2 = (b.getFromList t nFlag).2 ∧
      (b.getFromList t nFlag).1.Alike now (b'.getFromList t nFlag).1 := by
  have haccount := h.account
  have hrelist : (b'.getFromList t nFlag).1 =
      ((b.getFromList t nFlag).1).relist (b'.getFromList t nFlag).1 := by
    rw [getFromList_relist b', haccount, getFromList_relist b]
    rfl
  have hboth : (b'.getFromList t nFlag).2 = (b.getFromList t nFlag).2 ∧
      (b.getFromList t nFlag).1.ListsAlike now (b'.getFromList t nFlag).1 := by
    have hlists := h.lists
    unfold ListsAlike at hlists ⊢
    rw [getFromList_scheduling]
    unfold Buffer.getFromList
    rw [h.scheduling]
    cases hs : b.nSchedulingType with
    | roundRobin =>
      rw [hs] at hlists
      exact getFromHeads_alike getRoundRobin_alike hlists
    | wfq =>
      rw [hs] at hlists
      exact getFromHeads_alike getWFQ_alike hlists
    | edf max_latency =>
      rw [hs] at hlists
      have hdrop : (b'.dropExpiredPackets t max_latency).pstruPacketlist =
          (b.dropExpiredPackets t max_latency).pstruPacketlist := hlists t ht
      unfold getEDF
      dsimp only
      rw [hdrop]
      split
      · refine ⟨rfl, fun t' ht' => ?_⟩
        rw [hdrop]
      · refine ⟨rfl, fun t' ht' => ?_⟩
        cases nFlag with
        | false =>
          simp only [Bool.false_eq_true, if_false]
          rw [hdrop]
        | true => rfl
    | _ =>
      rw [hs] at hlists
      dsimp only at hlists ⊢
      unfold getFirst
      rw [hlists]
      split
      · next hnil => exact ⟨rfl, hlists⟩
      · refine ⟨rfl, ?_⟩
        cases nFlag with
        | false => exact hlists
        | true => rfl
  exact ⟨hboth.1, hrelist, by rw [getFromList_scheduling, getFromList_scheduling, h.scheduling],
    hboth.2⟩

end Alike

/-- The steps of `fn_NetSim_GetPacketFromBuffer`, without the counter and the test for a list. -/
def takeFromList (b : Buffer) (now : ℚ) (nFlag : Bool) : Buffer :=
  match (b.getFromList now nFlag).2 with
  | none => (b.getFromList now nFlag).1
  | some packet => (b.getFromList now nFlag).1.accountTaken now nFlag packet

theorem getFromList_of_no_list (now : ℚ) (nFlag : Bool) (h : b.hasPacketlist = false) :
    (b.getFromList now nFlag).2 = none ∧
      (b.getFromList now nFlag).1.pstruPacketlist = b.pstruPacketlist ∧
      (b.getFromList now nFlag).1.heads = b.heads := by
  unfold hasPacketlist at h
  unfold getFromList
  split
  · next hs =>
    rw [hs, SchedulingType.hasHeads, if_pos rfl, Option.isSome_eq_false_iff,
      Option.isNone_iff_eq_none] at h
    unfold getFromHeads
    rw [h]
    exact ⟨rfl, rfl, h⟩
  · next hs =>
    rw [hs, SchedulingType.hasHeads, if_pos rfl, Option.isSome_eq_false_iff,
      Option.isNone_iff_eq_none] at h
    unfold getFromHeads
    rw [h]
    exact ⟨rfl, rfl, h⟩
  · next max_latency hs =>
    have hnil : b.pstruPacketlist = [] := by simpa [hs, SchedulingType.hasHeads] using h
    have hdrop : (b.dropExpiredPackets now max_latency).pstruPacketlist = [] := by
      rw [dropExpiredPackets, hnil]
      rfl
    unfold getEDF
    dsimp only
    rw [hdrop]
    exact ⟨rfl, hdrop.trans hnil.symm, rfl⟩
  · next hrr hwfq _ =>
    have hheads : b.nSchedulingType.hasHeads = false := by
      cases hs : b.nSchedulingType with
      | roundRobin => exact absurd hs hrr
      | wfq => exact absurd hs hwfq
      | _ => rfl
    have hnil : b.pstruPacketlist = [] := by simpa [hheads] using h
    unfold getFirst
    rw [hnil]
    exact ⟨rfl, hnil, rfl⟩

theorem Alike.accountTaken (h : b.Alike now b') {t : ℚ} {nFlag : Bool} {packet : Packet} :
    (b.accountTaken t nFlag packet).Alike now (b'.accountTaken t nFlag packet) := by
  have hself := accountTaken_relist t nFlag packet b b
  rw [relist_self] at hself
  rw [h.account, accountTaken_relist, hself]
  exact h.relist _

theorem Alike.takeFromList (h : b.Alike now b') {t : ℚ} (ht : now ≤ t) (nFlag : Bool) :
    (b.takeFromList t nFlag).Alike now (b'.takeFromList t nFlag) := by
  obtain ⟨hsame, halike⟩ := h.getFromList ht nFlag
  unfold Buffer.takeFromList
  rw [hsame]
  split
  · exact halike
  · exact halike.accountTaken

theorem getPacketFromBuffer_alike (b : Buffer) {t : ℚ} (ht : now ≤ t) (nFlag : Bool) :
    (b.getPacketFromBuffer t nFlag).2 = (b.getFromList t nFlag).2 ∧
      (b.takeFromList t nFlag).Alike now (b.getPacketFromBuffer t nFlag).1 := by
  unfold getPacketFromBuffer
  by_cases hlist : b.hasPacketlist = true
  · have hcount : b.Alike now (b.countDequeued nFlag) := by
      cases nFlag <;> exact .of_lists rfl rfl rfl rfl
    obtain ⟨hsame, halike⟩ := hcount.getFromList ht nFlag
    have htake := hcount.takeFromList ht nFlag
    rw [if_pos hlist, ← hsame]
    unfold takeFromList at htake ⊢
    generalize (b.countDequeued nFlag).getFromList t nFlag = x at hsame halike htake ⊢
    obtain ⟨x, packet⟩ := x
    cases packet with
    | none => exact ⟨rfl, htake⟩
    | some packet => exact ⟨rfl, htake⟩
  · rw [if_neg hlist]
    obtain ⟨hnone, hsame, hheads⟩ := getFromList_of_no_list t nFlag (Bool.not_eq_true _ ▸ hlist)
    unfold takeFromList
    rw [hnone]
    exact ⟨rfl, (Alike.of_lists (getFromList_relist b) (getFromList_scheduling t nFlag b) hsame hheads).symm⟩

theorem Alike.getPacketFromBuffer (h : b.Alike now b') {t : ℚ} (ht : now ≤ t) (nFlag : Bool) :
    (b'.getPacketFromBuffer t nFlag).2 = (b.getPacketFromBuffer t nFlag).2 ∧
      (b.getPacketFromBuffer t nFlag).1.Alike now (b'.getPacketFromBuffer t nFlag).1 := by
  obtain ⟨hleft, hleft'⟩ := getPacketFromBuffer_alike b ht nFlag
  obtain ⟨hright, hright'⟩ := getPacketFromBuffer_alike b' ht nFlag
  refine ⟨?_, (hleft'.symm.trans (h.takeFromList ht nFlag)).trans hright'⟩
  rw [hleft, hright, (h.getFromList ht nFlag).1]

/-! ## Status queries -/

theorem getBufferStatus_relist (b : Buffer) : b.getBufferStatus.1 = b.relist b.getBufferStatus.1 := by
  unfold getBufferStatus
  split
  any_goals rfl
  all_goals split <;> rfl

theorem getBufferStatus_scheduling (b : Buffer) :
    b.getBufferStatus.1.nSchedulingType = b.nSchedulingType := by
  unfold getBufferStatus
  split
  any_goals rfl
  all_goals split <;> rfl

theorem getBufferStatus_heads (hb : b.nSchedulingType.hasHeads = true) :
    b.getBufferStatus.1.heads = b.heads.map fun heads => (statusHeads 4 heads).1 := by
  unfold getBufferStatus
  cases hs : b.nSchedulingType with
  | roundRobin =>
    cases hheads : b.heads with
    | none => exact hheads
    | some heads => rfl
  | wfq =>
    cases hheads : b.heads with
    | none => exact hheads
    | some heads => rfl
  | _ =>
    rw [hs] at hb
    cases hb

theorem getBufferStatus_list : b.getBufferStatus.1.pstruPacketlist = b.pstruPacketlist := by
  unfold getBufferStatus
  split
  any_goals rfl
  all_goals split <;> rfl

theorem Alike.getBufferStatus (h : b.Alike now b') :
    b.getBufferStatus.1.Alike now b'.getBufferStatus.1 := by
  have hstatus : ∀ {hasCursor : Bool}, Option.Rel (Heads.Alike hasCursor) b.heads b'.heads →
      Option.Rel (Heads.Alike hasCursor) (b.heads.map fun heads => (statusHeads 4 heads).1)
        (b'.heads.map fun heads => (statusHeads 4 heads).1) := by
    intro hasCursor hrel
    revert hrel
    cases b.heads <;> cases b'.heads <;> intro hrel <;> cases hrel
    · exact .none
    · next hrel => exact .some (statusHeads_alike hrel)
  refine ⟨?_, ?_, ?_⟩
  · rw [getBufferStatus_relist b', h.account, getBufferStatus_relist b]
    rfl
  · rw [getBufferStatus_scheduling, getBufferStatus_scheduling, h.scheduling]
  · have hlists := h.lists
    unfold ListsAlike at hlists ⊢
    rw [getBufferStatus_scheduling, getBufferStatus_list, getBufferStatus_list]
    cases hs : b.nSchedulingType with
    | roundRobin =>
      rw [hs] at hlists
      rw [getBufferStatus_heads (by rw [hs]; rfl),
        getBufferStatus_heads (by rw [h.scheduling, hs]; rfl)]
      exact hstatus hlists
    | wfq =>
      rw [hs] at hlists
      rw [getBufferStatus_heads (by rw [hs]; rfl),
        getBufferStatus_heads (by rw [h.scheduling, hs]; rfl)]
      exact hstatus hlists
    | _ =>
      rw [hs] at hlists
      exact hlists

theorem Alike.serve (h : b.Alike now b') {call : ServiceCall} (ht : now ≤ call.now) :
    (b.serve pow call).Alike now (b'.serve pow call) := by
  cases call with
  | add => exact h.addPacketToBuffer
  | peek t => exact (h.getPacketFromBuffer ht false).2
  | status => exact h.getBufferStatus
  | get t => exact (h.getPacketFromBuffer ht true).2

theorem Alike.gets (h : b.Alike now b') {calls : List ServiceCall}
    (ht : ∀ call ∈ calls, now ≤ call.now) : b'.gets pow calls = b.gets pow calls := by
  induction calls generalizing b b' with
  | nil => rfl
  | cons call calls ih =>
    have hcall := ht call List.mem_cons_self
    have hserve : (b.serve pow call).Alike now (b'.serve pow call) := h.serve hcall
    have hlater := ih hserve fun c hc => ht c (List.mem_cons_of_mem _ hc)
    rw [Buffer.gets, Buffer.gets, hlater, (h.getPacketFromBuffer hcall true).1]

end Buffer

end NetSim.Scheduling
