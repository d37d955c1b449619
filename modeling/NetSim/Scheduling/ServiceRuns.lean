import NetSim.Scheduling.ServiceOrder

/-!
# Runs of a buffer

Every call that meets its condition keeps the invariant, and the service of a whole run is right.
-/

namespace NetSim.Scheduling

open NetSim.Lib Buffer

/-! ## Calls keep the invariant -/

section

variable {s s' : Service} {b b' : Buffer} {queue : List Packet} {pow : ℚ → ℚ → ℚ} {now : ℚ}
  {call : ServiceCall}

theorem ListsHold.congr (h : ListsHold b queue) (hs : b'.nSchedulingType = b.nSchedulingType)
    (hlist : b'.pstruPacketlist = b.pstruPacketlist) (hheads : b'.heads = b.heads) :
    ListsHold b' queue := by
  unfold ListsHold
  rw [hs, hlist, hheads]
  exact h

variable {random : ℚ} {data : Packet} {rest : List Packet}

theorem queuing_lists {x : Buffer}
    {status : Status} (h : b.queuing pow now random data rest = (x, status)) :
    x.nSchedulingType = b.nSchedulingType ∧ x.pstruPacketlist = b.pstruPacketlist ∧
      x.heads = b.heads := by
  have hself := queuing_relist pow now random data rest b b
  rw [relist_self] at hself
  have hx := congrArg Prod.fst hself
  rw [h] at hx
  dsimp only at hx
  rw [hx]
  exact ⟨rfl, rfl, rfl⟩

theorem Service.Holds.add (h : s.Holds) (hok : s.StepOk pow (.add now random data rest)) :
    Service.Holds
      { buffer := s.buffer.serve pow (.add now random data rest)
        queue := s.queueAfter pow (.add now random data rest), now := now } := by
  unfold Service.StepOk at hok
  dsimp only at hok
  unfold Buffer.serve Service.queueAfter addPacketToBuffer
  dsimp only
  cases hq : s.buffer.queuing pow now random data rest with
  | mk x status =>
    obtain ⟨hs, hlist, hheads⟩ := queuing_lists hq
    rw [hq] at hok
    cases status with
    | overflow => exact ⟨h.lists.congr hs hlist hheads, h.counts.of_heads hs hheads⟩
    | underflow =>
      have hchain := hok.resolve_left nofun
      have hx : Service.Holds ⟨{ x with nQueuedPacket := x.nQueuedPacket + 1 }, s.queue, s.now⟩ :=
        ⟨h.lists.congr hs hlist hheads, h.counts.of_heads hs hheads⟩
      have hchain' : rest = [] ∨ Service.ChainOk
          ⟨{ x with nQueuedPacket := x.nQueuedPacket + 1 }, s.queue, s.now⟩ data rest := by
        refine hchain.imp_right fun hchain => ?_
        rw [hs]
        exact hchain
      obtain ⟨hlists, hcounts⟩ := hx.addToList hchain'
      exact ⟨by rw [if_pos rfl]; exact hlists, hcounts⟩

theorem Service.Holds.take (h : s.Holds) (nFlag : Bool) :
    ListsHold (s.buffer.getPacketFromBuffer now nFlag).1
        (if nFlag then
          match (s.buffer.getPacketFromBuffer now nFlag).2 with
          | none => s.present now
          | some packet => (s.present now).erase packet
        else s.present now) ∧
      CountsHeads (s.buffer.getPacketFromBuffer now nFlag).1 := by
  obtain ⟨htaken, hs, hlist, hheads⟩ := getPacketFromBuffer_lists s.buffer now nFlag
  have hs' := hs.trans (getFromList_scheduling now nFlag s.buffer).symm
  refine ⟨?_, ?_⟩
  · rw [htaken]
    exact (getFromList_right now nFlag h).lists.congr hs' hlist hheads
  · exact (Taken.counts (getFromList_taken h.counts) h.counts).of_heads hs' hheads

theorem Service.Holds.status (h : s.Holds) :
    ListsHold s.buffer.getBufferStatus.1 s.queue ∧ CountsHeads s.buffer.getBufferStatus.1 := by
  have hs := getBufferStatus_scheduling s.buffer
  by_cases hheads : s.buffer.nSchedulingType.hasHeads = true
  · have hafter := getBufferStatus_heads hheads
    have hlists := h.lists
    refine ⟨?_, fun hwfq heads hsome p => ?_⟩
    · have hlistOf : ∀ p, listOf s.buffer.getBufferStatus.1.heads p = listOf s.buffer.heads p := by
        intro p
        rw [hafter]
        cases s.buffer.heads with
        | none => rfl
        | some heads => exact congrArg Head.packets (statusHeads_getList 4 p)
      unfold ListsHold at hlists ⊢
      rw [hs]
      cases htype : s.buffer.nSchedulingType with
      | roundRobin =>
        rw [htype] at hlists
        exact fun p => (hlistOf p).trans (hlists p)
      | wfq =>
        rw [htype] at hlists
        exact fun p => (hlistOf p).trans (hlists p)
      | _ =>
        rw [htype] at hheads
        cases hheads
    · rw [hs] at hwfq
      rw [hafter] at hsome
      cases hold : s.buffer.heads with
      | none =>
        rw [hold] at hsome
        cases hsome
      | some heads' =>
        rw [hold, Option.map_some] at hsome
        cases hsome
        rw [statusHeads_getList]
        exact h.counts hwfq heads' hold p
  · have hsame : s.buffer.getBufferStatus.1 = s.buffer := by
      unfold getBufferStatus
      cases htype : s.buffer.nSchedulingType with
      | roundRobin =>
        rw [htype] at hheads
        exact absurd rfl hheads
      | wfq =>
        rw [htype] at hheads
        exact absurd rfl hheads
      | _ => rfl
    rw [hsame]
    exact ⟨h.lists, h.counts⟩

theorem Service.Holds.step (h : s.Holds) (hok : s.StepOk pow call)
    (hstep : s.step pow call = some s') : s'.Holds := by
  obtain ⟨-, heq⟩ := Option.ite_none_right_eq_some.1 hstep
  cases heq
  cases call with
  | add t random data rest => exact h.add hok
  | peek t => exact ⟨(h.take false).1, (h.take false).2⟩
  | status t => exact ⟨h.status.1, h.status.2⟩
  | get t => exact ⟨(h.take true).1, (h.take true).2⟩

theorem Service.IsEmpty.holds (h : s.IsEmpty) : s.Holds := by
  refine ⟨?_, fun _ heads hsome => ?_⟩
  · unfold ListsHold
    rw [h.list, h.heads, h.queue]
    cases s.buffer.nSchedulingType with
    | priority => exact ⟨.nil, fun _ => rfl⟩
    | _ => first | exact .nil | exact fun _ => rfl | rfl
  · rw [h.heads] at hsome
    cases hsome

/-! ## Queries have no effect -/

theorem isExpired_mono {max_latency : Qos → ℚ} {packet : Packet} {t : ℚ} (ht : now ≤ t)
    (h : isExpired now max_latency packet = true) : isExpired t max_latency packet = true := by
  unfold isExpired at h ⊢
  cases hqos : packet.nQOS with
  | none =>
    rw [hqos] at h
    cases h
  | some qos =>
    rw [hqos] at h
    have hlt := of_decide_eq_true h
    refine decide_eq_true ?_
    unfold deadline at hlt ⊢
    linarith

theorem getFromList_alike (b : Buffer) (now : ℚ) : b.Alike now (b.getFromList now false).1 := by
  refine ⟨getFromList_relist b, getFromList_scheduling now false b, ?_⟩
  unfold ListsAlike getFromList
  cases b.nSchedulingType with
  | roundRobin =>
    unfold getFromHeads
    cases hheads : b.heads with
    | none =>
      rw [hheads]
      exact .none
    | some heads =>
      refine .some ?_
      dsimp only
      rw [getRoundRobin_eq]
      cases found 4 heads with
      | none =>
        refine ⟨fun p => getList_cursor _ _ p, fun _ => ?_⟩
        simp only [Heads.cursor, cursorAfter_four, Option.getD_some]
      | some c => exact ⟨fun p => getList_cursor _ _ p, fun _ => rfl⟩
  | wfq =>
    unfold getFromHeads
    cases hheads : b.heads with
    | none =>
      rw [hheads]
      exact .none
    | some heads =>
      refine .some ?_
      unfold getWFQ
      dsimp only
      split <;> exact alike_refl heads
  | edf max_latency =>
    intro t ht
    have hdrop : ((b.getEDF now max_latency false).1).pstruPacketlist =
        b.pstruPacketlist.filter fun packet => !isExpired now max_latency packet := by
      unfold getEDF
      dsimp only
      split <;> rfl
    rw [hdrop, List.filter_filter]
    refine List.filter_congr fun packet _ => ?_
    cases hexpired : isExpired now max_latency packet with
    | false => simp
    | true => simp [isExpired_mono ht hexpired]
  | _ =>
    dsimp only
    unfold getFirst
    split <;> rfl

theorem Service.Holds.peek_alike (h : s.Holds) (hok : s.StepOk pow (.peek now)) :
    s.buffer.Alike now (s.buffer.serve pow (.peek now)) := by
  refine Alike.trans ?_ (getPacketFromBuffer_alike s.buffer (le_refl now) false).2
  have halike := getFromList_alike s.buffer now
  unfold takeFromList
  split
  · exact halike
  · next packet htaken =>
    have hmem := ((getFromList_right now false h).right packet htaken).1
    have hidle : ∀ x : Buffer, x = s.buffer.relist x → x.setIdle now = x := by
      intro x hx
      have htechnique : x.queuingTechnique = s.buffer.queuingTechnique := by rw [hx]; rfl
      have hsize : x.dCurrentBufferSize = s.buffer.dCurrentBufferSize := by rw [hx]; rfl
      unfold Service.StepOk at hok
      unfold setIdle
      rw [htechnique, hsize]
      cases hq : s.buffer.queuingTechnique with
      | red queuing_var =>
        rw [hq] at hok
        exact if_neg (hok.resolve_left (List.ne_nil_of_mem hmem))
      | wred queuing_var =>
        rw [hq] at hok
        exact if_neg (hok.resolve_left (List.ne_nil_of_mem hmem))
      | _ => rfl
    unfold accountTaken
    rw [if_neg (fun hflag => Bool.false_ne_true hflag.1), hidle _ halike.account]
    exact halike

variable {heads : Heads}

theorem Service.cursor_eq (h : s.buffer.heads = some heads) : s.cursor = heads.cursor := by
  rw [Service.cursor, h]
  rfl

theorem Service.Holds.status_alike (h : s.Holds) (hok : s.StepOk pow (.status now)) :
    s.buffer.Alike now (s.buffer.serve pow (.status now)) := by
  refine ⟨getBufferStatus_relist _, getBufferStatus_scheduling _, ?_⟩
  change s.buffer.ListsAlike now s.buffer.getBufferStatus.1
  unfold Buffer.ListsAlike
  unfold Service.StepOk at hok
  cases hs : s.buffer.nSchedulingType with
  | roundRobin =>
    rw [hs] at hok
    have hhas : s.buffer.nSchedulingType.hasHeads = true := by rw [hs]; rfl
    rw [getBufferStatus_heads hhas]
    cases hheads : s.buffer.heads with
    | none => exact .none
    | some heads =>
      refine .some ⟨fun p => statusHeads_getList 4 p, fun _ => statusHeads_cursor fun p hp => ?_⟩
      have hzero := hok p (by rw [Service.cursor_eq hheads]; exact hp)
      rw [backlog_eq h hhas hheads] at hzero
      exact List.length_eq_zero_iff.1 hzero
  | wfq =>
    rw [getBufferStatus_heads (by rw [hs]; rfl)]
    cases s.buffer.heads with
    | none => exact .none
    | some heads => exact .some ⟨fun p => statusHeads_getList 4 p, Bool.noConfusion⟩
  | edf max_latency =>
    intro t _
    rw [getBufferStatus_list]
  | _ => exact getBufferStatus_list

/-! ## Status queries are right -/

theorem isSome_of_right {nFlag : Bool} {x : Buffer × Option Packet} (h : TakenRight s now nFlag x)
    (hnear : s.HasNear now) : x.2.isSome = !(s.present now).isEmpty := by
  cases hx : x.2 with
  | none => rw [h.empty hnear hx]; rfl
  | some packet =>
    have hmem := (h.right packet hx).1
    cases hpresent : s.present now with
    | nil =>
      rw [hpresent] at hmem
      cases hmem
    | cons => rfl

theorem statusHeads_isSome :
    (statusHeads 4 heads).2 = true ↔ ∃ p, (heads.getList p).packets ≠ [] := by
  rw [statusHeads_eq]
  cases hfound : found 4 heads with
  | none =>
    refine iff_of_false nofun ?_
    rintro ⟨p, hp⟩
    exact hp (found_four_eq_none.1 hfound p)
  | some p => exact iff_of_true rfl ⟨p, found_spec hfound⟩

theorem Service.Holds.status_eq (h : s.Holds) (hclass : s.buffer.nSchedulingType ≠ .classBased) :
    s.buffer.getBufferStatus.2 = !s.queue.isEmpty := by
  have hlists := h.lists
  unfold ListsHold at hlists
  by_cases hhas : s.buffer.nSchedulingType.hasHeads = true
  · have hstatus : s.buffer.getBufferStatus.2 =
        (s.buffer.heads.map fun heads => (statusHeads 4 heads).2).getD false := by
      unfold getBufferStatus
      cases hs : s.buffer.nSchedulingType with
      | roundRobin =>
        cases s.buffer.heads <;> rfl
      | wfq =>
        cases s.buffer.heads <;> rfl
      | _ =>
        rw [hs] at hhas
        cases hhas
    rw [hstatus]
    have hlistOf := h.list_eq hhas
    cases hheads : s.buffer.heads with
    | none =>
      rw [hheads] at hlistOf
      rw [queue_eq_nil fun p => (hlistOf p).symm]
      rfl
    | some heads =>
      rw [hheads] at hlistOf
      rw [Option.map_some, Option.getD_some, Bool.eq_iff_iff, statusHeads_isSome]
      constructor
      · rintro ⟨p, hp⟩
        cases hqueue : s.queue with
        | nil =>
          rw [hqueue] at hlistOf
          exact absurd (hlistOf p) hp
        | cons => rfl
      · intro hne
        by_contra hall
        have hnil : s.queue = [] := queue_eq_nil fun p =>
          (hlistOf p).symm.trans (not_not.1 fun hp => hall ⟨p, hp⟩)
        rw [hnil] at hne
        cases hne
  · unfold getBufferStatus
    cases hs : s.buffer.nSchedulingType with
    | roundRobin =>
      rw [hs] at hhas
      exact absurd rfl hhas
    | wfq =>
      rw [hs] at hhas
      exact absurd rfl hhas
    | classBased => exact absurd hs hclass
    | priority =>
      rw [hs] at hlists
      have hempty : s.buffer.pstruPacketlist = [] ↔ s.queue = [] := by
        constructor
        · intro hnil
          rw [List.eq_nil_iff_forall_not_mem]
          intro packet hp
          have hin : packet ∈ s.queue.filter fun x => x.priority = packet.priority :=
            List.mem_filter.2 ⟨hp, decide_eq_true rfl⟩
          rw [← hlists.2, hnil] at hin
          cases hin
        · intro hnil
          rw [List.eq_nil_iff_forall_not_mem]
          intro packet hp
          have hin : packet ∈ s.buffer.pstruPacketlist.filter fun x =>
              x.priority = packet.priority := List.mem_filter.2 ⟨hp, decide_eq_true rfl⟩
          rw [hlists.2, hnil] at hin
          cases hin
      rw [Bool.eq_iff_iff, Bool.not_eq_true', Bool.not_eq_true', List.isEmpty_eq_false_iff,
        List.isEmpty_eq_false_iff, Ne, Ne, hempty]
    | edf max_latency =>
      rw [hs] at hlists
      rw [Bool.eq_iff_iff, Bool.not_eq_true', Bool.not_eq_true', List.isEmpty_eq_false_iff,
        List.isEmpty_eq_false_iff, Ne, Ne, ← List.length_eq_zero_iff, hlists.length_eq,
        List.length_eq_zero_iff]
    | _ =>
      rw [hs] at hlists
      rw [hlists]

theorem Service.Holds.stepRight (h : s.Holds) (hok : s.StepOk pow call) : s.StepRight pow call := by
  cases call with
  | add => trivial
  | peek t => exact fun calls ht => (h.peek_alike hok).gets ht
  | get t =>
    have hright := getFromList_right t true h
    have htaken := (getPacketFromBuffer_lists s.buffer t true).1
    refine ⟨fun packet hp => ?_, fun hnone => ?_⟩
    · rw [Service.taken, htaken] at hp
      exact hright.right packet hp
    · rw [Service.taken, htaken] at hnone
      exact hright.empty hok hnone
  | status t =>
    refine ⟨fun hpresent => ?_, fun calls ht => (h.status_alike hok).gets ht⟩
    have hright := getFromList_right t true h
    rw [Service.taken, (getPacketFromBuffer_lists s.buffer t true).1]
    unfold Service.StepOk at hok
    by_cases hclass : s.buffer.nSchedulingType = .classBased
    · rw [hclass] at hok
      have hnear : s.HasNear t := by
        unfold Service.HasNear
        rw [hclass]
        trivial
      rw [isSome_of_right hright hnear, hpresent, hok, getBufferStatus, hclass]
      rfl
    · have hnear : s.HasNear t := by
        cases hs : s.buffer.nSchedulingType with
        | edf max_latency =>
          rw [hs] at hok
          exact hok
        | _ =>
          unfold Service.HasNear
          rw [hs]
          trivial
      rw [isSome_of_right hright hnear, hpresent, h.status_eq hclass]

/-! ## Round robin comes to every class -/

/-- The number of lists that round robin looks at before that of `p`. -/
def turns (cursor p : Priority) : Nat := (visits 4 (some cursor)).idxOf p

theorem turns_lt (cursor p : Priority) : turns cursor p < 4 := by
  cases cursor <;> cases p <;> decide

variable {p : Priority}

theorem turns_lt_turns {c c' : Priority} (h : turns c c' ≤ turns c p) (hne : c' ≠ p) :
    turns c' p < turns c p := by
  revert h hne
  cases c <;> cases c' <;> cases p <;> decide

theorem turns_found {c : Priority} (h : found 4 heads = some c)
    (hp : (heads.getList p).packets ≠ []) : turns heads.cursor c ≤ turns heads.cursor p := by
  unfold found at h
  rw [← visits_getD] at h
  obtain ⟨-, before, after, hvisits, hbefore⟩ := List.find?_eq_some_iff_append.1 h
  have hnot : p ∉ before := by
    intro hin
    have hempty := hbefore p hin
    unfold Heads.hasPackets at hempty
    simp only [Bool.not_not, List.isEmpty_iff] at hempty
    exact hp hempty
  unfold turns Heads.cursor
  rw [hvisits, List.idxOf_append_of_notMem hnot]
  refine Nat.le_trans ?_ (Nat.le_add_right _ _)
  by_cases hc : c ∈ before
  · rw [List.idxOf_append_of_mem hc]
    exact (List.idxOf_lt_length_iff.2 hc).le
  · rw [List.idxOf_append_of_notMem hc, List.idxOf_cons_self, Nat.add_zero]

theorem cursor_alike {heads heads' : Option Heads} (h : Option.Rel (Heads.Alike true) heads heads') :
    (heads'.bind Heads.nPacketPriority).getD .low = (heads.bind Heads.nPacketPriority).getD .low := by
  cases h with
  | none => rfl
  | some h => exact h.cursor rfl

theorem Service.Holds.get_cursor (pow : ℚ → ℚ → ℚ) (now : ℚ) (h : s.Holds)
    (hs : s.buffer.nSchedulingType = .roundRobin) (hp : 0 < backlog s.queue p) :
    ∃ packet, s.taken now = some packet ∧
      (((s.buffer.serve pow (.get now)).heads.bind Heads.nPacketPriority).getD .low = packet.cls) ∧
      (packet.cls ≠ p → turns packet.cls p < turns s.cursor p) := by
  have hhas : s.buffer.nSchedulingType.hasHeads = true := by rw [hs]; rfl
  obtain ⟨htaken, -, -, hheads⟩ := getPacketFromBuffer_lists s.buffer now true
  have hlists := h.list_eq hhas
  unfold Service.taken Buffer.serve
  rw [htaken, hheads]
  unfold getFromList
  rw [hs]
  unfold getFromHeads
  cases hsome : s.buffer.heads with
  | none =>
    rw [hsome] at hlists
    rw [backlog, List.countP_eq_length_filter, ← hlists] at hp
    cases hp
  | some heads =>
    rw [backlog_eq h hhas hsome] at hp
    have hne := List.ne_nil_of_length_pos hp
    rw [hsome] at hlists
    dsimp only
    rw [getRoundRobin_eq]
    cases hfound : found 4 heads with
    | none => exact absurd (found_four_eq_none.1 hfound p) hne
    | some c =>
      cases hlist : (heads.getList c).packets with
      | nil => exact absurd hlist (found_spec hfound)
      | cons packet list =>
        obtain ⟨-, hcls, -, -⟩ := listOf_cons hlists hlist
        refine ⟨packet, congrArg List.head? hlist, ?_, fun hother => ?_⟩
        · rw [hcls]
          simp only [if_true, Option.bind_some, setList_nPacketPriority, Option.getD_some]
        · rw [hcls] at hother ⊢
          rw [Service.cursor_eq hsome]
          exact turns_lt_turns (turns_found hfound hne) hother

theorem add_cursor (b : Buffer) :
    ((b.serve pow (.add now random data rest)).heads.bind Heads.nPacketPriority).getD .low =
      (b.heads.bind Heads.nPacketPriority).getD .low := by
  unfold Buffer.serve addPacketToBuffer
  dsimp only
  cases hq : b.queuing pow now random data rest with
  | mk x status =>
    obtain ⟨hs, -, hheads⟩ := queuing_lists hq
    cases status with
    | overflow => exact congrArg (fun heads => (heads.bind Heads.nPacketPriority).getD .low) hheads
    | underflow =>
      dsimp only
      rw [← hheads]
      unfold Buffer.addToList
      have hset : ∀ head p, (((x.heads.getD Heads.allocate).setList head p).nPacketPriority).getD
          .low = (x.heads.bind Heads.nPacketPriority).getD .low := by
        intro head p
        rw [setList_nPacketPriority]
        cases x.heads <;> rfl
      split
      · rfl
      · exact hset _ _
      · exact hset _ _
      · rfl

theorem Service.Holds.step_cursor (h : s.Holds) (hs : s.buffer.nSchedulingType = .roundRobin)
    (hok : s.StepOk pow call) (hstep : s.step pow call = some s') (hget : call.isGet = false) :
    s'.cursor = s.cursor := by
  obtain ⟨-, heq⟩ := Option.ite_none_right_eq_some.1 hstep
  cases heq
  have hlists : ∀ {b' : Buffer}, s.buffer.Alike call.now b' →
      (b'.heads.bind Heads.nPacketPriority).getD .low =
        (s.buffer.heads.bind Heads.nPacketPriority).getD .low := by
    intro b' halike
    have hlists := halike.lists
    unfold ListsAlike at hlists
    rw [hs] at hlists
    exact cursor_alike hlists
  cases call with
  | add => exact add_cursor s.buffer
  | peek t => exact hlists (h.peek_alike hok)
  | status t => exact hlists (h.status_alike hok)
  | get => cases hget

end

/-! ## Runs -/

section

variable {s₀ s : Service} {pow : ℚ → ℚ → ℚ} {tr : List (Service × ServiceCall)}

theorem holds_of_run (h0 : s₀.IsEmpty) (run : Run (Service.step pow) s₀ tr s)
    (hok : ∀ x ∈ tr, x.1.StepOk pow x.2) : s.Holds :=
  Run.induction (P := fun _ s => s.Holds) h0.holds
    (fun _ _ _ _ _ hholds hstep hs => hholds.step hstep hs) run hok

theorem turns_of_run (h0 : s₀.IsEmpty) {part pre : List (Service × ServiceCall)} {p : Priority}
    (run : Run (Service.step pow) s₀ (part ++ pre) s) (hok : ∀ x ∈ part ++ pre, x.1.StepOk pow x.2)
    (hs : ∀ x ∈ part, x.1.buffer.nSchedulingType = .roundRobin)
    (hp : ∀ x ∈ part, 0 < backlog x.1.queue p)
    (hnot : ∀ x ∈ part, x.2.isGet = true → ∀ packet ∈ x.1.taken x.2.now, packet.cls ≠ p) :
    turns s.cursor p + part.countP (fun x => x.2.isGet) < 4 := by
  induction part generalizing s with
  | nil => exact turns_lt _ _
  | cons x part ih =>
    cases run with
    | snoc run hstep =>
      next s' call =>
      rw [List.cons_append, List.forall_mem_cons] at hok
      rw [List.forall_mem_cons] at hs hp hnot
      have hbound := ih run hok.2 hs.2 hp.2 hnot.2
      have hholds := holds_of_run h0 run hok.2
      cases hget : call.isGet with
      | false =>
        rw [List.countP_cons_of_neg (by simp [hget]), hholds.step_cursor hs.1 hok.1 hstep hget]
        exact hbound
      | true =>
        rw [List.countP_cons_of_pos (by simpa using hget)]
        cases call with
        | get t =>
          obtain ⟨packet, htaken, hcursor, hless⟩ := hholds.get_cursor pow t hs.1 hp.1
          have hcls := hnot.1 rfl packet htaken
          obtain ⟨-, heq⟩ := Option.ite_none_right_eq_some.1 hstep
          cases heq
          have hless := hless hcls
          unfold Service.cursor at hless ⊢
          rw [hcursor]
          unfold Service.cursor at hbound
          omega
        | _ => cases hget

theorem exists_run_of_append {post pre : List (Service × ServiceCall)}
    (run : Run (Service.step pow) s₀ (post ++ pre) s) : ∃ s', Run (Service.step pow) s₀ pre s' := by
  induction post generalizing s with
  | nil => exact ⟨s, run⟩
  | cons x post ih =>
    cases run with
    | snoc run _ => exact ih run

/-- Where all calls meet their condition, the service is right. -/
theorem runRight (h₀ : s₀.IsEmpty) (run : Run (Service.step pow) s₀ tr s)
    (hok : ∀ x ∈ tr, x.1.StepOk pow x.2) : Service.RunRight pow tr := by
  constructor
  · intro x hx
    obtain ⟨pre, post, s', rfl, hpre, -⟩ := run.prefix_of_mem hx
    have hholds := holds_of_run h₀ hpre fun y hy =>
      hok y (List.mem_append_right _ (List.mem_cons_of_mem _ hy))
    exact hholds.stepRight (hok x hx)
  · rintro hs post part pre p rfl hp hgets
    by_contra hnone
    rw [List.append_assoc] at run hok hs
    obtain ⟨s', hrun⟩ := exists_run_of_append run
    have hbound := turns_of_run h₀ hrun (fun y hy => hok y (List.mem_append_right _ hy))
      (fun y hy => hs y (List.mem_append_right _ (List.mem_append_left _ hy))) hp
      fun y hy hget packet htaken hcls => hnone ⟨y, hy, hget, packet, htaken, hcls⟩
    omega

end

/-- A buffer with round robin that no packet has been added to. -/
def exampleService : Service := ⟨exampleBuffer .roundRobin, [], 0⟩

def packetOf (p : Priority) : Packet := { examplePacket with nPacketPriority := some p }

/-- Packets of two classes, a peek and two gets. -/
theorem runRight_roundRobin :
    ∃ tr s, Run (Service.step fun _ _ => 1) exampleService tr s ∧
      Service.RunRight (fun _ _ => 1) tr ∧ tr.length = 5 := by
  have hexec : (exec (Service.step fun _ _ => 1) exampleService
      [fun _ => some (.add 0 0 (packetOf .high) []), fun _ => some (.add 0 0 (packetOf .medium) []),
        fun _ => some (.peek 1), fun _ => some (.get 1), fun _ => some (.get 2)]).any
      (fun r => decide (r.1.length = 5) && r.1.all fun x =>
        match x.1.buffer.nSchedulingType, x.1.buffer.queuingTechnique, x.2 with
        | .roundRobin, .dropTail, .add _ _ _ [] => true
        | .roundRobin, .dropTail, .peek _ => true
        | .roundRobin, .dropTail, .get _ => true
        | _, _, _ => false) = true := by
    decide +kernel
  obtain ⟨tr, s, run, htest⟩ := run_of_exec hexec
  rw [Bool.and_eq_true] at htest
  obtain ⟨hlength, hsteps⟩ := htest
  refine ⟨tr, s, run, runRight ⟨rfl, rfl, rfl⟩ run fun x hx => ?_, of_decide_eq_true hlength⟩
  have hstep := List.all_eq_true.1 hsteps x hx
  unfold Service.StepOk
  split at hstep
  · next h => rw [h]; exact Or.inr (Or.inl rfl)
  · next hqueuing h => rw [h]; dsimp only; rw [hqueuing]; trivial
  · next hs _ h => rw [h]; dsimp only; unfold Service.HasNear; rw [hs]; trivial
  · cases hstep

/-- A query at 1 changes what is taken then. -/
def queryTest : List (Service × ServiceCall) → Bool
  | (s, .status 1) :: _ =>
    decide ((s.buffer.serve (fun _ _ => 1) (.status 1)).gets (fun _ _ => 1) [.get 1] ≠
      s.buffer.gets (fun _ _ => 1) [.get 1])
  | _ => false

/-- The claim fails: after a status query round robin begins with the second class. -/
theorem not_runRight :
    ¬∀ (pow : ℚ → ℚ → ℚ) (s₀ : Service) (tr : List (Service × ServiceCall)) (s : Service),
      s₀.IsEmpty → Run (Service.step pow) s₀ tr s → Service.RunRight pow tr := by
  intro h
  have hexec : (exec (Service.step fun _ _ => 1) exampleService
      [fun _ => some (.add 0 0 (packetOf .high) []), fun _ => some (.add 0 0 (packetOf .medium) []),
        fun _ => some (.status 1)]).any
      (fun r => queryTest r.1) = true := by
    decide +kernel
  obtain ⟨tr, s, run, htest⟩ := run_of_exec hexec
  dsimp only at htest
  unfold queryTest at htest
  split at htest
  · next s' tr' =>
    have hright := (h _ _ _ _ ⟨rfl, rfl, rfl⟩ run).step (s', .status 1) List.mem_cons_self
    exact of_decide_eq_true htest (hright.2 [.get 1] (by simp [ServiceCall.now]))
  · cases htest

end NetSim.Scheduling
