import NetSim.Scheduling.Queries

/-!
# The schedulers serve in order

The lists of a buffer hold the packets that have arrived and not left, each scheduler in its own
way. Round robin comes to each class with packets in four gets.
-/

namespace NetSim.Scheduling

open Buffer

section

variable {b b' : Buffer} {now : ℚ} {nFlag : Bool}

theorem getFromList_congr (now : ℚ) (nFlag : Bool) (hs : b'.nSchedulingType = b.nSchedulingType)
    (hlist : b'.pstruPacketlist = b.pstruPacketlist) (hheads : b'.heads = b.heads) :
    (b'.getFromList now nFlag).2 = (b.getFromList now nFlag).2 ∧
      (b'.getFromList now nFlag).1.pstruPacketlist = (b.getFromList now nFlag).1.pstruPacketlist ∧
      (b'.getFromList now nFlag).1.heads = (b.getFromList now nFlag).1.heads := by
  unfold getFromList
  rw [hs]
  cases b.nSchedulingType with
  | roundRobin =>
    dsimp only
    unfold getFromHeads
    rw [hheads]
    split
    · exact ⟨rfl, hlist, hheads⟩
    · exact ⟨rfl, hlist, rfl⟩
  | wfq =>
    dsimp only
    unfold getFromHeads
    rw [hheads]
    split
    · exact ⟨rfl, hlist, hheads⟩
    · exact ⟨rfl, hlist, rfl⟩
  | edf max_latency =>
    have hdrop : (b'.dropExpiredPackets now max_latency).pstruPacketlist =
        (b.dropExpiredPackets now max_latency).pstruPacketlist := by
      rw [dropExpiredPackets, dropExpiredPackets, hlist]
    unfold getEDF
    dsimp only
    rw [hdrop]
    split
    · exact ⟨rfl, hdrop, hheads⟩
    · cases nFlag with
      | true => exact ⟨rfl, rfl, hheads⟩
      | false => exact ⟨rfl, hdrop, hheads⟩
  | _ =>
    dsimp only
    unfold getFirst
    rw [hlist]
    split
    · exact ⟨rfl, hlist, hheads⟩
    · cases nFlag with
      | true => exact ⟨rfl, rfl, hheads⟩
      | false => exact ⟨rfl, hlist, hheads⟩

theorem getPacketFromBuffer_lists (b : Buffer) (now : ℚ) (nFlag : Bool) :
    (b.getPacketFromBuffer now nFlag).2 = (b.getFromList now nFlag).2 ∧
      (b.getPacketFromBuffer now nFlag).1.nSchedulingType = b.nSchedulingType ∧
      (b.getPacketFromBuffer now nFlag).1.pstruPacketlist =
        (b.getFromList now nFlag).1.pstruPacketlist ∧
      (b.getPacketFromBuffer now nFlag).1.heads = (b.getFromList now nFlag).1.heads := by
  have haccount : ∀ (x : Buffer) (packet : Packet), x.accountTaken now nFlag packet =
      (x.accountTaken now nFlag packet).relist x := fun x packet => accountTaken_relist now nFlag packet x x
  unfold getPacketFromBuffer
  split
  · have hcount : (b.countDequeued nFlag).nSchedulingType = b.nSchedulingType ∧
        (b.countDequeued nFlag).pstruPacketlist = b.pstruPacketlist ∧
        (b.countDequeued nFlag).heads = b.heads := by
      cases nFlag <;> exact ⟨rfl, rfl, rfl⟩
    obtain ⟨htaken, hlist, hheads⟩ := getFromList_congr now nFlag hcount.1 hcount.2.1 hcount.2.2
    have hs := (getFromList_scheduling now nFlag (b.countDequeued nFlag)).trans hcount.1
    rw [← htaken, ← hlist, ← hheads]
    generalize (b.countDequeued nFlag).getFromList now nFlag = x at hs ⊢
    obtain ⟨x, packet⟩ := x
    cases packet with
    | none => exact ⟨rfl, hs, rfl, rfl⟩
    | some packet =>
      dsimp only at hs ⊢
      rw [haccount]
      exact ⟨rfl, hs, rfl, rfl⟩
  · next hlist =>
    obtain ⟨hnone, hsame, hheads⟩ := getFromList_of_no_list now nFlag (Bool.not_eq_true _ ▸ hlist)
    exact ⟨hnone.symm, rfl, hsame.symm, hheads.symm⟩

end

def listOf (heads : Option Heads) (p : Priority) : List Packet :=
  (heads.map fun heads => (heads.getList p).packets).getD []

def ListsHold (b : Buffer) (queue : List Packet) : Prop :=
  match b.nSchedulingType with
  | .roundRobin | .wfq => ∀ p, listOf b.heads p = queue.filter fun packet => packet.cls = p
  | .priority =>
    b.pstruPacketlist.Pairwise (fun x y => y.priority ≤ x.priority) ∧
      ∀ k, b.pstruPacketlist.filter (fun packet => packet.priority = k) =
        queue.filter fun packet => packet.priority = k
  | .edf _ => b.pstruPacketlist.Perm queue
  | _ => b.pstruPacketlist = queue

structure Service.Holds (s : Service) : Prop where
  lists : ListsHold s.buffer s.queue
  counts : CountsHeads s.buffer

/-! ## Adding -/

section

variable {data : Packet} {rest queue list : List Packet}

theorem insertByPriority_pairwise (hlist : list.Pairwise fun x y => y.priority ≤ x.priority) :
    (insertByPriority data [] list).Pairwise fun x y => y.priority ≤ x.priority := by
  induction list with
  | nil => exact List.pairwise_singleton _ _
  | cons p list ih =>
    obtain ⟨hp, hrest⟩ := List.pairwise_cons.1 hlist
    rw [insertByPriority]
    split
    · next hlt =>
      refine List.pairwise_cons.2 ⟨fun x hx => ?_, hlist⟩
      rcases List.mem_cons.1 hx with rfl | hx
      · exact Nat.le_of_lt hlt
      · exact Nat.le_trans (hp x hx) (Nat.le_of_lt hlt)
    · next hlt =>
      refine List.pairwise_cons.2 ⟨fun x hx => ?_, ih hrest⟩
      rcases List.mem_cons.1 ((insertByPriority_perm list).mem_iff.1 hx) with rfl | hx
      · exact Nat.not_lt.1 hlt
      · exact hp x hx

theorem insertByPriority_filter (hlist : list.Pairwise fun x y => y.priority ≤ x.priority) (k : Nat) :
    (insertByPriority data [] list).filter (fun packet => packet.priority = k) =
      (list ++ [data]).filter fun packet => packet.priority = k := by
  induction list with
  | nil => rfl
  | cons p list ih =>
    obtain ⟨hp, hrest⟩ := List.pairwise_cons.1 hlist
    rw [insertByPriority]
    split
    · next hlt =>
      by_cases hk : data.priority = k
      · have hnone : (p :: list).filter (fun packet => packet.priority = k) = [] := by
          rw [List.filter_eq_nil_iff]
          intro x hx
          have hle : x.priority ≤ p.priority := by
            rcases List.mem_cons.1 hx with rfl | hx
            · exact Nat.le_refl _
            · exact hp x hx
          simp only [decide_eq_true_eq]
          omega
        rw [List.filter_append, hnone, List.filter_cons, hnone]
        simp [hk]
      · rw [List.filter_append, List.filter_cons]
        simp [hk]
    · rw [List.cons_append, List.filter_cons, List.filter_cons, ih hrest]

theorem insertByPriority_of_le (h : ∀ x ∈ list, data.priority ≤ x.priority) :
    insertByPriority data rest list = list ++ data :: rest := by
  induction list with
  | nil => rfl
  | cons p list ih =>
    rw [insertByPriority, if_neg (Nat.not_lt.2 (h p List.mem_cons_self)),
      ih fun x hx => h x (List.mem_cons_of_mem _ hx)]
    rfl

theorem listOf_getD (heads : Option Heads) (p : Priority) :
    ((heads.getD Heads.allocate).getList p).packets = listOf heads p := by
  cases heads with
  | none => cases p <;> rfl
  | some heads => rfl

theorem listOf_append (heads : Option Heads) (id : Int) (c p : Priority) (l : List Packet) :
    listOf (some ((heads.getD Heads.allocate).setList
        ⟨id, ((heads.getD Heads.allocate).getList c).packets ++ l⟩ c)) p =
      if p = c then listOf heads p ++ l else listOf heads p := by
  rw [← listOf_getD heads p, listOf, Option.map_some, Option.getD_some, getList_setList]
  split
  · next hp => rw [hp]
  · rfl

theorem filter_append_cls (hrest : ∀ x ∈ rest, x.cls = data.cls) (p : Priority) :
    (queue ++ data :: rest).filter (fun packet => packet.cls = p) =
      if p = data.cls then (queue.filter fun packet => packet.cls = p) ++ data :: rest
      else queue.filter fun packet => packet.cls = p := by
  rw [List.filter_append]
  split
  · next hp =>
    have hall : ∀ x ∈ data :: rest, decide (x.cls = p) = true := by
      intro x hx
      rcases List.mem_cons.1 hx with rfl | hx
      · exact decide_eq_true hp.symm
      · exact decide_eq_true ((hrest x hx).trans hp.symm)
    rw [List.filter_eq_self.2 hall]
  · next hp =>
    have hnone : (data :: rest).filter (fun packet => packet.cls = p) = [] := by
      rw [List.filter_eq_nil_iff]
      intro x hx
      rw [decide_eq_true_eq]
      rcases List.mem_cons.1 hx with rfl | hx
      · exact fun h => hp h.symm
      · exact fun h => hp (h.symm.trans (hrest x hx))
    rw [hnone, List.append_nil]

end

section

variable {s : Service} {data : Packet} {rest queue list : List Packet} {heads : Heads} {now : ℚ}
  {nFlag : Bool}

theorem Service.ChainOk.of_nil_or (h : rest = [] ∨ s.ChainOk data rest)
    (hs : s.buffer.nSchedulingType = .roundRobin) : ∀ x ∈ rest, x.cls = data.cls := by
  rcases h with rfl | h
  · nofun
  · unfold Service.ChainOk at h
    rwa [hs] at h

theorem Service.Holds.addToList (h : s.Holds) (hok : rest = [] ∨ s.ChainOk data rest) :
    ListsHold (s.buffer.addToList data rest) (s.queue ++ data :: rest) ∧
      CountsHeads (s.buffer.addToList data rest) := by
  have hlists := h.lists
  constructor
  · unfold ListsHold at hlists ⊢
    unfold Buffer.addToList
    cases hs : s.buffer.nSchedulingType with
    | roundRobin =>
      rw [hs] at hlists
      intro p
      have hrest := Service.ChainOk.of_nil_or hok hs
      rw [filter_append_cls hrest, ← hlists]
      exact listOf_append _ _ _ p _
    | wfq =>
      rw [hs] at hlists
      intro p
      have hrest : rest = [] := by
        refine hok.resolve_right fun hchain => ?_
        unfold Service.ChainOk at hchain
        rw [hs] at hchain
        exact hchain
      subst hrest
      rw [filter_append_cls (List.forall_mem_nil _), ← hlists]
      exact listOf_append _ _ _ p _
    | priority =>
      rw [hs] at hlists
      obtain ⟨hpairwise, hfilter⟩ := hlists
      rcases hok with rfl | hchain
      · refine ⟨insertByPriority_pairwise hpairwise, fun k => ?_⟩
        rw [insertByPriority_filter hpairwise, List.filter_append, List.filter_append, hfilter]
      · unfold Service.ChainOk at hchain
        rw [hs] at hchain
        obtain ⟨hle, hsorted⟩ := hchain
        have hmem : ∀ x ∈ s.buffer.pstruPacketlist, x ∈ s.queue := by
          intro x hx
          have hin : x ∈ s.queue.filter fun packet => packet.priority = x.priority := by
            rw [← hfilter]
            exact List.mem_filter.2 ⟨hx, decide_eq_true rfl⟩
          exact List.mem_of_mem_filter hin
        rw [insertByPriority_of_le fun x hx => hle x (hmem x hx)]
        refine ⟨List.pairwise_append.2 ⟨hpairwise, hsorted, fun x hx y hy => ?_⟩, fun k => ?_⟩
        · refine Nat.le_trans ?_ (hle x (hmem x hx))
          rcases List.mem_cons.1 hy with rfl | hy
          · exact Nat.le_refl _
          · exact (List.pairwise_cons.1 hsorted).1 y hy
        · rw [List.filter_append, List.filter_append, hfilter]
    | edf max_latency =>
      rw [hs] at hlists
      exact hlists.append_right _
    | _ =>
      rw [hs] at hlists
      exact congrArg (· ++ data :: rest) hlists
  · rcases hok with rfl | hchain
    · exact h.counts.addToList
    · intro hwfq
      rw [addToList_same.scheduling] at hwfq
      unfold Service.ChainOk at hchain
      rw [hwfq] at hchain
      exact hchain.elim

/-! ## Taking from the lists -/

structure TakenRight (s : Service) (now : ℚ) (nFlag : Bool) (x : Buffer × Option Packet) : Prop where
  right : ∀ packet ∈ x.2, s.ServedRight now packet
  empty : s.HasNear now → x.2 = none → s.present now = []
  lists : ListsHold x.1 (if nFlag then
      match x.2 with
      | none => s.present now
      | some packet => (s.present now).erase packet
    else s.present now)

theorem present_eq (h : ∀ max_latency, s.buffer.nSchedulingType ≠ .edf max_latency) :
    s.present now = s.queue := by
  unfold Service.present
  split
  · next max_latency hs => exact absurd hs (h max_latency)
  · rfl

theorem listOf_cons {c : Priority} {packet : Packet}
    (h : ∀ p, listOf (some heads) p = queue.filter fun packet => packet.cls = p)
    (hlist : (heads.getList c).packets = packet :: list) :
    packet ∈ queue ∧ packet.cls = c ∧
      queue.find? (fun x => x.cls = packet.cls) = some packet ∧
      ∀ id p, listOf (some (heads.setList ⟨id, list⟩ c)) p =
        (queue.erase packet).filter fun packet => packet.cls = p := by
  have hc : queue.filter (fun packet => packet.cls = c) = packet :: list := (h c).symm.trans hlist
  have hmem : packet ∈ queue.filter fun packet => packet.cls = c := hc ▸ List.mem_cons_self
  obtain ⟨hqueue, hcls⟩ := List.mem_filter.1 hmem
  have hcls : packet.cls = c := of_decide_eq_true hcls
  refine ⟨hqueue, hcls, ?_, fun id p => ?_⟩
  · rw [hcls, ← List.head?_filter, hc]
    rfl
  · rw [← List.erase_filter]
    unfold listOf
    rw [Option.map_some, Option.getD_some, getList_setList]
    split
    · next hp => rw [hp, hc, List.erase_cons_head]
    · next hp =>
      have hnot : packet ∉ queue.filter fun packet => packet.cls = p := by
        intro hin
        exact hp ((of_decide_eq_true (List.mem_filter.1 hin).2).symm.trans hcls)
      rw [List.erase_of_not_mem hnot]
      exact h p

theorem queue_eq_nil {queue : List Packet}
    (h : ∀ p, queue.filter (fun packet => packet.cls = p) = []) : queue = [] := by
  rw [List.eq_nil_iff_forall_not_mem]
  intro packet hp
  have hin : packet ∈ queue.filter fun x => x.cls = packet.cls :=
    List.mem_filter.2 ⟨hp, decide_eq_true rfl⟩
  rw [h] at hin
  cases hin

theorem Service.Holds.list_eq (h : s.Holds) (hs : s.buffer.nSchedulingType.hasHeads = true)
    (p : Priority) : listOf s.buffer.heads p = s.queue.filter fun packet => packet.cls = p := by
  have hlists := h.lists
  unfold ListsHold at hlists
  cases htype : s.buffer.nSchedulingType with
  | roundRobin =>
    rw [htype] at hlists
    exact hlists p
  | wfq =>
    rw [htype] at hlists
    exact hlists p
  | _ =>
    rw [htype] at hs
    cases hs

theorem getFirst_right (h : s.Holds) (hs : s.buffer.nSchedulingType.hasHeads = false)
    (hedf : ∀ max_latency, s.buffer.nSchedulingType ≠ .edf max_latency) :
    TakenRight s now nFlag (s.buffer.getFirst nFlag) := by
  have hlists := h.lists
  unfold ListsHold at hlists
  have hpresent : s.present now = s.queue := present_eq hedf
  cases htype : s.buffer.nSchedulingType with
  | roundRobin =>
    rw [htype] at hs
    cases hs
  | wfq =>
    rw [htype] at hs
    cases hs
  | edf max_latency => exact absurd htype (hedf max_latency)
  | priority =>
    rw [htype] at hlists
    obtain ⟨hpairwise, hfilter⟩ := hlists
    unfold getFirst
    cases hlist : s.buffer.pstruPacketlist with
    | nil =>
      rw [hlist] at hfilter
      refine ⟨nofun, fun _ _ => ?_, ?_⟩
      · rw [hpresent, List.eq_nil_iff_forall_not_mem]
        intro packet hp
        have hin : packet ∈ s.queue.filter fun x => x.priority = packet.priority :=
          List.mem_filter.2 ⟨hp, decide_eq_true rfl⟩
        rw [← hfilter] at hin
        cases hin
      · rw [hpresent]
        unfold ListsHold
        rw [htype, hlist]
        cases nFlag <;> exact ⟨.nil, hfilter⟩
    | cons packet list =>
      rw [hlist] at hpairwise hfilter
      obtain ⟨hle, hrest⟩ := List.pairwise_cons.1 hpairwise
      have hfirst : s.queue.filter (fun x => x.priority = packet.priority) =
          packet :: list.filter fun x => x.priority = packet.priority := by
        rw [← hfilter, List.filter_cons, if_pos (decide_eq_true rfl)]
      have hmem : packet ∈ s.queue := by
        have hin : packet ∈ s.queue.filter fun x => x.priority = packet.priority :=
          hfirst ▸ List.mem_cons_self
        exact List.mem_of_mem_filter hin
      refine ⟨?_, fun _ => nofun, ?_⟩
      · rintro _ ⟨⟩
        refine ⟨hpresent ▸ hmem, ?_⟩
        rw [htype, hpresent]
        refine ⟨fun x hx => ?_, ?_⟩
        · have hin : x ∈ s.queue.filter fun y => y.priority = x.priority :=
            List.mem_filter.2 ⟨hx, decide_eq_true rfl⟩
          rw [← hfilter] at hin
          rcases List.mem_cons.1 (List.mem_of_mem_filter hin) with rfl | hin
          · exact Nat.le_refl _
          · exact hle x hin
        · rw [← List.head?_filter, hfirst]
          rfl
      · rw [hpresent]
        unfold ListsHold
        cases nFlag with
        | false =>
          simp only [Bool.false_eq_true, if_false]
          rw [htype, hlist]
          exact ⟨hpairwise, hfilter⟩
        | true =>
          simp only [if_true]
          rw [htype]
          refine ⟨hrest, fun k => ?_⟩
          rw [← List.erase_filter, ← hfilter, List.erase_filter, List.erase_cons_head]
  | _ =>
    rw [htype] at hlists
    unfold getFirst
    cases hlist : s.buffer.pstruPacketlist with
    | nil =>
      rw [hlist] at hlists
      refine ⟨nofun, fun _ _ => by rw [hpresent, ← hlists], ?_⟩
      rw [hpresent]
      unfold ListsHold
      rw [htype, hlist]
      cases nFlag <;> exact hlists
    | cons packet list =>
      rw [hlist] at hlists
      refine ⟨?_, fun _ => nofun, ?_⟩
      · rintro _ ⟨⟩
        refine ⟨by rw [hpresent, ← hlists]; exact List.mem_cons_self, ?_⟩
        rw [htype, hpresent, ← hlists]
        rfl
      · rw [hpresent]
        unfold ListsHold
        cases nFlag with
        | false =>
          simp only [Bool.false_eq_true, if_false]
          rw [htype, hlist]
          exact hlists
        | true =>
          simp only [if_true]
          rw [htype, ← hlists, List.erase_cons_head]

theorem getFromHeads_right {get : Heads → Heads × Option Packet} (h : s.Holds)
    (hs : s.buffer.nSchedulingType.hasHeads = true)
    (hget : ∀ heads, s.buffer.heads = some heads →
      ((get heads).2 = none ∧ (∀ p, (heads.getList p).packets = []) ∧
          ∀ p, (get heads).1.getList p = heads.getList p) ∨
        ∃ c packet list, (heads.getList c).packets = packet :: list ∧ (get heads).2 = some packet ∧
          s.ServedRight now packet ∧
          if nFlag then ∃ id, ∀ p, (get heads).1.getList p =
            (heads.setList ⟨id, list⟩ c).getList p
          else ∀ p, (get heads).1.getList p = heads.getList p) :
    TakenRight s now nFlag (s.buffer.getFromHeads get) := by
  have hpresent : s.present now = s.queue := by
    refine present_eq fun max_latency hedf => ?_
    rw [hedf] at hs
    cases hs
  have hold : ∀ (b : Buffer) (queue : List Packet), b.nSchedulingType = s.buffer.nSchedulingType →
      (∀ p, listOf b.heads p = queue.filter fun packet => packet.cls = p) →
      ListsHold b queue := by
    intro b queue hb hlists
    unfold ListsHold
    rw [hb]
    cases htype : s.buffer.nSchedulingType with
    | roundRobin => exact hlists
    | wfq => exact hlists
    | _ =>
      rw [htype] at hs
      cases hs
  have hlists := h.list_eq hs
  unfold getFromHeads
  cases hheads : s.buffer.heads with
  | none =>
    rw [hheads] at hlists
    have hnil : s.queue = [] := queue_eq_nil fun p => (hlists p).symm
    refine ⟨nofun, fun _ _ => hpresent.trans hnil, ?_⟩
    rw [hpresent]
    have hsame := hold s.buffer s.queue rfl (by rw [hheads]; exact hlists)
    cases nFlag <;> exact hsame
  | some heads =>
    rw [hheads] at hlists
    rcases hget heads hheads with ⟨hnone, hempty, hsame⟩ | ⟨c, packet, list, hlist, hsome, hright,
      hafter⟩
    · have hnil : s.queue = [] := queue_eq_nil fun p => (hlists p).symm.trans (hempty p)
      refine ⟨by rw [hnone]; nofun, fun _ _ => hpresent.trans hnil, ?_⟩
      rw [hnone, hpresent]
      have hleft : ListsHold { s.buffer with heads := some (get heads).1 } s.queue := by
        refine hold _ _ rfl fun p => ?_
        rw [← hlists]
        exact congrArg Head.packets (hsame p)
      cases nFlag <;> exact hleft
    · refine ⟨?_, fun _ hnone => ?_, ?_⟩
      · rw [hsome]
        rintro _ ⟨⟩
        exact hright
      · rw [hsome] at hnone
        cases hnone
      · rw [hsome, hpresent]
        obtain ⟨-, -, -, herase⟩ := listOf_cons hlists hlist
        cases nFlag with
        | true =>
          rw [if_pos rfl] at hafter ⊢
          obtain ⟨id, hafter⟩ := hafter
          refine hold _ _ rfl fun p => ?_
          rw [← herase id p]
          exact congrArg Head.packets (hafter p)
        | false =>
          rw [if_neg Bool.false_ne_true] at hafter ⊢
          refine hold _ _ rfl fun p => ?_
          rw [← hlists]
          exact congrArg Head.packets (hafter p)

theorem getRoundRobin_right (h : s.Holds) (hs : s.buffer.nSchedulingType = .roundRobin) :
    TakenRight s now nFlag
      (s.buffer.getFromHeads fun heads => getRoundRobin nFlag heads.nPacketPriority 4 heads) := by
  have hheads : s.buffer.nSchedulingType.hasHeads = true := by rw [hs]; rfl
  have hpresent : s.present now = s.queue := present_eq fun _ => by rw [hs]; nofun
  refine getFromHeads_right h hheads fun heads hsome => ?_
  have hlists := h.list_eq hheads
  rw [hsome] at hlists
  rw [getRoundRobin_eq]
  cases hfound : found 4 heads with
  | none => exact Or.inl ⟨rfl, found_four_eq_none.1 hfound, fun p => getList_cursor _ _ p⟩
  | some c =>
    have hne := found_spec hfound
    cases hlist : (heads.getList c).packets with
    | nil => exact absurd hlist hne
    | cons packet list =>
      obtain ⟨hmem, -, hfind, -⟩ := listOf_cons hlists hlist
      refine Or.inr ⟨c, packet, list, hlist, congrArg List.head? hlist, ⟨hpresent ▸ hmem, ?_⟩, ?_⟩
      · rw [hs, hpresent]
        exact hfind
      · cases nFlag with
        | true =>
          refine ⟨(heads.getList c).nPacketId, fun p => ?_⟩
          simp only [if_true, getList_setList, getList_cursor, hlist, List.tail_cons]
        | false =>
          exact fun p => getList_cursor _ _ p

theorem backlog_eq (h : s.Holds) (hs : s.buffer.nSchedulingType.hasHeads = true)
    (hheads : s.buffer.heads = some heads) (p : Priority) :
    backlog s.queue p = (heads.getList p).packets.length := by
  have hlists := h.list_eq hs p
  rw [hheads] at hlists
  rw [backlog, List.countP_eq_length_filter, ← hlists]
  rfl

theorem getWFQ_right (h : s.Holds) (hs : s.buffer.nSchedulingType = .wfq) :
    TakenRight s now nFlag (s.buffer.getFromHeads (getWFQ nFlag)) := by
  have hheads : s.buffer.nSchedulingType.hasHeads = true := by rw [hs]; rfl
  have hpresent : s.present now = s.queue := present_eq fun _ => by rw [hs]; nofun
  refine getFromHeads_right h hheads fun heads hsome => ?_
  have hlists := h.list_eq hheads
  have hcount := h.counts hs heads hsome
  rw [hsome] at hlists
  have hnone : (getWFQ nFlag heads).2 = none → heads.packets = [] :=
    (getWFQ_takenFromHeads hcount).empty
  unfold getWFQ at hnone ⊢
  dsimp only at hnone ⊢
  set c := positionMaximumNumber (nCount heads) with hc
  cases hlist : (heads.getList c).packets with
  | nil =>
    rw [hlist] at hnone
    have hempty : heads.packets = [] := hnone rfl
    refine Or.inl ⟨rfl, fun p => ?_, fun p => rfl⟩
    unfold Heads.packets at hempty
    simp only [List.append_eq_nil_iff] at hempty
    obtain ⟨⟨⟨hlow, hnormal⟩, hmedium⟩, hhigh⟩ := hempty
    cases p
    · exact hlow
    · exact hnormal
    · exact hmedium
    · exact hhigh
  | cons packet list =>
    obtain ⟨hmem, hcls, hfind, -⟩ := listOf_cons hlists hlist
    refine Or.inr ⟨c, packet, list, hlist, rfl, ⟨hpresent ▸ hmem, ?_⟩, ?_⟩
    · rw [hs, hpresent]
      refine ⟨fun p => ?_, hfind⟩
      have hle := le_positionMaximumNumber (nCount heads) p
      rw [← hc, nCount_eq (hcount p), nCount_eq (hcount c)] at hle
      rw [backlog_eq h hheads hsome, backlog_eq h hheads hsome, hcls, weight, weight,
        Nat.mul_comm, Nat.mul_comm (c.toNat / 2)]
      exact_mod_cast hle
    · cases nFlag with
      | true => exact ⟨_, fun p => rfl⟩
      | false => exact fun p => rfl

theorem earliestDeadlineLoop_least {max_latency : Qos → ℚ} {start place : Nat} {found : Option Nat}
    {earliest : ℚ}
    (h : earliestDeadlineLoop now max_latency start found earliest list = some place) :
    (found = some place ∧ ∀ x ∈ list, ∃ qos ∈ x.nQOS, earliest ≤ deadline now max_latency x qos) ∨
      ∃ i packet, place = start + i ∧ list[i]? = some packet ∧ ∀ qos ∈ packet.nQOS,
        deadline now max_latency packet qos < earliest ∧
        ∀ x ∈ list, ∃ qos' ∈ x.nQOS,
          deadline now max_latency packet qos ≤ deadline now max_latency x qos' := by
  induction list generalizing start found earliest with
  | nil => exact Or.inl ⟨h, nofun⟩
  | cons packet list ih =>
    rw [earliestDeadlineLoop] at h
    split at h
    · next hqos =>
      cases h
      refine Or.inr ⟨0, packet, rfl, rfl, fun qos hmem => ?_⟩
      rw [hqos] at hmem
      cases hmem
    · next qos hqos =>
      dsimp only at h
      split at h
      · next hlt =>
        right
        rcases ih h with ⟨hfound, hall⟩ | ⟨i, p, hplace, hp, hall⟩
        · cases hfound
          refine ⟨0, packet, rfl, rfl, fun qos' hqos' => ?_⟩
          rw [hqos] at hqos'
          cases hqos'
          refine ⟨hlt, List.forall_mem_cons.2 ⟨⟨qos, hqos, le_refl _⟩, hall⟩⟩
        · refine ⟨i + 1, p, by omega, hp, fun qos' hqos' => ?_⟩
          obtain ⟨hless, hleast⟩ := hall qos' hqos'
          exact ⟨hless.trans hlt, List.forall_mem_cons.2 ⟨⟨qos, hqos, hless.le⟩, hleast⟩⟩
      · next hge =>
        rcases ih h with ⟨hfound, hall⟩ | ⟨i, p, hplace, hp, hall⟩
        · exact Or.inl ⟨hfound, List.forall_mem_cons.2 ⟨⟨qos, hqos, not_lt.1 hge⟩, hall⟩⟩
        · refine Or.inr ⟨i + 1, p, by omega, hp, fun qos' hqos' => ?_⟩
          obtain ⟨hless, hleast⟩ := hall qos' hqos'
          exact ⟨hless, List.forall_mem_cons.2 ⟨⟨qos, hqos, hless.le.trans (not_lt.1 hge)⟩, hleast⟩⟩

theorem getEDF_right (h : s.Holds) {max_latency : Qos → ℚ}
    (hs : s.buffer.nSchedulingType = .edf max_latency) :
    TakenRight s now nFlag (s.buffer.getEDF now max_latency nFlag) := by
  have hlists := h.lists
  unfold ListsHold at hlists
  rw [hs] at hlists
  have hpresent : s.present now = s.queue.filter fun packet => !isExpired now max_latency packet := by
    unfold Service.present
    rw [hs]
  have hperm : (s.buffer.dropExpiredPackets now max_latency).pstruPacketlist.Perm
      (s.present now) := by
    rw [hpresent]
    exact hlists.filter _
  have hold : ∀ (b : Buffer) (queue : List Packet), b.nSchedulingType = .edf max_latency →
      b.pstruPacketlist.Perm queue → ListsHold b queue := by
    intro b queue hb hqueue
    unfold ListsHold
    rw [hb]
    exact hqueue
  unfold getEDF
  dsimp only
  generalize hdrop : s.buffer.dropExpiredPackets now max_latency = b at hperm
  have hb : b.nSchedulingType = .edf max_latency := by rw [← hdrop]; exact hs
  cases hplace : earliestDeadlinePacket now max_latency b.pstruPacketlist with
  | none =>
    refine ⟨nofun, fun hnear _ => ?_, ?_⟩
    · by_contra hne
      unfold Service.HasNear at hnear
      rw [hs] at hnear
      obtain ⟨x, hx, hdeadline⟩ := hnear hne
      obtain ⟨qos, hqos, hle⟩ := (earliestDeadlineLoop_none hplace).2 x (hperm.mem_iff.2 hx)
      exact absurd (hdeadline qos hqos) (not_lt.2 hle)
    · cases nFlag <;> exact hold b _ hb hperm
  | some place =>
    rcases earliestDeadlineLoop_least hplace with ⟨hfound, -⟩ | ⟨i, packet, hi, hat, hleast⟩
    · cases hfound
    rw [Nat.zero_add] at hi
    subst hi
    obtain ⟨hlt, hget⟩ := List.getElem?_eq_some_iff.1 hat
    have hmem : packet ∈ s.present now := hperm.mem_iff.1 (hget ▸ List.getElem_mem hlt)
    dsimp only
    rw [hat]
    refine ⟨?_, fun _ => nofun, ?_⟩
    · rintro _ ⟨⟩
      refine ⟨hmem, ?_⟩
      rw [hs]
      intro qos hqos x hx
      exact (hleast qos hqos).2 x (hperm.mem_iff.2 hx)
    · cases nFlag with
      | true =>
        refine hold _ _ hb ?_
        have hleft : (packet :: b.pstruPacketlist.eraseIdx place).Perm (s.present now) := by
          rw [← hget]
          exact (List.getElem_cons_eraseIdx_perm hlt).trans hperm
        exact (List.perm_cons packet).1 (hleft.trans (List.perm_cons_erase hmem))
      | false =>
        exact hold b _ hb hperm

theorem getFromList_right (now : ℚ) (nFlag : Bool) (h : s.Holds) :
    TakenRight s now nFlag (s.buffer.getFromList now nFlag) := by
  unfold getFromList
  split
  · next hs => exact getRoundRobin_right h hs
  · next hs => exact getWFQ_right h hs
  · next max_latency hs => exact getEDF_right h hs
  · next hrr hwfq hedf =>
    refine getFirst_right h ?_ hedf
    cases hs : s.buffer.nSchedulingType with
    | roundRobin => exact absurd hs hrr
    | wfq => exact absurd hs hwfq
    | _ => rfl

end

end NetSim.Scheduling
