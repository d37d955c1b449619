import NetSim.Pdcp.Receive

/-!
# The order in which SDUs are passed up (`LTENR_PDCP.c`)

`LTENR_PDCP_RXBUFFER_ENQUEUE` sets `RX_DELIV` to the COUNT at the head of the buffer, so that a PDU
that is no duplicate is passed up at once.
-/

namespace NetSim.Pdcp

open NetSim.Lib NetSim.Tcp

theorem rcvdCount_lt_rcvdCount {c d : Nat} : rcvdCount c < rcvdCount d ↔ c < d := by
  unfold rcvdCount pow2SnSize
  omega

theorem PdcpEntity.InWindow.calculateStateVariable {entity : PdcpEntity} {count : Nat}
    (h : entity.InWindow count) :
    entity.calculateStateVariable ⟨.data, count % pow2SnSize⟩ = rcvdCount count := by
  obtain ⟨hlow, hhigh, hlt⟩ := h
  unfold PdcpEntity.calculateStateVariable pdcpCount pdcpHfn pdcpSn u32
  unfold rcvdCount pow2SnSize pdcpWindowSize at *
  unfold pdcpSnSize
  dsimp only
  split
  · omega
  · split <;> omega

/-! ## Steps -/

namespace Reception

variable {B : SortedBuffer} {pdcp : PdcpVar} {s s' : Reception} {tr : List (Reception × RxEvent)}

/-- Between two events nothing is buffered, and the timer has not started. -/
structure Idle (s : Reception) : Prop where
  receiveBuffer : s.entity.receiveBuffer = []
  RX_REORD : s.entity.RX_REORD = 0
  notRunning : s.entity.isT_ReorderingRunning = false

theorem addPacketSorted_nil (B : SortedBuffer) (b : BufferedPacket) :
    B.addPacketSorted rxBufferSort b [] = [b] :=
  List.perm_singleton.1 (B.perm rxBufferSort b [])

/-- What an event does: it discards a PDU below `RX_DELIV`, and passes up any other at once. -/
inductive Stepped (B : SortedBuffer) (pdcp : PdcpVar) (s : Reception) :
    RxEvent → Reception → Prop
  | discarded {c : Nat} (hlt : rcvdCount c < s.entity.RX_DELIV)
      (hact : (s.handle B pdcp (.pdu c)).2 = [.freePacket (userPdu c)]) :
      Stepped B pdcp s (.pdu c) ⟨s.entity, s.arrived ++ [c], s.passedUp⟩
  | passed {c : Nat} (hle : s.entity.RX_DELIV ≤ rcvdCount c)
      (hact : (s.handle B pdcp (.pdu c)).2 = [.sendUp .sdap (userPdu c)]) {e : PdcpEntity}
      (hdeliv : e.RX_DELIV = rcvdCount c) (hbuf : e.receiveBuffer = [])
      (hreord : e.RX_REORD = 0) (hrun : e.isT_ReorderingRunning = false) :
      Stepped B pdcp s (.pdu c) ⟨e, s.arrived ++ [c], s.passedUp ++ [c]⟩

variable {entity : PdcpEntity}

theorem rxBufferEnqueue_nil (hbuf : entity.receiveBuffer = []) (packet : Packet) (c : Nat) :
    entity.rxBufferEnqueue B packet c =
      { entity with receiveBuffer := [⟨packet, c⟩], RX_DELIV := c } := by
  unfold PdcpEntity.rxBufferEnqueue
  rw [hbuf, addPacketSorted_nil]
  rfl

theorem drain_singleton (entity : PdcpEntity) (opt : BufferedPacket) :
    entity.drain 0 [opt] = ({ entity with receiveBuffer := [] }, [opt.packet]) := by
  simp [PdcpEntity.drain]

theorem receive_discarded {c : Nat} (hwin : entity.InWindow c)
    (hlt : rcvdCount c < entity.RX_DELIV) :
    entity.receivePdcpSdu B pdcp (userPdu c) = (entity, [.freePacket (userPdu c)]) := by
  have hdup : entity.isDuplicatePdu (rcvdCount c) = true := decide_eq_true hlt
  have hhdr : (userPdu c).pdcpHdr = some ⟨.data, c % pow2SnSize⟩ := rfl
  unfold PdcpEntity.receivePdcpSdu
  rw [hhdr]
  dsimp only
  rw [hwin.calculateStateVariable, hdup]
  rfl

theorem updateStateVariable_eq (entity : PdcpEntity) (c : Nat) :
    ∃ next, entity.updateStateVariable c = { entity with RX_NEXT := next } := by
  unfold PdcpEntity.updateStateVariable
  split
  · exact ⟨_, rfl⟩
  · exact ⟨entity.RX_NEXT, rfl⟩

theorem actionForTReorderingOnRecev_eq (hreord : entity.RX_REORD = 0)
    (hrun : entity.isT_ReorderingRunning = false) :
    entity.actionForTReorderingOnRecev = entity := by
  unfold PdcpEntity.actionForTReorderingOnRecev
  simp [hreord, hrun]

theorem receive_passed {c : Nat} (hpdcp : pdcp.isoutOfOrderDelivery = false)
    (hbuf : entity.receiveBuffer = []) (hreord : entity.RX_REORD = 0)
    (hrun : entity.isT_ReorderingRunning = false) (hwin : entity.InWindow c)
    (hle : entity.RX_DELIV ≤ rcvdCount c) :
    ∃ next, entity.receivePdcpSdu B pdcp (userPdu c) =
      ({ entity with RX_NEXT := next, RX_DELIV := rcvdCount c },
        [.sendUp .sdap (userPdu c)]) := by
  have hdup : entity.isDuplicatePdu (rcvdCount c) = false := decide_eq_false (Nat.not_lt.2 hle)
  have hhdr : (userPdu c).pdcpHdr = some ⟨.data, c % pow2SnSize⟩ := rfl
  obtain ⟨next, hnext⟩ := updateStateVariable_eq
    { entity with receiveBuffer := [⟨userPdu c, rcvdCount c⟩], RX_DELIV := rcvdCount c }
    (rcvdCount c)
  refine ⟨next, ?_⟩
  unfold PdcpEntity.receivePdcpSdu
  rw [hhdr]
  dsimp only
  rw [hwin.calculateStateVariable, hdup, rxBufferEnqueue_nil hbuf, hnext]
  unfold PdcpEntity.deliverSduToUpperLayer
  rw [hpdcp]
  simp only [Bool.false_and, Bool.false_eq_true, ↓reduceIte, drain_singleton, List.map_cons,
    List.map_nil]
  rw [hbuf, actionForTReorderingOnRecev_eq]
  · rfl
  · exact hreord
  · exact hrun

variable {e : RxEvent}

theorem Idle.stepped (h : s.Idle) (hpdcp : pdcp.isoutOfOrderDelivery = false)
    (hs : s.step B pdcp e = some s') : Stepped B pdcp s e s' := by
  unfold step at hs
  split at hs
  · next henabled =>
    cases e with
    | tReorderingTimeout =>
      have hrunning : s.entity.isT_ReorderingRunning = true := henabled
      rw [h.notRunning] at hrunning
      cases hrunning
    | pdu c =>
      rcases Nat.lt_or_ge (rcvdCount c) s.entity.RX_DELIV with hlt | hle
      · have hact : s.handle B pdcp (.pdu c) = (s.entity, [.freePacket (userPdu c)]) :=
          receive_discarded henabled hlt
        rw [hact] at hs
        obtain rfl := Option.some.inj hs
        have hstepped : Stepped B pdcp s (.pdu c) ⟨s.entity, s.arrived ++ [c], s.passedUp⟩ :=
          .discarded hlt (by rw [hact])
        rwa [← List.append_nil s.passedUp] at hstepped
      · obtain ⟨next, hact⟩ := receive_passed (B := B) hpdcp h.receiveBuffer h.RX_REORD
          h.notRunning henabled hle
        have hact : s.handle B pdcp (.pdu c) = _ := hact
        rw [hact] at hs
        obtain rfl := Option.some.inj hs
        exact .passed hle (by rw [hact]) rfl h.receiveBuffer h.RX_REORD h.notRunning
  · cases hs

theorem Stepped.idle (h : Stepped B pdcp s e s') (hidle : s.Idle) : s'.Idle := by
  cases h with
  | discarded => exact ⟨hidle.receiveBuffer, hidle.RX_REORD, hidle.notRunning⟩
  | passed _ _ _ hbuf hreord hrun => exact ⟨hbuf, hreord, hrun⟩

theorem idle_of_run (hpdcp : pdcp.isoutOfOrderDelivery = false)
    (run : Run (step B pdcp) start tr s) : s.Idle := by
  refine run.always ⟨rfl, rfl, rfl⟩ fun s e s' hidle hs => ?_
  exact (hidle.stepped hpdcp hs).idle hidle

/-! ## In-order delivery -/

/-- The COUNTs are strictly increasing, and none is missing below one of them. -/
structure InOrder (passedUp : List Nat) : Prop where
  increasing : passedUp.Pairwise (· < ·)
  gapFree : ∀ c ∈ passedUp, ∀ d < c, d ∈ passedUp

theorem inOrder_range (n : Nat) : InOrder (List.range n) where
  increasing := List.pairwise_lt_range
  gapFree _ hc _ hd := List.mem_range.2 (Nat.lt_trans hd (List.mem_range.1 hc))

theorem InOrder.of_append {l m : List Nat} (h : InOrder (l ++ m)) : InOrder l := by
  obtain ⟨hl, -, hlm⟩ := List.pairwise_append.1 h.increasing
  refine ⟨hl, fun c hc d hd => ?_⟩
  rcases List.mem_append.1 (h.gapFree c (List.mem_append_left m hc) d hd) with hmem | hmem
  · exact hmem
  · have := hlm c hc d hmem
    omega

def nextCount (arrived : List Nat) : Nat := arrived.foldl (fun n c => max n (c + 1)) 0

@[simp]
theorem nextCount_append_singleton (l : List Nat) (c : Nat) :
    nextCount (l ++ [c]) = max (nextCount l) (c + 1) := List.foldl_append

/-- The PDU is that of the next SDU, or of one before the last SDU that arrived. -/
def Follows (arrived : List Nat) (c : Nat) : Prop :=
  c = nextCount arrived ∨ c + 1 < nextCount arrived

instance (arrived : List Nat) (c : Nat) : Decidable (Follows arrived c) :=
  inferInstanceAs (Decidable (_ ∨ _))

structure InStep (s : Reception) : Prop where
  passedUp : s.passedUp = List.range (nextCount s.arrived)
  RX_DELIV : s.entity.RX_DELIV = rcvdCount (nextCount s.arrived - 1)
  arrived : ∀ c < nextCount s.arrived, c ∈ s.arrived

theorem Stepped.inStep (h : Stepped B pdcp s e s') (hin : s.InStep)
    (hfollows : ∀ c ∈ e.counts, Follows s.arrived c) : s'.InStep := by
  have hdeliv := hin.RX_DELIV
  cases h with
  | @discarded c hlt _ =>
    have hmax : nextCount (s.arrived ++ [c]) = nextCount s.arrived := by
      rw [hdeliv, rcvdCount_lt_rcvdCount] at hlt
      rw [nextCount_append_singleton]
      omega
    refine ⟨?_, ?_, ?_⟩
    · rw [hmax]
      exact hin.passedUp
    · rw [hmax]
      exact hdeliv
    · rw [hmax]
      exact fun d hd => List.mem_append_left _ (hin.arrived d hd)
  | @passed c hle _ e he _ _ _ =>
    have hc : c = nextCount s.arrived := by
      rw [hdeliv, ← Nat.not_lt, rcvdCount_lt_rcvdCount] at hle
      rcases hfollows c List.mem_cons_self with h | h <;> omega
    have hmax : nextCount (s.arrived ++ [c]) = c + 1 := by
      rw [nextCount_append_singleton]
      omega
    refine ⟨?_, ?_, ?_⟩
    · rw [hmax, List.range_succ, hin.passedUp, hc]
    · rw [hmax]
      exact he
    · rw [hmax]
      intro d hd
      rcases Nat.lt_succ_iff_lt_or_eq.1 hd with hlt | rfl
      · exact List.mem_append_left _ (hin.arrived d (hc ▸ hlt))
      · exact List.mem_append_right _ List.mem_cons_self

theorem inStep_start : start.InStep := ⟨rfl, rfl, nofun⟩

theorem Stepped.follows (h : Stepped B pdcp s e s') (hin : s.InStep)
    (horder : InOrder s'.passedUp) : ∀ c ∈ e.counts, Follows s.arrived c := by
  have hdeliv := hin.RX_DELIV
  cases h with
  | @discarded c hlt _ =>
    rw [hdeliv, rcvdCount_lt_rcvdCount] at hlt
    intro d hd
    obtain rfl := List.mem_singleton.1 hd
    exact .inr (by omega)
  | @passed c hle _ e _ _ _ _ =>
    intro d hd
    obtain rfl := List.mem_singleton.1 hd
    rw [hin.passedUp] at horder
    left
    by_contra hne
    rcases Nat.lt_or_gt_of_ne hne with hlt | hgt
    · obtain ⟨-, -, hafter⟩ := List.pairwise_append.1 horder.increasing
      exact Nat.lt_irrefl d (hafter d (List.mem_range.2 hlt) d List.mem_cons_self)
    · have hmem := horder.gapFree d (List.mem_append_right _ List.mem_cons_self) _ hgt
      rcases List.mem_append.1 hmem with h | h
      · exact Nat.lt_irrefl _ (List.mem_range.1 h)
      · exact hne (List.mem_singleton.1 h).symm

theorem Stepped.passedUp (h : Stepped B pdcp s e s') :
    ∃ more, s'.passedUp = s.passedUp ++ more := by
  cases h with
  | discarded => exact ⟨[], (List.append_nil _).symm⟩
  | @passed c => exact ⟨[c], rfl⟩

theorem inStep_of_run (hpdcp : pdcp.isoutOfOrderDelivery = false)
    (run : Run (step B pdcp) start tr s)
    (hfollows : ∀ x ∈ tr, ∀ c ∈ x.2.counts, Follows x.1.arrived c) : s.InStep := by
  refine run.induction (P := fun _ s => s.InStep)
    (Q := fun s e => ∀ c ∈ e.counts, Follows s.arrived c) inStep_start ?_ hfollows
  exact fun _ s e s' hr hin hQ hs => ((idle_of_run hpdcp hr).stepped hpdcp hs).inStep hin hQ

theorem follows_of_run (hpdcp : pdcp.isoutOfOrderDelivery = false)
    (run : Run (step B pdcp) start tr s) (horder : InOrder s.passedUp) :
    ∀ x ∈ tr, ∀ c ∈ x.2.counts, Follows x.1.arrived c := by
  induction run with
  | nil => nofun
  | snoc hr hs ih =>
    have hstepped := (idle_of_run hpdcp hr).stepped hpdcp hs
    obtain ⟨more, hmore⟩ := hstepped.passedUp
    have hpre := ih (hmore ▸ horder).of_append
    intro x hx
    rcases List.mem_cons.1 hx with rfl | hx
    · exact hstepped.follows (inStep_of_run hpdcp hr hpre) horder
    · exact hpre x hx

def DiscardsOnlyReceived (B : SortedBuffer) (pdcp : PdcpVar) (tr : List (Reception × RxEvent)) :
    Prop :=
  ∀ x ∈ tr, ∀ packet, x.1.Discards B pdcp x.2 packet → packet.count ∈ x.1.arrived

theorem discardsOnlyReceived_of_run (hpdcp : pdcp.isoutOfOrderDelivery = false)
    (run : Run (step B pdcp) start tr s)
    (hfollows : ∀ x ∈ tr, ∀ c ∈ x.2.counts, Follows x.1.arrived c) :
    DiscardsOnlyReceived B pdcp tr := by
  intro x hx packet hpacket
  obtain ⟨pre, post, s', rfl, hpre, hs⟩ := run.prefix_of_mem hx
  have hin := inStep_of_run hpdcp hpre fun y hy =>
    hfollows y (List.mem_append_right _ (List.mem_cons_of_mem _ hy))
  obtain ⟨s, e⟩ := x
  have hmem : Action.freePacket packet ∈ (s.handle B pdcp e).2 := hpacket
  cases (idle_of_run hpdcp hpre).stepped hpdcp hs with
  | @discarded c hlt hact =>
    rw [hact] at hmem
    obtain rfl := Action.freePacket.inj (List.mem_singleton.1 hmem)
    rw [hin.RX_DELIV, rcvdCount_lt_rcvdCount] at hlt
    exact hin.arrived c (by omega)
  | passed _ hact =>
    rw [hact] at hmem
    cases List.mem_singleton.1 hmem

/-- The SDUs are passed up in order exactly in the runs in which every PDU is that of the next SDU
or of one before the last. -/
theorem inOrder_iff (hpdcp : pdcp.isoutOfOrderDelivery = false)
    (run : Run (step B pdcp) start tr s) :
    (InOrder s.passedUp ∧ DiscardsOnlyReceived B pdcp tr) ↔
      ∀ x ∈ tr, ∀ c ∈ x.2.counts, Follows x.1.arrived c := by
  constructor
  · exact fun h => follows_of_run hpdcp run h.1
  · intro hfollows
    refine ⟨?_, discardsOnlyReceived_of_run hpdcp run hfollows⟩
    rw [(inStep_of_run hpdcp run hfollows).passedUp]
    exact inOrder_range _

/-- COUNT 0 arrives again between 1 and 2. -/
theorem inOrder_exampleRun :
    ∃ tr s, Run (step .linear ⟨false⟩) start tr s ∧ s.arrived = [0, 1, 0, 2] ∧
      s.passedUp = [0, 1, 2] ∧ InOrder s.passedUp ∧
      DiscardsOnlyReceived .linear ⟨false⟩ tr := by
  have hexec : (exec (step .linear ⟨false⟩) start
      [fun _ => some (.pdu 0), fun _ => some (.pdu 1), fun _ => some (.pdu 0),
        fun _ => some (.pdu 2)]).any
      (fun r => decide (r.2.arrived = [0, 1, 0, 2] ∧ r.2.passedUp = [0, 1, 2] ∧
        ∀ x ∈ r.1, ∀ c ∈ x.2.counts, Follows x.1.arrived c)) = true := by decide +kernel
  obtain ⟨tr, s, run, htest⟩ := run_of_exec hexec
  obtain ⟨harrived, hup, hfollows⟩ := of_decide_eq_true htest
  obtain ⟨horder, hdiscards⟩ := (inOrder_iff rfl run).2 hfollows
  exact ⟨tr, s, run, harrived, hup, horder, hdiscards⟩

/-- COUNT 1 arrives before 0: it is passed up at once, and 0 is discarded. -/
theorem not_inOrder_exampleRuns :
    (∃ tr s, Run (step .linear ⟨false⟩) start tr s ∧ s.arrived = [1, 0] ∧ s.passedUp = [1] ∧
      ¬ InOrder s.passedUp ∧ ¬ DiscardsOnlyReceived .linear ⟨false⟩ tr) ∧
    ∃ tr s, Run (step .linear ⟨false⟩) start tr s ∧ s.arrived = [0, 0] ∧ s.passedUp = [0, 0] ∧
      ¬ InOrder s.passedUp := by
  constructor
  · have hexec : (exec (step .linear ⟨false⟩) start
        [fun _ => some (.pdu 1), fun _ => some (.pdu 0)]).any
        (fun r => decide (r.2.arrived = [1, 0] ∧ r.2.passedUp = [1] ∧
          ∃ x ∈ r.1, x.1.arrived = [1] ∧
            .freePacket (userPdu 0) ∈ (x.1.handle .linear ⟨false⟩ x.2).2)) = true := by
      decide +kernel
    obtain ⟨tr, s, run, htest⟩ := run_of_exec hexec
    obtain ⟨harrived, hup, x, hx, hbefore, hfree⟩ := of_decide_eq_true htest
    refine ⟨tr, s, run, harrived, hup, ?_, ?_⟩
    · intro horder
      have hmem := horder.gapFree 1 (by rw [hup]; exact List.mem_cons_self) 0 Nat.zero_lt_one
      rw [hup] at hmem
      exact absurd hmem (by decide)
    · intro hdiscards
      have hmem := hdiscards x hx (userPdu 0) hfree
      rw [hbefore] at hmem
      exact absurd hmem (by decide)
  · have hexec : (exec (step .linear ⟨false⟩) start
        [fun _ => some (.pdu 0), fun _ => some (.pdu 0)]).any
        (fun r => decide (r.2.arrived = [0, 0] ∧ r.2.passedUp = [0, 0])) = true := by
      decide +kernel
    obtain ⟨tr, s, run, htest⟩ := run_of_exec hexec
    obtain ⟨harrived, hup⟩ := of_decide_eq_true htest
    refine ⟨tr, s, run, harrived, hup, fun horder => ?_⟩
    have hlt := horder.increasing
    rw [hup] at hlt
    exact absurd hlt (by decide)

/-! ## Out of order -/

/-- Nothing is kept back. The COUNTs passed up do not decrease, and those that arrived and were not
passed up are below one that was. -/
structure PassesThrough (s : Reception) : Prop extends Idle s where
  sorted : s.passedUp.Pairwise (· ≤ ·)
  sublist : s.passedUp.Sublist s.arrived
  overtaken : ∀ c ∈ s.arrived, c ∈ s.passedUp ∨ ∃ d ∈ s.passedUp, c < d
  le_RX_DELIV : ∀ c ∈ s.passedUp, rcvdCount c ≤ s.entity.RX_DELIV
  RX_DELIV : ∀ n < s.entity.RX_DELIV, ∃ d ∈ s.passedUp, n < rcvdCount d

theorem PassesThrough.stepped {e : RxEvent} (h : s.PassesThrough) (hs : Stepped B pdcp s e s') :
    s'.PassesThrough := by
  have hidle := hs.idle h.toIdle
  cases hs with
  | @discarded c hlt _ =>
    obtain ⟨d, hd, hcd⟩ := h.RX_DELIV _ hlt
    refine { h, hidle with
      sublist := h.sublist.trans (List.sublist_append_left _ _)
      overtaken := ?_ }
    exact List.forall_mem_append.2
      ⟨h.overtaken, List.forall_mem_singleton.2 (.inr ⟨d, hd, rcvdCount_lt_rcvdCount.1 hcd⟩)⟩
  | @passed c hle _ e he _ _ _ =>
    have hup : ∀ d ∈ s.passedUp, rcvdCount d ≤ rcvdCount c := fun d hd =>
      Nat.le_trans (h.le_RX_DELIV d hd) hle
    refine ⟨hidle, ?_, h.sublist.append (.refl _), ?_, ?_, ?_⟩
    · refine List.pairwise_append.2 ⟨h.sorted, List.pairwise_singleton _ _, fun d hd x hx => ?_⟩
      rw [List.mem_singleton.1 hx]
      exact Nat.not_lt.1 fun hlt => Nat.not_lt.2 (hup d hd) (rcvdCount_lt_rcvdCount.2 hlt)
    · refine List.forall_mem_append.2 ⟨fun d hd => ?_, List.forall_mem_singleton.2 (.inl ?_)⟩
      · exact (h.overtaken d hd).imp (List.mem_append_left _) fun ⟨x, hx, hlt⟩ =>
          ⟨x, List.mem_append_left _ hx, hlt⟩
      · exact List.mem_append_right _ List.mem_cons_self
    · rw [he]
      exact List.forall_mem_append.2 ⟨hup, List.forall_mem_singleton.2 le_rfl⟩
    · rw [he]
      exact fun n hn => ⟨c, List.mem_append_right _ List.mem_cons_self, hn⟩

end Reception

end NetSim.Pdcp
