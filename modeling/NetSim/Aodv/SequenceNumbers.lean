import NetSim.Aodv.InFlight
import NetSim.Aodv.RreqDisposition

/-!
# Sequence numbers

A device increases its own number only, so no number exceeds the current one of its owner until that
wraps. An intermediate device that replies does not compare numbers.
-/

namespace NetSim.Aodv

open NetSim.Lib

/-! ## The number of a device -/

def Net.ownSeq (s : Net) (i : IPAddress) : UInt32 := (s.device i).var.nSequenceNumber

/-- How often the steps of a run have increased the sequence number of `i`. -/
def seqIncrements (nodes : List IPAddress) (i : IPAddress) (tr : List (Net × NetAction)) : ℕ :=
  tr.countP fun x => (Net.step nodes x.1 x.2).any fun s' => decide (s'.ownSeq i ≠ x.1.ownSeq i)

theorem handle_nSequenceNumber {c : Curr} {nRREQId : UInt32} {v : DeviceVar} {a : NodeAction}
    {o : Outcome} (h : handle c nRREQId v a = some o) :
    o.devVar.nSequenceNumber = v.nSequenceNumber ∨
      o.devVar.nSequenceNumber = v.nSequenceNumber + 1 := by
  cases handle_book h with
  | same _ _ hbook => exact Or.inl (congrArg Book.nSequenceNumber hbook)
  | expires _ _ hbook => exact Or.inl (congrArg Book.nSequenceNumber hbook)
  | breaks _ _ hbook => exact Or.inl (congrArg Book.nSequenceNumber hbook)
  | buffers _ _ _ _ _ _ hbook => exact Or.inl (congrArg Book.nSequenceNumber hbook)
  | discovers _ _ _ _ _ _ hbook => exact Or.inr (congrArg Book.nSequenceNumber hbook)
  | givesUp _ _ _ _ _ _ hbook => exact Or.inl (congrArg Book.nSequenceNumber hbook)
  | retries _ _ _ _ _ _ hbook => exact Or.inr (congrArg Book.nSequenceNumber hbook)
  | accepts _ rreq _ _ hbook =>
    have hseq : o.devVar.nSequenceNumber = _ := congrArg Book.nSequenceNumber hbook
    rw [hseq]
    split
    · exact Or.inr rfl
    · exact Or.inl rfl
  | learns _ _ _ _ hbook => exact Or.inl (congrArg Book.nSequenceNumber hbook)

variable {nodes : List IPAddress} {s s' : Net} {a : NetAction}

theorem ownSeq_step (h : s.step nodes a = some s') (i : IPAddress) :
    s'.ownSeq i = s.ownSeq i ∨ s'.ownSeq i = s.ownSeq i + 1 := by
  rcases Net.step_cases h with ⟨time, -, -, -, rfl⟩ | ⟨j, act, o, hact, rfl⟩
  · exact Or.inl rfl
  · unfold Net.ownSeq
    by_cases hj : i = j
    · subst hj
      rw [after_device_self]
      exact handle_nSequenceNumber hact.handled
    · rw [after_device_ne hj]
      exact Or.inl rfl

variable {tr : List (Net × NetAction)}

theorem seqIncrements_cons (h : s.step nodes a = some s') (i : IPAddress) :
    seqIncrements nodes i ((s, a) :: tr) =
      if s'.ownSeq i = s.ownSeq i then seqIncrements nodes i tr
      else seqIncrements nodes i tr + 1 := by
  unfold seqIncrements
  rw [List.countP_cons, h]
  by_cases heq : s'.ownSeq i = s.ownSeq i <;> simp [heq]

theorem seqIncrements_le_cons {x : Net × NetAction} (i : IPAddress) :
    seqIncrements nodes i tr ≤ seqIncrements nodes i (x :: tr) := by
  unfold seqIncrements
  rw [List.countP_cons]
  exact Nat.le_add_right _ _

theorem ownSeq_eq_increments
    (run : NetRun nodes tr s) {i : IPAddress} (hcount : seqIncrements nodes i tr < 2 ^ 32) :
    (s.ownSeq i).toNat = seqIncrements nodes i tr := by
  induction run with
  | nil => rfl
  | snoc run' hstep ih =>
    have hprev := ih (lt_of_le_of_lt (seqIncrements_le_cons i) hcount)
    rw [seqIncrements_cons hstep] at hcount ⊢
    split at hcount
    · next heq => rw [if_pos heq, heq, hprev]
    · next hne =>
      rcases ownSeq_step hstep i with heq | heq
      · exact absurd heq hne
      · rw [if_neg hne, heq, UInt32.toNat_add, hprev]
        exact Nat.mod_eq_of_lt hcount

theorem ownSeq_le_step (run : NetRun nodes tr s) (hstep : s.step nodes a = some s') {i : IPAddress}
    (hcount : seqIncrements nodes i ((s, a) :: tr) < 2 ^ 32) : s.ownSeq i ≤ s'.ownSeq i := by
  have hprev := ownSeq_eq_increments run (lt_of_le_of_lt (seqIncrements_le_cons i) hcount)
  have hnext := ownSeq_eq_increments (run.snoc hstep) hcount
  rw [UInt32.le_iff_toNat_le, hprev, hnext]
  exact seqIncrements_le_cons i

/-! ## Numbers in tables -/

def TableBounded (own : IPAddress → UInt32) (l : List RouteTable) : Prop :=
  ∀ dest table, findRouteTable l dest = some table → table.destinationSequenceNumber ≤ own dest

section Table

variable {c : Curr} {dest : IPAddress}

theorem seq_of_entry {op : RouteOp} {e : Option RouteTable} {table' : RouteTable}
    (h : op.entry c dest e = some table') :
    (∃ table, e = some table ∧
        table'.destinationSequenceNumber = table.destinationSequenceNumber) ∨
      ∃ hopCount nextHop lifeTime,
        op = .insert dest table'.destinationSequenceNumber hopCount nextHop lifeTime := by
  cases op with
  | insert ip seqNumber hopCount nextHop lifeTime =>
    simp only [RouteOp.entry] at h
    split at h
    · next hip =>
      subst hip
      cases e with
      | some table =>
        rw [← Option.some.inj h]
        split
        · exact Or.inr ⟨_, _, _, rfl⟩
        · exact Or.inl ⟨table, rfl, rfl⟩
      | none =>
        rw [← Option.some.inj h]
        exact Or.inr ⟨_, _, _, rfl⟩
    · exact Or.inl ⟨table', h, rfl⟩
  | extend ip lifetime =>
    obtain ⟨table, rfl, rfl⟩ := Option.map_eq_some_iff.1 h
    refine Or.inl ⟨table, rfl, ?_⟩
    split <;> rfl
  | invalidate broken =>
    obtain ⟨table, rfl, rfl⟩ := Option.map_eq_some_iff.1 h
    refine Or.inl ⟨table, rfl, ?_⟩
    split <;> rfl
  | expire d =>
    simp only [RouteOp.entry] at h
    split at h
    · exact Or.inl ⟨table', (Option.filter_eq_some_iff.1 h).1, rfl⟩
    · exact Or.inl ⟨table', h, rfl⟩

theorem TableBounded.after {own : IPAddress → UInt32} {ops : List RouteOp}
    (hops : ∀ ip seqNumber hopCount nextHop lifeTime,
      .insert ip seqNumber hopCount nextHop lifeTime ∈ ops → seqNumber ≤ own ip)
    {l : List RouteTable} (hl : OnePerDestination l) (h : TableBounded own l) :
    TableBounded own (tableAfter c l ops) := by
  induction ops generalizing l with
  | nil => exact h
  | cons op ops ih =>
    refine ih (fun ip seqNumber hopCount nextHop lifeTime hmem =>
      hops ip seqNumber hopCount nextHop lifeTime (List.mem_cons_of_mem _ hmem)) (hl.table op) ?_
    intro dest table' htable'
    rw [findRouteTable_table op hl] at htable'
    rcases seq_of_entry htable' with ⟨table, hold, hseq⟩ | ⟨hopCount, nextHop, lifeTime, rfl⟩
    · rw [hseq]
      exact h dest table hold
    · exact hops dest _ hopCount nextHop lifeTime List.mem_cons_self

theorem findSequenceNumber_le {own : IPAddress → UInt32} {v : DeviceVar}
    (h : TableBounded own v.routeTable) (ip : IPAddress) : findSequenceNumber v ip ≤ own ip := by
  unfold findSequenceNumber
  split
  · next table hfind => exact h ip table hfind
  · exact UInt32.zero_le

end Table

/-! ## Numbers in messages -/

def PayloadBounded (own : IPAddress → UInt32) : Payload → Prop
  | .rreq rreq =>
    rreq.destinationSequenceNumber ≤ own rreq.destinationIPAddress ∧
      rreq.originatorSequenceNumber ≤ own rreq.originatorIPAddress
  | .rrep rrep => rrep.destinationSequenceNumber ≤ own rrep.destinationIPaddress
  | .rerr rerr =>
    ∀ x ∈ rerr.unreachableDestinationIPAddress.zip rerr.unreachableDestinationSequenceNumber,
      x.2 ≤ own x.1
  | .data _ => True

variable {own : IPAddress → UInt32}

theorem PayloadBounded.mono {own' : IPAddress → UInt32} (hle : ∀ i, own i ≤ own' i)
    {payload : Payload} (h : PayloadBounded own payload) : PayloadBounded own' payload := by
  cases payload with
  | rreq rreq => exact ⟨UInt32.le_trans h.1 (hle _), UInt32.le_trans h.2 (hle _)⟩
  | rrep rrep => exact UInt32.le_trans h (hle _)
  | rerr rerr => exact fun x hx => UInt32.le_trans (h x hx) (hle _)
  | data n => trivial

theorem payloadBounded_receivedCopy {frame : Packet}
    (h : PayloadBounded own frame.payload) : PayloadBounded own (receivedCopy frame).payload := by
  unfold receivedCopy
  cases hp : frame.payload with
  | rreq rreq => rw [hp] at h; exact h
  | rrep rrep => rw [hp] at h; exact h
  | rerr rerr => rw [hp] at h; exact h
  | data n => trivial

theorem rebroadcastRREQ_bounded {c : Curr} {v : DeviceVar} {rreq : RREQ}
    (hv : TableBounded own v.routeTable) (h : PayloadBounded own (.rreq rreq)) :
    PayloadBounded own (.rreq (rebroadcastRREQ c v rreq)) := by
  refine ⟨?_, h.2⟩
  simp only [rebroadcastRREQ]
  split
  · exact findSequenceNumber_le hv _
  · exact h.1

theorem insert_bounded {c : Curr} {v : DeviceVar} {a : NodeAction}
    (hin : ∀ packet, a = .networkIn packet → PayloadBounded own packet.payload)
    {ip nextHop : IPAddress} {seqNumber hopCount : UInt32} {lifeTime : Time}
    (hmem : .insert ip seqNumber hopCount nextHop lifeTime ∈ routeOps c v a) :
    seqNumber ≤ own ip := by
  obtain ⟨packet, hpacket, ⟨rreq, hp, -, heq⟩ | ⟨rrep, hp, -, heq⟩⟩ := insert_mem_routeOps hmem
  · have hbound := hin packet hpacket
    rw [hp] at hbound
    simp only [reverseRoute, RouteOp.insert.injEq] at heq
    rw [← heq.1, ← heq.2.1]
    exact hbound.2
  · have hbound := hin packet hpacket
    rw [hp] at hbound
    simp only [forwardRoute, RouteOp.insert.injEq] at heq
    rw [← heq.1, ← heq.2.1]
    exact hbound

theorem TableBounded.accept {c : Curr} {v : DeviceVar} {rreq : RREQ}
    (h : TableBounded own v.routeTable) (hl : OnePerDestination v.routeTable)
    (hbound : PayloadBounded own (.rreq rreq)) : TableBounded own (v.accept c rreq).routeTable := by
  rw [accept_routeTable]
  show TableBounded own (tableAfter c v.routeTable [reverseRoute c rreq])
  refine TableBounded.after ?_ hl h
  intro ip seqNumber hopCount nextHop lifeTime hmem
  simp only [reverseRoute, List.mem_singleton, RouteOp.insert.injEq] at hmem
  rw [hmem.1, hmem.2.1]
  exact hbound.2

theorem payloadBounded_of_emits {c : Curr} {nRREQId : UInt32} {v : DeviceVar} {o : Outcome}
    {a : NodeAction} {p : Packet}
    (hemits : Emits c nRREQId v o a p) (hl : OnePerDestination v.routeTable)
    (hv : TableBounded own v.routeTable) (hold : v.nSequenceNumber ≤ own c.ip)
    (hown : o.devVar.nSequenceNumber ≤ own c.ip)
    (hin : ∀ packet, a = .networkIn packet → PayloadBounded own packet.payload)
    (hfire : ∀ time packet, a = .fire ⟨time, .networkOut packet⟩ →
      PayloadBounded own packet.payload) : PayloadBounded own p.payload := by
  have haccept : ∀ {packet rreq}, a = .networkIn packet → packet.payload = .rreq rreq →
      TableBounded own (v.accept c rreq).routeTable := by
    intro packet rreq ha hrreq
    exact hv.accept hl (hrreq ▸ hin packet ha)
  cases hemits with
  | sends time packet _ hpayload _ _ =>
    rw [hpayload]
    exact hfire time packet rfl
  | data _ _ hdata =>
    unfold Packet.isControl at hdata
    split at hdata
    · next hp =>
      rw [hp]
      trivial
    · cases hdata
  | originates _ dest _ hpayload _ _ hseq =>
    rw [hpayload]
    refine ⟨findSequenceNumber_le hv dest, ?_⟩
    show v.nSequenceNumber + 1 ≤ own c.ip
    rw [← hseq]
    exact hown
  | destination packet rreq _ _ hdest hseq =>
    show v.nSequenceNumber + 1 ≤ own rreq.destinationIPAddress
    rw [← hseq, ← hdest]
    exact hown
  | intermediate packet rreq table hrreq _ _ _ _ _ _ =>
    exact findSequenceNumber_le (haccept rfl hrreq) rreq.destinationIPAddress
  | rebroadcasts packet rreq hrreq _ _ _ _ _ =>
    have hbound := hin packet rfl
    rw [hrreq] at hbound
    exact rebroadcastRREQ_bounded (haccept rfl hrreq)
      (rebroadcastRREQ_bounded (haccept rfl hrreq) hbound)
  | forwards packet rrep nextHop hrrep _ _ =>
    have hbound := hin packet rfl
    rw [hrrep] at hbound
    exact hbound
  | hello time _ hpayload =>
    rw [hpayload]
    exact hold
  | breaks nextHop _ hpayload =>
    rw [hpayload]
    intro x hx
    simp only [newRERR] at hx
    rw [List.zip_map', List.mem_map] at hx
    obtain ⟨table, htable, rfl⟩ := hx
    exact hv _ table (lookup_of_mem hl (List.mem_of_mem_filter htable))
  | relaysError packet rerr hrerr => exact hin packet rfl

/-! ## Runs of a network -/

/-- No sequence number in a table or a message exceeds the current one of its owner. -/
structure SeqBounded (s : Net) : Prop where
  tables : ∀ i, ∀ table ∈ (s.device i).var.routeTable,
    table.destinationSequenceNumber ≤ s.ownSeq table.destinationIPAddress
  messages : ∀ p, s.InFlight p → PayloadBounded s.ownSeq p.payload

theorem TableBounded.mono {own' : IPAddress → UInt32} {l : List RouteTable}
    (hle : ∀ i, own i ≤ own' i) (h : TableBounded own l) : TableBounded own' l :=
  fun dest table htable => UInt32.le_trans (h dest table htable) (hle dest)

theorem tableBounded_iff {l : List RouteTable}
    (hl : OnePerDestination l) : TableBounded own l ↔
      ∀ table ∈ l, table.destinationSequenceNumber ≤ own table.destinationIPAddress := by
  constructor
  · exact fun h table hmem => h _ table (lookup_of_mem hl hmem)
  · intro h dest table hfind
    obtain ⟨hmem, rfl⟩ := lookup_some hfind
    exact h table hmem

theorem seqBounded_step
    (run : NetRun nodes tr s) (hinv : SeqBounded s) (h : s.step nodes a = some s')
    (hcount : ∀ i, seqIncrements nodes i ((s, a) :: tr) < 2 ^ 32) : SeqBounded s' := by
  have hle : ∀ i, s.ownSeq i ≤ s'.ownSeq i := fun i => ownSeq_le_step run h (hcount i)
  have htables : ∀ i, TableBounded s'.ownSeq (s.device i).var.routeTable := fun i =>
    ((tableBounded_iff (onePerDestination_of_run run i)).2 (hinv.tables i)).mono hle
  have hmessages : ∀ p, s.InFlight p → PayloadBounded s'.ownSeq p.payload := fun p hp =>
    (hinv.messages p hp).mono hle
  have hone' := onePerDestination_of_run (run.snoc h)
  rcases Net.step_cases h with ⟨time, -, -, -, rfl⟩ | ⟨i, act, o, hact, hs'⟩
  · exact ⟨fun i => (tableBounded_iff (hone' i)).1 (htables i), hmessages⟩
  have hin : ∀ packet, act = .networkIn packet → PayloadBounded s'.ownSeq packet.payload := by
    rintro packet rfl
    obtain ⟨frame, hframe, -, rfl⟩ := exists_frame_of_networkIn hact
    exact payloadBounded_receivedCopy (hmessages frame (Or.inl hframe))
  have hfire : ∀ time packet, act = .fire ⟨time, .networkOut packet⟩ →
      PayloadBounded s'.ownSeq packet.payload := by
    rintro time packet rfl
    exact hmessages packet (inFlight_of_fire hact)
  have hown : o.devVar.nSequenceNumber = s'.ownSeq i := by
    rw [hs', Net.ownSeq, after_device_self]
  constructor
  · intro j
    apply (tableBounded_iff (hone' j)).1
    by_cases hj : j = i
    · subst hj
      have htable : (s'.device j).var.routeTable = tableAfter ⟨j, s.now⟩
          (s.device j).var.routeTable (routeOps ⟨j, s.now⟩ (s.device j).var act) := by
        rw [hs', after_device_self]
        exact (handle_routeEffect hact.handled).1
      rw [htable]
      refine TableBounded.after ?_ (onePerDestination_of_run run j) (htables j)
      intro ip seqNumber hopCount nextHop lifeTime hmem
      exact insert_bounded hin hmem
    · rw [hs', after_device_ne hj, ← hs']
      exact htables j
  · intro p hp
    rw [hs'] at hp
    rcases inFlight_after hp with hold | hnew
    · exact hmessages p hold
    · exact payloadBounded_of_emits (hact.emits run hnew) (onePerDestination_of_run run i)
        (htables i) (hle i) (UInt32.le_of_eq hown) hin hfire

/-- In every run in which no device increases its sequence number 2^32 times, no number exceeds that
of its owner. -/
theorem seqBounded_of_run {nodes : List IPAddress} {tr : List (Net × NetAction)} {s : Net}
    (run : NetRun nodes tr s) (hcount : ∀ i, seqIncrements nodes i tr < 2 ^ 32) : SeqBounded s := by
  induction run with
  | nil => exact ⟨fun i table h => (nomatch h), fun p h => absurd h not_inFlight_init⟩
  | snoc run' h ih =>
    exact seqBounded_step run' (ih fun i => lt_of_le_of_lt (seqIncrements_le_cons i) (hcount i)) h
      hcount

theorem seqIncrements_le_length (nodes : List IPAddress) (i : IPAddress)
    (tr : List (Net × NetAction)) : seqIncrements nodes i tr ≤ tr.length :=
  List.countP_le_length

open Strategy

def answeredRREQ : List Strategy := [data 1 2 8, hear 2 0, due 2]

/-- In few steps an RREP with sequence number 1 for device 2 has been put out. -/
def answeredFresh (r : List (Net × NetAction) × Net) : Bool :=
  decide (r.1.length < 2 ^ 32) && r.2.sent.any fun p =>
    match p.payload with
    | .rrep rrep => decide (rrep.destinationIPaddress = 2 ∧ rrep.destinationSequenceNumber = 1)
    | _ => false

theorem answeredRREQ_fresh :
    ((exec (Net.step [1, 2]) Net.init answeredRREQ).any answeredFresh) = true := by
  decide +kernel

theorem seqBounded_of_answeredRREQ : ∃ tr s, NetRun [1, 2] tr s ∧ answeredFresh (tr, s) = true ∧
    SeqBounded s := by
  obtain ⟨tr, s, run, htest⟩ := NetRun.of_exec [1, 2] answeredRREQ answeredFresh answeredRREQ_fresh
  refine ⟨tr, s, run, htest, seqBounded_of_run run fun i => ?_⟩
  simp only [answeredFresh, Bool.and_eq_true, decide_eq_true_eq] at htest
  exact lt_of_le_of_lt (seqIncrements_le_length [1, 2] i tr) htest.1

/-! ## Freshness of replies -/

/-- Every RREP that is put out is at least as fresh as the RREQ asks for. -/
def AnswersFresh (rreq : RREQ) (o : Outcome) : Prop :=
  ∀ p ∈ o.packets, ∀ rrep, p.payload = .rrep rrep →
    rreq.destinationSequenceNumber ≤ rrep.destinationSequenceNumber

def answersForOther (c : Curr) (v : DeviceVar) (rreq : RREQ) : Bool :=
  !checkRREQSeenTable v rreq && decide (c.ip ≠ rreq.destinationIPAddress) &&
    decide (devCounter v.ncounter ≤ 25) && canAnswer c rreq (v.withReverseRoute c rreq)

/-- The sequence number that the device stores for the destination, once the reverse route is in. -/
def storedSeq (c : Curr) (v : DeviceVar) (rreq : RREQ) : UInt32 :=
  findSequenceNumber (v.withReverseRoute c rreq) rreq.destinationIPAddress

section Fresh

variable {c : Curr} {nRREQId : UInt32} {v : DeviceVar} {packet : Packet} {rreq : RREQ} {o : Outcome}

theorem storedSeq_accept :
    findSequenceNumber (v.accept c rreq) rreq.destinationIPAddress = storedSeq c v rreq := by
  unfold storedSeq findSequenceNumber
  rw [accept_routeTable]
  rfl

theorem reply_of_answersForOther (hrreq : packet.payload = .rreq rreq)
    (h : handle c nRREQId v (.networkIn packet) = some o)
    (hanswers : answersForOther c v rreq = true) :
    ∃ p rrep, o.packets = [p] ∧ p.payload = .rrep rrep ∧
      rrep.destinationSequenceNumber = storedSeq c v rreq := by
  simp only [answersForOther, Bool.and_eq_true, Bool.not_eq_true', decide_eq_true_eq] at hanswers
  obtain ⟨⟨⟨hseen, hdest⟩, hcounter⟩, hanswer⟩ := hanswers
  obtain ⟨hmay, hnext⟩ := Bool.and_eq_true_iff.1 hanswer
  rw [← mayAnswer_accept] at hmay
  rw [decide_eq_true_iff, ← findNextHop_accept] at hnext
  obtain ⟨table, hfind⟩ := exists_of_mayAnswer hmay
  have hnext : table.nextHop ≠ rreq.lastAddress := by
    intro heq
    rw [findNextHop, hfind, Option.map_some, heq] at hnext
    exact hnext rfl
  obtain ⟨o', ho', hpackets⟩ :=
    handle_rreq_answers nRREQId hrreq hseen hdest hcounter hmay hfind hnext
  rw [h] at ho'
  rw [← Option.some.inj ho'] at hpackets
  exact ⟨_, _, hpackets, rfl, storedSeq_accept⟩

theorem reply_cases (hfifo : DataFIFO v) (hrreq : packet.payload = .rreq rreq)
    (h : handle c nRREQId v (.networkIn packet) = some o) {p : Packet} (hp : p ∈ o.packets)
    {rrep : RREP} (hrrep : p.payload = .rrep rrep) :
    (c.ip = rreq.destinationIPAddress ∧
        rrep.destinationSequenceNumber = o.devVar.nSequenceNumber) ∨
      (answersForOther c v rreq = true ∧
        rrep.destinationSequenceNumber = storedSeq c v rreq) := by
  have hdata : ∀ q, NodeAction.networkIn packet = .dataOut q → q.isControl = false :=
    fun _ heq => nomatch heq
  have hemits := handle_emits hfifo hdata h (List.mem_append_left _ hp)
  cases hemits.rrep hrrep with
  | destination _ rreq' hrreq' hdest hseq hp =>
    cases hrreq.symm.trans hrreq'
    rw [hp] at hrrep
    rw [← Payload.rrep.inj hrrep]
    exact Or.inl ⟨hdest, hseq.symm⟩
  | intermediate _ rreq' table hrreq' hseen hdest hcounter hmay hfind hnext hp =>
    cases hrreq.symm.trans hrreq'
    rw [hp] at hrrep
    rw [← Payload.rrep.inj hrrep]
    refine Or.inr ⟨?_, storedSeq_accept⟩
    simp [answersForOther, hseen, hdest, hcounter, canAnswer_of_reply hmay hfind hnext]
  | forwards _ rrep' nextHop hrrep' => cases hrreq.symm.trans hrrep'

end Fresh

/-- Replies are fresh exactly when no device answers for another with a number lower than the one
asked for. -/
theorem answersFresh_iff {nodes : List IPAddress} {tr : List (Net × NetAction)} {s : Net}
    {a : NetAction} {i : IPAddress} {packet : Packet} {rreq : RREQ} {o : Outcome}
    (run : NetRun nodes tr s) (hact : s.Acts nodes a i (.networkIn packet) o)
    (hrreq : packet.payload = .rreq rreq)
    (hcount : ∀ j, seqIncrements nodes j ((s, a) :: tr) < 2 ^ 32) :
    AnswersFresh rreq o ↔
      (answersForOther ⟨i, s.now⟩ (s.device i).var rreq = true →
        rreq.destinationSequenceNumber ≤ storedSeq ⟨i, s.now⟩ (s.device i).var rreq) := by
  constructor
  · intro hfresh hanswers
    obtain ⟨p, rrep, hpackets, hrrep, hseq⟩ :=
      reply_of_answersForOther hrreq hact.handled hanswers
    rw [← hseq]
    exact hfresh p (by rw [hpackets]; exact List.mem_singleton.2 rfl) rrep hrrep
  · intro hcond p hp rrep hrrep
    rcases reply_cases (dataFIFO_of_run run i) hrreq hact.handled hp hrrep with
      ⟨hdest, hseq⟩ | ⟨hanswers, hseq⟩
    · have hstep := hact.step_eq
      have hinv : SeqBounded s := seqBounded_of_run run fun j =>
        lt_of_le_of_lt (seqIncrements_le_cons j) (hcount j)
      obtain ⟨frame, hframe, -, hcopy⟩ := exists_frame_of_networkIn hact
      have hbound : PayloadBounded s.ownSeq packet.payload := by
        rw [hcopy]
        exact payloadBounded_receivedCopy (hinv.messages frame (Or.inl hframe))
      rw [hrreq] at hbound
      have hasked : rreq.destinationSequenceNumber ≤ s.ownSeq i := by
        have hip : i = rreq.destinationIPAddress := hdest
        rw [hip]
        exact hbound.1
      have hown : (s.after i (.networkIn packet) o).ownSeq i = o.devVar.nSequenceNumber := by
        rw [Net.ownSeq, after_device_self]
      rw [hseq, ← hown]
      exact UInt32.le_trans hasked (ownSeq_le_step run hstep (hcount i))
    · rw [hseq]
      exact hcond hanswers

/-- The step delivers an RREQ that is answered with a number which `ok` accepts for the one asked
for. -/
def answersWith (nodes : List IPAddress) (ok : UInt32 → UInt32 → Bool) (x : Net × NetAction) :
    Bool :=
  (rreqDelivery nodes x).any fun (_, _, rreq, o) => o.packets.any fun p =>
    match p.payload with
    | .rrep rrep => ok rreq.destinationSequenceNumber rrep.destinationSequenceNumber
    | _ => false

theorem exists_of_answersWith {ok : UInt32 → UInt32 → Bool} (run : NetRun nodes tr s)
    (h : tr.any (answersWith nodes ok) = true) :
    ∃ pre s1 a i packet rreq o, NetRun nodes pre s1 ∧ pre.length < tr.length ∧
      s1.Acts nodes a i (.networkIn packet) o ∧ packet.payload = .rreq rreq ∧
      ∃ p ∈ o.packets, ∃ rrep, p.payload = .rrep rrep ∧
        ok rreq.destinationSequenceNumber rrep.destinationSequenceNumber = true := by
  obtain ⟨⟨s1, a⟩, hmem, hx⟩ := List.any_eq_true.1 h
  obtain ⟨pre, post, s', rfl, hpre, -⟩ := run.prefix_of_mem hmem
  obtain ⟨⟨i, packet, rreq, o⟩, hdelivery, hany⟩ := (Option.any_eq_true _ _).1 hx
  obtain ⟨hacts, hrreq⟩ := acts_of_rreqDelivery hdelivery
  obtain ⟨p, hp, hok⟩ := List.any_eq_true.1 hany
  refine ⟨pre, s1, a, i, packet, rreq, o, hpre, ?_, hacts, hrreq, p, hp, ?_⟩
  · simp only [List.length_append, List.length_cons]
    omega
  · split at hok
    · next rrep hrrep => exact ⟨rrep, hrrep, hok⟩
    · cases hok

theorem answeredRREQ_answers : ((exec (Net.step [1, 2]) Net.init answeredRREQ).any fun r =>
    decide (r.1.length < 2 ^ 32) && r.1.any (answersWith [1, 2] fun _ n => decide (n = 1))) =
      true := by
  decide +kernel

/-- The destination answers with its first number, and freshly. -/
theorem answersFresh_of_answeredRREQ : ∃ tr s a i packet rreq o, NetRun [1, 2] tr s ∧
    s.Acts [1, 2] a i (.networkIn packet) o ∧ packet.payload = .rreq rreq ∧ o.packets ≠ [] ∧
    (AnswersFresh rreq o ↔ (answersForOther ⟨i, s.now⟩ (s.device i).var rreq = true →
      rreq.destinationSequenceNumber ≤ storedSeq ⟨i, s.now⟩ (s.device i).var rreq)) := by
  obtain ⟨tr, s, run, htest⟩ := NetRun.of_exec [1, 2] answeredRREQ (fun r =>
    decide (r.1.length < 2 ^ 32) && r.1.any (answersWith [1, 2] fun _ n => decide (n = 1)))
    answeredRREQ_answers
  simp only [Bool.and_eq_true, decide_eq_true_eq] at htest
  obtain ⟨pre, s₁, a, i, packet, rreq, o, hpre, hlen, hacts, hrreq, p, hp, -⟩ :=
    exists_of_answersWith run htest.2
  refine ⟨pre, s₁, a, i, packet, rreq, o, hpre, hacts, hrreq, List.ne_nil_of_mem hp,
    answersFresh_iff hpre hacts hrreq fun j => ?_⟩
  apply lt_of_le_of_lt (seqIncrements_le_length [1, 2] j _)
  exact lt_of_le_of_lt hlen htest.1

def staleAnswer : List Strategy :=
  [data 1 9 7, hear 2 0, data 3 1 5, wait 320, due 1, due 1, hear 3 0, due 3, due 3, hear 2 0]

theorem staleAnswer_stale : ((exec (Net.step [1, 2, 3]) Net.init staleAnswer).any fun r =>
    r.1.any (answersWith [1, 2, 3] fun q n => decide (q ≠ 0 ∧ n < q))) = true := by
  decide +kernel

/-- Device 3 asks for number 2 or fresher, and device 2 answers with number 1. -/
theorem exists_stale_answer : ¬ ∀ nodes tr s a i packet rreq o, NetRun nodes tr s →
    s.Acts nodes a i (.networkIn packet) o → packet.payload = .rreq rreq →
    rreq.destinationSequenceNumber ≠ 0 → AnswersFresh rreq o := by
  intro h
  obtain ⟨tr, s, run, htest⟩ := NetRun.of_exec [1, 2, 3] staleAnswer
    (fun r => r.1.any (answersWith [1, 2, 3] fun q n => decide (q ≠ 0 ∧ n < q))) staleAnswer_stale
  obtain ⟨pre, s₁, a, i, packet, rreq, o, hpre, -, hacts, hrreq, p, hp, rrep, hrrep, hok⟩ :=
    exists_of_answersWith run htest
  obtain ⟨hne, hlt⟩ := of_decide_eq_true hok
  have hle := h [1, 2, 3] pre s₁ a i packet rreq o hpre hacts hrreq hne p hp rrep hrrep
  exact absurd hlt (UInt32.not_lt.2 hle)

end NetSim.Aodv
