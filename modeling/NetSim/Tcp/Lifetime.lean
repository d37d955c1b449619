import NetSim.Tcp.Socket

/-!
# Handlers and deleted connections

A state is good when no handler has used memory that is gone or a callback that is null, and no
TIME_WAIT timeout is pending for a freed socket. `Socket.Safe` says which steps keep that.
-/

namespace NetSim.Tcp

open NetSim.Lib

/-- Nothing has been used after it was deleted, and nothing pending refers to a freed socket. -/
def World.Good : World → Prop
  | .ok s => s.freed = true → s.conn.timeWaitTimeouts = 0
  | .error _ => False

namespace Socket

/-- The socket is in the list of its device and has a TCB. -/
structure Live (s : Socket) : Prop where
  freed : s.freed = false
  tcbDeleted : s.tcbDeleted = false

/-- The states of `packet_arrives_at_incoming_tcp`. -/
def isSynchronized : TcpState → Bool
  | .closed | .listen | .synSent => false
  | _ => true

/-! ## When a step is safe -/

/-- `process_syn` answers a SYN with these variables by a reset. -/
def synRefused (t : Tcb) : Bool :=
  (t.IRS ≠ 0 && t.IRS ≠ t.SEG.SEQ) || (t.RCV.NXT ≠ 0 && t.RCV.NXT ≠ u32 (t.SEG.SEQ + 1))

/-- An acceptable segment makes `process_rst_packet` or `process_syn_packet` close the socket. -/
def closedBy (t : Tcb) (p : Segment) : Bool :=
  t.validateSegment &&
    if p.rst then !(t.tcpState = .synReceived && t.tcpPrevState = .listen)
    else p.syn && t.tcpState ≠ .synReceived

/-- `resend_syn` gives up. -/
def synGivesUp (c : Conn) (p : Segment) : Bool :=
  !c.tcb.isOtherTimerCancel && c.tcb.retransmissionQueue.isSegmentInQueue p && p.isTCPControl &&
    p.syn && c.dev.maxSynRetries ≤ c.tcb.synRetries

/-- The condition on a segment, once `update_seq_num_on_receiving` has read it. -/
def SafeSegment (c : Conn) (p : Segment) : Prop :=
  match c.tcb.tcpState with
  | .closed => True
  | .listen => p.rst = false → p.ack = false → p.syn = true → synRefused c.tcb = false →
      c.listenCallback = true
  | .synSent => p.rst = true → ackRefused c.tcb p = false → ackAcceptable c.tcb p = false
  | _ => closedBy c.tcb p = true → c.timeWaitTimeouts = 0

/-- No SYN in LISTEN for a socket without callback, no acceptable reset in SYN_SENT, nothing that
closes the socket while a TIME_WAIT timeout is pending, and nothing that finds the TCB deleted. -/
def Safe (s : Socket) : EventKind → Prop
  | .segment p => s.Live → SafeSegment (s.conn.mapTcb (·.updateSeqNumOnReceiving p)) p
  | .rtoTimeout p => s.Live → synGivesUp s.conn p = true → s.conn.timeWaitTimeouts = 0
  | .timeWaitTimeout => s.tcbDeleted = false
  | .transportOut => s.freed = false → s.conn.waitFromApp = true → s.tcbDeleted = false
  | .passPacket _ => True

/-! ## What the handlers do -/

theorem changeState_deleted {s : Socket} (hfreed : s.freed = false) (hdeleted : s.tcbDeleted = true)
    (state : TcpState) : s.changeState state = .error .tcbDeleted := by
  unfold changeState onTcb useTcb
  rw [if_neg (by simp [hfreed]), if_pos hdeleted]
  rfl

section Handlers

variable {s : Socket} (h : s.Live)
include h

theorem useTcb_live : s.useTcb = .ok s.conn := by
  unfold useTcb
  rw [if_neg (by simp [h.freed]), if_neg (by simp [h.tcbDeleted])]

theorem deleteTcb_live : s.deleteTcb = .ok { s with tcbDeleted := true } := by
  unfold deleteTcb
  rw [useTcb_live h]
  rfl

theorem onTcb_live (f : Conn → Conn) : s.onTcb f = .ok { s with conn := f s.conn } := by
  unfold onTcb
  rw [useTcb_live h]
  rfl

theorem good_onTcb (f : Conn → Conn) : World.Good (s.onTcb f) := by
  rw [onTcb_live h]
  intro hfreed
  cases h.freed.symm.trans hfreed

theorem good_pure : World.Good (pure s) := by
  intro hfreed
  cases h.freed.symm.trans hfreed

theorem tcpCloseSocket_live :
    s.tcpCloseSocket =
      .ok { conn := s.conn.changeState .closed, tcbDeleted := true, freed := true } := by
  unfold tcpCloseSocket
  rw [if_neg (by simp [h.freed]), if_neg (by simp [h.tcbDeleted])]
  unfold changeState
  rw [onTcb_live h]
  rfl

theorem good_tcpCloseSocket : World.Good s.tcpCloseSocket ↔ s.conn.timeWaitTimeouts = 0 := by
  rw [tcpCloseSocket_live h]
  constructor
  · intro hgood
    exact hgood rfl
  · intro hnone _
    exact hnone

theorem good_deleteTcb (state : TcpState) :
    World.Good (do
      let s ← s.changeState state
      s.deleteTcb) := by
  unfold changeState
  rw [onTcb_live h]
  change World.Good (deleteTcb { s with conn := s.conn.changeState state })
  unfold deleteTcb
  have hlive : Live { s with conn := s.conn.changeState state } := ⟨h.freed, h.tcbDeleted⟩
  rw [useTcb_live hlive]
  intro hfreed
  cases h.freed.symm.trans hfreed

theorem good_packetArriveAtClosedState (p : Segment) :
    World.Good (s.packetArriveAtClosedState p) := by
  unfold packetArriveAtClosedState
  split
  · exact good_onTcb h _
  · exact good_pure h

theorem good_packetArrivesAtListenState (p : Segment) :
    World.Good (s.packetArrivesAtListenState p) ↔
      (p.rst = false → p.ack = false → p.syn = true → synRefused s.conn.tcb = false →
        s.conn.listenCallback = true) := by
  unfold packetArrivesAtListenState
  split
  · next hrst =>
    simp [hrst, good_pure h]
  · next hrst =>
    split
    · next hack =>
      simp [hack, good_onTcb h]
    · next hack =>
      split
      · next hsyn =>
        simp only [hrst, hack, hsyn, true_imp_iff]
        unfold processSyn
        rw [useTcb_live h]
        change World.Good (if _ then _ else _) ↔ _
        split
        · next hrefused =>
          have : synRefused s.conn.tcb = true := by simpa [synRefused] using hrefused
          simp [this, good_onTcb h]
        · next hrefused =>
          have : synRefused s.conn.tcb = false := by
            rw [Bool.eq_false_iff]
            intro htrue
            exact hrefused (by simpa [synRefused] using htrue)
          simp only [this, true_imp_iff]
          split
          · next hcallback =>
            simp [hcallback, good_pure h]
          · next hcallback =>
            simp [hcallback, World.Good]
      · next hsyn =>
        simp [hsyn, good_pure h]

theorem good_packetArrivesAtSynsentState (p : Segment) :
    World.Good (s.packetArrivesAtSynsentState p) ↔
      (p.rst = true → ackRefused s.conn.tcb p = false → ackAcceptable s.conn.tcb p = false) := by
  unfold packetArrivesAtSynsentState
  rw [useTcb_live h]
  change World.Good (if _ then _ else _) ↔ _
  split
  · next hrefused =>
    simp [hrefused, good_onTcb h]
  · next hrefused =>
    simp only [hrefused, true_imp_iff]
    split
    · next hrst =>
      simp only [hrst, true_imp_iff]
      split
      · next hacceptable =>
        -- `tcp_change_state` comes after `delete_tcb`
        rw [deleteTcb_live h, hacceptable]
        change World.Good (do
          let s ← changeState { s with tcbDeleted := true } .closed
          s.tcpCloseSocket) ↔ _
        rw [changeState_deleted (s := { s with tcbDeleted := true }) h.freed rfl]
        simp [World.Good, bind, Except.bind]
      · next hacceptable =>
        simp [hacceptable, good_pure h]
    · next hrst =>
      split
      · simp [hrst, good_onTcb h]
      · simp [hrst, good_pure h]

theorem good_processRstPacket (hstate : isSynchronized s.conn.tcb.tcpState = true) :
    World.Good s.processRstPacket ↔
      (¬ (s.conn.tcb.tcpState = .synReceived ∧ s.conn.tcb.tcpPrevState = .listen) →
        s.conn.timeWaitTimeouts = 0) := by
  have hclose := good_tcpCloseSocket h
  unfold processRstPacket
  rw [useTcb_live h]
  simp only [bind, Except.bind]
  cases ht : s.conn.tcb.tcpState <;> rw [ht] at hstate
  case closed | listen | synSent => cases hstate
  case synReceived =>
    rw [onTcb_live h]
    have hlive : Live { s with conn := s.conn.mapTcb fun t => { t with
      retransmissionQueue := t.retransmissionQueue.deleteAllSegmentFromQueue } } :=
      ⟨h.freed, h.tcbDeleted⟩
    dsimp only
    split
    · next hprev =>
      unfold changeState
      simp [hprev, good_onTcb hlive]
    · next hprev =>
      rw [good_tcpCloseSocket hlive]
      simp [hprev, Conn.mapTcb]
  all_goals simpa using hclose

theorem good_processSynPacket (hstate : isSynchronized s.conn.tcb.tcpState = true) :
    World.Good s.processSynPacket ↔
      (s.conn.tcb.tcpState ≠ .synReceived → s.conn.timeWaitTimeouts = 0) := by
  have hclose := good_tcpCloseSocket h
  unfold processSynPacket
  rw [useTcb_live h]
  simp only [bind, Except.bind]
  cases ht : s.conn.tcb.tcpState <;> rw [ht] at hstate
  case closed | listen | synSent => cases hstate
  case synReceived =>
    unfold changeState
    simp [good_onTcb h]
  all_goals simpa using hclose

theorem good_processAckPacket (p : Segment) : World.Good (s.processAckPacket p) := by
  unfold processAckPacket
  rw [useTcb_live h]
  simp only [bind, Except.bind]
  split
  · exact good_deleteTcb h .closed
  · exact good_onTcb h _

theorem good_packetArrivesAtIncomingTcp (p : Segment)
    (hstate : isSynchronized s.conn.tcb.tcpState = true) :
    World.Good (s.packetArrivesAtIncomingTcp p) ↔
      (closedBy s.conn.tcb p = true → s.conn.timeWaitTimeouts = 0) := by
  unfold packetArrivesAtIncomingTcp closedBy
  rw [useTcb_live h]
  simp only [bind, Except.bind]
  split
  · next hvalid =>
    simp only [hvalid, Bool.true_and]
    split
    · next hrst =>
      rw [good_processRstPacket h hstate]
      simp [imp_iff_not_or]
    · next hrst =>
      split
      · next hsyn =>
        rw [good_processSynPacket h hstate]
        simp [hsyn]
      · next hsyn =>
        simp only [hsyn, Bool.false_and, Bool.false_eq_true, false_imp_iff, iff_true]
        split
        · exact good_processAckPacket h p
        · exact good_onTcb h _
  · next hvalid =>
    simp only [hvalid, Bool.false_and, Bool.false_eq_true, false_imp_iff, iff_true]
    split
    · exact good_pure h
    · exact good_onTcb h _

theorem good_dispatch (p : Segment) :
    World.Good (match s.conn.tcb.tcpState with
      | .closed => s.packetArriveAtClosedState p
      | .listen => s.packetArrivesAtListenState p
      | .synSent => s.packetArrivesAtSynsentState p
      | _ => s.packetArrivesAtIncomingTcp p) ↔ SafeSegment s.conn p := by
  unfold SafeSegment
  have hincoming := good_packetArrivesAtIncomingTcp h p
  cases ht : s.conn.tcb.tcpState <;> rw [ht] at hincoming
  case closed => exact iff_of_true (good_packetArriveAtClosedState h p) trivial
  case listen => exact good_packetArrivesAtListenState h p
  case synSent => exact good_packetArrivesAtSynsentState h p
  all_goals exact hincoming rfl

theorem good_handleTimeWaitTimeout : World.Good s.handleTimeWaitTimeout := by
  unfold handleTimeWaitTimeout
  rw [useTcb_live h]
  simp only [bind, Except.bind]
  split
  · exact good_onTcb h _
  · exact good_deleteTcb h .closed

end Handlers

theorem good_handleTimeWaitTimeout_iff {s : Socket} (hfreed : s.freed = false) :
    World.Good s.handleTimeWaitTimeout ↔ s.tcbDeleted = false := by
  cases hdeleted : s.tcbDeleted with
  | false => exact iff_of_true (good_handleTimeWaitTimeout ⟨hfreed, hdeleted⟩) rfl
  | true =>
    apply iff_of_false
    · unfold handleTimeWaitTimeout useTcb
      rw [if_neg (by simp [hfreed]), if_pos hdeleted]
      exact id
    · simp

theorem good_packetArriveFromNetworkLayer {s : Socket} (hgood : World.Good (.ok s)) (p : Segment) :
    World.Good (s.packetArriveFromNetworkLayer p) ↔ s.Safe (.segment p) := by
  unfold packetArriveFromNetworkLayer
  split
  · next hgone =>
    have hlive : ¬ s.Live := by
      rintro ⟨hfreed, hdeleted⟩
      simp [hfreed, hdeleted] at hgone
    simp only [Safe, hlive, false_imp_iff, iff_true]
    exact hgood
  · next hgone =>
    have h : s.Live := by
      rw [Bool.not_eq_true, Bool.or_eq_false_iff] at hgone
      exact ⟨hgone.1, hgone.2⟩
    have h' : Live { s with conn := s.conn.mapTcb (·.updateSeqNumOnReceiving p) } :=
      ⟨h.freed, h.tcbDeleted⟩
    rw [onTcb_live h]
    simp only [bind, Except.bind]
    rw [useTcb_live h']
    simp only [Safe, h, true_imp_iff]
    exact good_dispatch h' p

theorem good_resendSyn {s : Socket} (h : s.Live) {p : Segment} {w : World}
    (hw : s.resendSyn p = some w) :
    w.Good ↔ (s.conn.dev.maxSynRetries ≤ s.conn.tcb.synRetries → s.conn.timeWaitTimeouts = 0) := by
  unfold resendSyn at hw
  rw [useTcb_live h] at hw
  simp only at hw
  split at hw
  · cases hw
  · split at hw
    · cases hw
    · next syn q hq =>
      have hlive : Live { s with conn := s.conn.mapTcb fun t => { t with
          retransmissionQueue := q } } := ⟨h.freed, h.tcbDeleted⟩
      split at hw
      · next hretry =>
        obtain rfl := Option.some.inj hw
        have hlt : ¬ s.conn.dev.maxSynRetries ≤ s.conn.tcb.synRetries := Nat.not_le_of_lt hretry
        simp only [hlt, false_imp_iff, iff_true]
        exact good_pure ⟨h.freed, h.tcbDeleted⟩
      · next hretry =>
        obtain rfl := Option.some.inj hw
        have hle : s.conn.dev.maxSynRetries ≤ s.conn.tcb.synRetries := Nat.le_of_not_lt hretry
        rw [good_tcpCloseSocket hlive]
        simp only [hle, true_imp_iff]
        rfl

theorem good_handleRtoTimer {s : Socket} (hgood : World.Good (.ok s)) {p : Segment} {w : World}
    (hw : s.handleRtoTimer p = some w) : w.Good ↔ s.Safe (.rtoTimeout p) := by
  unfold handleRtoTimer at hw
  unfold Safe synGivesUp
  split at hw
  · next hgone =>
    obtain rfl := Option.some.inj hw
    apply iff_of_true hgood
    rintro ⟨hfreed, hdeleted⟩
    simp only [hfreed, hdeleted, Bool.false_or] at hgone
    simp [hgone]
  · next hgone =>
    simp only [Bool.not_eq_true, Bool.or_eq_false_iff] at hgone
    obtain ⟨⟨hfreed, hdeleted⟩, hcancel⟩ := hgone
    have h : s.Live := ⟨hfreed, hdeleted⟩
    simp only [h, true_imp_iff, hcancel, Bool.not_false, Bool.true_and]
    split at hw
    · next hqueued =>
      split at hw
      · next hctrl =>
        split at hw
        · next hsyn =>
          rw [good_resendSyn h hw]
          simp [hqueued, hctrl, hsyn]
        · next hsyn =>
          obtain rfl := Option.some.inj hw
          simp [hsyn, hgood]
      · next hctrl =>
        obtain rfl := Option.some.inj hw
        simp [hctrl, good_onTcb h]
    · next hqueued =>
      obtain rfl := Option.some.inj hw
      simp [hqueued, hgood]

theorem good_handle {s : Socket} (hgood : World.Good (.ok s)) {e : EventKind} {w : World}
    (hw : s.handle e = some w) : w.Good ↔ s.Safe e := by
  cases e with
  | segment p =>
    obtain rfl := Option.some.inj hw
    exact good_packetArriveFromNetworkLayer hgood p
  | rtoTimeout p =>
    simp only [handle] at hw
    split at hw
    · rw [good_handleRtoTimer (by exact hgood) hw]
      constructor
      · intro hsafe h
        exact hsafe ⟨h.freed, h.tcbDeleted⟩
      · intro hsafe h
        exact hsafe ⟨h.freed, h.tcbDeleted⟩
    · cases hw
  | timeWaitTimeout =>
    simp only [handle] at hw
    split at hw
    · next hpending =>
      obtain rfl := Option.some.inj hw
      have hfreed : s.freed = false := by
        rw [Bool.eq_false_iff]
        intro hfreed
        have := hgood hfreed
        omega
      exact good_handleTimeWaitTimeout_iff (by exact hfreed)
    · cases hw
  | transportOut =>
    obtain rfl := Option.some.inj hw
    unfold packetArriveFromApplicationLayer Safe
    split
    · next hfreed =>
      exact iff_of_true hgood (by simp [hfreed])
    · next hfreed =>
      rw [Bool.not_eq_true] at hfreed
      split
      · next hwait =>
        cases hdeleted : s.tcbDeleted with
        | false => exact iff_of_true (good_onTcb ⟨hfreed, hdeleted⟩ _) (by simp)
        | true =>
          apply iff_of_false
          · unfold onTcb useTcb
            rw [if_neg (by simp [hfreed]), if_pos hdeleted]
            exact id
          · simp [hfreed, hwait]
      · next hwait =>
        exact iff_of_true hgood (by simp [hwait])
  | passPacket p =>
    obtain rfl := Option.some.inj hw
    exact iff_of_true hgood trivial

end Socket

/-! ## Runs -/

def World.Safe (w : World) (e : Event) : Prop :=
  ∀ s, w = .ok s → (s.atTime e.dEventTime).Safe e.kind

theorem World.good_step {w w' : World} {e : Event} (hgood : w.Good) (hstep : w.step e = some w') :
    w'.Good ↔ w.Safe e := by
  cases w with
  | error f => cases hstep
  | ok s =>
    simp only [World.step] at hstep
    split at hstep
    · rw [Socket.good_handle (by exact hgood) hstep]
      constructor
      · rintro hsafe _ ⟨⟩
        exact hsafe
      · intro hsafe
        exact hsafe s rfl
    · cases hstep

/-- The states of a run from a good one are all good if and only if its steps are all safe. -/
theorem good_run_iff {s₀ w : World} {tr : List (World × Event)} (h₀ : s₀.Good)
    (run : Run World.step s₀ tr w) :
    (w.Good ∧ ∀ x ∈ tr, x.1.Good) ↔ ∀ x ∈ tr, x.1.Safe x.2 := by
  induction run with
  | nil => simp [h₀]
  | snoc run hstep ih =>
    simp only [List.forall_mem_cons]
    rw [← ih]
    constructor
    · rintro ⟨hgood', hgood, htr⟩
      exact ⟨(World.good_step hgood hstep).1 hgood', hgood, htr⟩
    · rintro ⟨hsafe, hgood, htr⟩
      exact ⟨(World.good_step hgood hstep).2 hsafe, hgood, htr⟩

/-- A SYN as a client with `DevVar.config` sends it. -/
def exampleSyn : Segment := (Socket.create DevVar.config 0 []).conn.createSyn

/-- A listening socket hands a SYN to its callback. -/
theorem good_run_listen :
    ∃ tr w, Run World.step (.ok (Socket.listen DevVar.config 0)) tr w ∧ tr ≠ [] ∧
      w.Good ∧ ∀ x ∈ tr, x.1.Good := by
  have hfresh : World.Good (.ok (Socket.listen DevVar.config 0)) := fun h => nomatch h
  have run : Run World.step (.ok (Socket.listen DevVar.config 0))
      [(.ok (Socket.listen DevVar.config 0), ⟨5, .segment exampleSyn⟩)] _ := .snoc .nil rfl
  refine ⟨_, _, run, by simp, (good_run_iff hfresh run).2 ?_⟩
  intro x hx
  obtain rfl := List.mem_singleton.1 hx
  rintro s ⟨⟩ _ _ _ _ _
  rfl

def exampleRst : Segment :=
  { createTcpCtrlPacket .rst with rst := true, ack := true, ackNum := 2 }

/-- A client is refused: the handler deletes the TCB and then changes the state in it. -/
theorem not_good_run_refused :
    ∃ tr w, Run World.step (.ok (Socket.connect DevVar.config 0 [])) tr w ∧
      (w matches .error .tcbDeleted) = true ∧ ¬ w.Good := by
  have hexec : (exec World.step (.ok (Socket.connect DevVar.config 0 []))
      [fun _ => some ⟨5, .segment exampleRst⟩]).any
      (fun r => r.2 matches .error .tcbDeleted) = true := by decide +kernel
  obtain ⟨tr, w, run, htest⟩ := run_of_exec hexec
  refine ⟨tr, w, run, htest, ?_⟩
  cases w with
  | ok s => cases htest
  | error f => exact id

end NetSim.Tcp
