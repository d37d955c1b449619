import NetSim.Tcp.RejectedAck
import NetSim.Tcp.SendLimit

/-!
# The limit on what a sender sends (`TCP_Outgoing.c`, `TCP_Incoming.c`)

`send_segment` replaces the window of the peer by the congestion window before it looks at it. So
new data ends within the congestion window, whatever the peer has advertised.
-/

namespace NetSim.Tcp

open NetSim.Lib

structure Flow where
  conn : Conn
  peerWindow : Nat

namespace Conn

variable {s s' : Conn} {p : Segment}

/-- The test of `process_ack_in_establishedState` on a new acknowledgment. -/
def AckIsNew (s : Conn) : Prop :=
  s.tcb.SND.UNA < s.tcb.SEG.ACK ∧ s.tcb.SEG.ACK ≤ s.tcb.SND.NXT

instance : Decidable s.AckIsNew := inferInstanceAs (Decidable (_ ∧ _))

/-- The rule on `SND.WL1` and `SND.WL2`. -/
def WindowIsNew (s : Conn) : Prop :=
  s.tcb.SND.WL1 < s.tcb.SEG.SEQ ∨
    s.tcb.SND.WL1 = s.tcb.SEG.SEQ ∧ s.tcb.SND.WL2 ≤ s.tcb.SEG.ACK

instance : Decidable s.WindowIsNew := inferInstanceAs (Decidable (_ ∨ _))

def flight (s : Conn) : Nat := sub32 s.tcb.SND.NXT s.tcb.SND.UNA

/-- Nothing has been sent, or what is in flight fits the congestion window, and the window of the
peer as far as that was met before. -/
structure SentWithin (peerWindow : Nat) (s s' : Conn) : Prop where
  cwnd : s'.tcb.SND.NXT = s.tcb.SND.NXT ∨ s'.flight ≤ s'.tcb.windowScaleGetCwnd
  both : s.flight ≤ min s'.tcb.windowScaleGetCwnd peerWindow →
    (∀ l, l <+: s.sId → s.flight + packetBytes l ≤ s'.tcb.windowScaleGetCwnd →
      s.flight + packetBytes l ≤ peerWindow) →
    s'.flight ≤ min s'.tcb.windowScaleGetCwnd peerWindow

/-- A sender whose numbers have not come round. -/
structure InOrder (s : Conn) : Prop where
  una_le : s.tcb.SND.UNA ≤ s.tcb.SND.NXT
  streamEnd_lt : s.streamEnd < 2 ^ 32

theorem InOrder.nxt_lt (h : s.InOrder) : s.tcb.SND.NXT < 2 ^ 32 := by
  have hend := h.streamEnd_lt
  unfold streamEnd at hend
  omega

theorem Advances.inOrder (h : Advances s s') (hs : s.InOrder) : s'.InOrder := by
  refine ⟨?_, h.streamEnd.trans_lt hs.streamEnd_lt⟩
  rw [h.una]
  exact hs.una_le.trans h.nxt_le

theorem InOrder.flight_eq (h : s.InOrder) : s.flight = s.tcb.SND.NXT - s.tcb.SND.UNA :=
  sub32_of_le h.una_le h.nxt_lt

theorem Advances.flight_eq (h : Advances s s') (hs : s.InOrder) :
    ∃ l, l <+: s.sId ∧ s'.flight = s.flight + packetBytes l := by
  obtain ⟨l, hl⟩ := h.waits
  refine ⟨l, ⟨s'.sId, hl⟩, ?_⟩
  have hstream := h.streamEnd
  rw [Conn.streamEnd, Conn.streamEnd, ← hl, packetBytes_append] at hstream
  have huna := hs.una_le
  rw [(h.inOrder hs).flight_eq, hs.flight_eq, h.una]
  omega

theorem Advances.sentWithin (h : Advances s s') (hs : s.InOrder) (peerWindow : Nat) :
    SentWithin peerWindow s s' := by
  have hs' := h.inOrder hs
  have hcwnd : s'.tcb.SND.NXT = s.tcb.SND.NXT ∨ s'.flight ≤ s'.tcb.windowScaleGetCwnd := by
    rcases h.within with hstays | hwithin
    · exact .inl hstays
    · right
      rw [hs'.flight_eq]
      omega
  refine ⟨hcwnd, fun hfits hpackets => ?_⟩
  rcases hcwnd with hstays | hwithin
  · have hsame : s'.flight = s.flight := by
      rw [hs'.flight_eq, hs.flight_eq, hstays, h.una]
    rw [hsame]
    exact hfits
  · obtain ⟨l, hl, hflight⟩ := h.flight_eq hs
    have hpeer := hpackets l hl (hflight ▸ hwithin)
    rw [hflight] at hwithin ⊢
    exact Nat.le_min.2 ⟨hwithin, hpeer⟩

/-! ## An acknowledgment -/

theorem place_heard (s : Conn) (dEventTime : Nat) (p : Segment) :
    (s.heard dEventTime p).place = s.place := by
  have hsnd := ((s.tcb.updateSeqNumOnReceiving p).seq_readAck p).1
  refine (place_mapTcb (f := (·.readAck p)) (s := { s with dEventTime := dEventTime }.read p)
    hsnd).trans ?_
  rfl

theorem place_processAck (s : Conn) (p : Segment) : let h := (s.mapTcb (·.readAck p)).ackReceived
    (h.AckIsNew → (s.processAckInEstablishedState p).1 = true ∧
        (s.processAckInEstablishedState p).2.place = (h.tcb.SEG.ACK, h.tcb.SND.NXT, h.sId)) ∧
      (¬h.AckIsNew → (s.processAckInEstablishedState p).1 = false ∧
        (s.processAckInEstablishedState p).2.place = h.place) := by
  intro h
  have hshape : s.processAckInEstablishedState p =
      if h.AckIsNew then
        let s := h.mapTcb fun t => { t with
          SND.UNA := t.SEG.ACK
          retransmissionQueue := t.retransmissionQueue.deleteSegmentFromQueue t.SEG.ACK }
        if h.WindowIsNew then (true, s.mapTcb Tcb.updateSendWindow) else (true, s)
      else if h.tcb.SEG.ACK ≤ h.tcb.SND.UNA then (false, h)
      else (false, h.sendAck h.tcb.SEG.SEQ h.tcb.SEG.ACK) := rfl
  rw [hshape]
  constructor
  · intro hnew
    rw [if_pos hnew]
    split
    · exact ⟨rfl, rfl⟩
    · exact ⟨rfl, rfl⟩
  · intro hnew
    rw [if_neg hnew]
    split
    · exact ⟨rfl, rfl⟩
    · exact ⟨rfl, rfl⟩

theorem inOrder_processAck (s : Conn) (p : Segment)
    (h : (s.mapTcb (·.readAck p)).ackReceived.InOrder) :
    (s.processAckInEstablishedState p).2.InOrder ∧
      (s.processAckInEstablishedState p).2.streamEnd =
        (s.mapTcb (·.readAck p)).ackReceived.streamEnd := by
  obtain ⟨hnew, hold⟩ := s.place_processAck p
  generalize (s.mapTcb (·.readAck p)).ackReceived = h1 at *
  generalize (s.processAckInEstablishedState p).2 = s1 at *
  by_cases hack : h1.AckIsNew
  · obtain ⟨-, hplace⟩ := hnew hack
    simp only [place, Prod.mk.injEq] at hplace
    obtain ⟨huna, hnxt, hsId⟩ := hplace
    have hstream : s1.streamEnd = h1.streamEnd := by
      rw [streamEnd, streamEnd, hnxt, hsId]
    refine ⟨⟨?_, hstream.trans_lt h.streamEnd_lt⟩, hstream⟩
    rw [huna, hnxt]
    exact hack.2
  · obtain ⟨-, hplace⟩ := hold hack
    have hadvances := Advances.of_place hplace
    exact ⟨hadvances.inOrder h, hadvances.streamEnd⟩

theorem advances_processAckAndSend
    (hend : (s.processAckInEstablishedState p).2.streamEnd < 2 ^ 32) :
    Advances (s.processAckInEstablishedState p).2 (s.processAckAndSend p) := by
  unfold processAckAndSend
  generalize s.processAckInEstablishedState p = r at hend ⊢
  obtain ⟨isNew, s1⟩ := r
  cases isNew with
  | true => exact advances_sendSegment hend
  | false => exact .refl s1

/-- The state in which `send_segment` may be called for the acknowledgment `p`. -/
def processed (s : Conn) (dEventTime : Nat) (p : Segment) : Conn :=
  (({ s with dEventTime := dEventTime }.read p).processAckInEstablishedState p).2

theorem ack_sentWithin (hs : s.InOrder) (dEventTime : Nat) (p : Segment) (W W' : Nat) :
    SentWithin W s (s.heard dEventTime p).ackReceived ∧
      SentWithin W' (s.processed dEventTime p) (s.senderStep (.ack dEventTime p)) ∧
      (s.senderStep (.ack dEventTime p)).InOrder ∧
      (s.senderStep (.ack dEventTime p)).streamEnd = s.streamEnd := by
  have hplace := s.place_heard dEventTime p
  have hend : (s.heard dEventTime p).streamEnd < 2 ^ 32 := by
    rw [(Advances.of_place hplace).streamEnd]
    exact hs.streamEnd_lt
  have hheard : Advances s (s.heard dEventTime p).ackReceived :=
    Advances.from_place hplace (advances_ackReceived hend)
  let c : Conn := { s with dEventTime := dEventTime }.read p
  have hread : (c.mapTcb (·.readAck p)).ackReceived.InOrder := hheard.inOrder hs
  obtain ⟨hin, hstream⟩ := inOrder_processAck c p hread
  have hsent : Advances (s.processed dEventTime p) (s.senderStep (.ack dEventTime p)) :=
    advances_processAckAndSend hin.streamEnd_lt
  exact ⟨hheard.sentWithin hs W, hsent.sentWithin hin W', hsent.inOrder hin,
    hsent.streamEnd.trans (hstream.trans hheard.streamEnd)⟩

/-- The state in which `send_segment` may be called for packets of the application. -/
def offeredTo (s : Conn) (dEventTime : Nat) (packets : List AppPacket) : Conn :=
  { s with dEventTime := dEventTime, sId := s.sId ++ packets }

theorem app_sentWithin (huna : s.tcb.SND.UNA ≤ s.tcb.SND.NXT) (dEventTime : Nat)
    (packets : List AppPacket) (hend : s.streamEnd + packetBytes packets < 2 ^ 32) (W : Nat) :
    SentWithin W (s.offeredTo dEventTime packets) (s.senderStep (.app dEventTime packets)) ∧
      (s.senderStep (.app dEventTime packets)).InOrder ∧
      (s.senderStep (.app dEventTime packets)).streamEnd =
        s.streamEnd + packetBytes packets := by
  have hstream : (s.offeredTo dEventTime packets).streamEnd =
      s.streamEnd + packetBytes packets := by
    change s.tcb.SND.NXT + packetBytes (s.sId ++ packets) = _
    rw [packetBytes_append, ← Nat.add_assoc]
    rfl
  have hin : (s.offeredTo dEventTime packets).InOrder := ⟨huna, hstream.trans_lt hend⟩
  have hsent : Advances (s.offeredTo dEventTime packets)
      (s.senderStep (.app dEventTime packets)) := by
    change Advances _ (s.offeredTo dEventTime packets).packetArriveFromApplicationLayer
    unfold packetArriveFromApplicationLayer
    split
    · exact (advances_sendSegment hin.streamEnd_lt).trans (.of_place rfl) rfl
    · exact .refl _
  exact ⟨hsent.sentWithin hin W, hsent.inOrder hin, hsent.streamEnd.trans hstream⟩

end Conn

/-! ## Runs -/

namespace Flow

def after (w : Flow) (a : SenderAction) : Flow where
  conn := w.conn.senderStep a
  peerWindow :=
    match a with
    | .ack dEventTime p =>
      let h := (w.conn.heard dEventTime p).ackReceived
      if h.AckIsNew ∧ h.WindowIsNew then p.window <<< h.tcb.windShift else w.peerWindow
    | .app _ _ => w.peerWindow

def step (w : Flow) (a : SenderAction) : Option Flow := some (w.after a)

/-- The bytes that the application has left along the steps. -/
def offered : List (Flow × SenderAction) → Nat
  | [] => 0
  | (_, .app _ packets) :: tr => packetBytes packets + offered tr
  | (_, .ack _ _) :: tr => offered tr

/-- Each call that may send in the step `a` keeps to the windows as `SentWithin` says. -/
def SendsWithin (w : Flow) : SenderAction → Prop
  | .ack dEventTime p =>
    Conn.SentWithin w.peerWindow w.conn (w.conn.heard dEventTime p).ackReceived ∧
      Conn.SentWithin (w.after (.ack dEventTime p)).peerWindow (w.conn.processed dEventTime p)
        (w.conn.senderStep (.ack dEventTime p))
  | .app dEventTime packets =>
    Conn.SentWithin w.peerWindow (w.conn.offeredTo dEventTime packets)
      (w.conn.senderStep (.app dEventTime packets))

variable {w₀ w w' : Flow} {a : SenderAction} {tr : List (Flow × SenderAction)}

theorem sendsWithin_step (huna : w.conn.tcb.SND.UNA ≤ w.conn.tcb.SND.NXT)
    (hend : w.conn.streamEnd + offered [(w, a)] < 2 ^ 32) :
    w.SendsWithin a ∧ (w.after a).conn.tcb.SND.UNA ≤ (w.after a).conn.tcb.SND.NXT ∧
      (w.after a).conn.streamEnd = w.conn.streamEnd + offered [(w, a)] := by
  cases a with
  | ack dEventTime p =>
    have hin : w.conn.InOrder := ⟨huna, hend⟩
    obtain ⟨hphase, hsegment, hafter, hstream⟩ := Conn.ack_sentWithin hin dEventTime p
      w.peerWindow (w.after (.ack dEventTime p)).peerWindow
    exact ⟨⟨hphase, hsegment⟩, hafter.una_le, hstream⟩
  | app dEventTime packets =>
    obtain ⟨hsent, hafter, hstream⟩ := Conn.app_sentWithin huna dEventTime packets hend w.peerWindow
    exact ⟨hsent, hafter.una_le, hstream⟩

theorem offered_cons (x : Flow × SenderAction) (tr : List (Flow × SenderAction)) :
    offered (x :: tr) = offered [x] + offered tr := by
  obtain ⟨w, a⟩ := x
  cases a with
  | ack dEventTime p => simp [offered]
  | app dEventTime packets => simp [offered]

theorem offered_append (post pre : List (Flow × SenderAction)) :
    offered (post ++ pre) = offered post + offered pre := by
  induction post with
  | nil => simp [offered]
  | cons x post ih =>
    rw [List.cons_append, offered_cons, ih, offered_cons x post, Nat.add_assoc]

theorem streamEnd_of_run (huna : w₀.conn.tcb.SND.UNA ≤ w₀.conn.tcb.SND.NXT)
    (run : Run step w₀ tr w) (hend : w₀.conn.streamEnd + offered tr < 2 ^ 32) :
    w.conn.tcb.SND.UNA ≤ w.conn.tcb.SND.NXT ∧
      w.conn.streamEnd = w₀.conn.streamEnd + offered tr := by
  induction run with
  | nil => exact ⟨huna, rfl⟩
  | @snoc tr s s' a run hstep ih =>
    obtain rfl := Option.some.inj hstep
    rw [offered_cons] at hend
    obtain ⟨huna', hstream⟩ := ih (by omega)
    obtain ⟨-, hafter, hstream'⟩ := sendsWithin_step (w := s) (a := a) huna' (by omega)
    refine ⟨hafter, ?_⟩
    rw [offered_cons, hstream', hstream]
    omega

def kilobyte (nPacketId : Nat) : AppPacket := ⟨nPacketId, 1000, false, by decide⟩

def waiting : Flow where
  conn := { (Watched.inFlight .reno).conn with sId := [1, 2, 3, 4].map kilobyte }
  peerWindow := 4000

/-- An acknowledgment of everything below `ackNum`, with a window of `window` bytes. -/
def ackWith (ackNum window : Nat) : Segment :=
  { Watched.ackOf ackNum with seqNum := 1, window := window }

/-- What holds before and after `send_segment` at each new acknowledgment, if the numbers end where
`ends` allows it. -/
def HoldsAtSends (ends : Nat → Prop) (P : Conn → Flow → Prop) : Prop :=
  ∀ (w₀ w : Flow) (tr : List (Flow × SenderAction)),
    w₀.conn.tcb.SND.UNA ≤ w₀.conn.tcb.SND.NXT → w₀.conn.tcb.SND.NXT < 2 ^ 32 →
      ends (w₀.conn.streamEnd + offered tr) → Run step w₀ tr w →
        ∀ x ∈ tr, ∀ dEventTime p, x.2 = .ack dEventTime p →
          (x.1.conn.heard dEventTime p).ackReceived.AckIsNew →
            P (x.1.conn.processed dEventTime p) (x.1.after x.2)

/-- The claimed law: what is in flight fits the congestion window and the window of the peer. -/
def FlowLimited : Prop :=
  HoldsAtSends (fun _ => True) fun _ w =>
    w.conn.flight ≤ min w.conn.tcb.windowScaleGetCwnd w.peerWindow

/-- The law without the window of the peer, for numbers that do not come round. -/
def CwndLimited : Prop :=
  HoldsAtSends (· < 2 ^ 32) fun _ w => w.conn.flight ≤ w.conn.tcb.windowScaleGetCwnd

def SendsLimited : Prop :=
  HoldsAtSends (fun _ => True) fun s w => Conn.SentWithin w.peerWindow s w.conn

/-- A sender whose window is `cwnd`, with `size` bytes in a segment and the packets `sId`. -/
def sending (una nxt size cwnd : Nat) (sId : List AppPacket) : Flow where
  conn := { (Watched.inFlight .reno).conn with
    sId := sId
    tcb := { (Watched.inFlight .reno).conn.tcb with
      SND := ⟨una, nxt, cwnd, 0, 0⟩
      congestionData := { zeroCongestionVar with SMSS := size, cwnd := cwnd, ssthresh := 65000 } } }
  peerWindow := 65535

theorem not_flowLimited_peer : ¬FlowLimited := by
  intro h
  have hlimit := h waiting _ _ (by decide) (by decide) trivial (.snoc .nil rfl)
    (waiting, .ack 0 (ackWith 5000 500)) List.mem_cons_self 0 _ rfl (by decide +kernel)
  revert hlimit
  decide +kernel

theorem not_cwndLimited : ¬CwndLimited := by
  intro h
  let dup (w : Flow) : Flow := w.after (.ack 0 (ackWith 1000 65535))
  let w := dup (dup (dup (sending 1000 61000 1000 60000 [])))
  have run : Run step (sending 1000 61000 1000 60000 []) _
      (w.after (.ack 0 (ackWith 2000 65535))) :=
    .snoc (.snoc (.snoc (.snoc .nil rfl) rfl) rfl) rfl
  have hlimit := h _ _ _ (by decide) (by decide) (by decide) run
    (w, .ack 0 (ackWith 2000 65535)) List.mem_cons_self 0 _ rfl (by decide +kernel)
  revert hlimit
  decide +kernel

theorem not_sendsLimited : ¬SendsLimited := by
  intro h
  let w := sending (2 ^ 32 - 2000) (2 ^ 32 - 1000) 100 100 [⟨1, 1500, false, by decide⟩]
  have hlimit := (h w _ _ (by decide) (by decide) trivial (.snoc .nil rfl)
    (w, .ack 0 (ackWith (2 ^ 32 - 1000) 65535)) List.mem_cons_self 0 _ rfl (by decide +kernel)).cwnd
  revert hlimit
  decide +kernel

end Flow

end NetSim.Tcp
