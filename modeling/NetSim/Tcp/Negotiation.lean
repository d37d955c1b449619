import NetSim.Tcp.Handled

/-!
# Option negotiation (`TCP_Connection.c`, `TCP_Packet.c`, `WindowScale.c`)

`rcv_SYN` reconciles all options with the settings of the server; `packet_arrives_at_synsent_state`
the MSS and the timestamps only. The network may lose, repeat and reorder segments.
-/

namespace NetSim.Tcp

open NetSim.Lib

structure Offer where
  mss : Option UInt16
  sackPermitted : Bool
  windowScale : Option UInt8
  timestamp : Bool
deriving DecidableEq

structure Terms where
  SMSS : Nat
  isSackPermitted : Bool
  isWindowScaling : Bool
  sndWindShift : Nat
  rcvWindShift : Nat
  isTSopt : Bool
deriving DecidableEq

def Segment.offer (p : Segment) : Offer where
  mss := getMssOption p.option
  sackPermitted := getSackPermittedOption p.option
  windowScale := getWindowScaleOption p.option
  timestamp := (getTimestampOption p.option).isSome

def Tcb.terms (t : Tcb) : Terms where
  SMSS := t.congestionData.SMSS
  isSackPermitted := t.isSackPermitted
  isWindowScaling := t.isWindowScaling
  sndWindShift := t.sndWindShift
  rcvWindShift := t.rcvWindShift
  isTSopt := t.isTSopt

def DevVar.terms (dev : DevVar) : Terms where
  SMSS := dev.mss.toNat
  isSackPermitted := dev.isSackPermitted
  isWindowScaling := dev.isWindowScaling
  sndWindShift := if dev.isWindowScaling then dev.shiftCount.toNat else 0
  rcvWindShift := if dev.isWindowScaling then dev.shiftCount.toNat else 0
  isTSopt := dev.isTimestampOpt

namespace Terms

def offer (m : Terms) : Offer where
  mss := some (.ofNat m.SMSS)
  sackPermitted := m.isSackPermitted
  windowScale := if m.isWindowScaling then some (.ofNat m.sndWindShift) else none
  timestamp := m.isTSopt

def reconcile (m : Terms) (o : Offer) : Terms :=
  { m with
    SMSS := match o.mss with | some mss => min m.SMSS mss.toNat | none => m.SMSS
    isTSopt := o.timestamp && m.isTSopt }

def accept (m : Terms) (o : Offer) : Terms :=
  let m := m.reconcile o
  let m := { m with isSackPermitted := m.isSackPermitted && o.sackPermitted }
  match o.windowScale, m.isWindowScaling with
  | some shiftCnt, true =>
    { m with
      sndWindShift := min m.sndWindShift shiftCnt.toNat
      rcvWindShift := min m.rcvWindShift shiftCnt.toNat }
  | _, _ => { m with isWindowScaling := false, sndWindShift := 0, rcvWindShift := 0 }

end Terms

/-! ## The two handlers -/

theorem terms_setTimestampValue (t : Tcb) (opt : Option Nat) :
    (t.setTimestampValue true opt).terms =
      { t.terms with isTSopt := opt.isSome && t.terms.isTSopt } := by
  cases opt with
  | none => rfl
  | some tsVal =>
    cases h : t.isTSopt with
    | false => simp [Tcb.setTimestampValue, h, Tcb.terms]
    | true => simp [Tcb.setTimestampValue, h, Tcb.terms]

variable {p : Segment}

theorem terms_readTimestamp (t : Tcb) (hp : p.syn = true) :
    (t.readTimestamp p).terms =
      { t.terms with isTSopt := (getTimestampOption p.option).isSome && t.terms.isTSopt } := by
  unfold Tcb.readTimestamp
  split
  · rw [hp, terms_setTimestampValue]
  · next h =>
    simp [Tcb.terms, h]

theorem terms_readMss (t : Tcb) (dev : DevVar) (opt : Option UInt16) :
    (t.readMss dev opt).terms =
      { t.terms with SMSS := match opt with
        | some mss => min t.terms.SMSS mss.toNat
        | none => t.terms.SMSS } := by
  cases opt with
  | none => rfl
  | some mss =>
    simp only [Tcb.readMss, Tcb.congestionSetMSS, Tcb.congestionSetIW, Tcb.setCwnd, Tcb.withCwnd]
    split <;> rfl

theorem terms_setWindowScaling (t : Tcb) (opt : Option UInt8) :
    (t.setWindowScaling opt).terms =
      match opt, t.terms.isWindowScaling with
      | some shiftCnt, true =>
        { t.terms with
          sndWindShift := min t.terms.sndWindShift shiftCnt.toNat
          rcvWindShift := min t.terms.rcvWindShift shiftCnt.toNat }
      | _, _ => { t.terms with isWindowScaling := false, sndWindShift := 0, rcvWindShift := 0 } := by
  cases opt with
  | none => rfl
  | some shiftCnt =>
    cases h : t.isWindowScaling with
    | false => simp [Tcb.setWindowScaling, h, Tcb.terms]
    | true => simp [Tcb.setWindowScaling, h, Tcb.terms]

theorem terms_readSynAck (t : Tcb) (dev : DevVar) (hp : p.syn = true) :
    (t.readSynAck dev p).terms = t.terms.reconcile p.offer := by
  have hkeep (t : Tcb) : { t with
      retransmissionQueue := t.retransmissionQueue.deleteSegmentFromQueue t.SEG.ACK }.terms =
      t.terms := rfl
  unfold Tcb.readSynAck
  rw [hkeep, terms_readTimestamp _ hp, terms_readMss]
  rfl

theorem terms_readSyn (t : Tcb) (dev : DevVar) (hp : p.syn = true) :
    (t.readSyn dev p).terms = t.terms.accept p.offer := by
  have hsack (t : Tcb) (b : Bool) : { t with isSackPermitted := t.isSackPermitted && b }.terms =
      { t.terms with isSackPermitted := t.terms.isSackPermitted && b } := rfl
  unfold Tcb.readSyn
  rw [hsack, hp, terms_setTimestampValue, terms_readMss, terms_setWindowScaling]
  unfold Terms.accept Terms.reconcile Segment.offer Tcb.terms
  cases getWindowScaleOption p.option with
  | none => rfl
  | some shiftCnt =>
    cases t.isWindowScaling with
    | false => rfl
    | true => rfl

theorem offer_createSyn (s : Conn) : s.createSyn.offer = s.tcb.terms.offer := by
  unfold Segment.offer Conn.createSyn Segment.setOptions Conn.mssOption Conn.sackPermittedOption
    Conn.timestampOption Conn.windowScaleOption Terms.offer Tcb.terms Tcb.getMSS
  cases s.tcb.isSackPermitted <;> cases s.tcb.isTSopt <;> cases s.tcb.isWindowScaling <;> rfl

theorem offer_createSynAck (s : Conn) : s.createSynAck.offer = s.tcb.terms.offer := by
  unfold Segment.offer Conn.createSynAck Segment.setOptions Conn.mssOption Conn.sackPermittedOption
    Conn.timestampOption Conn.windowScaleOption Terms.offer Tcb.terms Tcb.getMSS
  cases s.tcb.isSackPermitted <;> cases s.tcb.isTSopt <;> cases s.tcb.isWindowScaling <;> rfl

/-! ## What the other handlers keep -/

def isOpen (state : TcpState) : Bool :=
  match state with
  | .synReceived | .established => true
  | _ => false

def Conn.HasSent (s : Conn) (p : Segment) : Prop := p ∈ s.network ∨ p ∈ s.queued

/-- Nothing that `s'` has sent is a SYN, apart from what `s` had sent. -/
def NoNewSyn (s s' : Conn) : Prop := ∀ p, p.syn = true → s'.HasSent p → s.HasSent p

structure Keeps (s s' : Conn) : Prop where
  terms : s'.tcb.terms = s.tcb.terms
  syns : NoNewSyn s s'
  synSent : s'.tcb.tcpState = .synSent → s.tcb.tcpState = .synSent
  opened : isOpen s'.tcb.tcpState = true → isOpen s.tcb.tcpState = true

namespace Keeps

variable {s s' s'' : Conn}

theorem of_eq (hterms : s'.tcb.terms = s.tcb.terms) (hstate : s'.tcb.tcpState = s.tcb.tcpState)
    (hnetwork : s'.network = s.network) (hqueued : s'.queued = s.queued) : Keeps s s' := by
  refine ⟨hterms, ?_, fun h => hstate ▸ h, fun h => hstate ▸ h⟩
  intro p _ hp
  unfold Conn.HasSent at hp
  rwa [hnetwork, hqueued] at hp

theorem refl : Keeps s s := of_eq rfl rfl rfl rfl

theorem trans (h : Keeps s s') (h' : Keeps s' s'') : Keeps s s'' :=
  ⟨h'.terms.trans h.terms, fun p hp hs => h.syns p hp (h'.syns p hp hs),
    fun hs => h.synSent (h'.synSent hs), fun hs => h.opened (h'.opened hs)⟩

theorem of_core (h : s'.core = s.core) : Keeps s s' :=
  of_eq (Conn.eq_of_core (g := fun s => s.tcb.terms) (fun _ => rfl) h)
    (Conn.eq_of_core (g := fun s => s.tcb.tcpState) (fun _ => rfl) h)
    (Conn.eq_of_core (g := fun s => s.network) (fun _ => rfl) h) (Conn.queued_of_core h)

theorem sendToNetwork (s : Conn) {a : Segment} (ha : a.syn = true → s.HasSent a) :
    Keeps s (s.sendToNetwork a) := by
  refine ⟨rfl, ?_, id, id⟩
  rintro p hp (hmem | hmem)
  · rcases List.mem_append.1 hmem with hmem | hmem
    · exact .inl hmem
    · obtain rfl := List.mem_singleton.1 hmem
      exact ha hp
  · exact .inr hmem

theorem sendControl (s : Conn) {a : Segment} (ha : a.syn = false) : Keeps s (s.sendToNetwork a) := by
  apply sendToNetwork
  intro h
  rw [ha] at h
  cases h

theorem of_receives (h : Receives s s') : Keeps s s' := by
  obtain ⟨l, hl, ha⟩ := h.network
  have hstate : s'.tcb.tcpState = s.tcb.tcpState :=
    Conn.eq_of_outgoing (g := fun s => s.tcb.tcpState) (fun _ => rfl) h.outgoing
  have hqueued : s'.queued = s.queued :=
    Conn.eq_of_outgoing (g := Conn.queued) (fun _ => rfl) h.outgoing
  refine ⟨Conn.eq_of_outgoing (g := fun s => s.tcb.terms) (fun _ => rfl) h.outgoing, ?_,
    fun h => hstate ▸ h, fun h => hstate ▸ h⟩
  intro p hp hsent
  unfold Conn.HasSent at hsent
  rw [hl, hqueued] at hsent
  rcases hsent with hmem | hmem
  · rcases List.mem_append.1 hmem with hmem | hmem
    · exact .inl hmem
    · rw [(ha p hmem).syn] at hp
      cases hp
  · exact .inr hmem

theorem changeState (s : Conn) {state : TcpState} (hsent : state ≠ .synSent)
    (hopen : isOpen state = true → isOpen s.tcb.tcpState = true) :
    Keeps s (s.changeState state) := by
  obtain ⟨prev, heq⟩ := s.changeState_eq state
  rw [heq]
  exact ⟨rfl, fun p _ hp => hp, fun h => absurd h hsent, hopen⟩

theorem leave (s : Conn) (state : TcpState) (hsent : state ≠ .synSent) (hopen : isOpen state = false) :
    Keeps s (s.changeState state) := by
  apply changeState s hsent
  rw [hopen]
  simp

theorem sendFin (s : Conn) : Keeps s s.sendFin := by
  have hsent : Keeps s (s.sendToNetwork s.createFin) := sendControl s rfl
  exact hsent.trans (of_eq rfl rfl rfl rfl)

theorem effect (he : Effect s s') : Keeps s s' := by
  cases he with
  | adjust hcore => exact of_core hcore
  | resend hp => exact sendToNetwork s fun _ => .inr hp
  | wait _ => exact of_eq rfl rfl rfl rfl
  | openWindow => exact of_eq rfl rfl rfl rfl
  | @push a rest _ _ =>
    have hperm := s.queued_sendPacket a rest
    refine ⟨rfl, ?_, id, id⟩
    rintro p hp (hmem | hmem)
    · rcases List.mem_append.1 hmem with hmem | hmem
      · exact .inl hmem
      · obtain rfl := List.mem_singleton.1 hmem
        cases hp
    · rcases List.mem_cons.1 (hperm.mem_iff.1 hmem) with rfl | hmem
      · cases hp
      · exact .inr hmem
  | close _ _ => exact (sendFin s).trans (leave _ .finWait1 (by simp) rfl)

theorem effects (he : Effects s s') : Keeps s s' := by
  induction he with
  | refl => exact refl
  | tail _ he ih => exact ih.trans (effect he)

theorem acknowledge (s : Conn) : Keeps s s.acknowledge := by
  refine ⟨rfl, ?_, id, id⟩
  rintro p _ (hmem | hmem)
  · exact .inl hmem
  · rw [Conn.queued_acknowledge] at hmem
    exact .inr (List.mem_filter.1 hmem).1

theorem processAckAndSend (s : Conn) {p : Segment} (hp : p.syn = false) :
    Keeps s (s.processAckAndSend p) := by
  have h := effects (s.effects_afterAckReceived hp)
  have hprocessed := s.ackProcessed p
  generalize s.afterAckReceived p = s1 at h hprocessed
  generalize s.processAckAndSend p = s2 at hprocessed
  cases hprocessed with
  | new _ _ he => exact (h.trans (acknowledge s1)).trans (effects he)
  | old _ => exact h
  | early _ => exact h.trans (sendControl _ rfl)

theorem startTimewaitTimer (s : Conn) : Keeps s s.startTimewaitTimer := of_eq rfl rfl rfl rfl

theorem processAckPacket (s : Conn) {p : Segment} (hp : p.syn = false) :
    Keeps s (s.processAckPacket p) := by
  have hack := processAckAndSend s hp
  unfold Conn.processAckPacket
  split
  · next hstate =>
    split
    · have hupdate : Keeps s (s.mapTcb Tcb.updateSendWindow) := of_eq rfl rfl rfl rfl
      have hopen : Keeps s ((s.mapTcb Tcb.updateSendWindow).changeState .established) := by
        refine hupdate.trans (changeState _ (by simp) fun _ => ?_)
        change isOpen s.tcb.tcpState = true
        rw [hstate]
        rfl
      exact hopen.trans (processAckAndSend _ hp)
    · exact sendControl _ (isAnswer_createRst p 1).syn
  · exact hack
  · exact hack
  · exact hack
  · split
    · exact hack.trans (leave _ .finWait2 (by simp) rfl)
    · exact hack
  · split
    · exact (hack.trans (startTimewaitTimer _)).trans (leave _ .timeWait (by simp) rfl)
    · exact hack
  · have hanswer : Keeps s (s.sendFinAck s.tcb.SEG.SEQ s.tcb.SEG.ACK) := sendControl s rfl
    exact (hanswer.trans (startTimewaitTimer _)).trans (of_eq rfl rfl rfl rfl)
  all_goals exact refl

theorem processFinPacket (s : Conn) : Keeps s s.processFinPacket := by
  have hpassive : Keeps s ((((s.sendFinAck s.tcb.SND.NXT s.tcb.RCV.NXT).changeState
      .closeWait).sendFin.changeState .lastAck).cancelOtherTimers) := by
    have hanswer : Keeps s (s.sendFinAck s.tcb.SND.NXT s.tcb.RCV.NXT) := sendControl s rfl
    have hwait := hanswer.trans (leave _ .closeWait (by simp) rfl)
    have hlast := (hwait.trans (sendFin _)).trans (leave _ .lastAck (by simp) rfl)
    exact hlast.trans (of_eq rfl rfl rfl rfl)
  unfold Conn.processFinPacket
  split
  · exact hpassive
  · exact hpassive
  · exact (leave s .closing (by simp) rfl).trans (sendControl _ rfl)
  · have hwait : Keeps s (s.changeState .timeWait) := changeState s (by simp) (by simp [isOpen])
    exact (hwait.trans (startTimewaitTimer _)).trans (sendControl _ rfl)
  · have hflag : Keeps s (s.mapTcb fun t => { t with istimewaittimerrestarted := true }) :=
      of_eq rfl rfl rfl rfl
    exact hflag.trans (startTimewaitTimer _)
  all_goals exact refl

theorem processText (s : Conn) {p : Segment} (hp : p.syn = false) : Keeps s (s.processText p) := by
  obtain ⟨_, t, ht, htext⟩ := Receives.processText s hp
  rw [htext]
  split
  · exact (of_receives ht).trans (processFinPacket _)
  · exact of_receives ht

theorem of_requeue {q : TcpQueue} {r : Segment} {seqNum time : Nat}
    (hget : s.tcb.retransmissionQueue.getSegmentFromQueue seqNum = some (r, q))
    (hterms : s'.tcb.terms = s.tcb.terms) (hstate : s'.tcb.tcpState = s.tcb.tcpState)
    (hnetwork : s'.network = s.network ++ [r])
    (hqueue : s'.tcb.retransmissionQueue = q.addPacketToQueue r time) : Keeps s s' := by
  obtain ⟨hr, hrest⟩ := TcpQueue.mem_of_getSegmentFromQueue hget
  refine ⟨hterms, ?_, fun h => hstate ▸ h, fun h => hstate ▸ h⟩
  intro p _ hsent
  unfold Conn.HasSent Conn.queued at hsent
  rw [hnetwork, hqueue] at hsent
  rcases hsent with hmem | hmem
  · rcases List.mem_append.1 hmem with hmem | hmem
    · exact .inl hmem
    · obtain rfl := List.mem_singleton.1 hmem
      exact .inr hr
  · rcases TcpQueue.mem_addPacketToQueue hmem with rfl | hmem
    · exact .inr hr
    · exact .inr (hrest p hmem)

theorem resendSegment (s : Conn) (p : Segment) : Keeps s (s.resendSegment p) := by
  unfold Conn.resendSegment
  split
  · exact refl
  · next r q hget => exact of_requeue hget rfl rfl rfl rfl

end Keeps

structure Completes (s : Conn) (o : Offer) (s' : Conn) : Prop where
  terms : s'.tcb.terms = s.tcb.terms.reconcile o
  syns : NoNewSyn s s'
  state : s'.tcb.tcpState ≠ .synSent

theorem completes_synAckArrives (s : Conn) (hp : p.syn = true)
    (hiss : s.tcb.ISS < s.tcb.SEG.ACK) : Completes s p.offer (s.synAckArrives p) := by
  obtain ⟨c, isTSopt, tsVal, hread⟩ := s.tcb.readSynAck_eq s.dev p
  have hlt : (s.tcb.readSynAck s.dev p).ISS < (s.tcb.readSynAck s.dev p).SND.UNA := by
    rw [hread]
    exact hiss
  rw [s.synAckArrives_readSynAck, if_pos hlt]
  have hterms := terms_readSynAck s.tcb s.dev hp
  have htaken : NoNewSyn s { s with tcb := s.tcb.readSynAck s.dev p } := by
    rintro q _ (hmem | hmem)
    · exact .inl hmem
    · have hmem : q ∈ (s.tcb.readSynAck s.dev p).retransmissionQueue.segments := hmem
      rw [hread] at hmem
      rw [TcpQueue.segments_deleteSegmentFromQueue] at hmem
      exact .inr (List.mem_filter.1 hmem).1
  generalize s.tcb.readSynAck s.dev p = t at hterms htaken ⊢
  have hanswer : Keeps { s with tcb := t } (({ s with tcb := t }.mapTcb Tcb.updateSendWindow).sendAck
      t.SND.NXT t.RCV.NXT) := by
    have hupdate : Keeps { s with tcb := t } ({ s with tcb := t }.mapTcb Tcb.updateSendWindow) :=
      .of_eq rfl rfl rfl rfl
    exact hupdate.trans (.sendControl _ rfl)
  generalize (({ s with tcb := t }.mapTcb Tcb.updateSendWindow).sendAck t.SND.NXT t.RCV.NXT) = s1
    at hanswer ⊢
  have hsend := Keeps.effects (Conn.effects_sendSegment (s1.changeState .established))
  obtain ⟨prev, hstate⟩ := s1.changeState_eq .established
  refine ⟨?_, ?_, ?_⟩
  · rw [hsend.terms, hstate]
    exact hanswer.terms.trans hterms
  · intro q hq hsent
    have hsent := hsend.syns q hq hsent
    rw [hstate] at hsent
    exact htaken q hq (hanswer.syns q hq hsent)
  · intro h
    have := hsend.synSent h
    simp at this

theorem keeps_or_completes {c : Conn} {e : EventKind} {s' : Socket} (hh : Handled c e s') :
    Keeps c s'.conn ∨ ∃ p, e = .segment p ∧ p.syn = true ∧ c.tcb.tcpState = .synSent ∧
      Completes c p.offer s'.conn := by
  have hread (p : Segment) : Keeps c (c.read p) := .of_eq rfl rfl rfl rfl
  cases hh with
  | @ignored p => exact .inl (hread p)
  | @answered p a ha => exact .inl ((hread p).trans (.sendControl _ ha.syn))
  | @opened p hstate _ hsyn hiss _ =>
    obtain ⟨hterms, hsyns, hne⟩ := completes_synAckArrives (c.read p) hsyn hiss
    exact .inr ⟨p, rfl, hsyn, hstate, hterms, hsyns, hne⟩
  | @relistens p _ => exact .inl ((hread p).trans (.leave _ .listen (by simp) rfl))
  | @reset p _ _ => exact .inl ((hread p).trans (.leave _ .closed (by simp) rfl))
  | @finished p _ _ _ _ _ =>
    exact .inl ((hread p).trans (.leave _ .closed (by simp) rfl))
  | @ack p _ _ _ hsyn _ => exact .inl ((hread p).trans (.processAckPacket _ hsyn))
  | @text p _ _ hsyn _ => exact .inl ((hread p).trans (.processText _ hsyn))
  | expired _ _ => exact .inl (.of_eq rfl rfl rfl rfl)
  | synAgain _ _ _ hq => exact .inl (.of_requeue hq rfl rfl rfl rfl)
  | @synGivenUp p syn q _ _ hq =>
    have hrest := (TcpQueue.mem_of_getSegmentFromQueue hq).2
    have htaken : Keeps c ((c.expire p).mapTcb fun t => { t with retransmissionQueue := q }) := by
      refine ⟨rfl, ?_, id, id⟩
      rintro r _ (hmem | hmem)
      · exact .inl hmem
      · exact .inr (hrest r hmem)
    exact .inl (htaken.trans (.leave _ .closed (by simp) rfl))
  | @resent p _ _ _ _ =>
    have hexpire : Keeps c (c.expire p) := .of_eq rfl rfl rfl rfl
    have hadjusted := hexpire.trans (.of_core (c.expire p).core_congestionRtoTimeout)
    exact .inl (hadjusted.trans (.resendSegment _ p))
  | timeWaitRestarts _ => exact .inl (.of_eq rfl rfl rfl rfl)
  | timeWaitEnds _ =>
    have hfired : Keeps c { c with timeWaitTimeouts := c.timeWaitTimeouts - 1 } :=
      .of_eq rfl rfl rfl rfl
    exact .inl (hfired.trans (.leave _ .closed (by simp) rfl))
  | woken _ => exact .inl ((Keeps.effects c.effects_sendSegment).trans (.of_eq rfl rfl rfl rfl))
  | notWoken _ => exact .inl .refl
  | passed => exact .inl (.of_eq rfl rfl rfl rfl)

/-! ## A client and a server -/

/-- A client, and the socket that its SYN creates at the server. -/
structure Pair where
  client : Socket
  server : Option Socket
deriving DecidableEq

/-- What happens at one of the two hosts. -/
inductive PairEvent
  | client (e : Event)
  | server (e : Event)
  | accept (dEventTime : Nat) (sId : List AppPacket) (syn : Segment)
deriving DecidableEq

def arrives (network : List Segment) : EventKind → Bool
  | .segment p => p ∈ network
  | _ => true

def Socket.next (s : Socket) (e : Event) : Option Socket :=
  match World.step (.ok s) e with
  | some (.ok s') => some s'
  | _ => none

namespace Pair

/-- The client, right after `tcp_connect`. -/
def start (dev : DevVar) (dEventTime : Nat) (sId : List AppPacket) : Pair where
  client := Socket.connect dev dEventTime sId
  server := none

def serverNetwork (w : Pair) : List Segment :=
  match w.server with
  | some s => s.conn.network
  | none => []

def step (devS : DevVar) (w : Pair) : PairEvent → Option Pair
  | .client e =>
    if arrives w.serverNetwork e.kind then
      (w.client.next e).map fun c => { w with client := c }
    else none
  | .server e =>
    match w.server with
    | none => none
    | some s =>
      if arrives w.client.conn.network e.kind then
        (s.next e).map fun s => { w with server := some s }
      else none
  | .accept dEventTime sId syn =>
    if w.server = none ∧ syn ∈ w.client.conn.network ∧ syn.syn = true ∧ syn.ack = false ∧
        syn.rst = false then
      some { w with server := some (Socket.accept devS dEventTime sId syn) }
    else none

end Pair

/-- Every SYN that the connection has sent offers `o`. -/
def Offers (c : Conn) (o : Offer) : Prop := ∀ p, p.syn = true → c.HasSent p → p.offer = o

theorem Offers.of_noNewSyn {s s' : Conn} {o : Offer} (h : Offers s o) (hs : NoNewSyn s s') :
    Offers s' o := fun p hp hsent => h p hp (hs p hp hsent)

structure Client (m : Terms) (o : Offer) (c : Conn) : Prop where
  offers : Offers c m.offer
  before : c.tcb.tcpState = .synSent → c.tcb.terms = m
  after : isOpen c.tcb.tcpState = true → c.tcb.terms = m.reconcile o

structure Server (m : Terms) (c : Conn) : Prop where
  offers : Offers c m.offer
  terms : c.tcb.terms = m
  state : c.tcb.tcpState ≠ .synSent

theorem next_induction {P : Conn → Prop} {s s' : Socket} {e : Event} (hnext : s.next e = some s')
    (hclock : ∀ c : Conn, P c → ∀ time, P { c with dEventTime := time })
    (hgone : ∀ c c' : Conn, P c → c'.tcb = c.tcb → c'.network = c.network → P c')
    (hhandled : ∀ c, P c → Handled c e.kind s' → P s'.conn) (h : P s.conn) : P s'.conn := by
  unfold Socket.next at hnext
  split at hnext
  · next hstep =>
    obtain rfl := Option.some.inj hnext
    by_cases hlive : s.Live
    · exact hhandled _ (hclock _ h _) (World.step_handled hstep hlive)
    · have hg := World.step_gone hstep hlive
      exact hgone _ _ h hg.tcb hg.network
  · cases hnext

theorem Offers.of_same {c c' : Conn} {o : Offer} (h : Offers c o) (htcb : c'.tcb = c.tcb)
    (hnetwork : c'.network = c.network) : Offers c' o := by
  intro p hp hsent
  unfold Conn.HasSent Conn.queued at hsent
  rw [htcb, hnetwork] at hsent
  exact h p hp hsent

theorem Client.next {m : Terms} {o : Offer} {s s' : Socket} {e : Event}
    (hnext : s.next e = some s') (h : Client m o s.conn)
    (harrives : ∀ p, e.kind = .segment p → p.syn = true → p.offer = o) : Client m o s'.conn := by
  apply next_induction (P := Client m o) hnext _ _ _ h
  · exact fun c hc _ => ⟨hc.offers, hc.before, hc.after⟩
  · intro c c' hc htcb hnetwork
    refine ⟨hc.offers.of_same htcb hnetwork, ?_, ?_⟩
    · rw [htcb]
      exact hc.before
    · rw [htcb]
      exact hc.after
  · intro c hc hh
    rcases keeps_or_completes hh with hkeeps | ⟨p, hkind, hsyn, hstate, hterms, hsyns, hne⟩
    · refine ⟨hc.offers.of_noNewSyn hkeeps.syns, fun hs => ?_, fun hs => ?_⟩
      · rw [hkeeps.terms]
        exact hc.before (hkeeps.synSent hs)
      · rw [hkeeps.terms]
        exact hc.after (hkeeps.opened hs)
    · refine ⟨hc.offers.of_noNewSyn hsyns, fun hs => absurd hs hne, fun _ => ?_⟩
      rw [hterms, hc.before hstate, harrives p hkind hsyn]

theorem Server.next {m : Terms} {s s' : Socket} {e : Event} (hnext : s.next e = some s')
    (h : Server m s.conn) : Server m s'.conn := by
  apply next_induction (P := Server m) hnext _ _ _ h
  · exact fun c hc _ => ⟨hc.offers, hc.terms, hc.state⟩
  · intro c c' hc htcb hnetwork
    exact ⟨hc.offers.of_same htcb hnetwork, by rw [htcb]; exact hc.terms,
      by rw [htcb]; exact hc.state⟩
  · intro c hc hh
    rcases keeps_or_completes hh with hkeeps | ⟨p, -, -, hstate, -⟩
    · exact ⟨hc.offers.of_noNewSyn hkeeps.syns, hkeeps.terms.trans hc.terms,
        fun hs => hc.state (hkeeps.synSent hs)⟩
    · exact absurd hstate hc.state

theorem client_connect (dev : DevVar) (dEventTime : Nat) (sId : List AppPacket) (o : Offer) :
    Client dev.terms o (Socket.connect dev dEventTime sId).conn := by
  refine ⟨?_, fun _ => rfl, nofun⟩
  have hsyn : (Socket.create dev dEventTime sId).conn.createSyn.offer = dev.terms.offer :=
    offer_createSyn _
  rintro p _ (hmem | hmem)
  · obtain rfl := List.mem_singleton.1 hmem
    exact hsyn
  · obtain rfl := List.mem_singleton.1 hmem
    exact hsyn

theorem server_accept (dev : DevVar) (dEventTime : Nat) (sId : List AppPacket) {syn : Segment}
    (hsyn : syn.syn = true) :
    Server (dev.terms.accept syn.offer) (Socket.accept dev dEventTime sId syn).conn := by
  have hterms : (Socket.acceptConn dev dEventTime sId syn).tcb.terms = dev.terms.accept syn.offer :=
    terms_readSyn _ _ hsyn
  obtain ⟨-, hqueue, -⟩ := Tcb.readSyn_keeps
    (((Tcb.create dev dEventTime).updateSeqNumOnReceiving syn).changeState .listen) dev syn
  obtain ⟨prev, heq⟩ := (Socket.acceptConn dev dEventTime sId syn).answerSyn_eq
  rw [Socket.accept_eq]
  rw [heq]
  refine ⟨?_, hterms, nofun⟩
  have hoffer := (offer_createSynAck (Socket.acceptConn dev dEventTime sId syn)).trans
    (congrArg Terms.offer hterms)
  rintro p _ (hmem | hmem)
  · obtain rfl := List.mem_singleton.1 hmem
    exact hoffer
  · rcases TcpQueue.mem_addPacketToQueue hmem with rfl | hmem
    · exact hoffer
    · have hmem : p ∈ ((((Tcb.create dev dEventTime).updateSeqNumOnReceiving syn).changeState
          .listen).readSyn dev syn).retransmissionQueue.segments := hmem
      rw [hqueue] at hmem
      cases hmem

structure Pair.Inv (devC devS : DevVar) (w : Pair) : Prop where
  client : Client devC.terms (devS.terms.accept devC.terms.offer).offer w.client.conn
  server : ∀ s, w.server = some s → Server (devS.terms.accept devC.terms.offer) s.conn

theorem Pair.inv_step {devC devS : DevVar} {w w' : Pair} {e : PairEvent} (h : w.Inv devC devS)
    (hstep : w.step devS e = some w') : w'.Inv devC devS := by
  cases e with
  | client e =>
    simp only [step] at hstep
    split at hstep
    · next harrives =>
      rw [Option.map_eq_some_iff] at hstep
      obtain ⟨c, hnext, rfl⟩ := hstep
      refine ⟨h.client.next hnext ?_, h.server⟩
      intro p hkind hsyn
      rw [hkind] at harrives
      have hmem : p ∈ w.serverNetwork := of_decide_eq_true harrives
      unfold serverNetwork at hmem
      split at hmem
      · next s hs => exact (h.server s hs).offers p hsyn (.inl hmem)
      · cases hmem
    · cases hstep
  | server e =>
    simp only [step] at hstep
    split at hstep
    · cases hstep
    · next s hs =>
      split at hstep
      · rw [Option.map_eq_some_iff] at hstep
        obtain ⟨s', hnext, rfl⟩ := hstep
        refine ⟨h.client, ?_⟩
        rintro _ ⟨⟩
        exact (h.server s hs).next hnext
      · cases hstep
  | accept dEventTime sId syn =>
    simp only [step] at hstep
    split at hstep
    · next hsyn =>
      obtain ⟨-, hmem, hsyn, -, -⟩ := hsyn
      obtain rfl := Option.some.inj hstep
      refine ⟨h.client, ?_⟩
      rintro _ ⟨⟩
      rw [← h.client.offers syn hsyn (.inl hmem)]
      exact server_accept devS dEventTime sId hsyn
    · cases hstep

/-! ## Agreement -/

section Settings

variable (devC devS : DevVar)

def serverTerms : Terms := devS.terms.accept devC.terms.offer

def clientTerms : Terms := devC.terms.reconcile (serverTerms devC devS).offer

theorem serverTerms_SMSS : (serverTerms devC devS).SMSS = min devS.mss.toNat devC.mss.toNat := by
  have h : ∀ m o, (Terms.accept m o).SMSS = (m.reconcile o).SMSS := by
    intro m o
    unfold Terms.accept
    dsimp only
    split <;> rfl
  unfold serverTerms
  rw [h]
  simp [Terms.reconcile, Terms.offer, DevVar.terms]

theorem clientTerms_SMSS : (clientTerms devC devS).SMSS = min devC.mss.toNat devS.mss.toNat := by
  have h : (clientTerms devC devS).SMSS =
      min devC.mss.toNat (UInt16.ofNat (serverTerms devC devS).SMSS).toNat := rfl
  have hlt : min devS.mss.toNat devC.mss.toNat < UInt16.size := by
    have : devC.mss.toNat < UInt16.size := devC.mss.toNat_lt
    omega
  rw [h, serverTerms_SMSS, UInt16.toNat_ofNat_of_lt' hlt]
  omega

theorem serverTerms_isSackPermitted :
    (serverTerms devC devS).isSackPermitted = (devS.isSackPermitted && devC.isSackPermitted) := by
  unfold serverTerms Terms.accept
  dsimp only
  split <;> rfl

theorem serverTerms_isTSopt :
    (serverTerms devC devS).isTSopt = (devC.isTimestampOpt && devS.isTimestampOpt) := by
  unfold serverTerms Terms.accept
  dsimp only
  split <;> rfl

theorem clientTerms_isTSopt :
    (clientTerms devC devS).isTSopt = (devC.isTimestampOpt && devS.isTimestampOpt) := by
  have h : (clientTerms devC devS).isTSopt =
      ((serverTerms devC devS).isTSopt && devC.isTimestampOpt) := rfl
  rw [h, serverTerms_isTSopt]
  cases devC.isTimestampOpt <;> simp

theorem serverTerms_windowScaling :
    (serverTerms devC devS).isWindowScaling = (devC.isWindowScaling && devS.isWindowScaling) ∧
    (serverTerms devC devS).sndWindShift = (if devC.isWindowScaling && devS.isWindowScaling then
      min devS.shiftCount.toNat devC.shiftCount.toNat else 0) ∧
    (serverTerms devC devS).rcvWindShift = (if devC.isWindowScaling && devS.isWindowScaling then
      min devS.shiftCount.toNat devC.shiftCount.toNat else 0) := by
  unfold serverTerms Terms.accept
  cases hC : devC.isWindowScaling with
  | false => simp [Terms.offer, Terms.reconcile, DevVar.terms, hC]
  | true =>
    cases hS : devS.isWindowScaling with
    | false => simp [Terms.offer, Terms.reconcile, DevVar.terms, hC, hS]
    | true => simp [Terms.offer, Terms.reconcile, DevVar.terms, hC, hS]

end Settings

/-- The two TCBs agree on the options. -/
structure Agree (devC devS : DevVar) (c s : Tcb) : Prop where
  clientMss : c.congestionData.SMSS = min devC.mss.toNat devS.mss.toNat
  serverMss : s.congestionData.SMSS = min devC.mss.toNat devS.mss.toNat
  sack : c.isSackPermitted = s.isSackPermitted
  windowScaling : c.isWindowScaling = s.isWindowScaling
  timestamps : c.isTSopt = s.isTSopt
  sndWindShift : c.sndWindShift = s.sndWindShift
  rcvWindShift : c.rcvWindShift = s.rcvWindShift

theorem agree_iff_of_terms {devC devS : DevVar} {c s : Tcb} (hc : c.terms = clientTerms devC devS)
    (hs : s.terms = serverTerms devC devS) :
    Agree devC devS c s ↔
      (devC.isSackPermitted = true → devS.isSackPermitted = true) ∧
      (devC.isWindowScaling = true → devS.isWindowScaling = true ∧
        devC.shiftCount.toNat ≤ devS.shiftCount.toNat) := by
  have hsack : c.isSackPermitted = devC.isSackPermitted := congrArg Terms.isSackPermitted hc
  have hsack' : s.isSackPermitted = (devS.isSackPermitted && devC.isSackPermitted) :=
    (congrArg Terms.isSackPermitted hs).trans (serverTerms_isSackPermitted devC devS)
  have hscale : c.isWindowScaling = devC.isWindowScaling := congrArg Terms.isWindowScaling hc
  have hsnd : c.sndWindShift = if devC.isWindowScaling then devC.shiftCount.toNat else 0 :=
    congrArg Terms.sndWindShift hc
  have hrcv : c.rcvWindShift = if devC.isWindowScaling then devC.shiftCount.toNat else 0 :=
    congrArg Terms.rcvWindShift hc
  obtain ⟨hscaling, hsnds, hrcvs⟩ := serverTerms_windowScaling devC devS
  have hscale' := (congrArg Terms.isWindowScaling hs).trans hscaling
  have hsnd' := (congrArg Terms.sndWindShift hs).trans hsnds
  have hrcv' := (congrArg Terms.rcvWindShift hs).trans hrcvs
  simp only [Tcb.terms] at hscale' hsnd' hrcv'
  constructor
  · rintro ⟨-, -, hsackEq, hscaleEq, -, hsndEq, -⟩
    constructor
    · intro h
      rw [hsack, hsack', h] at hsackEq
      simpa using hsackEq.symm
    · intro h
      rw [hscale, hscale', h] at hscaleEq
      have hS : devS.isWindowScaling = true := by simpa using hscaleEq.symm
      rw [hsnd, hsnd', h, hS] at hsndEq
      simp only [if_true, Bool.and_self] at hsndEq
      exact ⟨hS, by omega⟩
  · rintro ⟨hsackImp, hscaleImp⟩
    have hmss := (congrArg Terms.SMSS hs).trans (serverTerms_SMSS devC devS)
    have htime := (congrArg Terms.isTSopt hc).trans (clientTerms_isTSopt devC devS)
    have htime' := (congrArg Terms.isTSopt hs).trans (serverTerms_isTSopt devC devS)
    refine ⟨(congrArg Terms.SMSS hc).trans (clientTerms_SMSS devC devS),
      hmss.trans (Nat.min_comm _ _), ?_, ?_, htime.trans htime'.symm, ?_, ?_⟩
    · rw [hsack, hsack']
      cases hC : devC.isSackPermitted with
      | false => simp
      | true => simp [hsackImp hC]
    · rw [hscale, hscale']
      cases hC : devC.isWindowScaling with
      | false => simp
      | true => simp [(hscaleImp hC).1]
    · rw [hsnd, hsnd']
      cases hC : devC.isWindowScaling with
      | false => simp
      | true => simp [(hscaleImp hC).1, Nat.min_eq_right (hscaleImp hC).2]
    · rw [hrcv, hrcv']
      cases hC : devC.isWindowScaling with
      | false => simp
      | true => simp [(hscaleImp hC).1, Nat.min_eq_right (hscaleImp hC).2]

/-- The two TCBs agree if and only if the server permits SACK and scales its window whenever the
client does, with a shift at least that of the client. -/
theorem agree_iff {devC devS : DevVar} {dEventTime : Nat} {sId : List AppPacket}
    {tr : List (Pair × PairEvent)} {w : Pair} {s : Socket}
    (run : Run (Pair.step devS) (Pair.start devC dEventTime sId) tr w) (hs : w.server = some s)
    (hstate : w.client.conn.tcb.tcpState = .established) :
    Agree devC devS w.client.conn.tcb s.conn.tcb ↔
      (devC.isSackPermitted = true → devS.isSackPermitted = true) ∧
      (devC.isWindowScaling = true → devS.isWindowScaling = true ∧
        devC.shiftCount.toNat ≤ devS.shiftCount.toNat) := by
  have hstart : (Pair.start devC dEventTime sId).Inv devC devS := by
    refine ⟨client_connect devC dEventTime sId _, fun s hs => ?_⟩
    cases (hs : none = some s)
  have hinv : w.Inv devC devS :=
    run.always (P := Pair.Inv devC devS) hstart fun _ _ _ h hstep => Pair.inv_step h hstep
  exact agree_iff_of_terms (hinv.client.after (by rw [hstate]; rfl)) (hinv.server s hs).terms

def threeWayHandshake : List (Pair → Option PairEvent) :=
  [fun w => w.client.conn.network.getLast?.map fun p => .accept 1 [] p,
    fun w => w.serverNetwork.getLast?.map fun p => .client ⟨2, .segment p⟩,
    fun w => w.client.conn.network.getLast?.map fun p => .server ⟨3, .segment p⟩]

/-- Both hosts have the settings of the configuration, with SACK, window scaling and timestamps. -/
def DevVar.extended : DevVar :=
  { DevVar.config with
    isSackPermitted := true, isWindowScaling := true, shiftCount := 7, isTimestampOpt := true }

theorem agree_threeWayHandshake :
    ∃ tr w s, Run (Pair.step DevVar.extended) (Pair.start DevVar.extended 0 []) tr w ∧
      w.server = some s ∧ w.client.conn.tcb.tcpState = .established ∧
      s.conn.tcb.tcpState = .established ∧
      Agree DevVar.extended DevVar.extended w.client.conn.tcb s.conn.tcb := by
  have hexec : (exec (Pair.step DevVar.extended) (Pair.start DevVar.extended 0 [])
      threeWayHandshake).any (fun r => match r.2.server with
        | some s => decide (r.2.client.conn.tcb.tcpState = .established ∧
            s.conn.tcb.tcpState = .established)
        | none => false) = true := by decide +kernel
  obtain ⟨tr, w, run, htest⟩ := run_of_exec hexec
  split at htest
  · next s hs =>
    obtain ⟨hclient, hserver⟩ := of_decide_eq_true htest
    exact ⟨tr, w, s, run, hs, hclient, hserver,
      (agree_iff run hs hclient).2 ⟨fun _ => rfl, fun _ => ⟨rfl, Nat.le_refl _⟩⟩⟩
  · cases htest

/-- The client permits SACK and scales its window, the server neither: the client goes on as if it
did. -/
theorem not_agree_threeWayHandshake :
    ∃ tr w s, Run (Pair.step DevVar.config) (Pair.start DevVar.extended 0 []) tr w ∧
      w.server = some s ∧ w.client.conn.tcb.tcpState = .established ∧
      s.conn.tcb.tcpState = .established ∧
      (w.client.conn.tcb.isSackPermitted, s.conn.tcb.isSackPermitted) = (true, false) ∧
      (w.client.conn.tcb.isWindowScaling, s.conn.tcb.isWindowScaling) = (true, false) ∧
      ¬ Agree DevVar.extended DevVar.config w.client.conn.tcb s.conn.tcb := by
  have hexec : (exec (Pair.step DevVar.config) (Pair.start DevVar.extended 0 [])
      threeWayHandshake).any (fun r => match r.2.server with
        | some s => decide (r.2.client.conn.tcb.tcpState = .established ∧
            s.conn.tcb.tcpState = .established ∧
            (r.2.client.conn.tcb.isSackPermitted, s.conn.tcb.isSackPermitted) = (true, false) ∧
            (r.2.client.conn.tcb.isWindowScaling, s.conn.tcb.isWindowScaling) = (true, false))
        | none => false) = true := by decide +kernel
  obtain ⟨tr, w, run, htest⟩ := run_of_exec hexec
  split at htest
  · next s hs =>
    obtain ⟨hclient, hserver, hsack, hscale⟩ := of_decide_eq_true htest
    refine ⟨tr, w, s, run, hs, hclient, hserver, hsack, hscale, fun h => ?_⟩
    rw [h.sack, Prod.mk.injEq] at hsack
    rw [hsack.1] at hsack
    cases hsack.2
  · cases htest

end NetSim.Tcp
