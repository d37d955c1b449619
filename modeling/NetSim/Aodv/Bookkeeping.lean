import NetSim.Aodv.Emission

/-!
# The bookkeeping of a device

`BookEffect` lists what an event does to the sequence number, the buffer, the tables of RREQs, the
congestion counter and the `RREQ_TIMEOUT` events of a device.
-/

namespace NetSim.Aodv

open NetSim.Lib

structure Book where
  nSequenceNumber : UInt32
  fifo : List FIFO
  rreqSeenTable : List RREQSeenTable
  rreqSentTable : List RREQSentTable
  ncounter : UInt32

def DeviceVar.book (v : DeviceVar) : Book where
  nSequenceNumber := v.nSequenceNumber
  fifo := v.fifo
  rreqSeenTable := v.rreqSeenTable
  rreqSentTable := v.rreqSentTable
  ncounter := v.ncounter

/-- The destination and the time of a pending `RREQ_TIMEOUT` event. -/
def EventDetails.rreqTimeout? (e : EventDetails) : Option (IPAddress × Time) :=
  match e.subEvent with
  | .rreqTimeout dest => some (dest, e.dEventTime)
  | _ => none

/-- The pending `RREQ_TIMEOUT` events. -/
def rreqTimeouts (events : List EventDetails) : List (IPAddress × Time) :=
  events.filterMap EventDetails.rreqTimeout?

@[simp] theorem rreqTimeouts_nil : rreqTimeouts [] = [] := rfl

@[simp] theorem rreqTimeouts_append (l1 l2 : List EventDetails) :
    rreqTimeouts (l1 ++ l2) = rreqTimeouts l1 ++ rreqTimeouts l2 :=
  List.filterMap_append

@[simp] theorem rreqTimeouts_cons (e : EventDetails) (l : List EventDetails) :
    rreqTimeouts (e :: l) = e.rreqTimeout?.toList ++ rreqTimeouts l := by
  unfold rreqTimeouts
  rw [List.filterMap_cons]
  cases e.rreqTimeout? <;> rfl

/-- The sent table after `InterstInRREQSentTable`. -/
def DeviceVar.sentAfter (v : DeviceVar) (dest : IPAddress) (ttl : ℕ) (dTimeout : Time) :
    List RREQSentTable :=
  (interstInRREQSentTable dest ttl dTimeout (.start 0 v)).devVar.rreqSentTable

/-- The seen table after an RREQ of `orginator`. -/
def DeviceVar.seenAfter (c : Curr) (v : DeviceVar) (orginator : IPAddress) (nRREQId : UInt32) :
    List RREQSeenTable :=
  v.rreqSeenTable ++ [⟨orginator, nRREQId, c.dEventTime + aodvPathDiscoveryTime⟩]

/-- The device variable with the forward route that `rrep` gives. -/
def DeviceVar.withForwardRoute (c : Curr) (rrep : RREP) (v : DeviceVar) : DeviceVar :=
  { v with routeTable := (forwardRoute c rrep).table c v.routeTable }

/-- The FIFO buffer that `TransmitFIFOBuffer` leaves. -/
def DeviceVar.flushed (c : Curr) (v : DeviceVar) : List FIFO :=
  v.fifo.map fun fifo =>
    if checkRouteFound c fifo.destination v then { fifo with packetList := [] } else fifo

/-- The TTL and the timeout of the RREQ that `GenerateRREQ` sends. -/
def DeviceVar.firstTTL (v : DeviceVar) (dest : IPAddress) : ℕ := increaseTTL v dest + 1 + 1

/-- The event is none of those that always change the books. -/
def NodeAction.Quiet (c : Curr) (v : DeviceVar) : NodeAction → Prop
  | .fire ⟨_, .activeRouteTimeout _⟩ => False
  | .fire ⟨_, .rreqTimeout dest⟩ =>
    ∀ table, findSentTable v dest = some table → c.dEventTime < table.dTimeoutTime
  | .networkIn packet =>
    match packet.payload with
    | .rreq rreq => checkRREQSeenTable v rreq = true
    | .rrep rrep => rrep.destinationIPaddress = c.ip
    | _ => True
  | .dropNotification _ => v.nRerrCount ≤ 10
  | _ => True

/-- The action routes the packet in `NETWORK_OUT_EVENT`. -/
def NodeAction.Routes (packet : Packet) (a : NodeAction) : Prop :=
  (∃ time, a = .fire ⟨time, .networkOut packet⟩) ∨ a = .dataOut packet

/-- The effects of an event with outcome `o` on the books. -/
inductive BookEffect (c : Curr) (nRREQId : UInt32) (v : DeviceVar) (o : Outcome) : NodeAction → Prop
  | same (a : NodeAction) (hquiet : a.Quiet c v) (hbook : o.devVar.book = v.book)
      (hid : o.nRREQId = nRREQId) (htimeouts : rreqTimeouts o.added = []) : BookEffect c nRREQId v o a
  /-- `ActiveRouteTimeout` -/
  | expires (time : Time) (dest : IPAddress)
      (hbook : o.devVar.book = { v.book with ncounter :=
        (activeRouteTimeoutLoop dest c.dEventTime v.ncounter v.routeTable).2.1 })
      (hid : o.nRREQId = nRREQId) (htimeouts : rreqTimeouts o.added = []) :
    BookEffect c nRREQId v o (.fire ⟨time, .activeRouteTimeout dest⟩)
  /-- `GenerateRERR` -/
  | breaks (nextHop : IPAddress) (hcount : 10 < v.nRerrCount)
      (hbook : o.devVar.book = { v.book with ncounter := v.ncounter - 1 })
      (hid : o.nRREQId = nRREQId) (htimeouts : rreqTimeouts o.added = []) :
    BookEffect c nRREQId v o (.dropNotification nextHop)
  /-- `AddToFIFOBuffer`, behind other packets -/
  | buffers (a : NodeAction) (packet : Packet) (fifo : List FIFO) (ha : a.Routes packet)
      (hdata : packet.isControl = false)
      (hadd : addToFIFOBuffer packet c.dEventTime v.fifo = (fifo, true))
      (hbook : o.devVar.book = { v.book with fifo := fifo })
      (hid : o.nRREQId = nRREQId) (htimeouts : rreqTimeouts o.added = []) :
    BookEffect c nRREQId v o a
  /-- `AddToFIFOBuffer`, and `GenerateRREQ` -/
  | discovers (a : NodeAction) (packet : Packet) (fifo : List FIFO) (ha : a.Routes packet)
      (hdata : packet.isControl = false)
      (hadd : addToFIFOBuffer packet c.dEventTime v.fifo = (fifo, false))
      (hbook : o.devVar.book = { v.book with
        nSequenceNumber := v.nSequenceNumber + 1
        fifo := fifo
        rreqSeenTable := v.seenAfter c c.ip (nRREQId + 1)
        rreqSentTable := v.sentAfter packet.szDestIP (v.firstTTL packet.szDestIP - 1)
          (c.dEventTime + getTimeoutTime (v.firstTTL packet.szDestIP - 1) 1) })
      (hid : o.nRREQId = nRREQId + 1)
      (htimeouts : rreqTimeouts o.added = [(packet.szDestIP,
        c.dEventTime + getTimeoutTime (v.firstTTL packet.szDestIP - 1) 1)]) :
    BookEffect c nRREQId v o a
  /-- `RetryRREQ`, after the last retry -/
  | givesUp (time : Time) (dest : IPAddress) (table : RREQSentTable)
      (hfind : findSentTable v dest = some table) (hdue : table.dTimeoutTime ≤ c.dEventTime)
      (htimes : aodvRreqRetries < table.times)
      (hbook : o.devVar.book = { v.book with
        fifo := eraseFirst FIFO.destination dest v.fifo
        rreqSentTable := eraseFirst RREQSentTable.destAddress dest v.rreqSentTable })
      (hid : o.nRREQId = nRREQId) (htimeouts : rreqTimeouts o.added = []) :
    BookEffect c nRREQId v o (.fire ⟨time, .rreqTimeout dest⟩)
  /-- `RetryRREQ` -/
  | retries (time : Time) (dest : IPAddress) (table : RREQSentTable)
      (hfind : findSentTable v dest = some table) (hdue : table.dTimeoutTime ≤ c.dEventTime)
      (htimes : table.times ≤ aodvRreqRetries)
      (hbook : o.devVar.book = { v.book with
        nSequenceNumber := v.nSequenceNumber + 1
        rreqSeenTable := v.seenAfter c c.ip (nRREQId + 1)
        rreqSentTable := v.sentAfter dest (increaseTTL v dest)
          (c.dEventTime + getTimeoutTime (increaseTTL v dest + 1) table.times) })
      (hid : o.nRREQId = nRREQId + 1)
      (htimeouts : rreqTimeouts o.added =
        [(dest, c.dEventTime + getTimeoutTime (increaseTTL v dest + 1) table.times)]) :
    BookEffect c nRREQId v o (.fire ⟨time, .rreqTimeout dest⟩)
  /-- `ProcessRREQ`, at the destination and elsewhere -/
  | accepts (packet : Packet) (rreq : RREQ) (hrreq : packet.payload = .rreq rreq)
      (hseen : checkRREQSeenTable v rreq = false)
      (hbook : o.devVar.book = { v.book with
        nSequenceNumber := if c.ip = rreq.destinationIPAddress then v.nSequenceNumber + 1
          else v.nSequenceNumber
        rreqSeenTable := v.seenAfter c rreq.originatorIPAddress rreq.rreqId })
      (hid : o.nRREQId = nRREQId) (htimeouts : rreqTimeouts o.added = []) :
    BookEffect c nRREQId v o (.networkIn packet)
  /-- `ProcessRREP` -/
  | learns (packet : Packet) (rrep : RREP) (hrrep : packet.payload = .rrep rrep)
      (hdest : rrep.destinationIPaddress ≠ c.ip)
      (hbook : o.devVar.book = { v.book with
        fifo := (v.withForwardRoute c rrep).flushed c
        rreqSentTable :=
          if c.ip = rrep.originatorIPaddress then
            eraseFirst RREQSentTable.destAddress rrep.destinationIPaddress v.rreqSentTable
          else v.rreqSentTable
        ncounter := if rrep.congestionflag then v.ncounter + 1 else v.ncounter })
      (hid : o.nRREQId = nRREQId) (htimeouts : rreqTimeouts o.added = []) :
    BookEffect c nRREQId v o (.networkIn packet)

section HandleBook

variable {c : Curr} {nRREQId : UInt32} {v : DeviceVar} {o : Outcome}

theorem rreqTimeouts_timers (op : RouteOp) (l : List RouteTable) :
    rreqTimeouts (op.timers c l) = [] := by
  unfold rreqTimeouts
  rw [List.filterMap_eq_nil_iff]
  intro e he
  obtain ⟨dest, htimer⟩ := subEvent_of_mem_timers he
  unfold EventDetails.rreqTimeout?
  rw [htimer]

theorem rreqTimeouts_afterIn (c : Curr) (s : Sim) :
    rreqTimeouts (s.afterIn c).added = rreqTimeouts s.added :=
  filterMap_afterIn (fun _ _ => rfl) c s

theorem rreqTimeouts_transmitFIFOBuffer (c : Curr) (s : Sim) :
    rreqTimeouts (transmitFIFOBuffer c s).added = rreqTimeouts s.added :=
  filterMap_transmitFIFOBuffer (fun _ _ => rfl) c s

variable {a : NodeAction}

theorem BookEffect.of_afterIn {s : Sim} (hquiet : a.Quiet c v)
    (ho : o = s.afterIn c) (hbook : s.devVar.book = v.book) (hid : s.nRREQId = nRREQId)
    (htimeouts : rreqTimeouts s.added = []) : BookEffect c nRREQId v o a := by
  subst ho
  exact .same a hquiet hbook hid ((rreqTimeouts_afterIn c s).trans htimeouts)

theorem book_transmitIfAlive (c : Curr) (s : Sim) :
    (transmitIfAlive c s).devVar.book = s.devVar.book := by
  rcases (transmitIfAlive_devVar c s).1 with h | h <;> rw [h]
  rfl

variable {packet : Packet}

theorem networkOutEvent_book (ha : a.Routes packet)
    (ho : o = (networkOutEvent c packet (.start nRREQId v)).afterOut c) :
    BookEffect c nRREQId v o a := by
  have hquiet : a.Quiet c v := by
    rcases ha with ⟨time, rfl⟩ | rfl <;> trivial
  have hsame : ∀ {s : Sim}, o = (transmitIfAlive c s).afterOut c → s.devVar.book = v.book →
      s.nRREQId = nRREQId → rreqTimeouts s.added = [] → BookEffect c nRREQId v o a := by
    rintro s rfl hbook hid htimeouts
    refine .same a hquiet ((book_transmitIfAlive c s).trans hbook)
      ((transmitIfAlive_counters c s).1.trans hid) ?_
    rw [← htimeouts]
    exact congrArg rreqTimeouts (transmitIfAlive_devVar c s).2.2
  unfold networkOutEvent at ho
  split at ho
  · subst ho
    exact .same a hquiet rfl rfl rfl
  split at ho
  · exact hsame ho rfl rfl rfl
  next hcontrol =>
  cases hroute : checkRouteFound c packet.szDestIP v with
  | true =>
    obtain ⟨table, hfind⟩ := exists_of_checkRouteFound hroute
    rw [generalPacketProcessing_found hroute hfind] at ho
    exact hsame ho rfl rfl rfl
  | false =>
    have hgeneral := generalPacketProcessing_notFound (.start nRREQId v) hroute
    cases hadd : addToFIFOBuffer packet c.dEventTime v.fifo with
    | mk fifo rreqSent =>
      simp only [Sim.start, hadd] at hgeneral
      rw [Sim.start, hgeneral] at ho
      cases rreqSent with
      | true =>
        subst ho
        exact .buffers a packet fifo ha (by simpa using hcontrol) hadd rfl rfl rfl
      | false =>
        subst ho
        refine .discovers a packet fifo ha (by simpa using hcontrol) hadd ?_ ?_ ?_
        · exact book_transmitIfAlive c _
        · exact (transmitIfAlive_counters c _).1
        · exact congrArg rreqTimeouts (transmitIfAlive_devVar c _).2.2

theorem retryRREQ_book {time : Time} {dest : IPAddress}
    (ho : o = (retryRREQ c dest (.start nRREQId v)).afterIn c) :
    BookEffect c nRREQId v o (.fire ⟨time, .rreqTimeout dest⟩) := by
  unfold retryRREQ at ho
  split at ho
  · next hnone =>
    refine .of_afterIn ?_ ho rfl rfl rfl
    intro table hfind
    cases hnone.symm.trans hfind
  · next table hfind =>
    split at ho
    · next hlt =>
      refine .of_afterIn ?_ ho rfl rfl rfl
      intro table' hfind'
      cases hfind.symm.trans hfind'
      exact hlt
    · next hdue =>
      split at ho
      · next htimes =>
        subst ho
        exact .givesUp time dest table hfind (le_of_not_gt hdue) htimes rfl rfl rfl
      · next htimes =>
        subst ho
        refine .retries time dest table hfind (le_of_not_gt hdue) (le_of_not_gt htimes) rfl rfl ?_
        rfl

theorem RREQCase.book {rreq : RREQ} {t s' : Sim} (h : RREQCase c rreq t s') :
    s'.devVar.book = { t.devVar.book with
      nSequenceNumber := if c.ip = rreq.destinationIPAddress then t.devVar.nSequenceNumber + 1
        else t.devVar.nSequenceNumber } ∧
      s'.nRREQId = t.nRREQId ∧ rreqTimeouts s'.added = rreqTimeouts t.added := by
  cases h with
  | destination hdest =>
    rw [if_pos hdest]
    exact ⟨rfl, rfl, by simp [generateRREP, EventDetails.rreqTimeout?]⟩
  | congested hdest hcongested =>
    rw [if_neg hdest]
    exact ⟨rfl, rfl, rfl⟩
  | intermediate table hdest hcongested hanswer hfind hnext =>
    rw [if_neg hdest]
    exact ⟨rfl, rfl, by simp [EventDetails.rreqTimeout?]⟩
  | forwardedTwice table s1 _ hdest hcongested hanswer hfind hnext hfirst hsecond =>
    obtain ⟨hv1, hid1, ha1⟩ := forwardRREQ_devVar hfirst
    obtain ⟨hv2, hid2, ha2⟩ := forwardRREQ_devVar hsecond
    rw [if_neg hdest, hv2, hv1, hid2, hid1, ha2, ha1]
    exact ⟨rfl, rfl, rfl⟩
  | noRoute hdest hcongested hanswer =>
    rw [if_neg hdest]
    exact ⟨rfl, rfl, rfl⟩

theorem rreq_book {rreq : RREQ} (hrreq : packet.payload = .rreq rreq)
    (h : handle c nRREQId v (.networkIn packet) = some o) :
    BookEffect c nRREQId v o (.networkIn packet) := by
  cases hseen : checkRREQSeenTable v rreq with
  | true =>
    rw [handle_rreq_seen nRREQId hrreq hseen] at h
    rw [← Option.some.inj h]
    refine .same _ ?_ rfl rfl rfl
    simpa only [NodeAction.Quiet, hrreq] using hseen
  | false =>
    rw [handle_rreq nRREQId hrreq] at h
    obtain ⟨s', hs', rfl⟩ := Option.map_eq_some_iff.1 h
    obtain ⟨hbook, hid, htimeouts⟩ := (processRREQ_cases hseen hs').book
    refine .accepts packet rreq hrreq hseen ?_ ?_ ?_
    · apply hbook.trans
      rw [acceptRREQ_devVar]
      rfl
    · apply hid.trans
      rw [acceptRREQ_nRREQId]
      rfl
    · rw [rreqTimeouts_afterIn, htimeouts, acceptRREQ_eq, applyOp_added, rreqTimeouts_append,
        rreqTimeouts_timers]
      rfl

theorem acceptRREP_book (c : Curr) (rrep : RREP) (s : Sim) :
    (acceptRREP c rrep s).devVar.book = { s.devVar.book with
      fifo := (s.devVar.withForwardRoute c rrep).flushed c
      ncounter := if rrep.congestionflag then s.devVar.ncounter + 1 else s.devVar.ncounter } ∧
      (acceptRREP c rrep s).nRREQId = s.nRREQId := by
  unfold acceptRREP countCongestion
  split <;> exact ⟨rfl, rfl⟩

theorem rreqTimeouts_acceptRREP (c : Curr) (rrep : RREP) (s : Sim) :
    rreqTimeouts (acceptRREP c rrep s).added = rreqTimeouts s.added := by
  simp only [acceptRREP, applyOp_added, rreqTimeouts_append, rreqTimeouts_timers, List.append_nil,
    insertInPrecursorsList, modifyVar_added, rreqTimeouts_transmitFIFOBuffer,
    (countCongestion_routeTable rrep s).2]

theorem rrep_book {rrep : RREP} (hrrep : packet.payload = .rrep rrep)
    (ho : o = (processRREP c packet rrep (rreqStart nRREQId v packet)).afterIn c) :
    BookEffect c nRREQId v o (.networkIn packet) := by
  rw [processRREP_eq] at ho
  obtain ⟨hbook, hid⟩ := acceptRREP_book c rrep (rreqStart nRREQId v packet)
  have htimeouts := rreqTimeouts_acceptRREP c rrep (rreqStart nRREQId v packet)
  split at ho
  · next hdest =>
    refine .of_afterIn ?_ ho rfl rfl rfl
    simpa only [NodeAction.Quiet, hrrep] using hdest
  · next hdest =>
    split at ho
    · next horiginator =>
      subst ho
      refine .learns packet rrep hrrep hdest ?_ hid ((rreqTimeouts_afterIn c _).trans htimeouts)
      rw [if_pos horiginator]
      simp only [DeviceVar.book, Book.mk.injEq, Sim.afterIn, deleteRREQSentTable,
        modifyVar_devVar] at hbook ⊢
      obtain ⟨h1, h2, h3, h4, h5⟩ := hbook
      exact ⟨h1, h2, h3, by rw [h4]; rfl, h5⟩
    · next horiginator =>
      obtain ⟨hv, hid', ha⟩ := forwardRREP_devVar c packet rrep
        (acceptRREP c rrep (rreqStart nRREQId v packet))
      subst ho
      refine .learns packet rrep hrrep hdest ?_ (hid'.trans hid) ?_
      · rw [if_neg horiginator]
        refine Eq.trans ?_ hbook
        exact congrArg DeviceVar.book hv
      · rw [rreqTimeouts_afterIn, ha, htimeouts]
        rfl

theorem rerr_book {rerr : RERR} (hrerr : packet.payload = .rerr rerr)
    (ho : o = (processRERR c packet rerr (rreqStart nRREQId v packet)).afterIn c) :
    BookEffect c nRREQId v o (.networkIn packet) := by
  have hquiet : (NodeAction.networkIn packet).Quiet c v := by
    simp only [NodeAction.Quiet, hrerr]
  apply BookEffect.of_afterIn hquiet ho
  all_goals
    unfold processRERR
    simp only
    split <;> rfl

theorem transmitHelloMessage_book {time : Time}
    (ho : o = (transmitHelloMessage c (.start nRREQId v)).afterIn c) :
    BookEffect c nRREQId v o (.fire ⟨time, .transmitHello⟩) := by
  have hquiet : (NodeAction.fire ⟨time, .transmitHello⟩).Quiet c v := trivial
  apply BookEffect.of_afterIn hquiet ho
  all_goals
    unfold transmitHelloMessage
    simp only
    split
    · rfl
    · split <;> rfl

theorem activeRouteTimeout_book {time : Time} {dest : IPAddress}
    (ho : o = (activeRouteTimeout c dest (.start nRREQId v)).afterIn c) :
    BookEffect c nRREQId v o (.fire ⟨time, .activeRouteTimeout dest⟩) := by
  rw [activeRouteTimeout_eq] at ho
  subst ho
  refine .expires time dest rfl rfl ?_
  rw [rreqTimeouts_afterIn, modifyVar_added, applyOp_added, rreqTimeouts_append,
    rreqTimeouts_timers]
  rfl

theorem packetDropNotification_book {nextHop : IPAddress} {s : Sim}
    (hs : packetDropNotification c nextHop (.start nRREQId v) = some s)
    (ho : o = s.afterIn c) : BookEffect c nRREQId v o (.dropNotification nextHop) := by
  unfold packetDropNotification at hs
  split at hs
  · next hcount =>
    obtain ⟨s1, hs1, rfl⟩ := Option.map_eq_some_iff.1 hs
    unfold generateRERR at hs1
    split at hs1
    · cases hs1
    · rw [← Option.some.inj hs1] at ho
      subst ho
      refine .breaks nextHop hcount ?_ ?_ ?_
      · split <;> rfl
      · split <;> rfl
      · split <;> rfl
  · next hcount =>
    rw [← Option.some.inj hs] at ho
    exact .of_afterIn (UInt32.not_lt.1 hcount) ho rfl rfl rfl

theorem handle_book (h : handle c nRREQId v a = some o) : BookEffect c nRREQId v o a := by
  cases a with
  | fire e =>
    obtain ⟨time, subEvent⟩ := e
    cases subEvent with
    | networkOut packet =>
      exact networkOutEvent_book (Or.inl ⟨time, rfl⟩) (Option.some.inj h).symm
    | rreqTimeout dest => exact retryRREQ_book (Option.some.inj h).symm
    | transmitHello => exact transmitHelloMessage_book (Option.some.inj h).symm
    | activeRouteTimeout dest => exact activeRouteTimeout_book (Option.some.inj h).symm
  | dataOut packet => exact networkOutEvent_book (Or.inr rfl) (Option.some.inj h).symm
  | networkIn packet =>
    cases hpayload : packet.payload with
    | rreq rreq => exact rreq_book hpayload h
    | rrep rrep =>
      simp only [handle, networkInEvent, hpayload, Option.map_some, Option.some.injEq] at h
      exact rrep_book hpayload h.symm
    | rerr rerr =>
      simp only [handle, networkInEvent, hpayload, Option.map_some, Option.some.injEq] at h
      exact rerr_book hpayload h.symm
    | data nPacketId =>
      simp only [handle, networkInEvent, hpayload, Option.map_some, Option.some.injEq] at h
      refine .of_afterIn (by simp only [NodeAction.Quiet, hpayload]) h.symm ?_ ?_ ?_ <;>
        split <;> rfl
  | dropNotification nextHop =>
    obtain ⟨s', hs', rfl⟩ := Option.map_eq_some_iff.1 h
    exact packetDropNotification_book hs' rfl

end HandleBook

/-! ## The FIFO buffer holds data packets -/

theorem mem_addToFIFOBuffer {packet q : Packet} {time : Time} {l : List FIFO} {fifo : FIFO}
    (hfifo : fifo ∈ (addToFIFOBuffer packet time l).1) (hq : q ∈ fifo.packetList) :
    q = packet ∨ ∃ fifo' ∈ l, q ∈ fifo'.packetList := by
  unfold addToFIFOBuffer at hfifo
  cases hfind : lookup FIFO.destination packet.szDestIP l with
  | none =>
    simp only [hfind, List.mem_append, List.mem_singleton] at hfifo
    rcases hfifo with hmem | rfl
    · exact Or.inr ⟨fifo, hmem, hq⟩
    · exact Or.inl (List.mem_singleton.1 hq)
  | some found =>
    obtain ⟨hmem, -⟩ := lookup_some hfind
    cases hlist : found.packetList with
    | nil =>
      simp only [hfind, hlist] at hfifo
      rcases mem_modifyFirst hfifo with h | ⟨a, -, rfl⟩
      · exact Or.inr ⟨fifo, h, hq⟩
      · exact Or.inl (List.mem_singleton.1 hq)
    | cons head tail =>
      simp only [hfind, hlist] at hfifo
      rcases mem_modifyFirst hfifo with h | ⟨a, ha, rfl⟩
      · exact Or.inr ⟨fifo, h, hq⟩
      · rw [hfind] at ha
        rw [← Option.some.inj ha] at hq
        rcases List.mem_append.1 hq with h | h
        · exact Or.inr ⟨found, hmem, h⟩
        · exact Or.inl (List.mem_singleton.1 h)

theorem handle_dataFIFO {c : Curr} {nRREQId : UInt32} {v : DeviceVar} {o : Outcome} {a : NodeAction}
    (h : handle c nRREQId v a = some o) (hfifo : DataFIFO v) : DataFIFO o.devVar := by
  have hsame : o.devVar.fifo = v.fifo → DataFIFO o.devVar := by
    intro heq
    unfold DataFIFO
    rw [heq]
    exact hfifo
  have hadded : ∀ {packet : Packet} {fifo : List FIFO} {sent : Bool}, packet.isControl = false →
      addToFIFOBuffer packet c.dEventTime v.fifo = (fifo, sent) → o.devVar.fifo = fifo →
      DataFIFO o.devVar := by
    intro packet fifo sent hdata hadd heq f hf q hq
    rw [heq, show fifo = (addToFIFOBuffer packet c.dEventTime v.fifo).1 by rw [hadd]] at hf
    rcases mem_addToFIFOBuffer hf hq with rfl | ⟨f', hf', hq'⟩
    · exact hdata
    · exact hfifo f' hf' q hq'
  cases handle_book h with
  | same _ _ hbook => exact hsame (congrArg Book.fifo hbook)
  | expires _ _ hbook => exact hsame (congrArg Book.fifo hbook)
  | breaks _ _ hbook => exact hsame (congrArg Book.fifo hbook)
  | buffers _ packet fifo _ hdata hadd hbook => exact hadded hdata hadd (congrArg Book.fifo hbook)
  | discovers _ packet fifo _ hdata hadd hbook => exact hadded hdata hadd (congrArg Book.fifo hbook)
  | givesUp _ dest table _ _ _ hbook =>
    intro f hf
    rw [show o.devVar.fifo = _ from congrArg Book.fifo hbook] at hf
    exact hfifo f (eraseFirst_subset hf)
  | retries _ _ _ _ _ _ hbook => exact hsame (congrArg Book.fifo hbook)
  | accepts _ _ _ _ hbook => exact hsame (congrArg Book.fifo hbook)
  | learns packet rrep _ _ hbook =>
    intro f hf q hq
    rw [show o.devVar.fifo = _ from congrArg Book.fifo hbook] at hf
    obtain ⟨f', hf', rfl⟩ := List.mem_map.1 hf
    split at hq
    · cases hq
    · exact hfifo f' hf' q hq

theorem onePerDestination_of_nodeRun {ip : IPAddress} {tr : List (NodeState × NodeStepLabel)}
    {s : NodeState} (run : NodeRun ip tr s) : OnePerDestination s.device.var.routeTable :=
  run.device_invariant (P := fun v => OnePerDestination v.routeTable) List.nodup_nil
    fun _ _ _ _ _ hl h => handle_onePerDestination h hl

theorem dataFIFO_of_nodeRun {ip : IPAddress} {tr : List (NodeState × NodeStepLabel)}
    {s : NodeState} (run : NodeRun ip tr s) : DataFIFO s.device.var :=
  run.device_invariant (P := DataFIFO) (fun _ h => nomatch h)
    fun _ _ _ _ _ hfifo h => handle_dataFIFO h hfifo

end NetSim.Aodv
