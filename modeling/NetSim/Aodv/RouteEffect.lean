import NetSim.Aodv.RouteOp

/-!
# What an event does to the route table

`routeOps` names, for each event, the operations of its handler on the route table; no handler
touches the table or its timers in another way (`handle_routeEffect`).
-/

namespace NetSim.Aodv

open NetSim.Lib

/-! ## Usable routes -/

variable {ip : IPAddress} {v : DeviceVar}

theorem checkRouteFound_iff {c : Curr} :
    checkRouteFound c ip v = true ↔
      ∃ table ∈ v.routeTable, table.destinationIPAddress = ip ∧ c.dEventTime < table.lifetime := by
  simp [checkRouteFound]

theorem exists_of_checkRouteFound {c : Curr}
    (h : checkRouteFound c ip v = true) : ∃ table, findRouteTable v.routeTable ip = some table := by
  obtain ⟨table, hmem, hip, -⟩ := checkRouteFound_iff.1 h
  cases hfind : findRouteTable v.routeTable ip with
  | none => exact absurd hip (lookup_eq_none.1 hfind table hmem)
  | some table => exact ⟨table, rfl⟩

theorem checkRouteFound_eq {c : Curr} (hl : OnePerDestination v.routeTable) :
    checkRouteFound c ip v =
      (findRouteTable v.routeTable ip).any fun table => decide (c.dEventTime < table.lifetime) := by
  rw [Bool.eq_iff_iff, checkRouteFound_iff, Option.any_eq_true]
  constructor
  · rintro ⟨table, hmem, hip, hlt⟩
    exact ⟨table, (lookup_iff_mem hl).2 ⟨hmem, hip⟩, by simpa using hlt⟩
  · rintro ⟨table, hfind, hlt⟩
    obtain ⟨hmem, hip⟩ := lookup_some hfind
    exact ⟨table, hmem, hip, by simpa using hlt⟩

variable {packet : Packet}

theorem generalPacketProcessing_found {c : Curr} {s : Sim} {table : RouteTable}
    (hroute : checkRouteFound c packet.szDestIP s.devVar = true)
    (hfind : findRouteTable s.devVar.routeTable packet.szDestIP = some table) :
    generalPacketProcessing c packet s =
      { s.applyOp c (.extend packet.szDestIP (c.dEventTime + aodvActiveRouteTimeout)) with
        pPacket := some { packet with
          nTransmitterId := c.ip
          nReceiverId := some table.nextHop
          szNextHopIp := some table.nextHop
          nTTL := .ofNat aodvNetDiameter } } := by
  unfold generalPacketProcessing findNextHop
  rw [hroute, hfind, updateRouteTable_eq c]
  rfl

theorem generalPacketProcessing_notFound {c : Curr} (s : Sim)
    (hroute : checkRouteFound c packet.szDestIP s.devVar = false) :
    generalPacketProcessing c packet s =
      let (fifo, rreqSent) := addToFIFOBuffer packet c.dEventTime s.devVar.fifo
      let s := s.modifyVar fun v => { v with fifo := fifo }
      if rreqSent then { s with pPacket := none } else generateRREQ c packet.szDestIP s := by
  unfold generalPacketProcessing
  rw [hroute]

/-! ## The cases of `ProcessRREQ` -/

/-- Whether the node may answer the RREQ for its destination. -/
def mayAnswer (c : Curr) (rreq : RREQ) (v : DeviceVar) : Bool :=
  checkRouteFound c rreq.destinationIPAddress v && !rreq.destinationOnly

/-- What `ProcessRREQ` does with an RREQ, once the reverse route is in (state `t`). -/
inductive RREQCase (c : Curr) (rreq : RREQ) (t : Sim) : Sim → Prop
  | destination (hdest : c.ip = rreq.destinationIPAddress) :
    RREQCase c rreq t { generateRREP c rreq t with pPacket := none }
  | congested (hdest : c.ip ≠ rreq.destinationIPAddress)
      (hcongested : 25 < devCounter t.devVar.ncounter) :
    RREQCase c rreq t { t with pPacket := none }
  | intermediate (table : RouteTable) (hdest : c.ip ≠ rreq.destinationIPAddress)
      (hcongested : devCounter t.devVar.ncounter ≤ 25) (hanswer : mayAnswer c rreq t.devVar = true)
      (hfind : findRouteTable t.devVar.routeTable rreq.destinationIPAddress = some table)
      (hnext : table.nextHop ≠ rreq.lastAddress) :
    RREQCase c rreq t { t.addEvent c.dEventTime <| .networkOut <|
      generateCtrlPacket c.ip (some rreq.originatorIPAddress) (some rreq.lastAddress)
        (.ofNat aodvNetDiameter) (.rrep (intermediateRREP c rreq table t)) with pPacket := none }
  | forwardedTwice (table : RouteTable) (s' s'' : Sim) (hdest : c.ip ≠ rreq.destinationIPAddress)
      (hcongested : devCounter t.devVar.ncounter ≤ 25) (hanswer : mayAnswer c rreq t.devVar = true)
      (hfind : findRouteTable t.devVar.routeTable rreq.destinationIPAddress = some table)
      (hnext : table.nextHop = rreq.lastAddress)
      (hfirst : forwardRREQ c t = some s') (hsecond : forwardRREQ c s' = some s'') :
    RREQCase c rreq t s''
  | noRoute (hdest : c.ip ≠ rreq.destinationIPAddress)
      (hcongested : devCounter t.devVar.ncounter ≤ 25) (hanswer : mayAnswer c rreq t.devVar = false) :
    RREQCase c rreq t t

variable {rreq : RREQ}

theorem processRREQ_seen {c : Curr} {s : Sim} (hseen : checkRREQSeenTable s.devVar rreq = true) :
    processRREQ c rreq s = some { s with pPacket := none } := by
  unfold processRREQ
  rw [if_pos hseen]

theorem processRREQ_cases {c : Curr} {s s' : Sim}
    (hseen : checkRREQSeenTable s.devVar rreq = false) (h : processRREQ c rreq s = some s') :
    RREQCase c rreq (acceptRREQ c rreq s) s' := by
  unfold processRREQ at h
  rw [if_neg (by simp [hseen])] at h
  generalize acceptRREQ c rreq s = t at h ⊢
  simp only at h
  split at h
  · next hdest =>
    rw [← Option.some.inj h]
    exact .destination hdest
  · next hdest =>
    split at h
    · next hcongested =>
      rw [← Option.some.inj h]
      exact .congested hdest hcongested
    · next hcongested =>
      have hcongested := le_of_not_gt hcongested
      split at h
      · next hanswer =>
        obtain ⟨table, hfind⟩ := exists_of_checkRouteFound (Bool.and_eq_true_iff.1 hanswer).1
        unfold generateRREPByIntermediate at h
        rw [hfind] at h
        simp only at h
        split at h
        · cases h
        · next hrep =>
          split at hrep
          · cases hf : forwardRREQ c t <;> simp [hf] at hrep
          · next hnext =>
            rw [← Option.some.inj h]
            simp only [Option.some.injEq, Prod.mk.injEq] at hrep
            rw [← hrep.1]
            exact .intermediate table hdest hcongested hanswer hfind hnext
        · next hrep =>
          split at hrep
          · next hnext =>
            obtain ⟨s1, hfirst, hs1⟩ := Option.map_eq_some_iff.1 hrep
            simp only [Prod.mk.injEq, and_true] at hs1
            subst hs1
            exact .forwardedTwice table s1 s' hdest hcongested hanswer hfind hnext hfirst h
          · simp at hrep
      · next hanswer =>
        rw [← Option.some.inj h]
        exact .noRoute hdest hcongested (by simpa [mayAnswer] using hanswer)

/-! ## Operations of an event -/

def reverseRoute (c : Curr) (rreq : RREQ) : RouteOp :=
  .insert rreq.originatorIPAddress rreq.originatorSequenceNumber rreq.hopCount.toUInt32
    rreq.lastAddress
    (c.dEventTime + 2 * aodvNetTraversalTime - 2 * rreq.hopCount.toNat * aodvNodeTraversalTime)

def forwardRoute (c : Curr) (rrep : RREP) : RouteOp :=
  .insert rrep.destinationIPaddress rrep.destinationSequenceNumber rrep.hopCount.toUInt32
    rrep.lastAddress (c.dEventTime + aodvActiveRouteTimeout)

/-- The operations of `NETWORK_OUT_EVENT`. -/
def outOps (c : Curr) (v : DeviceVar) (packet : Packet) : List RouteOp :=
  if packet.szNextHopIp.isNone && !packet.isControl && checkRouteFound c packet.szDestIP v then
    [.extend packet.szDestIP (c.dEventTime + aodvActiveRouteTimeout)]
  else []

/-- The operations of `NETWORK_IN_EVENT`. -/
def inOps (c : Curr) (v : DeviceVar) (packet : Packet) : List RouteOp :=
  match packet.payload with
  | .rreq rreq => if checkRREQSeenTable v rreq then [] else [reverseRoute c rreq]
  | .rrep rrep =>
    if rrep.destinationIPaddress = c.ip then []
    else [forwardRoute c rrep, .extend rrep.lastAddress rrep.lifetime.toNat]
  | .rerr rerr => [.invalidate (·.brokenBy packet.szSourceIP rerr)]
  | .data _ =>
    let lifetime := c.dEventTime + aodvActiveRouteTimeout
    if packet.szDestIP = c.ip then [.extend packet.szSourceIP lifetime]
    else [.extend packet.szDestIP lifetime, .extend packet.szSourceIP lifetime]

def routeOps (c : Curr) (v : DeviceVar) : NodeAction → List RouteOp
  | .fire ⟨_, .networkOut packet⟩ => outOps c v packet
  | .fire ⟨_, .activeRouteTimeout dest⟩ => [.expire dest]
  | .fire ⟨_, .rreqTimeout _⟩ => []
  | .fire ⟨_, .transmitHello⟩ => []
  | .dataOut packet => outOps c v packet
  | .networkIn packet => inOps c v packet
  | .dropNotification nextHop =>
    if 10 < v.nRerrCount then [.invalidate fun table => table.nextHop = nextHop] else []

def tableAfter (c : Curr) : List RouteTable → List RouteOp → List RouteTable
  | l, [] => l
  | l, op :: ops => tableAfter c (op.table c l) ops

def timersOf (c : Curr) : List RouteTable → List RouteOp → List EventDetails
  | _, [] => []
  | l, op :: ops => op.timers c l ++ timersOf c (op.table c l) ops

/-- The route table and the `ACTIVE_ROUTE_TIMEOUT` events have changed by some operations, and in no
other way. -/
structure RouteEffect (c : Curr) (ops : List RouteOp) (s s' : Sim) : Prop where
  table : s'.devVar.routeTable = tableAfter c s.devVar.routeTable ops
  timers : ∀ dest, timeouts dest s'.added =
    timeouts dest s.added ++ timeouts dest (timersOf c s.devVar.routeTable ops)

namespace RouteEffect

variable {c : Curr} {ops ops' : List RouteOp} {s s' s'' : Sim}

theorem same (htable : s'.devVar.routeTable = s.devVar.routeTable)
    (hadded : ∀ dest, timeouts dest s'.added = timeouts dest s.added) : RouteEffect c [] s s' :=
  ⟨htable, fun dest => by simp [timersOf, hadded dest]⟩

theorem refl (s : Sim) : RouteEffect c [] s s := same rfl fun _ => rfl

theorem applyOp (op : RouteOp) (s : Sim) : RouteEffect c [op] s (s.applyOp c op) :=
  ⟨rfl, fun dest => by simp [timersOf]⟩

theorem snoc (h : RouteEffect c ops s s') (op : RouteOp)
    (htable : s''.devVar.routeTable = op.table c s'.devVar.routeTable)
    (hadded : ∀ dest, timeouts dest s''.added =
      timeouts dest s'.added ++ timeouts dest (op.timers c s'.devVar.routeTable)) :
    RouteEffect c (ops ++ [op]) s s'' := by
  obtain ⟨htable', hadded'⟩ := h
  have happ : ∀ (l : List RouteTable) (ops : List RouteOp),
      tableAfter c l (ops ++ [op]) = op.table c (tableAfter c l ops) ∧
        timersOf c l (ops ++ [op]) = timersOf c l ops ++ op.timers c (tableAfter c l ops) := by
    intro l ops
    induction ops generalizing l with
    | nil => simp [tableAfter, timersOf]
    | cons op' ops ih => simp [tableAfter, timersOf, ih]
  refine ⟨?_, fun dest => ?_⟩
  · rw [htable, htable', (happ _ _).1]
  · rw [hadded, hadded', (happ _ _).2, timeouts_append, ← htable', List.append_assoc]

theorem congr (h : RouteEffect c ops s s') (htable : s''.devVar.routeTable = s'.devVar.routeTable)
    (hadded : ∀ dest, timeouts dest s''.added = timeouts dest s'.added) : RouteEffect c ops s s'' :=
  ⟨htable.trans h.table, fun dest => (hadded dest).trans (h.timers dest)⟩

end RouteEffect

/-! ## Every handler carries out its operations -/

theorem acceptRREQ_eq (c : Curr) (rreq : RREQ) (s : Sim) :
    acceptRREQ c rreq s =
      (insertInPrecursorsList rreq.lastAddress (insertInRREQSeenTable rreq.originatorIPAddress
        rreq.rreqId c.dEventTime s)).applyOp c (reverseRoute c rreq) := by
  unfold acceptRREQ reverseRoute
  rw [insertInRouteTable_eq]

theorem forwardRREQ_devVar {c : Curr} {s s' : Sim} (h : forwardRREQ c s = some s') :
    s'.devVar = s.devVar ∧ s'.nRREQId = s.nRREQId ∧ s'.added = s.added := by
  unfold forwardRREQ at h
  split at h
  · split at h
    · split at h
      · rw [← Option.some.inj h]
        exact ⟨rfl, rfl, rfl⟩
      · rw [← Option.some.inj h]
        exact ⟨rfl, rfl, rfl⟩
    · cases h
  · cases h

theorem RREQCase.routeEffect {c : Curr} {t s' : Sim} (h : RREQCase c rreq t s') :
    s'.devVar.routeTable = t.devVar.routeTable ∧
      ∀ dest, timeouts dest s'.added = timeouts dest t.added := by
  cases h with
  | destination hdest => exact ⟨rfl, fun dest => by simp [generateRREP, timeouts_cons]⟩
  | congested hdest hcongested => exact ⟨rfl, fun _ => rfl⟩
  | intermediate table hdest hcongested hanswer hfind hnext =>
    exact ⟨rfl, fun dest => by simp [timeouts_cons]⟩
  | forwardedTwice table s1 _ hdest hcongested hanswer hfind hnext hfirst hsecond =>
    obtain ⟨hv1, -, ha1⟩ := forwardRREQ_devVar hfirst
    obtain ⟨hv2, -, ha2⟩ := forwardRREQ_devVar hsecond
    exact ⟨by rw [hv2, hv1], fun dest => by rw [ha2, ha1]⟩
  | noRoute hdest hcongested hanswer => exact ⟨rfl, fun _ => rfl⟩

theorem processRREQ_routeEffect {c : Curr} {s s' : Sim} (h : processRREQ c rreq s = some s') :
    RouteEffect c (if checkRREQSeenTable s.devVar rreq then [] else [reverseRoute c rreq]) s s' := by
  cases hseen : checkRREQSeenTable s.devVar rreq with
  | true =>
    rw [processRREQ_seen hseen] at h
    rw [← Option.some.inj h]
    exact .same rfl fun _ => rfl
  | false =>
    obtain ⟨htable, hadded⟩ := (processRREQ_cases hseen h).routeEffect
    have haccept : RouteEffect c [reverseRoute c rreq] s (acceptRREQ c rreq s) := by
      rw [acceptRREQ_eq]
      exact (RouteEffect.refl s).snoc _ rfl fun dest => timeouts_append dest _ _
    exact haccept.congr htable hadded

theorem networkOut_of_mem_flush {c : Curr} {e : EventDetails}
    (h : e ∈ v.fifo.flatMap fun fifo =>
      if checkRouteFound c fifo.destination v then
        fifo.packetList.map fun packet => ⟨c.dEventTime, .networkOut packet⟩
      else []) :
    ∃ fifo ∈ v.fifo, ∃ packet ∈ fifo.packetList, e = ⟨c.dEventTime, .networkOut packet⟩ := by
  obtain ⟨fifo, hfifo, hmem⟩ := List.mem_flatMap.1 h
  split at hmem
  · obtain ⟨packet, hpacket, heq⟩ := List.mem_map.1 hmem
    exact ⟨fifo, hfifo, packet, hpacket, heq.symm⟩
  · cases hmem

theorem filterMap_transmitFIFOBuffer {α : Type} {f : EventDetails → Option α}
    (hf : ∀ t packet, f ⟨t, .networkOut packet⟩ = none) (c : Curr) (s : Sim) :
    (transmitFIFOBuffer c s).added.filterMap f = s.added.filterMap f := by
  unfold transmitFIFOBuffer
  rw [List.filterMap_append, List.append_right_eq_self, List.filterMap_eq_nil_iff]
  intro e he
  obtain ⟨fifo, -, packet, -, rfl⟩ := networkOut_of_mem_flush he
  exact hf _ packet

theorem timeouts_transmitFIFOBuffer (c : Curr) (s : Sim) (dest : IPAddress) :
    timeouts dest (transmitFIFOBuffer c s).added = timeouts dest s.added :=
  filterMap_transmitFIFOBuffer (fun _ _ => rfl) c s

theorem forwardRREP_devVar (c : Curr) (packet : Packet) (rrep : RREP) (s : Sim) :
    (forwardRREP c packet rrep s).devVar = s.devVar ∧
      (forwardRREP c packet rrep s).nRREQId = s.nRREQId ∧
      (forwardRREP c packet rrep s).added = s.added := by
  unfold forwardRREP
  split
  · split <;> exact ⟨rfl, rfl, rfl⟩
  · exact ⟨rfl, rfl, rfl⟩

/-- `ProcessRREP` up to the choice between delivering and forwarding. -/
def acceptRREP (c : Curr) (rrep : RREP) (s : Sim) : Sim :=
  (insertInPrecursorsList rrep.lastAddress (transmitFIFOBuffer c
    ((countCongestion rrep s).applyOp c (forwardRoute c rrep)))).applyOp c
      (.extend rrep.lastAddress rrep.lifetime.toNat)

theorem processRREP_eq (c : Curr) (packet : Packet) (rrep : RREP) (s : Sim) :
    processRREP c packet rrep s =
      if rrep.destinationIPaddress = c.ip then s
      else if c.ip = rrep.originatorIPaddress then
        { deleteRREQSentTable rrep.destinationIPaddress (acceptRREP c rrep s) with pPacket := none }
      else forwardRREP c packet rrep (acceptRREP c rrep s) := by
  unfold processRREP acceptRREP forwardRoute
  simp only [insertInRouteTable_eq, updateRouteTable_eq c]

theorem countCongestion_routeTable (rrep : RREP) (s : Sim) :
    (countCongestion rrep s).devVar.routeTable = s.devVar.routeTable ∧
      (countCongestion rrep s).added = s.added := by
  unfold countCongestion
  split <;> exact ⟨rfl, rfl⟩

theorem acceptRREP_routeEffect (c : Curr) (rrep : RREP) (s : Sim) :
    RouteEffect c [forwardRoute c rrep, .extend rrep.lastAddress rrep.lifetime.toNat] s
      (acceptRREP c rrep s) := by
  obtain ⟨htable, hadded⟩ := countCongestion_routeTable rrep s
  have hcount : RouteEffect c [] s (countCongestion rrep s) :=
    .same htable fun dest => by rw [hadded]
  have hinsert : RouteEffect c [forwardRoute c rrep] s
      (insertInPrecursorsList rrep.lastAddress (transmitFIFOBuffer c
        ((countCongestion rrep s).applyOp c (forwardRoute c rrep)))) :=
    hcount.snoc (forwardRoute c rrep) rfl fun dest => by
      simp [insertInPrecursorsList, timeouts_transmitFIFOBuffer]
  exact hinsert.snoc _ rfl fun dest => by simp [acceptRREP]

theorem processRREP_routeEffect (c : Curr) (packet : Packet) (rrep : RREP) (s : Sim) :
    RouteEffect c
      (if rrep.destinationIPaddress = c.ip then []
        else [forwardRoute c rrep, .extend rrep.lastAddress rrep.lifetime.toNat]) s
      (processRREP c packet rrep s) := by
  rw [processRREP_eq]
  split
  · exact .refl s
  · split
    · exact (acceptRREP_routeEffect c rrep s).congr rfl fun _ => rfl
    · obtain ⟨hv, -, ha⟩ := forwardRREP_devVar c packet rrep (acceptRREP c rrep s)
      exact (acceptRREP_routeEffect c rrep s).congr (by rw [hv]) fun dest => by rw [ha]

theorem processRERR_routeEffect (c : Curr) (packet : Packet) (rerr : RERR) (s : Sim) :
    RouteEffect c [.invalidate (·.brokenBy packet.szSourceIP rerr)] s
      (processRERR c packet rerr s) := by
  unfold processRERR
  refine (RouteEffect.refl s).snoc _ ?_ fun dest => ?_
  · simp only
    split <;> rfl
  · simp only
    split <;> simp [RouteOp.timers]

theorem networkInEvent_routeEffect {c : Curr} {s s' : Sim}
    (h : networkInEvent c packet s = some s') : RouteEffect c (inOps c s.devVar packet) s s' := by
  unfold networkInEvent at h
  have hpacket : RouteEffect c [] s { s with pPacket := some packet } := .same rfl fun _ => rfl
  unfold inOps
  cases hp : packet.payload with
  | rreq rreq =>
    simp only [hp] at h
    obtain ⟨htable, htimers⟩ := processRREQ_routeEffect h
    exact ⟨htable, htimers⟩
  | rrep rrep =>
    simp only [hp, Option.some.injEq] at h
    rw [← h]
    obtain ⟨htable, htimers⟩ :=
      processRREP_routeEffect c packet rrep { s with pPacket := some packet }
    exact ⟨htable, htimers⟩
  | rerr rerr =>
    simp only [hp, Option.some.injEq] at h
    rw [← h]
    obtain ⟨htable, htimers⟩ :=
      processRERR_routeEffect c packet rerr { s with pPacket := some packet }
    exact ⟨htable, htimers⟩
  | data nPacketId =>
    simp only [hp, Option.some.injEq] at h
    split at h
    · next hdest =>
      rw [← h, if_pos hdest, updateRouteTable_eq c]
      exact hpacket.snoc _ rfl fun dest => timeouts_append dest _ _
    · next hdest =>
      rw [← h, if_neg hdest, updateRouteTable_eq c, updateRouteTable_eq c]
      exact (hpacket.snoc (.extend packet.szDestIP _) rfl
        fun dest => timeouts_append dest _ _).snoc _ rfl fun dest => timeouts_append dest _ _

theorem retryRREQ_routeEffect (c : Curr) (dest : IPAddress) (s : Sim) :
    RouteEffect c [] s (retryRREQ c dest s) := by
  unfold retryRREQ
  split
  · exact .refl s
  · split
    · exact .refl s
    · split
      · exact .same rfl fun _ => rfl
      · refine .same rfl fun dest' => ?_
        simp [interstInRREQSentTable, addTimeOut, countRREQ, insertInRREQSeenTable, timeouts_cons]

theorem generateRREQ_routeEffect (c : Curr) (dest : IPAddress) (s : Sim) :
    RouteEffect c [] s (generateRREQ c dest s) := by
  refine .same rfl fun dest' => ?_
  simp [generateRREQ, interstInRREQSentTable, addTimeOut, countRREQ, insertInRREQSeenTable,
    timeouts_cons]

theorem transmitHelloMessage_routeEffect (c : Curr) (s : Sim) :
    RouteEffect c [] s (transmitHelloMessage c s) := by
  unfold transmitHelloMessage
  simp only
  split
  · exact .same rfl fun dest => by simp [timeouts_cons]
  · split
    · exact .same rfl fun dest => by simp [timeouts_cons]
    · exact .same rfl fun dest => by simp [timeouts_cons]

theorem transmitIfAlive_devVar (c : Curr) (s : Sim) :
    ((transmitIfAlive c s).devVar = s.devVar ∨
        (transmitIfAlive c s).devVar = { s.devVar with dLastBroadcastTime := c.dEventTime }) ∧
      (transmitIfAlive c s).nRREQId = s.nRREQId ∧ (transmitIfAlive c s).added = s.added := by
  unfold transmitIfAlive
  split
  · split
    · split
      · exact ⟨Or.inr rfl, rfl, rfl⟩
      · exact ⟨Or.inl rfl, rfl, rfl⟩
    · exact ⟨Or.inl rfl, rfl, rfl⟩
  · exact ⟨Or.inl rfl, rfl, rfl⟩

theorem transmitIfAlive_routeTable (c : Curr) (s : Sim) :
    (transmitIfAlive c s).devVar.routeTable = s.devVar.routeTable := by
  rcases (transmitIfAlive_devVar c s).1 with h | h <;> rw [h]

theorem networkOutEvent_routeEffect (c : Curr) (packet : Packet) (s : Sim) :
    RouteEffect c (outOps c s.devVar packet) s (networkOutEvent c packet s) := by
  unfold networkOutEvent outOps
  cases hnext : packet.szNextHopIp with
  | some nextHop => exact .same rfl fun _ => rfl
  | none =>
    cases hcontrol : packet.isControl with
    | true =>
      let t : Sim := { s with
        pPacket := some { packet with szNextHopIp := some (getDevIP packet.nReceiverId) } }
      exact .same (transmitIfAlive_routeTable c t) fun dest =>
        congrArg (timeouts dest) (transmitIfAlive_devVar c t).2.2
    | false =>
      have halive : ∀ {ops : List RouteOp} {s' : Sim}, RouteEffect c ops s s' →
          RouteEffect c ops s (transmitIfAlive c s') := fun h =>
        h.congr (transmitIfAlive_routeTable c _) fun dest =>
          congrArg (timeouts dest) (transmitIfAlive_devVar c _).2.2
      cases hroute : checkRouteFound c packet.szDestIP s.devVar with
      | true =>
        obtain ⟨table, hfind⟩ := exists_of_checkRouteFound hroute
        apply halive
        rw [generalPacketProcessing_found hroute hfind]
        exact (RouteEffect.applyOp _ s).congr rfl fun _ => rfl
      | false =>
        apply halive
        rw [generalPacketProcessing_notFound s hroute]
        cases haddTo : addToFIFOBuffer packet c.dEventTime s.devVar.fifo with
        | mk fifo rreqSent =>
          cases rreqSent with
          | true => exact .same rfl fun _ => rfl
          | false =>
            obtain ⟨htable, hadded⟩ := generateRREQ_routeEffect c packet.szDestIP
              (s.modifyVar fun v => { v with fifo := fifo })
            exact ⟨htable, hadded⟩

theorem packetDropNotification_routeEffect {c : Curr} {nextHop : IPAddress} {s s' : Sim}
    (h : packetDropNotification c nextHop s = some s') :
    RouteEffect c (if 10 < s.devVar.nRerrCount then
      [.invalidate fun table => table.nextHop = nextHop] else []) s s' := by
  unfold packetDropNotification at h
  split at h
  · next hcount =>
    obtain ⟨s1, hs1, rfl⟩ := Option.map_eq_some_iff.1 h
    unfold generateRERR at hs1
    split at hs1
    · cases hs1
    · rw [← Option.some.inj hs1, if_pos hcount]
      refine (RouteEffect.refl s).snoc _ ?_ fun dest => ?_
      · split <;> simp [RouteOp.table]
      · split <;> simp [RouteOp.timers, timeouts_cons]
  · next hcount =>
    rw [← Option.some.inj h, if_neg hcount]
    exact .same rfl fun _ => rfl

theorem filterMap_afterIn {α : Type} {f : EventDetails → Option α}
    (hf : ∀ t packet, f ⟨t, .networkOut packet⟩ = none) (c : Curr) (s : Sim) :
    (s.afterIn c).added.filterMap f = s.added.filterMap f := by
  unfold Sim.afterIn
  cases s.pPacket with
  | none => simp only [List.append_nil]
  | some packet =>
    rw [List.filterMap_append, List.append_right_eq_self, List.filterMap_eq_nil_iff]
    intro e he
    rw [List.eq_of_mem_replicate he]
    exact hf _ packet

theorem timeouts_afterIn (c : Curr) (s : Sim) (dest : IPAddress) :
    timeouts dest (s.afterIn c).added = timeouts dest s.added :=
  filterMap_afterIn (fun _ _ => rfl) c s

variable {nRREQId : UInt32} {a : NodeAction}

theorem handle_routeEffect {c : Curr} {o : Outcome} (h : handle c nRREQId v a = some o) :
    o.devVar.routeTable = tableAfter c v.routeTable (routeOps c v a) ∧
      ∀ dest, timeouts dest o.added = timeouts dest (timersOf c v.routeTable (routeOps c v a)) := by
  have hout : ∀ {s' : Sim} {ops : List RouteOp}, RouteEffect c ops (.start nRREQId v) s' →
      (s'.afterOut c).devVar.routeTable = tableAfter c v.routeTable ops ∧
        ∀ dest, timeouts dest (s'.afterOut c).added =
          timeouts dest (timersOf c v.routeTable ops) := fun h =>
    ⟨h.table, fun dest => (h.timers dest).trans (List.nil_append _)⟩
  have hin : ∀ {s' : Sim} {ops : List RouteOp}, RouteEffect c ops (.start nRREQId v) s' →
      (s'.afterIn c).devVar.routeTable = tableAfter c v.routeTable ops ∧
        ∀ dest, timeouts dest (s'.afterIn c).added =
          timeouts dest (timersOf c v.routeTable ops) := fun h =>
    ⟨h.table, fun dest =>
      (timeouts_afterIn c _ dest).trans ((h.timers dest).trans (List.nil_append _))⟩
  cases a with
  | fire e =>
    obtain ⟨time, subEvent⟩ := e
    cases subEvent with
    | networkOut packet =>
      rw [← Option.some.inj h]
      exact hout (networkOutEvent_routeEffect c packet (.start nRREQId v))
    | rreqTimeout dest =>
      rw [← Option.some.inj h]
      exact hin (retryRREQ_routeEffect c dest _)
    | transmitHello =>
      rw [← Option.some.inj h]
      exact hin (transmitHelloMessage_routeEffect c _)
    | activeRouteTimeout dest =>
      rw [← Option.some.inj h, activeRouteTimeout_eq]
      exact hin ((RouteEffect.applyOp _ _).congr rfl fun _ => rfl)
  | dataOut packet =>
    rw [← Option.some.inj h]
    exact hout (networkOutEvent_routeEffect c packet (.start nRREQId v))
  | networkIn packet =>
    obtain ⟨s', hs', rfl⟩ := Option.map_eq_some_iff.1 h
    exact hin (networkInEvent_routeEffect hs')
  | dropNotification nextHop =>
    obtain ⟨s', hs', rfl⟩ := Option.map_eq_some_iff.1 h
    exact hin (packetDropNotification_routeEffect hs')

/-! ## The entry for one destination -/

/-- The entry for `dest` after some operations. -/
def entryAfter (c : Curr) (dest : IPAddress) : Option RouteTable → List RouteOp → Option RouteTable
  | e, [] => e
  | e, op :: ops => entryAfter c dest (op.entry c dest e) ops

theorem entry_isSome (c : Curr) (dest : IPAddress) {op : RouteOp} (hop : ∀ d, op ≠ .expire d)
    (table : RouteTable) : ∃ table', op.entry c dest (some table) = some table' := by
  cases op with
  | insert ip seqNumber hopCount nextHop lifeTime =>
    simp only [RouteOp.entry]
    split <;> exact ⟨_, rfl⟩
  | extend ip lifetime => exact ⟨_, rfl⟩
  | invalidate broken => exact ⟨_, rfl⟩
  | expire d => exact absurd rfl (hop d)

theorem onePerDestination_tableAfter {c : Curr} {l : List RouteTable} (hl : OnePerDestination l)
    (ops : List RouteOp) : OnePerDestination (tableAfter c l ops) := by
  induction ops generalizing l with
  | nil => exact hl
  | cons op ops ih => exact ih (hl.table op)

theorem findRouteTable_tableAfter {c : Curr} {l : List RouteTable} (hl : OnePerDestination l)
    (dest : IPAddress) (ops : List RouteOp) :
    findRouteTable (tableAfter c l ops) dest = entryAfter c dest (findRouteTable l dest) ops := by
  induction ops generalizing l with
  | nil => rfl
  | cons op ops ih =>
    unfold tableAfter entryAfter
    rw [ih (hl.table op), findRouteTable_table op hl]

theorem handle_onePerDestination {c : Curr}
    {o : Outcome} (h : handle c nRREQId v a = some o) (hl : OnePerDestination v.routeTable) :
    OnePerDestination o.devVar.routeTable := by
  rw [(handle_routeEffect h).1]
  exact onePerDestination_tableAfter hl _

theorem handle_entry {c : Curr}
    {o : Outcome} (h : handle c nRREQId v a = some o) (hl : OnePerDestination v.routeTable)
    (dest : IPAddress) :
    findRouteTable o.devVar.routeTable dest =
      entryAfter c dest (findRouteTable v.routeTable dest) (routeOps c v a) := by
  rw [(handle_routeEffect h).1]
  exact findRouteTable_tableAfter hl dest _

theorem insert_mem_routeOps {c : Curr} {nextHop : IPAddress}
    {seqNumber hopCount : UInt32} {lifeTime : Time}
    (h : RouteOp.insert ip seqNumber hopCount nextHop lifeTime ∈ routeOps c v a) :
    ∃ packet, a = .networkIn packet ∧
      ((∃ rreq, packet.payload = .rreq rreq ∧ checkRREQSeenTable v rreq = false ∧
          reverseRoute c rreq = .insert ip seqNumber hopCount nextHop lifeTime) ∨
        ∃ rrep, packet.payload = .rrep rrep ∧ rrep.destinationIPaddress ≠ c.ip ∧
          forwardRoute c rrep = .insert ip seqNumber hopCount nextHop lifeTime) := by
  have hout : ∀ packet, RouteOp.insert ip seqNumber hopCount nextHop lifeTime ∉
      outOps c v packet := by
    intro packet h
    unfold outOps at h
    split at h <;> simp at h
  cases a with
  | fire e =>
    obtain ⟨time, subEvent⟩ := e
    cases subEvent with
    | networkOut packet => exact absurd h (hout packet)
    | rreqTimeout dest => simp [routeOps] at h
    | transmitHello => simp [routeOps] at h
    | activeRouteTimeout dest => simp [routeOps] at h
  | dataOut packet => exact absurd h (hout packet)
  | networkIn packet =>
    refine ⟨packet, rfl, ?_⟩
    simp only [routeOps, inOps] at h
    cases hp : packet.payload with
    | rreq rreq =>
      simp only [hp] at h
      split at h
      · simp at h
      · next hseen =>
        exact Or.inl ⟨rreq, rfl, by simpa using hseen, (List.mem_singleton.1 h).symm⟩
    | rrep rrep =>
      simp only [hp] at h
      split at h
      · simp at h
      · next hdest =>
        refine Or.inr ⟨rrep, rfl, hdest, ?_⟩
        simpa [eq_comm] using h
    | rerr rerr => simp [hp] at h
    | data nPacketId =>
      simp only [hp] at h
      split at h <;> simp at h
  | dropNotification nextHop' =>
    simp only [routeOps] at h
    split at h <;> simp at h

theorem expire_mem_routeOps {c : Curr} {dest : IPAddress}
    (h : RouteOp.expire dest ∈ routeOps c v a) :
    ∃ time, a = .fire ⟨time, .activeRouteTimeout dest⟩ := by
  have hout : ∀ packet, RouteOp.expire dest ∉ outOps c v packet := by
    intro packet h
    unfold outOps at h
    split at h <;> simp at h
  cases a with
  | fire e =>
    obtain ⟨time, subEvent⟩ := e
    cases subEvent with
    | networkOut packet => exact absurd h (hout packet)
    | rreqTimeout dest => simp [routeOps] at h
    | transmitHello => simp [routeOps] at h
    | activeRouteTimeout dest' =>
      simp only [routeOps, List.mem_singleton, RouteOp.expire.injEq] at h
      exact ⟨time, by rw [h]⟩
  | dataOut packet => exact absurd h (hout packet)
  | networkIn packet =>
    simp only [routeOps, inOps] at h
    split at h
    · split at h <;> simp [reverseRoute] at h
    · split at h <;> simp [forwardRoute] at h
    · simp at h
    · split at h <;> simp at h
  | dropNotification nextHop =>
    simp only [routeOps] at h
    split at h <;> simp at h

end NetSim.Aodv
