import NetSim.Lib.Run
import NetSim.Ospf.LsUpdate

/-!
# Link-state requests to one neighbour (`OSPF_LSREQ.c`, `OSPF_LSUPDATE.c`, `OSPF_Neighbor.c`)

The request list of a neighbour from the end of the exchange on. Floods take items off the list; the
end of an LS update and the retransmission timer send requests. The time of an item is left out.
-/

namespace NetSim.Ospf

open NetSim.Lib

/-! ## The list -/

def Neighbor.insertToList (neigh : Neighbor) (lsHdr : Lsa) : Neighbor :=
  if (neigh.searchFromList lsHdr).isSome then neigh
  else
    { neigh with
      neighLSReqList := neigh.neighLSReqList ++ [⟨neigh.LSReqTimerSequenceNumber, lsHdr.hdrCopy⟩] }

/-- `ospf_lsreq_isRequestedLSAReceived` reads the head of the list as an `LSAHDR`: `word` is what
memory holds at `LSSequenceNumber`. -/
def Neighbor.isRequestedLSAReceived (neigh : Neighbor) (word : UInt32) : Bool :=
  if word = neigh.LSReqTimerSequenceNumber then false else true

def LsReqItem.obj (item : LsReqItem) : LsReqObj :=
  ⟨item.lsHdr.LSType, item.lsHdr.LinkStateID, item.lsHdr.AdvertisingRouter⟩

/-- The number of objects that fit into a request, the `maxLSReqObject` of `ospf_lsreq_send`. -/
def Config.maxLSReqObject (cfg : Config) : Nat := (cfg.maxIpPayload - packetHdrLen) / lsReqLenSingle

/-! ## The requests -/

/-- A neighbour, the numbers of the pending request timers for it, and the requests sent to it, the
latest first. -/
structure Requesting where
  neigh : Neighbor
  rxmtTimers : List UInt32
  requests : List (List LsReqObj)
deriving DecidableEq

namespace Requesting

variable (cfg : Config)

def lsreqSend (s : Requesting) (retx : Bool) : Requesting :=
  let (objs, list) := lsReqObjects s.neigh.LSReqTimerSequenceNumber retx cfg.maxLSReqObject
    s.neigh.neighLSReqList
  let rxmtSeqNum := s.neigh.LSReqTimerSequenceNumber + 1
  { neigh := { s.neigh with neighLSReqList := list, LSReqTimerSequenceNumber := rxmtSeqNum }
    rxmtTimers := rxmtSeqNum :: s.rxmtTimers
    requests := objs :: s.requests }

def lsreqRetransmit (s : Requesting) (seqNum : UInt32) : Requesting :=
  if s.neigh.neighLSReqList.any fun item => item.seqNum == seqNum then s.lsreqSend cfg true else s

def rxmtTimer (s : Requesting) (seqNum : UInt32) : Requesting :=
  if s.neigh.LSReqTimerSequenceNumber ≠ seqNum then s
  else if s.neigh.neighLSReqList.isEmpty then s
  else s.lsreqRetransmit cfg seqNum

/-- `ospf_neighbor_handle_exchangeDone_event`. -/
def exchangeDone (s : Requesting) : Requesting :=
  if s.neigh.state ≠ .exchange then s
  else if s.neigh.neighLSReqList.isEmpty then { s with neigh := { s.neigh with state := .full } }
  else { s with neigh := { s.neigh with state := .loading } }.lsreqSend cfg false

/-- `ospf_neighbor_handle_LoadingDoneEvent`. -/
def loadingDone (s : Requesting) : Requesting :=
  if s.neigh.state = .loading then { s with neigh := { s.neigh with state := .full } } else s

/-- The end of `ospf_handle_LSUPDATE`, where memory holds `word`. -/
def updateEnd (s : Requesting) (word : UInt32) : Requesting :=
  if !s.neigh.neighLSReqList.isEmpty then
    if s.neigh.isRequestedLSAReceived word then s.lsreqSend cfg false else s
  else
    loadingDone
      { s with
        neigh := { s.neigh with
          LSReqTimerSequenceNumber := s.neigh.LSReqTimerSequenceNumber + 1 } }

/-- What `ospf_lsa_flood` does to the neighbour. -/
def flood (s : Requesting) (lsa : Lsa) (srcAddr : IpPtr) : Requesting :=
  { s with neigh := (s.neigh.floodStep cfg lsa srcAddr).neigh }

inductive Act
  | exchangeDone
  | flood (lsa : Lsa) (srcAddr : IpPtr)
  | updateEnd (word : UInt32)
  | rxmtTimer (seqNum : UInt32)
deriving DecidableEq

/-- `mem` says which words memory may hold where `ospf_lsreq_isRequestedLSAReceived` looks. -/
def step (mem : Requesting → UInt32 → Bool) (s : Requesting) : Act → Option Requesting
  | .exchangeDone => some (s.exchangeDone cfg)
  | .flood lsa srcAddr => some (s.flood cfg lsa srcAddr)
  | .updateEnd word =>
    if s.neigh.state.toNat < NeighState.exchange.toNat then some s
    else if mem s word then some (s.updateEnd cfg word)
    else none
  | .rxmtTimer seqNum =>
    if seqNum ∈ s.rxmtTimers then
      some ({ s with rxmtTimers := s.rxmtTimers.erase seqNum }.rxmtTimer cfg seqNum)
    else none

/-- A neighbour after the event `OSPF_ExchangeDone`, with the headers `lsHdrs`. Old timers may be
pending. -/
def start (neigh : Neighbor) (rxmtTimers : List UInt32) (lsHdrs : List Lsa) : Requesting :=
  exchangeDone cfg
    ⟨lsHdrs.foldl Neighbor.insertToList { neigh with state := .exchange, neighLSReqList := [] },
      rxmtTimers, []⟩

end Requesting

/-! ## The router -/

namespace Router

variable (cfg : Config) (r : Router)

def lsreqRetransmit (thisInterface : Interface) (neigh : Neighbor) (seqNum : UInt32) :
    Option Router :=
  if neigh.neighLSReqList.any fun item => item.seqNum == seqNum then
    r.lsreqSend cfg thisInterface.id neigh.neighborIPAddr true
  else some r

def rxmtRequest (i n : Nat) (seqNum : UInt32) : Option Router := do
  let thisInterface ← r.inter? i
  let neigh ← r.neigh? i n
  if neigh.LSReqTimerSequenceNumber ≠ seqNum then some r
  else if neigh.neighLSReqList.isEmpty then some r
  else r.lsreqRetransmit cfg thisInterface neigh seqNum

def requestTimers (interface : Nat) (neighborIP : Ip) (events : List Event) : List UInt32 :=
  events.filterMap fun
    | .rxmtTimer id nbr seqNum .lsRequest =>
      if id = interface ∧ nbr = neighborIP then some seqNum else none
    | _ => none

def requestsTo (dest : Ip) (sent : List Packet) : List (List LsReqObj) :=
  sent.filterMap fun
    | .lsRequest objs dst => if dst = dest then some objs else none
    | _ => none

/-- The pointers `i` and `n` are what is found by the id and the address, and the router keeps `s`
of the requests. -/
structure Shows (i n interface : Nat) (neighborIP : Ip) (s : Requesting) : Prop where
  ifGet : r.ifGet interface = some i
  inter : ∃ thisInterface, r.inter? i = some thisInterface ∧ thisInterface.id = interface ∧
    thisInterface.neighborFindByIp neighborIP = some n ∧
    s.requests = requestsTo
      (if thisInterface.ifType = .p2mp then cfg.allSPFRouters else neighborIP) r.sent
  neigh : r.neigh? i n = some s.neigh
  address : s.neigh.neighborIPAddr = neighborIP
  timers : s.rxmtTimers = requestTimers interface neighborIP r.events

variable {cfg r} {i n interface : Nat} {neighborIP : Ip} {s : Requesting}

theorem findIdx?_modify {α : Type} {p : α → Bool} {f : α → α} (h : ∀ x, p (f x) = p x) (i : Nat)
    (l : List α) : (l.modify i f).findIdx? p = l.findIdx? p := by
  induction l generalizing i with
  | nil => cases i <;> rfl
  | cons x l ih =>
    cases i with
    | zero => simp [List.findIdx?_cons, h]
    | succ i => simp [List.findIdx?_cons, ih]

namespace Shows

section

variable (h : r.Shows cfg i n interface neighborIP s)

include h

theorem modifyNeigh {f : Neighbor → Neighbor}
    (hid : ∀ neigh, (f neigh).neighborIPAddr = neigh.neighborIPAddr) :
    (r.modifyNeigh i n f).Shows cfg i n interface neighborIP { s with neigh := f s.neigh } := by
  obtain ⟨thisInterface, hi, hinterface, hfind, hrequests⟩ := h.inter
  have hneigh := h.neigh
  simp only [neigh?, hi, Option.bind_some] at hneigh
  simp only [inter?] at hi
  refine ⟨?_, ⟨{ thisInterface with
    neighborRouterList := thisInterface.neighborRouterList.modify n f }, ?_, hinterface, ?_, ?_⟩,
    ?_, (hid _).trans h.address, h.timers⟩
  · have hkeep := findIdx?_modify (p := fun inter : Interface => inter.id == interface)
      (f := fun inter =>
        { inter with neighborRouterList := inter.neighborRouterList.modify n f }) (fun _ => rfl) i
      r.ospfIf
    exact hkeep.trans h.ifGet
  · simp [Router.modifyNeigh, Router.modifyInter, inter?, hi]
  · exact (findIdx?_modify (fun neigh => by rw [hid neigh]) n _).trans hfind
  · exact hrequests
  · simp [Router.modifyNeigh, Router.modifyInter, neigh?, inter?, hi, hneigh]

theorem addTimer (seqNum : UInt32) :
    (r.addEvent (.rxmtTimer interface neighborIP seqNum .lsRequest)).Shows cfg i n interface
      neighborIP { s with rxmtTimers := seqNum :: s.rxmtTimers } :=
  ⟨h.ifGet, h.inter, h.neigh, h.address, by simp [requestTimers, addEvent, h.timers]⟩

theorem addEvent {ev : Event} (hev : requestTimers interface neighborIP [ev] = []) :
    (r.addEvent ev).Shows cfg i n interface neighborIP s := by
  refine ⟨h.ifGet, h.inter, h.neigh, h.address, ?_⟩
  have happend : requestTimers interface neighborIP (ev :: r.events) =
      requestTimers interface neighborIP [ev] ++ requestTimers interface neighborIP r.events :=
    List.filterMap_append (l := [ev])
  rw [Router.addEvent, happend, hev, h.timers, List.nil_append]

theorem sendRequest {thisInterface : Interface}
    (hi : r.inter? i = some thisInterface) (objs : List LsReqObj) :
    (r.send (.lsRequest objs
      (if thisInterface.ifType = .p2mp then cfg.allSPFRouters else neighborIP))).Shows cfg i n
        interface neighborIP { s with requests := objs :: s.requests } := by
  obtain ⟨thisInterface', hi', hinterface, hfind, hrequests⟩ := h.inter
  cases hi.symm.trans hi'
  exact ⟨h.ifGet, ⟨thisInterface, hi, hinterface, hfind, by simp [requestsTo, send, hrequests]⟩,
    h.neigh, h.address, h.timers⟩

theorem sendAck (ackList : List Lsa) (dest : Ip) :
    (r.send (.lsAck ackList dest)).Shows cfg i n interface neighborIP s :=
  ⟨h.ifGet, h.inter, h.neigh, h.address, h.timers⟩

theorem sendDirectAck (ackList : List Lsa) (nbrAddr : Ip) :
    (r.sendDirectAck cfg ackList nbrAddr).Shows cfg i n interface neighborIP s := by
  rw [Router.sendDirectAck]
  generalize ackList.toChunks ((cfg.maxIpPayload - packetHdrLen) / lsaHdrLen) = chunks
  induction chunks generalizing r with
  | nil => exact h
  | cons ackLSA chunks ih => exact ih (h.sendAck ackLSA nbrAddr)

theorem changeFull {current : Nat} {r' : Router}
    (hr : r.changeFull current = some r') : r'.Shows cfg i n interface neighborIP s := by
  obtain ⟨a, _, hr⟩ := Option.bind_eq_some_iff.1 hr
  rw [scheduleRouterLSA] at hr
  split at hr
  · cases hr
  · split at hr <;> cases hr
    · exact h
    · have harea : (r.modifyArea a fun area => { area with isRouterLSTimer := true }).Shows cfg i n
          interface neighborIP s := ⟨h.ifGet, h.inter, h.neigh, h.address, h.timers⟩
      exact harea.addEvent rfl

theorem lsreqSend (retx : Bool) :
    ∃ r', r.lsreqSend cfg interface neighborIP retx = some r' ∧
      r'.Shows cfg i n interface neighborIP (s.lsreqSend cfg retx) := by
  obtain ⟨thisInterface, hi, hinterface, hfind, -⟩ := h.inter
  let found := lsReqObjects s.neigh.LSReqTimerSequenceNumber retx cfg.maxLSReqObject
    s.neigh.neighLSReqList
  have hmodify := h.modifyNeigh (f := fun neigh =>
    { neigh with
      neighLSReqList := found.2,
      LSReqTimerSequenceNumber := s.neigh.LSReqTimerSequenceNumber + 1 }) fun _ => rfl
  obtain ⟨thisInterface', hi', -, -, -⟩ := hmodify.inter
  have htype : thisInterface'.ifType = thisInterface.ifType := by
    simp only [inter?] at hi
    simp only [Router.modifyNeigh, Router.modifyInter, inter?, List.getElem?_modify_eq, hi,
      Option.map_eq_map, Option.map_some, Option.some.injEq] at hi'
    rw [← hi']
  have hsend := (hmodify.addTimer (s.neigh.LSReqTimerSequenceNumber + 1)).sendRequest hi' found.1
  rw [htype] at hsend
  refine ⟨_, ?_, hsend⟩
  simp only [Router.lsreqSend, h.ifGet, hi, hfind, h.neigh, Option.bind_eq_bind, Option.bind_some]
  rfl

theorem rxmtRequest (seqNum : UInt32) :
    ∃ r', r.rxmtRequest cfg i n seqNum = some r' ∧
      r'.Shows cfg i n interface neighborIP (s.rxmtTimer cfg seqNum) := by
  obtain ⟨thisInterface, hi, hinterface, hfind, -⟩ := h.inter
  simp only [Router.rxmtRequest, hi, h.neigh, Option.bind_eq_bind, Option.bind_some,
    Requesting.rxmtTimer, Router.lsreqRetransmit, Requesting.lsreqRetransmit, hinterface, h.address]
  split
  · exact ⟨r, rfl, h⟩
  split
  · exact ⟨r, rfl, h⟩
  split
  · exact h.lsreqSend true
  · exact ⟨r, rfl, h⟩

theorem lsuEnd {current : Nat} {srcAddr : Ip}
    {directAckList : List Lsa} {isBadLSReq : Bool} {word : UInt32} {r' : Router}
    (hr : Router.lsuEnd cfg current i n srcAddr (s.neigh.isRequestedLSAReceived word)
      ⟨r, directAckList, isBadLSReq⟩ = some r') :
    r'.Shows cfg i n interface neighborIP (s.updateEnd cfg word) := by
  have hack := h.sendDirectAck directAckList srcAddr
  obtain ⟨thisInterface, hi, hinterface, -⟩ := hack.inter
  simp only [Router.lsuEnd, hack.neigh, hi, Option.bind_eq_bind, Option.bind_some] at hr
  rw [Requesting.updateEnd]
  split at hr
  · next hlist =>
    rw [if_pos hlist]
    split at hr
    · next hreceived =>
      rw [if_pos hreceived]
      rw [hinterface, hack.address] at hr
      obtain ⟨r1, hr1, hshows⟩ := hack.lsreqSend false
      cases hr.symm.trans hr1
      exact hshows
    · next hreceived =>
      rw [if_neg hreceived]
      cases hr
      exact hack
  · next hlist =>
    rw [if_neg hlist]
    have hnumber := hack.modifyNeigh (f := fun neigh =>
      { neigh with LSReqTimerSequenceNumber := neigh.LSReqTimerSequenceNumber + 1 }) fun _ => rfl
    simp only [Router.loadingDone, hnumber.neigh, Option.bind_eq_bind, Option.bind_some] at hr
    rw [Requesting.loadingDone]
    split at hr
    · next hloading =>
      rw [if_pos hloading]
      have hstate := hnumber.modifyNeigh (f := fun neigh => { neigh with state := .full })
        fun _ => rfl
      exact hstate.changeFull hr
    · next hloading =>
      rw [if_neg hloading]
      cases hr
      exact hnumber

end

end Shows

/-! ## The refinement -/

/-- Between two floods: an LS update ends, where memory holds `word`, or a timer expires. -/
inductive RequestEvent
  | updateEnd (current : Nat) (srcAddr : Ip) (acks : List Lsa) (word : UInt32)
  | rxmtTimer (seqNum : UInt32)

def RequestEvent.act : RequestEvent → Requesting.Act
  | .updateEnd _ _ _ word => .updateEnd word
  | .rxmtTimer seqNum => .rxmtTimer seqNum

def requestStep (cfg : Config) (i n interface : Nat) (neighborIP : Ip) (r : Router) :
    RequestEvent → Option Router
  | .updateEnd current srcAddr acks word => do
    let neigh ← r.neigh? i n
    if neigh.state.toNat < NeighState.exchange.toNat then none
    else lsuEnd cfg current i n srcAddr (neigh.isRequestedLSAReceived word) ⟨r, acks, false⟩
  | .rxmtTimer seqNum =>
    let ev := Event.rxmtTimer interface neighborIP seqNum .lsRequest
    if ev ∈ r.events then { r with events := r.events.erase ev }.rxmtRequest cfg i n seqNum else none

theorem requestTimers_erase (seqNum : UInt32) (events : List Event) :
    requestTimers interface neighborIP
        (events.erase (.rxmtTimer interface neighborIP seqNum .lsRequest)) =
      (requestTimers interface neighborIP events).erase seqNum := by
  induction events with
  | nil => rfl
  | cons e events ih =>
    by_cases he : e = .rxmtTimer interface neighborIP seqNum .lsRequest
    · subst he
      simp [requestTimers]
    · rw [List.erase_cons_tail (by simpa using he)]
      unfold requestTimers at ih ⊢
      rw [List.filterMap_cons, List.filterMap_cons, ih]
      split
      · rfl
      · next x hx =>
        refine (List.erase_cons_tail ?_).symm
        rw [beq_iff_eq]
        rintro rfl
        split at hx
        · next id nbr _ =>
          obtain ⟨⟨rfl, rfl⟩, ⟨⟩⟩ := Option.ite_none_right_eq_some.1 hx
          exact he rfl
        · cases hx

theorem Shows.step (h : r.Shows cfg i n interface neighborIP s) {ev : RequestEvent} {r' : Router}
    (hr : requestStep cfg i n interface neighborIP r ev = some r') :
    ∃ s', s.step cfg (fun _ _ => true) ev.act = some s' ∧
      r'.Shows cfg i n interface neighborIP s' := by
  cases ev with
  | updateEnd current srcAddr acks word =>
    simp only [requestStep, h.neigh, Option.bind_eq_bind, Option.bind_some] at hr
    obtain ⟨hstate, hr⟩ := Option.ite_none_left_eq_some.1 hr
    refine ⟨_, ?_, h.lsuEnd hr⟩
    rw [RequestEvent.act, Requesting.step, if_neg hstate, if_pos rfl]
  | rxmtTimer seqNum =>
    obtain ⟨hmem, hr⟩ := Option.ite_none_right_eq_some.1 hr
    have herase : Shows cfg { r with events := r.events.erase _ } i n interface neighborIP
        { s with rxmtTimers := s.rxmtTimers.erase seqNum } :=
      ⟨h.ifGet, h.inter, h.neigh, h.address, by rw [h.timers]; exact (requestTimers_erase ..).symm⟩
    obtain ⟨r₁, hr₁, hshows⟩ := herase.rxmtRequest seqNum
    cases hr.symm.trans hr₁
    refine ⟨_, if_pos ?_, hshows⟩
    rw [h.timers]
    exact List.mem_filterMap.2 ⟨_, hmem, if_pos ⟨rfl, rfl⟩⟩

end Router

end NetSim.Ospf
