import NetSim.Aodv.Buffering

/-!
# Data packets in the FIFO buffer (`FIFOBuffer.c`)

A packet handed to `AddToFIFOBuffer` waits in the list of its destination until `TransmitFIFOBuffer`
sends it off or `fnEmptyFIFOBuffer` frees it.
-/

namespace NetSim.Aodv

open NetSim.Lib

/-! ## Waiting packets -/

/-- The packets that wait for a route to `dest`, in order. -/
def waitingFor (dest : IPAddress) (l : List FIFO) : List Packet :=
  ((lookup FIFO.destination dest l).map FIFO.packetList).getD []

structure FifoWellFormed (l : List FIFO) : Prop where
  nodup : (l.map FIFO.destination).Nodup
  szDestIP : ∀ fifo ∈ l, ∀ packet ∈ fifo.packetList, packet.szDestIP = fifo.destination

/-- The route table has an entry for `dest` whose lifetime is not over. -/
def HasLiveRoute (c : Curr) (dest : IPAddress) (v : DeviceVar) : Prop :=
  ∃ table ∈ v.routeTable, table.destinationIPAddress = dest ∧ c.dEventTime < table.lifetime

instance (c : Curr) (dest : IPAddress) (v : DeviceVar) : Decidable (HasLiveRoute c dest v) :=
  inferInstanceAs (Decidable (∃ table ∈ v.routeTable, _ ∧ _))

/-! ## The buffer of one node -/

/-- The loop of `fnEmptyFIFOBuffer` over the packets of a list: the counter, and the packets it
frees. -/
def freePackets : UInt32 → List Packet → UInt32 × List Packet
  | packetDropped, [] => (packetDropped, [])
  | packetDropped, packet :: packetList =>
    let r := freePackets (packetDropped + 1) packetList
    (r.1, packet :: r.2)

/-- The buffer, with the packets handed to it, the events added for them, and the packets freed. -/
structure FifoState where
  fifo : List FIFO
  handed : List Packet
  emitted : List EventDetails
  freed : List Packet
  packetDropped : UInt32

/-- A call of one of the three functions, with the device variable `v` for `TransmitFIFOBuffer`. -/
inductive FifoAction where
  | add (packet : Packet) (time : Time)
  | transmit (c : Curr) (v : DeviceVar)
  | empty (dest : IPAddress)

def FifoState.apply (s : FifoState) : FifoAction → FifoState
  | .add packet time =>
    { s with
      fifo := (addToFIFOBuffer packet time s.fifo).1
      handed := s.handed ++ [packet] }
  | .transmit c v =>
    let r := transmitFIFOBuffer c ⟨{ v with fifo := s.fifo }, 0, [], none, 0⟩
    { s with
      fifo := r.devVar.fifo
      emitted := s.emitted ++ r.added }
  | .empty dest =>
    let r := freePackets s.packetDropped (waitingFor dest s.fifo)
    { s with
      fifo := (emptyFIFOBuffer dest ⟨{ DeviceVar.init with fifo := s.fifo }, 0, [], none, 0⟩).devVar.fifo
      freed := s.freed ++ r.2
      packetDropped := r.1 }

def FifoState.step (s : FifoState) (a : FifoAction) : Option FifoState := some (s.apply a)

def FifoState.init : FifoState := ⟨[], [], [], [], 0⟩

/-- The packets of `NETWORK_OUT` events. -/
def packetsOf (events : List EventDetails) : List Packet :=
  events.filterMap fun e =>
    match e.subEvent with
    | .networkOut packet => some packet
    | _ => none

/-- The packets for `dest`. -/
def toDest (dest : IPAddress) (l : List Packet) : List Packet :=
  l.filter fun packet => packet.szDestIP = dest

/-- Every packet handed to the buffer has been sent off or freed, once, or waits in order; every
event is for a packet; and the metric counts the packets freed. -/
structure Conserved (s : FifoState) : Prop where
  wellFormed : FifoWellFormed s.fifo
  order : ∀ dest, ∃ gone, toDest dest s.handed = gone ++ waitingFor dest s.fifo ∧
    gone.Perm (toDest dest (packetsOf s.emitted) ++ toDest dest s.freed)
  emitted : (packetsOf s.emitted).length = s.emitted.length
  packetDropped : s.packetDropped = .ofNat s.freed.length

/-- What a call does to the packets that wait for each destination, and to the logs. -/
def ActsExactly (s : FifoState) : FifoAction → Prop
  | .add packet time =>
    (∀ dest, waitingFor dest (s.apply (.add packet time)).fifo =
      waitingFor dest s.fifo ++ toDest dest [packet]) ∧
    (s.apply (.add packet time)).emitted = s.emitted ∧ (s.apply (.add packet time)).freed = s.freed
  | .transmit c v =>
    (∀ dest, waitingFor dest (s.apply (.transmit c v)).fifo =
      if HasLiveRoute c dest v then [] else waitingFor dest s.fifo) ∧
    (∃ added, (s.apply (.transmit c v)).emitted = s.emitted ++ added ∧
      (packetsOf added).length = added.length ∧ ∀ dest, toDest dest (packetsOf added) =
        if HasLiveRoute c dest v then waitingFor dest s.fifo else []) ∧
    (s.apply (.transmit c v)).freed = s.freed
  | .empty d =>
    (∀ dest, waitingFor dest (s.apply (.empty d)).fifo =
      if dest = d then [] else waitingFor dest s.fifo) ∧
    (s.apply (.empty d)).emitted = s.emitted ∧
    (s.apply (.empty d)).freed = s.freed ++ waitingFor d s.fifo

/-! ## The three functions -/

section Functions

variable {l : List FIFO} {dest d : IPAddress} {packet : Packet} {time : Time} {c : Curr}
  {v : DeviceVar}

theorem freePackets_eq (n : UInt32) (l : List Packet) :
    freePackets n l = (n + .ofNat l.length, l) := by
  induction l generalizing n with
  | nil => simp [freePackets]
  | cons packet l ih =>
    unfold freePackets
    rw [ih]
    simp only [List.length_cons, Prod.mk.injEq, and_true]
    rw [UInt32.ofNat_add, UInt32.add_assoc, UInt32.add_comm 1]
    rfl

theorem packetsOf_append (l1 l2 : List EventDetails) :
    packetsOf (l1 ++ l2) = packetsOf l1 ++ packetsOf l2 := List.filterMap_append

theorem toDest_append (l1 l2 : List Packet) :
    toDest dest (l1 ++ l2) = toDest dest l1 ++ toDest dest l2 := List.filter_append _ _

theorem toDest_eq {packets : List Packet} (h : ∀ packet ∈ packets, packet.szDestIP = d) :
    toDest dest packets = if dest = d then packets else [] := by
  unfold toDest
  split
  · next he =>
    rw [List.filter_eq_self]
    exact fun packet hp => decide_eq_true (he ▸ h packet hp)
  · next he =>
    rw [List.filter_eq_nil_iff]
    intro packet hp heq
    exact he ((of_decide_eq_true heq).symm.trans (h packet hp))

theorem mem_waitingFor (hl : FifoWellFormed l) (hp : packet ∈ waitingFor dest l) :
    packet.szDestIP = dest := by
  unfold waitingFor at hp
  cases hfind : lookup FIFO.destination dest l with
  | none =>
    rw [hfind] at hp
    cases hp
  | some fifo =>
    rw [hfind] at hp
    obtain ⟨hmem, hdest⟩ := lookup_some hfind
    exact (hl.szDestIP fifo hmem packet hp).trans hdest

theorem toDest_singleton : toDest dest [packet] = if dest = packet.szDestIP then [packet] else [] :=
  toDest_eq fun _ hq => congrArg Packet.szDestIP (List.mem_singleton.1 hq)

theorem waitingFor_addToFIFOBuffer :
    waitingFor dest (addToFIFOBuffer packet time l).1 = waitingFor dest l ++ toDest dest [packet] := by
  rw [toDest_singleton]
  unfold waitingFor addToFIFOBuffer
  cases hfind : lookup FIFO.destination packet.szDestIP l with
  | none =>
    rw [lookup_append_single]
    by_cases hdest : dest = packet.szDestIP
    · subst hdest
      simp [hfind]
    · cases hother : lookup FIFO.destination dest l with
      | none => simp [hdest, Ne.symm hdest]
      | some fifo => simp [hdest]
  | some fifo =>
    cases hlist : fifo.packetList with
    | nil =>
      simp only [hlist]
      rw [lookup_modifyFirst]
      · by_cases hdest : dest = packet.szDestIP
        · subst hdest
          simp [hfind, hlist]
        · simp [hdest]
      · exact fun _ => rfl
    | cons head tail =>
      simp only [hlist]
      rw [lookup_modifyFirst]
      · by_cases hdest : dest = packet.szDestIP
        · subst hdest
          simp [hfind, hlist]
        · simp [hdest]
      · exact fun _ => rfl

theorem FifoWellFormed.add (hl : FifoWellFormed l) :
    FifoWellFormed (addToFIFOBuffer packet time l).1 := by
  refine ⟨nodup_addToFIFOBuffer hl.nodup packet time, ?_⟩
  intro fifo' hfifo' q hq
  unfold addToFIFOBuffer at hfifo'
  cases hfind : lookup FIFO.destination packet.szDestIP l with
  | none =>
    rw [hfind] at hfifo'
    rcases List.mem_append.1 hfifo' with hmem | hmem
    · exact hl.szDestIP fifo' hmem q hq
    · rw [List.mem_singleton.1 hmem] at hq ⊢
      rw [List.mem_singleton.1 hq]
  | some fifo =>
    rw [hfind] at hfifo'
    cases hlist : fifo.packetList with
    | nil =>
      simp only [hlist] at hfifo'
      rcases mem_modifyFirst hfifo' with hmem' | ⟨a, ha, rfl⟩
      · exact hl.szDestIP fifo' hmem' q hq
      · rw [List.mem_singleton.1 hq]
        exact (lookup_some ha).2.symm
    | cons head tail =>
      simp only [hlist] at hfifo'
      rcases mem_modifyFirst hfifo' with hmem' | ⟨a, ha, rfl⟩
      · exact hl.szDestIP fifo' hmem' q hq
      · obtain ⟨hmem', hdest'⟩ := lookup_some ha
        rcases List.mem_append.1 hq with hq | hq
        · exact hl.szDestIP a hmem' q hq
        · rw [List.mem_singleton.1 hq]
          exact hdest'.symm

theorem waitingFor_flushed :
    waitingFor dest (v.flushed c) = if HasLiveRoute c dest v then [] else waitingFor dest v.fifo := by
  unfold waitingFor DeviceVar.flushed
  rw [lookup_map]
  · cases hfind : lookup FIFO.destination dest v.fifo with
    | none => simp
    | some fifo =>
      rw [Option.map_some, Option.map_some, Option.getD_some, (lookup_some hfind).2]
      by_cases hroute : HasLiveRoute c dest v
      · rw [if_pos hroute, if_pos (checkRouteFound_iff.2 hroute)]
      · rw [if_neg hroute, if_neg (mt checkRouteFound_iff.1 hroute)]
        rfl
  · intro fifo
    split <;> rfl

theorem FifoWellFormed.flushed (hl : FifoWellFormed v.fifo) : FifoWellFormed (v.flushed c) := by
  refine ⟨nodup_flushed hl.nodup, ?_⟩
  intro fifo' hfifo' q hq
  obtain ⟨fifo, hfifo, rfl⟩ := List.mem_map.1 hfifo'
  split at hq
  · cases hq
  · next hroute =>
    rw [if_neg hroute]
    exact hl.szDestIP fifo hfifo q hq

theorem waitingFor_eraseFirst (hl : FifoWellFormed l) :
    waitingFor dest (eraseFirst FIFO.destination d l) = if dest = d then [] else waitingFor dest l := by
  unfold waitingFor
  split
  · next hdest =>
    rw [hdest, lookup_eraseFirst_self hl.nodup]
    rfl
  · next hdest => rw [lookup_eraseFirst_ne hdest]

theorem FifoWellFormed.erase (hl : FifoWellFormed l) : FifoWellFormed (eraseFirst FIFO.destination d l) :=
  ⟨nodup_map_eraseFirst hl.nodup, fun fifo hfifo => hl.szDestIP fifo (eraseFirst_subset hfifo)⟩

/-- The events that `TransmitFIFOBuffer` adds for a list. -/
def eventsFor (c : Curr) (v : DeviceVar) (fifo : FIFO) : List EventDetails :=
  if checkRouteFound c fifo.destination v then
    fifo.packetList.map fun packet => ⟨c.dEventTime, .networkOut packet⟩
  else []

theorem packetsOf_map (t : Time) (packets : List Packet) :
    packetsOf (packets.map fun packet => ⟨t, .networkOut packet⟩) = packets := by
  unfold packetsOf
  rw [List.filterMap_map]
  exact List.filterMap_some

theorem packetsOf_eventsFor (fifo : FIFO) :
    packetsOf (eventsFor c v fifo) =
      if HasLiveRoute c fifo.destination v then fifo.packetList else [] := by
  unfold eventsFor
  by_cases hroute : HasLiveRoute c fifo.destination v
  · rw [if_pos hroute, if_pos (checkRouteFound_iff.2 hroute), packetsOf_map]
  · rw [if_neg hroute, if_neg (mt checkRouteFound_iff.1 hroute)]
    rfl

theorem length_packetsOf_eventsFor (fifo : FIFO) :
    (packetsOf (eventsFor c v fifo)).length = (eventsFor c v fifo).length := by
  unfold eventsFor
  split
  · rw [packetsOf_map, List.length_map]
  · rfl

theorem toDest_eventsFor (hl : FifoWellFormed l) :
    toDest dest (packetsOf (l.flatMap (eventsFor c v))) =
      if HasLiveRoute c dest v then waitingFor dest l else [] := by
  induction l with
  | nil => simp [packetsOf, toDest, waitingFor]
  | cons fifo l ih =>
    have hnodup := hl.nodup
    rw [List.map_cons, List.nodup_cons] at hnodup
    have hrest : FifoWellFormed l :=
      ⟨hnodup.2, fun f hf => hl.szDestIP f (List.mem_cons_of_mem _ hf)⟩
    have hhead : ∀ packet ∈ packetsOf (eventsFor c v fifo), packet.szDestIP = fifo.destination := by
      intro packet hpacket
      rw [packetsOf_eventsFor] at hpacket
      split at hpacket
      · exact hl.szDestIP fifo List.mem_cons_self packet hpacket
      · cases hpacket
    rw [List.flatMap_cons, packetsOf_append, toDest_append, ih hrest, toDest_eq hhead,
      packetsOf_eventsFor]
    unfold waitingFor
    rw [lookup_cons]
    by_cases hdest : dest = fifo.destination
    · have hnone : lookup FIFO.destination dest l = none := by
        rw [lookup_eq_none]
        exact fun f hf he => hnodup.1 (List.mem_map.2 ⟨f, hf, he.trans hdest⟩)
      rw [if_pos hdest, if_pos hdest.symm, hnone, ← hdest]
      simp
    · rw [if_neg hdest, if_neg (Ne.symm hdest), List.nil_append]

theorem length_flatMap_eventsFor (l : List FIFO) :
    (packetsOf (l.flatMap (eventsFor c v))).length = (l.flatMap (eventsFor c v)).length := by
  induction l with
  | nil => rfl
  | cons fifo l ih =>
    rw [List.flatMap_cons, packetsOf_append, List.length_append, List.length_append, ih,
      length_packetsOf_eventsFor]

end Functions

/-! ## Runs -/

section Runs

variable {s : FifoState} {a : FifoAction} {dest : IPAddress}

theorem actsExactly (hs : FifoWellFormed s.fifo) (a : FifoAction) : ActsExactly s a := by
  cases a with
  | add packet time => exact ⟨fun dest => waitingFor_addToFIFOBuffer, rfl, rfl⟩
  | transmit c v =>
    refine ⟨fun dest => ?_, ⟨_, rfl, ?_, fun dest => ?_⟩, rfl⟩
    · exact waitingFor_flushed (v := { v with fifo := s.fifo })
    · exact length_flatMap_eventsFor s.fifo
    · exact toDest_eventsFor (v := { v with fifo := s.fifo }) hs
  | empty d =>
    refine ⟨fun dest => waitingFor_eraseFirst hs, rfl, ?_⟩
    change s.freed ++ (freePackets s.packetDropped (waitingFor d s.fifo)).2 = _
    rw [freePackets_eq]

theorem wellFormed_apply (hs : FifoWellFormed s.fifo) (a : FifoAction) :
    FifoWellFormed (s.apply a).fifo := by
  cases a with
  | add packet time => exact hs.add
  | transmit c v => exact FifoWellFormed.flushed (v := { v with fifo := s.fifo }) hs
  | empty d => exact hs.erase

theorem conserved_init : Conserved .init :=
  ⟨⟨List.nodup_nil, nofun⟩, fun _ => ⟨[], rfl, List.Perm.nil⟩, rfl, rfl⟩

theorem Conserved.apply (hs : Conserved s) (a : FifoAction) : Conserved (s.apply a) := by
  have hwf := wellFormed_apply hs.wellFormed a
  have hacts := actsExactly hs.wellFormed a
  cases a with
  | add packet time =>
    obtain ⟨hwaiting, hemitted, hfreed⟩ := hacts
    refine ⟨hwf, fun dest => ?_, hs.emitted, hs.packetDropped⟩
    obtain ⟨gone, horder, hperm⟩ := hs.order dest
    refine ⟨gone, ?_, hperm⟩
    rw [hwaiting dest, ← List.append_assoc, ← horder]
    exact toDest_append _ _
  | transmit c v =>
    obtain ⟨hwaiting, ⟨added, hadded, hlength, hsent⟩, hfreed⟩ := hacts
    refine ⟨hwf, fun dest => ?_, ?_, hs.packetDropped⟩
    · obtain ⟨gone, horder, hperm⟩ := hs.order dest
      refine ⟨gone ++ toDest dest (packetsOf added), ?_, ?_⟩
      · change toDest dest s.handed = _
        rw [hwaiting dest, horder, hsent dest]
        split <;> simp
      · rw [hadded, packetsOf_append, toDest_append]
        refine (hperm.append_right _).trans ?_
        rw [List.append_assoc, List.append_assoc]
        exact List.perm_append_comm.append_left _
    · rw [hadded, packetsOf_append, List.length_append, List.length_append, hs.emitted, hlength]
  | empty d =>
    obtain ⟨hwaiting, hemitted, hfreed⟩ := hacts
    refine ⟨hwf, fun dest => ?_, hs.emitted, ?_⟩
    · obtain ⟨gone, horder, hperm⟩ := hs.order dest
      have hgone : toDest dest (waitingFor d s.fifo) = if dest = d then waitingFor d s.fifo else [] :=
        toDest_eq fun packet hp => mem_waitingFor hs.wellFormed hp
      refine ⟨gone ++ toDest dest (waitingFor d s.fifo), ?_, ?_⟩
      · change toDest dest s.handed = _
        rw [hwaiting dest, horder, hgone]
        split
        · next hdest => rw [hdest, List.append_nil]
        · next hdest => rw [List.append_nil]
      · rw [hemitted, hfreed, toDest_append, ← List.append_assoc]
        exact hperm.append_right _
    · rw [hfreed]
      change (freePackets s.packetDropped (waitingFor d s.fifo)).1 = _
      rw [freePackets_eq, hs.packetDropped, List.length_append, UInt32.ofNat_add]

/-- In every run of the three functions the packets are conserved. -/
theorem fifo_conserved {tr : List (FifoState × FifoAction)} (run : Run FifoState.step .init tr s) :
    Conserved s ∧ ∀ x ∈ tr, ActsExactly x.1 x.2 := by
  induction run with
  | nil => exact ⟨conserved_init, nofun⟩
  | @snoc tr s s' a _ hstep ih =>
    obtain rfl := Option.some.inj hstep
    refine ⟨ih.1.apply a, ?_⟩
    intro x hx
    rcases List.mem_cons.1 hx with rfl | hx
    · exact actsExactly ih.1.wellFormed a
    · exact ih.2 x hx

/-- A packet is handed over, and its list is emptied without a route. -/
theorem fifo_conserved_drop :
    Conserved ((FifoState.init.apply (.add ⟨1, 9, 1, none, none, 0, .data 7⟩ 0)).apply (.empty 9)) :=
  (fifo_conserved ((Run.nil.snoc rfl).snoc rfl)).1

end Runs

end NetSim.Aodv
