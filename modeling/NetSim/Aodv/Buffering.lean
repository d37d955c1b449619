import NetSim.Aodv.InvalidRoutes
import NetSim.Aodv.RouteTimers

/-!
# Packets that wait for a route

A packet without a route waits in the FIFO buffer, with a sent-table entry and an `RREQ_TIMEOUT`
event pending, which tries again or drops it. `ProcessRREP` deletes the entry whether or not the
packets have been sent off.
-/

namespace NetSim.Aodv

open NetSim.Lib

/-! ## The FIFO buffer -/

/-- The packet waits for a route to `dest`. -/
def Waits (l : List FIFO) (dest : IPAddress) (q : Packet) : Prop :=
  ∃ fifo ∈ l, fifo.destination = dest ∧ q ∈ fifo.packetList

/-- Whether packets wait for a route to `dest`. -/
def hasWaiting (l : List FIFO) (dest : IPAddress) : Bool :=
  l.any fun fifo => decide (fifo.destination = dest) && !fifo.packetList.isEmpty

section FIFOBuffer

variable {l : List FIFO} {dest : IPAddress} {q : Packet}

theorem waits_iff_lookup (hl : (l.map FIFO.destination).Nodup) :
    Waits l dest q ↔ ∃ fifo, lookup FIFO.destination dest l = some fifo ∧ q ∈ fifo.packetList := by
  constructor
  · rintro ⟨fifo, hfifo, hdest, hq⟩
    exact ⟨fifo, (lookup_iff_mem hl).2 ⟨hfifo, hdest⟩, hq⟩
  · rintro ⟨fifo, hfind, hq⟩
    obtain ⟨hfifo, hdest⟩ := lookup_some hfind
    exact ⟨fifo, hfifo, hdest, hq⟩

theorem hasWaiting_iff : hasWaiting l dest = true ↔ ∃ q, Waits l dest q := by
  simp only [hasWaiting, Waits, List.any_eq_true, Bool.and_eq_true, decide_eq_true_eq,
    Bool.not_eq_true', List.isEmpty_eq_false_iff, List.ne_nil_iff_exists_cons]
  constructor
  · rintro ⟨fifo, hfifo, hdest, q, rest, hlist⟩
    exact ⟨q, fifo, hfifo, hdest, hlist ▸ List.mem_cons_self⟩
  · rintro ⟨q, fifo, hfifo, hdest, hq⟩
    cases hlist : fifo.packetList with
    | nil => rw [hlist] at hq; cases hq
    | cons head tail => exact ⟨fifo, hfifo, hdest, head, tail, hlist⟩

theorem nodup_addToFIFOBuffer (hl : (l.map FIFO.destination).Nodup) (packet : Packet)
    (time : Time) : ((addToFIFOBuffer packet time l).1.map FIFO.destination).Nodup := by
  unfold addToFIFOBuffer
  cases hfind : lookup FIFO.destination packet.szDestIP l with
  | none => exact nodup_append_single hl hfind
  | some fifo =>
    cases hlist : fifo.packetList with
    | nil =>
      simp only [hlist]
      rw [map_key_modifyFirst]
      · exact hl
      · exact fun _ => rfl
    | cons head tail =>
      simp only [hlist]
      rw [map_key_modifyFirst]
      · exact hl
      · exact fun _ => rfl

theorem addToFIFOBuffer_spec (hl : (l.map FIFO.destination).Nodup) (packet : Packet) (time : Time) :
    (∀ dest q, Waits (addToFIFOBuffer packet time l).1 dest q ↔
      Waits l dest q ∨ (dest = packet.szDestIP ∧ q = packet)) ∧
    ((addToFIFOBuffer packet time l).2 = true ↔ ∃ q, Waits l packet.szDestIP q) := by
  have hl' := nodup_addToFIFOBuffer hl packet time
  simp only [waits_iff_lookup hl, waits_iff_lookup hl']
  unfold addToFIFOBuffer
  cases hfind : lookup FIFO.destination packet.szDestIP l with
  | none =>
    refine ⟨fun dest q => ?_, by simp⟩
    rw [lookup_append_single]
    by_cases hdest : dest = packet.szDestIP
    · subst hdest
      simp [hfind]
    · cases hdestFind : lookup FIFO.destination dest l with
      | none => simp [hdest, Ne.symm hdest]
      | some fifo => simp [hdest]
  | some fifo =>
    cases hlist : fifo.packetList with
    | nil =>
      simp only [hlist]
      refine ⟨fun dest q => ?_, by simp [hlist]⟩
      rw [lookup_modifyFirst]
      · by_cases hdest : dest = packet.szDestIP
        · subst hdest
          simp [hfind, hlist]
        · simp [hdest]
      · exact fun _ => rfl
    | cons head tail =>
      simp only [hlist]
      refine ⟨fun dest q => ?_, by simp [hlist]⟩
      rw [lookup_modifyFirst]
      · by_cases hdest : dest = packet.szDestIP
        · subst hdest
          simp [hfind, hlist, or_assoc]
        · simp [hdest]
      · exact fun _ => rfl

theorem nodup_flushed {c : Curr} {v : DeviceVar} (hl : (v.fifo.map FIFO.destination).Nodup) :
    ((v.flushed c).map FIFO.destination).Nodup := by
  have hkeys : (v.flushed c).map FIFO.destination = v.fifo.map FIFO.destination := by
    unfold DeviceVar.flushed
    rw [List.map_map]
    apply List.map_congr_left
    intro fifo _
    simp only [Function.comp]
    split <;> rfl
  rw [hkeys]
  exact hl

theorem waits_flushed {c : Curr} {v : DeviceVar} :
    Waits (v.flushed c) dest q ↔ Waits v.fifo dest q ∧ checkRouteFound c dest v = false := by
  constructor
  · rintro ⟨fifo', hfifo', hdest, hq⟩
    obtain ⟨fifo, hfifo, rfl⟩ := List.mem_map.1 hfifo'
    by_cases hroute : checkRouteFound c fifo.destination v = true
    · rw [if_pos hroute] at hq
      cases hq
    · rw [if_neg hroute] at hdest hq
      rw [hdest] at hroute
      exact ⟨⟨fifo, hfifo, hdest, hq⟩, Bool.eq_false_iff.2 hroute⟩
  · rintro ⟨⟨fifo, hfifo, hdest, hq⟩, hroute⟩
    refine ⟨fifo, List.mem_map.2 ⟨fifo, hfifo, ?_⟩, hdest, hq⟩
    rw [hdest, if_neg (by rw [hroute]; exact Bool.false_ne_true)]

theorem waits_eraseFirst (hl : (l.map FIFO.destination).Nodup) {d : IPAddress} :
    Waits (eraseFirst FIFO.destination d l) dest q ↔ Waits l dest q ∧ dest ≠ d := by
  rw [waits_iff_lookup (nodup_map_eraseFirst hl), waits_iff_lookup hl]
  by_cases hdest : dest = d
  · subst hdest
    simp [lookup_eraseFirst_self hl]
  · simp [lookup_eraseFirst_ne hdest, hdest]

end FIFOBuffer

/-! ## How long a discovery takes -/

/-- The time that the retries after the next timeout of `table` take at most. -/
def retryTime (ttl times : ℕ) : Time :=
  (aodvTtlThreshold - ttl : ℕ) * aodvRingTraversalTime (aodvTtlThreshold + 1) +
    (aodvRreqRetries + 1 - times : ℕ) * aodvRingTraversalTime (aodvNetDiameter + 1)

def RREQSentTable.deadline (table : RREQSentTable) : Time :=
  table.dTimeoutTime + retryTime table.ttl table.times

def discoveryTime : Time := 13440 * millisecond

/-- The entry of the sent table that `InterstInRREQSentTable` leaves. -/
def RREQSentTable.assign (ttl : ℕ) (dTimeout : Time) (table : RREQSentTable) : RREQSentTable where
  destAddress := table.destAddress
  ttl := ttl
  times := if ttl = aodvNetDiameter then table.times + 1 else table.times
  dTimeoutTime := dTimeout

theorem sentAfter_eq (v : DeviceVar) (dest : IPAddress) (ttl : ℕ) (dTimeout : Time) :
    v.sentAfter dest ttl dTimeout =
      if (findSentTable v dest).isSome then
        modifyFirst RREQSentTable.destAddress dest (RREQSentTable.assign ttl dTimeout)
          v.rreqSentTable
      else v.rreqSentTable ++ [RREQSentTable.assign ttl dTimeout ⟨dest, 0, 1, 0⟩] := by
  have hstart : (Sim.start 0 v).devVar = v := rfl
  unfold DeviceVar.sentAfter interstInRREQSentTable
  dsimp only [Sim.modifyVar]
  rw [hstart]
  cases findSentTable v dest <;> rfl

theorem findSentTable_sentAfter (v : DeviceVar) (dest d : IPAddress) (ttl : ℕ) (dTimeout : Time) :
    lookup RREQSentTable.destAddress d (v.sentAfter dest ttl dTimeout) =
      if d = dest then
        some (((findSentTable v dest).getD ⟨dest, 0, 1, 0⟩).assign ttl dTimeout)
      else findSentTable v d := by
  rw [sentAfter_eq]
  unfold findSentTable
  cases hfind : lookup RREQSentTable.destAddress dest v.rreqSentTable with
  | some table =>
    have hkey : ∀ a, (RREQSentTable.assign ttl dTimeout a).destAddress = a.destAddress :=
      fun _ => rfl
    rw [Option.isSome_some, if_pos rfl, lookup_modifyFirst hkey, hfind]
    rfl
  | none =>
    rw [Option.isSome_none, if_neg Bool.false_ne_true, lookup_append_single]
    by_cases hd : d = dest
    · subst hd
      rw [hfind]
      exact (if_pos rfl).trans (if_pos rfl).symm
    · have hkey : (RREQSentTable.assign ttl dTimeout ⟨dest, 0, 1, 0⟩).destAddress ≠ d :=
        fun heq => hd heq.symm
      rw [if_neg hd, if_neg hkey]
      cases lookup RREQSentTable.destAddress d v.rreqSentTable <;> rfl

variable {table : RREQSentTable}

theorem increaseTTL_eq {v : DeviceVar} {dest : IPAddress}
    (hfind : findSentTable v dest = some table) :
    increaseTTL v dest = if 7 ≤ table.ttl then 35 else if 7 < table.ttl + 2 then 7
      else table.ttl + 2 := by
  unfold increaseTTL
  rw [hfind]
  rfl

theorem ringTraversalTime_eq (ttl : ℕ) : aodvRingTraversalTime ttl = 80000 * (ttl + 2) := by
  norm_num [aodvRingTraversalTime, aodvNodeTraversalTime, millisecond, aodvTimeoutBuffer]

theorem retryTime_eq (ttl times : ℕ) :
    retryTime ttl times = (7 - ttl : ℕ) * 800000 + (3 - times : ℕ) * 3040000 := by
  unfold retryTime
  rw [ringTraversalTime_eq, ringTraversalTime_eq]
  norm_num [aodvTtlThreshold, aodvRreqRetries, aodvNetDiameter]

theorem getTimeoutTime_eq {ttl : ℕ} (count : ℕ) (h : ttl ≠ 35) :
    getTimeoutTime ttl count = 80000 * (ttl + 2) := by
  exact (if_pos h).trans (ringTraversalTime_eq ttl)

theorem deadline_assign (ttl : ℕ) (dTimeout : Time) (table : RREQSentTable) :
    (table.assign ttl dTimeout).deadline = dTimeout + ((7 - ttl : ℕ) * 800000 +
      (3 - (if ttl = 35 then table.times + 1 else table.times) : ℕ) * 3040000) := by
  unfold RREQSentTable.deadline
  rw [retryTime_eq]
  rfl

theorem retry_deadline {v : DeviceVar} {dest : IPAddress}
    (hfind : findSentTable v dest = some table) (htimes : table.times ≤ aodvRreqRetries) (t : Time) :
    (table.assign (increaseTTL v dest)
      (t + getTimeoutTime (increaseTTL v dest + 1) table.times)).deadline ≤
      t + retryTime table.ttl table.times := by
  rw [deadline_assign, retryTime_eq, increaseTTL_eq hfind]
  have htimes : table.times ≤ 2 := htimes
  by_cases h : 7 ≤ table.ttl
  · have hsub : 3 - table.times = (3 - (table.times + 1)) + 1 := by omega
    rw [if_pos h, if_pos rfl, getTimeoutTime_eq _ (by decide), hsub, Nat.sub_eq_zero_of_le h]
    norm_num
    linarith
  · have hlt : table.ttl < 7 := Nat.lt_of_not_le h
    generalize table.ttl = ttl at hlt
    interval_cases ttl <;> norm_num [getTimeoutTime_eq] <;> linarith

theorem discover_deadline (v : DeviceVar) (dest : IPAddress) (t : Time) :
    (((findSentTable v dest).getD ⟨dest, 0, 1, 0⟩).assign (v.firstTTL dest - 1)
      (t + getTimeoutTime (v.firstTTL dest - 1) 1)).deadline ≤ t + discoveryTime := by
  have hbound : ∀ n : ℕ, ((3 - n : ℕ) : ℚ) ≤ 3 := fun n => by exact_mod_cast Nat.sub_le 3 n
  have hfirst : v.firstTTL dest - 1 = increaseTTL v dest + 1 := rfl
  have hbudget : discoveryTime = 13440000 := by norm_num [discoveryTime, millisecond]
  rw [deadline_assign, hfirst, hbudget]
  have hcount := hbound (if increaseTTL v dest + 1 = 35 then
    ((findSentTable v dest).getD ⟨dest, 0, 1, 0⟩).times + 1
    else ((findSentTable v dest).getD ⟨dest, 0, 1, 0⟩).times)
  have hring : ∀ ttl : ℕ, (ttl ≤ 7 ∨ ttl = 35) → 1 ≤ ttl →
      getTimeoutTime (ttl + 1) 1 + ((7 - (ttl + 1) : ℕ) * 800000 : ℚ) ≤ 4320000 := by
    rintro ttl (hle | rfl) hpos
    · interval_cases ttl <;> norm_num [getTimeoutTime_eq]
    · norm_num [getTimeoutTime_eq]
  have hTTL : (increaseTTL v dest ≤ 7 ∨ increaseTTL v dest = 35) ∧ 1 ≤ increaseTTL v dest := by
    cases hfind : findSentTable v dest with
    | none =>
      have hone : increaseTTL v dest = 1 := by
        unfold increaseTTL
        rw [hfind]
        rfl
      omega
    | some table =>
      rw [increaseTTL_eq hfind]
      split
      · omega
      · split <;> omega
  have hsum := hring _ hTTL.1 hTTL.2
  linarith

/-! ## Discoveries -/

theorem mem_rreqTimeouts {dest : IPAddress} {t : Time} {events : List EventDetails} :
    (dest, t) ∈ rreqTimeouts events ↔ ⟨t, .rreqTimeout dest⟩ ∈ events := by
  unfold rreqTimeouts
  rw [List.mem_filterMap]
  constructor
  · rintro ⟨⟨time, subEvent⟩, hmem, htimeout⟩
    cases subEvent with
    | rreqTimeout dest' =>
      obtain ⟨rfl, rfl⟩ := htimeout
      exact hmem
    | _ => cases htimeout
  · intro hmem
    exact ⟨_, hmem, rfl⟩

/-- The RREP answers the device's own RREQ, but its own entry is fresher and has expired, and
packets wait. -/
def NodeAction.strands (c : Curr) (v : DeviceVar) : NodeAction → Bool
  | .networkIn packet =>
    match packet.payload with
    | .rrep rrep =>
      decide (rrep.destinationIPaddress ≠ c.ip) && decide (c.ip = rrep.originatorIPaddress) &&
        hasWaiting v.fifo rrep.destinationIPaddress &&
        (findRouteTable v.routeTable rrep.destinationIPaddress).any fun table =>
          !table.accepts rrep.destinationSequenceNumber rrep.hopCount.toUInt32 &&
            decide (table.lifetime ≤ c.dEventTime)
    | _ => false
  | _ => false

/-- What an event does to the discovery of a route to `dest`. -/
inductive DiscoveryStep (now : Time) (d d' : Device) (dest : IPAddress) : Prop
  | kept (hfind : findSentTable d'.var dest = findSentTable d.var dest)
      (hpending : ∀ table, findSentTable d.var dest = some table →
        ⟨table.dTimeoutTime, .rreqTimeout dest⟩ ∈ d.events →
        ⟨table.dTimeoutTime, .rreqTimeout dest⟩ ∈ d'.events)
      (hwaits : ∀ q, Waits d'.var.fifo dest q → ∃ q', Waits d.var.fifo dest q')
  | starts (table : RREQSentTable) (hnone : ∀ q, ¬ Waits d.var.fifo dest q)
      (hfind : findSentTable d'.var dest = some table)
      (hpending : ⟨table.dTimeoutTime, .rreqTimeout dest⟩ ∈ d'.events)
      (hdeadline : table.deadline ≤ now + discoveryTime)
  | retries (table table' : RREQSentTable) (hfind : findSentTable d.var dest = some table)
      (hfind' : findSentTable d'.var dest = some table')
      (hpending : ⟨table'.dTimeoutTime, .rreqTimeout dest⟩ ∈ d'.events)
      (hdeadline : table'.deadline ≤ now + retryTime table.ttl table.times)
  | ends (hfind : findSentTable d'.var dest = none) (hnone : ∀ q, ¬ Waits d'.var.fifo dest q)

structure BufferKeys (v : DeviceVar) : Prop where
  fifo : (v.fifo.map FIFO.destination).Nodup
  sent : (v.rreqSentTable.map RREQSentTable.destAddress).Nodup

theorem nodup_sentAfter {v : DeviceVar}
    (hv : (v.rreqSentTable.map RREQSentTable.destAddress).Nodup) (dest : IPAddress) (ttl : ℕ)
    (dTimeout : Time) : ((v.sentAfter dest ttl dTimeout).map RREQSentTable.destAddress).Nodup := by
  rw [sentAfter_eq]
  split
  · rw [map_key_modifyFirst]
    · exact hv
    · exact fun _ => rfl
  · next hfind => exact nodup_append_single hv (Option.not_isSome_iff_eq_none.1 hfind)

section Discovery

variable {c : Curr} {nRREQId : UInt32} {v : DeviceVar} {a : NodeAction} {o : Outcome}

theorem handle_bufferKeys (h : handle c nRREQId v a = some o) (hv : BufferKeys v) :
    BufferKeys o.devVar := by
  have hfifo : ∀ {l : List FIFO}, o.devVar.fifo = l → (l.map FIFO.destination).Nodup →
      (o.devVar.fifo.map FIFO.destination).Nodup := by
    rintro l rfl hl
    exact hl
  have hsent : ∀ {l : List RREQSentTable}, o.devVar.rreqSentTable = l →
      (l.map RREQSentTable.destAddress).Nodup →
      (o.devVar.rreqSentTable.map RREQSentTable.destAddress).Nodup := by
    rintro l rfl hl
    exact hl
  have hadd : ∀ {packet : Packet} {fifo : List FIFO} {sent : Bool},
      addToFIFOBuffer packet c.dEventTime v.fifo = (fifo, sent) →
      (fifo.map FIFO.destination).Nodup := by
    intro packet fifo sent heq
    have hnodup := nodup_addToFIFOBuffer hv.fifo packet c.dEventTime
    rw [heq] at hnodup
    exact hnodup
  cases handle_book h with
  | same _ _ hbook =>
    exact ⟨hfifo (congrArg Book.fifo hbook) hv.fifo,
      hsent (congrArg Book.rreqSentTable hbook) hv.sent⟩
  | expires _ _ hbook =>
    exact ⟨hfifo (congrArg Book.fifo hbook) hv.fifo,
      hsent (congrArg Book.rreqSentTable hbook) hv.sent⟩
  | breaks _ _ hbook =>
    exact ⟨hfifo (congrArg Book.fifo hbook) hv.fifo,
      hsent (congrArg Book.rreqSentTable hbook) hv.sent⟩
  | buffers _ packet fifo _ _ heq hbook =>
    exact ⟨hfifo (congrArg Book.fifo hbook) (hadd heq),
      hsent (congrArg Book.rreqSentTable hbook) hv.sent⟩
  | discovers _ packet fifo _ _ heq hbook =>
    exact ⟨hfifo (congrArg Book.fifo hbook) (hadd heq),
      hsent (congrArg Book.rreqSentTable hbook) (nodup_sentAfter hv.sent _ _ _)⟩
  | givesUp _ dest _ _ _ _ hbook =>
    exact ⟨hfifo (congrArg Book.fifo hbook) (nodup_map_eraseFirst hv.fifo),
      hsent (congrArg Book.rreqSentTable hbook) (nodup_map_eraseFirst hv.sent)⟩
  | retries _ dest _ _ _ _ hbook =>
    exact ⟨hfifo (congrArg Book.fifo hbook) hv.fifo,
      hsent (congrArg Book.rreqSentTable hbook) (nodup_sentAfter hv.sent _ _ _)⟩
  | accepts _ _ _ _ hbook =>
    exact ⟨hfifo (congrArg Book.fifo hbook) hv.fifo,
      hsent (congrArg Book.rreqSentTable hbook) hv.sent⟩
  | learns _ rrep _ _ hbook =>
    have hflushed := nodup_flushed (c := c) (v := v.withForwardRoute c rrep) hv.fifo
    refine ⟨hfifo (congrArg Book.fifo hbook) hflushed, hsent (congrArg Book.rreqSentTable hbook) ?_⟩
    split
    · exact nodup_map_eraseFirst hv.sent
    · exact hv.sent

variable {packet : Packet}

theorem usable_of_not_strands {rrep : RREP} {q : Packet}
    (hrrep : packet.payload = .rrep rrep) (hdest : rrep.destinationIPaddress ≠ c.ip)
    (horiginator : c.ip = rrep.originatorIPaddress)
    (hstrands : (NodeAction.networkIn packet).strands c v = false)
    (hl : OnePerDestination v.routeTable) (hq : Waits v.fifo rrep.destinationIPaddress q) :
    checkRouteFound c rrep.destinationIPaddress (v.withForwardRoute c rrep) = true := by
  have hlater : ∀ t, c.dEventTime < maxTime t (c.dEventTime + aodvActiveRouteTimeout) := by
    intro t
    refine lt_of_lt_of_le ?_ (le_maxTime_right t _)
    rw [activeRouteTimeout_time_eq]
    linarith
  have hentry : findRouteTable (v.withForwardRoute c rrep).routeTable rrep.destinationIPaddress =
      (forwardRoute c rrep).entry c rrep.destinationIPaddress
        (findRouteTable v.routeTable rrep.destinationIPaddress) :=
    findRouteTable_table (forwardRoute c rrep) hl rrep.destinationIPaddress
  rw [checkRouteFound_eq (onePerDestination_withForwardRoute hl rrep), hentry]
  simp only [forwardRoute, RouteOp.entry, if_true]
  cases hfind : findRouteTable v.routeTable rrep.destinationIPaddress with
  | none => exact decide_eq_true (hlater _)
  | some table =>
    simp only [Option.any_some, decide_eq_true_eq]
    split
    · exact hlater _
    · next haccepts =>
      have hwaiting := hasWaiting_iff.2 ⟨q, hq⟩
      simp only [NodeAction.strands, hrrep, hwaiting, hfind, Option.any_some,
        decide_eq_true hdest, decide_eq_true horiginator, Bool.true_and,
        Bool.eq_false_iff.2 haccepts, Bool.not_false, decide_eq_false_iff_not] at hstrands
      exact lt_of_not_ge hstrands

theorem mem_remaining_of_ne {e : EventDetails} {events : List EventDetails} (h : e ∈ events)
    (hne : a ≠ .fire e) : e ∈ a.remaining events := by
  cases a with
  | fire e' =>
    refine (List.mem_erase_of_ne ?_).2 h
    rintro rfl
    exact hne rfl
  | dataOut packet => exact h
  | networkIn packet => exact h
  | dropNotification nextHop => exact h

theorem not_rreqTimeout_of_routes (ha : a.Routes packet) (t : Time)
    (dest : IPAddress) : a ≠ .fire ⟨t, .rreqTimeout dest⟩ := by
  rcases ha with ⟨time, rfl⟩ | rfl <;> exact fun h => nomatch h

/-- What an event with outcome `o` does to the discovery of a route to `dest`. -/
abbrev DiscoveryEffect (c : Curr) (v : DeviceVar) (events : List EventDetails) (a : NodeAction)
    (o : Outcome) (dest : IPAddress) : Prop :=
  DiscoveryStep c.dEventTime ⟨v, events⟩ ⟨o.devVar, a.remaining events ++ o.added⟩ dest

section DiscoveryEffect

variable {events : List EventDetails} {dest : IPAddress}

theorem findSentTable_of_book {l : List RREQSentTable} (h : o.devVar.rreqSentTable = l)
    (dest : IPAddress) : findSentTable o.devVar dest = lookup RREQSentTable.destAddress dest l := by
  unfold findSentTable
  rw [h]

variable {d : IPAddress}

theorem rreqTimeout_pending {t : Time} (h : rreqTimeouts o.added = [(d, t)]) :
    (⟨t, .rreqTimeout d⟩ : EventDetails) ∈ a.remaining events ++ o.added := by
  apply List.mem_append_right
  apply mem_rreqTimeouts.1
  rw [h]
  exact List.mem_singleton_self _

theorem discovery_kept (hne : ∀ table, findSentTable v dest = some table →
      a ≠ .fire ⟨table.dTimeoutTime, .rreqTimeout dest⟩)
    (hfind : findSentTable o.devVar dest = findSentTable v dest)
    (hwaits : ∀ q, Waits o.devVar.fifo dest q → ∃ q', Waits v.fifo dest q') :
    DiscoveryEffect c v events a o dest := by
  refine .kept hfind ?_ hwaits
  intro table htable hmem
  exact List.mem_append_left _ (mem_remaining_of_ne hmem (hne table htable))

theorem discovery_same (hne : ∀ table, findSentTable v dest = some table →
      a ≠ .fire ⟨table.dTimeoutTime, .rreqTimeout dest⟩)
    (hsent : o.devVar.rreqSentTable = v.rreqSentTable) (hfifo : o.devVar.fifo = v.fifo) :
    DiscoveryEffect c v events a o dest := by
  apply discovery_kept hne
  · exact findSentTable_of_book hsent dest
  · intro q hq
    rw [hfifo] at hq
    exact ⟨q, hq⟩

variable {packet : Packet}

theorem discovery_buffers (ha : a.Routes packet) (hfifo : (v.fifo.map FIFO.destination).Nodup)
    (hadd : addToFIFOBuffer packet c.dEventTime v.fifo = (o.devVar.fifo, true))
    (hsent : o.devVar.rreqSentTable = v.rreqSentTable) : DiscoveryEffect c v events a o dest := by
  apply discovery_kept fun _ _ => not_rreqTimeout_of_routes ha _ _
  · exact findSentTable_of_book hsent dest
  · intro q hq
    obtain ⟨hwaits, hflag⟩ := addToFIFOBuffer_spec hfifo packet c.dEventTime
    rw [hadd] at hwaits hflag
    rw [hwaits] at hq
    rcases hq with hq | ⟨rfl, rfl⟩
    · exact ⟨q, hq⟩
    · exact hflag.1 rfl

theorem discovery_discovers (ha : a.Routes packet) (hfifo : (v.fifo.map FIFO.destination).Nodup)
    (hadd : addToFIFOBuffer packet c.dEventTime v.fifo = (o.devVar.fifo, false))
    (hsent : o.devVar.rreqSentTable = v.sentAfter packet.szDestIP (v.firstTTL packet.szDestIP - 1)
      (c.dEventTime + getTimeoutTime (v.firstTTL packet.szDestIP - 1) 1))
    (htimeouts : rreqTimeouts o.added = [(packet.szDestIP,
      c.dEventTime + getTimeoutTime (v.firstTTL packet.szDestIP - 1) 1)]) :
    DiscoveryEffect c v events a o dest := by
  have hfind := findSentTable_of_book hsent dest
  rw [findSentTable_sentAfter] at hfind
  obtain ⟨hwaits, hflag⟩ := addToFIFOBuffer_spec hfifo packet c.dEventTime
  rw [hadd] at hwaits hflag
  by_cases hdest : dest = packet.szDestIP
  · subst hdest
    rw [if_pos rfl] at hfind
    refine .starts _ ?_ hfind (rreqTimeout_pending htimeouts)
      (discover_deadline v packet.szDestIP _)
    intro q hq
    exact Bool.false_ne_true (hflag.2 ⟨q, hq⟩)
  · rw [if_neg hdest] at hfind
    apply discovery_kept (fun _ _ => not_rreqTimeout_of_routes ha _ _) hfind
    intro q hq
    rw [hwaits] at hq
    rcases hq with hq | ⟨heq, -⟩
    · exact ⟨q, hq⟩
    · exact absurd heq hdest

theorem rreqTimeout_ne {time : Time} (hdest : dest ≠ d) (t : Time) :
    NodeAction.fire ⟨time, .rreqTimeout d⟩ ≠ .fire ⟨t, .rreqTimeout dest⟩ := by
  intro heq
  simp only [NodeAction.fire.injEq, EventDetails.mk.injEq, SubEvent.rreqTimeout.injEq] at heq
  exact hdest heq.2.symm

theorem discovery_givesUp {time : Time} (hv : BufferKeys v)
    (hfifo : o.devVar.fifo = eraseFirst FIFO.destination d v.fifo)
    (hsent : o.devVar.rreqSentTable = eraseFirst RREQSentTable.destAddress d v.rreqSentTable) :
    DiscoveryEffect c v events (.fire ⟨time, .rreqTimeout d⟩) o dest := by
  have hfind := findSentTable_of_book hsent dest
  by_cases hdest : dest = d
  · subst hdest
    refine .ends (hfind.trans (lookup_eraseFirst_self hv.sent)) ?_
    intro q hq
    rw [hfifo, waits_eraseFirst hv.fifo] at hq
    exact hq.2 rfl
  · apply discovery_kept fun _ _ => rreqTimeout_ne hdest _
    · exact hfind.trans (lookup_eraseFirst_ne hdest)
    · intro q hq
      rw [hfifo, waits_eraseFirst hv.fifo] at hq
      exact ⟨q, hq.1⟩

theorem discovery_retries {time : Time} {table : RREQSentTable}
    (hfind : findSentTable v d = some table) (htimes : table.times ≤ aodvRreqRetries)
    (hfifo : o.devVar.fifo = v.fifo)
    (hsent : o.devVar.rreqSentTable = v.sentAfter d (increaseTTL v d)
      (c.dEventTime + getTimeoutTime (increaseTTL v d + 1) table.times))
    (htimeouts : rreqTimeouts o.added =
      [(d, c.dEventTime + getTimeoutTime (increaseTTL v d + 1) table.times)]) :
    DiscoveryEffect c v events (.fire ⟨time, .rreqTimeout d⟩) o dest := by
  have hfind' := findSentTable_of_book hsent dest
  rw [findSentTable_sentAfter] at hfind'
  by_cases hdest : dest = d
  · subst hdest
    rw [if_pos rfl, hfind, Option.getD_some] at hfind'
    exact .retries table _ hfind hfind' (rreqTimeout_pending htimeouts)
      (retry_deadline hfind htimes _)
  · rw [if_neg hdest] at hfind'
    apply discovery_kept (fun _ _ => rreqTimeout_ne hdest _) hfind'
    intro q hq
    rw [hfifo] at hq
    exact ⟨q, hq⟩

theorem discovery_learns {rrep : RREP} (hrrep : packet.payload = .rrep rrep)
    (hdest : rrep.destinationIPaddress ≠ c.ip) (hv : BufferKeys v)
    (hl : OnePerDestination v.routeTable)
    (hstrands : (NodeAction.networkIn packet).strands c v = false)
    (hfifo : o.devVar.fifo = (v.withForwardRoute c rrep).flushed c)
    (hsent : o.devVar.rreqSentTable = if c.ip = rrep.originatorIPaddress then
      eraseFirst RREQSentTable.destAddress rrep.destinationIPaddress v.rreqSentTable
      else v.rreqSentTable) : DiscoveryEffect c v events (.networkIn packet) o dest := by
  have hwaits : ∀ q, Waits o.devVar.fifo dest q → Waits v.fifo dest q ∧
      checkRouteFound c dest (v.withForwardRoute c rrep) = false := by
    intro q hq
    rw [hfifo, waits_flushed] at hq
    exact hq
  have hkept : findSentTable o.devVar dest = findSentTable v dest →
      DiscoveryEffect c v events (.networkIn packet) o dest := by
    intro hfind
    apply discovery_kept
    · exact fun _ _ heq => nomatch heq
    · exact hfind
    · exact fun q hq => ⟨q, (hwaits q hq).1⟩
  have hfind := findSentTable_of_book hsent dest
  by_cases horiginator : c.ip = rrep.originatorIPaddress
  · rw [if_pos horiginator] at hfind
    by_cases hown : dest = rrep.destinationIPaddress
    · subst hown
      refine .ends (hfind.trans (lookup_eraseFirst_self hv.sent)) ?_
      intro q hq
      obtain ⟨hbefore, hroute⟩ := hwaits q hq
      rw [usable_of_not_strands hrrep hdest horiginator hstrands hl hbefore] at hroute
      cases hroute
    · exact hkept (hfind.trans (lookup_eraseFirst_ne hown))
  · rw [if_neg horiginator] at hfind
    exact hkept hfind

theorem handle_discovery (h : handle c nRREQId v a = some o)
    (henabled : a.enabled c.dEventTime events = true) (hv : BufferKeys v)
    (hl : OnePerDestination v.routeTable) (hstrands : a.strands c v = false) (dest : IPAddress) :
    DiscoveryEffect c v events a o dest := by
  cases handle_book h with
  | same _ hquiet hbook =>
    -- a timeout that is due is not quiet
    have hne : ∀ table, findSentTable v dest = some table →
        a ≠ .fire ⟨table.dTimeoutTime, .rreqTimeout dest⟩ := by
      rintro table htable rfl
      have hlt : c.dEventTime < table.dTimeoutTime := hquiet table htable
      simp only [NodeAction.enabled, Bool.and_eq_true, decide_eq_true_eq] at henabled
      exact absurd henabled.2 (ne_of_gt hlt)
    exact discovery_same hne (congrArg Book.rreqSentTable hbook) (congrArg Book.fifo hbook)
  | expires _ _ hbook =>
    exact discovery_same (fun _ _ => by simp) (congrArg Book.rreqSentTable hbook)
      (congrArg Book.fifo hbook)
  | breaks _ _ hbook =>
    exact discovery_same (fun _ _ => NodeAction.noConfusion) (congrArg Book.rreqSentTable hbook)
      (congrArg Book.fifo hbook)
  | accepts _ _ _ _ hbook =>
    exact discovery_same (fun _ _ => NodeAction.noConfusion) (congrArg Book.rreqSentTable hbook)
      (congrArg Book.fifo hbook)
  | buffers _ packet fifo ha _ hadd hbook =>
    obtain rfl : o.devVar.fifo = fifo := congrArg Book.fifo hbook
    exact discovery_buffers ha hv.fifo hadd (congrArg Book.rreqSentTable hbook)
  | discovers _ packet fifo ha _ hadd hbook _ htimeouts =>
    obtain rfl : o.devVar.fifo = fifo := congrArg Book.fifo hbook
    exact discovery_discovers ha hv.fifo hadd (congrArg Book.rreqSentTable hbook) htimeouts
  | givesUp time d table _ _ _ hbook =>
    exact discovery_givesUp hv (congrArg Book.fifo hbook) (congrArg Book.rreqSentTable hbook)
  | retries time d table hfind _ htimes hbook _ htimeouts =>
    exact discovery_retries hfind htimes (congrArg Book.fifo hbook)
      (congrArg Book.rreqSentTable hbook) htimeouts
  | learns packet rrep hrrep hdest hbook =>
    exact discovery_learns hrrep hdest hv hl hstrands (congrArg Book.fifo hbook)
      (congrArg Book.rreqSentTable hbook)

end DiscoveryEffect

theorem rreqTimeout_later {t : Time} {dest : IPAddress} (h : handle c nRREQId v a = some o)
    (hmem : ⟨t, .rreqTimeout dest⟩ ∈ o.added) : c.dEventTime ≤ t := by
  have hpositive : ∀ ttl count, 0 ≤ getTimeoutTime ttl count := by
    intro ttl count
    unfold getTimeoutTime
    split
    · rw [ringTraversalTime_eq]
      positivity
    · rw [netTraversalTime_eq]
      positivity
  have hmem := mem_rreqTimeouts.2 hmem
  have hnil : rreqTimeouts o.added = [] → c.dEventTime ≤ t := by
    intro heq
    rw [heq] at hmem
    cases hmem
  have hone : ∀ {d time}, rreqTimeouts o.added = [(d, c.dEventTime + time)] → 0 ≤ time →
      c.dEventTime ≤ t := by
    intro d time heq htime
    rw [heq, List.mem_singleton, Prod.mk.injEq] at hmem
    linarith
  cases handle_book h with
  | same _ _ _ _ htimeouts => exact hnil htimeouts
  | expires _ _ _ _ htimeouts => exact hnil htimeouts
  | breaks _ _ _ _ htimeouts => exact hnil htimeouts
  | buffers _ _ _ _ _ _ _ _ htimeouts => exact hnil htimeouts
  | discovers _ _ _ _ _ _ _ _ htimeouts => exact hone htimeouts (hpositive _ _)
  | givesUp _ _ _ _ _ _ _ _ htimeouts => exact hnil htimeouts
  | retries _ _ _ _ _ _ _ _ htimeouts => exact hone htimeouts (hpositive _ _)
  | accepts _ _ _ _ _ _ htimeouts => exact hnil htimeouts
  | learns _ _ _ _ _ _ htimeouts => exact hnil htimeouts

theorem mem_added_of_flushed {q : Packet} {rrep : RREP} {dest : IPAddress}
    (hrrep : packet.payload = .rrep rrep) (hdest : rrep.destinationIPaddress ≠ c.ip)
    (h : handle c nRREQId v (.networkIn packet) = some o) (hq : Waits v.fifo dest q)
    (hroute : checkRouteFound c dest (v.withForwardRoute c rrep) = true) :
    (⟨c.dEventTime, .networkOut q⟩ : EventDetails) ∈ o.added := by
  obtain ⟨fifo, hfifo, rfl, hmem⟩ := hq
  have haccept : (⟨c.dEventTime, .networkOut q⟩ : EventDetails) ∈
      (acceptRREP c rrep (rreqStart nRREQId v packet)).added := by
    refine List.mem_append_left _ (List.mem_append_right _ (List.mem_flatMap.2 ⟨fifo, ?_, ?_⟩))
    · unfold countCongestion
      split <;> exact hfifo
    · have hfound : checkRouteFound c fifo.destination ((countCongestion rrep
          (rreqStart nRREQId v packet)).applyOp c (forwardRoute c rrep)).devVar = true := by
        rw [← hroute]
        unfold checkRouteFound countCongestion
        split <;> rfl
      rw [if_pos hfound]
      exact List.mem_map_of_mem hmem
  simp only [handle, networkInEvent, hrrep, Option.map_some, Option.some.injEq] at h
  rw [processRREP_eq, if_neg hdest] at h
  rw [← h]
  apply List.mem_append_left
  split
  · exact haccept
  · rw [(forwardRREP_devVar c packet rrep _).2.2]
    exact haccept

theorem handle_leaves {dest : IPAddress} {q : Packet} (h : handle c nRREQId v a = some o)
    (hv : BufferKeys v) (hq : Waits v.fifo dest q) (hgone : ¬ Waits o.devVar.fifo dest q) :
    ⟨c.dEventTime, .networkOut q⟩ ∈ o.added ∨
      ∃ time table, a = .fire ⟨time, .rreqTimeout dest⟩ ∧ findSentTable v dest = some table ∧
        aodvRreqRetries < table.times := by
  have hsame : o.devVar.fifo ≠ v.fifo := by
    intro heq
    rw [heq] at hgone
    exact hgone hq
  have hadd : ∀ {packet : Packet} {fifo : List FIFO} {sent : Bool},
      addToFIFOBuffer packet c.dEventTime v.fifo = (fifo, sent) → o.devVar.fifo = fifo → False := by
    intro packet fifo sent heq hfifo
    have hwaits := (addToFIFOBuffer_spec hv.fifo packet c.dEventTime).1 dest q
    rw [heq] at hwaits
    rw [hfifo] at hgone
    exact hgone (hwaits.2 (Or.inl hq))
  cases handle_book h with
  | same _ _ hbook => exact absurd (congrArg Book.fifo hbook) hsame
  | expires _ _ hbook => exact absurd (congrArg Book.fifo hbook) hsame
  | breaks _ _ hbook => exact absurd (congrArg Book.fifo hbook) hsame
  | retries _ _ _ _ _ _ hbook => exact absurd (congrArg Book.fifo hbook) hsame
  | accepts _ _ _ _ hbook => exact absurd (congrArg Book.fifo hbook) hsame
  | buffers _ _ _ _ _ heq hbook => exact absurd (congrArg Book.fifo hbook) (hadd heq)
  | discovers _ _ _ _ _ heq hbook => exact absurd (congrArg Book.fifo hbook) (hadd heq)
  | givesUp time d table hfind hdue htimes hbook =>
    rw [show o.devVar.fifo = _ from congrArg Book.fifo hbook, waits_eraseFirst hv.fifo] at hgone
    have hdest : dest = d := by
      by_contra hne
      exact hgone ⟨hq, hne⟩
    subst hdest
    exact Or.inr ⟨time, table, rfl, hfind, htimes⟩
  | learns packet rrep hrrep hdest hbook =>
    rw [show o.devVar.fifo = _ from congrArg Book.fifo hbook,
      waits_flushed (v := v.withForwardRoute c rrep)] at hgone
    refine Or.inl (mem_added_of_flushed hrrep hdest h hq ?_)
    by_contra hroute
    exact hgone ⟨hq, Bool.eq_false_iff.2 hroute⟩

end Discovery

/-! ## Runs -/

structure BufferInv (s : NodeState) : Prop where
  keys : BufferKeys s.device.var
  later : ∀ dest t, ⟨t, .rreqTimeout dest⟩ ∈ s.device.events → s.now ≤ t
  pending : ∀ dest table, findSentTable s.device.var dest = some table →
    ⟨table.dTimeoutTime, .rreqTimeout dest⟩ ∈ s.device.events
  deadline : ∀ dest table, findSentTable s.device.var dest = some table →
    table.deadline ≤ s.now + discoveryTime
  served : ∀ dest q, Waits s.device.var.fifo dest q →
    ∃ table, findSentTable s.device.var dest = some table

theorem bufferInv_init : BufferInv .init where
  keys := ⟨List.nodup_nil, List.nodup_nil⟩
  later := by
    intro dest t hmem
    cases List.mem_singleton.1 hmem
  pending := fun _ _ h => nomatch h
  deadline := fun _ _ h => nomatch h
  served := by
    rintro dest q ⟨fifo, hfifo, -⟩
    cases hfifo

theorem retryTime_nonneg (ttl times : ℕ) : 0 ≤ retryTime ttl times := by
  rw [retryTime_eq]
  positivity

theorem BufferInv.now_le {s : NodeState} (h : BufferInv s) {dest : IPAddress}
    (hfind : findSentTable s.device.var dest = some table) :
    s.now ≤ table.dTimeoutTime ∧ s.now ≤ table.deadline := by
  have hnow := h.later dest _ (h.pending dest table hfind)
  refine ⟨hnow, hnow.trans ?_⟩
  exact le_add_of_nonneg_right (retryTime_nonneg _ _)

theorem BufferInv.tick {s : NodeState} (h : BufferInv s) {time : Time} {nRREQId : UInt32}
    (hle : s.now ≤ time) (hevents : ∀ e ∈ s.device.events, time ≤ e.dEventTime) :
    BufferInv { s with now := time, nRREQId := nRREQId } where
  keys := h.keys
  later := fun _ _ hmem => hevents _ hmem
  pending := h.pending
  deadline := fun dest table hfind => (h.deadline dest table hfind).trans (by simpa using hle)
  served := h.served

section Act

variable {ip : IPAddress} {s : NodeState} {a : NodeAction} {o : Outcome}

theorem BufferInv.step (h : BufferInv s) (hl : OnePerDestination s.device.var.routeTable)
    (henabled : a.enabled s.now s.device.events = true)
    (ho : handle ⟨ip, s.now⟩ s.nRREQId s.device.var a = some o)
    (hstrands : a.strands ⟨ip, s.now⟩ s.device.var = false) (dest : IPAddress) :
    DiscoveryStep s.now s.device (s.after a o).device dest :=
  handle_discovery ho henabled h.keys hl hstrands dest

theorem BufferInv.act (h : BufferInv s) (hl : OnePerDestination s.device.var.routeTable)
    (henabled : a.enabled s.now s.device.events = true)
    (ho : handle ⟨ip, s.now⟩ s.nRREQId s.device.var a = some o)
    (hstrands : a.strands ⟨ip, s.now⟩ s.device.var = false) : BufferInv (s.after a o) := by
  have hstep := h.step hl henabled ho hstrands
  refine ⟨handle_bufferKeys ho h.keys, ?_, ?_, ?_, ?_⟩
  · intro dest t hmem
    rcases List.mem_append.1 hmem with hmem | hmem
    · exact h.later dest t (mem_remaining hmem)
    · exact rreqTimeout_later ho hmem
  · intro dest table hfind
    cases hstep dest with
    | kept hsame hpending =>
      rw [hsame] at hfind
      exact hpending table hfind (h.pending dest table hfind)
    | starts table' _ hfind' hpending =>
      cases hfind.symm.trans hfind'
      exact hpending
    | retries _ table' _ hfind' hpending =>
      cases hfind.symm.trans hfind'
      exact hpending
    | ends hnone => cases hfind.symm.trans hnone
  · intro dest table hfind
    cases hstep dest with
    | kept hsame =>
      rw [hsame] at hfind
      exact h.deadline dest table hfind
    | starts table' _ hfind' _ hdeadline =>
      cases hfind.symm.trans hfind'
      exact hdeadline
    | retries before table' hbefore hfind' _ hdeadline =>
      cases hfind.symm.trans hfind'
      have hnow := (h.now_le hbefore).1
      calc table.deadline ≤ s.now + retryTime before.ttl before.times := hdeadline
        _ ≤ before.deadline := by
          unfold RREQSentTable.deadline
          linarith
        _ ≤ s.now + discoveryTime := h.deadline dest before hbefore
    | ends hnone => cases hfind.symm.trans hnone
  · intro dest q hq
    cases hstep dest with
    | kept hsame _ hwaits =>
      obtain ⟨q', hq'⟩ := hwaits q hq
      rw [hsame]
      exact h.served dest q' hq'
    | starts table _ hfind => exact ⟨table, hfind⟩
    | retries _ table _ hfind => exact ⟨table, hfind⟩
    | ends _ hnone => exact absurd hq (hnone q)

theorem BufferInv.deadline_act (h : BufferInv s) (hl : OnePerDestination s.device.var.routeTable)
    (henabled : a.enabled s.now s.device.events = true)
    (ho : handle ⟨ip, s.now⟩ s.nRREQId s.device.var a = some o)
    (hstrands : a.strands ⟨ip, s.now⟩ s.device.var = false) {dest : IPAddress}
    (hbefore : ∃ q, Waits s.device.var.fifo dest q) {table : RREQSentTable}
    (hfind : findSentTable (s.after a o).device.var dest = some table) :
    ∃ table', findSentTable s.device.var dest = some table' ∧ table.deadline ≤ table'.deadline := by
  obtain ⟨q, hq⟩ := hbefore
  cases h.step hl henabled ho hstrands dest with
  | kept hsame =>
    rw [hsame] at hfind
    exact ⟨table, hfind, le_refl _⟩
  | starts _ hnone => exact absurd hq (hnone q)
  | retries before table' hbefore hfind' _ hdeadline =>
    cases hfind.symm.trans hfind'
    refine ⟨before, hbefore, hdeadline.trans ?_⟩
    have hnow := (h.now_le hbefore).1
    unfold RREQSentTable.deadline
    linarith
  | ends hnone => cases hfind.symm.trans hnone

end Act

def NeverStrands (ip : IPAddress) (tr : List (NodeState × NodeStepLabel)) : Prop :=
  ∀ s a, (s, .act a) ∈ tr → a.strands ⟨ip, s.now⟩ s.device.var = false

theorem bufferInv_of_run {ip : IPAddress} {tr : List (NodeState × NodeStepLabel)} {s : NodeState}
    (run : NodeRun ip tr s) (hstrands : NeverStrands ip tr) : BufferInv s := by
  induction run with
  | nil => exact bufferInv_init
  | snoc run hstep ih =>
    have hinv := ih fun s a hmem => hstrands s a (List.mem_cons_of_mem _ hmem)
    rcases NodeState.step_cases hstep with
      ⟨time, nRREQId, rfl, hle, hevents, rfl⟩ | ⟨act, o, rfl, henabled, ho, rfl⟩
    · exact hinv.tick hle hevents
    · exact hinv.act (onePerDestination_of_nodeRun run) henabled ho
        (hstrands _ _ List.mem_cons_self)

theorem deadline_of_run {ip : IPAddress} {tr : List (NodeState × NodeStepLabel)} {s : NodeState}
    (run : NodeRun ip tr s) (hstrands : NeverStrands ip tr) {dest : IPAddress}
    {pre post : List (NodeState × NodeStepLabel)} {x : NodeState × NodeStepLabel}
    (htr : tr = post ++ x :: pre)
    (hwaits : ∀ y ∈ post ++ [x], ∃ q, Waits y.1.device.var.fifo dest q)
    (hfind : findSentTable s.device.var dest = some table) :
    table.deadline ≤ x.1.now + discoveryTime := by
  induction run generalizing post table with
  | nil => exact absurd htr (by simp)
  | @snoc tr s₀ s' label run hstep ih =>
    have hstrands0 : NeverStrands ip tr :=
      fun s a hmem => hstrands s a (List.mem_cons_of_mem _ hmem)
    have hinv := bufferInv_of_run run hstrands0
    -- what is known of the state before the last step
    have hbefore : (∃ q, Waits s₀.device.var.fifo dest q) ∧
        ∀ table', findSentTable s₀.device.var dest = some table' →
          table'.deadline ≤ x.1.now + discoveryTime := by
      cases post with
      | nil =>
        obtain ⟨rfl, -⟩ := htr
        exact ⟨hwaits _ (List.mem_singleton_self _), fun table' h => hinv.deadline dest table' h⟩
      | cons y post =>
        simp only [List.cons_append, List.cons.injEq] at htr
        obtain ⟨rfl, htr⟩ := htr
        exact ⟨hwaits _ List.mem_cons_self, fun table' h =>
          ih hstrands0 htr (fun y hy => hwaits y (List.mem_cons_of_mem _ hy)) h⟩
    rcases NodeState.step_cases hstep with
      ⟨time, nRREQId, rfl, -, -, rfl⟩ | ⟨act, o, rfl, henabled, ho, rfl⟩
    · exact hbefore.2 table hfind
    · have hl := onePerDestination_of_nodeRun run
      obtain ⟨table', hfind', hle⟩ := hinv.deadline_act hl henabled ho
        (hstrands _ _ List.mem_cons_self) hbefore.1 hfind
      exact hle.trans (hbefore.2 table' hfind')

/-- No packet that waits for a route is stranded. -/
structure BufferServed (ip : IPAddress) (tr : List (NodeState × NodeStepLabel)) (s : NodeState) :
    Prop where
  discovery : ∀ dest q, Waits s.device.var.fifo dest q →
    ∃ table, findSentTable s.device.var dest = some table ∧
      ⟨table.dTimeoutTime, .rreqTimeout dest⟩ ∈ s.device.events
  /-- A packet that waits no longer was handed to `NETWORK_OUT`, or `RetryRREQ` gave up. -/
  leaves : ∀ s₁ a o dest q, (s₁, .act a) ∈ tr →
    handle ⟨ip, s₁.now⟩ s₁.nRREQId s₁.device.var a = some o →
    Waits s₁.device.var.fifo dest q → ¬ Waits o.devVar.fifo dest q →
    ⟨s₁.now, .networkOut q⟩ ∈ o.added ∨
      ∃ time table, a = .fire ⟨time, .rreqTimeout dest⟩ ∧
        findSentTable s₁.device.var dest = some table ∧ aodvRreqRetries < table.times
  bounded : ∀ pre x post dest, tr = post ++ x :: pre →
    (∀ y ∈ post ++ [x], ∃ q, Waits y.1.device.var.fifo dest q) →
    (∃ q, Waits s.device.var.fifo dest q) → s.now ≤ x.1.now + discoveryTime

/-- In every run none of whose events strands packets, no packet is stranded. -/
theorem bufferServed_of_run {ip : IPAddress} {tr : List (NodeState × NodeStepLabel)} {s : NodeState}
    (run : NodeRun ip tr s) (hstrands : NeverStrands ip tr) : BufferServed ip tr s := by
  have hinv := bufferInv_of_run run hstrands
  refine ⟨?_, ?_, ?_⟩
  · intro dest q hq
    obtain ⟨table, hfind⟩ := hinv.served dest q hq
    exact ⟨table, hfind, hinv.pending dest table hfind⟩
  · intro s₁ a o dest q hmem ho hq hgone
    obtain ⟨pre, post, -, htr, hpre, -⟩ := run.prefix_of_mem hmem
    have hstrands₁ : NeverStrands ip pre := by
      intro s a hmem
      apply hstrands s a
      rw [htr]
      exact List.mem_append_right _ (List.mem_cons_of_mem _ hmem)
    exact handle_leaves ho (bufferInv_of_run hpre hstrands₁).keys hq hgone
  · intro pre x post dest htr hwaits hlast
    obtain ⟨q, hq⟩ := hlast
    obtain ⟨table, hfind⟩ := hinv.served dest q hq
    exact (hinv.now_le hfind).2.trans (deadline_of_run run hstrands htr hwaits hfind)

open NodeStrategy

def replyTo1 (destinationSequenceNumber : UInt32) : Packet :=
  ⟨2, 1, 2, some 1, none, 35, .rrep ⟨1, 2, destinationSequenceNumber, 1, 0, 2, false⟩⟩

def halfAnswered : List NodeStrategy :=
  [data 1 2 7, data 1 3 8, receive (replyTo1 1), due, wait 320, due]

def servedTest (r : List (NodeState × NodeStepLabel) × NodeState) : Bool :=
  (r.1.all fun x =>
    match x.2 with
    | .tick _ _ => true
    | .act a => !a.strands ⟨1, x.1.now⟩ x.1.device.var) &&
    (r.1.any fun x => hasWaiting x.1.device.var.fifo 2) &&
    !hasWaiting r.2.device.var.fifo 2 && hasWaiting r.2.device.var.fifo 3

theorem halfAnswered_served :
    ((exec (NodeState.step 1) NodeState.init halfAnswered).any servedTest) = true := by
  decide +kernel

theorem bufferServed_of_halfAnswered : ∃ tr s, NodeRun 1 tr s ∧
    (∃ x ∈ tr, ∃ q, Waits x.1.device.var.fifo 2 q) ∧ (∀ q, ¬ Waits s.device.var.fifo 2 q) ∧
    (∃ q, Waits s.device.var.fifo 3 q) ∧ BufferServed 1 tr s := by
  obtain ⟨tr, s, run, htest⟩ := NodeRun.of_exec 1 halfAnswered servedTest halfAnswered_served
  simp only [servedTest, Bool.and_eq_true, List.any_eq_true, Bool.not_eq_true', hasWaiting_iff]
    at htest
  obtain ⟨⟨⟨hall, x, hx, hwaited⟩, hflushed⟩, hwaits⟩ := htest
  refine ⟨tr, s, run, ⟨x, hx, hwaited⟩, ?_, hwaits, bufferServed_of_run run ?_⟩
  · intro q hq
    rw [hasWaiting_iff.2 ⟨q, hq⟩] at hflushed
    cases hflushed
  · intro s₁ a hmem
    simpa using List.all_eq_true.1 hall (s₁, .act a) hmem

/-- Device 1 has an expired route to device 2 with sequence number 5, and the answer carries
sequence number 4. -/
def refusedAnswer : List NodeStrategy :=
  [receive (replyTo1 5), wait 1000, due, due, wait 2000, due, due, wait 3000, data 1 2 7,
    receive (replyTo1 4)]

def stranded (r : List (NodeState × NodeStepLabel) × NodeState) : Bool :=
  hasWaiting r.2.device.var.fifo 2 && decide (findSentTable r.2.device.var 2 = none)

theorem refusedAnswer_strands :
    ((exec (NodeState.step 1) NodeState.init refusedAnswer).any stranded) = true := by
  decide +kernel

/-- The answer ends the discovery, and leaves the packets where they are. -/
theorem exists_not_bufferServed : ¬ ∀ ip tr s, NodeRun ip tr s → BufferServed ip tr s := by
  intro h
  obtain ⟨tr, s, run, htest⟩ := NodeRun.of_exec 1 refusedAnswer stranded refusedAnswer_strands
  simp only [stranded, Bool.and_eq_true, hasWaiting_iff, decide_eq_true_eq] at htest
  obtain ⟨⟨q, hq⟩, hnone⟩ := htest
  obtain ⟨table, hfind, -⟩ := (h 1 tr s run).discovery 2 q hq
  cases hnone.symm.trans hfind

end NetSim.Aodv
