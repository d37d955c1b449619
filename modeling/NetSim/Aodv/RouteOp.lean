import NetSim.Aodv.Node

/-!
# The route table as a partial map

The list that the source keeps is searched from its head: with one entry per destination it is a
partial map, on which the handlers have four operations.
-/

namespace NetSim.Aodv

open NetSim.Lib

inductive RouteOp where
  /-- `InsertInRouteTable` -/
  | insert (ip : IPAddress) (seqNumber hopCount : UInt32) (nextHop : IPAddress) (lifeTime : Time)
  /-- `UpdateRouteTable` -/
  | extend (ip : IPAddress) (lifetime : Time)
  /-- The mark that `GenerateRERR` and `ProcessRERR` put on the entries they select. -/
  | invalidate (broken : RouteTable → Bool)
  /-- The loop of `ActiveRouteTimeout` -/
  | expire (dest : IPAddress)

namespace RouteOp

def table (c : Curr) (l : List RouteTable) : RouteOp → List RouteTable
  | insert ip seqNumber hopCount nextHop lifeTime =>
    match findRouteTable l ip with
    | some table =>
      if table.accepts seqNumber hopCount then
        modifyFirst RouteTable.destinationIPAddress ip
          (·.overwrite seqNumber hopCount lifeTime) l
      else l
    | none => l ++ [(RouteTable.alloc c ip nextHop).overwrite seqNumber hopCount lifeTime]
  | extend ip lifetime =>
    l.map fun table =>
      if table.nextHop = ip ∨ table.destinationIPAddress = ip then
        { table with lifetime := maxTime table.lifetime lifetime }
      else table
  | invalidate broken => l.map fun table => if broken table then table.invalidate c else table
  | expire dest => (activeRouteTimeoutLoop dest c.dEventTime 0 l).1

/-- The `ACTIVE_ROUTE_TIMEOUT` events that the operation adds. -/
def timers (c : Curr) (l : List RouteTable) : RouteOp → List EventDetails
  | insert ip _ _ _ _ =>
    match findRouteTable l ip with
    | some _ => []
    | none => [⟨c.dEventTime + aodvActiveRouteTimeout, .activeRouteTimeout ip⟩]
  | extend _ _ => []
  | invalidate _ => []
  | expire dest => (activeRouteTimeoutLoop dest c.dEventTime 0 l).2.2

/-- The effect of an operation on the entry for `dest`, as a function of that entry alone. -/
def entry (c : Curr) (dest : IPAddress) (e : Option RouteTable) : RouteOp → Option RouteTable
  | insert ip seqNumber hopCount nextHop lifeTime =>
    if dest = ip then
      match e with
      | some table =>
        some (if table.accepts seqNumber hopCount then
          table.overwrite seqNumber hopCount lifeTime else table)
      | none => some ((RouteTable.alloc c ip nextHop).overwrite seqNumber hopCount lifeTime)
    else e
  | extend ip lifetime =>
    e.map fun table =>
      if table.nextHop = ip ∨ table.destinationIPAddress = ip then
        { table with lifetime := maxTime table.lifetime lifetime }
      else table
  | invalidate broken => e.map fun table => if broken table then table.invalidate c else table
  | expire d => if dest = d then e.filter fun table => c.dEventTime < table.lifetime else e

end RouteOp

def OnePerDestination (l : List RouteTable) : Prop :=
  (l.map RouteTable.destinationIPAddress).Nodup

variable {dest : IPAddress}

theorem activeRouteTimeoutLoop_of_ne {l : List RouteTable}
    (h : ∀ table ∈ l, table.destinationIPAddress ≠ dest) (t : Time) (n : UInt32) :
    activeRouteTimeoutLoop dest t n l = (l, n, []) := by
  induction l with
  | nil => rfl
  | cons table l ih =>
    unfold activeRouteTimeoutLoop
    rw [if_neg (h table List.mem_cons_self), ih fun x hx => h x (List.mem_cons_of_mem _ hx)]

theorem activeRouteTimeoutLoop_eq {l : List RouteTable}
    (hl : OnePerDestination l) (t : Time) (n : UInt32) :
    activeRouteTimeoutLoop dest t n l =
      match findRouteTable l dest with
      | none => (l, n, [])
      | some table =>
        if table.lifetime ≤ t then
          (eraseFirst RouteTable.destinationIPAddress dest l, n - 1, [])
        else (l, n, [⟨table.lifetime, .activeRouteTimeout dest⟩]) := by
  induction l with
  | nil => rfl
  | cons table l ih =>
    obtain ⟨hnotin, hl'⟩ := List.nodup_cons.1 hl
    unfold activeRouteTimeoutLoop findRouteTable
    rw [lookup_cons]
    by_cases hd : table.destinationIPAddress = dest
    · have hne : ∀ x ∈ l, x.destinationIPAddress ≠ dest := by
        intro x hx e
        exact hnotin (by rw [hd, ← e]; exact List.mem_map_of_mem hx)
      simp only [if_pos hd, activeRouteTimeoutLoop_of_ne hne]
      unfold eraseFirst
      rw [List.eraseP_cons_of_pos (by simpa using hd)]
    · simp only [if_neg hd, ih hl', findRouteTable]
      unfold eraseFirst
      rw [List.eraseP_cons_of_neg (by simpa using hd)]
      split
      · rfl
      · split <;> rfl

/-! ## The operations act pointwise -/

section Pointwise

variable {c : Curr} {l : List RouteTable} (op : RouteOp)

theorem findRouteTable_map {f : RouteTable → RouteTable}
    (hf : ∀ table, (f table).destinationIPAddress = table.destinationIPAddress)
    (dest : IPAddress) : findRouteTable (l.map f) dest = (findRouteTable l dest).map f := by
  unfold findRouteTable
  induction l with
  | nil => rfl
  | cons table l ih =>
    rw [List.map_cons, lookup_cons, lookup_cons, hf, ih]
    split <;> rfl

theorem overwrite_key (seqNumber hopCount : UInt32) (lifeTime : Time) (table : RouteTable) :
    (table.overwrite seqNumber hopCount lifeTime).destinationIPAddress =
      table.destinationIPAddress := rfl

theorem extend_key (ip : IPAddress) (lifetime : Time) (table : RouteTable) :
    (if table.nextHop = ip ∨ table.destinationIPAddress = ip then
      { table with lifetime := maxTime table.lifetime lifetime }
     else table).destinationIPAddress = table.destinationIPAddress := by
  split <;> rfl

theorem invalidate_key (broken : RouteTable → Bool) (table : RouteTable) :
    (if broken table then table.invalidate c else table).destinationIPAddress =
      table.destinationIPAddress := by
  split <;> rfl

theorem onePerDestination_map {f : RouteTable → RouteTable}
    (hf : ∀ table, (f table).destinationIPAddress = table.destinationIPAddress)
    (hl : OnePerDestination l) : OnePerDestination (l.map f) := by
  unfold OnePerDestination
  rw [List.map_map, show RouteTable.destinationIPAddress ∘ f = RouteTable.destinationIPAddress from
    funext hf]
  exact hl

theorem OnePerDestination.table (hl : OnePerDestination l) : OnePerDestination (op.table c l) := by
  cases op with
  | insert ip seqNumber hopCount nextHop lifeTime =>
    simp only [RouteOp.table]
    split
    · split
      · unfold OnePerDestination
        rw [map_key_modifyFirst (overwrite_key seqNumber hopCount lifeTime)]
        exact hl
      · exact hl
    · next hnone => exact nodup_append_single hl hnone
  | extend ip lifetime => exact onePerDestination_map (extend_key ip lifetime) hl
  | invalidate broken => exact onePerDestination_map (invalidate_key broken) hl
  | expire dest =>
    simp only [RouteOp.table]
    rw [activeRouteTimeoutLoop_eq hl]
    split
    · exact hl
    · split
      · exact nodup_map_eraseFirst hl
      · exact hl

theorem findRouteTable_table (hl : OnePerDestination l) (dest : IPAddress) :
    findRouteTable (op.table c l) dest = op.entry c dest (findRouteTable l dest) := by
  cases op with
  | insert ip seqNumber hopCount nextHop lifeTime =>
    simp only [RouteOp.table, RouteOp.entry]
    by_cases hd : dest = ip
    · subst hd
      rw [if_pos rfl]
      split
      · next table htable =>
        split
        · unfold findRouteTable at htable ⊢
          rw [lookup_modifyFirst (overwrite_key seqNumber hopCount lifeTime), if_pos rfl, htable]
          rfl
        · exact htable
      · next hnone =>
        unfold findRouteTable at hnone ⊢
        rw [lookup_append_single, hnone]
        exact if_pos rfl
    · rw [if_neg hd]
      split
      · split
        · unfold findRouteTable
          rw [lookup_modifyFirst (overwrite_key seqNumber hopCount lifeTime), if_neg hd]
        · rfl
      · unfold findRouteTable
        rw [lookup_append_single]
        split
        · next h => exact h.symm
        · next h => rw [h]; exact if_neg (Ne.symm hd)
  | extend ip lifetime => exact findRouteTable_map (extend_key ip lifetime) dest
  | invalidate broken => exact findRouteTable_map (invalidate_key broken) dest
  | expire d =>
    simp only [RouteOp.table, RouteOp.entry]
    rw [activeRouteTimeoutLoop_eq hl]
    by_cases hd : dest = d
    · subst hd
      rw [if_pos rfl]
      split
      · next hnone => rw [hnone]; rfl
      · next table htable =>
        rw [htable]
        split
        · next hle =>
          rw [Option.filter_some, if_neg (by simpa using hle)]
          exact lookup_eraseFirst_self hl
        · next hlt =>
          rw [Option.filter_some, if_pos (by simpa using hlt)]
          exact htable
    · rw [if_neg hd]
      split
      · rfl
      · split
        · exact lookup_eraseFirst_ne hd
        · rfl

end Pointwise

/-! ## The timers that an operation adds -/

/-- The times at which an `ACTIVE_ROUTE_TIMEOUT` event for `dest` is pending. -/
def timeouts (dest : IPAddress) (events : List EventDetails) : List Time :=
  events.filterMap fun e => if e.subEvent = .activeRouteTimeout dest then some e.dEventTime else none

@[simp] theorem timeouts_nil (dest : IPAddress) : timeouts dest [] = [] := rfl

@[simp] theorem timeouts_append (dest : IPAddress) (l1 l2 : List EventDetails) :
    timeouts dest (l1 ++ l2) = timeouts dest l1 ++ timeouts dest l2 :=
  List.filterMap_append

theorem timeouts_cons (dest : IPAddress) (e : EventDetails) (l : List EventDetails) :
    timeouts dest (e :: l) =
      if e.subEvent = .activeRouteTimeout dest then e.dEventTime :: timeouts dest l
      else timeouts dest l := by
  unfold timeouts
  by_cases h : e.subEvent = .activeRouteTimeout dest <;> simp [h]

theorem subEvent_of_mem_loop {t : Time} {n : UInt32} {l : List RouteTable}
    {e : EventDetails} (h : e ∈ (activeRouteTimeoutLoop dest t n l).2.2) :
    e.subEvent = .activeRouteTimeout dest := by
  induction l generalizing t n with
  | nil => cases h
  | cons table l ih =>
    unfold activeRouteTimeoutLoop at h
    split at h
    · split at h
      · exact ih h
      · rcases List.mem_cons.1 h with rfl | hmem
        · rfl
        · exact ih hmem
    · exact ih h

theorem subEvent_of_mem_timers {c : Curr} {op : RouteOp} {l : List RouteTable} {e : EventDetails}
    (h : e ∈ op.timers c l) : ∃ dest, e.subEvent = .activeRouteTimeout dest := by
  cases op with
  | insert ip seqNumber hopCount nextHop lifeTime =>
    simp only [RouteOp.timers] at h
    split at h
    · cases h
    · rw [List.mem_singleton.1 h]
      exact ⟨ip, rfl⟩
  | extend ip lifetime => cases h
  | invalidate broken => cases h
  | expire dest => exact ⟨dest, subEvent_of_mem_loop h⟩

/-- The timers of an operation for `dest`, as a function of the entry for `dest` alone. -/
def RouteOp.newTimeouts (c : Curr) (dest : IPAddress) (e : Option RouteTable) :
    RouteOp → List Time
  | insert ip _ _ _ _ =>
    if dest = ip ∧ e = none then [c.dEventTime + aodvActiveRouteTimeout] else []
  | extend _ _ => []
  | invalidate _ => []
  | expire d =>
    match e with
    | some table => if dest = d ∧ c.dEventTime < table.lifetime then [table.lifetime] else []
    | none => []

theorem timeouts_timers {c : Curr} {l : List RouteTable} (op : RouteOp)
    (hl : OnePerDestination l) (dest : IPAddress) :
    timeouts dest (op.timers c l) = op.newTimeouts c dest (findRouteTable l dest) := by
  cases op with
  | insert ip seqNumber hopCount nextHop lifeTime =>
    simp only [RouteOp.timers, RouteOp.newTimeouts]
    by_cases hd : dest = ip
    · subst hd
      split
      · next h => simp [h]
      · next h => simp [timeouts_cons, h]
    · rw [if_neg fun h => hd h.1]
      split
      · rfl
      · simp [timeouts_cons, Ne.symm hd]
  | extend ip lifetime => rfl
  | invalidate broken => rfl
  | expire d =>
    simp only [RouteOp.timers, RouteOp.newTimeouts]
    rw [activeRouteTimeoutLoop_eq hl]
    by_cases hd : dest = d
    · subst hd
      cases h : findRouteTable l dest with
      | none => rfl
      | some table =>
        by_cases hle : table.lifetime ≤ c.dEventTime
        · simp [hle]
        · simp [hle, timeouts_cons, lt_of_not_ge hle]
    · have hnil : (match findRouteTable l dest with
          | some table => if dest = d ∧ c.dEventTime < table.lifetime then [table.lifetime] else []
          | none => []) = [] := by
        split
        · exact if_neg fun h => hd h.1
        · rfl
      rw [hnil]
      cases findRouteTable l d with
      | none => rfl
      | some table =>
        by_cases hle : table.lifetime ≤ c.dEventTime
        · simp [hle]
        · simp [hle, timeouts_cons, Ne.symm hd]

/-! ## The handlers apply operations -/

def Sim.applyOp (c : Curr) (op : RouteOp) (s : Sim) : Sim :=
  { s with
    devVar := { s.devVar with routeTable := op.table c s.devVar.routeTable }
    added := s.added ++ op.timers c s.devVar.routeTable }

section ApplyOp

variable (c : Curr) (op : RouteOp) (s : Sim)

@[simp] theorem applyOp_devVar : (s.applyOp c op).devVar =
    { s.devVar with routeTable := op.table c s.devVar.routeTable } := rfl
@[simp] theorem applyOp_nRREQId : (s.applyOp c op).nRREQId = s.nRREQId := rfl
@[simp] theorem applyOp_added :
    (s.applyOp c op).added = s.added ++ op.timers c s.devVar.routeTable := rfl
@[simp] theorem applyOp_pPacket : (s.applyOp c op).pPacket = s.pPacket := rfl
@[simp] theorem applyOp_packetEvents : (s.applyOp c op).packetEvents = s.packetEvents := rfl

end ApplyOp

theorem insertInRouteTable_eq (c : Curr) (ip : IPAddress) (seqNumber hopCount : UInt32)
    (nextHop : IPAddress) (lifeTime : Time) (s : Sim) :
    insertInRouteTable c ip seqNumber hopCount nextHop lifeTime s =
      s.applyOp c (.insert ip seqNumber hopCount nextHop lifeTime) := by
  unfold insertInRouteTable Sim.applyOp
  simp only [RouteOp.table, RouteOp.timers]
  cases findRouteTable s.devVar.routeTable ip with
  | none => rfl
  | some table =>
    by_cases h : table.accepts seqNumber hopCount
    · simp [h, Sim.modifyVar]
    · simp [h]

theorem updateRouteTable_eq (c : Curr) (ip : IPAddress) (lifetime : Time) (s : Sim) :
    updateRouteTable ip lifetime s = s.applyOp c (.extend ip lifetime) := by
  simp [updateRouteTable, Sim.applyOp, Sim.modifyVar, RouteOp.table, RouteOp.timers]

theorem activeRouteTimeoutLoop_counter (dest : IPAddress) (l : List RouteTable) (t : Time)
    (n : UInt32) :
    (activeRouteTimeoutLoop dest t n l).1 = (activeRouteTimeoutLoop dest t 0 l).1 ∧
      (activeRouteTimeoutLoop dest t n l).2.2 = (activeRouteTimeoutLoop dest t 0 l).2.2 := by
  have key : ∀ m : UInt32,
      (activeRouteTimeoutLoop dest t n l).1 = (activeRouteTimeoutLoop dest t m l).1 ∧
        (activeRouteTimeoutLoop dest t n l).2.2 = (activeRouteTimeoutLoop dest t m l).2.2 := by
    induction l generalizing t n with
    | nil => exact fun _ => ⟨rfl, rfl⟩
    | cons table l ih =>
      intro m
      unfold activeRouteTimeoutLoop
      split
      · split
        · exact ih t (n - 1) (m - 1)
        · obtain ⟨h1, h2⟩ := ih table.lifetime n m
          exact ⟨by simp [h1], by simp [h2]⟩
      · obtain ⟨h1, h2⟩ := ih t n m
        exact ⟨by simp [h1], by simp [h2]⟩
  exact key 0

theorem activeRouteTimeout_eq (c : Curr) (dest : IPAddress) (s : Sim) :
    activeRouteTimeout c dest s = (s.applyOp c (.expire dest)).modifyVar fun v => { v with
      ncounter :=
        (activeRouteTimeoutLoop dest c.dEventTime s.devVar.ncounter s.devVar.routeTable).2.1 } := by
  obtain ⟨h1, h2⟩ := activeRouteTimeoutLoop_counter dest s.devVar.routeTable c.dEventTime
    s.devVar.ncounter
  simp [activeRouteTimeout, Sim.applyOp, Sim.modifyVar, RouteOp.table, RouteOp.timers, h1, h2]

end NetSim.Aodv
