import NetSim.Aodv.InFlight
import NetSim.Lib.Acyclic

/-!
# Loop freedom

An entry keeps the next hop it was created with, so the graph of the `NextHop` pointers for a
destination changes only where entries are created and deleted. A loop appears when a device whose
entry has expired creates one through a neighbour that still points back to it.
-/

namespace NetSim.Aodv

open NetSim.Lib Relation

/-! ## The next hop of an entry -/

def createdRoute (ip : IPAddress) (v : DeviceVar) : NodeAction → Option (IPAddress × IPAddress)
  | .networkIn packet =>
    match packet.payload with
    | .rreq rreq =>
      if checkRREQSeenTable v rreq = false ∧
          findRouteTable v.routeTable rreq.originatorIPAddress = none then
        some (rreq.originatorIPAddress, rreq.lastAddress)
      else none
    | .rrep rrep =>
      if rrep.destinationIPaddress ≠ ip ∧
          findRouteTable v.routeTable rrep.destinationIPaddress = none then
        some (rrep.destinationIPaddress, rrep.lastAddress)
      else none
    | _ => none
  | _ => none

section NextHop

variable {c : Curr} {dest : IPAddress}

variable {table' : RouteTable}

theorem nextHop_of_entry_some {op : RouteOp} {table : RouteTable}
    (h : op.entry c dest (some table) = some table') : table'.nextHop = table.nextHop := by
  cases op with
  | insert ip seqNumber hopCount nextHop lifeTime =>
    simp only [RouteOp.entry] at h
    split at h
    · rw [← Option.some.inj h]
      split <;> rfl
    · rw [Option.some.inj h]
  | extend ip lifetime =>
    simp only [RouteOp.entry, Option.map_some, Option.some.injEq] at h
    rw [← h]
    split <;> rfl
  | invalidate broken =>
    simp only [RouteOp.entry, Option.map_some, Option.some.injEq] at h
    rw [← h]
    split <;> rfl
  | expire d =>
    simp only [RouteOp.entry] at h
    split at h
    · rw [(Option.filter_eq_some_iff.1 h).1.symm |> Option.some.inj]
    · rw [Option.some.inj h]

theorem insert_of_entry_none {op : RouteOp} (h : op.entry c dest none = some table') :
    ∃ seqNumber hopCount lifeTime, op = .insert dest seqNumber hopCount table'.nextHop lifeTime := by
  cases op with
  | insert ip seqNumber hopCount nextHop lifeTime =>
    simp only [RouteOp.entry] at h
    split at h
    · next hip =>
      rw [← Option.some.inj h, hip]
      exact ⟨_, _, _, rfl⟩
    · cases h
  | extend ip lifetime => simp [RouteOp.entry] at h
  | invalidate broken => simp [RouteOp.entry] at h
  | expire d => simp [RouteOp.entry] at h

theorem nextHop_entryAfter {e : Option RouteTable} {ops : List RouteOp}
    (h : entryAfter c dest e ops = some table') :
    (∃ table, e = some table ∧ table'.nextHop = table.nextHop) ∨
      ∃ seqNumber hopCount lifeTime,
        .insert dest seqNumber hopCount table'.nextHop lifeTime ∈ ops := by
  induction ops generalizing e with
  | nil => exact Or.inl ⟨table', h, rfl⟩
  | cons op ops ih =>
    rcases ih h with ⟨table, htable, hnext⟩ | ⟨seqNumber, hopCount, lifeTime, hmem⟩
    · cases e with
      | some table0 =>
        exact Or.inl ⟨table0, rfl, hnext.trans (nextHop_of_entry_some htable)⟩
      | none =>
        obtain ⟨seqNumber, hopCount, lifeTime, hop⟩ := insert_of_entry_none htable
        refine Or.inr ⟨seqNumber, hopCount, lifeTime, ?_⟩
        rw [hnext, ← hop]
        exact List.mem_cons_self
    · exact Or.inr ⟨seqNumber, hopCount, lifeTime, List.mem_cons_of_mem _ hmem⟩

theorem nextHop_entryAfter_some {ops : List RouteOp} {table : RouteTable}
    (hops : ∀ d, .expire d ∉ ops) (h : entryAfter c dest (some table) ops = some table') :
    table'.nextHop = table.nextHop := by
  induction ops generalizing table with
  | nil => rw [Option.some.inj h]
  | cons op ops ih =>
    have hop : ∀ d, op ≠ .expire d := by
      rintro d rfl
      exact hops d List.mem_cons_self
    unfold entryAfter at h
    obtain ⟨table1, htable1⟩ := entry_isSome c dest hop table
    rw [htable1] at h
    exact (ih (fun d hd => hops d (List.mem_cons_of_mem _ hd)) h).trans
      (nextHop_of_entry_some htable1)

theorem nextHop_of_handle {nRREQId : UInt32} {v : DeviceVar} {a : NodeAction} {o : Outcome}
    (h : handle c nRREQId v a = some o) (hl : OnePerDestination v.routeTable)
    (hfind : findRouteTable o.devVar.routeTable dest = some table') :
    (∃ table, findRouteTable v.routeTable dest = some table ∧ table'.nextHop = table.nextHop) ∨
      createdRoute c.ip v a = some (dest, table'.nextHop) := by
  rw [handle_entry h hl] at hfind
  rcases nextHop_entryAfter hfind with hold | ⟨seqNumber, hopCount, lifeTime, hmem⟩
  · exact Or.inl hold
  · obtain ⟨packet, rfl, hinsert⟩ := insert_mem_routeOps hmem
    cases hold : findRouteTable v.routeTable dest with
    | some table =>
      rw [hold] at hfind
      have hops : ∀ d, .expire d ∉ routeOps c v (.networkIn packet) := by
        intro d hd
        obtain ⟨time, hfire⟩ := expire_mem_routeOps hd
        cases hfire
      exact Or.inl ⟨table, rfl, nextHop_entryAfter_some hops hfind⟩
    | none =>
      right
      rcases hinsert with ⟨rreq, hp, hseen, heq⟩ | ⟨rrep, hp, hdest, heq⟩
      · simp only [reverseRoute, RouteOp.insert.injEq] at heq
        obtain ⟨rfl, -, -, hnext, -⟩ := heq
        simp only [createdRoute, hp]
        rw [if_pos ⟨hseen, hold⟩, hnext]
      · simp only [forwardRoute, RouteOp.insert.injEq] at heq
        obtain ⟨rfl, -, -, hnext, -⟩ := heq
        simp only [createdRoute, hp]
        rw [if_pos ⟨hdest, hold⟩, hnext]

end NextHop

/-! ## The graph of next hops -/

/-- Device `i` stores `n` as its next hop for `dest`. -/
def Net.NextHop (s : Net) (dest i n : IPAddress) : Prop :=
  i ≠ dest ∧ ∃ table, findRouteTable (s.device i).var.routeTable dest = some table ∧
    table.nextHop = n

/-- Device `i` has a usable route to `dest` through `n`: valid, and not expired. -/
def Net.UsableHop (s : Net) (dest i n : IPAddress) : Prop :=
  i ≠ dest ∧ ∃ table ∈ (s.device i).var.routeTable, table.destinationIPAddress = dest ∧
    table.routingFlags = .valid ∧ s.now < table.lifetime ∧ table.nextHop = n

/-- The action creates an entry through a neighbour from which the stored next hops lead back. -/
def ClosesLoop (s : Net) (a : NetAction) : Prop :=
  ∃ i act dest n, a.local s.sent = some (i, act) ∧
    createdRoute i (s.device i).var act = some (dest, n) ∧ i ≠ dest ∧
    ReflTransGen (s.NextHop dest) n i

variable {s : Net} {a : NetAction}

theorem nextHop_step {nodes : List IPAddress} {s' : Net} {i : IPAddress}
    {act : NodeAction} {o : Outcome} (hact : s.Acts nodes a i act o)
    (hl : OnePerDestination (s.device i).var.routeTable) (hs' : s' = s.after i act o)
    {dest j n : IPAddress} (h : s'.NextHop dest j n) :
    s.NextHop dest j n ∨
      j = i ∧ createdRoute i (s.device i).var act = some (dest, n) := by
  obtain ⟨hj, table', hfind, rfl⟩ := h
  subst hs'
  by_cases hji : j = i
  · subst hji
    rw [after_device_self] at hfind
    rcases nextHop_of_handle hact.handled hl hfind with ⟨table, hold, hnext⟩ | hcreated
    · exact Or.inl ⟨hj, table, hold, hnext.symm⟩
    · exact Or.inr ⟨rfl, hcreated⟩
  · rw [after_device_ne hji] at hfind
    exact Or.inl ⟨hj, table', hfind, rfl⟩

theorem acyclic_step {nodes : List IPAddress} {s' : Net}
    (hl : ∀ i, OnePerDestination (s.device i).var.routeTable)
    (hacyclic : ∀ dest, Acyclic (s.NextHop dest)) (hok : ¬ ClosesLoop s a)
    (h : s.step nodes a = some s') (dest : IPAddress) : Acyclic (s'.NextHop dest) := by
  rcases Net.step_cases h with ⟨time, -, -, -, rfl⟩ | ⟨i, act, o, hact, hs'⟩
  · exact hacyclic dest
  · by_cases hcreated : ∃ n, i ≠ dest ∧ createdRoute i (s.device i).var act = some (dest, n)
    · obtain ⟨n, hi, hcreated⟩ := hcreated
      refine (hacyclic dest).insert (a := i) (b := n) ?_ ?_
      · intro hback
        exact hok ⟨i, act, dest, n, hact.act_eq, hcreated, hi, hback⟩
      · intro j m hjm
        rcases nextHop_step hact (hl i) hs' hjm with hold | ⟨rfl, hnew⟩
        · exact Or.inl hold
        · rw [hcreated] at hnew
          exact Or.inr ⟨rfl, (Prod.mk.inj (Option.some.inj hnew)).2.symm⟩
    · apply (hacyclic dest).mono
      intro j m hjm
      rcases nextHop_step hact (hl i) hs' hjm with hold | ⟨rfl, hnew⟩
      · exact hold
      · exact absurd ⟨m, hjm.1, hnew⟩ hcreated

/-- Whether device `i` has a usable route to `dest` through `n`. -/
def Net.usableHop (s : Net) (dest i n : IPAddress) : Bool :=
  decide (i ≠ dest) && (s.device i).var.routeTable.any fun table =>
    decide (table.destinationIPAddress = dest ∧ table.routingFlags = .valid ∧
      s.now < table.lifetime ∧ table.nextHop = n)

theorem usableHop_iff {dest i n : IPAddress} :
    s.usableHop dest i n = true ↔ s.UsableHop dest i n := by
  simp [Net.usableHop, Net.UsableHop]

/-- The entry that the action creates, if any, is through the destination itself or through a device
that has no entry. -/
def createsThroughEnd (s : Net) (a : NetAction) : Bool :=
  (a.local s.sent).all fun (i, act) =>
    (createdRoute i (s.device i).var act).all fun (dest, n) =>
      decide (n ≠ i ∧ (n = dest ∨ findRouteTable (s.device n).var.routeTable dest = none))

theorem not_closesLoop_of_end (h : createsThroughEnd s a = true) : ¬ ClosesLoop s a := by
  rintro ⟨i, act, dest, n, hact, hcreated, -, hback⟩
  simp only [createsThroughEnd, hact, hcreated, Option.all_some, decide_eq_true_eq] at h
  obtain ⟨hni, hend⟩ := h
  rcases hback.cases_head with rfl | ⟨m, ⟨hn, table, hfind, -⟩, -⟩
  · exact hni rfl
  · rcases hend with rfl | hnone
    · exact hn rfl
    · rw [hnone] at hfind
      cases hfind

open Strategy

def discovery : List Strategy := [data 1 2 8, hear 2 0, due 2, hear 1 0]

theorem discovery_route : ((exec (Net.step [1, 2]) Net.init discovery).any
    fun r => r.2.usableHop 2 1 2 && r.1.all fun x => createsThroughEnd x.1 x.2) = true := by
  decide +kernel

/-- Time passes until `ms` milliseconds; devices 1, 2 and 3 send their hello messages. -/
def helloRound (ms : ℕ) : List Strategy :=
  [wait ms, due 1, due 1, due 2, due 2, due 3]

/-- Device 3 learns the route to device 1 from device 2, whose entry then expires. The next
discovery of device 2 reaches device 1 through device 3, which keeps device 2 as its next hop. -/
def loopStrategy : List Strategy :=
  [data 1 2 8, hear 2 0, due 2, hear 1 0, due 1, wait 320, due 1] ++
  helloRound 1000 ++ helloRound 2000 ++
  [wait 3000, due 1, due 1, due 1, due 2, due 2, due 2, due 3] ++
  helloRound 4000 ++ helloRound 5000 ++
  [data 3 1 5, hear 2 0, due 2, hear 3 0, due 3, wait 5320, due 3, wait 5600, due 2,
    data 2 1 6, hear 3 0, due 3, due 3, hear 1 0, due 1, hear 3 0, due 3, hear 2 0]

theorem loopStrategy_loops : ((exec (Net.step [1, 2, 3]) Net.init loopStrategy).any
    fun r => r.2.usableHop 1 2 3 && r.2.usableHop 1 3 2) = true := by
  decide +kernel

end NetSim.Aodv
