import NetSim.Dsr.SendBuffering

/-!
# A network of DSR nodes

Nodes on a static topology of symmetric links. A packet put out may reach a node at any later time,
any number of times, or never.
-/

namespace NetSim.Dsr

open NetSim.Lib

/-- The links between the nodes. -/
structure Topology where
  link : Nat → Nat → Bool
  symm : ∀ a b, link a b = link b a
  irrefl : ∀ a, link a a = false

structure Net where
  node : Nat → Node
  rreqs : List (Nat × Rreq)
  rreps : List Rrep
  answered : List (Nat × Output)
  failed : Bool

namespace Net

def start : Net :=
  { node := Node.start, rreqs := [], rreps := [], answered := [], failed := false }

/-- Whether `a` can happen at node `i`: a broadcast reaches neighbours, a reply its receiver. -/
def canHappen (T : Topology) (s : Net) (i : Nat) : NodeStep → Bool
  | .send packet _ => packet.szDestIP ≠ i
  | .rreq rreq _ => s.rreqs.any fun x => decide (x.2 = rreq) && T.link x.1 i
  | .rrep rrep _ => decide (rrep ∈ s.rreps) && decide (rrep.nReceiverId = i)
  | .timeout event _ => decide (event ∈ (s.node i).events)

def rreqsOf (i : Nat) (outputs : List Output) : List (Nat × Rreq) :=
  outputs.filterMap fun
    | .rreq rreq => some (i, rreq)
    | _ => none

def rrepsOf (outputs : List Output) : List Rrep :=
  outputs.filterMap fun
    | .rrep rrep => some rrep
    | _ => none

def answersOf (i : Nat) (a : NodeStep) (outputs : List Output) : List (Nat × Output) :=
  match a with
  | .rreq .. => outputs.map (i, ·)
  | _ => []

/-- Node `i` handles `a`. -/
def act (s : Net) (i : Nat) (a : NodeStep) : Net :=
  match (s.node i).handle a with
  | none => { s with failed := true }
  | some (outputs, node) =>
    { s with
      node := Function.update s.node i node
      rreqs := rreqsOf i outputs ++ s.rreqs
      rreps := rrepsOf outputs ++ s.rreps
      answered := answersOf i a outputs ++ s.answered }

def step (T : Topology) (s : Net) (x : Nat × NodeStep) : Option Net :=
  if !s.failed && s.canHappen T x.1 x.2 then some (s.act x.1 x.2) else none

end Net

/-! ## What the handlers do -/

def RreqTable.key (entry : RreqTable) : Nat × Nat × Nat :=
  (entry.initiator, entry.nIdentification, entry.target)

namespace Node

/-- The node has learned nothing. -/
structure Quiet (node node' : Node) : Prop where
  address : node'.address = node.address
  cache : ∀ c ∈ node'.pstruRouteCache, ∃ c' ∈ node.pstruRouteCache, c'.address = c.address
  table : ∀ e ∈ node'.pstruRREQTable, ∃ e' ∈ node.pstruRREQTable, e'.key = e.key
  events : ∀ event ∈ node'.events, event ∈ node.events
  handled : node'.handled = node.handled

structure Starts (node node' : Node) (target : Nat) (rreq : Rreq) : Prop where
  address : node'.address = node.address
  cache : ∀ c ∈ node'.pstruRouteCache, ∃ c' ∈ node.pstruRouteCache, c'.address = c.address
  initiator : rreq.initiator = node.address
  targetAddress : rreq.targetAddress = target
  list : rreq.address = [] ∧ rreq.nOptDataLen = 6
  table : ∀ e ∈ node'.pstruRREQTable, e.key = rreq.key ∨ ∃ e' ∈ node.pstruRREQTable, e'.key = e.key
  events : ∀ event ∈ node'.events, event ∈ node.events ∨ event.target = target
  handled : node'.handled = rreq.key :: node.handled

variable {node : Node} {dTime : ℚ}

theorem Quiet.refl (node : Node) : node.Quiet node :=
  ⟨rfl, fun c hc => ⟨c, hc, rfl⟩, fun e he => ⟨e, he, rfl⟩, fun _ h => h, rfl⟩

theorem quiet_checkRouteFound (node : Node) (target : Nat) (dTime : ℚ) :
    node.Quiet (node.checkRouteFound target dTime).2 :=
  ⟨rfl, fun _ hc => findCache_mem hc, fun e he => ⟨e, he, rfl⟩, fun _ h => h, rfl⟩

theorem initRouteRequest_starts (node : Node) (target : Nat) (dTime : ℚ) :
    node.Starts (node.initRouteRequest target dTime).2 target
      (node.initRouteRequest target dTime).1 := by
  refine ⟨rfl, fun c hc => ⟨c, hc, rfl⟩, rfl, rfl, ⟨rfl, rfl⟩, fun e he => ?_, fun event he => ?_, rfl⟩
  · rcases List.mem_append.1 he with he | he
    · exact .inr ⟨e, he, rfl⟩
    · rw [List.mem_singleton.1 he]
      exact .inl rfl
  · rcases List.mem_append.1 he with he | he
    · exact .inl he
    · rw [List.mem_singleton.1 he]
      exact .inr rfl

theorem retryRREQ_starts {target : Nat} {r : Rreq × Node} (h : node.retryRREQ target dTime = some r) :
    node.Starts r.2 target r.1 := by
  unfold retryRREQ at h
  split at h
  · cases h
  · cases h
    refine ⟨rfl, fun c hc => ⟨c, hc, rfl⟩, rfl, rfl, ⟨rfl, rfl⟩, fun e he => ?_, fun event he => ?_, rfl⟩
    · rcases mem_modifyRREQTable he with he | ⟨e', he', rfl⟩
      · exact .inr ⟨e, he, rfl⟩
      · refine .inl ?_
        unfold RreqTable.key Rreq.key
        rw [(getRREQTable_some he').2.1]
    · rcases List.mem_append.1 he with he | he
      · exact .inl he
      · rw [List.mem_singleton.1 he]
        exact .inr rfl

theorem Quiet.starts {node' node'' : Node} {target : Nat} {rreq : Rreq} (h : node.Quiet node')
    (h' : node'.Starts node'' target rreq) : node.Starts node'' target rreq := by
  refine ⟨h'.address.trans h.address, fun c hc => ?_, h'.initiator.trans h.address, h'.targetAddress,
    h'.list, fun e he => (h'.table e he).imp_right ?_, fun event he => ?_,
    h'.handled.trans (congrArg _ h.handled)⟩
  · obtain ⟨c', hc', heq⟩ := h'.cache c hc
    obtain ⟨c'', hc'', heq'⟩ := h.cache c' hc'
    exact ⟨c'', hc'', heq'.trans heq⟩
  · rintro ⟨e', he', heq⟩
    obtain ⟨e'', he'', heq'⟩ := h.table e' he'
    exact ⟨e'', he'', heq'.trans heq⟩
  · exact (h'.events event he).imp_left (h.events event)

theorem send_cases (node : Node) (packet : DataPacket) (dEventTime : ℚ) :
    let r := node.generalPacketProcessing packet dEventTime
    ((r.1 = [] ∨ ∃ nextHop, r.1 = [.data packet nextHop]) ∧ node.Quiet r.2) ∨
      ∃ rreq, r.1 = [.rreq rreq] ∧ node.Starts r.2 packet.szDestIP rreq := by
  intro r
  have hquiet := node.quiet_checkRouteFound packet.szDestIP dEventTime
  simp only [r]
  unfold generalPacketProcessing
  split
  · next heq =>
    rw [heq] at hquiet
    exact .inl ⟨.inr ⟨_, rfl⟩, hquiet⟩
  · next node' heq =>
    rw [heq] at hquiet
    unfold addToSendBuffer
    cases lookup SendBuffer.target packet.szDestIP node'.pstruSendBuffer with
    | none =>
      refine .inr ⟨_, rfl, hquiet.starts ?_⟩
      have h := initRouteRequest_starts { node' with
        pstruSendBuffer := node'.pstruSendBuffer ++ [⟨packet.szDestIP, [packet]⟩] }
        packet.szDestIP dEventTime
      exact ⟨h.1, h.2, h.3, h.4, h.5, h.6, h.7, h.8⟩
    | some b => exact .inl ⟨.inl rfl, ⟨hquiet.1, hquiet.2, hquiet.3, hquiet.4, hquiet.5⟩⟩

theorem timeout_cases {event : RreqTimeout} {dEventTime : ℚ} {r : List Output × Node}
    (h : node.handle (.timeout event dEventTime) = some r) :
    (r.1 = [] ∧ node.Quiet r.2) ∨
      ∃ rreq, r.1 = [.rreq rreq] ∧ node.Starts r.2 event.target rreq := by
  simp only [handle] at h
  split at h
  · have hquiet : node.Quiet
        ({ node with events := node.events.erase event }.checkRouteFound event.target dEventTime).2 :=
      ⟨rfl, fun _ hc => findCache_mem hc, fun e he => ⟨e, he, rfl⟩,
        fun _ h => List.mem_of_mem_erase h, rfl⟩
    unfold rreqTimeout at h
    split at h
    · next heq =>
      cases h
      rw [heq] at hquiet
      exact .inl ⟨rfl, hquiet⟩
    · next heq =>
      rw [heq] at hquiet
      split at h
      · cases h
      · split at h
        · obtain ⟨x, hx, rfl⟩ := Option.map_eq_some_iff.1 h
          exact .inr ⟨x.1, rfl, hquiet.starts (retryRREQ_starts hx)⟩
        · cases h
          exact .inl ⟨rfl, ⟨hquiet.1, hquiet.2,
            fun e he => hquiet.3 e (eraseFirst_subset he), hquiet.4, hquiet.5⟩⟩
  · cases h

structure Learns (node : Node) (rrep : Rrep) (dEventTime : ℚ) (r : List Output × Node) : Prop where
  address : r.2.address = node.address
  cache : r.2.pstruRouteCache =
    (node.updateRouteCache rrep.len.toNat rrep.address dEventTime).pstruRouteCache
  table : ∀ e ∈ r.2.pstruRREQTable, ∃ e' ∈ node.pstruRREQTable, e'.key = e.key
  events : ∀ event ∈ r.2.events, event ∈ node.events
  handled : r.2.handled = node.handled
  rreqs : ∀ rreq, .rreq rreq ∉ r.1
  rreps : ∀ rrep', .rrep rrep' ∈ r.1 → ∃ n, (rrep.address.take rrep.len.toNat).idxOf? node.address =
    some n ∧ rrep' = { rrep with nReceiverId := (rrep.address.take rrep.len.toNat).getD (n - 1) 0 }

theorem processRREP_learns (node : Node) (rrep : Rrep) (dEventTime : ℚ) :
    node.Learns rrep dEventTime (node.processRREP rrep dEventTime) := by
  have hmem {l : List DataPacket} {o : Output} {outputs : List Output}
      (ho : ∀ p, o ≠ .networkOut p) (h : o ∈ l.map Output.networkOut ++ outputs) : o ∈ outputs := by
    rcases List.mem_append.1 h with h | h
    · obtain ⟨p, -, rfl⟩ := List.mem_map.1 h
      exact absurd rfl (ho p)
    · exact h
  unfold processRREP forwardRREP
  dsimp only
  split
  · split
    · refine ⟨rfl, rfl, fun e he => ?_, fun event he => List.mem_of_mem_filter he, rfl,
        fun rreq h => ?_, fun rrep' h => ?_⟩
      · rcases mem_modifyRREQTable he with he | ⟨e', he', rfl⟩
        · exact ⟨e, he, rfl⟩
        · exact ⟨e', (getRREQTable_some he').1, rfl⟩
      · cases hmem (by simp) h
      · cases hmem (by simp) h
    · refine ⟨rfl, rfl, fun e he => ⟨e, he, rfl⟩, fun _ he => he, rfl, fun rreq h => ?_,
        fun rrep' h => ?_⟩
      · cases hmem (by simp) h
      · cases hmem (by simp) h
  · split
    · next n hn =>
      refine ⟨rfl, rfl, fun e he => ⟨e, he, rfl⟩, fun _ he => he, rfl, fun rreq h => ?_,
        fun rrep' h => ?_⟩
      · cases List.mem_singleton.1 (hmem (by simp) h)
      · cases List.mem_singleton.1 (hmem (by simp) h)
        exact ⟨n, hn, rfl⟩
    · refine ⟨rfl, rfl, fun e he => ⟨e, he, rfl⟩, fun _ he => he, rfl, fun rreq h => ?_,
        fun rrep' h => ?_⟩
      · cases hmem (by simp) h
      · cases hmem (by simp) h

inductive Answer (node : Node) (rreq : Rreq) (dEventTime : ℚ) : List Output → Prop
  | target (rrep : Rrep) (htarget : rreq.targetAddress = node.address)
      (hrrep : node.generateRREP rreq = some rrep) : Answer node rreq dEventTime [.rrep rrep]
  | listed (htarget : rreq.targetAddress ≠ node.address)
      (hlisted : node.address ∈ rreq.address.take rreq.len.toNat) : Answer node rreq dEventTime []
  | cached (cache : RouteCache) (htarget : rreq.targetAddress ≠ node.address)
      (hlisted : node.address ∉ rreq.address.take rreq.len.toNat)
      (hcache : (node.checkRouteFound rreq.targetAddress dEventTime).1 = some cache) :
      Answer node rreq dEventTime
        ((node.generateRREPUsingRouteCache rreq cache).toList.map Output.rrep)
  | forward (htarget : rreq.targetAddress ≠ node.address)
      (hlisted : node.address ∉ rreq.address.take rreq.len.toNat)
      (hcache : (node.checkRouteFound rreq.targetAddress dEventTime).1 = none) :
      Answer node rreq dEventTime [.rreq { rreq with
        address := rreq.address.take rreq.len.toNat ++ [node.address]
        nOptDataLen := (rreq.nOptDataLen + 4) % 2 ^ 8 }]

structure Answers (node : Node) (rreq : Rreq) (dEventTime : ℚ) (r : List Output × Node) : Prop where
  answer : node.Answer rreq dEventTime r.1
  address : r.2.address = node.address
  cache : ∀ c ∈ r.2.pstruRouteCache, ∃ c' ∈ node.pstruRouteCache, c'.address = c.address
  table : ∀ e ∈ r.2.pstruRREQTable, e.key = rreq.key ∨ ∃ e' ∈ node.pstruRREQTable, e'.key = e.key
  events : ∀ event ∈ r.2.events, event ∈ node.events
  handled : r.2.handled = rreq.key :: node.handled

theorem processRREQ_cases {rreq : Rreq} {dEventTime : ℚ} {r : List Output × Node}
    (h : node.processRREQ rreq dEventTime = some r) :
    (checkEntryInRREQTable rreq node.pstruRREQTable = true ∧ r = ([], node)) ∨
      checkEntryInRREQTable rreq node.pstruRREQTable = false ∧ node.Answers rreq dEventTime r := by
  unfold processRREQ at h
  cases hdup : checkEntryInRREQTable rreq node.pstruRREQTable with
  | true =>
    rw [if_pos hdup] at h
    cases h
    exact .inl ⟨rfl, rfl⟩
  | false =>
    rw [if_neg (by rw [hdup]; exact Bool.false_ne_true)] at h
    refine .inr ⟨rfl, ?_⟩
    -- the entries for the request
    have htable : ∀ {l : List RreqTable} {n : Nat}, (∀ e ∈ l, e.key = rreq.key ∨
        ∃ e' ∈ node.pstruRREQTable, e'.key = e.key) → ∀ e ∈ l ++ [entryFor rreq n],
        e.key = rreq.key ∨ ∃ e' ∈ node.pstruRREQTable, e'.key = e.key := by
      intro l n hl e he
      rcases List.mem_append.1 he with he | he
      · exact hl e he
      · rw [List.mem_singleton.1 he]
        exact .inl rfl
    have hone := htable (n := 1) fun e he => .inr ⟨e, he, rfl⟩
    dsimp only at h
    split at h
    · next htarget =>
      obtain ⟨rrep, hrrep, rfl⟩ := Option.map_eq_some_iff.1 h
      exact ⟨.target rrep htarget hrrep, rfl, fun c hc => ⟨c, hc, rfl⟩, hone, fun _ he => he, rfl⟩
    · next htarget =>
      split at h
      · cases h
      · split at h
        · next hlisted =>
          cases h
          exact ⟨.listed htarget hlisted, rfl, fun c hc => ⟨c, hc, rfl⟩, hone, fun _ he => he, rfl⟩
        · next hlisted =>
          split at h
          · next cache node' heq =>
            cases h
            have hnode' := congrArg Prod.snd heq
            subst hnode'
            exact ⟨.cached cache htarget hlisted (congrArg Prod.fst heq), rfl,
              fun _ hc => findCache_mem hc, htable (n := 0) hone, fun _ he => he, rfl⟩
          · next node' heq =>
            cases h
            have hnode' := congrArg Prod.snd heq
            subst hnode'
            exact ⟨.forward htarget hlisted (congrArg Prod.fst heq), rfl,
              fun _ hc => findCache_mem hc, htable (n := 0) hone, fun _ he => he, rfl⟩

end Node

namespace Net

variable {T : Topology} {s s' : Net} {i : Nat} {a : NodeStep}

theorem step_cases (h : s.step T (i, a) = some s') :
    s.canHappen T i a = true ∧
      (((s.node i).handle a = none ∧ s' = { s with failed := true }) ∨
        ∃ outputs node, (s.node i).handle a = some (outputs, node) ∧
          s' = { s with
            node := Function.update s.node i node
            rreqs := rreqsOf i outputs ++ s.rreqs
            rreps := rrepsOf outputs ++ s.rreps
            answered := answersOf i a outputs ++ s.answered }) := by
  unfold step at h
  split at h
  · next hcan =>
    cases h
    refine ⟨((Bool.and_eq_true _ _).mp hcan).2, ?_⟩
    unfold act
    cases hr : (s.node i).handle a with
    | none => exact .inl ⟨rfl, rfl⟩
    | some r => exact .inr ⟨r.1, r.2, rfl, rfl⟩
  · cases h

theorem mem_rreqsOf {outputs : List Output} {x : Nat × Rreq} :
    x ∈ rreqsOf i outputs ↔ x.1 = i ∧ .rreq x.2 ∈ outputs := by
  unfold rreqsOf
  rw [List.mem_filterMap]
  constructor
  · rintro ⟨o, ho, h⟩
    cases o with
    | rreq rreq =>
      cases h
      exact ⟨rfl, ho⟩
    | _ => cases h
  · rintro ⟨rfl, h⟩
    exact ⟨_, h, rfl⟩

theorem mem_rrepsOf {outputs : List Output} {rrep : Rrep} :
    rrep ∈ rrepsOf outputs ↔ .rrep rrep ∈ outputs := by
  unfold rrepsOf
  rw [List.mem_filterMap]
  constructor
  · rintro ⟨o, ho, h⟩
    cases o with
    | rrep rrep =>
      cases h
      exact ho
    | _ => cases h
  · intro h
    exact ⟨_, h, rfl⟩

end Net

end NetSim.Dsr
