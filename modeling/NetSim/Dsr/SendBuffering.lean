import NetSim.Dsr.Node
import NetSim.Lib.Run

/-!
# Packets that wait for a route

A packet waits with one request-table entry and one timer, and leaves with the reply, as long as no
discovery starts for a target with an open entry and no reply is for a buffer behind the first.
-/

namespace NetSim.Dsr

open NetSim.Lib

/-- What can happen to a node. -/
inductive NodeStep
  | send (packet : DataPacket) (dEventTime : ℚ)
  | rreq (rreq : Rreq) (dEventTime : ℚ)
  | rrep (rrep : Rrep) (dEventTime : ℚ)
  | timeout (event : RreqTimeout) (dEventTime : ℚ)

namespace Node

def handle (node : Node) : NodeStep → Option (List Output × Node)
  | .send packet dEventTime => some (node.generalPacketProcessing packet dEventTime)
  | .rreq rreq dEventTime => node.processRREQ rreq dEventTime
  | .rrep rrep dEventTime => some (node.processRREP rrep dEventTime)
  | .timeout event dEventTime =>
    if event ∈ node.events then
      { node with events := node.events.erase event }.rreqTimeout event.target dEventTime
    else none

def step (node : Node) (a : NodeStep) : Option Node := (node.handle a).map Prod.snd

/-! ## The promises -/

def outstanding (node : Node) (target : Nat) : List RreqTable :=
  node.pstruRREQTable.filter fun entry =>
    entry.target = target && node.events.any fun event => event.nEventId = entry.nEventId

/-- What holds of a node in every state. -/
structure NotStranded (node : Node) : Prop where
  discovery : ∀ buffer ∈ node.pstruSendBuffer, buffer.packet ≠ [] →
    ∃ entry event, node.outstanding buffer.target = [entry] ∧ entry.initiator = node.address ∧
      entry.flag = false ∧ (node.events.filter fun event => event.target = buffer.target) = [event] ∧
      event.nEventId = entry.nEventId
  timeout : ∀ event ∈ node.events, ∀ dEventTime,
    (node.checkRouteFound event.target dEventTime).1 = none →
      ∃ entry, getRREQTable event.target node.pstruRREQTable = some entry ∧
        entry.initiator = node.address ∧ entry.nEventId = event.nEventId

def isRouted (node : Node) (buffer : SendBuffer) : Bool :=
  node.pstruRouteCache.any fun cache => cache.address.contains buffer.target

/-- `fn_NetSim_DSR_CheckSendBuffer` sends the packets of the buffers with a route once and in order,
and keeps the others. -/
def ChecksBuffers (node : Node) : Prop :=
  node.checkSendBuffer.1 = (node.pstruSendBuffer.filter node.isRouted).flatMap SendBuffer.packet ∧
    node.checkSendBuffer.2.pstruSendBuffer =
      node.pstruSendBuffer.filter fun buffer => !node.isRouted buffer

/-- What holds of a step from `node`. -/
def StepExact (node : Node) : NodeStep → Prop
  | .rrep rrep dEventTime =>
    (node.updateRouteCache rrep.len.toNat rrep.address dEventTime).ChecksBuffers
  | _ => True

/-- The condition on a step from `node`. -/
def StepOk (node : Node) : NodeStep → Prop
  | .send packet dEventTime =>
    (node.checkRouteFound packet.szDestIP dEventTime).1 = none →
      lookup SendBuffer.target packet.szDestIP node.pstruSendBuffer = none →
      ∀ entry ∈ node.pstruRREQTable, entry.target = packet.szDestIP → entry.flag = true
  | .rrep rrep dEventTime =>
    ∀ buffer ∈ node.pstruSendBuffer.tail,
      (node.updateRouteCache rrep.len.toNat rrep.address dEventTime).isRouted buffer = false
  | _ => True

instance (node : Node) (a : NodeStep) : Decidable (node.StepOk a) := by
  unfold StepOk
  split <;> infer_instance

end Node

section

variable {dTime : ℚ} {address : Nat} {caches : List RouteCache}

theorem findCache_mem {c : RouteCache} (h : c ∈ (findCache dTime address caches).2) :
    ∃ c' ∈ caches, c'.address = c.address := by
  induction caches with
  | nil => cases h
  | cons cache caches ih =>
    unfold findCache at h
    split at h
    · obtain ⟨c', hc', heq⟩ := ih h
      exact ⟨c', List.mem_cons_of_mem _ hc', heq⟩
    · split at h
      · rcases List.mem_cons.1 h with rfl | h
        · exact ⟨cache, List.mem_cons_self, rfl⟩
        · exact ⟨c, List.mem_cons_of_mem _ h, rfl⟩
      · rcases List.mem_cons.1 h with rfl | h
        · exact ⟨_, List.mem_cons_self, rfl⟩
        · obtain ⟨c', hc', heq⟩ := ih h
          exact ⟨c', List.mem_cons_of_mem _ hc', heq⟩

theorem findCache_none (h : (findCache dTime address caches).1 = none) :
    ∀ c ∈ (findCache dTime address caches).2, address ∉ c.address := by
  induction caches with
  | nil => exact nofun
  | cons cache caches ih =>
    unfold findCache at h ⊢
    split at h
    · next hexp =>
      rw [if_pos hexp]
      exact ih h
    · next hexp =>
      rw [if_neg hexp]
      split at h
      · cases h
      · next hmem =>
        rw [if_neg hmem]
        intro c hc
        rcases List.mem_cons.1 hc with rfl | hc
        · exact hmem
        · exact ih h c hc

theorem findCache_some {c : RouteCache} (h : (findCache dTime address caches).1 = some c) :
    address ∈ c.address ∧ ∃ c' ∈ caches, c'.address = c.address := by
  induction caches with
  | nil => cases h
  | cons cache caches ih =>
    unfold findCache at h
    split at h
    · obtain ⟨hmem, c', hc', heq⟩ := ih h
      exact ⟨hmem, c', List.mem_cons_of_mem _ hc', heq⟩
    · split at h
      · next hmem =>
        cases h
        exact ⟨hmem, cache, List.mem_cons_self, rfl⟩
      · obtain ⟨hmem, c', hc', heq⟩ := ih h
        exact ⟨hmem, c', List.mem_cons_of_mem _ hc', heq⟩

end

/-! ## The request table -/

section

variable {target : Nat} {table extra : List RreqTable} {entry : RreqTable}

theorem getRREQTable_some (h : getRREQTable target table = some entry) :
    entry ∈ table ∧ entry.target = target ∧ entry.flag = false := by
  refine ⟨List.mem_of_find?_eq_some h, ?_⟩
  simpa using List.find?_some h

theorem getRREQTable_append (h : getRREQTable target table = some entry) :
    getRREQTable target (table ++ extra) = some entry := by
  unfold getRREQTable at h ⊢
  rw [List.find?_append, h]
  rfl

theorem getRREQTable_none :
    getRREQTable target table = none ↔ ∀ e ∈ table, e.target = target → e.flag = true := by
  unfold getRREQTable
  simp

variable {f : RreqTable → RreqTable}

theorem getRREQTable_modify_ne {other : Nat}
    (hf : ∀ e, (f e).target = e.target) (h : other ≠ target) :
    getRREQTable other (modifyRREQTable target f table) = getRREQTable other table := by
  induction table with
  | nil => rfl
  | cons e table ih =>
    unfold modifyRREQTable
    unfold getRREQTable at ih ⊢
    split
    · next he =>
      have hkey : e.target = target := of_decide_eq_true ((Bool.and_eq_true _ _).mp he).1
      have hne : ¬ e.target = other := fun h' => h (h'.symm.trans hkey)
      rw [List.find?_cons, List.find?_cons, hf]
      simp [hne]
    · rw [List.find?_cons, List.find?_cons, ih]

theorem getRREQTable_modify_self (hf : ∀ e, (f e).target = e.target ∧ (f e).flag = e.flag)
    (h : getRREQTable target table = some entry) :
    getRREQTable target (modifyRREQTable target f table) = some (f entry) := by
  induction table with
  | nil => cases h
  | cons e table ih =>
    unfold modifyRREQTable
    unfold getRREQTable at ih h ⊢
    rw [List.find?_cons] at h
    split
    · next he =>
      rw [he] at h
      cases h
      rw [List.find?_cons, (hf entry).1, (hf entry).2, he]
    · next he =>
      have he := (Bool.not_eq_true _).mp he
      rw [he] at h
      rw [List.find?_cons, he]
      exact ih h

theorem mem_modifyRREQTable {e : RreqTable} (h : e ∈ modifyRREQTable target f table) :
    e ∈ table ∨ ∃ e', getRREQTable target table = some e' ∧ e = f e' := by
  induction table with
  | nil => cases h
  | cons e' table ih =>
    unfold modifyRREQTable at h
    unfold getRREQTable at ih ⊢
    rw [List.find?_cons]
    split at h
    · next he =>
      rw [he]
      rcases List.mem_cons.1 h with rfl | h
      · exact .inr ⟨e', rfl, rfl⟩
      · exact .inl (List.mem_cons_of_mem _ h)
    · next he =>
      rw [(Bool.not_eq_true _).mp he]
      rcases List.mem_cons.1 h with rfl | h
      · exact .inl List.mem_cons_self
      · exact (ih h).imp_left (List.mem_cons_of_mem _)

theorem getRREQTable_erase_ne {other : Nat} (h : other ≠ target) :
    getRREQTable other (eraseFirst RreqTable.target target table) = getRREQTable other table := by
  induction table with
  | nil => rfl
  | cons e table ih =>
    unfold eraseFirst at ih ⊢
    rw [List.eraseP_cons]
    unfold getRREQTable at ih ⊢
    by_cases he : e.target = target
    · rw [decide_eq_true he, cond_true, List.find?_cons]
      have hne : ¬ e.target = other := fun h' => h (h'.symm.trans he)
      simp [hne]
    · rw [decide_eq_false he, cond_false, List.find?_cons, List.find?_cons, ih]

end

/-! ## The numbers of the timers -/

def DistinctTimers (table : List RreqTable) : Prop :=
  ((table.map RreqTable.nEventId).filter (0 < ·)).Nodup

section

variable {target n : Nat} {table extra : List RreqTable} {f : RreqTable → RreqTable}

section

variable (h : DistinctTimers table)

include h

theorem DistinctTimers.append (hextra : ∀ e ∈ extra, e.nEventId = 0) :
    DistinctTimers (table ++ extra) := by
  unfold DistinctTimers
  have hnil : (extra.map RreqTable.nEventId).filter (0 < ·) = [] := by
    refine List.filter_eq_nil_iff.2 fun x hx => ?_
    obtain ⟨e, he, rfl⟩ := List.mem_map.1 hx
    simp [hextra e he]
  rw [List.map_append, List.filter_append, hnil, List.append_nil]
  exact h

theorem DistinctTimers.append_fresh {entry : RreqTable}
    (hlt : ∀ e ∈ table, e.nEventId < entry.nEventId) : DistinctTimers (table ++ [entry]) := by
  unfold DistinctTimers
  rw [List.map_append, List.filter_append]
  refine List.nodup_append.2 ⟨h, (List.nodup_singleton _).filter _, ?_⟩
  rintro x hx y hy rfl
  obtain ⟨e, he, rfl⟩ := List.mem_map.1 (List.mem_of_mem_filter hx)
  have hy := List.mem_of_mem_filter hy
  rw [List.map_singleton, List.mem_singleton] at hy
  exact absurd hy (Nat.ne_of_lt (hlt e he))

theorem DistinctTimers.modify (hf : ∀ e, (f e).nEventId = e.nEventId) :
    DistinctTimers (modifyRREQTable target f table) := by
  have hids : (modifyRREQTable target f table).map RreqTable.nEventId =
      table.map RreqTable.nEventId := by
    clear h
    induction table with
    | nil => rfl
    | cons e table ih =>
      unfold modifyRREQTable
      split
      · rw [List.map_cons, List.map_cons, hf]
      · rw [List.map_cons, List.map_cons, ih]
  unfold DistinctTimers
  rw [hids]
  exact h

theorem DistinctTimers.modify_fresh (hf : ∀ e, (f e).nEventId = n)
    (hlt : ∀ e ∈ table, e.nEventId < n) : DistinctTimers (modifyRREQTable target f table) := by
  induction table with
  | nil => exact h
  | cons e table ih =>
    have htail : DistinctTimers table :=
      List.Nodup.sublist ((List.sublist_cons_self _ _).filter _) h
    have hlt' : ∀ e ∈ table, e.nEventId < n := fun e he => hlt e (List.mem_cons_of_mem _ he)
    unfold modifyRREQTable
    unfold DistinctTimers at h ⊢
    split
    · rw [List.map_cons, hf, List.filter_cons]
      split
      · refine List.nodup_cons.2 ⟨fun hmem => ?_, htail⟩
        obtain ⟨e', he', heq⟩ := List.mem_map.1 (List.mem_of_mem_filter hmem)
        exact absurd heq (Nat.ne_of_lt (hlt' e' he'))
      · exact htail
    · rw [List.map_cons, List.filter_cons] at h ⊢
      split
      · next hpos =>
        rw [if_pos hpos] at h
        refine List.nodup_cons.2 ⟨fun hmem => ?_, ih htail hlt'⟩
        obtain ⟨hmem, -⟩ := List.mem_filter.1 hmem
        obtain ⟨e', he', heq⟩ := List.mem_map.1 hmem
        rcases mem_modifyRREQTable he' with he' | ⟨e'', -, rfl⟩
        · exact (List.nodup_cons.1 h).1 (List.mem_filter.2 ⟨List.mem_map.2 ⟨e', he', heq⟩, hpos⟩)
        · rw [hf] at heq
          exact absurd heq.symm (Nat.ne_of_lt (hlt e List.mem_cons_self))
      · exact ih htail hlt'

theorem DistinctTimers.erase : DistinctTimers (eraseFirst RreqTable.target target table) :=
  List.Nodup.sublist ((List.eraseP_sublist.map _).filter _) h

theorem DistinctTimers.eq {a b : RreqTable} (ha : a ∈ table)
    (hb : b ∈ table) (heq : a.nEventId = b.nEventId) (hpos : 0 < a.nEventId) : a = b := by
  induction table with
  | nil => cases ha
  | cons e table ih =>
    unfold DistinctTimers at h
    rw [List.map_cons, List.filter_cons] at h
    have hmem : ∀ c ∈ table, 0 < c.nEventId →
        c.nEventId ∈ (table.map RreqTable.nEventId).filter (0 < ·) := fun c hc hc0 =>
      List.mem_filter.2 ⟨List.mem_map_of_mem hc, decide_eq_true hc0⟩
    have htail : DistinctTimers table := by
      split at h
      · exact (List.nodup_cons.1 h).2
      · exact h
    rcases List.mem_cons.1 ha with rfl | ha'
    · rcases List.mem_cons.1 hb with rfl | hb'
      · rfl
      · rw [if_pos (decide_eq_true hpos)] at h
        exact absurd (heq ▸ hmem b hb' (heq ▸ hpos)) (List.nodup_cons.1 h).1
    · rcases List.mem_cons.1 hb with rfl | hb'
      · rw [if_pos (decide_eq_true (heq ▸ hpos))] at h
        exact absurd (heq ▸ hmem a ha' hpos) (List.nodup_cons.1 h).1
      · exact ih htail ha' hb'

end

end

theorem eq_singleton {α β : Type*} {f : α → β} {l : List α} {a : α} (hl : (l.map f).Nodup) (ha : a ∈ l)
    (h : ∀ b ∈ l, b = a) : l = [a] := by
  cases l with
  | nil => cases ha
  | cons b l =>
    rw [h b List.mem_cons_self] at hl ⊢
    cases l with
    | nil => rfl
    | cons c l =>
      rw [h c (List.mem_cons_of_mem _ List.mem_cons_self)] at hl
      exact absurd List.mem_cons_self (List.nodup_cons.1 hl).1

namespace Node

structure Inv (node : Node) : Prop where
  event : ∀ event ∈ node.events, 0 < event.nEventId ∧ event.nEventId ≤ node.lastEventId
  entry : ∀ entry ∈ node.pstruRREQTable, entry.nEventId ≤ node.lastEventId
  distinct : DistinctTimers node.pstruRREQTable
  targets : (node.events.map RreqTimeout.target).Nodup
  found : ∀ event ∈ node.events, ∃ entry,
    getRREQTable event.target node.pstruRREQTable = some entry ∧ entry.initiator = node.address ∧
      entry.nEventId = event.nEventId
  buffers : (node.pstruSendBuffer.map SendBuffer.target).Nodup
  pending : ∀ buffer ∈ node.pstruSendBuffer, ∃ event ∈ node.events, event.target = buffer.target
  uncached : ∀ buffer ∈ node.pstruSendBuffer, ∀ cache ∈ node.pstruRouteCache,
    buffer.target ∉ cache.address

section

variable {node : Node}

theorem Inv.eq_of_target (h : node.Inv) {a b : RreqTimeout} (ha : a ∈ node.events)
    (hb : b ∈ node.events) (heq : a.target = b.target) : a = b :=
  List.inj_on_of_nodup_map h.targets ha hb heq

theorem Inv.toNotStranded (h : node.Inv) : node.NotStranded := by
  refine ⟨fun buffer hb _ => ?_, fun event hevent _ _ => h.found event hevent⟩
  obtain ⟨event, hevent, htarget⟩ := h.pending buffer hb
  obtain ⟨entry, hget, hown, hid⟩ := h.found event hevent
  obtain ⟨hmem, hkey, hflag⟩ := getRREQTable_some hget
  have hpos : 0 < entry.nEventId := hid ▸ (h.event event hevent).1
  -- an entry for the target with a pending timer is this one
  have huniq : ∀ e ∈ node.outstanding buffer.target, e = entry := by
    intro e he
    obtain ⟨he, hcond⟩ := List.mem_filter.1 he
    obtain ⟨hkey', hany⟩ := (Bool.and_eq_true _ _).mp hcond
    obtain ⟨event', hevent', heq⟩ := List.any_eq_true.1 hany
    have heq := of_decide_eq_true heq
    obtain ⟨entry', hget', -, hid'⟩ := h.found event' hevent'
    obtain ⟨hmem', hkey'', -⟩ := getRREQTable_some hget'
    have hsame : entry' = e := h.distinct.eq hmem' he (hid'.trans heq)
      (hid' ▸ (h.event event' hevent').1)
    have hev : event' = event := h.eq_of_target hevent' hevent
      (by rw [← hkey'', hsame, of_decide_eq_true hkey', htarget])
    exact h.distinct.eq he hmem (by rw [← heq, hev, hid]) (heq ▸ (h.event event' hevent').1)
  have hin : entry ∈ node.outstanding buffer.target := by
    refine List.mem_filter.2 ⟨hmem, (Bool.and_eq_true _ _).mpr ⟨?_, ?_⟩⟩
    · exact decide_eq_true (hkey.trans htarget)
    · exact List.any_eq_true.2 ⟨event, hevent, decide_eq_true hid.symm⟩
  have hnodup : ((node.outstanding buffer.target).map RreqTable.nEventId).Nodup := by
    have hself : ((node.outstanding buffer.target).map RreqTable.nEventId).filter (0 < ·) =
        (node.outstanding buffer.target).map RreqTable.nEventId := by
      refine List.filter_eq_self.2 fun x hx => ?_
      obtain ⟨e, he, rfl⟩ := List.mem_map.1 hx
      rw [huniq e he]
      exact decide_eq_true hpos
    rw [← hself]
    exact h.distinct.sublist ((List.filter_sublist.map _).filter _)
  refine ⟨entry, event, eq_singleton hnodup hin huniq, hown, hflag, ?_, hid.symm⟩
  refine eq_singleton (h.targets.sublist (List.filter_sublist.map _)) ?_ fun event' he => ?_
  · exact List.mem_filter.2 ⟨hevent, decide_eq_true htarget⟩
  · obtain ⟨he, heq⟩ := List.mem_filter.1 he
    exact h.eq_of_target he hevent ((of_decide_eq_true heq).trans htarget.symm)

/-! ## The handlers -/

theorem Inv.withCache (h : node.Inv) {caches : List RouteCache}
    (hc : ∀ c ∈ caches, ∃ c' ∈ node.pstruRouteCache, c'.address = c.address) :
    Inv { node with pstruRouteCache := caches } := by
  refine ⟨h.event, h.entry, h.distinct, h.targets, h.found, h.buffers, h.pending, ?_⟩
  intro buffer hb cache hmem
  obtain ⟨c', hc', heq⟩ := hc cache hmem
  rw [← heq]
  exact h.uncached buffer hb c' hc'

theorem Inv.checkRouteFound (h : node.Inv) (destAddress : Nat) (dTime : ℚ) :
    (node.checkRouteFound destAddress dTime).2.Inv :=
  h.withCache fun _ hc => findCache_mem hc

theorem Inv.record (h : node.Inv) {extra : List RreqTable} (he : ∀ e ∈ extra, e.nEventId = 0)
    (handled : List (Nat × Nat × Nat)) :
    Inv { node with pstruRREQTable := node.pstruRREQTable ++ extra, handled := handled } := by
  refine ⟨h.event, fun e hmem => ?_, h.distinct.append he, h.targets, fun event hevent => ?_,
    h.buffers, h.pending, h.uncached⟩
  · rcases List.mem_append.1 hmem with hmem | hmem
    · exact h.entry e hmem
    · rw [he e hmem]
      exact Nat.zero_le _
  · obtain ⟨entry, hget, hentry⟩ := h.found event hevent
    exact ⟨entry, getRREQTable_append hget, hentry⟩

variable {dEventTime : ℚ}

theorem Inv.processRREQ (h : node.Inv) {rreq : Rreq} {r : List Output × Node}
    (hr : node.processRREQ rreq dEventTime = some r) : r.2.Inv := by
  have hone : ∀ n, ∀ e ∈ [entryFor rreq n], e.nEventId = 0 := by
    intro n e he
    rw [List.mem_singleton.1 he]
    rfl
  have hrec := h.record (hone 1) (rreq.key :: node.handled)
  unfold Node.processRREQ at hr
  split at hr
  · cases hr
    exact h
  · dsimp only at hr
    split at hr
    · obtain ⟨rrep, -, rfl⟩ := Option.map_eq_some_iff.1 hr
      exact hrec
    · split at hr
      · cases hr
      · split at hr
        · cases hr
          exact hrec
        · have hrec := (hrec.record (hone 0) (rreq.key :: node.handled)).checkRouteFound
            rreq.targetAddress dEventTime
          split at hr
          · next heq =>
            cases hr
            rw [heq] at hrec
            exact hrec
          · next heq =>
            cases hr
            rw [heq] at hrec
            exact hrec

theorem Inv.discover (h : node.Inv) {packet : DataPacket} {dTime : ℚ}
    (hroute : ∀ c ∈ node.pstruRouteCache, packet.szDestIP ∉ c.address)
    (hnew : lookup SendBuffer.target packet.szDestIP node.pstruSendBuffer = none)
    (hclosed : ∀ e ∈ node.pstruRREQTable, e.target = packet.szDestIP → e.flag = true) :
    (initRouteRequest { node with
        pstruSendBuffer := node.pstruSendBuffer ++ [⟨packet.szDestIP, [packet]⟩] }
      packet.szDestIP dTime).2.Inv := by
  have hnone : getRREQTable packet.szDestIP node.pstruRREQTable = none := getRREQTable_none.2 hclosed
  have htarget : ∀ event ∈ node.events, event.target ≠ packet.szDestIP := by
    intro event hevent heq
    obtain ⟨entry, hget, -⟩ := h.found event hevent
    rw [heq, hnone] at hget
    cases hget
  refine ⟨fun event hevent => ?_, fun e he => ?_, ?_, ?_, fun event hevent => ?_, ?_,
    fun buffer hb => ?_, fun buffer hb => ?_⟩
  · rcases List.mem_append.1 hevent with hevent | hevent
    · exact ⟨(h.event event hevent).1, Nat.le_succ_of_le (h.event event hevent).2⟩
    · rw [List.mem_singleton.1 hevent]
      exact ⟨Nat.succ_pos _, Nat.le_refl _⟩
  · rcases List.mem_append.1 he with he | he
    · exact Nat.le_succ_of_le (h.entry e he)
    · rw [List.mem_singleton.1 he]
      exact Nat.le_refl _
  · exact h.distinct.append_fresh fun e he => Nat.lt_succ_of_le (h.entry e he)
  · show ((node.events ++ [_]).map _).Nodup
    rw [List.map_append, List.nodup_append]
    refine ⟨h.targets, List.nodup_singleton _, ?_⟩
    rintro x hx y hy rfl
    obtain ⟨event, hevent, rfl⟩ := List.mem_map.1 hx
    exact htarget event hevent (List.mem_singleton.1 hy)
  · rcases List.mem_append.1 hevent with hevent | hevent
    · obtain ⟨entry, hget, hentry⟩ := h.found event hevent
      exact ⟨entry, getRREQTable_append hget, hentry⟩
    · rw [List.mem_singleton.1 hevent]
      refine ⟨⟨0, 1, packet.szDestIP, (node.nRREQIdentification + 1) % 2 ^ 32 % 2 ^ 16,
        node.lastEventId + 1, false, node.address⟩, ?_, rfl, rfl⟩
      unfold getRREQTable at hnone ⊢
      show List.find? _ (node.pstruRREQTable ++ [_]) = _
      rw [List.find?_append, hnone]
      simp
  · exact nodup_append_single h.buffers hnew
  · rcases List.mem_append.1 hb with hb | hb
    · obtain ⟨event, hevent, heq⟩ := h.pending buffer hb
      exact ⟨event, List.mem_append_left _ hevent, heq⟩
    · rw [List.mem_singleton.1 hb]
      exact ⟨_, List.mem_append_right _ (List.mem_singleton_self _), rfl⟩
  · rcases List.mem_append.1 hb with hb | hb
    · exact h.uncached buffer hb
    · rw [List.mem_singleton.1 hb]
      exact hroute

theorem Inv.generalPacketProcessing (h : node.Inv) {packet : DataPacket}
    (hok : node.StepOk (.send packet dEventTime)) :
    (node.generalPacketProcessing packet dEventTime).2.Inv := by
  have hcache := h.checkRouteFound packet.szDestIP dEventTime
  unfold Node.generalPacketProcessing
  split
  · next heq =>
    rw [heq] at hcache
    exact hcache
  · next node' heq =>
    have hnode' : node' = (node.checkRouteFound packet.szDestIP dEventTime).2 := by rw [heq]
    have hnone : (node.checkRouteFound packet.szDestIP dEventTime).1 = none := by rw [heq]
    rw [← hnode'] at hcache
    have hroute : ∀ c ∈ node'.pstruRouteCache, packet.szDestIP ∉ c.address :=
      hnode' ▸ findCache_none hnone
    have hsend : node'.pstruSendBuffer = node.pstruSendBuffer := hnode' ▸ rfl
    have htable : node'.pstruRREQTable = node.pstruRREQTable := hnode' ▸ rfl
    unfold addToSendBuffer
    cases hb : lookup SendBuffer.target packet.szDestIP node'.pstruSendBuffer with
    | none =>
      exact hcache.discover hroute hb (htable ▸ hok hnone (hsend ▸ hb))
    | some b =>
      refine ⟨hcache.event, hcache.entry, hcache.distinct, hcache.targets, hcache.found,
        nodup_modifyFirst (fun _ hc => hc) hcache.buffers, fun buffer hbuffer => ?_,
        fun buffer hbuffer => ?_⟩
      · rcases mem_modifyFirst hbuffer with hbuffer | ⟨c, hc, rfl⟩
        · exact hcache.pending buffer hbuffer
        · exact hcache.pending c (lookup_some hc).1
      · rcases mem_modifyFirst hbuffer with hbuffer | ⟨c, hc, rfl⟩
        · exact hcache.uncached buffer hbuffer
        · exact hcache.uncached c (lookup_some hc).1

/-! ## Replies -/

theorem checkSendBufferLoop_nil (visit sendBuffer : List SendBuffer) :
    checkSendBufferLoop [] visit sendBuffer = ([], sendBuffer) := by
  induction visit with
  | nil => rfl
  | cons b visit ih => exact ih

theorem checksBuffers_of_tail (h : ∀ buffer ∈ node.pstruSendBuffer.tail, node.isRouted buffer = false) :
    node.ChecksBuffers := by
  unfold ChecksBuffers checkSendBuffer
  cases hb : node.pstruSendBuffer with
  | nil => exact ⟨rfl, rfl⟩
  | cons b bs =>
    rw [hb, List.tail_cons] at h
    have hnil : bs.filter node.isRouted = [] :=
      List.filter_eq_nil_iff.2 fun c hc => (Bool.not_eq_true _).mpr (h c hc)
    have hself : (bs.filter fun buffer => !node.isRouted buffer) = bs :=
      List.filter_eq_self.2 fun c hc => by rw [h c hc]; rfl
    rw [List.filter_cons, List.filter_cons, hnil, hself]
    simp only [checkSendBufferLoop, checkSendBufferLoop_nil, emptySendBuffer, eraseFirst,
      List.eraseP_cons, decide_true, cond_true]
    cases hrouted : node.isRouted b with
    | true =>
      rw [show (node.pstruRouteCache.any fun cache => cache.address.contains b.target) = true from
        hrouted]
      exact ⟨rfl, rfl⟩
    | false =>
      rw [show (node.pstruRouteCache.any fun cache => cache.address.contains b.target) = false from
        hrouted]
      exact ⟨rfl, rfl⟩

theorem ChecksBuffers.mem (h : node.ChecksBuffers) {buffer : SendBuffer}
    (hb : buffer ∈ node.checkSendBuffer.2.pstruSendBuffer) :
    buffer ∈ node.pstruSendBuffer ∧ ∀ c ∈ node.pstruRouteCache, buffer.target ∉ c.address := by
  rw [h.2] at hb
  obtain ⟨hmem, hnot⟩ := List.mem_filter.1 hb
  refine ⟨hmem, fun c hc hin => ?_⟩
  have hrouted : node.isRouted buffer = true :=
    List.any_eq_true.2 ⟨c, hc, List.contains_iff_mem.2 hin⟩
  rw [hrouted] at hnot
  exact Bool.false_ne_true hnot

theorem Inv.processRREP (h : node.Inv) {rrep : Rrep}
    (hok : node.StepOk (.rrep rrep dEventTime)) : (node.processRREP rrep dEventTime).2.Inv := by
  let node1 := node.updateRouteCache rrep.len.toNat rrep.address dEventTime
  have hchecks : node1.ChecksBuffers := checksBuffers_of_tail hok
  let node2 := node1.checkSendBuffer.2
  have hsub : ∀ buffer ∈ node2.pstruSendBuffer, buffer ∈ node.pstruSendBuffer := fun buffer hb =>
    (hchecks.mem hb).1
  have h2 : node2.Inv := by
    refine ⟨h.event, h.entry, h.distinct, h.targets, h.found, ?_, fun buffer hb => ?_,
      fun buffer hb => (hchecks.mem hb).2⟩
    · rw [hchecks.2]
      exact h.buffers.sublist (List.filter_sublist.map _)
    · exact h.pending buffer (hsub buffer hb)
  show (node2.forwardRREP rrep).2.Inv
  unfold forwardRREP
  dsimp only
  split
  · next hhead =>
    split
    · next table hget =>
      obtain ⟨hmem, hkey, hflag⟩ := getRREQTable_some hget
      have hkeep : ∀ event ∈ node2.events, event.nEventId ≠ table.nEventId →
          event.target ≠ (rrep.address.take rrep.len.toNat).getLastD 0 := by
        intro event hevent hne heq
        obtain ⟨entry, hentry, -, hid⟩ := h2.found event hevent
        rw [heq, hget] at hentry
        cases hentry
        exact hne hid.symm
      refine ⟨fun event hevent => h2.event event (List.mem_of_mem_filter hevent), fun e he => ?_,
        h2.distinct.modify fun _ => rfl, h2.targets.sublist (List.filter_sublist.map _),
        fun event hevent => ?_, h2.buffers, fun buffer hb => ?_, h2.uncached⟩
      · rcases mem_modifyRREQTable he with he | ⟨e', he', rfl⟩
        · exact h2.entry e he
        · exact h2.entry e' (getRREQTable_some he').1
      · obtain ⟨hevent, hne⟩ := List.mem_filter.1 hevent
        obtain ⟨entry, hentry⟩ := h2.found event hevent
        exact ⟨entry, (getRREQTable_modify_ne (by exact fun _ => rfl)
          (hkeep event hevent (of_decide_eq_true hne))).trans hentry.1, hentry.2⟩
      · obtain ⟨event, hevent, htarget⟩ := h2.pending buffer hb
        refine ⟨event, List.mem_filter.2 ⟨hevent, decide_eq_true fun heq => ?_⟩, htarget⟩
        -- the timer is that of the target of the reply, whose route is cached now
        obtain ⟨entry, hentry, -, hid⟩ := h2.found event hevent
        have hsame : entry = table := h2.distinct.eq (getRREQTable_some hentry).1 hmem
          (hid.trans heq) (hid ▸ (h2.event event hevent).1)
        have hlast : buffer.target = (rrep.address.take rrep.len.toNat).getLastD 0 := by
          rw [← htarget, ← (getRREQTable_some hentry).2.1, hsame, hkey]
        have hroute : (rrep.address.take rrep.len.toNat).getLastD 0 ∈
            (rrep.address.take rrep.len.toNat).dropWhile fun x => x ≠ node.address := by
          revert hhead
          cases rrep.address.take rrep.len.toNat with
          | nil => exact nofun
          | cons a rest =>
            intro hhead
            cases hhead
            show (node.address :: rest).getLastD 0 ∈ (node.address :: rest).dropWhile _
            rw [List.dropWhile_cons, if_neg (by simp), List.getLastD_cons]
            exact List.getLastD_mem_cons
        exact (hchecks.mem hb).2 _ (List.mem_append_right _ (List.mem_singleton_self _))
          (hlast ▸ hroute)
    · exact h2
  · split <;> exact h2

/-! ## Timers -/

variable {event : RreqTimeout}

theorem Inv.mem_erase (h : node.Inv) {event' : RreqTimeout} (hevent : event ∈ node.events) :
    event' ∈ node.events.erase event ↔ event' ∈ node.events ∧ event'.target ≠ event.target := by
  rw [(List.Nodup.of_map _ h.targets).mem_erase_iff, and_comm]
  refine and_congr_right fun hmem => not_congr ⟨fun heq => heq ▸ rfl, h.eq_of_target hmem hevent⟩

theorem Inv.erase (h : node.Inv) (hevent : event ∈ node.events)
    {sendBuffer : List SendBuffer} (hbuffers : (sendBuffer.map SendBuffer.target).Nodup)
    (hsub : ∀ buffer ∈ sendBuffer, buffer ∈ node.pstruSendBuffer ∧ buffer.target ≠ event.target) :
    Inv { node with events := node.events.erase event, pstruSendBuffer := sendBuffer } := by
  refine ⟨fun e he => h.event e (List.mem_of_mem_erase he), h.entry, h.distinct,
    h.targets.sublist (List.erase_sublist.map _), fun e he => h.found e (List.mem_of_mem_erase he),
    hbuffers, fun buffer hb => ?_, fun buffer hb => h.uncached buffer (hsub buffer hb).1⟩
  obtain ⟨hmem, hne⟩ := hsub buffer hb
  obtain ⟨e, he, htarget⟩ := h.pending buffer hmem
  exact ⟨e, (h.mem_erase hevent).2 ⟨he, htarget ▸ hne⟩, htarget⟩

theorem Inv.retryRREQ (h : node.Inv) (hevent : event ∈ node.events) {r : Rreq × Node}
    (hr : { node with events := node.events.erase event }.retryRREQ event.target dEventTime =
      some r) : r.2.Inv := by
  unfold Node.retryRREQ at hr
  obtain ⟨entry, hget, -⟩ := h.found event hevent
  rw [hget] at hr
  cases hr
  have hlt : ∀ e ∈ node.pstruRREQTable, e.nEventId < node.lastEventId + 1 := fun e he =>
    Nat.lt_succ_of_le (h.entry e he)
  refine ⟨fun e he => ?_, fun e he => ?_, h.distinct.modify_fresh (fun _ => rfl) hlt, ?_,
    fun e he => ?_, h.buffers, fun buffer hb => ?_, h.uncached⟩
  · rcases List.mem_append.1 he with he | he
    · have := h.event e (List.mem_of_mem_erase he)
      exact ⟨this.1, Nat.le_succ_of_le this.2⟩
    · rw [List.mem_singleton.1 he]
      exact ⟨Nat.succ_pos _, Nat.le_refl _⟩
  · rcases mem_modifyRREQTable he with he | ⟨e', -, rfl⟩
    · exact Nat.le_succ_of_le (h.entry e he)
    · exact Nat.le_refl _
  · rw [List.map_append, List.nodup_append]
    refine ⟨h.targets.sublist (List.erase_sublist.map _), List.nodup_singleton _, ?_⟩
    rintro x hx y hy rfl
    obtain ⟨e, he, rfl⟩ := List.mem_map.1 hx
    exact ((h.mem_erase hevent).1 he).2 (List.mem_singleton.1 hy)
  · rcases List.mem_append.1 he with he | he
    · obtain ⟨he, hne⟩ := (h.mem_erase hevent).1 he
      obtain ⟨entry', hget', hentry'⟩ := h.found e he
      exact ⟨entry', (getRREQTable_modify_ne (by exact fun _ => rfl) hne).trans hget', hentry'⟩
    · rw [List.mem_singleton.1 he]
      exact ⟨_, getRREQTable_modify_self (by exact fun _ => ⟨rfl, rfl⟩) hget, rfl, rfl⟩
  · obtain ⟨e, he, htarget⟩ := h.pending buffer hb
    by_cases heq : e.target = event.target
    · exact ⟨_, List.mem_append_right _ (List.mem_singleton_self _), heq.symm.trans htarget⟩
    · exact ⟨e, List.mem_append_left _ ((h.mem_erase hevent).2 ⟨he, heq⟩), htarget⟩

theorem Inv.rreqTimeout (h : node.Inv) (hevent : event ∈ node.events)
    {r : List Output × Node}
    (hr : { node with events := node.events.erase event }.rreqTimeout event.target dEventTime =
      some r) : r.2.Inv := by
  have hcache := h.checkRouteFound event.target dEventTime
  unfold Node.rreqTimeout at hr
  split at hr
  · next cache node' heq =>
    -- a target with a route has no buffer
    have hne : ∀ buffer ∈ node.pstruSendBuffer, buffer.target ≠ event.target := by
      intro buffer hb htarget
      obtain ⟨hmem, c, hc, haddress⟩ := findCache_some (congrArg Prod.fst heq)
      exact h.uncached buffer hb c hc (by rw [haddress, htarget]; exact hmem)
    have hnode' : node' = { (node.checkRouteFound event.target dEventTime).2 with
        events := node.events.erase event } := (congrArg Prod.snd heq).symm
    cases hr
    rw [hnode']
    exact hcache.erase hevent hcache.buffers fun buffer hb => ⟨hb, hne buffer hb⟩
  · next node' heq =>
    have hnode' : node' = { (node.checkRouteFound event.target dEventTime).2 with
        events := node.events.erase event } := (congrArg Prod.snd heq).symm
    subst hnode'
    split at hr
    · cases hr
    · split at hr
      · obtain ⟨x, hx, rfl⟩ := Option.map_eq_some_iff.1 hr
        exact hcache.retryRREQ hevent hx
      · cases hr
        have herase := hcache.erase hevent (nodup_map_eraseFirst (k := event.target) hcache.buffers)
          fun buffer hb => (mem_eraseFirst_iff hcache.buffers).1 hb
        refine ⟨herase.event, fun e he => herase.entry e (eraseFirst_subset he),
          herase.distinct.erase, herase.targets, fun e he => ?_, herase.buffers, herase.pending,
          herase.uncached⟩
        obtain ⟨entry, hget, hentry⟩ := herase.found e he
        have hne := ((hcache.mem_erase hevent).1 he).2
        exact ⟨entry, (getRREQTable_erase_ne hne).trans hget, hentry⟩

/-! ## Runs -/

theorem Inv.step {a : NodeStep} {node' : Node} (h : node.Inv) (hok : node.StepOk a)
    (hstep : node.step a = some node') : node'.Inv := by
  obtain ⟨r, hr, rfl⟩ := Option.map_eq_some_iff.1 hstep
  cases a with
  | send packet dEventTime =>
    cases hr
    exact h.generalPacketProcessing hok
  | rreq rreq dEventTime => exact h.processRREQ hr
  | rrep rrep dEventTime =>
    cases hr
    exact h.processRREP hok
  | timeout event dEventTime =>
    simp only [handle] at hr
    split at hr
    · next hevent => exact h.rreqTimeout hevent hr
    · cases hr

theorem inv_start (address : Nat) : (start address).Inv :=
  ⟨nofun, nofun, List.nodup_nil, List.nodup_nil, nofun, List.nodup_nil, nofun, nofun⟩

end

/-- No packet is stranded in a run whose steps all meet the condition. -/
theorem notStranded {address : Nat} {node : Node} {tr : List (Node × NodeStep)}
    (run : Run step (start address) tr node) (hok : ∀ x ∈ tr, x.1.StepOk x.2) :
    node.NotStranded ∧ ∀ x ∈ tr, x.1.StepExact x.2 := by
  have hinv : node.Inv ∧ ∀ x ∈ tr, x.1.StepExact x.2 := by
    refine run.induction (P := fun tr node => node.Inv ∧ ∀ x ∈ tr, x.1.StepExact x.2)
      ⟨inv_start address, nofun⟩ ?_ hok
    rintro tr node a node' - ⟨h, htr⟩ ha hstep
    refine ⟨h.step ha hstep, fun x hx => ?_⟩
    rcases List.mem_cons.1 hx with rfl | hx
    · cases a with
      | rrep rrep dEventTime => exact checksBuffers_of_tail ha
      | _ => trivial
    · exact htr x hx
  exact ⟨hinv.1.toNotStranded, hinv.2⟩

/-- Node 1 discovers node 3 behind node 2, after a retry, and relays a request of node 4. -/
theorem notStranded_discovery : ∃ tr node, Run step (start 1) tr node ∧ node.NotStranded ∧
    (∀ x ∈ tr, x.1.StepExact x.2) ∧ node.pstruSendBuffer = [] ∧ tr.length = 5 := by
  have hexec : (exec step (start 1)
      [fun _ => some (.send ⟨1, 3⟩ 0),
       fun _ => some (.rreq ⟨4, 6, 1, 5, []⟩ 100),
       fun node => node.events.head?.map (.timeout · 30000),
       fun _ => some (.send ⟨2, 3⟩ 40000),
       fun _ => some (.rrep ⟨1, 11, [1, 2, 3], 3, (1, 2, 3)⟩ 50000)]).any
      (fun x => decide ((∀ y ∈ x.1, y.1.StepOk y.2) ∧ x.2.pstruSendBuffer = [] ∧ x.1.length = 5)) =
        true := by
    decide +kernel
  obtain ⟨tr, node, run, h⟩ := run_of_exec hexec
  obtain ⟨hok, hempty, hlen⟩ := of_decide_eq_true h
  obtain ⟨hnode, hexact⟩ := notStranded run hok
  exact ⟨tr, node, run, hnode, hexact, hempty, hlen⟩

/-- The reply for node 5 comes first: its packet stays, and its timer is deleted. -/
theorem not_notStranded : ¬ ∀ address node tr, Run step (start address) tr node →
    node.NotStranded ∧ ∀ x ∈ tr, x.1.StepExact x.2 := by
  have hexec : (exec step (start 1)
      [fun _ => some (.send ⟨1, 3⟩ 0),
       fun _ => some (.send ⟨2, 5⟩ 0),
       fun _ => some (.rrep ⟨1, 11, [1, 2, 5], 5, (1, 2, 5)⟩ 10000)]).any
      (fun x => decide (∃ buffer ∈ x.2.pstruSendBuffer, buffer.packet ≠ [] ∧
        (x.2.events.filter fun event => event.target = buffer.target) = [])) = true := by
    decide +kernel
  obtain ⟨tr, node, run, h⟩ := run_of_exec hexec
  obtain ⟨buffer, hb, hne, hnone⟩ := of_decide_eq_true h
  intro hall
  obtain ⟨_, _, -, -, -, hev, -⟩ := (hall 1 node tr run).1.discovery buffer hb hne
  rw [hnone] at hev
  cases hev

end Node

end NetSim.Dsr
