import NetSim.Arp.Handlers
import NetSim.Lib.Run

/-!
# ARP resolution on an interface

The packets that wait for a next hop have exactly one request or timeout pending, and leave together
when it is resolved, in every run whose steps meet `Meets`.
-/

namespace NetSim.Arp

open NetSim.Lib Function

variable {Ip Mac : Type} [DecidableEq Ip]

def ArpEvent.packet : ArpEvent Ip → DataPacket Ip
  | .generateArpRequest packet => packet
  | .arpRequestTimeout packet => packet

def ArpEvent.nextHop (e : ArpEvent Ip) : Ip := e.packet.szNextHopIp

/-- An interface with its pending events, what it has forwarded and learnt, and the requests since
the last reset. -/
structure ArpState (Ip Mac : Type) where
  var : ArpVariables Ip Mac
  pending : List (ArpEvent Ip)
  forwarded : List (DataPacket Ip × Mac)
  learnt : List (Ip × Mac)
  sent : Ip → ℕ
  failed : Bool

inductive ArpAction (Ip Mac : Type)
  | read (packet : DataPacket Ip)
  | reply (packet : ArpPacket Ip Mac) (nSourceId : ℕ)
  | request (packet : ArpPacket Ip Mac)
  /-- The `n`-th pending event. -/
  | event (n : ℕ)

def dataOf (outputs : List (Output Ip Mac)) : List (DataPacket Ip × Mac) :=
  outputs.filterMap fun
    | .data packet mac => some (packet, mac)
    | _ => none

def eventsOf (outputs : List (Output Ip Mac)) : List (ArpEvent Ip) :=
  outputs.filterMap fun
    | .event e => some e
    | _ => none

namespace ArpState

def start (table : List (ArpTable Ip Mac)) (nArpRetryLimit : ℕ) : ArpState Ip Mac :=
  { var :=
      { pstruArpTable := table
        nArpRetryLimit
        pnArpRequestFlag := fun _ => false
        pnArpReplyFlag := fun _ => false
        pnArpRetryCount := fun _ => 0
        pstruPacketBuffer := [] }
    pending := []
    forwarded := []
    learnt := []
    sent := fun _ => 0
    failed := false }

def absorb (s : ArpState Ip Mac) (r : ArpVariables Ip Mac × List (Output Ip Mac)) : ArpState Ip Mac :=
  { s with
    var := r.1
    pending := s.pending ++ eventsOf r.2
    forwarded := s.forwarded ++ dataOf r.2 }

def IsReset (cfg : ArpConfig Ip Mac) (var : ArpVariables Ip Mac) (ip : Ip) : Prop :=
  (∀ b ∈ var.pstruPacketBuffer, b.szDestAdd ≠ ip) ∧
    var.pnArpRequestFlag (cfg.getDeviceId ip) = false ∧ var.pnArpRetryCount (cfg.getDeviceId ip) = 0

instance (cfg : ArpConfig Ip Mac) (var : ArpVariables Ip Mac) (ip : Ip) :
    Decidable (IsReset cfg var ip) :=
  inferInstanceAs (Decidable (_ ∧ _ ∧ _))

def handle (cfg : ArpConfig Ip Mac) (s : ArpState Ip Mac) : ArpEvent Ip → ArpState Ip Mac
  | .generateArpRequest packet =>
    match s.var.generateArpRequest cfg packet with
    | none => { s with failed := true }
    | some r =>
      { s.absorb r with
        sent := update s.sent packet.szNextHopIp (s.sent packet.szNextHopIp + 1) }
  | .arpRequestTimeout packet =>
    match s.var.arpRequestTimeout cfg packet with
    | none => { s with failed := true }
    | some r =>
      { s.absorb r with
        sent :=
          if IsReset cfg r.1 packet.szNextHopIp then update s.sent packet.szNextHopIp 0
          else s.sent }

def step (cfg : ArpConfig Ip Mac) (s : ArpState Ip Mac) (a : ArpAction Ip Mac) :
    Option (ArpState Ip Mac) :=
  if s.failed then none
  else
    match a with
    | .read packet => some (s.absorb (s.var.readArpTable cfg packet))
    | .reply packet nSourceId =>
      some
        { s.absorb (s.var.updateArpTableForwardPacket packet nSourceId) with
          learnt := s.learnt ++ [(packet.spa, packet.sha)] }
    | .request packet =>
      some
        { s.absorb (s.var.checkDestinationDevice cfg packet) with
          learnt :=
            match readTable s.var.pstruArpTable packet.spa with
            | some _ => s.learnt
            | none => s.learnt ++ [(packet.spa, packet.sha)] }
    | .event n =>
      match s.pending[n]? with
      | none => none
      | some e => some (handle cfg { s with pending := s.pending.eraseIdx n } e)

/-! ## The promises -/

def cellUsed (cfg : ArpConfig Ip Mac) (s : ArpState Ip Mac) : ArpAction Ip Mac → Option (Ip × ℕ)
  | .read packet =>
    match cfg.groupMac packet.szNextHopIp <|> readTable s.var.pstruArpTable packet.szNextHopIp with
    | some _ => none
    | none => some (packet.szNextHopIp, packet.nReceiverId)
  | .reply packet nSourceId => some (packet.spa, nSourceId)
  | .request _ => none
  | .event n =>
    match s.pending[n]? with
    | none => none
    | some (.generateArpRequest packet) => some (packet.szNextHopIp, packet.firstDest)
    | some (.arpRequestTimeout packet) => some (packet.szNextHopIp, cfg.getDeviceId packet.szNextHopIp)

def Flushes (cfg : ArpConfig Ip Mac) (s : ArpState Ip Mac) (a : ArpAction Ip Mac) : Prop :=
  ∀ s', step cfg s a = some s' → ∀ ip mac, readTable s.var.pstruArpTable ip = none →
    readTable s'.var.pstruArpTable ip = some mac →
      s'.forwarded = s.forwarded ++
        (s.var.pstruPacketBuffer.filter fun b => b.szDestAdd = ip).map (fun b => (b.pstruPacket, mac)) ∧
      s'.var.pstruPacketBuffer = s.var.pstruPacketBuffer.filter fun b => b.szDestAdd ≠ ip

def RetryPending (s : ArpState Ip Mac) (ip : Ip) : Prop :=
  ∃ packet, .generateArpRequest packet ∈ s.pending ∧ packet.szNextHopIp = ip

/-- The property of a run. With `retry` the flag may be reset while a request is sent again. -/
structure Sound (cfg : ArpConfig Ip Mac) (retry : Bool)
    (tr : List (ArpState Ip Mac × ArpAction Ip Mac)) (s : ArpState Ip Mac) : Prop where
  running : s.failed = false
  table : (s.var.pstruArpTable.map ArpTable.szIPAddress).Nodup
  learnt : ∀ x ∈ s.learnt, readTable s.var.pstruArpTable x.1 = some x.2
  unresolved : ∀ b ∈ s.var.pstruPacketBuffer, readTable s.var.pstruArpTable b.szDestAdd = none
  flag : ∀ b ∈ s.var.pstruPacketBuffer,
    s.var.pnArpRequestFlag (cfg.getDeviceId b.szDestAdd) = true ∨
      retry = true ∧ s.RetryPending b.szDestAdd
  pending : ∀ b ∈ s.var.pstruPacketBuffer,
    (s.pending.filter fun e => e.nextHop = b.szDestAdd).length = 1
  sent : ∀ ip, s.sent ip ≤ s.var.nArpRetryLimit
  sameCell : ∀ x ∈ tr, ∀ y ∈ tr, ∀ u ∈ cellUsed cfg x.1 x.2, ∀ w ∈ cellUsed cfg y.1 y.2,
    u.1 = w.1 → u.2 = w.2
  flushes : ∀ x ∈ tr, Flushes cfg x.1 x.2

/-- A timeout does not lead to another request, unless `retry` allows it. -/
def Timely (cfg : ArpConfig Ip Mac) (retry : Bool) (var : ArpVariables Ip Mac) : ArpEvent Ip → Prop
  | .generateArpRequest _ => True
  | .arpRequestTimeout packet =>
    retry = true ∨ readTable var.pstruArpTable packet.szNextHopIp ≠ none ∨
      var.nArpRetryLimit ≤ var.pnArpRetryCount (cfg.getDeviceId packet.szNextHopIp)

instance [DecidableEq Mac] (cfg : ArpConfig Ip Mac) (retry : Bool) (var : ArpVariables Ip Mac)
    (e : ArpEvent Ip) : Decidable (Timely cfg retry var e) := by
  unfold Timely
  split <;> infer_instance

def Meets (cfg : ArpConfig Ip Mac) (retry : Bool) (s : ArpState Ip Mac) : ArpAction Ip Mac → Prop
  | .read packet =>
    cfg.groupMac packet.szNextHopIp = none →
    readTable s.var.pstruArpTable packet.szNextHopIp = none →
      packet.nReceiverId = cfg.getDeviceId packet.szNextHopIp ∧
      packet.firstDest = cfg.getDeviceId packet.szNextHopIp ∧
      cfg.isInSameNetwork packet.szNextHopIp = true ∧ 1 ≤ s.var.nArpRetryLimit ∧
      (∀ e ∈ s.pending, cfg.getDeviceId e.nextHop = cfg.getDeviceId packet.szNextHopIp →
        e.nextHop = packet.szNextHopIp) ∧
      (s.var.pnArpRequestFlag packet.nReceiverId = false →
        ∀ b ∈ s.var.pstruPacketBuffer, b.szDestAdd ≠ packet.szNextHopIp)
  | .reply packet nSourceId =>
    nSourceId = cfg.getDeviceId packet.spa ∧ s.var.pstruArpTable ≠ [] ∧
      readTable s.var.pstruArpTable packet.spa = none ∧
      ∀ e ∈ s.pending, cfg.getDeviceId e.nextHop = nSourceId → e.nextHop = packet.spa
  | .request packet =>
    readTable s.var.pstruArpTable packet.spa = none →
      ∀ b ∈ s.var.pstruPacketBuffer, b.szDestAdd ≠ packet.spa
  | .event n => ∀ e ∈ s.pending[n]?, Timely cfg retry s.var e

instance [DecidableEq Mac] (cfg : ArpConfig Ip Mac) (retry : Bool) (s : ArpState Ip Mac)
    (a : ArpAction Ip Mac) : Decidable (s.Meets cfg retry a) := by
  unfold Meets
  split <;> infer_instance

/-! ## The invariant -/

section
variable {cfg : ArpConfig Ip Mac} {retry : Bool} {s s' : ArpState Ip Mac} {a : ArpAction Ip Mac}
  {p : DataPacket Ip} {rest : List (ArpEvent Ip)} {e : ArpEvent Ip}

structure Inv (cfg : ArpConfig Ip Mac) (retry : Bool) (s : ArpState Ip Mac) : Prop where
  running : s.failed = false
  table : (s.var.pstruArpTable.map ArpTable.szIPAddress).Nodup
  learnt : ∀ x ∈ s.learnt, readTable s.var.pstruArpTable x.1 = some x.2
  ids : ∀ e ∈ s.pending, e.packet.firstDest = cfg.getDeviceId e.nextHop ∧
    cfg.isInSameNetwork e.nextHop = true
  cells : (s.pending.map fun e => cfg.getDeviceId e.nextHop).Nodup
  unresolved : ∀ b ∈ s.var.pstruPacketBuffer, readTable s.var.pstruArpTable b.szDestAdd = none
  event : ∀ b ∈ s.var.pstruPacketBuffer, ∃ e ∈ s.pending, e.nextHop = b.szDestAdd
  flag : ∀ b ∈ s.var.pstruPacketBuffer,
    s.var.pnArpRequestFlag (cfg.getDeviceId b.szDestAdd) = true ∨
      retry = true ∧ s.RetryPending b.szDestAdd
  buffered : ∀ e ∈ s.pending, readTable s.var.pstruArpTable e.nextHop = none →
    ∃ b ∈ s.var.pstruPacketBuffer, b.szDestAdd = e.nextHop
  flagged : ∀ c, s.var.pnArpRequestFlag c = true → ∃ e ∈ s.pending, cfg.getDeviceId e.nextHop = c
  counted : ∀ c, s.var.pnArpRetryCount c ≠ 0 → ∃ e ∈ s.pending, cfg.getDeviceId e.nextHop = c
  sent : ∀ ip, s.sent ip ≠ 0 → ∃ e ∈ s.pending, e.nextHop = ip
  bound : ∀ e ∈ s.pending, s.sent e.nextHop ≤ s.var.pnArpRetryCount (cfg.getDeviceId e.nextHop) ∧
    s.var.pnArpRetryCount (cfg.getDeviceId e.nextHop) ≤ s.var.nArpRetryLimit
  room : ∀ p, .generateArpRequest p ∈ s.pending →
    s.var.pnArpRetryCount (cfg.getDeviceId p.szNextHopIp) < s.var.nArpRetryLimit

theorem inv_start {table : List (ArpTable Ip Mac)} {nArpRetryLimit : ℕ}
    (h : (table.map ArpTable.szIPAddress).Nodup) : (start table nArpRetryLimit).Inv cfg retry :=
  { running := rfl
    table := h
    learnt := nofun
    ids := nofun
    cells := List.nodup_nil
    unresolved := nofun
    event := nofun
    flag := nofun
    buffered := nofun
    flagged := nofun
    counted := fun _ h => absurd rfl h
    sent := fun _ h => absurd rfl h
    bound := nofun
    room := nofun }

theorem Inv.getDeviceId_ne (h : s.Inv cfg retry) (hperm : (e :: rest).Perm s.pending) :
    ∀ x ∈ rest, cfg.getDeviceId x.nextHop ≠ cfg.getDeviceId e.nextHop := by
  have hnd := (hperm.map fun e => cfg.getDeviceId e.nextHop).nodup_iff.2 h.cells
  intro x hx he
  exact (List.nodup_cons.1 hnd).1 (List.mem_map.2 ⟨x, hx, he⟩)

theorem Inv.length_filter (h : s.Inv cfg retry) {ip : Ip} (he : e ∈ s.pending) (hip : e.nextHop = ip) :
    (s.pending.filter fun e => e.nextHop = ip).length = 1 := by
  have hnd : (s.pending.filter fun e => e.nextHop = ip).Nodup := h.cells.of_map.filter _
  have hall : ∀ x ∈ s.pending.filter fun e => e.nextHop = ip, x = e := by
    intro x hx
    obtain ⟨hx, hxip⟩ := List.mem_filter.1 hx
    refine List.inj_on_of_nodup_map h.cells hx he ?_
    rw [of_decide_eq_true hxip, hip]
  have hmem : e ∈ s.pending.filter fun e => e.nextHop = ip :=
    List.mem_filter.2 ⟨he, decide_eq_true hip⟩
  rw [List.eq_replicate_of_mem hall] at hnd hmem ⊢
  rw [List.length_replicate]
  have hle := List.nodup_replicate.1 hnd
  have hpos : 0 < (s.pending.filter fun e => e.nextHop = ip).length := by
    by_contra hz
    rw [Nat.eq_zero_of_not_pos hz] at hmem
    cases hmem
  omega

theorem Inv.first (h : s.Inv cfg retry) (hrecv : p.nReceiverId = cfg.getDeviceId p.szNextHopIp)
    (hdest : p.firstDest = cfg.getDeviceId p.szNextHopIp)
    (hnet : cfg.isInSameNetwork p.szNextHopIp = true) (hlimit : 1 ≤ s.var.nArpRetryLimit)
    (hnone : readTable s.var.pstruArpTable p.szNextHopIp = none)
    (hfree : ∀ e ∈ s.pending, cfg.getDeviceId e.nextHop ≠ cfg.getDeviceId p.szNextHopIp)
    (hvar : s'.var =
      { s.var with
        pstruPacketBuffer := s.var.pstruPacketBuffer ++
          [{ szDestAdd := p.szNextHopIp, pstruPacket := p }]
        pnArpRequestFlag := update s.var.pnArpRequestFlag p.nReceiverId true })
    (hpending : s'.pending = s.pending ++ [.generateArpRequest p]) (hsent : s'.sent = s.sent)
    (hlearnt : s'.learnt = s.learnt) (hfailed : s'.failed = s.failed) : s'.Inv cfg retry := by
  have hzero : s.sent p.szNextHopIp = 0 := by
    by_contra hs
    obtain ⟨e, he, hhop⟩ := h.sent _ hs
    exact hfree e he (congrArg cfg.getDeviceId hhop)
  have hcount : s.var.pnArpRetryCount (cfg.getDeviceId p.szNextHopIp) = 0 := by
    by_contra hc
    obtain ⟨e, he, hid⟩ := h.counted _ hc
    exact hfree e he hid
  have hold : ∀ {q : ArpEvent Ip → Prop}, (∃ e ∈ s.pending, q e) →
      ∃ e ∈ s.pending ++ [.generateArpRequest p], q e :=
    fun ⟨e, he, hq⟩ => ⟨e, List.mem_append_left _ he, hq⟩
  have hnew : ArpEvent.generateArpRequest p ∈ s.pending ++ [.generateArpRequest p] :=
    List.mem_append_right _ (List.mem_singleton_self _)
  obtain ⟨var, pending, forwarded, learnt, sent, failed⟩ := s'
  rw [hrecv] at hvar
  subst hvar hpending hsent hlearnt hfailed
  refine
    { running := h.running
      table := h.table
      learnt := h.learnt
      ids := List.forall_mem_append.2 ⟨h.ids, List.forall_mem_singleton.2 ⟨hdest, hnet⟩⟩
      cells := ?_
      unresolved := List.forall_mem_append.2 ⟨h.unresolved, List.forall_mem_singleton.2 hnone⟩
      event := List.forall_mem_append.2
        ⟨fun b hb => hold (h.event b hb), List.forall_mem_singleton.2 ⟨_, hnew, rfl⟩⟩
      flag := List.forall_mem_append.2 ⟨fun b hb => ?_, List.forall_mem_singleton.2 (.inl ?_)⟩
      buffered := List.forall_mem_append.2 ⟨fun e he hun => ?_, List.forall_mem_singleton.2 ?_⟩
      flagged := fun c hc => ?_
      counted := fun c hc => hold (h.counted c hc)
      sent := fun ip hip => hold (h.sent ip hip)
      bound := List.forall_mem_append.2 ⟨h.bound, List.forall_mem_singleton.2 ⟨?_, ?_⟩⟩
      room := fun q hq => ?_ }
  · rw [List.map_append, List.nodup_append]
    refine ⟨h.cells, List.nodup_singleton _, fun x hx y hy hxy => ?_⟩
    obtain ⟨e, he, rfl⟩ := List.mem_map.1 hx
    exact hfree e he (hxy.trans (List.mem_singleton.1 hy))
  · refine (h.flag b hb).imp (fun hf => ?_) fun ⟨hr, q, hq, hip⟩ =>
      ⟨hr, q, List.mem_append_left _ hq, hip⟩
    dsimp only
    rw [update_apply, hf, ite_self]
  · exact update_self ..
  · obtain ⟨b, hb, hbe⟩ := h.buffered e he hun
    exact ⟨b, List.mem_append_left _ hb, hbe⟩
  · exact fun _ => ⟨_, List.mem_append_right _ (List.mem_singleton_self _), rfl⟩
  · by_cases hid : c = cfg.getDeviceId p.szNextHopIp
    · exact ⟨_, hnew, hid.symm⟩
    · dsimp only at hc
      rw [update_of_ne hid] at hc
      exact hold (h.flagged c hc)
  · exact Nat.le_trans (Nat.le_of_eq hzero) (Nat.zero_le _)
  · exact Nat.le_trans (Nat.le_of_eq hcount) (Nat.zero_le _)
  · rcases List.mem_append.1 hq with hq | hq
    · exact h.room q hq
    · cases List.mem_singleton.1 hq
      exact Nat.lt_of_le_of_lt (Nat.le_of_eq hcount) hlimit

theorem Inv.next (h : s.Inv cfg retry) (hset : s.var.pnArpRequestFlag
      (cfg.getDeviceId p.szNextHopIp) = true)
    (hnone : readTable s.var.pstruArpTable p.szNextHopIp = none) (he : e ∈ s.pending)
    (hhop : e.nextHop = p.szNextHopIp) :
    Inv cfg retry
      { s with
        var :=
          { s.var with
            pstruPacketBuffer := s.var.pstruPacketBuffer ++
              [{ szDestAdd := p.szNextHopIp, pstruPacket := p }] } } :=
  { h with
    unresolved := List.forall_mem_append.2 ⟨h.unresolved, List.forall_mem_singleton.2 hnone⟩
    event := List.forall_mem_append.2 ⟨h.event, List.forall_mem_singleton.2 ⟨e, he, hhop⟩⟩
    flag := List.forall_mem_append.2 ⟨h.flag, List.forall_mem_singleton.2 (.inl hset)⟩
    buffered := fun e he hun => by
      obtain ⟨b, hb, hbe⟩ := h.buffered e he hun
      exact ⟨b, List.mem_append_left _ hb, hbe⟩ }

theorem orElse_eq_none {o o' : Option Mac} (h : (o <|> o') = none) : o = none ∧ o' = none := by
  cases o with
  | none => exact ⟨rfl, h⟩
  | some mac => cases h

theorem Inv.read (h : s.Inv cfg retry) (hmeets : s.Meets cfg retry (.read p)) :
    (s.absorb (s.var.readArpTable cfg p)).Inv cfg retry := by
  unfold ArpVariables.readArpTable
  cases hmac : cfg.groupMac p.szNextHopIp <|> readTable s.var.pstruArpTable p.szNextHopIp with
  | some mac =>
    have hpending : s.pending ++ eventsOf [.data p mac] = s.pending := List.append_nil _
    unfold absorb
    rw [hpending]
    exact { h with }
  | none =>
    obtain ⟨hgroup, hnone⟩ := orElse_eq_none hmac
    obtain ⟨hrecv, hdest, hnet, hlimit, hother, hretry⟩ := hmeets hgroup hnone
    dsimp only
    split
    · next hflag =>
      -- No event is pending for the next hop, so its device id is free.
      have hfree : ∀ e ∈ s.pending, cfg.getDeviceId e.nextHop ≠ cfg.getDeviceId p.szNextHopIp := by
        intro e he heq
        have hhop := hother e he heq
        obtain ⟨b, hb, hbe⟩ := h.buffered e he (hhop ▸ hnone)
        exact hretry hflag b hb (hbe.trans hhop)
      exact h.first hrecv hdest hnet hlimit hnone hfree rfl rfl rfl rfl rfl
    · next hflag =>
      -- The flag is set for a pending event of this next hop.
      have hset : s.var.pnArpRequestFlag p.nReceiverId = true := eq_true_of_ne_false hflag
      obtain ⟨e, he, hid⟩ := h.flagged _ hset
      have hpending : s.pending ++ eventsOf ([] : List (Output Ip Mac)) = s.pending :=
        List.append_nil _
      unfold absorb
      rw [hpending]
      exact { h.next (hrecv ▸ hset) hnone he (hother e he (hid.trans hrecv)) with }

/-! ## Events -/

theorem Inv.renew (h : s.Inv cfg retry) (hperm : (e :: rest).Perm s.pending) {e' : ArpEvent Ip}
    {f : Bool} {k : ℕ} (he' : e'.packet = e.packet)
    (hf : f = true ∨ retry = true ∧ e' = .generateArpRequest e.packet)
    (hvar : s'.var =
      { s.var with
        pnArpRequestFlag := update s.var.pnArpRequestFlag (cfg.getDeviceId e.nextHop) f
        pnArpRetryCount := update s.var.pnArpRetryCount (cfg.getDeviceId e.nextHop) k })
    (hpending : s'.pending = rest ++ [e']) (hlearnt : s'.learnt = s.learnt)
    (hfailed : s'.failed = s.failed) (hoff : ∀ ip, ip ≠ e.nextHop → s'.sent ip = s.sent ip)
    (hsent : s'.sent e.nextHop ≤ k) (hk : k ≤ s.var.nArpRetryLimit)
    (hroom : ∀ q, e' = .generateArpRequest q → k < s.var.nArpRetryLimit) : s'.Inv cfg retry := by
  have hhop : e'.nextHop = e.nextHop := congrArg DataPacket.szNextHopIp he'
  have hmem : e ∈ s.pending := hperm.subset List.mem_cons_self
  have hsub : ∀ x ∈ rest, x ∈ s.pending := fun x hx => hperm.subset (List.mem_cons_of_mem _ hx)
  have hne := h.getDeviceId_ne hperm
  have hnew : e' ∈ rest ++ [e'] := List.mem_append_right _ (List.mem_singleton_self _)
  have hold : ∀ x ∈ s.pending, ∃ y ∈ rest ++ [e'], y.nextHop = x.nextHop := by
    intro x hx
    rcases List.mem_cons.1 (hperm.symm.subset hx) with rfl | hx
    · exact ⟨e', hnew, hhop⟩
    · exact ⟨x, List.mem_append_left _ hx, rfl⟩
  obtain ⟨var, pending, forwarded, learnt, sent, failed⟩ := s'
  dsimp only at hvar hpending hlearnt hfailed hoff hsent
  subst hvar hpending hlearnt hfailed
  refine
    { running := h.running
      table := h.table
      learnt := h.learnt
      ids := List.forall_mem_append.2
        ⟨fun x hx => h.ids x (hsub x hx), List.forall_mem_singleton.2 ?_⟩
      cells := ?_
      unresolved := h.unresolved
      event := fun b hb => ?_
      flag := fun b hb => ?_
      buffered := List.forall_mem_append.2
        ⟨fun x hx => h.buffered x (hsub x hx), List.forall_mem_singleton.2 fun hun => ?_⟩
      flagged := fun c hc => ?_
      counted := fun c hc => ?_
      sent := fun ip hip => ?_
      bound := List.forall_mem_append.2 ⟨fun x hx => ?_, List.forall_mem_singleton.2 ?_⟩
      room := fun q hq => ?_ }
  · rw [he', hhop]
    exact h.ids e hmem
  · have hnd := (hperm.map fun e => cfg.getDeviceId e.nextHop).nodup_iff.2 h.cells
    refine (List.Perm.nodup_iff ?_).2 hnd
    rw [List.map_append, List.map_singleton, hhop, List.map_cons]
    exact List.perm_append_comm
  · obtain ⟨x, hx, hxb⟩ := h.event b hb
    obtain ⟨y, hy, hyx⟩ := hold x hx
    exact ⟨y, hy, hyx.trans hxb⟩
  · dsimp only
    by_cases hid : cfg.getDeviceId b.szDestAdd = cfg.getDeviceId e.nextHop
    · -- The packet waits for `e`.
      have hb' : b.szDestAdd = e.nextHop := by
        obtain ⟨x, hx, hxb⟩ := h.event b hb
        rcases List.mem_cons.1 (hperm.symm.subset hx) with rfl | hx
        · exact hxb.symm
        · exact absurd (hxb ▸ hid) (hne x hx)
      rw [hid, update_self]
      refine hf.imp id fun ⟨hr, hgen⟩ => ⟨hr, e.packet, hgen ▸ hnew, hb'.symm⟩
    · rw [update_of_ne hid]
      refine (h.flag b hb).imp id fun ⟨hr, q, hq, hip⟩ => ⟨hr, q, ?_, hip⟩
      rcases List.mem_cons.1 (hperm.symm.subset hq) with rfl | hq
      · exact absurd (congrArg cfg.getDeviceId hip).symm hid
      · exact List.mem_append_left _ hq
  · rw [hhop] at hun ⊢
    exact h.buffered e hmem hun
  · by_cases hid : c = cfg.getDeviceId e.nextHop
    · exact ⟨e', hnew, by rw [hhop, hid]⟩
    · dsimp only at hc
      rw [update_of_ne hid] at hc
      obtain ⟨x, hx, hxc⟩ := h.flagged c hc
      obtain ⟨y, hy, hyx⟩ := hold x hx
      exact ⟨y, hy, by rw [hyx, hxc]⟩
  · by_cases hid : c = cfg.getDeviceId e.nextHop
    · exact ⟨e', hnew, by rw [hhop, hid]⟩
    · dsimp only at hc
      rw [update_of_ne hid] at hc
      obtain ⟨x, hx, hxc⟩ := h.counted c hc
      obtain ⟨y, hy, hyx⟩ := hold x hx
      exact ⟨y, hy, by rw [hyx, hxc]⟩
  · by_cases hid : ip = e.nextHop
    · exact ⟨e', hnew, hhop.trans hid.symm⟩
    · dsimp only at hip
      rw [hoff ip hid] at hip
      obtain ⟨x, hx, hxip⟩ := h.sent ip hip
      obtain ⟨y, hy, hyx⟩ := hold x hx
      exact ⟨y, hy, hyx.trans hxip⟩
  · dsimp only
    rw [update_of_ne (hne x hx), hoff _ fun he => hne x hx (congrArg cfg.getDeviceId he)]
    exact h.bound x (hsub x hx)
  · dsimp only
    rw [hhop, update_self]
    exact ⟨hsent, hk⟩
  · dsimp only
    rcases List.mem_append.1 hq with hq | hq
    · have hid : cfg.getDeviceId q.szNextHopIp ≠ cfg.getDeviceId e.nextHop := hne _ hq
      rw [update_of_ne hid]
      exact h.room q (hsub _ hq)
    · have hq' := (List.mem_singleton.1 hq).symm
      have hid : q.szNextHopIp = e.nextHop := by
        rw [← hhop, hq']
        rfl
      rw [hid, update_self]
      exact hroom q hq'

theorem Inv.finish (h : s.Inv cfg retry) (hperm : (e :: rest).Perm s.pending)
    {buffer : List (ArpBuffer Ip)}
    (hbuffer : ∀ b, b ∈ buffer ↔ b ∈ s.var.pstruPacketBuffer ∧ b.szDestAdd ≠ e.nextHop)
    (hvar : s'.var =
      { s.var with
        pstruPacketBuffer := buffer
        pnArpRequestFlag := update s.var.pnArpRequestFlag (cfg.getDeviceId e.nextHop) false
        pnArpRetryCount := update s.var.pnArpRetryCount (cfg.getDeviceId e.nextHop) 0 })
    (hpending : s'.pending = rest) (hlearnt : s'.learnt = s.learnt) (hfailed : s'.failed = s.failed)
    (hsent : s'.sent = update s.sent e.nextHop 0) : s'.Inv cfg retry := by
  have hsub : ∀ x ∈ rest, x ∈ s.pending := fun x hx => hperm.subset (List.mem_cons_of_mem _ hx)
  have hne := h.getDeviceId_ne hperm
  have hhop : ∀ x ∈ rest, x.nextHop ≠ e.nextHop :=
    fun x hx he => hne x hx (congrArg cfg.getDeviceId he)
  have hrest : ∀ x ∈ s.pending, x.nextHop ≠ e.nextHop → x ∈ rest := by
    intro x hx hxe
    rcases List.mem_cons.1 (hperm.symm.subset hx) with rfl | hx
    · exact absurd rfl hxe
    · exact hx
  obtain ⟨var, pending, forwarded, learnt, sent, failed⟩ := s'
  subst hvar hpending hlearnt hfailed hsent
  refine
    { running := h.running
      table := h.table
      learnt := h.learnt
      ids := fun x hx => h.ids x (hsub x hx)
      cells := ?_
      unresolved := fun b hb => h.unresolved b ((hbuffer b).1 hb).1
      event := fun b hb => ?_
      flag := fun b hb => ?_
      buffered := fun x hx hun => ?_
      flagged := fun c hc => ?_
      counted := fun c hc => ?_
      sent := fun ip hip => ?_
      bound := fun x hx => ?_
      room := fun q hq => ?_ }
  · have hnd := (hperm.map fun e => cfg.getDeviceId e.nextHop).nodup_iff.2 h.cells
    exact (List.nodup_cons.1 hnd).2
  · obtain ⟨hb, hbe⟩ := (hbuffer b).1 hb
    obtain ⟨x, hx, hxb⟩ := h.event b hb
    exact ⟨x, hrest x hx (hxb ▸ hbe), hxb⟩
  · obtain ⟨hb, hbe⟩ := (hbuffer b).1 hb
    obtain ⟨x, hx, hxb⟩ := h.event b hb
    have hid := hne x (hrest x hx (hxb ▸ hbe))
    rw [hxb] at hid
    dsimp only
    rw [update_of_ne hid]
    refine (h.flag b hb).imp id fun ⟨hr, q, hq, hip⟩ => ⟨hr, q, hrest _ hq ?_, hip⟩
    exact fun he => hbe (hip.symm.trans he)
  · obtain ⟨b, hb, hbx⟩ := h.buffered x (hsub x hx) hun
    exact ⟨b, (hbuffer b).2 ⟨hb, hbx ▸ hhop x hx⟩, hbx⟩
  · dsimp only at hc
    by_cases hid : c = cfg.getDeviceId e.nextHop
    · rw [hid, update_self] at hc
      cases hc
    · rw [update_of_ne hid] at hc
      obtain ⟨x, hx, hxc⟩ := h.flagged c hc
      exact ⟨x, hrest x hx fun he => hid (hxc ▸ congrArg cfg.getDeviceId he), hxc⟩
  · dsimp only at hc
    by_cases hid : c = cfg.getDeviceId e.nextHop
    · rw [hid, update_self] at hc
      exact absurd rfl hc
    · rw [update_of_ne hid] at hc
      obtain ⟨x, hx, hxc⟩ := h.counted c hc
      exact ⟨x, hrest x hx fun he => hid (hxc ▸ congrArg cfg.getDeviceId he), hxc⟩
  · dsimp only at hip
    by_cases hid : ip = e.nextHop
    · rw [hid, update_self] at hip
      exact absurd rfl hip
    · rw [update_of_ne hid] at hip
      obtain ⟨x, hx, hxip⟩ := h.sent ip hip
      exact ⟨x, hrest x hx (hxip ▸ hid), hxip⟩
  · dsimp only
    rw [update_of_ne (hne x hx), update_of_ne (hhop x hx)]
    exact h.bound x (hsub x hx)
  · dsimp only
    have hid : cfg.getDeviceId q.szNextHopIp ≠ cfg.getDeviceId e.nextHop := hne _ hq
    rw [update_of_ne hid]
    exact h.room q (hsub _ hq)

theorem Inv.generate (h : s.Inv cfg retry)
    (hperm : (ArpEvent.generateArpRequest p :: rest).Perm s.pending) :
    (handle cfg { s with pending := rest } (.generateArpRequest p)).Inv cfg retry := by
  have hmem : .generateArpRequest p ∈ s.pending := hperm.subset List.mem_cons_self
  obtain ⟨hdest, hnet⟩ := h.ids _ hmem
  obtain ⟨hsent, -⟩ := h.bound _ hmem
  have hdest' : p.firstDest = cfg.getDeviceId p.szNextHopIp := hdest
  have hnet' : cfg.isInSameNetwork p.szNextHopIp = true := hnet
  have hroom := h.room p hmem
  unfold handle ArpVariables.generateArpRequest
  dsimp only
  rw [if_pos hnet', hdest']
  have hk : update s.sent p.szNextHopIp (s.sent p.szNextHopIp + 1) p.szNextHopIp ≤
      s.var.pnArpRetryCount (cfg.getDeviceId p.szNextHopIp) + 1 := by
    rw [update_self]
    exact Nat.succ_le_succ hsent
  have hnew : (ArpEvent.arpRequestTimeout p).packet = (ArpEvent.generateArpRequest p).packet := rfl
  exact h.renew hperm hnew (.inl rfl) rfl rfl rfl rfl (fun ip hip => update_of_ne hip ..) hk
    hroom nofun

theorem reset_of_ne {P : Prop} [Decidable P] {sent : Ip → ℕ} {x ip : Ip} (h : ip ≠ x) :
    (if P then update sent x 0 else sent) ip = sent ip := by
  split
  · exact update_of_ne h ..
  · rfl

theorem reset_le {P : Prop} [Decidable P] {sent : Ip → ℕ} {ip : Ip} :
    (if P then update sent ip 0 else sent) ip ≤ sent ip := by
  split
  · rw [update_self]
    exact Nat.zero_le _
  · exact Nat.le_refl _

theorem Inv.timeout (h : s.Inv cfg retry)
    (hperm : (ArpEvent.arpRequestTimeout p :: rest).Perm s.pending)
    (hmeets : Timely cfg retry s.var (.arpRequestTimeout p)) :
    (handle cfg { s with pending := rest } (.arpRequestTimeout p)).Inv cfg retry := by
  have hmem : .arpRequestTimeout p ∈ s.pending := hperm.subset List.mem_cons_self
  obtain ⟨hsent, hcount⟩ := h.bound _ hmem
  unfold handle ArpVariables.arpRequestTimeout
  dsimp only
  cases hread : readTable s.var.pstruArpTable p.szNextHopIp with
  | some mac =>
    have hbuffer : ∀ b ∈ s.var.pstruPacketBuffer, b.szDestAdd ≠ p.szNextHopIp := by
      intro b hb he
      have hun := h.unresolved b hb
      rw [he, hread] at hun
      cases hun
    dsimp only
    rw [if_pos ⟨hbuffer, update_self .., update_self ..⟩]
    exact h.finish hperm (fun b => ⟨fun hb => ⟨hb, hbuffer b hb⟩, And.left⟩) rfl (List.append_nil _)
      rfl rfl rfl
  | none =>
    by_cases hlt : s.var.pnArpRetryCount (cfg.getDeviceId p.szNextHopIp) < s.var.nArpRetryLimit
    · rw [if_pos hlt]
      have hretry : retry = true := by
        rcases hmeets with hr | hr | hr
        · exact hr
        · exact absurd hread hr
        · exact absurd hlt (Nat.not_lt.2 hr)
      have hnew : (ArpEvent.generateArpRequest p).packet = (ArpEvent.arpRequestTimeout p).packet := rfl
      refine h.renew (f := false) hperm hnew (.inr ⟨hretry, rfl⟩) ?_ rfl rfl rfl (fun ip hip => reset_of_ne hip)
        (Nat.le_trans reset_le hsent) hcount fun q hq => hlt
      rw [update_eq_self]
      rfl
    · obtain ⟨b, hb, hbe⟩ := h.buffered _ hmem hread
      have hnil : s.var.pstruPacketBuffer ≠ [] := List.ne_nil_of_mem hb
      rw [if_neg hlt, if_neg hnil]
      dsimp only
      rw [if_pos ⟨fun b hb => of_decide_eq_true (List.mem_filter.1 hb).2, update_self ..,
        update_self ..⟩]
      refine h.finish hperm (fun b => ?_) rfl (List.append_nil _) rfl rfl rfl
      rw [List.mem_filter, decide_eq_true_iff]
      rfl

/-! ## Mappings -/

theorem Inv.learn (h : s.Inv cfg retry) {ip : Ip} {mac : Mac} {buffer : List (ArpBuffer Ip)}
    {flag reply : ℕ → Bool} (hnone : readTable s.var.pstruArpTable ip = none)
    (hbuffer : ∀ b, b ∈ buffer ↔ b ∈ s.var.pstruPacketBuffer ∧ b.szDestAdd ≠ ip)
    (hmono : ∀ c, flag c = true → s.var.pnArpRequestFlag c = true)
    (hflag : ∀ b ∈ buffer, s.var.pnArpRequestFlag (cfg.getDeviceId b.szDestAdd) = true →
      flag (cfg.getDeviceId b.szDestAdd) = true)
    (hvar : s'.var =
      { s.var with
        pstruArpTable := s.var.pstruArpTable ++ [{ szIPAddress := ip, szMACAddress := mac }]
        pstruPacketBuffer := buffer
        pnArpReplyFlag := reply
        pnArpRequestFlag := flag })
    (hpending : s'.pending = s.pending) (hlearnt : s'.learnt = s.learnt ++ [(ip, mac)])
    (hfailed : s'.failed = s.failed) (hsent : s'.sent = s.sent) : s'.Inv cfg retry := by
  have hread : ∀ x, readTable (s.var.pstruArpTable ++ [{ szIPAddress := ip, szMACAddress := mac }]) x =
      (readTable s.var.pstruArpTable x).or (if ip = x then some mac else none) :=
    fun x => readTable_append
  obtain ⟨var, pending, forwarded, learnt, sent, failed⟩ := s'
  subst hvar hpending hlearnt hfailed hsent
  refine
    { h with
      table := nodup_append_of_readTable h.table hnone
      learnt := List.forall_mem_append.2 ⟨fun x hx => ?_, List.forall_mem_singleton.2 ?_⟩
      unresolved := fun b hb => ?_
      event := fun b hb => h.event b ((hbuffer b).1 hb).1
      flag := fun b hb => (h.flag b ((hbuffer b).1 hb).1).imp (hflag b hb) id
      buffered := fun e he hun => ?_
      flagged := fun c hc => h.flagged c (hmono c hc) }
  · rw [hread, h.learnt x hx]
    rfl
  · rw [hread, hnone, if_pos rfl]
    rfl
  · obtain ⟨hb, hbe⟩ := (hbuffer b).1 hb
    rw [hread, h.unresolved b hb, if_neg fun he => hbe he.symm]
    rfl
  · rw [hread] at hun
    obtain ⟨hold, hnew⟩ := Option.or_eq_none_iff.1 hun
    obtain ⟨b, hb, hbe⟩ := h.buffered e he hold
    refine ⟨b, (hbuffer b).2 ⟨hb, fun hip => ?_⟩, hbe⟩
    rw [if_pos (hip.symm.trans hbe)] at hnew
    cases hnew

omit [DecidableEq Ip] in
theorem eventsOf_map_data {l : List (ArpBuffer Ip)} {mac : Mac} :
    eventsOf (l.map fun b => Output.data b.pstruPacket mac) = [] := by
  unfold eventsOf
  rw [List.filterMap_map]
  exact List.filterMap_eq_nil_iff.2 fun _ _ => rfl

omit [DecidableEq Ip] in
theorem dataOf_map_data {l : List (ArpBuffer Ip)} {mac : Mac} :
    dataOf (l.map fun b => Output.data b.pstruPacket mac) = l.map fun b => (b.pstruPacket, mac) := by
  unfold dataOf
  rw [List.filterMap_map]
  exact congrFun List.filterMap_eq_map l

theorem Inv.reply (h : s.Inv cfg retry) {packet : ArpPacket Ip Mac} {nSourceId : ℕ}
    (hmeets : s.Meets cfg retry (.reply packet nSourceId))
    (hs : step cfg s (.reply packet nSourceId) = some s') : s'.Inv cfg retry := by
  obtain ⟨hid, hne, hnone, hother⟩ := hmeets
  unfold step at hs
  rw [if_neg (ne_true_of_eq_false h.running)] at hs
  cases hs
  unfold ArpVariables.updateArpTableForwardPacket absorb
  rw [forwardBuffered_eq]
  rw [if_neg hne, eventsOf_map_data, List.append_nil]
  refine h.learn hnone (fun b => ?_) (fun c hc => ?_) (fun b hb hset => ?_) rfl rfl rfl rfl rfl
  · rw [List.mem_filter, decide_eq_true_iff]
  · rw [update_apply] at hc
    split at hc
    · cases hc
    · exact hc
  · obtain ⟨hb, hbe⟩ := List.mem_filter.1 hb
    obtain ⟨e, he, heb⟩ := h.event b hb
    rw [update_of_ne, hset]
    exact fun hc => of_decide_eq_true hbe (heb ▸ hother e he (heb ▸ hc))

theorem Inv.request (h : s.Inv cfg retry) {packet : ArpPacket Ip Mac}
    (hmeets : s.Meets cfg retry (.request packet))
    (hs : step cfg s (.request packet) = some s') : s'.Inv cfg retry := by
  unfold step at hs
  rw [if_neg (ne_true_of_eq_false h.running)] at hs
  cases hs
  have hevents : eventsOf (s.var.checkDestinationDevice cfg packet).2 = [] := by
    unfold ArpVariables.checkDestinationDevice
    split <;> rfl
  unfold absorb
  rw [hevents, List.append_nil, checkDestinationDevice_fst]
  unfold ArpVariables.mergeSender
  cases hread : readTable s.var.pstruArpTable packet.spa with
  | some mac => exact { h with }
  | none =>
    have hbuffer := hmeets hread
    exact h.learn hread (fun b => ⟨fun hb => ⟨hb, hbuffer b hb⟩, And.left⟩) (fun _ hc => hc)
      (fun _ _ hc => hc) rfl rfl rfl rfl rfl

theorem Inv.step (h : s.Inv cfg retry) (hmeets : s.Meets cfg retry a)
    (hs : ArpState.step cfg s a = some s') : s'.Inv cfg retry := by
  cases a with
  | read packet =>
    unfold ArpState.step at hs
    rw [if_neg (ne_true_of_eq_false h.running)] at hs
    cases hs
    exact h.read hmeets
  | reply packet nSourceId => exact h.reply hmeets hs
  | request packet => exact h.request hmeets hs
  | event n =>
    unfold ArpState.step at hs
    rw [if_neg (ne_true_of_eq_false h.running)] at hs
    dsimp only at hs
    cases he : s.pending[n]? with
    | none =>
      rw [he] at hs
      cases hs
    | some e =>
      rw [he] at hs
      cases hs
      obtain ⟨hn, hget⟩ := List.getElem?_eq_some_iff.1 he
      have hperm : (e :: s.pending.eraseIdx n).Perm s.pending :=
        hget ▸ List.getElem_cons_eraseIdx_perm hn
      cases e with
      | generateArpRequest p => exact h.generate hperm
      | arpRequestTimeout p => exact h.timeout hperm (hmeets _ he)

/-! ## Every run -/

theorem Inv.cellUsed (h : s.Inv cfg retry) (hmeets : s.Meets cfg retry a) :
    ∀ u ∈ ArpState.cellUsed cfg s a, u.2 = cfg.getDeviceId u.1 := by
  intro u hu
  cases a with
  | read packet =>
    dsimp only [ArpState.cellUsed] at hu
    split at hu
    · cases hu
    · next hnone =>
      cases Option.mem_some_iff.1 hu
      obtain ⟨hgroup, hread⟩ := orElse_eq_none hnone
      exact (hmeets hgroup hread).1
  | reply packet nSourceId =>
    cases Option.mem_some_iff.1 hu
    exact hmeets.1
  | request packet => cases hu
  | event n =>
    dsimp only [ArpState.cellUsed] at hu
    split at hu
    · cases hu
    · next p hp =>
      cases Option.mem_some_iff.1 hu
      exact (h.ids _ (List.mem_of_getElem? hp)).1
    · cases Option.mem_some_iff.1 hu
      rfl

theorem handle_pstruArpTable : (handle cfg s e).var.pstruArpTable = s.var.pstruArpTable := by
  unfold handle
  cases e with
  | generateArpRequest p =>
    dsimp only [ArpVariables.generateArpRequest]
    by_cases hnet : cfg.isInSameNetwork p.szNextHopIp
    · rw [if_pos hnet]
      rfl
    · rw [if_neg hnet]
  | arpRequestTimeout p =>
    dsimp only [ArpVariables.arpRequestTimeout]
    cases readTable s.var.pstruArpTable p.szNextHopIp with
    | some mac => rfl
    | none =>
      by_cases hlt : s.var.pnArpRetryCount (cfg.getDeviceId p.szNextHopIp) < s.var.nArpRetryLimit
      · rw [if_pos hlt]
        rfl
      · by_cases hnil : s.var.pstruPacketBuffer = []
        · rw [if_neg hlt, if_pos hnil]
        · rw [if_neg hlt, if_neg hnil]
          rfl

theorem flushes_of_table (h : ∀ s', step cfg s a = some s' →
    s'.var.pstruArpTable = s.var.pstruArpTable) : Flushes cfg s a := by
  intro s' hs ip mac hnone hsome
  rw [h s' hs, hnone] at hsome
  cases hsome

theorem Inv.flushes (h : s.Inv cfg retry) (hmeets : s.Meets cfg retry a) : Flushes cfg s a := by
  cases a with
  | read packet =>
    refine flushes_of_table fun s' hs => ?_
    unfold ArpState.step at hs
    rw [if_neg (ne_true_of_eq_false h.running)] at hs
    cases hs
    unfold ArpVariables.readArpTable
    split
    · rfl
    · split <;> rfl
  | reply packet nSourceId =>
    obtain ⟨-, hne, -, -⟩ := hmeets
    intro s' hs ip mac hnone hsome
    unfold ArpState.step at hs
    rw [if_neg (ne_true_of_eq_false h.running)] at hs
    cases hs
    unfold ArpVariables.updateArpTableForwardPacket absorb at hsome ⊢
    rw [forwardBuffered_eq] at hsome ⊢
    rw [if_neg hne, readTable_append, hnone, Option.none_or] at hsome
    split at hsome
    · next hip =>
      cases hsome
      rw [dataOf_map_data, ← hip]
      exact ⟨rfl, rfl⟩
    · cases hsome
  | request packet =>
    intro s' hs ip mac hnone hsome
    unfold ArpState.step at hs
    rw [if_neg (ne_true_of_eq_false h.running)] at hs
    cases hs
    have hdata : dataOf (s.var.checkDestinationDevice cfg packet).2 = [] := by
      unfold ArpVariables.checkDestinationDevice
      split <;> rfl
    unfold absorb at hsome ⊢
    rw [checkDestinationDevice_fst] at hsome ⊢
    unfold ArpVariables.mergeSender at hsome ⊢
    cases hread : readTable s.var.pstruArpTable packet.spa with
    | some m =>
      rw [hread] at hsome
      rw [hnone] at hsome
      cases hsome
    | none =>
      rw [hread] at hsome
      rw [readTable_append, hnone, Option.none_or] at hsome
      split at hsome
      · next hip =>
        -- Nothing waits for the sender.
        have hbuffer : ∀ b ∈ s.var.pstruPacketBuffer, b.szDestAdd ≠ ip := hip ▸ hmeets hread
        have hnil : (s.var.pstruPacketBuffer.filter fun b => b.szDestAdd = ip) = [] :=
          List.filter_eq_nil_iff.2 fun b hb hd => hbuffer b hb (of_decide_eq_true hd)
        rw [hdata, hnil]
        exact ⟨rfl, (List.filter_eq_self.2 fun b hb => decide_eq_true (hbuffer b hb)).symm⟩
      · cases hsome
  | event n =>
    refine flushes_of_table fun s' hs => ?_
    unfold ArpState.step at hs
    rw [if_neg (ne_true_of_eq_false h.running)] at hs
    dsimp only at hs
    split at hs
    · cases hs
    · cases hs
      exact handle_pstruArpTable

/-- In every run whose steps meet `Meets` the waiting packets have one event pending, and leave when
the address is resolved. -/
theorem resolution (cfg : ArpConfig Ip Mac) (retry : Bool) (table : List (ArpTable Ip Mac))
    (nArpRetryLimit : ℕ) (tr : List (ArpState Ip Mac × ArpAction Ip Mac)) (s : ArpState Ip Mac)
    (htable : (table.map ArpTable.szIPAddress).Nodup)
    (run : Run (step cfg) (start table nArpRetryLimit) tr s)
    (hmeets : ∀ x ∈ tr, x.1.Meets cfg retry x.2) : s.Sound cfg retry tr := by
  have hall : s.Inv cfg retry ∧ (∀ x ∈ tr, ∀ u ∈ ArpState.cellUsed cfg x.1 x.2, u.2 = cfg.getDeviceId u.1) ∧
      ∀ x ∈ tr, Flushes cfg x.1 x.2 := by
    refine run.induction (Q := fun s a => s.Meets cfg retry a)
      (P := fun tr s => s.Inv cfg retry ∧
        (∀ x ∈ tr, ∀ u ∈ ArpState.cellUsed cfg x.1 x.2, u.2 = cfg.getDeviceId u.1) ∧
          ∀ x ∈ tr, Flushes cfg x.1 x.2)
      ⟨inv_start htable, nofun, nofun⟩ (fun tr s a s' _ h hmeet hs => ?_) hmeets
    obtain ⟨h, hcell, hflush⟩ := h
    exact ⟨h.step hmeet hs, List.forall_mem_cons.2 ⟨h.cellUsed hmeet, hcell⟩,
      List.forall_mem_cons.2 ⟨h.flushes hmeet, hflush⟩⟩
  obtain ⟨h, hcell, hflush⟩ := hall
  exact
    { running := h.running
      table := h.table
      learnt := h.learnt
      unresolved := h.unresolved
      flag := h.flag
      pending := fun b hb => by
        obtain ⟨e, he, hip⟩ := h.event b hb
        exact h.length_filter he hip
      sent := fun ip => by
        by_cases hip : s.sent ip = 0
        · exact hip ▸ Nat.zero_le _
        · obtain ⟨e, he, rfl⟩ := h.sent ip hip
          obtain ⟨h₁, h₂⟩ := h.bound e he
          exact Nat.le_trans h₁ h₂
      sameCell := fun x hx y hy u hu w hw huw => by
        rw [hcell x hx u hu, hcell y hy w hw, huw]
      flushes := hflush }

end

/-- An interface with address 1, and device ids that are the addresses. -/
def exampleConfig : ArpConfig ℕ ℕ :=
  { szAddress := 1
    szMacAddress := 11
    isInSameNetwork := fun _ => true
    groupMac := fun _ => none
    getDeviceId := id }

def examplePacket (nPacketId : ℕ) : DataPacket ℕ :=
  { nPacketId, nReceiverId := 2, firstDest := 2, szNextHopIp := 2 }

def exampleTable : List (ArpTable ℕ ℕ) := [{ szIPAddress := 9, szMACAddress := 99 }]

/-- The request is sent twice, and the reply lets both packets go. -/
theorem resolution_reply : ∃ tr s,
    Run (step exampleConfig) (start exampleTable 3) tr s ∧
      s.forwarded = [(examplePacket 1, 22), (examplePacket 2, 22)] ∧ s.pending = [] ∧
        s.Sound exampleConfig true tr := by
  have hexec : (exec (step exampleConfig) (start exampleTable 3)
      ([.read (examplePacket 1), .event 0, .read (examplePacket 2), .event 0, .event 0,
        .reply { spa := 2, sha := 22, tpa := 1 } 2, .event 0].map fun a _ => some a)).any
      (fun x => decide ((∀ y ∈ x.1, y.1.Meets exampleConfig true y.2) ∧
        x.2.forwarded = [(examplePacket 1, 22), (examplePacket 2, 22)] ∧ x.2.pending = [])) = true := by
    decide +kernel
  obtain ⟨tr, s, run, htest⟩ := run_of_exec hexec
  obtain ⟨hmeets, hforwarded, hpending⟩ := of_decide_eq_true htest
  exact ⟨tr, s, run, hforwarded, hpending,
    resolution exampleConfig true exampleTable 3 tr s (by decide) run hmeets⟩

/-- The neighbour asks for somebody else, and the packet for it stays in the buffer. -/
theorem not_resolution : ¬ ∀ (cfg : ArpConfig ℕ ℕ) (table : List (ArpTable ℕ ℕ)) (nArpRetryLimit : ℕ)
    (tr : List (ArpState ℕ ℕ × ArpAction ℕ ℕ)) (s : ArpState ℕ ℕ),
    (table.map ArpTable.szIPAddress).Nodup → Run (step cfg) (start table nArpRetryLimit) tr s →
      s.Sound cfg false tr := by
  intro h
  have hexec : (exec (step exampleConfig) (start exampleTable 3)
      ([.read (examplePacket 1), .event 0, .request { spa := 2, sha := 22, tpa := 3 },
        .event 0].map fun a _ => some a)).any
      (fun x => decide (∃ b ∈ x.2.var.pstruPacketBuffer,
        readTable x.2.var.pstruArpTable b.szDestAdd ≠ none)) = true := by
    decide +kernel
  obtain ⟨tr, s, run, htest⟩ := run_of_exec hexec
  obtain ⟨b, hb, hread⟩ := of_decide_eq_true htest
  exact hread ((h _ _ _ tr s (by decide) run).unresolved b hb)

end ArpState

end NetSim.Arp
