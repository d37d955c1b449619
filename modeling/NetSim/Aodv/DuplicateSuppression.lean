import NetSim.Aodv.RreqDisposition
import NetSim.Aodv.InFlight

/-!
# Duplicate suppression

The ids of RREQs come from one counter that all devices share, and a seen table only grows: so a
device handles an RREQ once at most. Handling it once may still forward it twice.
-/

namespace NetSim.Aodv

open NetSim.Lib

/-! ## The seen table -/

/-- The RREQ `nRREQId` of `orginator` is in the seen table. -/
def Seen (v : DeviceVar) (orginator : IPAddress) (nRREQId : UInt32) : Prop :=
  ∃ table ∈ v.rreqSeenTable, table.orginatingNode = orginator ∧ table.nRREQId = nRREQId

theorem checkRREQSeenTable_iff {v : DeviceVar} {rreq : RREQ} :
    checkRREQSeenTable v rreq = true ↔ Seen v rreq.originatorIPAddress rreq.rreqId := by
  simp [checkRREQSeenTable, Seen]

def Accepts (v : DeviceVar) (a : NodeAction) (rreq : RREQ) : Prop :=
  ∃ packet, a = .networkIn packet ∧ packet.payload = .rreq rreq ∧
    checkRREQSeenTable v rreq = false

section SeenTable

variable {c : Curr} {nRREQId : UInt32} {v : DeviceVar} {a : NodeAction} {o : Outcome}

theorem seen_append {l : List RREQSeenTable} {table : RREQSeenTable} {orginator : IPAddress}
    {id : UInt32} (h : o.devVar.rreqSeenTable = l ++ [table]) :
    Seen o.devVar orginator id ↔
      (∃ t ∈ l, t.orginatingNode = orginator ∧ t.nRREQId = id) ∨
        (table.orginatingNode = orginator ∧ table.nRREQId = id) := by
  unfold Seen
  rw [h]
  simp [or_and_right, exists_or]

theorem succ_ne (n : UInt32) : n + 1 ≠ n := by
  intro h
  have heq := congrArg UInt32.toNat h
  rw [UInt32.toNat_add, UInt32.toNat_one] at heq
  omega

/-- The event adds to the seen table the RREQ that it accepts or sends, and nothing else. -/
structure SeenEffect (c : Curr) (nRREQId : UInt32) (v : DeviceVar) (a : NodeAction) (o : Outcome) :
    Prop where
  counter : o.nRREQId = nRREQId ∨ o.nRREQId = nRREQId + 1
  seen : ∀ orginator id, Seen o.devVar orginator id ↔
    Seen v orginator id ∨
      (∃ rreq, Accepts v a rreq ∧ rreq.originatorIPAddress = orginator ∧ rreq.rreqId = id) ∨
      (o.nRREQId ≠ nRREQId ∧ c.ip = orginator ∧ o.nRREQId = id)

namespace SeenEffect

theorem same (haccepts : ∀ rreq, ¬ Accepts v a rreq)
    (hseen : o.devVar.rreqSeenTable = v.rreqSeenTable) (hid : o.nRREQId = nRREQId) :
    SeenEffect c nRREQId v a o := by
  refine ⟨Or.inl hid, fun orginator id => ?_⟩
  have hiff : Seen o.devVar orginator id ↔ Seen v orginator id := by
    unfold Seen
    rw [hseen]
  rw [hiff]
  constructor
  · exact Or.inl
  · rintro (hv | ⟨rreq, hrreq, -⟩ | ⟨hne, -⟩)
    · exact hv
    · exact absurd hrreq (haccepts rreq)
    · exact absurd hid hne

theorem sends (haccepts : ∀ rreq, ¬ Accepts v a rreq)
    (hseen : o.devVar.rreqSeenTable = v.seenAfter c c.ip (nRREQId + 1))
    (hid : o.nRREQId = nRREQId + 1) : SeenEffect c nRREQId v a o := by
  refine ⟨Or.inr hid, fun orginator id => ?_⟩
  rw [seen_append hseen, hid]
  constructor
  · rintro (hv | ⟨horginator, hrreqId⟩)
    · exact Or.inl hv
    · exact Or.inr (Or.inr ⟨succ_ne nRREQId, horginator, hrreqId⟩)
  · rintro (hv | ⟨rreq, hrreq, -⟩ | ⟨-, horginator, hrreqId⟩)
    · exact Or.inl hv
    · exact absurd hrreq (haccepts rreq)
    · exact Or.inr ⟨horginator, hrreqId⟩

theorem accepts {packet : Packet} {rreq : RREQ} (hrreq : packet.payload = .rreq rreq)
    (hunseen : checkRREQSeenTable v rreq = false)
    (hseen : o.devVar.rreqSeenTable = v.seenAfter c rreq.originatorIPAddress rreq.rreqId)
    (hid : o.nRREQId = nRREQId) : SeenEffect c nRREQId v (.networkIn packet) o := by
  refine ⟨Or.inl hid, fun orginator id => ?_⟩
  rw [seen_append hseen]
  constructor
  · rintro (hv | ⟨horginator, hrreqId⟩)
    · exact Or.inl hv
    · exact Or.inr (Or.inl ⟨rreq, ⟨packet, rfl, hrreq, hunseen⟩, horginator, hrreqId⟩)
  · rintro (hv | ⟨rreq', ⟨packet', heq, hrreq', -⟩, horginator, hrreqId⟩ | ⟨hne, -⟩)
    · exact Or.inl hv
    · cases heq
      cases hrreq.symm.trans hrreq'
      exact Or.inr ⟨horginator, hrreqId⟩
    · exact absurd hid hne

end SeenEffect

theorem not_accepts (ha : ∀ packet rreq, a = .networkIn packet → packet.payload = .rreq rreq →
    checkRREQSeenTable v rreq = true) (rreq : RREQ) : ¬ Accepts v a rreq := by
  rintro ⟨packet, hact, hrreq, hunseen⟩
  rw [ha packet rreq hact hrreq] at hunseen
  cases hunseen

theorem not_accepts_of_routes {packet : Packet} (ha : a.Routes packet) (rreq : RREQ) :
    ¬ Accepts v a rreq := by
  apply not_accepts
  intro packet' rreq' hact
  rcases ha with ⟨time, rfl⟩ | rfl <;> cases hact

theorem handle_seen (h : handle c nRREQId v a = some o) : SeenEffect c nRREQId v a o := by
  cases handle_book h with
  | same _ hquiet hbook hid =>
    refine .same (not_accepts ?_) (congrArg Book.rreqSeenTable hbook) hid
    intro packet rreq hact hrreq
    subst hact
    simpa only [NodeAction.Quiet, hrreq] using hquiet
  | expires _ _ hbook hid =>
    refine .same (not_accepts ?_) (congrArg Book.rreqSeenTable hbook) hid
    exact fun _ _ => NodeAction.noConfusion
  | breaks _ _ hbook hid =>
    refine .same (not_accepts ?_) (congrArg Book.rreqSeenTable hbook) hid
    exact fun _ _ => NodeAction.noConfusion
  | buffers _ _ _ ha _ _ hbook hid =>
    exact .same (not_accepts_of_routes ha) (congrArg Book.rreqSeenTable hbook) hid
  | discovers _ _ _ ha _ _ hbook hid =>
    exact .sends (not_accepts_of_routes ha) (congrArg Book.rreqSeenTable hbook) hid
  | givesUp _ _ _ _ _ _ hbook hid =>
    refine .same (not_accepts ?_) (congrArg Book.rreqSeenTable hbook) hid
    exact fun _ _ => NodeAction.noConfusion
  | retries _ _ _ _ _ _ hbook hid =>
    refine .sends (not_accepts ?_) (congrArg Book.rreqSeenTable hbook) hid
    exact fun _ _ => NodeAction.noConfusion
  | learns _ _ hrrep _ hbook hid =>
    refine .same (not_accepts ?_) (congrArg Book.rreqSeenTable hbook) hid
    intro packet rreq hact hrreq
    cases hact
    cases hrrep.symm.trans hrreq
  | accepts packet rreq hrreq hunseen hbook hid =>
    exact .accepts hrreq hunseen (congrArg Book.rreqSeenTable hbook) hid

end SeenTable

/-! ## What a step does with an RREQ -/

abbrev RREQKey := IPAddress × IPAddress × UInt32

def rreqGenerated (nodes : List IPAddress) (x : Net × NetAction) : Option (IPAddress × UInt32) :=
  match x.2.local x.1.sent with
  | some (i, act) =>
    if i ∈ nodes then
      (handle ⟨i, x.1.now⟩ x.1.nRREQId (x.1.device i).var act).bind fun o =>
        if o.nRREQId = x.1.nRREQId then none else some (i, o.nRREQId)
    else none
  | none => none

def generated (nodes : List IPAddress) (tr : List (Net × NetAction)) : List (IPAddress × UInt32) :=
  tr.filterMap (rreqGenerated nodes)

/-- What `f` finds of the delivery of an RREQ, one element for each. -/
def perDelivery {α : Type} (nodes : List IPAddress) (f : Curr → DeviceVar → Packet → Outcome → List α)
    (x : Net × NetAction) : List RREQKey :=
  match rreqDelivery nodes x with
  | some (i, packet, rreq, o) =>
    (f ⟨i, x.1.now⟩ (x.1.device i).var packet o).map fun _ =>
      (i, rreq.originatorIPAddress, rreq.rreqId)
  | none => []

def handledRREQ (nodes : List IPAddress) (x : Net × NetAction) : List RREQKey :=
  match rreqDelivery nodes x with
  | some (i, _, rreq, _) =>
    if checkRREQSeenTable (x.1.device i).var rreq then []
    else [(i, rreq.originatorIPAddress, rreq.rreqId)]
  | none => []

def Packet.isRREP (packet : Packet) : Bool :=
  match packet.payload with
  | .rrep _ => true
  | _ => false

def Packet.isRREQ (packet : Packet) : Bool :=
  match packet.payload with
  | .rreq _ => true
  | _ => false

def reverseUpdates (nodes : List IPAddress) : Net × NetAction → List RREQKey :=
  perDelivery nodes fun c v packet _ => routeOps c v (.networkIn packet)

def replies (nodes : List IPAddress) : Net × NetAction → List RREQKey :=
  perDelivery nodes fun _ _ _ o => o.packets.filter Packet.isRREP

def rebroadcasts (nodes : List IPAddress) : Net × NetAction → List RREQKey :=
  perDelivery nodes fun _ _ _ o => o.packets.filter Packet.isRREQ

/-- The step delivers an RREQ to a device that may answer, but whose next hop is the device that the
RREQ came from. -/
def forwardsBack (nodes : List IPAddress) (x : Net × NetAction) : Bool :=
  match rreqDelivery nodes x with
  | some (i, _, rreq, _) =>
    let c : Curr := ⟨i, x.1.now⟩
    let v := (x.1.device i).var
    !checkRREQSeenTable v rreq && decide (i ≠ rreq.destinationIPAddress) &&
      decide (devCounter v.ncounter ≤ 25) && mayAnswer c rreq (v.withReverseRoute c rreq) &&
      decide (findNextHop (v.withReverseRoute c rreq) rreq.destinationIPAddress =
        some rreq.lastAddress)
  | none => false

section Step

variable {nodes : List IPAddress} {s : Net} {a : NetAction} {i : IPAddress} {act : NodeAction}
  {o : Outcome}

theorem rreqDelivery_of_acts (h : s.Acts nodes a i act o) {packet : Packet} {rreq : RREQ}
    (hact : act = .networkIn packet) (hrreq : packet.payload = .rreq rreq) :
    rreqDelivery nodes (s, a) = some (i, packet, rreq, o) := by
  subst hact
  unfold rreqDelivery
  simp only [h.act_eq, hrreq, if_pos h.mem_nodes, h.handled, Option.map_some]

theorem mem_handledRREQ (h : s.Acts nodes a i act o) {key : RREQKey} :
    key ∈ handledRREQ nodes (s, a) ↔ ∃ rreq, Accepts (s.device i).var act rreq ∧
      key = (i, rreq.originatorIPAddress, rreq.rreqId) := by
  constructor
  · intro hmem
    unfold handledRREQ at hmem
    split at hmem
    · next j packet rreq o' hdelivery =>
      obtain ⟨hacts, hrreq⟩ := acts_of_rreqDelivery hdelivery
      cases h.act_eq.symm.trans hacts.act_eq
      split at hmem
      · cases hmem
      · next hunseen =>
        exact ⟨rreq, ⟨packet, rfl, hrreq, Bool.eq_false_iff.2 hunseen⟩, List.mem_singleton.1 hmem⟩
    · cases hmem
  · rintro ⟨rreq, ⟨packet, hact, hrreq, hunseen⟩, rfl⟩
    unfold handledRREQ
    rw [rreqDelivery_of_acts h hact hrreq]
    simp [hunseen]

theorem rreqGenerated_of_acts (h : s.Acts nodes a i act o) :
    rreqGenerated nodes (s, a) = if o.nRREQId = s.nRREQId then none else some (i, o.nRREQId) := by
  unfold rreqGenerated
  simp only [h.act_eq, if_pos h.mem_nodes, h.handled, Option.bind_some]

theorem generated_of_acts (h : s.Acts nodes a i act o) (tr : List (Net × NetAction)) :
    generated nodes ((s, a) :: tr) =
      if o.nRREQId = s.nRREQId then generated nodes tr
      else (i, o.nRREQId) :: generated nodes tr := by
  unfold generated
  rw [List.filterMap_cons, rreqGenerated_of_acts h]
  split
  · next heq =>
    split at heq
    · next hid => rw [if_pos hid]
    · cases heq
  · next heq =>
    split at heq
    · cases heq
    · next hid =>
      rw [if_neg hid, ← Option.some.inj heq]

theorem nodup_handledRREQ (x : Net × NetAction) : (handledRREQ nodes x).Nodup := by
  unfold handledRREQ
  split
  · split
    · exact List.nodup_nil
    · exact List.nodup_singleton _
  · exact List.nodup_nil

end Step

/-! ## Runs -/

def handledIn (nodes : List IPAddress) (tr : List (Net × NetAction)) : List RREQKey :=
  tr.flatMap (handledRREQ nodes)

structure SeenInv (nodes : List IPAddress) (tr : List (Net × NetAction)) (s : Net) : Prop where
  nodup : (handledIn nodes tr).Nodup
  seen : ∀ i orginator id, Seen (s.device i).var orginator id ↔
    (i, orginator, id) ∈ handledIn nodes tr ∨
      (orginator = i ∧ (orginator, id) ∈ generated nodes tr)

variable {tr : List (Net × NetAction)}

theorem mem_generated_cons {nodes : List IPAddress} {s : Net} {a : NetAction} {i : IPAddress}
    {act : NodeAction} {o : Outcome} (h : s.Acts nodes a i act o) {key : IPAddress × UInt32} :
    key ∈ generated nodes ((s, a) :: tr) ↔
      key ∈ generated nodes tr ∨ (o.nRREQId ≠ s.nRREQId ∧ i = key.1 ∧ o.nRREQId = key.2) := by
  rw [generated_of_acts h]
  split
  · next hid => simp [hid]
  · next hid =>
    rw [List.mem_cons, Prod.mk.injEq, or_comm]
    simp [hid, eq_comm]

theorem seenInv_of_run {nodes : List IPAddress} {s : Net}
    (run : NetRun nodes tr s) : SeenInv nodes tr s := by
  induction run with
  | nil =>
    refine ⟨List.nodup_nil, fun i orginator id => ?_⟩
    simp [Seen, Net.init, Device.init, DeviceVar.init, handledIn, generated]
  | @snoc tr s s' a run hstep ih =>
    rcases Net.step_cases hstep with ⟨time, rfl, -, -, rfl⟩ | ⟨i, act, o, hact, rfl⟩
    · exact ⟨ih.nodup, ih.seen⟩
    · obtain ⟨-, hseen⟩ := handle_seen hact.handled
      refine ⟨?_, fun j orginator id => ?_⟩
      · unfold handledIn
        rw [List.flatMap_cons, List.nodup_append]
        refine ⟨nodup_handledRREQ _, ih.nodup, ?_⟩
        rintro key hkey _ hold rfl
        obtain ⟨rreq, ⟨packet, -, -, hunseen⟩, rfl⟩ := (mem_handledRREQ hact).1 hkey
        rw [checkRREQSeenTable_iff.2 ((ih.seen _ _ _).2 (Or.inl hold))] at hunseen
        cases hunseen
      · unfold handledIn
        rw [List.flatMap_cons, List.mem_append, mem_handledRREQ hact, mem_generated_cons hact]
        by_cases hj : j = i
        · subst hj
          rw [after_device_self, hseen, ih.seen]
          simp only [Prod.mk.injEq, true_and]
          constructor
          · rintro ((hold | ⟨heq, hold⟩) | ⟨rreq, hrreq, horginator, hid⟩ | ⟨hne, heq, hid⟩)
            · exact Or.inl (Or.inr hold)
            · exact Or.inr ⟨heq, Or.inl hold⟩
            · exact Or.inl (Or.inl ⟨rreq, hrreq, horginator.symm, hid.symm⟩)
            · exact Or.inr ⟨heq.symm, Or.inr ⟨hne, heq, hid⟩⟩
          · rintro ((⟨rreq, hrreq, horginator, hid⟩ | hold) | ⟨heq, hold | ⟨hne, heq', hid⟩⟩)
            · exact Or.inr (Or.inl ⟨rreq, hrreq, horginator.symm, hid.symm⟩)
            · exact Or.inl (Or.inl hold)
            · exact Or.inl (Or.inr ⟨heq, hold⟩)
            · exact Or.inr (Or.inr ⟨hne, heq', hid⟩)
        · rw [after_device_ne hj, ih.seen]
          constructor
          · rintro (hold | ⟨heq, hold⟩)
            · exact Or.inl (Or.inr hold)
            · exact Or.inr ⟨heq, Or.inl hold⟩
          · rintro ((⟨rreq, -, heq⟩ | hold) | ⟨heq, hold | ⟨-, heq', -⟩⟩)
            · simp only [Prod.mk.injEq] at heq
              exact absurd heq.1 hj
            · exact Or.inl hold
            · exact Or.inr ⟨heq, hold⟩
            · exact absurd (heq.symm.trans heq'.symm) hj

theorem inFlight_generated {nodes : List IPAddress} {s : Net}
    (run : NetRun nodes tr s) {p : Packet} {rreq : RREQ} (hp : s.InFlight p)
    (hrreq : p.payload = .rreq rreq) :
    (rreq.originatorIPAddress, rreq.rreqId) ∈ generated nodes tr := by
  induction run generalizing p rreq with
  | nil => exact absurd hp not_inFlight_init
  | @snoc tr s s' a run hstep ih =>
    rcases Net.step_cases hstep with ⟨time, rfl, -, -, rfl⟩ | ⟨i, act, o, hact, rfl⟩
    · exact ih hp hrreq
    · rw [mem_generated_cons hact]
      rcases inFlight_after hp with hp | hp
      · exact Or.inl (ih hp hrreq)
      have hreceived : ∀ {packet rreq'}, act = .networkIn packet → packet.payload = .rreq rreq' →
          (rreq'.originatorIPAddress, rreq'.rreqId) ∈ generated nodes tr := by
        rintro packet rreq' rfl hpacket
        obtain ⟨frame, hframe, -, rfl⟩ := exists_frame_of_networkIn hact
        cases hpayload : frame.payload with
        | rreq rreq0 =>
          simp only [receivedCopy, copyPayload, hpayload, Payload.rreq.injEq] at hpacket
          have hgenerated := ih (Or.inl hframe) hpayload
          rw [← hpacket]
          exact hgenerated
        | _ => simp [receivedCopy, copyPayload, hpayload] at hpacket
      cases (hact.emits run hp).rreq hrreq with
      | sends time packet hpacket => exact Or.inl (ih (inFlight_of_fire hact) hpacket)
      | originates _ dest hnew _ hcount =>
        rw [hnew]
        refine Or.inr ⟨?_, rfl, hcount⟩
        rw [hcount]
        exact succ_ne _
      | rebroadcasts packet rreq0 hpacket _ _ _ _ _ hforwarded =>
        have hgenerated := hreceived rfl hpacket
        rw [hforwarded] at hrreq
        cases hrreq
        exact Or.inl hgenerated

theorem generated_ids {nodes : List IPAddress} {s : Net}
    (run : NetRun nodes tr s) (hcount : (generated nodes tr).length < 2 ^ 32) :
    s.nRREQId.toNat = (generated nodes tr).length ∧
      (∀ key ∈ generated nodes tr, key.2.toNat ≤ s.nRREQId.toNat) ∧
      ((generated nodes tr).map Prod.snd).Nodup := by
  induction run with
  | nil => exact ⟨rfl, (fun _ h => nomatch h), List.nodup_nil⟩
  | @snoc tr s s' a run hstep ih =>
    rcases Net.step_cases hstep with ⟨time, rfl, -, -, rfl⟩ | ⟨i, act, o, hact, rfl⟩
    · exact ih hcount
    · obtain ⟨hid, -⟩ := handle_seen hact.handled
      rw [generated_of_acts hact] at hcount ⊢
      rw [after_nRREQId]
      split
      · next heq =>
        rw [if_pos heq] at hcount
        rw [heq]
        exact ih hcount
      · next hne =>
        rw [if_neg hne, List.length_cons] at hcount
        obtain ⟨hlength, hle, hnodup⟩ := ih (by omega)
        have hsucc : o.nRREQId.toNat = s.nRREQId.toNat + 1 := by
          rw [hid.resolve_left hne, UInt32.toNat_add, UInt32.toNat_one, hlength]
          omega
        refine ⟨?_, ?_, ?_⟩
        · rw [hsucc, hlength, List.length_cons]
        · intro key hkey
          rcases List.mem_cons.1 hkey with rfl | hkey
          · exact le_refl _
          · rw [hsucc]
            exact Nat.le_succ_of_le (hle key hkey)
        · rw [List.map_cons, List.nodup_cons]
          refine ⟨?_, hnodup⟩
          intro hmem
          obtain ⟨key, hkey, heq⟩ := List.mem_map.1 hmem
          have hbound := hle key hkey
          rw [heq, hsucc] at hbound
          omega

/-! ## What the handling of an RREQ puts out -/

section Delivery

variable {c : Curr} {nRREQId : UInt32} {v : DeviceVar} {packet : Packet} {rreq : RREQ} {o : Outcome}

def ForwardsBack (c : Curr) (v : DeviceVar) (rreq : RREQ) : Prop :=
  c.ip ≠ rreq.destinationIPAddress ∧ devCounter v.ncounter ≤ 25 ∧
    mayAnswer c rreq (v.withReverseRoute c rreq) = true ∧
    findNextHop (v.withReverseRoute c rreq) rreq.destinationIPAddress = some rreq.lastAddress

theorem packets_of_handled (h : handle c nRREQId v (.networkIn packet) = some o)
    (hrreq : packet.payload = .rreq rreq) (hunseen : checkRREQSeenTable v rreq = false) :
    (ForwardsBack c v rreq ∧ ∃ p, p.isRREQ = true ∧ o.packets = [p, p]) ∨
      (¬ ForwardsBack c v rreq ∧
        (o.packets = [] ∨ ∃ p, p.isRREP = true ∧ p.isRREQ = false ∧ o.packets = [p])) := by
  by_cases hdest : c.ip = rreq.destinationIPAddress
  · obtain ⟨hpackets, -⟩ := of_handle h (handle_rreq_destination nRREQId hrreq hunseen hdest)
    exact Or.inr ⟨fun hback => hback.1 hdest, Or.inr ⟨_, rfl, rfl, hpackets⟩⟩
  by_cases hcongested : 25 < devCounter v.ncounter
  · have hpackets := of_handle h (handle_rreq_congested nRREQId hrreq hunseen hdest hcongested)
    exact Or.inr ⟨fun hback => absurd hcongested (not_lt_of_ge hback.2.1), Or.inl hpackets⟩
  have hcounter := le_of_not_gt hcongested
  cases hmay : mayAnswer c rreq (v.accept c rreq) with
  | false =>
    have hpackets := of_handle h (handle_rreq_noRoute nRREQId hrreq hunseen hdest hcounter hmay)
    refine Or.inr ⟨fun hback => ?_, Or.inl hpackets⟩
    rw [mayAnswer_accept, hback.2.2.1] at hmay
    cases hmay
  | true =>
    obtain ⟨table, hfind⟩ := exists_of_mayAnswer hmay
    have hnextHop : findNextHop (v.accept c rreq) rreq.destinationIPAddress =
        some table.nextHop := by
      rw [findNextHop, hfind, Option.map_some]
    by_cases hnext : table.nextHop = rreq.lastAddress
    · rw [hnext] at hnextHop
      have hback := handle_rreq_back nRREQId hrreq hunseen hdest hcounter hmay hnextHop
      split at hback
      · rw [h] at hback
        cases hback
      · rw [mayAnswer_accept] at hmay
        rw [findNextHop_accept] at hnextHop
        exact Or.inl ⟨⟨hdest, hcounter, hmay, hnextHop⟩, _, rfl, of_handle h hback⟩
    · have hpackets :=
        of_handle h (handle_rreq_answers nRREQId hrreq hunseen hdest hcounter hmay hfind hnext)
      refine Or.inr ⟨fun hback => ?_, Or.inr ⟨_, rfl, rfl, hpackets⟩⟩
      rw [findNextHop_accept, hback.2.2.2] at hnextHop
      exact hnext (Option.some.inj hnextHop).symm

end Delivery

section Lists

variable {nodes : List IPAddress} {x : Net × NetAction}

theorem forwardsBack_iff {i : IPAddress} {packet : Packet} {rreq : RREQ} {o : Outcome}
    (h : rreqDelivery nodes x = some (i, packet, rreq, o)) :
    forwardsBack nodes x = true ↔ checkRREQSeenTable (x.1.device i).var rreq = false ∧
      ForwardsBack ⟨i, x.1.now⟩ (x.1.device i).var rreq := by
  unfold forwardsBack ForwardsBack
  simp [h, and_assoc]

theorem sublist_handledRREQ {α : Type} {f : Curr → DeviceVar → Packet → Outcome → List α}
    (hf : ∀ i packet rreq o, rreqDelivery nodes x = some (i, packet, rreq, o) →
      (f ⟨i, x.1.now⟩ (x.1.device i).var packet o).length ≤
        if checkRREQSeenTable (x.1.device i).var rreq then 0 else 1) :
    (perDelivery nodes f x).Sublist (handledRREQ nodes x) := by
  unfold perDelivery handledRREQ
  cases hdelivery : rreqDelivery nodes x with
  | none => exact List.Sublist.refl _
  | some r =>
    obtain ⟨i, packet, rreq, o⟩ := r
    have hlength := hf i packet rreq o hdelivery
    simp only
    split at hlength
    · rw [List.length_eq_zero_iff.1 (Nat.le_zero.1 hlength)]
      exact List.nil_sublist _
    · next hunseen =>
      rw [if_neg hunseen]
      match f ⟨i, x.1.now⟩ (x.1.device i).var packet o, hlength with
      | [], _ => exact List.nil_sublist _
      | [y], _ => exact List.Sublist.refl _

theorem reverseUpdates_sublist : (reverseUpdates nodes x).Sublist (handledRREQ nodes x) := by
  apply sublist_handledRREQ
  intro i packet rreq o hdelivery
  obtain ⟨-, hrreq⟩ := acts_of_rreqDelivery hdelivery
  simp only [routeOps, inOps, hrreq]
  split <;> rfl

theorem packets_of_seen {i : IPAddress} {packet : Packet} {rreq : RREQ} {o : Outcome}
    (h : rreqDelivery nodes x = some (i, packet, rreq, o))
    (hseen : checkRREQSeenTable (x.1.device i).var rreq = true) : o.packets = [] := by
  obtain ⟨hacts, hrreq⟩ := acts_of_rreqDelivery h
  have ho := hacts.handled
  rw [handle_rreq_seen x.1.nRREQId hrreq hseen] at ho
  rw [← Option.some.inj ho]
  rfl

theorem replies_sublist : (replies nodes x).Sublist (handledRREQ nodes x) := by
  apply sublist_handledRREQ
  intro i packet rreq o hdelivery
  obtain ⟨hacts, hrreq⟩ := acts_of_rreqDelivery hdelivery
  cases hseen : checkRREQSeenTable (x.1.device i).var rreq with
  | true =>
    rw [packets_of_seen hdelivery hseen]
    exact le_refl 0
  | false =>
    rcases packets_of_handled hacts.handled hrreq hseen with
      ⟨-, p, hp, hpackets⟩ | ⟨-, hpackets | ⟨p, hp, -, hpackets⟩⟩
    · have hnot : p.isRREP = false := by
        unfold Packet.isRREQ at hp
        unfold Packet.isRREP
        split at hp
        · next hpayload => rw [hpayload]
        · cases hp
      simp [hpackets, hnot]
    · simp [hpackets]
    · simp [hpackets, hp]

theorem rebroadcasts_sublist (hback : forwardsBack nodes x = false) :
    (rebroadcasts nodes x).Sublist (handledRREQ nodes x) := by
  apply sublist_handledRREQ
  intro i packet rreq o hdelivery
  obtain ⟨hacts, hrreq⟩ := acts_of_rreqDelivery hdelivery
  cases hseen : checkRREQSeenTable (x.1.device i).var rreq with
  | true =>
    rw [packets_of_seen hdelivery hseen]
    exact le_refl 0
  | false =>
    rcases packets_of_handled hacts.handled hrreq hseen with
      ⟨hforwards, -⟩ | ⟨-, hpackets | ⟨p, -, hp, hpackets⟩⟩
    · rw [(forwardsBack_iff hdelivery).2 ⟨hseen, hforwards⟩] at hback
      cases hback
    · simp [hpackets]
    · simp [hpackets, hp]

theorem rebroadcasts_of_forwardsBack (hback : forwardsBack nodes x = true) :
    ∃ key, rebroadcasts nodes x = [key, key] := by
  cases hdelivery : rreqDelivery nodes x with
  | none =>
    unfold forwardsBack at hback
    rw [hdelivery] at hback
    cases hback
  | some r =>
    obtain ⟨i, packet, rreq, o⟩ := r
    obtain ⟨hacts, hrreq⟩ := acts_of_rreqDelivery hdelivery
    obtain ⟨hunseen, hforwards⟩ := (forwardsBack_iff hdelivery).1 hback
    rcases packets_of_handled hacts.handled hrreq hunseen with
      ⟨-, p, hp, hpackets⟩ | ⟨hnot, -⟩
    · refine ⟨(i, rreq.originatorIPAddress, rreq.rreqId), ?_⟩
      unfold rebroadcasts perDelivery
      simp [hdelivery, hpackets, hp]
    · exact absurd hforwards hnot

end Lists

/-! ## Duplicates are suppressed -/

/-- Duplicates are suppressed in the run. -/
structure DuplicateFree (nodes : List IPAddress) (tr : List (Net × NetAction)) : Prop where
  distinct : ((generated nodes tr).map Prod.snd).Nodup
  genuine : ∀ pre x post i packet rreq o, tr = post ++ x :: pre →
    rreqDelivery nodes x = some (i, packet, rreq, o) →
    (rreq.originatorIPAddress, rreq.rreqId) ∈ generated nodes pre
  updates : (tr.flatMap (reverseUpdates nodes)).Nodup
  replies : (tr.flatMap (replies nodes)).Nodup
  rebroadcasts : (tr.flatMap (rebroadcasts nodes)).Nodup
  originator : ∀ x ∈ tr, ∀ i packet rreq o, rreqDelivery nodes x = some (i, packet, rreq, o) →
    i = rreq.originatorIPAddress → Aodv.reverseUpdates nodes x = [] ∧ Aodv.replies nodes x = [] ∧
      Aodv.rebroadcasts nodes x = []
  discards : ∀ pre x post i packet rreq o, tr = post ++ x :: pre →
    rreqDelivery nodes x = some (i, packet, rreq, o) →
    checkRREQSeenTable (x.1.device i).var rreq = true →
    (i, rreq.originatorIPAddress, rreq.rreqId) ∈ handledIn nodes pre ∨
      (rreq.originatorIPAddress = i ∧
        (rreq.originatorIPAddress, rreq.rreqId) ∈ generated nodes pre)

theorem nodup_of_sublist {nodes : List IPAddress}
    {f : Net × NetAction → List RREQKey} (hnodup : (handledIn nodes tr).Nodup)
    (hf : ∀ x ∈ tr, (f x).Sublist (handledRREQ nodes x)) : (tr.flatMap f).Nodup := by
  refine hnodup.sublist ?_
  clear hnodup
  induction tr with
  | nil => exact List.Sublist.refl _
  | cons x tr ih =>
    exact (hf x List.mem_cons_self).append (ih fun y hy => hf y (List.mem_cons_of_mem _ hy))

/-- Duplicates are suppressed exactly when no RREQ has been forwarded back. -/
theorem duplicateFree_iff {nodes : List IPAddress} {tr : List (Net × NetAction)} {s : Net}
    (run : NetRun nodes tr s) (hcount : (generated nodes tr).length < 2 ^ 32) :
    DuplicateFree nodes tr ↔ ∀ x ∈ tr, forwardsBack nodes x = false := by
  constructor
  · intro h x hx
    by_contra hback
    obtain ⟨key, heq⟩ := rebroadcasts_of_forwardsBack (Bool.eq_true_of_not_eq_false hback)
    have hnodup := (List.nodup_flatMap.1 h.rebroadcasts).1 x hx
    rw [heq] at hnodup
    simp at hnodup
  · intro hback
    have hinv := seenInv_of_run run
    have hgenuine : ∀ pre x post i packet rreq o, tr = post ++ x :: pre →
        rreqDelivery nodes x = some (i, packet, rreq, o) →
        (rreq.originatorIPAddress, rreq.rreqId) ∈ generated nodes pre := by
      rintro pre x post i packet rreq o rfl hdelivery
      obtain ⟨hacts, hrreq⟩ := acts_of_rreqDelivery hdelivery
      obtain ⟨frame, hframe, -, rfl⟩ := exists_frame_of_networkIn hacts
      cases hpayload : frame.payload with
      | rreq rreq₀ =>
        have hgenerated := inFlight_generated run.prefix_of_append (Or.inl hframe) hpayload
        simp only [receivedCopy, copyPayload, hpayload, Payload.rreq.injEq] at hrreq
        rw [← hrreq]
        exact hgenerated
      | _ => simp [receivedCopy, copyPayload, hpayload] at hrreq
    refine ⟨(generated_ids run hcount).2.2, hgenuine,
      nodup_of_sublist hinv.nodup fun x _ => reverseUpdates_sublist,
      nodup_of_sublist hinv.nodup fun x _ => replies_sublist,
      nodup_of_sublist hinv.nodup fun x hx => rebroadcasts_sublist (hback x hx), ?_, ?_⟩
    · rintro x hx i packet rreq o hdelivery rfl
      obtain ⟨pre, post, s', rfl, hpre, -⟩ := run.prefix_of_mem hx
      have hseen := checkRREQSeenTable_iff.2 (((seenInv_of_run hpre).seen _ _ _).2
        (Or.inr ⟨rfl, hgenuine pre x post _ packet rreq o rfl hdelivery⟩))
      have hnil : handledRREQ nodes x = [] := by
        unfold handledRREQ
        rw [hdelivery]
        exact if_pos hseen
      have hempty : ∀ {l : List RREQKey}, l.Sublist (handledRREQ nodes x) → l = [] := by
        intro l hl
        rw [hnil] at hl
        exact List.sublist_nil.1 hl
      exact ⟨hempty reverseUpdates_sublist, hempty replies_sublist,
        hempty (rebroadcasts_sublist (hback x hx))⟩
    · rintro pre x post i packet rreq o rfl hdelivery hseen
      exact ((seenInv_of_run run.prefix_of_append).seen _ _ _).1 (checkRREQSeenTable_iff.1 hseen)

open Strategy

def heardTwice : List Strategy := [data 1 2 8, hear 2 0, hear 2 0]

def suppressed (r : List (Net × NetAction) × Net) : Bool :=
  decide ((r.1.filterMap (rreqDelivery [1, 2])).length = 2) &&
    decide (r.1.flatMap (replies [1, 2]) = [(2, 1, 1)]) &&
    decide ((generated [1, 2] r.1).length < 2 ^ 32) && r.1.all fun x => !forwardsBack [1, 2] x

theorem heardTwice_suppressed :
    ((exec (Net.step [1, 2]) Net.init heardTwice).any suppressed) = true := by
  decide +kernel

theorem duplicateFree_of_heardTwice : ∃ tr s, NetRun [1, 2] tr s ∧
    (tr.filterMap (rreqDelivery [1, 2])).length = 2 ∧ tr.flatMap (replies [1, 2]) = [(2, 1, 1)] ∧
    DuplicateFree [1, 2] tr := by
  obtain ⟨tr, s, run, htest⟩ := NetRun.of_exec [1, 2] heardTwice suppressed heardTwice_suppressed
  simp only [suppressed, Bool.and_eq_true, decide_eq_true_eq, List.all_eq_true,
    Bool.not_eq_true'] at htest
  obtain ⟨⟨⟨hdeliveries, hreplies⟩, hcount⟩, hback⟩ := htest
  exact ⟨tr, s, run, hdeliveries, hreplies, (duplicateFree_iff run hcount).2 hback⟩

/-- Device 3 has a route to device 1 through device 2, and hears the RREQ of device 2 for
device 1. -/
def askedBack : List Strategy :=
  [data 2 1 7, data 1 9 8, hear 2 0, data 3 1 5, hear 2 0, fireNth 2 4, hear 3 0, fireNth 3 3,
    wait 320, fireNth 2 1, fireNth 2 4, hear 3 0]

def forwardedTwice (r : List (Net × NetAction) × Net) : Bool :=
  !decide ((r.1.flatMap (rebroadcasts [1, 2, 3])).Nodup) &&
    decide ((generated [1, 2, 3] r.1).length < 2 ^ 32)

theorem askedBack_forwardedTwice :
    ((exec (Net.step [1, 2, 3]) Net.init askedBack).any forwardedTwice) = true := by
  decide +kernel

theorem exists_not_duplicateFree : ¬ ∀ nodes tr s, NetRun nodes tr s →
    (generated nodes tr).length < 2 ^ 32 → DuplicateFree nodes tr := by
  intro h
  obtain ⟨tr, s, run, htest⟩ := NetRun.of_exec [1, 2, 3] askedBack forwardedTwice
    askedBack_forwardedTwice
  simp only [forwardedTwice, Bool.and_eq_true, Bool.not_eq_true', decide_eq_true_eq,
    decide_eq_false_iff_not] at htest
  exact htest.1 (h [1, 2, 3] tr s run htest.2).rebroadcasts

end NetSim.Aodv
