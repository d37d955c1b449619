import NetSim.Rlc.Receive

/-!
# What goes to PDCP (`LTENR_RLC_AM.c`)

An event discards a PDU, places it, delivers an SDU or gives some up (`Stepped`). An SN is delivered
once as long as no copy of a delivered SDU arrives inside the window.
-/

namespace NetSim.Rlc

open NetSim.Lib

namespace ReceivingEntity

/-! ## Steps -/

def core (s : ReceivingEntity) : ReceivingEntity :=
  { s with
    RX_Next_Status_Trigger := 0
    RX_Highest_Status := 0
    receptionBuffer := s.receptionBuffer.map fun b => { b with reassembleCount := 0 }
    isStatusReportDelayed := false
    isConstructStatusReortDelayed := false
    isReassemblyTimerStarted := false
    isStatusProhibitTimerStarted := false }

variable {s s' : ReceivingEntity}

theorem eq_of_core {α : Type} {g : ReceivingEntity → α} (hg : ∀ s, g s.core = g s)
    (h : s'.core = s.core) : g s' = g s := by
  rw [← hg s', h, hg s]

theorem core_updateReassemblyTimer (s : ReceivingEntity) :
    s.updateReassemblyTimer.core = s.core := by
  unfold updateReassemblyTimer
  dsimp only
  split <;> split <;> rfl

theorem core_increaseReassembleCount (s : ReceivingEntity) :
    s.increaseReassembleCount.core = s.core := by
  unfold increaseReassembleCount core
  simp only [List.map_map]
  congr 1
  apply List.map_congr_left
  intro b _
  simp only [Function.comp]
  split <;> rfl

theorem held_core (s : ReceivingEntity) : s.core.held = s.held := by
  exact List.flatMap_map _ _ _

theorem core_constructStatusPdu_core (s : ReceivingEntity) :
    s.core.constructStatusPdu.core = s.constructStatusPdu.core := by
  have hheld := s.held_core
  unfold constructStatusPdu
  rw [hheld]
  unfold core deleteFromStatusInfo
  simp only [List.map_map]
  rfl

theorem core_constructStatusPdu (h : s'.core = s.core) :
    s'.constructStatusPdu.core = s.constructStatusPdu.core :=
  eq_of_core (g := fun s => s.constructStatusPdu.core) core_constructStatusPdu_core h

def giveUp (s : ReceivingEntity) : ReceivingEntity :=
  { s.updateReceptionBuffer with RX_Next := s.updateReceptionBuffer.updateRxNext }

/-- A handler ends in a state like `s`, or builds a status PDU there. -/
def EndsIn (s s' : ReceivingEntity) : Prop :=
  s'.core = s.core ∨ s'.core = s.constructStatusPdu.core

theorem EndsIn.of_core {t : ReceivingEntity} (h : EndsIn t s') (hcore : t.core = s.core) :
    EndsIn s s' := by
  rcases h with h | h
  · exact .inl (h.trans hcore)
  · exact .inr (h.trans (core_constructStatusPdu hcore))

theorem EndsIn.to_core {t t' : ReceivingEntity} (h : EndsIn s t) (hcore : t'.core = t.core) :
    EndsIn s t' := by
  rcases h with h | h
  · exact .inl (hcore.trans h)
  · exact .inr (hcore.trans h)

theorem endsIn_triggerStatusReport (s : ReceivingEntity) : EndsIn s s.triggerStatusReport := by
  unfold triggerStatusReport
  split
  · exact .inl rfl
  · exact .inr rfl

theorem endsIn_initiateToTriggerStatusReport (s : ReceivingEntity) (x : Nat) :
    EndsIn s (s.initiateToTriggerStatusReport x) := by
  unfold initiateToTriggerStatusReport
  split
  · exact (endsIn_triggerStatusReport _).of_core rfl
  · exact .inl rfl

def takePdu (s : ReceivingEntity) (p : AmdPdu) : ReceivingEntity :=
  if (s.filled p).isAllByteSegmentReceived then (s.place p).deliver (s.filled p) else s.place p

/-- What an event does. A status PDU is built after a PDU only if it polls, or if a report is
delayed. -/
inductive Stepped (s : ReceivingEntity) : RxEvent → ReceivingEntity → Prop
  | discarded {p : AmdPdu} (h : s.accepts p = false) : Stepped s (.pdu p) s
  | taken {p : AmdPdu} {s' : ReceivingEntity} (h : s.accepts p = true)
      (hend : EndsIn (s.takePdu p) s')
      (hquiet : (p.P || s.isStatusReportDelayed) = false → s'.core = (s.takePdu p).core) :
      Stepped s (.pdu p) s'
  | gaveUp {s' : ReceivingEntity} (hend : EndsIn s.giveUp s') : Stepped s .reassemblyTimeout s'
  | prohibited {s' : ReceivingEntity} (hend : EndsIn s s') : Stepped s .statusProhibitTimeout s'

theorem placeAmdPduInReceptionBuffer_eq (s : ReceivingEntity) (p : AmdPdu) :
    s.placeAmdPduInReceptionBuffer p = (s.takePdu p).updateReassemblyTimer := rfl

theorem isStatusReportDelayed_takePdu (s : ReceivingEntity) (p : AmdPdu) :
    (s.takePdu p).updateReassemblyTimer.isStatusReportDelayed = s.isStatusReportDelayed := by
  have htake : (s.takePdu p).isStatusReportDelayed = s.isStatusReportDelayed := by
    unfold takePdu
    split <;> rfl
  rw [← htake]
  unfold updateReassemblyTimer
  dsimp only
  split <;> split <;> rfl

theorem endsIn_handleReassemblyTimer (s : ReceivingEntity) :
    EndsIn s.giveUp s.handleReassemblyTimer := by
  refine EndsIn.to_core ?_ (core_increaseReassembleCount _)
  refine (endsIn_triggerStatusReport _).of_core ?_
  split <;> rfl

theorem stepped {e : RxEvent} (hs : s.step e = some s') : Stepped s e s' := by
  cases e with
  | pdu p =>
    obtain rfl := Option.some.inj hs
    unfold receivePdu
    split
    · next haccepts =>
      dsimp only
      rw [placeAmdPduInReceptionBuffer_eq, isStatusReportDelayed_takePdu]
      have hcore := (s.takePdu p).core_updateReassemblyTimer
      split
      · next hreport =>
        refine .taken haccepts ((endsIn_initiateToTriggerStatusReport _ _).of_core hcore) ?_
        intro hquiet
        rw [hquiet] at hreport
        cases hreport
      · exact .taken haccepts (.inl hcore) fun _ => hcore
    · next hrejects => exact .discarded (by simpa using hrejects)
  | reassemblyTimeout =>
    simp only [step] at hs
    split at hs
    · obtain rfl := Option.some.inj hs
      exact .gaveUp s.endsIn_handleReassemblyTimer
    · cases hs
  | statusProhibitTimeout =>
    simp only [step] at hs
    split at hs
    · obtain rfl := Option.some.inj hs
      refine .prohibited ?_
      unfold handleStatusProhibitTimer
      dsimp only
      split
      · exact .inr (core_constructStatusPdu rfl)
      · exact .inl rfl
    · cases hs

end ReceivingEntity

/-! ## Reassembly -/

namespace ReceptionBuffer

/-- The buffer has segments of `sdu`, each one once. -/
structure Wf (sdu : Sdu) (b : ReceptionBuffer) : Prop where
  sn_eq : ∀ p ∈ b.packets, p.SN = b.SN
  segment : ∀ p ∈ b.packets, p.IsSegment sdu
  nodup : (b.packets.map AmdPdu.SO).Nodup
  last : b.isLastSDUReceived = true →
    b.lastSDUSO + 1 = sdu.segments.length ∧ ∃ p ∈ b.packets, p.SO = b.lastSDUSO
  last_of : ∀ p ∈ b.packets, p.si.isEnd = true → b.isLastSDUReceived = true

variable {sdu : Sdu} {b : ReceptionBuffer} {p : AmdPdu}

theorem wf_create (sdu : Sdu) (sn : Nat) : Wf sdu (.create sn) :=
  ⟨nofun, nofun, List.nodup_nil, nofun, nofun⟩

theorem mem_add {q : AmdPdu} : q ∈ (b.add p).packets ↔ q ∈ b.packets ∨ q = p := by
  unfold add
  rw [List.mem_append, List.mem_singleton]

theorem Wf.add (h : Wf sdu b) (hsn : p.SN = b.SN) (hp : p.IsSegment sdu)
    (hnew : ∀ q ∈ b.packets, q.SO ≠ p.SO) : Wf sdu (b.add p) := by
  refine ⟨?_, ?_, ?_, ?_, ?_⟩
  · intro q hq
    rcases mem_add.1 hq with hq | rfl
    · exact h.sn_eq q hq
    · exact hsn
  · intro q hq
    rcases mem_add.1 hq with hq | rfl
    · exact h.segment q hq
    · exact hp
  · have hnone : lookup AmdPdu.SO p.SO b.packets = none := lookup_eq_none.2 hnew
    exact nodup_append_single h.nodup hnone
  · intro hlast
    by_cases hend : p.si.isEnd = true
    · have hso : (b.add p).lastSDUSO = p.SO := if_pos hend
      rw [hso]
      exact ⟨hp.isEnd_iff.1 hend, p, mem_add.2 (.inr rfl), rfl⟩
    · have hlast' : b.isLastSDUReceived = true := by
        simpa [ReceptionBuffer.add, hend] using hlast
      have hso : (b.add p).lastSDUSO = b.lastSDUSO := if_neg hend
      obtain ⟨hlength, q, hq, hqso⟩ := h.last hlast'
      rw [hso]
      exact ⟨hlength, q, mem_add.2 (.inl hq), hqso⟩
  · intro q hq hend
    have hor : (b.add p).isLastSDUReceived = (p.si.isEnd || b.isLastSDUReceived) := rfl
    rw [hor, Bool.or_eq_true]
    rcases mem_add.1 hq with hq | rfl
    · exact .inr (h.last_of q hq hend)
    · exact .inl hend

theorem Wf.isAllByteSegmentReceived_iff (h : Wf sdu b) :
    b.isAllByteSegmentReceived = true ↔
      ∀ so < sdu.segments.length, ∃ p ∈ b.packets, p.SO = so := by
  simp only [isAllByteSegmentReceived, Bool.and_eq_true, List.all_eq_true, List.mem_range,
    List.any_eq_true, decide_eq_true_eq]
  constructor
  · rintro ⟨hlast, hall⟩ so hso
    obtain ⟨hlength, hp⟩ := h.last hlast
    rcases Nat.lt_or_ge so b.lastSDUSO with hlt | hge
    · exact hall so hlt
    · obtain rfl : so = b.lastSDUSO := by omega
      exact hp
  · intro hall
    have hpos := sdu.length_pos
    obtain ⟨p, hp, hso⟩ := hall (sdu.segments.length - 1) (by omega)
    have hend : p.si.isEnd = true := (h.segment p hp).isEnd_iff.2 (by omega)
    have hlast := h.last_of p hp hend
    refine ⟨hlast, fun i hi => hall i ?_⟩
    have := (h.last hlast).1
    omega

theorem Wf.perm (h : Wf sdu b) (hall : b.isAllByteSegmentReceived = true) :
    (b.packets.map AmdPdu.SO).Perm (List.range sdu.segments.length) :=
  perm_range h.nodup (fun p hp => (h.segment p hp).so_lt) (h.isAllByteSegmentReceived_iff.1 hall)

theorem Wf.reassembleAllBytes (h : Wf sdu b) (hall : b.isAllByteSegmentReceived = true) :
    b.reassembleAllBytes = ⟨b.SN, sdu.nPacketId, sdu.segments.sum⟩ := by
  have hperm := h.perm hall
  have hid : (b.packets.head?.map AmdPdu.nPacketId).getD 0 = sdu.nPacketId := by
    cases hpackets : b.packets with
    | nil =>
      rw [hpackets, List.map_nil, List.nil_perm, List.range_eq_nil] at hperm
      exact absurd hperm (Nat.ne_of_gt sdu.length_pos)
    | cons p l => exact (h.segment p (by rw [hpackets]; exact List.mem_cons_self)).nPacketId_eq
  unfold ReceptionBuffer.reassembleAllBytes
  rw [hid, sum_of_perm_range hperm fun p hp => (h.segment p hp).dPayload_eq]

end ReceptionBuffer

namespace ReceivingEntity

/-- The entity reassembles the SDUs `sdus`: there is one buffer for an SN, with segments of its SDU.
-/
structure Assembling (sdus : Nat → Sdu) (s : ReceivingEntity) : Prop where
  distinct : (s.receptionBuffer.map ReceptionBuffer.SN).Nodup
  wf : ∀ b ∈ s.receptionBuffer, b.Wf (sdus b.SN)

variable {sdus : Nat → Sdu} {s s' : ReceivingEntity} {p : AmdPdu}

theorem buffer_of_core (h : s'.core = s.core) {b : ReceptionBuffer} (hb : b ∈ s'.receptionBuffer) :
    ∃ b0 ∈ s.receptionBuffer, b0.SN = b.SN ∧ b0.packets = b.packets ∧
      b0.isLastSDUReceived = b.isLastSDUReceived ∧ b0.lastSDUSO = b.lastSDUSO := by
  have hlist := congrArg receptionBuffer h
  have hmem : { b with reassembleCount := 0 } ∈ s.core.receptionBuffer := by
    rw [← hlist]
    exact List.mem_map_of_mem hb
  obtain ⟨b0, hb0, heq⟩ := List.mem_map.1 hmem
  simp only [ReceptionBuffer.mk.injEq, true_and] at heq
  exact ⟨b0, hb0, heq.1, heq.2.2.2, heq.2.2.1, heq.2.1⟩

theorem map_SN_of_core (h : s'.core = s.core) :
    s'.receptionBuffer.map ReceptionBuffer.SN = s.receptionBuffer.map ReceptionBuffer.SN := by
  apply eq_of_core (g := fun s => s.receptionBuffer.map ReceptionBuffer.SN) _ h
  intro s
  exact List.map_map

theorem Assembling.of_core (h : Assembling sdus s) (hcore : s'.core = s.core) :
    Assembling sdus s' := by
  refine ⟨by rw [map_SN_of_core hcore]; exact h.distinct, ?_⟩
  intro b hb
  obtain ⟨b0, hb0, hsn, hpackets, hlast, hso⟩ := buffer_of_core hcore hb
  obtain ⟨h1, h2, h3, h4, h5⟩ := h.wf b0 hb0
  rw [hsn, hpackets, hlast, hso] at *
  exact ⟨h1, h2, h3, h4, h5⟩

theorem Assembling.constructStatusPdu (h : Assembling sdus s) :
    Assembling sdus s.constructStatusPdu := ⟨h.distinct, h.wf⟩

theorem Assembling.endsIn (h : Assembling sdus s) (hend : EndsIn s s') : Assembling sdus s' := by
  rcases hend with hcore | hcore
  · exact h.of_core hcore
  · exact h.constructStatusPdu.of_core hcore

theorem SN_filled (s : ReceivingEntity) (p : AmdPdu) : (s.filled p).SN = p.SN := by
  change ((s.findReceptionBuffer p.SN).getD (.create p.SN)).SN = p.SN
  cases hfind : s.findReceptionBuffer p.SN with
  | none => rfl
  | some b => exact (lookup_some hfind).2

section

variable (h : Assembling sdus s)

include h

theorem Assembling.filled (haccepts : s.accepts p = true)
    (hp : p.IsSegment (sdus p.SN)) : (s.filled p).Wf (sdus p.SN) := by
  rw [accepts, Bool.and_eq_true, Bool.not_eq_true', isPDUPresentInReceptionBuffer] at haccepts
  obtain ⟨-, hnew⟩ := haccepts
  unfold ReceivingEntity.filled
  cases hfind : s.findReceptionBuffer p.SN with
  | none => exact (ReceptionBuffer.wf_create _ _).add rfl hp nofun
  | some b =>
    obtain ⟨hb, hsn⟩ := lookup_some hfind
    rw [hfind] at hnew
    have hwf := h.wf b hb
    rw [hsn] at hwf
    apply hwf.add hsn.symm hp
    simpa using hnew

theorem Assembling.mem_place {b : ReceptionBuffer} :
    b ∈ (s.place p).receptionBuffer ↔
      b = s.filled p ∨ b ∈ s.receptionBuffer ∧ b.SN ≠ p.SN := by
  unfold place
  cases hfind : s.findReceptionBuffer p.SN with
  | none =>
    rw [List.mem_append, List.mem_singleton]
    have hne := lookup_eq_none.1 hfind
    constructor
    · rintro (hb | hb)
      · exact .inr ⟨hb, hne b hb⟩
      · exact .inl hb
    · rintro (hb | ⟨hb, -⟩)
      · exact .inr hb
      · exact .inl hb
  | some b0 =>
    have hfilled : s.filled p = b0.add p := by rw [ReceivingEntity.filled, hfind, Option.getD_some]
    rw [hfilled]
    exact mem_modifyFirst_iff h.distinct (fun _ => rfl) hfind

theorem Assembling.place (haccepts : s.accepts p = true)
    (hp : p.IsSegment (sdus p.SN)) : Assembling sdus (s.place p) := by
  constructor
  · unfold ReceivingEntity.place
    cases hfind : s.findReceptionBuffer p.SN with
    | none =>
      apply nodup_append_single h.distinct
      rw [SN_filled]
      exact hfind
    | some b =>
      have hkeys : (modifyFirst ReceptionBuffer.SN p.SN (·.add p) s.receptionBuffer).map
          ReceptionBuffer.SN = s.receptionBuffer.map ReceptionBuffer.SN :=
        map_key_modifyFirst fun _ => rfl
      rw [hkeys]
      exact h.distinct
  · intro b hb
    rcases h.mem_place.1 hb with rfl | ⟨hb, -⟩
    · rw [SN_filled]
      exact h.filled haccepts hp
    · exact h.wf b hb

theorem Assembling.deliver (b : ReceptionBuffer) : Assembling sdus (s.deliver b) :=
  ⟨nodup_map_eraseFirst h.distinct, fun b' hb' => h.wf b' (eraseFirst_subset hb')⟩

theorem Assembling.takePdu (haccepts : s.accepts p = true)
    (hp : p.IsSegment (sdus p.SN)) : Assembling sdus (s.takePdu p) := by
  unfold ReceivingEntity.takePdu
  split
  · exact (h.place haccepts hp).deliver _
  · exact h.place haccepts hp

theorem Assembling.giveUp : Assembling sdus s.giveUp := by
  refine ⟨h.distinct.sublist (List.filter_sublist.map _), ?_⟩
  intro b hb
  exact h.wf b (List.mem_of_mem_filter hb)

theorem Assembling.stepped {e : RxEvent}
    (hpdu : ∀ p, e = .pdu p → p.IsSegment (sdus p.SN)) (hs : Stepped s e s') :
    Assembling sdus s' := by
  cases hs with
  | discarded _ => exact h
  | @taken p s' haccepts hend _ => exact (h.takePdu haccepts (hpdu p rfl)).endsIn hend
  | gaveUp hend => exact h.giveUp.endsIn hend
  | prohibited hend => exact h.endsIn hend

end

/-! ## Deliveries -/

/-- The packet that goes to PDCP for the SDU `sn`. -/
def deliveryOf (sdus : Nat → Sdu) (sn : Nat) : Delivery :=
  ⟨sn, (sdus sn).nPacketId, (sdus sn).segments.sum⟩

theorem Assembling.pdcp_takePdu (h : Assembling sdus s) (haccepts : s.accepts p = true)
    (hp : p.IsSegment (sdus p.SN)) :
    (s.takePdu p).pdcp = if (s.filled p).isAllByteSegmentReceived then
      s.pdcp ++ [deliveryOf sdus p.SN] else s.pdcp := by
  unfold ReceivingEntity.takePdu
  split
  · next hall =>
    have hpacket := (h.filled haccepts hp).reassembleAllBytes hall
    rw [SN_filled] at hpacket
    change s.pdcp ++ [(s.filled p).reassembleAllBytes] = _
    rw [hpacket]
    rfl
  · rfl

theorem EndsIn.pdcp (hend : EndsIn s s') : s'.pdcp = s.pdcp := by
  rcases hend with hcore | hcore
  · exact eq_of_core (g := ReceivingEntity.pdcp) (fun _ => rfl) hcore
  · have heq := eq_of_core (g := ReceivingEntity.pdcp) (fun _ => rfl) hcore
    exact heq

def delivered (s : ReceivingEntity) : List Nat := s.pdcp.map Delivery.SN

def OnceSafe (s : ReceivingEntity) (e : RxEvent) : Prop :=
  ∀ p, e = .pdu p → p.SN ∈ s.delivered → s.isSNFallsInReceivingWindow p.SN = false

/-- The SDUs delivered so far, each one once and with its own payload. -/
structure Delivers (sdus : Nat → Sdu) (s : ReceivingEntity) : Prop where
  once : s.delivered.Nodup
  payload : ∀ d ∈ s.pdcp, d = deliveryOf sdus d.SN

theorem Delivers.of_pdcp (h : Delivers sdus s) (heq : s'.pdcp = s.pdcp) : Delivers sdus s' := by
  obtain ⟨honce, hpayload⟩ := h
  constructor
  · rw [delivered, heq]
    exact honce
  · rw [heq]
    exact hpayload

theorem Delivers.stepped {e : RxEvent} (h : Delivers sdus s) (ha : Assembling sdus s)
    (hpdu : ∀ p, e = .pdu p → p.IsSegment (sdus p.SN)) (hsafe : OnceSafe s e)
    (hs : Stepped s e s') : Delivers sdus s' := by
  cases hs with
  | discarded _ => exact h
  | @taken p s' haccepts hend _ =>
    have hpdcp := ha.pdcp_takePdu haccepts (hpdu p rfl)
    rw [← hend.pdcp] at hpdcp
    split at hpdcp
    · have hnew : p.SN ∉ s.delivered := by
        intro hold
        have hout := hsafe p rfl hold
        rw [accepts, hout] at haccepts
        cases haccepts
      constructor
      · rw [delivered, hpdcp, List.map_append, List.map_singleton]
        exact List.nodup_append.2 ⟨h.once, List.nodup_singleton _, by
          rintro x hx y hy rfl
          obtain rfl := List.mem_singleton.1 hy
          exact hnew hx⟩
      · intro d hd
        rw [hpdcp, List.mem_append, List.mem_singleton] at hd
        rcases hd with hd | rfl
        · exact h.payload d hd
        · rfl
    · exact h.of_pdcp hpdcp
  | gaveUp hend => exact h.of_pdcp hend.pdcp
  | prohibited hend => exact h.of_pdcp hend.pdcp

/-- In every run: if no copy of a delivered SDU arrives inside the window, each SDU is delivered at
most once, with its own payload. -/
theorem pdcpDelivers_of_run {maxRetxThreshold : Nat} {tr : List (ReceivingEntity × RxEvent)}
    (run : Run ReceivingEntity.step (establish maxRetxThreshold) tr s)
    (hpdus : ∀ x ∈ tr, ∀ p, x.2 = .pdu p → p.IsSegment (sdus p.SN))
    (hsafe : ∀ x ∈ tr, OnceSafe x.1 x.2) : Delivers sdus s := by
  have hrun : Assembling sdus s ∧ Delivers sdus s := by
    apply run.induction (P := fun _ s => Assembling sdus s ∧ Delivers sdus s)
      (Q := fun s e => (∀ p, e = .pdu p → p.IsSegment (sdus p.SN)) ∧ OnceSafe s e)
    · exact ⟨⟨List.nodup_nil, nofun⟩, ⟨List.nodup_nil, nofun⟩⟩
    · rintro tr s e s' - ⟨ha, hd⟩ ⟨hpdu, hsafe⟩ hstep
      have hs := ReceivingEntity.stepped hstep
      exact ⟨ha.stepped hpdu hs, hd.stepped ha hpdu hsafe hs⟩
    · exact fun x hx => ⟨hpdus x hx, hsafe x hx⟩
  exact hrun.2

/-- An SDU of two segments with the SN 0; all the others have one. -/
def exampleSdus : Nat → Sdu
  | 0 => { nPacketId := 1, segments := [10, 5], length_pos := by decide, length_lt := by decide }
  | sn + 1 =>
    { nPacketId := sn + 2, segments := [8], length_pos := by decide, length_lt := by decide }

def examplePdu (sn so : Nat) : AmdPdu := (exampleSdus sn).pdu false sn so

def isExampleArrival (x : ReceivingEntity × RxEvent) : Bool :=
  match x.2 with
  | .pdu p => decide (p.SO < (exampleSdus p.SN).segments.length ∧
      p = (exampleSdus p.SN).pdu p.P p.SN p.SO)
  | _ => true

theorem isSegment_of_isExampleArrival {x : ReceivingEntity × RxEvent}
    (h : isExampleArrival x = true) : ∀ p, x.2 = .pdu p → p.IsSegment (exampleSdus p.SN) := by
  intro p hp
  simp only [isExampleArrival, hp, decide_eq_true_eq] at h
  rw [h.2]
  exact Sdu.isSegment_pdu h.1

/-- The segments of one SDU arrive in reverse order and are repeated. -/
theorem delivers_exampleSdus :
    ∃ tr s, Run ReceivingEntity.step (establish 4) tr s ∧ s.pdcp = [⟨0, 1, 15⟩, ⟨1, 2, 8⟩] ∧
      Delivers exampleSdus s := by
  have hexec : (exec ReceivingEntity.step (establish 4)
      [fun _ => some (.pdu (examplePdu 0 1)), fun _ => some (.pdu (examplePdu 0 1)),
        fun _ => some (.pdu (examplePdu 0 0)), fun _ => some (.pdu (examplePdu 0 0)),
        fun _ => some (.pdu (examplePdu 1 0)), fun _ => some (.pdu (examplePdu 1 0))]).any
      (fun r => (r.1.all isExampleArrival) && (r.1.all fun x => match x.2 with
          | .pdu p => p.SN ∉ x.1.delivered || !x.1.isSNFallsInReceivingWindow p.SN
          | _ => true) &&
        decide (r.2.pdcp = [⟨0, 1, 15⟩, ⟨1, 2, 8⟩])) = true := by decide +kernel
  obtain ⟨tr, s, run, htest⟩ := run_of_exec hexec
  simp only [Bool.and_eq_true, List.all_eq_true, decide_eq_true_eq] at htest
  obtain ⟨⟨harrivals, hsafe⟩, hpdcp⟩ := htest
  have honce : ∀ x ∈ tr, OnceSafe x.1 x.2 := by
    intro x hx p hp hold
    have hx := hsafe x hx
    rw [hp] at hx
    simpa [hold] using hx
  exact ⟨tr, s, run, hpdcp, pdcpDelivers_of_run run
    (fun x hx => isSegment_of_isExampleArrival (harrivals x hx)) honce⟩

/-- A copy of a delivered SDU arrives while a lower SN is being assembled. -/
theorem not_delivers_exampleSdus :
    ∃ tr s, Run ReceivingEntity.step (establish 4) tr s ∧
      (∀ x ∈ tr, ∀ p, x.2 = .pdu p → p.IsSegment (exampleSdus p.SN)) ∧
      s.delivered = [1, 1] ∧ ¬ Delivers exampleSdus s := by
  have hexec : (exec ReceivingEntity.step (establish 4)
      [fun _ => some (.pdu (examplePdu 0 0)), fun _ => some (.pdu (examplePdu 1 0)),
        fun _ => some (.pdu (examplePdu 1 0))]).any
      (fun r => (r.1.all isExampleArrival) && decide (r.2.delivered = [1, 1])) = true := by
    decide +kernel
  obtain ⟨tr, s, run, htest⟩ := run_of_exec hexec
  simp only [Bool.and_eq_true, List.all_eq_true, decide_eq_true_eq] at htest
  obtain ⟨harrivals, htwice⟩ := htest
  refine ⟨tr, s, run, fun x hx => isSegment_of_isExampleArrival (harrivals x hx), htwice, ?_⟩
  intro hd
  have honce := hd.once
  rw [htwice] at honce
  revert honce
  decide

end ReceivingEntity

end NetSim.Rlc
