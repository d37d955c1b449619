import NetSim.Rlc.Unacknowledged

/-!
# The reassembly window of a UM entity (`LTENR_RLC_UM.c`, `LTENR_RLC.h`)

`LTENR_RLC_UM_RECEIVE_PDU_WITH_SN` has its two branches the wrong way round: a PDU in the window is
freed, and one outside is placed. The window starts empty, and stays so.
-/

namespace NetSim.Rlc

open NetSim.Lib NetSim.Tcp

/-- The assertion of `LTENR_RLC_UM_isAllByteSegmentReceived` holds: no segment is behind the last
one. -/
def UmReceptionBuffer.InBounds (b : UmReceptionBuffer) : Prop :=
  b.isLastSDUReceived = true → ∀ p ∈ b.packets, p.SO ≤ b.lastSDUSO
deriving Decidable

theorem UmReceptionBuffer.InBounds.isAllByteSegmentReceived {b : UmReceptionBuffer}
    (h : b.InBounds) : ∃ all, b.isAllByteSegmentReceived = some all := by
  unfold UmReceptionBuffer.isAllByteSegmentReceived
  by_cases hlast : b.isLastSDUReceived = true
  · have hall : b.packets.all (·.SO ≤ b.lastSDUSO) = true :=
      List.all_eq_true.2 fun p hp => decide_eq_true (h hlast p hp)
    rw [if_pos hlast, if_pos hall]
    exact ⟨_, rfl⟩
  · rw [if_neg hlast]
    exact ⟨false, rfl⟩

namespace UmReceiver

/-! ## One PDU -/

/-- `LTENR_RLC_UM_RECEIVE_PDU_WITH_SN` up to the reassembly timer. -/
def beforeTimer (s : UmReceiver) (p : UmdPdu) : Option UmReceiver :=
  if s.isSNFallsInReassemblyWindows p.SN then s.dropPdu p else s.placeUmdPduInReceptionBuffer p

def IsPlaced (s s' : UmReceiver) : Prop :=
  (s'.receptionBuffer.flatMap UmReceptionBuffer.packets).length =
      (s.receptionBuffer.flatMap UmReceptionBuffer.packets).length + 1 ∨
    s'.pdcp.length = s.pdcp.length + 1

/-- The function returns, and a PDU in the window is placed. -/
def Handled (s : UmReceiver) (p : UmdPdu) : Prop :=
  ∃ s', s.receivePdu p = some s' ∧
    (s.isSNFallsInReassemblyWindows p.SN = true → IsPlaced s s')

variable {s s' t : UmReceiver} {p : UmdPdu}

theorem receivePdu_of_ne_all (hsi : p.si ≠ .all) :
    s.receivePdu p = (s.beforeTimer p).bind updateReassemblyTimer := by
  unfold receivePdu
  rw [if_neg hsi]
  rfl

theorem updateReassemblyTimer_keeps (h : s.updateReassemblyTimer = some s') :
    s'.receptionBuffer = s.receptionBuffer ∧ s'.pdcp = s.pdcp ∧
      s'.RX_Next_Highest = s.RX_Next_Highest := by
  unfold updateReassemblyTimer at h
  split at h
  · obtain ⟨reset, -, rfl⟩ := Option.map_eq_some_iff.1 h
    exact ⟨rfl, rfl, rfl⟩
  · obtain ⟨gap, -, rfl⟩ := Option.map_eq_some_iff.1 h
    split
    · exact ⟨rfl, rfl, rfl⟩
    · exact ⟨rfl, rfl, rfl⟩

theorem dropPdu_keeps (h : s.dropPdu p = some s') :
    s'.receptionBuffer = s.receptionBuffer ∧ s'.pdcp = s.pdcp := by
  unfold dropPdu at h
  dsimp only at h
  split at h
  · obtain ⟨sn, -, rfl⟩ := Option.map_eq_some_iff.1 h
    exact ⟨rfl, rfl⟩
  · rw [← Option.some.inj h]
    exact ⟨rfl, rfl⟩

section

variable (h : ∀ b ∈ s.receptionBuffer, b.InBounds)

include h

theorem isAllBytesReceivedForSN_returns (sn : Nat) :
    ∃ all, s.isAllBytesReceivedForSN sn = some all := by
  unfold isAllBytesReceivedForSN
  cases hfind : s.findReceptionBuffer sn with
  | none => exact ⟨true, rfl⟩
  | some b => exact (h b (lookup_some hfind).1).isAllByteSegmentReceived

theorem updateReassemblyTimer_returns : ∃ s', s.updateReassemblyTimer = some s' := by
  obtain ⟨all, hall⟩ := isAllBytesReceivedForSN_returns h s.RX_Next_Reassembly
  unfold updateReassemblyTimer resetsTimer hasGap
  rw [hall]
  split
  · split
    · exact ⟨_, rfl⟩
    · split <;> exact ⟨_, rfl⟩
  · split
    · exact ⟨_, rfl⟩
    · split <;> exact ⟨_, rfl⟩

theorem inBounds_place (hp : (s.filled p).InBounds) :
    ∀ b ∈ (s.place p).receptionBuffer, b.InBounds := by
  intro b hb
  unfold place at hb
  split at hb
  · rcases List.mem_append.1 hb with hb | hb
    · exact h b hb
    · rw [List.mem_singleton.1 hb]
      exact hp
  · next b0 hfind =>
    have hfilled : s.filled p = b0.add p := by rw [filled, hfind, Option.getD_some]
    rcases mem_modifyFirst hb with hb | ⟨b1, hb1, rfl⟩
    · exact h b hb
    · obtain rfl : b0 = b1 := Option.some.inj (hfind.symm.trans hb1)
      rw [← hfilled]
      exact hp

end

theorem deliver_receptionBuffer (s : UmReceiver) (b : UmReceptionBuffer) :
    (s.deliver b).receptionBuffer =
      eraseFirst UmReceptionBuffer.SN b.SN s.receptionBuffer := by
  unfold deliver updateRXNextReassembly
  dsimp only
  split
  · split <;> rfl
  · rfl

section

variable (h : ∀ b ∈ s.receptionBuffer, b.InBounds)

include h

theorem placeUmdPduInReceptionBuffer_returns
    (hp : (s.filled p).InBounds) : ∃ t, s.placeUmdPduInReceptionBuffer p = some t ∧
      ∀ b ∈ t.receptionBuffer, b.InBounds := by
  obtain ⟨all, hall⟩ := hp.isAllByteSegmentReceived
  unfold placeUmdPduInReceptionBuffer
  rw [hall]
  refine ⟨_, rfl, fun b hb => ?_⟩
  dsimp only at hb
  split at hb
  · rw [deliver_receptionBuffer] at hb
    exact inBounds_place h hp b (eraseFirst_subset hb)
  · exact inBounds_place h hp b hb

theorem handled_iff (hp : (s.filled p).InBounds)
    (hsi : p.si ≠ .all) : s.Handled p ↔ s.isSNFallsInReassemblyWindows p.SN = false := by
  unfold Handled
  rw [receivePdu_of_ne_all hsi]
  unfold beforeTimer
  cases hwindow : s.isSNFallsInReassemblyWindows p.SN with
  | true =>
    refine ⟨?_, nofun⟩
    rintro ⟨s', hs', hplaced⟩
    rw [if_pos rfl] at hs'
    obtain ⟨t, ht, htimer⟩ := Option.bind_eq_some_iff.1 hs'
    obtain ⟨hbuffer, hpdcp⟩ := dropPdu_keeps ht
    obtain ⟨hbuffer', hpdcp', -⟩ := updateReassemblyTimer_keeps htimer
    exfalso
    rcases hplaced rfl with hheld | hdelivered
    · rw [hbuffer', hbuffer] at hheld
      omega
    · rw [hpdcp', hpdcp] at hdelivered
      omega
  | false =>
    refine ⟨fun _ => rfl, fun _ => ?_⟩
    obtain ⟨t, ht, hbounds⟩ := placeUmdPduInReceptionBuffer_returns h hp
    obtain ⟨s', hs'⟩ := updateReassemblyTimer_returns hbounds
    refine ⟨s', ?_, nofun⟩
    rw [if_neg Bool.false_ne_true, ht]
    exact hs'

end

/-- `LTENR_RLC_UM_Start_t_ReassemblyTimer` is called for the PDU. -/
def startsTimer (s : UmReceiver) (p : UmdPdu) : Bool :=
  p.si ≠ .all && (s.beforeTimer p).bind (fun t =>
    if t.isReassemblyTimerStarted then t.resetsTimer else t.hasGap) = some true

/-- `LTENR_RLC_UM_Handle_t_reassemblyTimer` with the functions it calls, and whether the timer
starts again. -/
def handleReassemblyTimer (s : UmReceiver) : Option (UmReceiver × Bool) :=
  let sn := ((s.receptionBuffer.find? fun b => s.RX_Timer_Trigger ≤ b.SN).map
    UmReceptionBuffer.SN).getD 0
  let s := { s with
    RX_Next_Reassembly := sn
    receptionBuffer := s.receptionBuffer.filter fun b => ¬ b.SN < sn }
  s.hasGap.map fun gap =>
    (if gap then
      { s with isReassemblyTimerStarted := true, RX_Timer_Trigger := s.RX_Next_Highest }
    else s, gap)

end UmReceiver

/-! ## Runs -/

/-- A UM entity that receives, with the event of its reassembly timer. -/
structure UmReception where
  receiver : UmReceiver
  isTimerPending : Bool
deriving DecidableEq

/-- What happens to the receiving side of a UM entity. -/
inductive UmRxEvent
  | pdu (p : UmdPdu)
  /-- `LTENR_SUBEVNT_RLC_TREASSEMBLYTIMER`. -/
  | reassemblyTimeout
deriving DecidableEq

namespace UmReception

/-- An entity as `LTENR_RLC_ESTABLISHENTITY` leaves it. -/
def establish : UmReception where
  receiver := .establish
  isTimerPending := false

def step (s : UmReception) : UmRxEvent → Option UmReception
  | .pdu p => (s.receiver.receivePdu p).map fun t =>
      ⟨t, s.isTimerPending || s.receiver.startsTimer p⟩
  | .reassemblyTimeout =>
    if s.isTimerPending then s.receiver.handleReassemblyTimer.map fun r => ⟨r.1, r.2⟩ else none

def received (tr : List (UmReception × UmRxEvent)) : List Nat :=
  tr.filterMap fun x =>
    match x.2 with
    | .pdu p => if p.si = .all then none else some p.SN
    | .reassemblyTimeout => none

/-- `RX_Next_Highest` is behind the largest SN received, and the timer runs while an SDU below it is
incomplete. -/
structure Tracks (tr : List (UmReception × UmRxEvent)) (s : UmReception) : Prop where
  highest : ∀ sn, (received tr).max? = some sn → s.receiver.RX_Next_Highest = u32 (sn + 1)
  timer : ∀ b ∈ s.receiver.receptionBuffer, b.SN < s.receiver.RX_Next_Highest →
    s.isTimerPending = true

variable {s s' : UmReception} {tr : List (UmReception × UmRxEvent)}

theorem highest_place {r t : UmReceiver} {p : UmdPdu}
    (h : r.placeUmdPduInReceptionBuffer p = some t) : t.RX_Next_Highest = r.RX_Next_Highest := by
  obtain ⟨all, -, rfl⟩ := Option.map_eq_some_iff.1 h
  split
  · unfold UmReceiver.deliver UmReceiver.updateRXNextReassembly
    dsimp only
    split
    · split <;> rfl
    · rfl
  · rfl

theorem highest_step (h : s.receiver.RX_Next_Highest = 0) {e : UmRxEvent}
    (hs : s.step e = some s') : s'.receiver.RX_Next_Highest = 0 := by
  cases e with
  | pdu p =>
    obtain ⟨t, ht, rfl⟩ := Option.map_eq_some_iff.1 hs
    by_cases hsi : p.si = .all
    · unfold UmReceiver.receivePdu at ht
      rw [if_pos hsi] at ht
      rw [← Option.some.inj ht]
      exact h
    · rw [UmReceiver.receivePdu_of_ne_all hsi] at ht
      obtain ⟨u, hu, htimer⟩ := Option.bind_eq_some_iff.1 ht
      have hwindow : s.receiver.isSNFallsInReassemblyWindows p.SN = false := by
        unfold UmReceiver.isSNFallsInReassemblyWindows
        rw [h, decide_eq_false (Nat.not_lt_zero p.SN), Bool.and_false]
      unfold UmReceiver.beforeTimer at hu
      rw [hwindow, if_neg Bool.false_ne_true] at hu
      exact (UmReceiver.updateReassemblyTimer_keeps htimer).2.2.trans ((highest_place hu).trans h)
  | reassemblyTimeout =>
    obtain ⟨-, hs⟩ := Option.ite_none_right_eq_some.1 hs
    obtain ⟨r, hr, rfl⟩ := Option.map_eq_some_iff.1 hs
    obtain ⟨gap, -, rfl⟩ := Option.map_eq_some_iff.1 hr
    split <;> exact h

theorem highest_of_run (run : Run step establish tr s) : s.receiver.RX_Next_Highest = 0 :=
  Run.always (P := fun s => s.receiver.RX_Next_Highest = 0) rfl
    (fun _ _ _ h hs => highest_step h hs) run

theorem tracks_iff (run : Run step establish tr s) :
    Tracks tr s ↔ ∀ sn, (received tr).max? = some sn → u32 (sn + 1) = 0 := by
  have hzero := highest_of_run run
  constructor
  · intro h sn hsn
    rw [← h.highest sn hsn]
    exact hzero
  · intro h
    refine ⟨fun sn hsn => (hzero.trans (h sn hsn).symm), fun b _ hlt => ?_⟩
    rw [hzero] at hlt
    exact absurd hlt (Nat.not_lt_zero _)

/-- A PDU is handled right if and only if it is outside the window, and a state is right if and only
if no segment has arrived, or the largest SN is the last `UINT`. -/
theorem receiveWindow_iff {s : UmReceiver} {p : UmdPdu} (h : ∀ b ∈ s.receptionBuffer, b.InBounds)
    (hp : (s.filled p).InBounds) (hsi : p.si ≠ .all) {tr : List (UmReception × UmRxEvent)}
    {t : UmReception} (run : Run step establish tr t) :
    (s.Handled p ↔ s.isSNFallsInReassemblyWindows p.SN = false) ∧
      (Tracks tr t ↔ ∀ sn, (received tr).max? = some sn → u32 (sn + 1) = 0) :=
  ⟨UmReceiver.handled_iff h hp hsi, tracks_iff run⟩

/-- The first segment of an SDU at a new entity, and the run before it. -/
theorem receiveWindow_first :
    UmReceiver.establish.Handled ⟨.first, 0, 0, 1, 10⟩ ∧ Tracks [] establish := by
  have hboth := receiveWindow_iff (s := .establish) (p := ⟨.first, 0, 0, 1, 10⟩) (by decide)
    (by decide) (by decide) .nil
  exact ⟨hboth.1.2 (by decide), hboth.2.2 nofun⟩

/-- A segment in the window is freed, and the first segment of a run leaves `RX_Next_Highest` at 0.
-/
theorem not_receiveWindow :
    (¬ ∀ (s : UmReceiver) (p : UmdPdu), (∀ b ∈ s.receptionBuffer, b.InBounds) →
      (s.filled p).InBounds → p.si ≠ .all → s.Handled p) ∧
    ¬ ∀ (tr : List (UmReception × UmRxEvent)) (s : UmReception), Run step establish tr s →
      Tracks tr s := by
  constructor
  · intro h
    have hhandled := h { UmReceiver.establish with RX_Next_Highest := 40 }
      ⟨.first, 39, 0, 1, 10⟩ (by decide) (by decide) (by decide)
    rw [UmReceiver.handled_iff (by decide) (by decide) (by decide)] at hhandled
    exact absurd hhandled (by decide)
  · intro h
    have hexec : (exec step establish [fun _ => some (.pdu ⟨.first, 0, 0, 1, 10⟩)]).any
        (fun r => decide ((received r.1).max? = some 0 ∧
          r.2.receiver.RX_Next_Highest = 0)) = true := by
      decide +kernel
    obtain ⟨tr, s, run, htest⟩ := run_of_exec hexec
    obtain ⟨hmax, hzero⟩ := of_decide_eq_true htest
    have hhighest := (h tr s run).highest 0 hmax
    rw [hzero] at hhighest
    cases hhighest

end UmReception

end NetSim.Rlc
