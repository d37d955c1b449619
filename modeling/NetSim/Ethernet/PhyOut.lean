import NetSim.Lib.Run

/-!
# The transmissions of an Ethernet interface (`Ethernet_Phy.c`)

One handler serves the frames that arrive and the wake-ups for the end of a transmission. Events of
one time come in any order.
-/

namespace NetSim.Ethernet

open NetSim.Lib

/-- `IFG`, `speed` and `propagationDelay` of `ETH_PHY`. -/
structure PhyConfig where
  IFG : ℚ
  speed : ℚ
  propagationDelay : ℚ
  IFG_nonneg : 0 ≤ IFG
  speed_pos : 0 < speed

/-- A frame, with the time of the event that brought it. -/
structure PhyFrame where
  nPacketId : ℕ
  dPacketSize : ℕ
  arrival : ℚ
deriving DecidableEq

/-- A frame on the link, with the times that `eth_phy_packet_set_param` writes. -/
structure PhyData where
  frame : PhyFrame
  dArrivalTime : ℚ
  dStartTime : ℚ
  dEndTime : ℚ
deriving DecidableEq

/-- `ETH_PHY` and the `PHYSICAL_OUT` events without a frame. `arrived` and `sent` are kept for the
reader. -/
structure EthPhy where
  lastPacketEndTime : ℚ
  packet : List PhyFrame
  wakeUps : List ℚ
  now : ℚ
  arrived : List PhyFrame
  sent : List PhyData

def calculateTxtime (cfg : PhyConfig) (size : ℕ) : ℚ := size * 8 / cfg.speed

namespace EthPhy

def start : EthPhy :=
  { lastPacketEndTime := 0, packet := [], wakeUps := [], now := 0, arrived := [], sent := [] }

/-- What follows `ADD_NEXT`. -/
def addNext (s : EthPhy) : EthPhy :=
  if s.packet = [] then s else { s with wakeUps := s.lastPacketEndTime :: s.wakeUps }

/-- `fn_NetSim_Ethernet_HandlePhyOut`, at `time`, for a frame or none. -/
def handlePhyOut (cfg : PhyConfig) (s : EthPhy) (time : ℚ) (packet : Option PhyFrame) : EthPhy :=
  let flag := s.packet.isEmpty
  let s := { s with packet := s.packet ++ packet.toList }
  if time < s.lastPacketEndTime then
    if flag then s.addNext else s
  else
    match s.packet with
    | [] => s
    | p :: rest =>
      let start :=
        if s.lastPacketEndTime + cfg.IFG ≤ time then time else s.lastPacketEndTime + cfg.IFG
      let txtime := calculateTxtime cfg p.dPacketSize
      addNext { s with
        packet := rest
        lastPacketEndTime := start + txtime
        sent := s.sent ++
          [{ frame := p
             dArrivalTime := start
             dStartTime := start + txtime
             dEndTime := start + txtime + cfg.propagationDelay }] }

end EthPhy

inductive PhyEvent
  | arrive (nPacketId dPacketSize : ℕ)
  | wakeUp

namespace EthPhy

/-- One event. No event that is pending has an earlier time. -/
def step (cfg : PhyConfig) (s : EthPhy) (x : ℚ × PhyEvent) : Option EthPhy :=
  if s.now ≤ x.1 ∧ ∀ w ∈ s.wakeUps, x.1 ≤ w then
    match x.2 with
    | .arrive nPacketId dPacketSize =>
      let p : PhyFrame := { nPacketId, dPacketSize, arrival := x.1 }
      some (handlePhyOut cfg { s with now := x.1, arrived := s.arrived ++ [p] } x.1 (some p))
    | .wakeUp =>
      if x.1 ∈ s.wakeUps then
        some (handlePhyOut cfg { s with now := x.1, wakeUps := s.wakeUps.erase x.1 } x.1 none)
      else none
  else none

/-- Each frame starts a gap after the end of the one before, or when it arrives if that is later.
`prior` is the end of the one before the list. -/
def Spaced (cfg : PhyConfig) : Option ℚ → List PhyData → Prop
  | _, [] => True
  | prior, x :: rest =>
    x.dArrivalTime =
        prior.elim x.frame.arrival (fun ended => max (ended + cfg.IFG) x.frame.arrival) ∧
      x.dStartTime = x.dArrivalTime + calculateTxtime cfg x.frame.dPacketSize ∧
      Spaced cfg (some x.dStartTime) rest

def lastEnd : Option ℚ → List PhyData → Option ℚ
  | prior, [] => prior
  | _, x :: rest => lastEnd (some x.dStartTime) rest

/-- The frames are on the link, once and in order, or in the buffer; they are spaced; and the buffer
is waited for. -/
structure Right (cfg : PhyConfig) (prior : Option ℚ) (s : EthPhy) : Prop where
  order : s.sent.map PhyData.frame ++ s.packet = s.arrived
  spaced : Spaced cfg prior s.sent
  pending : s.packet ≠ [] → ∃ w ∈ s.wakeUps, w ≤ s.lastPacketEndTime

/-- A wake-up sends the frame it was added for, when the one before ends, or nothing. -/
def NoStale (cfg : PhyConfig) (s : EthPhy) : Prop :=
  ∀ time s', s.step cfg (time, .wakeUp) = some s' →
    (time = s.lastPacketEndTime ∧ ∃ p rest, s.packet = p :: rest ∧
      s'.sent.map PhyData.frame = s.sent.map PhyData.frame ++ [p]) ∨
    ((s.packet = [] ∨ time ≠ s.lastPacketEndTime) ∧ s'.sent = s.sent)

structure Inv (cfg : PhyConfig) (s : EthPhy) : Prop where
  order : s.sent.map PhyData.frame ++ s.packet = s.arrived
  spaced : Spaced cfg (some 0) s.sent
  ends : some s.lastPacketEndTime = lastEnd (some 0) s.sent
  wakes : s.packet ≠ [] → s.lastPacketEndTime ∈ s.wakeUps
  past : ∀ p ∈ s.packet, p.arrival ≤ s.now
  future : ∀ w ∈ s.wakeUps, s.now ≤ w

variable {cfg : PhyConfig} {s : EthPhy} {time : ℚ}

theorem txtime_nonneg (cfg : PhyConfig) (size : ℕ) : 0 ≤ calculateTxtime cfg size := by
  have hsize : (0 : ℚ) ≤ size * 8 := by positivity
  exact div_nonneg hsize cfg.speed_pos.le

theorem spaced_append {prior : Option ℚ} {l : List PhyData} {x : PhyData} (h : Spaced cfg prior l)
    (hx : Spaced cfg (lastEnd prior l) [x]) : Spaced cfg prior (l ++ [x]) := by
  induction l generalizing prior with
  | nil => exact hx
  | cons y l ih => exact ⟨h.1, h.2.1, ih h.2.2 hx⟩

theorem lastEnd_append (prior : Option ℚ) (l : List PhyData) (x : PhyData) :
    lastEnd prior (l ++ [x]) = some x.dStartTime := by
  induction l generalizing prior with
  | nil => rfl
  | cons y l ih => exact ih (some y.dStartTime)

/-- What an event does, once it is off the list of pending ones. -/
theorem Inv.handlePhyOut {packet : Option PhyFrame}
    (order : s.sent.map PhyData.frame ++ (s.packet ++ packet.toList) = s.arrived)
    (spaced : Spaced cfg (some 0) s.sent)
    (ends : some s.lastPacketEndTime = lastEnd (some 0) s.sent)
    (wakes : s.packet ≠ [] → time < s.lastPacketEndTime → s.lastPacketEndTime ∈ s.wakeUps)
    (due : s.packet ≠ [] → time ≤ s.lastPacketEndTime)
    (past : ∀ p ∈ s.packet ++ packet.toList, p.arrival ≤ time)
    (new : ∀ p ∈ packet.toList, p.arrival = time)
    (hnow : s.now = time) (future : ∀ w ∈ s.wakeUps, time ≤ w) :
    Inv cfg (s.handlePhyOut cfg time packet) := by
  have hadd : ∀ s : EthPhy, (s.packet ≠ [] → s.now ≤ s.lastPacketEndTime) →
      s.sent.map PhyData.frame ++ s.packet = s.arrived → Spaced cfg (some 0) s.sent →
      some s.lastPacketEndTime = lastEnd (some 0) s.sent → (∀ p ∈ s.packet, p.arrival ≤ s.now) →
      (∀ w ∈ s.wakeUps, s.now ≤ w) → Inv cfg s.addNext := by
    intro s hlast order spaced ends past future
    unfold addNext
    split
    · next hempty => exact ⟨order, spaced, ends, fun hne => absurd hempty hne, past, future⟩
    · next hne =>
      refine ⟨order, spaced, ends, fun _ => List.mem_cons_self, past, fun w hw => ?_⟩
      rcases List.mem_cons.1 hw with rfl | hw
      · exact hlast hne
      · exact future w hw
  unfold EthPhy.handlePhyOut
  dsimp only
  split
  · next hbusy =>
    split
    · exact hadd _ (fun _ => hnow.trans_le hbusy.le) order spaced ends (hnow ▸ past) (hnow ▸ future)
    · next hflag =>
      have hne : s.packet ≠ [] := fun hempty => hflag (List.isEmpty_iff.2 hempty)
      exact ⟨order, spaced, ends, fun _ => wakes hne hbusy, hnow ▸ past, hnow ▸ future⟩
  · next hidle =>
    split
    · next hempty =>
      exact ⟨order, spaced, ends, fun hne => absurd hempty hne, hnow ▸ past, hnow ▸ future⟩
    · next p rest hlist =>
      rw [hlist] at past order
      -- A frame that has waited goes out when the one before ends, and a new one as it arrives.
      have hstart : (if s.lastPacketEndTime + cfg.IFG ≤ time then time
          else s.lastPacketEndTime + cfg.IFG) = max (s.lastPacketEndTime + cfg.IFG) p.arrival := by
        have hIFG := cfg.IFG_nonneg
        have hp := past p List.mem_cons_self
        by_cases hempty : s.packet = []
        · have hnew : p.arrival = time := by
            rw [hempty, List.nil_append] at hlist
            exact new p (hlist ▸ List.mem_cons_self)
          rw [hnew]
          split
          · next hle => exact (max_eq_right hle).symm
          · next hgt => exact (max_eq_left (not_le.1 hgt).le).symm
        · have hdue := due hempty
          rw [max_eq_left (by linarith)]
          split
          · next hle => linarith
          · rfl
      have hlater : time ≤ max (s.lastPacketEndTime + cfg.IFG) p.arrival := by
        rw [← hstart]
        split
        · exact le_rfl
        · next hgt => exact (not_le.1 hgt).le
      have htx := txtime_nonneg cfg p.dPacketSize
      rw [hstart]
      refine hadd _ (fun _ => ?_) ?_ ?_ ?_ ?_ (hnow ▸ future)
      · dsimp only
        linarith
      · rw [List.map_append, List.append_assoc]
        exact order
      · exact spaced_append spaced ⟨by rw [← ends]; rfl, rfl, trivial⟩
      · dsimp only
        rw [lastEnd_append]
      · exact fun q hq => hnow ▸ past q (List.mem_cons_of_mem _ hq)

theorem Inv.step {s' : EthPhy} {x : ℚ × PhyEvent} (h : Inv cfg s) (hs : s.step cfg x = some s') :
    Inv cfg s' := by
  obtain ⟨time, event⟩ := x
  unfold EthPhy.step at hs
  split at hs
  swap
  · cases hs
  next hguard =>
  obtain ⟨hnow, hfirst⟩ := hguard
  have hdue : s.packet ≠ [] → time ≤ s.lastPacketEndTime := fun hne => hfirst _ (h.wakes hne)
  have hpast : ∀ p ∈ s.packet, p.arrival ≤ time := fun p hp => (h.past p hp).trans hnow
  cases event with
  | arrive nPacketId dPacketSize =>
    cases hs
    refine Inv.handlePhyOut ?_ h.spaced h.ends (fun hne _ => h.wakes hne) hdue ?_ ?_ rfl hfirst
    · rw [← h.order]
      exact (List.append_assoc _ _ _).symm
    · intro p hp
      rcases List.mem_append.1 hp with hp | hp
      · exact hpast p hp
      · cases List.mem_singleton.1 hp
        exact le_rfl
    · intro p hp
      cases List.mem_singleton.1 hp
      rfl
  | wakeUp =>
    dsimp only at hs
    split at hs
    · cases hs
      refine Inv.handlePhyOut ?_ h.spaced h.ends (fun hne hlt => ?_) hdue ?_ ?_ rfl ?_
      · rw [Option.toList_none, List.append_nil]
        exact h.order
      · exact (List.mem_erase_of_ne hlt.ne').2 (h.wakes hne)
      · rw [Option.toList_none, List.append_nil]
        exact hpast
      · exact fun p hp => by cases hp
      · exact fun w hw => hfirst w (List.mem_of_mem_erase hw)
    · cases hs

theorem inv_of_run {tr : List (EthPhy × (ℚ × PhyEvent))} (run : Run (step cfg) start tr s) :
    Inv cfg s := by
  refine run.always ?_ fun _ _ _ h hs => h.step hs
  refine ⟨rfl, trivial, rfl, fun hne => absurd rfl hne, ?_, ?_⟩
  · intro p hp
    cases hp
  · intro w hw
    cases hw

/-- In every run the frames are sent once, in order, and as early as the gap allows, where the first
one keeps the gap from time 0. -/
theorem phyOut_right (cfg : PhyConfig) {tr : List (EthPhy × (ℚ × PhyEvent))}
    (run : Run (step cfg) start tr s) : s.Right cfg (some 0) ∧ s.NoStale cfg := by
  have h := inv_of_run run
  refine ⟨⟨h.order, h.spaced, fun hne => ⟨_, h.wakes hne, le_rfl⟩⟩, ?_⟩
  intro time s' hs
  have hadd : ∀ s : EthPhy, s.addNext.sent = s.sent := by
    intro s
    unfold addNext
    split <;> rfl
  unfold step at hs
  split at hs
  swap
  · cases hs
  next hguard =>
  dsimp only at hs
  split at hs
  swap
  · cases hs
  cases hs
  unfold handlePhyOut
  rw [Option.toList_none, List.append_nil]
  dsimp only
  split
  · next hbusy =>
    refine .inr ⟨.inr hbusy.ne, ?_⟩
    split
    · exact hadd _
    · rfl
  · next hidle =>
    split
    · next hempty => exact .inr ⟨.inl hempty, rfl⟩
    · next p rest hlist =>
      have hne : s.packet ≠ [] := by
        rw [hlist]
        exact List.cons_ne_nil _ _
      refine .inl ⟨le_antisymm (hguard.2 _ (h.wakes hne)) (not_lt.1 hidle), p, rest, hlist, ?_⟩
      rw [hadd, List.map_append]
      rfl

def gapConfig : PhyConfig :=
  { IFG := 24 / 25, speed := 100, propagationDelay := 1 / 2
    IFG_nonneg := by norm_num, speed_pos := by norm_num }

/-- Three frames at time 0 and one inside the gap after the first. -/
theorem phyOut_right_four :
    ∃ tr s, Run (step gapConfig) start tr s ∧ (s.Right gapConfig (some 0) ∧ s.NoStale gapConfig) ∧
      s.sent.map (fun x => (x.frame.nPacketId, x.dArrivalTime)) = [(1, 24 / 25), (2, 248 / 25)] ∧
      s.packet.map PhyFrame.nPacketId = [3, 4] ∧ s.wakeUps = [448 / 25] := by
  have hexec : (exec (step gapConfig) start
      [fun _ => some (0, .arrive 1 100), fun _ => some (0, .arrive 2 100),
        fun _ => some (0, .arrive 3 100), fun _ => some (224 / 25, .wakeUp),
        fun _ => some (9, .arrive 4 100)]).any (fun r => decide (
      r.2.sent.map (fun x => (x.frame.nPacketId, x.dArrivalTime)) = [(1, 24 / 25), (2, 248 / 25)] ∧
      r.2.packet.map PhyFrame.nPacketId = [3, 4] ∧ r.2.wakeUps = [448 / 25])) = true := by
    decide +kernel
  obtain ⟨tr, s, run, h⟩ := run_of_exec hexec
  exact ⟨tr, s, run, phyOut_right gapConfig run, of_decide_eq_true h⟩

/-- The first frame waits for a gap that no frame before it needs. -/
theorem not_phyOut_right :
    ¬ ∀ (cfg : PhyConfig) (tr : List (EthPhy × (ℚ × PhyEvent))) (s : EthPhy),
      Run (step cfg) start tr s → s.Right cfg none ∧ s.NoStale cfg := by
  intro h
  have hexec : (exec (step gapConfig) start [fun _ => some (0, .arrive 1 100)]).any (fun r =>
      decide (r.2.sent.map (fun x => (x.frame.arrival, x.dArrivalTime)) = [(0, 24 / 25)])) = true := by
    decide +kernel
  obtain ⟨tr, s, run, hs⟩ := run_of_exec hexec
  have hspaced := (h gapConfig tr s run).1.spaced
  obtain ⟨x, hx, hpair⟩ := List.map_eq_singleton_iff.1 (of_decide_eq_true hs)
  rw [hx] at hspaced
  have hstart : x.dArrivalTime = x.frame.arrival := hspaced.1
  have harrival : x.frame.arrival = 0 := congrArg Prod.fst hpair
  have hsent : x.dArrivalTime = 24 / 25 := congrArg Prod.snd hpair
  rw [hsent, harrival] at hstart
  norm_num at hstart

end EthPhy

end NetSim.Ethernet
