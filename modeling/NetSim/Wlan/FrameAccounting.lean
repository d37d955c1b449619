import NetSim.Wlan.BlockAckHonesty
import NetSim.Wlan.Sender

/-!
# What becomes of the packets taken from the queue

While an RTS stands for a list of packets, that list waits, and otherwise none does. A unicast
packet moves from one of the four places to another.
-/

namespace NetSim.Wlan

open NetSim.Lib

/-! ## The queue -/

theorem getPacketsFromQueue_sublist (cfg : MacConfig) (now : ℚ) (n : ℕ) (list : List Packet) :
    ((getPacketsFromQueue cfg now n list).1 ++ (getPacketsFromQueue cfg now n list).2).Sublist list := by
  induction list generalizing n with
  | nil => cases n <;> exact List.Sublist.refl _
  | cons t list ih =>
    cases n with
    | zero => exact List.Sublist.refl _
    | succ n =>
      unfold getPacketsFromQueue
      split
      · exact (ih (n + 1)).trans (List.sublist_cons_self t list)
      · exact (ih n).cons_cons t

theorem packetsOf_map_data (packets : List Packet) : packetsOf (packets.map .data) = packets := by
  induction packets with
  | nil => rfl
  | cons p rest ih => exact congrArg (p :: ·) ih

theorem packetsOf_append (frames frames' : List Frame) :
    packetsOf (frames ++ frames') = packetsOf frames ++ packetsOf frames' :=
  List.filterMap_append

namespace MacVar

variable {cfg : MacConfig} {mac : MacVar} {now : ℚ}

def places (mac : MacVar) (p : Packet) : ℕ :=
  (packetsOf mac.currentProcessingPacket).count p + (packetsOf mac.waitingforCTS).count p +
    mac.acknowledged.count p + mac.dropped.count p

/-- Every unicast packet taken from the queue is in exactly one of the places. -/
def Accounted (mac : MacVar) : Prop := ∀ p ∈ mac.taken, p.multi = false → mac.places p = 1

def Shape (mac : MacVar) : Prop :=
  (mac.waitingforCTS = [] ∧ Frame.rts ∉ mac.currentProcessingPacket) ∨
    (mac.currentProcessingPacket = [.rts] ∧ mac.waitingforCTS ≠ [] ∧ Frame.rts ∉ mac.waitingforCTS)

structure Balanced (mac : MacVar) : Prop where
  shape : mac.Shape
  count : ∀ p : Packet, p.multi = false → mac.taken.count p = mac.places p

def NoneNew (mac mac' : MacVar) : Prop :=
  (mac'.qosList ++ mac'.taken).Subperm (mac.qosList ++ mac.taken)

def HeadsAlike (frames : List Frame) : Prop :=
  ∀ p ∈ frames.head?, isMulti p = true → ∀ q ∈ packetsOf frames, q.multi = true

/-- What `get_from_queue` would return. -/
def next (cfg : MacConfig) (mac : MacVar) (now : ℚ) : List Frame :=
  (mac.getFromQueue cfg now).1.map .data

theorem rts_notMem_map_data (packets : List Packet) : Frame.rts ∉ packets.map Frame.data := by
  intro h
  obtain ⟨p, -, hp⟩ := List.mem_map.1 h
  cases hp

theorem noneNew_getFromQueue : mac.NoneNew (mac.getFromQueue cfg now).2 := by
  have h := getPacketsFromQueue_sublist cfg now cfg.nNumberOfAggregatedPackets mac.qosList
  unfold NoneNew getFromQueue
  refine List.Subperm.trans ?_ (h.append_right mac.taken).subperm
  rw [← List.append_assoc]
  exact (List.perm_append_comm.append_right mac.taken).subperm

/-! ## The functions that move packets -/

theorem Balanced.rtsCtsInit (h : mac.Balanced) : (mac.rtsCtsInit cfg).Balanced := by
  unfold MacVar.rtsCtsInit
  split
  · next hdecide =>
    rcases h.shape with ⟨hwait, hdata⟩ | ⟨hrts, -⟩
    · have hne : mac.currentProcessingPacket ≠ [] := by
        intro hnil
        simp [decideRtsCtsMechanism, hnil] at hdecide
      refine ⟨.inr ⟨rfl, hne, hdata⟩, fun p hp => ?_⟩
      have hcount := h.count p hp
      unfold places at hcount ⊢
      rw [hwait] at hcount
      have hnone : (packetsOf [Frame.rts]).count p = 0 := rfl
      have hnil : (packetsOf []).count p = 0 := rfl
      dsimp only
      omega
    · rw [decideRtsCtsMechanism, hrts] at hdecide
      cases hdecide
  · exact h

theorem Balanced.csmacaInit (h : mac.Balanced) : (mac.csmacaInit cfg now).Balanced := by
  unfold MacVar.csmacaInit
  split
  · split
    · exact h.rtsCtsInit
    · next hcurrent =>
      rw [not_not] at hcurrent
      have hwait : mac.waitingforCTS = [] := by
        rcases h.shape with ⟨hwait, -⟩ | ⟨hrts, -⟩
        · exact hwait
        · rw [hcurrent] at hrts
          cases hrts
      dsimp only
      split
      · next hnone =>
        refine ⟨h.shape, fun p hp => ?_⟩
        have hcount := h.count p hp
        have htaken : (mac.getFromQueue cfg now).2.taken = mac.taken := by
          change (mac.getFromQueue cfg now).1 ++ mac.taken = mac.taken
          rw [hnone]
          rfl
        rw [htaken]
        exact hcount
      · refine Balanced.rtsCtsInit ⟨.inl ⟨hwait, rts_notMem_map_data _⟩, fun p hp => ?_⟩
        have hcount := h.count p hp
        unfold places at hcount ⊢
        rw [hcurrent] at hcount
        have hnil : (packetsOf []).count p = 0 := rfl
        have htaken : (mac.getFromQueue cfg now).2.taken.count p =
            (mac.getFromQueue cfg now).1.count p + mac.taken.count p := List.count_append
        rw [packetsOf_map_data, htaken]
        have hkeeps : (mac.getFromQueue cfg now).2.waitingforCTS = mac.waitingforCTS ∧
            (mac.getFromQueue cfg now).2.acknowledged = mac.acknowledged ∧
            (mac.getFromQueue cfg now).2.dropped = mac.dropped := ⟨rfl, rfl, rfl⟩
        rw [hkeeps.1, hkeeps.2.1, hkeeps.2.2]
        omega
  · exact h

theorem sendToPhy_keeps (cfg : MacConfig) (now : ℚ) (mac : MacVar) :
    (mac.sendToPhy cfg now).waitingforCTS = mac.waitingforCTS ∧
      (mac.sendToPhy cfg now).acknowledged = mac.acknowledged ∧
      (mac.sendToPhy cfg now).dropped = mac.dropped ∧
      (mac.sendToPhy cfg now).taken = mac.taken ∧
      (mac.sendToPhy cfg now).qosList = mac.qosList := by
  have hset : ∀ mac : MacVar, (mac.setTxopTime cfg now).waitingforCTS = mac.waitingforCTS ∧
      (mac.setTxopTime cfg now).acknowledged = mac.acknowledged ∧
      (mac.setTxopTime cfg now).dropped = mac.dropped ∧
      (mac.setTxopTime cfg now).taken = mac.taken ∧
      (mac.setTxopTime cfg now).qosList = mac.qosList := by
    intro mac
    unfold setTxopTime
    split <;> exact ⟨rfl, rfl, rfl, rfl, rfl⟩
  unfold MacVar.sendToPhy
  split
  · exact ⟨rfl, rfl, rfl, rfl, rfl⟩
  · split
    · exact hset _
    · exact hset _

theorem sendToPhy_current (cfg : MacConfig) (now : ℚ) (mac : MacVar) :
    (mac.sendToPhy cfg now).currentProcessingPacket = mac.currentProcessingPacket ∨
      ((mac.sendToPhy cfg now).currentProcessingPacket = [] ∧
        ∃ p ∈ mac.currentProcessingPacket.head?, isMulti p = true) := by
  have hset : ∀ mac : MacVar,
      (mac.setTxopTime cfg now).currentProcessingPacket = mac.currentProcessingPacket := by
    intro mac
    unfold setTxopTime
    split <;> rfl
  unfold MacVar.sendToPhy
  split
  · exact .inl rfl
  · next p rest hcurrent =>
    split
    · next hmulti => exact .inr ⟨rfl, p, by rw [hcurrent]; rfl, hmulti⟩
    · exact .inl (hset _)

theorem Balanced.sendToPhy (h : mac.Balanced) (halike : HeadsAlike mac.currentProcessingPacket) :
    (mac.sendToPhy cfg now).Balanced := by
  obtain ⟨hwait, hack, hdrop, htaken, -⟩ := sendToPhy_keeps cfg now mac
  rcases sendToPhy_current cfg now mac with hcur | ⟨hcur, p, hhead, hmulti⟩
  · refine ⟨?_, fun p hp => ?_⟩
    · unfold Shape
      rw [hwait, hcur]
      exact h.shape
    · unfold places
      rw [htaken, hcur, hwait, hack, hdrop]
      exact h.count p hp
  · -- Only broadcasts are given up.
    have hnone : ∀ q : Packet, q.multi = false → (packetsOf mac.currentProcessingPacket).count q = 0 := by
      intro q hq
      refine List.count_eq_zero.2 fun hmem => ?_
      rw [halike p hhead hmulti q hmem] at hq
      cases hq
    refine ⟨.inl ⟨?_, ?_⟩, fun q hq => ?_⟩
    · rw [hwait]
      rcases h.shape with ⟨hwait, -⟩ | ⟨hrts, -⟩
      · exact hwait
      · rw [hrts] at hhead
        cases hhead
        cases hmulti
    · rw [hcur]
      exact List.not_mem_nil
    · have hcount := h.count q hq
      have hzero := hnone q hq
      have hnil : (packetsOf []).count q = 0 := rfl
      unfold places at hcount ⊢
      rw [htaken, hcur, hwait, hack, hdrop]
      omega

theorem Balanced.afterAck (h : mac.Balanced) (hwait : mac.waitingforCTS = [])
    (hnext : mac.isTxopTimerSet cfg now = true → mac.next cfg now ≠ [] →
      mac.currentProcessingPacket = [] ∧ HeadsAlike (mac.next cfg now)) :
    (mac.afterAck cfg now).Balanced := by
  have hunset : ∀ mac : MacVar, mac.Balanced → (mac.unsetTxopTime cfg).Balanced := by
    intro mac h
    unfold unsetTxopTime
    split
    · exact ⟨h.shape, h.count⟩
    · exact h
  unfold MacVar.afterAck
  dsimp only
  split
  · next htimer =>
    split
    · next hnone =>
      refine hunset _ ⟨h.shape, fun p hp => ?_⟩
      have hcount := h.count p hp
      have htaken : (getFromQueue cfg { mac with currMacState := .macIdle } now).2.taken = mac.taken := by
        change (getFromQueue cfg { mac with currMacState := .macIdle } now).1 ++ mac.taken = mac.taken
        rw [hnone]
        rfl
      rw [htaken]
      exact hcount
    · next hsome =>
      have hne : mac.next cfg now ≠ [] := fun hnil => hsome (List.map_eq_nil_iff.1 hnil)
      obtain ⟨hcurrent, halike⟩ := hnext htimer hne
      refine Balanced.sendToPhy ⟨.inl ⟨hwait, rts_notMem_map_data _⟩, fun p hp => ?_⟩ halike
      have hcount := h.count p hp
      unfold places at hcount ⊢
      rw [hcurrent] at hcount
      have hnil : (packetsOf []).count p = 0 := rfl
      have htaken : (mac.getFromQueue cfg now).2.taken.count p =
          (mac.getFromQueue cfg now).1.count p + mac.taken.count p := List.count_append
      change (mac.getFromQueue cfg now).2.taken.count p =
        (packetsOf ((mac.getFromQueue cfg now).1.map .data)).count p +
          (packetsOf mac.waitingforCTS).count p + mac.acknowledged.count p + mac.dropped.count p
      rw [packetsOf_map_data, htaken]
      omega
  · refine Balanced.csmacaInit ?_
    have h' := hunset { mac with currMacState := .macIdle } ⟨h.shape, h.count⟩
    exact ⟨h'.shape, h'.count⟩

variable {mac' : MacVar}

theorem checkRetryLimit_congr (h : mac'.nRetryCount = mac.nRetryCount) (n : ℕ) :
    mac'.checkRetryLimit cfg n = mac.checkRetryLimit cfg n := by
  unfold checkRetryLimit
  rw [h]

/-- The decision of `ackTimeOut`. -/
def retries (cfg : MacConfig) (mac : MacVar) (needDataSend : Bool) : Bool :=
  if cfg.minstrel then needDataSend
  else mac.checkRetryLimit cfg ((mac.currentProcessingPacket.head?.map payload).getD 0)

/-- A list is headed by a broadcast only if all of it is; an acknowledgment comes while no RTS is
out, and leaves nothing on the list when the TXOP goes on; a CTS comes while an RTS is out; and what
is given up is one unicast packet. -/
def Meets (cfg : MacConfig) (mac : MacVar) (x : ℚ × MacEvent) : Prop :=
  match x.2 with
  | .add _ => True
  | .changeState _ _ => True
  | .csmacaInit => True
  | .sendToPhy => HeadsAlike mac.currentProcessingPacket
  | .ack => mac.waitingforCTS = [] ∧
      (mac.isTxopTimerSet cfg x.1 = true → HeadsAlike (mac.next cfg x.1))
  | .blockAck bitMap => mac.waitingforCTS = [] ∧
      (mac.isTxopTimerSet cfg x.1 = true → mac.next cfg x.1 ≠ [] →
        (bitIsSet64 bitMap 0 = true ∨ mac.currentProcessingPacket = []) ∧
          HeadsAlike (mac.next cfg x.1))
  | .cts => mac.waitingforCTS ≠ []
  | .ackTimeOut needDataSend => (mac.currMacState = .waitAck ∨ mac.currMacState = .txingMpdu) →
      mac.waitingforCTS = [] ∧ (mac.retries cfg needDataSend = false →
        ∀ q ∈ packetsOf mac.currentProcessingPacket.tail, q.multi = true)
  | .ctsTimeOut => mac.checkRetryLimit cfg 1 = false →
      ∀ q ∈ packetsOf mac.waitingforCTS.tail, q.multi = true

theorem Balanced.processAck (h : mac.Balanced) (hmeets : mac.Meets cfg (now, .ack)) :
    (mac.processAck cfg now).Balanced := by
  obtain ⟨hwait, hnext⟩ := hmeets
  refine Balanced.afterAck ⟨.inl ⟨hwait, List.not_mem_nil⟩, fun p hp => ?_⟩ hwait
    fun htimer _ => ⟨rfl, hnext htimer⟩
  have hcount := h.count p hp
  unfold places at hcount ⊢
  have hnil : (packetsOf []).count p = 0 := rfl
  dsimp only
  rw [List.count_append]
  omega

theorem Balanced.processBlockAck {bitMap : BitVec 64} (h : mac.Balanced)
    (hmeets : mac.Meets cfg (now, .blockAck bitMap)) : (mac.processBlockAck cfg bitMap now).Balanced := by
  obtain ⟨hwait, hnext⟩ := hmeets
  have hdata : Frame.rts ∉ mac.currentProcessingPacket := by
    rcases h.shape with ⟨-, hdata⟩ | ⟨-, hwait', -⟩
    · exact hdata
    · exact absurd hwait hwait'
  -- The walk takes off all of the list or nothing.
  have hwalk := processBlockAckLoop_eq bitMap mac.currentProcessingPacket 0
  rw [bitIsSet64_eq] at hnext
  unfold MacVar.processBlockAck Wlan.processBlockAck
  rw [hwalk]
  cases hbit : bitMap.getLsbD 0 with
  | true =>
    refine Balanced.afterAck ⟨.inl ⟨hwait, List.not_mem_nil⟩, fun p hp => ?_⟩ hwait
      fun htimer hne => ⟨rfl, (hnext htimer hne).2⟩
    have hcount := h.count p hp
    unfold places at hcount ⊢
    have hnil : (packetsOf []).count p = 0 := rfl
    rw [if_pos rfl, List.count_append]
    dsimp only
    omega
  | false =>
    refine Balanced.afterAck ⟨.inl ⟨hwait, hdata⟩, fun p hp => h.count p hp⟩ hwait
      fun htimer hne => ?_
    obtain ⟨hall, halike⟩ := hnext htimer hne
    rw [hbit] at hall
    exact ⟨hall.resolve_left Bool.false_ne_true, halike⟩

theorem count_head_of_tail {frames : List Frame} {f : Frame} {rest : List Frame}
    (hframes : frames = f :: rest) (htail : ∀ q ∈ packetsOf frames.tail, q.multi = true) {p : Packet}
    (hp : p.multi = false) : (packetsOf frames).count p = (packetsOf [f]).count p := by
  subst hframes
  have hzero : (packetsOf rest).count p = 0 := by
    refine List.count_eq_zero.2 fun hmem => ?_
    rw [htail p hmem] at hp
    cases hp
  rw [← List.singleton_append, packetsOf_append, List.count_append, hzero, Nat.add_zero]

theorem Balanced.ackTimeOut {needDataSend : Bool} (h : mac.Balanced)
    (hmeets : mac.Meets cfg (now, .ackTimeOut needDataSend)) :
    (mac.ackTimeOut cfg needDataSend now).Balanced := by
  unfold MacVar.ackTimeOut
  split
  · next hstate =>
    obtain ⟨hwait, htail⟩ := hmeets hstate
    split
    · exact ⟨h.shape, h.count⟩
    · next f rest hcurrent =>
      have hunset : ∀ mac : MacVar, ∃ txopTime, mac.unsetTxopTime cfg = { mac with txopTime } := by
        intro mac
        unfold unsetTxopTime
        split
        · exact ⟨0, rfl⟩
        · exact ⟨mac.txopTime, rfl⟩
      obtain ⟨txopTime, hmac⟩ := hunset { mac with currMacState := .macIdle }
      rw [hmac]
      dsimp only
      have hretry : (if cfg.minstrel then needDataSend
          else checkRetryLimit cfg { mac with currMacState := .macIdle, txopTime := txopTime }
            (payload f)) = mac.retries cfg needDataSend := by
        have hsame : checkRetryLimit cfg { mac with currMacState := .macIdle, txopTime := txopTime }
            (payload f) = mac.checkRetryLimit cfg (payload f) := checkRetryLimit_congr rfl _
        unfold retries
        rw [hsame, hcurrent]
        rfl
      rw [hretry]
      split
      · exact Balanced.csmacaInit ⟨h.shape, h.count⟩
      · next hgive =>
        refine Balanced.csmacaInit ⟨.inl ⟨hwait, List.not_mem_nil⟩, fun p hp => ?_⟩
        have hcount := h.count p hp
        have hhead := count_head_of_tail hcurrent (htail (Bool.not_eq_true _ ▸ hgive)) hp
        unfold places at hcount ⊢
        have hnil : (packetsOf []).count p = 0 := rfl
        dsimp only
        rw [List.count_append]
        omega
  · exact h

theorem Balanced.ctsTimeOut (h : mac.Balanced) (hmeets : mac.Meets cfg (now, .ctsTimeOut)) :
    (mac.ctsTimeOut cfg now).Balanced := by
  unfold MacVar.ctsTimeOut
  dsimp only
  split
  · exact Balanced.csmacaInit ⟨h.shape, h.count⟩
  · next hgive =>
    have hsame : checkRetryLimit cfg { mac with currMacState := .macIdle } 1 =
        mac.checkRetryLimit cfg 1 := checkRetryLimit_congr rfl 1
    have hgive : mac.checkRetryLimit cfg 1 = false := hsame ▸ (Bool.not_eq_true _).mp hgive
    split
    · exact Balanced.csmacaInit ⟨h.shape, h.count⟩
    · next f rest hwait =>
      have hrts : mac.currentProcessingPacket = [.rts] := by
        rcases h.shape with ⟨hnil, -⟩ | ⟨hrts, -⟩
        · rw [hwait] at hnil
          cases hnil
        · exact hrts
      refine Balanced.csmacaInit ⟨.inl ⟨rfl, List.not_mem_nil⟩, fun p hp => ?_⟩
      have hcount := h.count p hp
      have hhead := count_head_of_tail hwait (hmeets hgive) hp
      unfold places at hcount ⊢
      rw [hrts] at hcount
      have hnil : (packetsOf []).count p = 0 := rfl
      have hnone : (packetsOf [Frame.rts]).count p = 0 := rfl
      dsimp only
      rw [List.count_append]
      omega

theorem Balanced.processCts (h : mac.Balanced) (hmeets : mac.Meets cfg (now, .cts)) :
    mac.processCts.Balanced := by
  rcases h.shape with ⟨hnil, -⟩ | ⟨hrts, -, hdata⟩
  · exact absurd hnil hmeets
  · refine ⟨.inl ⟨rfl, hdata⟩, fun p hp => ?_⟩
    have hcount := h.count p hp
    unfold places at hcount ⊢
    rw [hrts] at hcount
    have hnil : (packetsOf []).count p = 0 := rfl
    have hnone : (packetsOf [Frame.rts]).count p = 0 := rfl
    unfold MacVar.processCts
    dsimp only
    omega

theorem Balanced.handle {event : MacEvent} (h : mac.Balanced) (hmeets : mac.Meets cfg (now, event)) :
    (mac.handle cfg now event).Balanced := by
  cases event with
  | add packet => exact ⟨h.shape, h.count⟩
  | changeState state radioIdle => exact ⟨h.shape, h.count⟩
  | csmacaInit => exact h.csmacaInit
  | sendToPhy => exact h.sendToPhy hmeets
  | ack => exact h.processAck hmeets
  | blockAck bitMap => exact h.processBlockAck hmeets
  | cts => exact h.processCts hmeets
  | ackTimeOut needDataSend => exact h.ackTimeOut hmeets
  | ctsTimeOut =>
    rw [MacVar.handle]
    exact h.ctsTimeOut hmeets

/-! ## Every packet is had once -/

theorem noneNew_of_eq (hqueue : mac'.qosList = mac.qosList)
    (htaken : mac'.taken = mac.taken) : mac.NoneNew mac' := by
  unfold NoneNew
  rw [hqueue, htaken]

theorem noneNew_rtsCtsInit : mac.NoneNew (mac.rtsCtsInit cfg) := by
  unfold rtsCtsInit
  split <;> exact noneNew_of_eq rfl rfl

theorem noneNew_csmacaInit : mac.NoneNew (mac.csmacaInit cfg now) := by
  unfold csmacaInit
  split
  · split
    · exact noneNew_rtsCtsInit
    · dsimp only
      split
      · exact noneNew_getFromQueue
      · exact noneNew_rtsCtsInit.trans noneNew_getFromQueue
  · exact noneNew_of_eq rfl rfl

theorem unsetTxopTime_keeps (cfg : MacConfig) (mac : MacVar) : (mac.unsetTxopTime cfg).qosList = mac.qosList ∧
    (mac.unsetTxopTime cfg).taken = mac.taken := by
  unfold unsetTxopTime
  split <;> exact ⟨rfl, rfl⟩

theorem noneNew_afterAck : mac.NoneNew (mac.afterAck cfg now) := by
  unfold afterAck
  dsimp only
  split
  · split
    · obtain ⟨hqueue, htaken⟩ := unsetTxopTime_keeps cfg
        (getFromQueue cfg { mac with currMacState := .macIdle } now).2
      exact (noneNew_of_eq hqueue htaken).trans noneNew_getFromQueue
    · obtain ⟨-, -, -, htaken, hqueue⟩ := sendToPhy_keeps cfg now
        { (mac.getFromQueue cfg now).2 with
          currMacState := .macIdle
          currentProcessingPacket := (mac.getFromQueue cfg now).1.map .data }
      exact (noneNew_of_eq hqueue htaken).trans noneNew_getFromQueue
  · obtain ⟨hqueue, htaken⟩ := unsetTxopTime_keeps cfg { mac with currMacState := .macIdle }
    refine List.Subperm.trans noneNew_csmacaInit ?_
    exact noneNew_of_eq hqueue htaken

theorem noneNew_ackTimeOut {needDataSend : Bool} : mac.NoneNew (mac.ackTimeOut cfg needDataSend now) := by
  unfold ackTimeOut
  split
  · split
    · exact noneNew_of_eq rfl rfl
    · obtain ⟨hqueue, htaken⟩ := unsetTxopTime_keeps cfg { mac with currMacState := .macIdle }
      dsimp only
      -- Minstrel decides, or the retry limit.
      split
      · split
        · exact List.Subperm.trans noneNew_csmacaInit (noneNew_of_eq hqueue htaken)
        · exact List.Subperm.trans noneNew_csmacaInit (noneNew_of_eq hqueue htaken)
      · split
        · exact List.Subperm.trans noneNew_csmacaInit (noneNew_of_eq hqueue htaken)
        · exact List.Subperm.trans noneNew_csmacaInit (noneNew_of_eq hqueue htaken)
  · exact noneNew_of_eq rfl rfl

theorem noneNew_ctsTimeOut : mac.NoneNew (mac.ctsTimeOut cfg now) := by
  unfold ctsTimeOut
  dsimp only
  split
  · exact noneNew_csmacaInit
  · split <;> exact noneNew_csmacaInit

theorem handle_of_step {x : ℚ × MacEvent} (h : mac.step cfg x = some mac') :
    mac' = mac.handle cfg x.1 x.2 := by
  unfold step at h
  split at h
  · cases h
  · split at h
    · split at h
      · cases h
      · next heq _ =>
        cases h
        rfl
    · cases h
      rfl

theorem nodup_step {x : ℚ × MacEvent} (h : mac.step cfg x = some mac')
    (hnd : (mac.qosList ++ mac.taken).Nodup) : (mac'.qosList ++ mac'.taken).Nodup := by
  obtain ⟨now, event⟩ := x
  have hsub : mac.NoneNew mac' → (mac'.qosList ++ mac'.taken).Nodup := by
    rintro ⟨l, hperm, hsub⟩
    exact hperm.nodup_iff.1 (hsub.nodup hnd)
  have hmac' : mac' = mac.handle cfg now event := handle_of_step h
  cases event with
  | add packet =>
    unfold step at h
    split at h
    · cases h
    dsimp only at h
    split at h
    · cases h
    · next hfresh =>
      rw [not_or] at hfresh
      rw [hmac']
      change ((mac.qosList ++ [packet]) ++ mac.taken).Nodup
      rw [List.append_assoc]
      refine List.perm_middle.nodup_iff.2 (List.nodup_cons.2 ⟨fun hmem => ?_, hnd⟩)
      exact (List.mem_append.1 hmem).elim hfresh.2 hfresh.1
  | changeState state radioIdle =>
    subst hmac'
    exact hsub (noneNew_of_eq rfl rfl)
  | csmacaInit =>
    subst hmac'
    exact hsub noneNew_csmacaInit
  | sendToPhy =>
    subst hmac'
    obtain ⟨-, -, -, htaken, hqueue⟩ := sendToPhy_keeps cfg now mac
    exact hsub (noneNew_of_eq hqueue htaken)
  | ack =>
    subst hmac'
    exact hsub noneNew_afterAck
  | blockAck bitMap =>
    subst hmac'
    exact hsub noneNew_afterAck
  | cts =>
    subst hmac'
    exact hsub (noneNew_of_eq rfl rfl)
  | ackTimeOut needDataSend =>
    refine hsub ?_
    rw [hmac']
    exact noneNew_ackTimeOut
  | ctsTimeOut =>
    rw [handle] at hmac'
    refine hsub ?_
    rw [hmac']
    exact noneNew_ctsTimeOut

/-- If every handler meets its state, every unicast packet taken from the queue is in exactly one
place. -/
theorem accounted (cfg : MacConfig) {tr : List (MacVar × (ℚ × MacEvent))} {mac : MacVar}
    (run : Run (step cfg) start tr mac) (hmeets : ∀ x ∈ tr, x.1.Meets cfg x.2) : mac.Accounted := by
  have hinv : mac.Balanced ∧ (mac.qosList ++ mac.taken).Nodup := by
    refine run.induction (P := fun _ mac => mac.Balanced ∧ (mac.qosList ++ mac.taken).Nodup)
      (Q := Meets cfg) ⟨⟨.inl ⟨rfl, List.not_mem_nil⟩, fun _ _ => rfl⟩, List.nodup_nil⟩ ?_ hmeets
    rintro tr mac ⟨now, event⟩ mac' - ⟨hbal, hnd⟩ hm h
    refine ⟨?_, nodup_step h hnd⟩
    rw [handle_of_step h]
    exact hbal.handle hm
  intro p hp hmulti
  rw [← hinv.1.count p hmulti]
  exact List.count_eq_one_of_mem (List.nodup_append.1 hinv.2).2.1 hp

instance (frames : List Frame) : Decidable (HeadsAlike frames) := by
  unfold HeadsAlike
  infer_instance

instance (cfg : MacConfig) (mac : MacVar) (x : ℚ × MacEvent) : Decidable (mac.Meets cfg x) := by
  unfold Meets
  split <;> infer_instance

instance (mac : MacVar) : Decidable mac.Accounted := by
  unfold Accounted
  infer_instance

/-- Two subframes and a TXOP; the threshold for an RTS is given. -/
def sampleConfig (dot11RTSThreshold : ℕ) : MacConfig :=
  { mediumAccessProtocol := .edcaf
    nNumberOfAggregatedPackets := 2
    dot11RTSThreshold
    dot11ShortRetryLimit := 7
    dot11LongRetryLimit := 4
    minstrel := false
    lifeTime := 100
    txopLimit := 50
    sifs := 1 }

def samplePacket (nPacketId : ℕ) : Packet :=
  { nPacketId, multi := false, dPayload := 1000, dEventTime := 0 }

/-- A packet that waits for a CTS, and is acknowledged. -/
theorem accounted_rts :
    ∃ tr mac, Run (step (sampleConfig 500)) start tr mac ∧ mac.Accounted ∧
      mac.acknowledged = [samplePacket 1] := by
  have hexec : (exec (step (sampleConfig 500)) start
      ([(0, .add (samplePacket 1)), (0, .csmacaInit), (1, .changeState .backingOff true),
        (2, .sendToPhy), (3, .changeState .waitCts true), (4, .cts), (5, .sendToPhy),
        (6, .changeState .waitAck true), (7, .ack)].map fun x _ => some x)).any (fun x =>
      decide (∀ y ∈ x.1, y.1.Meets (sampleConfig 500) y.2) &&
        decide (x.2.acknowledged = [samplePacket 1])) = true := by decide +kernel
  obtain ⟨tr, mac, run, htest⟩ := run_of_exec hexec
  obtain ⟨hmeets, hack⟩ := (Bool.and_eq_true _ _).mp htest
  exact ⟨tr, mac, run, accounted _ run (of_decide_eq_true hmeets), of_decide_eq_true hack⟩

/-- Of two subframes the first is lost. The TXOP goes on with the next packet, and the first two are
on no list any more. -/
theorem not_accounted :
    ∃ tr mac, Run (step (sampleConfig 5000)) start tr mac ∧ ¬ mac.Accounted := by
  have hexec : (exec (step (sampleConfig 5000)) start
      ([(0, .add (samplePacket 1)), (0, .add (samplePacket 2)), (0, .add (samplePacket 3)),
        (0, .csmacaInit), (1, .changeState .backingOff true), (2, .sendToPhy),
        (3, .changeState .waitAck true), (4, .blockAck 2#64)].map fun x _ => some x)).any (fun x =>
      decide (¬ x.2.Accounted)) = true := by decide +kernel
  obtain ⟨tr, mac, run, htest⟩ := run_of_exec hexec
  exact ⟨tr, mac, run, of_decide_eq_true htest⟩

end MacVar

end NetSim.Wlan
