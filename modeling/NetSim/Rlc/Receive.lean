import NetSim.Rlc.Pdu
import NetSim.Lib.KeyedList
import NetSim.Lib.Run

/-!
# The receiving side of an AM entity (`LTENR_RLC_AM.c`, `LTENR_RLC.h`)

`ReceivingEntity` has the receiving half of `LTENR_RLCENTITY`, what it hands on, and two records for
the reader: the SNs given up, and what had been received at every status PDU. The lists of `List.h`
are Lean lists.
-/

namespace NetSim.Rlc

open NetSim.Lib NetSim.Tcp

structure ReceptionBuffer where
  reassembleCount : Nat
  SN : Nat
  lastSDUSO : Nat
  isLastSDUReceived : Bool
  packets : List AmdPdu
deriving DecidableEq

structure AmStatus where
  si : SI
  SN : Nat
  SO : Nat
deriving DecidableEq

structure Delivery where
  SN : Nat
  nPacketId : Nat
  dPayload : Nat
deriving DecidableEq

/-- A status PDU with the SNs delivered and the segments in the buffers when it was built. -/
structure Report where
  pdu : StatusPdu
  delivered : List Nat
  held : List AmdPdu
deriving DecidableEq

/-- The receiving half of `LTENR_RLCENTITY`. -/
structure ReceivingEntity where
  RX_Next : Nat
  RX_Next_Status_Trigger : Nat
  RX_Highest_Status : Nat
  RX_Next_Highest : Nat
  receptionBuffer : List ReceptionBuffer
  isStatusReportDelayed : Bool
  isConstructStatusReortDelayed : Bool
  recvdInfo : List AmStatus
  isReassemblyTimerStarted : Bool
  isStatusProhibitTimerStarted : Bool
  maxRetxThreshold : Nat
  pdcp : List Delivery
  abandoned : List Nat
  reports : List Report
deriving DecidableEq

namespace ReceptionBuffer

/-- A buffer as `LTENR_RLCAM_CREATERECEPTIONBUFFER` leaves it. -/
def create (sn : Nat) : ReceptionBuffer :=
  { reassembleCount := 0, SN := sn, lastSDUSO := 0, isLastSDUReceived := false, packets := [] }

/-- `LTENR_RLCAM_AddToReceptionBuffer`. -/
def add (b : ReceptionBuffer) (p : AmdPdu) : ReceptionBuffer :=
  { b with
    packets := b.packets ++ [p]
    isLastSDUReceived := p.si.isEnd || b.isLastSDUReceived
    lastSDUSO := if p.si.isEnd then p.SO else b.lastSDUSO }

/-- `LTENR_RLCAM_isAllByteSegmentReceived`. No segment comes after the last one. -/
def isAllByteSegmentReceived (b : ReceptionBuffer) : Bool :=
  b.isLastSDUReceived && (List.range b.lastSDUSO).all fun i => b.packets.any (·.SO = i)

/-- `LTENR_RLCAM_ReassembleAllBytes`. The head is there whenever a PDU has been added. -/
def reassembleAllBytes (b : ReceptionBuffer) : Delivery where
  SN := b.SN
  nPacketId := (b.packets.head?.map AmdPdu.nPacketId).getD 0
  dPayload := (b.packets.map AmdPdu.dPayload).sum

end ReceptionBuffer

namespace ReceivingEntity

/-- An entity as `LTENR_RLC_ESTABLISHENTITY` leaves it. -/
def establish (maxRetxThreshold : Nat) : ReceivingEntity where
  RX_Next := 0
  RX_Next_Status_Trigger := 0
  RX_Highest_Status := 0
  RX_Next_Highest := 0
  receptionBuffer := []
  isStatusReportDelayed := false
  isConstructStatusReortDelayed := false
  recvdInfo := []
  isReassemblyTimerStarted := false
  isStatusProhibitTimerStarted := false
  maxRetxThreshold := maxRetxThreshold
  pdcp := []
  abandoned := []
  reports := []

def isSNFallsInReceivingWindow (s : ReceivingEntity) (sn : Nat) : Bool :=
  s.RX_Next ≤ sn && sn < u32 (s.RX_Next + amWindowSize)

/-! ## The reception buffers -/

def findReceptionBuffer (s : ReceivingEntity) (sn : Nat) : Option ReceptionBuffer :=
  lookup ReceptionBuffer.SN sn s.receptionBuffer

def isPDUPresentInReceptionBuffer (s : ReceivingEntity) (sn so : Nat) : Bool :=
  match s.findReceptionBuffer sn with
  | none => false
  | some b => b.packets.any (·.SO = so)

def isAllBytesReceivedForSN (s : ReceivingEntity) (sn : Nat) : Bool :=
  match s.findReceptionBuffer sn with
  | none => true
  | some b => b.isAllByteSegmentReceived

def updateRXHighestStatus (s : ReceivingEntity) : Nat :=
  if s.receptionBuffer = [] then s.RX_Next_Highest
  else (s.receptionBuffer.map ReceptionBuffer.SN).foldl max 0

def updateRxNext (s : ReceivingEntity) : Nat :=
  if s.receptionBuffer = [] then s.RX_Next_Highest
  else (s.receptionBuffer.map ReceptionBuffer.SN).foldl min (2 ^ 32 - 1)

/-- `LTENR_RLCAM_Start_t_ReassemblyTimer`. -/
def startReassemblyTimer (s : ReceivingEntity) : ReceivingEntity :=
  { s with isReassemblyTimerStarted := true }

/-- `LTENR_RLCAM_Stop_t_ReassemblyTimer`. -/
def stopReassemblyTimer (s : ReceivingEntity) : ReceivingEntity :=
  { s with isReassemblyTimerStarted := false }

/-- The buffer of `LTENR_RLCAM_PLACE_AMDPDU_IN_RECEPTIONBUFFER`, with the PDU. -/
def filled (s : ReceivingEntity) (p : AmdPdu) : ReceptionBuffer :=
  ((s.findReceptionBuffer p.SN).getD (.create p.SN)).add p

/-- The part of `LTENR_RLCAM_PLACE_AMDPDU_IN_RECEPTIONBUFFER` up to the test of the buffer. -/
def place (s : ReceivingEntity) (p : AmdPdu) : ReceivingEntity :=
  { s with
    receptionBuffer :=
      match s.findReceptionBuffer p.SN with
      | none => s.receptionBuffer ++ [s.filled p]
      | some _ => modifyFirst ReceptionBuffer.SN p.SN (·.add p) s.receptionBuffer
    recvdInfo := s.recvdInfo ++ [⟨p.si, p.SN, p.SO⟩]
    RX_Next_Highest := if s.RX_Next_Highest ≤ p.SN then u32 (p.SN + 1) else s.RX_Next_Highest }

def deliver (s : ReceivingEntity) (b : ReceptionBuffer) : ReceivingEntity :=
  let s := { s with receptionBuffer := eraseFirst ReceptionBuffer.SN b.SN s.receptionBuffer }
  let s := { s with RX_Highest_Status := s.updateRXHighestStatus }
  let s := { s with RX_Next := s.updateRxNext }
  { s with pdcp := s.pdcp ++ [b.reassembleAllBytes] }

/-- The test on the reassembly timer, against the state variable `rx`. -/
def hasGapAbove (s : ReceivingEntity) (rx : Nat) : Bool :=
  u32 (rx + 1) < s.RX_Next_Highest ||
    (s.RX_Next_Highest = u32 (rx + 1) && !s.isAllBytesReceivedForSN rx)

def updateReassemblyTimer (s : ReceivingEntity) : ReceivingEntity :=
  let s :=
    if s.isReassemblyTimerStarted && (s.RX_Next_Status_Trigger = s.RX_Next ||
        (s.RX_Next_Status_Trigger = u32 (s.RX_Next + 1) && s.isAllBytesReceivedForSN s.RX_Next) ||
        (!s.isSNFallsInReceivingWindow s.RX_Next_Status_Trigger &&
          s.RX_Next_Status_Trigger ≠ u32 (s.RX_Next + amWindowSize))) then
      s.stopReassemblyTimer
    else s
  if !s.isReassemblyTimerStarted && s.hasGapAbove s.RX_Next then
    { s.startReassemblyTimer with RX_Next_Status_Trigger := s.RX_Next_Highest }
  else s

def placeAmdPduInReceptionBuffer (s : ReceivingEntity) (p : AmdPdu) : ReceivingEntity :=
  let b := s.filled p
  let s := s.place p
  let s := if b.isAllByteSegmentReceived then s.deliver b else s
  s.updateReassemblyTimer

/-- The reception buffers that `LTENR_RLCAM_UpdateReceptionBuffer` gives up. -/
def expired (s : ReceivingEntity) : List ReceptionBuffer :=
  s.receptionBuffer.filter fun b => s.maxRetxThreshold < b.reassembleCount

/-- `LTENR_RLCAM_UpdateReceptionBuffer`, with `LTENR_RLCAM_ClearReceivedInfo`. -/
def updateReceptionBuffer (s : ReceivingEntity) : ReceivingEntity :=
  { s with
    receptionBuffer := s.receptionBuffer.filter fun b => ¬ s.maxRetxThreshold < b.reassembleCount
    recvdInfo := s.recvdInfo.filter fun st => st.SN ∉ s.expired.map ReceptionBuffer.SN
    abandoned := s.abandoned ++ s.expired.map ReceptionBuffer.SN }

def increaseReassembleCount (s : ReceivingEntity) : ReceivingEntity :=
  { s with receptionBuffer := s.receptionBuffer.map fun b =>
      if b.SN ≤ s.RX_Highest_Status then { b with reassembleCount := u32 (b.reassembleCount + 1) }
      else b }

/-! ## Status PDUs -/

/-- The update of `ret` in `LTENR_RLCAM_FindLastStatusInfo`. -/
def higherOffset (ret : Option AmStatus) (st : AmStatus) : Option AmStatus :=
  match ret with
  | none => some st
  | some r => if r.SO < st.SO then some st else some r

/-- `LTENR_RLCAM_FindLastStatusInfo`: the first record of a last segment, or else the record with
the highest offset. -/
def findLastStatusInfo (s : ReceivingEntity) (sn : Nat) : Option AmStatus :=
  let l := s.recvdInfo.filter fun st => st.SN = sn
  match l.find? fun st => st.si.isEnd with
  | some st => some st
  | none => l.foldl higherOffset none

def findStatus (s : ReceivingEntity) (sn so : Nat) : Option AmStatus :=
  s.recvdInfo.find? fun st => st.SN = sn && st.SO = so

def deleteFromStatusInfo (s : ReceivingEntity) : ReceivingEntity :=
  { s with recvdInfo := s.recvdInfo.filter fun st => ¬ st.SN < s.RX_Next }

/-- `LTENR_RLCAM_StatusPdu_NewNack`. -/
def newNack (si : SI) (sn so : Nat) : Nack :=
  if si = .all then
    { NAck_SN := sn, E2 := false, E3 := false, soStart := 0, soEnd := 0, NAckRange := 0 }
  else { NAck_SN := sn, E2 := true, E3 := false, soStart := so, soEnd := so, NAckRange := 0 }

/-- `LTENR_RLCAM_StatusPdu_UpdateNackTail`, on a tail that is there. -/
def updateNackTail (nack : Nack) (si : SI) (sn so : Nat) : Option Nack :=
  if si = .all then
    if nack.E3 then
      if u32 (nack.NAck_SN + nack.NAckRange) = sn then
        some { nack with NAckRange := u8 (nack.NAckRange + 1) }
      else none
    else if !nack.E2 then
      if u32 (nack.NAck_SN + 1) = sn then some { nack with E3 := true, NAckRange := 2 } else none
    else none
  else if nack.NAck_SN = sn && nack.E2 then
    if nack.soEnd + 1 = so then some { nack with soEnd := so } else none
  else none

/-- `LTENR_RLCAM_STATUSPDU_AddNack`, on the NACKs of the PDU with `nackTail` in front. -/
def addNack (nacks : List Nack) (si : SI) (sn so : Nat) : List Nack :=
  match nacks with
  | [] => [newNack si sn so]
  | tail :: rest =>
    match updateNackTail tail si sn so with
    | some tail => tail :: rest
    | none => newNack si sn so :: tail :: rest

/-- One round of the loop of `LTENR_RLCAM_UpdateStatus` over the segments of an SDU. -/
def nackSegment (s : ReceivingEntity) (sn : Nat) (nacks : List Nack) (so : Nat) : List Nack :=
  if s.findStatus sn so = none then addNack nacks .middle sn so else nacks

/-- The loop of `LTENR_RLCAM_UpdateStatus` over the segments of an SDU. -/
def nackSegments (s : ReceivingEntity) (sn maxSO : Nat) (nacks : List Nack) : List Nack :=
  (List.range (maxSO + 1)).foldl (s.nackSegment sn) nacks

/-- One round of the loop of `LTENR_RLCAM_UpdateStatus`. -/
def nackSn (s : ReceivingEntity) (nacks : List Nack) (sn : Nat) : List Nack :=
  match s.findLastStatusInfo sn with
  | none => addNack nacks .all sn 0
  | some st => if st.si = .all then nacks else s.nackSegments sn st.SO nacks

/-- The NACKs of `LTENR_RLCAM_UpdateStatus`, with `nackTail` in front. -/
def updateStatus (s : ReceivingEntity) : List Nack :=
  (List.range' s.RX_Next (s.RX_Next_Highest - s.RX_Next)).foldl s.nackSn []

def held (s : ReceivingEntity) : List AmdPdu := s.receptionBuffer.flatMap ReceptionBuffer.packets

def constructStatusPdu (s : ReceivingEntity) : ReceivingEntity :=
  { s.deleteFromStatusInfo with
    reports := s.reports ++ [{
      pdu := { Ack_SN := s.RX_Next_Highest, nacks := s.updateStatus.reverse }
      delivered := s.pdcp.map Delivery.SN
      held := s.held }] }

def triggerStatusReport (s : ReceivingEntity) : ReceivingEntity :=
  if s.isStatusProhibitTimerStarted then { s with isConstructStatusReortDelayed := true }
  else s.constructStatusPdu

def initiateToTriggerStatusReport (s : ReceivingEntity) (x : Nat) : ReceivingEntity :=
  if x < s.RX_Next_Highest || u32 (s.RX_Next + amWindowSize) ≤ x then
    { s with isStatusReportDelayed := false }.triggerStatusReport
  else { s with isStatusReportDelayed := true }

/-! ## Events -/

/-- `LTENR_RLC_AM_RECEIVE_PDU` places the PDU in a reception buffer. -/
def accepts (s : ReceivingEntity) (p : AmdPdu) : Bool :=
  s.isSNFallsInReceivingWindow p.SN && !s.isPDUPresentInReceptionBuffer p.SN p.SO

def receivePdu (s : ReceivingEntity) (p : AmdPdu) : ReceivingEntity :=
  if s.accepts p then
    let s := s.placeAmdPduInReceptionBuffer p
    if p.P || s.isStatusReportDelayed then s.initiateToTriggerStatusReport p.SN else s
  else s

/-- `LTENR_RLCAM_Handle_t_reassemblyTimer`. -/
def handleReassemblyTimer (s : ReceivingEntity) : ReceivingEntity :=
  let s := s.stopReassemblyTimer.updateReceptionBuffer
  let s := { s with RX_Highest_Status := s.updateRXHighestStatus }
  let s := { s with RX_Next := s.updateRxNext }
  let s :=
    if s.hasGapAbove s.RX_Highest_Status then
      { s.startReassemblyTimer with RX_Next_Status_Trigger := s.RX_Next_Highest }
    else s
  s.triggerStatusReport.increaseReassembleCount

/-- `LTENR_RLCAM_Handle_t_StatusProhibitTimer`. -/
def handleStatusProhibitTimer (s : ReceivingEntity) : ReceivingEntity :=
  let s := { s with isStatusProhibitTimerStarted := false }
  if s.isConstructStatusReortDelayed then
    { s with isConstructStatusReortDelayed := false }.constructStatusPdu
  else s

end ReceivingEntity

/-- What happens to the receiving side of an entity. -/
inductive RxEvent
  | pdu (p : AmdPdu)
  /-- `LTENR_SUBEVNT_RLC_TREASSEMBLYTIMER`. -/
  | reassemblyTimeout
  /-- `LTENR_SUBEVNT_RLC_TSTATUSPROHIBITTIMER`. -/
  | statusProhibitTimeout
deriving DecidableEq

/-- One event. A timer expires only after it has been started; nothing starts the status prohibit
timer. -/
def ReceivingEntity.step (s : ReceivingEntity) : RxEvent → Option ReceivingEntity
  | .pdu p => some (s.receivePdu p)
  | .reassemblyTimeout =>
    if s.isReassemblyTimerStarted then some s.handleReassemblyTimer else none
  | .statusProhibitTimeout =>
    if s.isStatusProhibitTimerStarted then some s.handleStatusProhibitTimer else none

end NetSim.Rlc
