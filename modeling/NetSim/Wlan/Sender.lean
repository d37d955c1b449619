import NetSim.Lib.Run
import NetSim.Wlan.BlockAck

/-!
# The sending side of the MAC

A packet is held in `currentProcessingPacket` until it is acknowledged, and replaced there by an RTS
while it waits for a CTS. Acknowledgments and timeouts may come in any order.
-/

namespace NetSim.Wlan

inductive MediumAccessProtocol
  | dcf
  | edcaf
deriving DecidableEq

inductive MacState
  | macIdle
  | wfNav
  | waitDifs
  | waitAifs
  | backingOff
  | txingMpdu
  | txingBroadcast
  | waitAck
  | waitBlockAck
  | txingAck
  | txingRts
  | waitCts
  | txingCts
  | waitData
deriving DecidableEq

/-- A packet of the upper layer. `multi` is set for a broadcast or multicast packet. -/
structure Packet where
  nPacketId : ℕ
  multi : Bool
  dPayload : ℕ
  dEventTime : ℚ
deriving DecidableEq

/-- What the MAC sends: an RTS of its own, or a packet. -/
inductive Frame
  | rts
  | data (packet : Packet)
deriving DecidableEq

/-- What is configured. The lifetime is that of `MSDULifeTime` time units. -/
structure MacConfig where
  mediumAccessProtocol : MediumAccessProtocol
  nNumberOfAggregatedPackets : ℕ
  dot11RTSThreshold : ℕ
  dot11ShortRetryLimit : ℕ
  dot11LongRetryLimit : ℕ
  minstrel : Bool
  lifeTime : ℚ
  txopLimit : ℚ
  sifs : ℚ

structure MacVar where
  qosList : List Packet
  currentProcessingPacket : List Frame
  waitingforCTS : List Frame
  currMacState : MacState
  /-- `radioState` is `RX_ON_IDLE`. -/
  radioIdle : Bool
  nRetryCount : ℕ
  txopTime : ℚ
  /-- The packets that `get_from_queue` has returned. -/
  taken : List Packet
  /-- The packets whose `ReceiveAckNotification` was called. -/
  acknowledged : List Packet
  /-- The packets whose `DropNotification` was called. -/
  dropped : List Packet
  failed : Bool

def packetsOf (frames : List Frame) : List Packet :=
  frames.filterMap fun
    | .data packet => some packet
    | .rts => none

def isMulti : Frame → Bool
  | .data packet => packet.multi
  | .rts => false

def payload : Frame → ℕ
  | .data packet => packet.dPayload
  | .rts => 0

/-- The loop of `fn_NetSim_IEEE802_11e_GetPacketFromQueue`. What has outlived its lifetime is freed.
-/
def getPacketsFromQueue (cfg : MacConfig) (now : ℚ) : ℕ → List Packet → List Packet × List Packet
  | 0, list => ([], list)
  | _ + 1, [] => ([], [])
  | n + 1, t :: list =>
    if cfg.mediumAccessProtocol = .edcaf ∧ t.dEventTime + cfg.lifeTime < now then
      getPacketsFromQueue cfg now (n + 1) list
    else
      let r := getPacketsFromQueue cfg now n list
      (t :: r.1, r.2)

namespace MacVar

variable (cfg : MacConfig)

/-- `get_from_queue`, with the packets noted down. -/
def getFromQueue (mac : MacVar) (now : ℚ) : List Packet × MacVar :=
  let r := getPacketsFromQueue cfg now cfg.nNumberOfAggregatedPackets mac.qosList
  (r.1, { mac with qosList := r.2, taken := r.1 ++ mac.taken })

def decideRtsCtsMechanism (mac : MacVar) : Bool :=
  match mac.currentProcessingPacket with
  | [] => false
  | .rts :: _ => false
  | .data packet :: rest =>
    !packet.multi && decide (cfg.dot11RTSThreshold ≤ ((Frame.data packet :: rest).map payload).sum)

def rtsCtsInit (mac : MacVar) : MacVar :=
  if mac.decideRtsCtsMechanism cfg then
    { mac with waitingforCTS := mac.currentProcessingPacket, currentProcessingPacket := [.rts] }
  else mac

def csmacaInit (mac : MacVar) (now : ℚ) : MacVar :=
  if mac.currMacState = .macIdle ∧ mac.radioIdle then
    if mac.currentProcessingPacket ≠ [] then mac.rtsCtsInit cfg
    else
      let r := mac.getFromQueue cfg now
      if r.1 = [] then r.2
      else { r.2 with currentProcessingPacket := r.1.map .data }.rtsCtsInit cfg
  else mac

def setTxopTime (mac : MacVar) (now : ℚ) : MacVar :=
  if cfg.mediumAccessProtocol = .edcaf ∧ mac.txopTime ≤ 0 then
    { mac with txopTime := cfg.txopLimit + now }
  else mac

def unsetTxopTime (mac : MacVar) : MacVar :=
  if cfg.mediumAccessProtocol = .edcaf then { mac with txopTime := 0 } else mac

def isTxopTimerSet (mac : MacVar) (now : ℚ) : Bool :=
  decide (cfg.mediumAccessProtocol = .edcaf) && decide (cfg.sifs < mac.txopTime - now)

def stateForTx : Frame → MacState
  | .rts => .txingRts
  | .data packet => if packet.multi then .txingBroadcast else .txingMpdu

/-- `fn_NetSim_IEEE802_11_SendToPhy`. A copy goes out, or the list itself if its first packet is a
broadcast. -/
def sendToPhy (mac : MacVar) (now : ℚ) : MacVar :=
  match mac.currentProcessingPacket with
  | [] => mac
  | p :: _ =>
    let mac := { mac with currMacState := stateForTx p }.setTxopTime cfg now
    if isMulti p then { mac with currentProcessingPacket := [] } else mac

def macReInit (mac : MacVar) (now : ℚ) : MacVar :=
  { mac with nRetryCount := 0 }.csmacaInit cfg now

/-- The second half of the handlers of an acknowledgment: another list is sent while the TXOP lasts.
-/
def afterAck (mac : MacVar) (now : ℚ) : MacVar :=
  let mac := { mac with currMacState := .macIdle }
  if mac.isTxopTimerSet cfg now then
    let r := mac.getFromQueue cfg now
    if r.1 = [] then r.2.unsetTxopTime cfg
    else { r.2 with currentProcessingPacket := r.1.map .data }.sendToPhy cfg now
  else (mac.unsetTxopTime cfg).macReInit cfg now

def processAck (mac : MacVar) (now : ℚ) : MacVar :=
  { mac with
    acknowledged := packetsOf mac.currentProcessingPacket ++ mac.acknowledged
    currentProcessingPacket := [] }.afterAck cfg now

def processBlockAck (mac : MacVar) (bitMap : BitVec 64) (now : ℚ) : MacVar :=
  let r := Wlan.processBlockAck bitMap mac.currentProcessingPacket
  { mac with
    acknowledged := packetsOf r.1 ++ mac.acknowledged
    currentProcessingPacket := r.2 }.afterAck cfg now

/-- `fn_NetSim_IEEE802_11_CSMACA_CheckRetryLimit`, on unsigned counters. -/
def checkRetryLimit (mac : MacVar) (frameLength : ℕ) : Bool :=
  let limit := if frameLength ≤ cfg.dot11RTSThreshold then cfg.dot11ShortRetryLimit
    else cfg.dot11LongRetryLimit
  decide (mac.nRetryCount < (limit + (2 ^ 32 - 1)) % 2 ^ 32)

/-- `fn_NetSim_IEEE802_11_CSMA_AckTimeOut`. `needDataSend` is what `Minstrel_DoNeedDataSend`
returns. -/
def ackTimeOut (mac : MacVar) (needDataSend : Bool) (now : ℚ) : MacVar :=
  if mac.currMacState = .waitAck ∨ mac.currMacState = .txingMpdu then
    match mac.currentProcessingPacket with
    | [] => { mac with failed := true }
    | p :: _ =>
      let mac := { mac with currMacState := .macIdle }.unsetTxopTime cfg
      let isRetry := if cfg.minstrel then needDataSend else mac.checkRetryLimit cfg (payload p)
      if isRetry then { mac with nRetryCount := mac.nRetryCount + 1 }.csmacaInit cfg now
      else
        { mac with
          dropped := packetsOf [p] ++ mac.dropped
          currentProcessingPacket := []
          nRetryCount := 0 }.csmacaInit cfg now
  else mac

def ctsTimeOut (mac : MacVar) (now : ℚ) : MacVar :=
  let mac := { mac with currMacState := .macIdle }
  if mac.checkRetryLimit cfg 1 then
    { mac with nRetryCount := mac.nRetryCount + 1 }.csmacaInit cfg now
  else
    match mac.waitingforCTS with
    | [] => { mac with nRetryCount := 0 }.csmacaInit cfg now
    | p :: _ =>
      { mac with
        dropped := packetsOf [p] ++ mac.dropped
        currentProcessingPacket := []
        waitingforCTS := []
        nRetryCount := 0 }.csmacaInit cfg now

def processCts (mac : MacVar) : MacVar :=
  { mac with
    currentProcessingPacket := mac.waitingforCTS
    waitingforCTS := []
    currMacState := .txingMpdu
    failed := decide (mac.waitingforCTS = []) }

end MacVar

/-- What can happen to the MAC. -/
inductive MacEvent
  | add (packet : Packet)
  | changeState (state : MacState) (radioIdle : Bool)
  | csmacaInit
  | sendToPhy
  | ack
  | blockAck (bitMap : BitVec 64)
  | cts
  | ackTimeOut (needDataSend : Bool)
  | ctsTimeOut

namespace MacVar

def start : MacVar :=
  { qosList := []
    currentProcessingPacket := []
    waitingforCTS := []
    currMacState := .macIdle
    radioIdle := true
    nRetryCount := 0
    txopTime := 0
    taken := []
    acknowledged := []
    dropped := []
    failed := false }

def handle (cfg : MacConfig) (mac : MacVar) (now : ℚ) : MacEvent → MacVar
  | .add packet => { mac with qosList := mac.qosList ++ [packet] }
  | .changeState state radioIdle => { mac with currMacState := state, radioIdle := radioIdle }
  | .csmacaInit => mac.csmacaInit cfg now
  | .sendToPhy => mac.sendToPhy cfg now
  | .ack => mac.processAck cfg now
  | .blockAck bitMap => mac.processBlockAck cfg bitMap now
  | .cts => mac.processCts
  | .ackTimeOut needDataSend => mac.ackTimeOut cfg needDataSend now
  | .ctsTimeOut => mac.ctsTimeOut cfg now

/-- One step, at any time. A packet that is added is not one the MAC has had before. -/
def step (cfg : MacConfig) (mac : MacVar) (x : ℚ × MacEvent) : Option MacVar :=
  if mac.failed then none
  else
    match x.2 with
    | .add packet =>
      if packet ∈ mac.taken ∨ packet ∈ mac.qosList then none else some (mac.handle cfg x.1 x.2)
    | event => some (mac.handle cfg x.1 event)

end MacVar

end NetSim.Wlan
