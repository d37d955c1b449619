import NetSim.Tcp.Queue

/-!
# The transmission control block (`TCB.h`, `TCB.c`, `WindowScale.c`, `DelayedAck.c`)

`Conn` is the connection with what it exchanges with the simulator. Two records are for the reader:
`windows`, at every run of `send_segment`, and `closings`, the packets still queued whenever the
connection closed.
-/

namespace NetSim.Tcp

/-- `TCP_CONNECTION_STATE`. -/
inductive TcpState
  | closed | listen | synSent | synReceived | established | finWait1 | finWait2 | closeWait
  | closing | lastAck | timeWait
deriving DecidableEq

structure SndVar where
  UNA : Nat
  NXT : Nat
  WND : Nat
  WL1 : Nat
  WL2 : Nat
deriving DecidableEq

structure RcvVar where
  NXT : Nat
  WND : Nat
deriving DecidableEq

structure SegVar where
  SEQ : Nat
  ACK : Nat
  LEN : Nat
  WND : Nat
deriving DecidableEq

/-- `BIC` of `Congestion.c`. -/
structure Bic where
  lowWindow : Nat
  maxIncrement : Nat
  fastConvergence : Bool
  beta : Rat
  smoothPart : Nat
  cnt : Nat
  lastMaxCwnd : Nat
  lossCwnd : Nat
  lastCwnd : Nat
  lastTime : Nat
  epochStart : Nat
  delayedAck : Nat
  cwndcnt : Nat
deriving DecidableEq

/-- `CUBIC` of `CUBIC.c`. -/
structure Cubic where
  hystartLowWindow : Nat
  hystartAckDelta : Int
  bicScale : Int
  beta : Int
  initialSsthresh : Nat
  cnt : Nat
  lastMaxCwnd : Nat
  lossCwnd : Nat
  lastCwnd : Nat
  lastTime : Nat
  bicOriginPoint : Nat
  bicK : Nat
  delayMin : Nat
  epochStart : Nat
  ackCnt : Nat
  tcpCwnd : Nat
  sampleCnt : Nat
  found : Nat
  roundStart : Nat
  endSeq : Nat
  lastAck : Nat
  currRtt : Nat
  cwndcnt : Nat
deriving DecidableEq

/-- `CONGESTIONVAR`, with the parts of `Congestion.c` and of `CUBIC.c`. -/
structure CongestionVar where
  SMSS : Nat
  RMSS : Nat
  IW : Nat
  LW : Nat
  ssthresh : Nat
  cwnd : Nat
  rwnd : Nat
  lastWinUpdateTime : Nat
  dupAckCount : Nat
  isFastRecovery : Bool
  recover : Nat
  isLossRecoveryPhase : Bool
  bic : Bic
  cubic : Cubic
deriving DecidableEq

structure Tcb where
  tcpState : TcpState
  tcpPrevState : TcpState
  variant : TcpVariant
  SND : SndVar
  ISS : Nat
  RCV : RcvVar
  IRS : Nat
  SEG : SegVar
  retransmissionQueue : TcpQueue
  outOfOrderSegment : TcpQueue
  synRetries : Nat
  congestionData : CongestionVar
  ackType : TcpAckType
  delayedAckTime : Nat
  lastAckSendTime : Nat
  isAckSentLastTime : Bool
  istimewaittimerrestarted : Bool
  isOtherTimerCancel : Bool
  isSackPermitted : Bool
  scoreboard : List SackData
  pipe : Nat
  highRxt : Nat
  rescueRxt : Nat
  isSackOption : Bool
  recoveryPoint : Nat
  sndWindShift : Nat
  rcvWindShift : Nat
  isWindowScaling : Bool
  isTSopt : Bool
  tsVal : Nat
deriving DecidableEq

/-- What a record of `closings` was made at. -/
inductive Closing | fin | finWait1 | lastAck | cancelTimers
deriving DecidableEq

/-- A connection: the socket and its surroundings. -/
structure Conn where
  dev : DevVar
  dEventTime : Nat
  tcb : Tcb
  waitFromApp : Bool
  isAPPClose : Bool
  sId : List AppPacket
  listenCallback : Bool
  network : List Segment
  application : List Segment
  rtoTimeouts : List Segment
  timeWaitTimeouts : Nat
  windows : List (Nat × Nat)
  closings : List (Closing × List Segment)
deriving DecidableEq

/-! ## A new TCB -/

def zeroBic : Bic where
  lowWindow := 0
  maxIncrement := 0
  fastConvergence := false
  beta := 0
  smoothPart := 0
  cnt := 0
  lastMaxCwnd := 0
  lossCwnd := 0
  lastCwnd := 0
  lastTime := 0
  epochStart := 0
  delayedAck := 0
  cwndcnt := 0

def zeroCubic : Cubic where
  hystartLowWindow := 0
  hystartAckDelta := 0
  bicScale := 0
  beta := 0
  initialSsthresh := 0
  cnt := 0
  lastMaxCwnd := 0
  lossCwnd := 0
  lastCwnd := 0
  lastTime := 0
  bicOriginPoint := 0
  bicK := 0
  delayMin := 0
  epochStart := 0
  ackCnt := 0
  tcpCwnd := 0
  sampleCnt := 0
  found := 0
  roundStart := 0
  endSeq := 0
  lastAck := 0
  currRtt := 0
  cwndcnt := 0

def zeroCongestionVar : CongestionVar where
  SMSS := 0
  RMSS := 0
  IW := 0
  LW := 0
  ssthresh := 0
  cwnd := 0
  rwnd := 0
  lastWinUpdateTime := 0
  dupAckCount := 0
  isFastRecovery := false
  recover := 0
  isLossRecoveryPhase := false
  bic := zeroBic
  cubic := zeroCubic

/-- The block that `calloc` returns in `create_TCB`. -/
def zeroTcb : Tcb where
  tcpState := .closed
  tcpPrevState := .closed
  variant := .oldTahoe
  SND := ⟨0, 0, 0, 0, 0⟩
  ISS := 0
  RCV := ⟨0, 0⟩
  IRS := 0
  SEG := ⟨0, 0, 0, 0⟩
  retransmissionQueue := .empty
  outOfOrderSegment := .empty
  synRetries := 0
  congestionData := zeroCongestionVar
  ackType := .undelayed
  delayedAckTime := 0
  lastAckSendTime := 0
  isAckSentLastTime := false
  istimewaittimerrestarted := false
  isOtherTimerCancel := false
  isSackPermitted := false
  scoreboard := []
  pipe := 0
  highRxt := 0
  rescueRxt := 0
  isSackOption := false
  recoveryPoint := 0
  sndWindShift := 0
  rcvWindShift := 0
  isWindowScaling := false
  isTSopt := false
  tsVal := 0

def calculateInitialSeqNum (time : Nat) : Nat := max 1 (u32 (time / 4))

/-- The `(int)` that a `UINT32` turns into. -/
def toInt32 (n : Nat) : Int := if n < 2 ^ 31 then n else n - 2 ^ 32

/-- The `UINT32` that a `double` turns into. -/
def floorU32 (q : Rat) : Nat := u32 q.floor.toNat

/-- `cubictcp_clock` and `tcp_time_stamp`. -/
def cubictcpClock (dEventTime : Nat) : Nat := u32 (dEventTime / 1000)

/-- `bictcp_init`, with `bictcp_reset`. -/
def bictcpInit (dev : DevVar) (bic : Bic) : Bic :=
  { bic with
    cnt := 0, lastMaxCwnd := 0, lastCwnd := 0, lastTime := 0, epochStart := 0
    delayedAck := 2 * 2 ^ 4
    lossCwnd := 0
    lowWindow := dev.lowWindow, maxIncrement := dev.maxIncrement, fastConvergence := true
    beta := dev.beta, smoothPart := dev.smoothPart }

def cubictcpHystartReset (dEventTime sndNxt : Nat) (ca : Cubic) : Cubic :=
  { ca with
    roundStart := cubictcpClock dEventTime, lastAck := cubictcpClock dEventTime
    endSeq := sndNxt, currRtt := 0, sampleCnt := 0 }

/-- `cubictcp_init`, with `cubictcp_reset`. -/
def cubictcpInit (dev : DevVar) (dEventTime sndNxt : Nat) (ca : Cubic) : Cubic :=
  cubictcpHystartReset dEventTime sndNxt
    { ca with
      cnt := 0, lastMaxCwnd := 0, lastCwnd := 0, lastTime := 0, bicOriginPoint := 0, bicK := 0
      delayMin := 0, epochStart := 0, ackCnt := 0, tcpCwnd := 0, found := 0
      lossCwnd := 0
      hystartAckDelta := toInt32 dev.hystartAckDelta, hystartLowWindow := dev.hystartLowWindow
      beta := dev.beta.floor, bicScale := toInt32 dev.bicScale
      initialSsthresh := dev.initSSThresh.toNat }

namespace Tcb

/-- The 16 bits of `n` that `set_ssthres` stores. -/
def setSsthres (t : Tcb) (n : Nat) : Tcb :=
  { t with congestionData := { t.congestionData with
      ssthresh := if t.isWindowScaling then u16 (n >>> t.sndWindShift) else u16 n } }

/-- `init_congestion` and `init_cubic`. -/
def initCongestion (dev : DevVar) (dEventTime : Nat) (t : Tcb) : Tcb :=
  let t := { t with congestionData := { t.congestionData with
    SMSS := dev.mss.toNat, RMSS := dev.mss.toNat } }
  let t := t.setSsthres dev.initSSThresh.toNat
  { t with congestionData := { t.congestionData with
      cwnd := t.congestionData.ssthresh
      rwnd := t.congestionData.ssthresh
      recover := if t.variant = .newReno then t.ISS else t.congestionData.recover
      bic := if t.variant = .bic then bictcpInit dev t.congestionData.bic
        else t.congestionData.bic
      cubic := if t.variant = .cubic then
          cubictcpInit dev dEventTime t.SND.NXT t.congestionData.cubic
        else t.congestionData.cubic } }

/-- `congestion_get_MSS`. -/
def getMSS (t : Tcb) : Nat := t.congestionData.SMSS

/-- `congestion_get_WND`. -/
def getWND (t : Tcb) : Nat := t.congestionData.cwnd

/-- `create_TCB`. `init_congestionalgo` runs twice, before and after the window scaling is set. -/
def create (dev : DevVar) (dEventTime : Nat) : Tcb :=
  let t := ({ zeroTcb with variant := dev.tcpVariant }).initCongestion dev dEventTime
  let t := { t with
    ackType := dev.ackType
    delayedAckTime := dev.dDelayedAckTime
    isAckSentLastTime := false
    isSackPermitted := dev.isSackPermitted
    isWindowScaling := dev.isWindowScaling
    sndWindShift := if dev.isWindowScaling then dev.shiftCount.toNat else 0
    rcvWindShift := if dev.isWindowScaling then dev.shiftCount.toNat else 0
    isTSopt := dev.isTimestampOpt
    ISS := calculateInitialSeqNum dEventTime }
  let t := { t with SND.WND := t.getWND, RCV.WND := t.getWND }
  t.initCongestion dev dEventTime

def changeState (t : Tcb) (state : TcpState) : Tcb :=
  if t.tcpState = state then t else { t with tcpPrevState := t.tcpState, tcpState := state }

theorem changeState_eq (t : Tcb) (state : TcpState) :
    ∃ prev, t.changeState state = { t with tcpState := state, tcpPrevState := prev } := by
  unfold changeState
  split
  · next h => exact ⟨t.tcpPrevState, by rw [← h]⟩
  · exact ⟨t.tcpState, rfl⟩

/-- `set_window_scaling`, on the option of a SYN. -/
def setWindowScaling (t : Tcb) (opt : Option UInt8) : Tcb :=
  match opt, t.isWindowScaling with
  | some shiftCnt, true =>
    { t with
      sndWindShift := min t.sndWindShift shiftCnt.toNat
      rcvWindShift := min t.rcvWindShift shiftCnt.toNat }
  | _, _ => { t with isWindowScaling := false, sndWindShift := 0, rcvWindShift := 0 }

def getShiftCount (t : Tcb) : Nat := if t.isWindowScaling then t.sndWindShift else 0

def windowScaleGetCwnd (t : Tcb) : Nat :=
  if t.isWindowScaling then u32 (t.getWND <<< t.sndWindShift) else t.getWND

def windowScaleGetWnd (t : Tcb) : Nat :=
  if t.isWindowScaling then u16 (t.SND.WND >>> t.sndWindShift) else u16 t.SND.WND

/-- `set_timestamp_value`, on the option of a segment whose SYN bit is `syn`. -/
def setTimestampValue (t : Tcb) (syn : Bool) (opt : Option Nat) : Tcb :=
  let t := if syn then { t with isTSopt := opt.isSome && t.isTSopt } else t
  match opt with
  | some tsVal => if t.isTSopt then { t with tsVal := tsVal } else t
  | none => t

def updateSeqNumOnReceiving (t : Tcb) (p : Segment) : Tcb :=
  { t with SEG := { SEQ := p.seqNum, ACK := p.ackNum, LEN := p.segLen, WND := p.window } }

def updateSendWindow (t : Tcb) : Tcb :=
  { t with SND := { t.SND with WND := t.SEG.WND, WL1 := t.SEG.SEQ, WL2 := t.SEG.ACK } }

end Tcb

namespace Conn

def mapTcb (s : Conn) (f : Tcb → Tcb) : Conn := { s with tcb := f s.tcb }

def queued (s : Conn) : List Segment := s.tcb.retransmissionQueue.segments

/-- A record in `closings`. -/
def record (s : Conn) (c : Closing) : Conn := { s with closings := s.closings ++ [(c, s.queued)] }

/-- `tcp_change_state` on the socket. -/
def changeState (s : Conn) (state : TcpState) : Conn :=
  let s := s.mapTcb (·.changeState state)
  match state with
  | .finWait1 => s.record .finWait1
  | .lastAck => s.record .lastAck
  | _ => s

/-- What `tcp_change_state` records. -/
def closingsOf (s : Conn) (state : TcpState) : List (Closing × List Segment) :=
  match state with
  | .finWait1 => [(.finWait1, s.queued)]
  | .lastAck => [(.lastAck, s.queued)]
  | _ => []

theorem changeState_eq (s : Conn) (state : TcpState) :
    ∃ prev, s.changeState state = { s with
      tcb := { s.tcb with tcpState := state, tcpPrevState := prev }
      closings := s.closings ++ s.closingsOf state } := by
  obtain ⟨prev, hprev⟩ := s.tcb.changeState_eq state
  refine ⟨prev, ?_⟩
  have htcb : s.mapTcb (·.changeState state) =
      { s with tcb := { s.tcb with tcpState := state, tcpPrevState := prev } } := by
    rw [← hprev]
    rfl
  unfold changeState closingsOf
  rw [htcb]
  cases state
  case finWait1 | lastAck => rfl
  all_goals simp

@[simp] theorem tcpState_changeState (s : Conn) (state : TcpState) :
    (s.changeState state).tcb.tcpState = state := by
  obtain ⟨prev, h⟩ := s.changeState_eq state
  rw [h]

/-- `isOtherTimerCancel = true`. -/
def cancelOtherTimers (s : Conn) : Conn :=
  (s.mapTcb fun t => { t with isOtherTimerCancel := true }).record .cancelTimers

def sendAckOrNot (s : Conn) : Bool × Conn :=
  let t := s.tcb
  match t.ackType with
  | .undelayed => (true, s)
  | .delayed =>
    if t.lastAckSendTime + t.delayedAckTime ≤ s.dEventTime then
      (true, s.mapTcb fun t => { t with lastAckSendTime := s.dEventTime, isAckSentLastTime := true })
    else if t.isAckSentLastTime then
      (false, s.mapTcb fun t => { t with isAckSentLastTime := false })
    else
      (true, s.mapTcb fun t => { t with lastAckSendTime := s.dEventTime, isAckSentLastTime := true })

end Conn

end NetSim.Tcp
