import NetSim.Tcp.Congestion

/-!
# CUBIC (`CUBIC.c`)

The functions of `CUBIC.c` that differ from those of `Congestion.c`: its `set_cwnd` does not keep
the window above zero, and its `increase_cwnd` does not saturate when the window is scaled.
-/

namespace NetSim.Tcp

/-- `HZ`. -/
def cubicHZ : Nat := 1024

def bictcpBetaScale : Nat := 1024

def hystartMinSamples : Nat := 8

def hystartDelayThresh (x : Nat) : Nat := min (max x (4 * 2 ^ 3)) (16 * 2 ^ 3)

/-- The table of `cubic_root`. -/
def cubicRootTable : List Nat :=
  [0, 54, 54, 54, 118, 118, 118, 118, 123, 129, 134, 138, 143, 147, 151, 156, 157, 161, 164, 168,
    170, 173, 176, 179, 181, 185, 187, 190, 192, 194, 197, 199, 200, 202, 204, 206, 209, 211, 213,
    215, 217, 219, 221, 222, 224, 225, 227, 229, 231, 232, 234, 236, 237, 239, 240, 242, 244, 245,
    246, 248, 250, 251, 252, 254]

/-- `cubic_root`. `count_bit` is 0 for every `a`, so the table is always read at `a` itself. -/
def cubicRoot (a : Nat) : Nat := (cubicRootTable.getD (u32 a) 0 + 35) >>> 6

/-- `beta_scale`, computed by `init_cubic`. -/
def betaScale (ca : Cubic) : Nat :=
  (((8 * (bictcpBetaScale + ca.beta)).tdiv 3).tdiv (bictcpBetaScale - ca.beta) % 2 ^ 32).toNat

/-- `cube_rtt_scale`, computed by `init_cubic`. -/
def cubeRttScale (ca : Cubic) : Nat := (ca.bicScale * 10 % 2 ^ 32).toNat

/-- `cube_factor`, computed by `init_cubic`: the cast of `2 ^ 40` to `UINT32` leaves 0. -/
def cubeFactor (ca : Cubic) : Nat := u32 (2 ^ (10 + 3 * 10)) / cubeRttScale ca

namespace Tcb

/-- `set_cwnd` of `CUBIC.c`. -/
def cubicSetCwnd (t : Tcb) (newcwnd : Nat) : Tcb :=
  if t.isWindowScaling then t.withCwnd (u16 (newcwnd >>> t.sndWindShift))
  else t.withCwnd (u16 newcwnd)

/-- `increase_cwnd` of `CUBIC.c`. -/
def cubicIncreaseCwnd (t : Tcb) (increase : Nat) : Tcb :=
  if t.isWindowScaling then
    t.withCwnd (u16 (u32 (t.windowScaleGetCwnd + increase) >>> t.sndWindShift))
  else
    let c := t.congestionData.cwnd + increase
    t.withCwnd (if 65535 ≤ c then 65535 else c)

def mapCubic (t : Tcb) (f : Cubic → Cubic) : Tcb :=
  t.mapCongestion fun c => { c with cubic := f c.cubic }

/-- `slowStart` of `CUBIC.c`. -/
def cubicSlowStart (t : Tcb) : Tcb := t.cubicIncreaseCwnd (min t.ackedBytes t.congestionData.SMSS)

/-- `cubictcp_recalc_ssthresh`: the new threshold in segments. -/
def cubictcpRecalcSsthresh (t : Tcb) : Nat × Tcb :=
  let ca := t.congestionData.cubic
  let segCwnd := t.segCwnd
  let scaled (n : Int) : Nat := (segCwnd * n % 2 ^ 32).toNat
  let t := t.mapCubic fun ca => { ca with
    epochStart := 0
    lastMaxCwnd :=
      if segCwnd < ca.lastMaxCwnd then scaled (bictcpBetaScale + ca.beta) / (2 * bictcpBetaScale)
      else segCwnd
    lossCwnd := segCwnd }
  (max (scaled ca.beta / bictcpBetaScale) 2, t)

/-- The part of `cubictcp_update` that computes `cnt` from the cubic function. -/
def cubicCnt (timeStamp cwnd : Nat) (ca : Cubic) : Cubic :=
  let t := (toInt32 (sub32 timeStamp ca.epochStart) % 2 ^ 64).toNat
  let t := (t + (ca.delayMin >>> 3)) % 2 ^ 64
  let t := (t <<< 10) % 2 ^ 64 / cubicHZ
  let offs := if t < ca.bicK then ca.bicK - t else t - ca.bicK
  let delta := u32 ((cubeRttScale ca * offs * offs * offs % 2 ^ 64) >>> (10 + 3 * 10))
  let bicTarget :=
    if t < ca.bicK then sub32 ca.bicOriginPoint delta else u32 (ca.bicOriginPoint + delta)
  let cnt := if cwnd < bicTarget then cwnd / (bicTarget - cwnd) else u32 (100 * cwnd)
  { ca with cnt := if ca.lastMaxCwnd = 0 then min cnt 20 else cnt }

/-- `cubictcp_update` from `tcp_friendliness` on, with the loop that takes `delta` off `ack_cnt`. -/
def cubicFriendliness (cwnd : Nat) (ca : Cubic) : Cubic :=
  let delta := u32 (cwnd * betaScale ca) >>> 3
  let rounds := (ca.ackCnt - 1) / delta
  let ca := { ca with
    ackCnt := ca.ackCnt - rounds * delta, tcpCwnd := u32 (ca.tcpCwnd + rounds) }
  let cnt :=
    if cwnd < ca.tcpCwnd then min ca.cnt (cwnd / (ca.tcpCwnd - cwnd)) else ca.cnt
  { ca with cnt := max cnt 2 }

/-- The start of an epoch in `cubictcp_update`. -/
def cubicEpoch (timeStamp cwnd acked : Nat) (ca : Cubic) : Cubic :=
  if ca.epochStart = 0 then
    { ca with
      epochStart := timeStamp, ackCnt := acked, tcpCwnd := cwnd
      bicK := if ca.lastMaxCwnd ≤ cwnd then 0
        else cubicRoot (u32 (cubeFactor ca * (ca.lastMaxCwnd - cwnd)))
      bicOriginPoint := if ca.lastMaxCwnd ≤ cwnd then cwnd else ca.lastMaxCwnd }
  else ca

def cubictcpUpdate (dEventTime acked : Nat) (t : Tcb) : Tcb :=
  let cwnd := t.segCwnd
  let timeStamp := cubictcpClock dEventTime
  t.mapCubic fun ca =>
    let ca := { ca with ackCnt := u32 (ca.ackCnt + acked) }
    if ca.lastCwnd = cwnd && toInt32 (sub32 timeStamp ca.lastTime) ≤ cubicHZ / 32 then ca
    else if ca.epochStart ≠ 0 && timeStamp = ca.lastTime then cubicFriendliness cwnd ca
    else
      let ca := { ca with lastCwnd := cwnd, lastTime := timeStamp }
      cubicFriendliness cwnd (cubicCnt timeStamp cwnd (cubicEpoch timeStamp cwnd acked ca))

def cubictcpCongAvoid (dEventTime segmentAcked : Nat) (t : Tcb) : Tcb :=
  let (t, segmentAcked) :=
    if t.inSlowStart then
      let t :=
        if toInt32 (sub32 t.congestionData.cubic.endSeq t.SEG.ACK) < 0 then
          t.mapCubic (cubictcpHystartReset dEventTime t.SND.NXT)
        else t
      (t.cubicSlowStart, sub32 segmentAcked 1)
    else (t, segmentAcked)
  if !t.inSlowStart && 0 < segmentAcked then
    let t := t.mapCubic fun ca => { ca with cwndcnt := u32 (ca.cwndcnt + segmentAcked) }
    let t := t.cubictcpUpdate dEventTime segmentAcked
    if t.congestionData.cubic.cnt < t.congestionData.cubic.cwndcnt then
      (t.cubicIncreaseCwnd t.congestionData.SMSS).mapCubic fun ca => { ca with cwndcnt := 0 }
    else t
  else t

/-- The ack train detection of `hystart_update`. -/
def hystartAckTrain (now : Nat) (t : Tcb) : Tcb :=
  let ca := t.congestionData.cubic
  if toInt32 (sub32 now ca.lastAck) ≤ ca.hystartAckDelta then
    let t := t.mapCubic fun ca => { ca with lastAck := now }
    if ca.delayMin >>> 4 < sub32 now ca.roundStart then
      let t := t.mapCubic fun ca => { ca with found := ca.found ||| 1 }
      if t.getSsthres ≠ ca.initialSsthresh then t.cubicSetCwnd t.getSsthres else t
    else t
  else t

/-- The delay detection of `hystart_update`. -/
def hystartDelay (delay : Nat) (t : Tcb) : Tcb :=
  let ca := t.congestionData.cubic
  if ca.sampleCnt < hystartMinSamples then
    t.mapCubic fun ca => { ca with
      currRtt := if ca.currRtt = 0 || delay < ca.currRtt then delay else ca.currRtt
      sampleCnt := ca.sampleCnt + 1 }
  else if u32 (ca.delayMin + hystartDelayThresh (ca.delayMin >>> 3)) < ca.currRtt then
    (t.mapCubic fun ca => { ca with found := ca.found ||| 2 }).setSsthres t.getCwnd
  else t

def hystartUpdate (dEventTime delay : Nat) (t : Tcb) : Tcb :=
  if t.congestionData.cubic.found &&& 3 ≠ 0 then t
  else (t.hystartAckTrain (cubictcpClock dEventTime)).hystartDelay delay

def cubictcpAcked (dEventTime : Nat) (t : Tcb) : Tcb :=
  let rtt := t.retransmissionQueue.getRTT dEventTime t.SEG.ACK
  let delay := u32 (u32 rtt <<< 3) / 1000
  let delay := if delay = 0 then 1 else delay
  if t.inSlowStart && t.congestionData.cubic.hystartLowWindow ≤ t.segCwnd then
    t.hystartUpdate dEventTime delay
  else t

end Tcb

namespace Conn

def cubictcpFastretransmit (s : Conn) : Conn :=
  if s.tcb.congestionData.dupAckCount = tcpDupThresh then
    let s := s.mapTcb fun t =>
      let (ssThresh, t) := t.cubictcpRecalcSsthresh
      t.setSsthres (u32 (ssThresh * t.getMSS))
    let s := s.mapTcb fun t =>
      t.cubicSetCwnd (u32 (t.getSsthres + tcpDupThresh * t.congestionData.SMSS))
    s.enterRecovery true
  else
    (s.mapTcb fun t => t.cubicIncreaseCwnd t.congestionData.SMSS).stayInRecovery

/-- `FastRecovery` of `CUBIC.c`. -/
def cubicFastRecovery (s : Conn) : Conn :=
  s.mapTcb fun t =>
    let t := t.mapCongestion fun c => { c with isFastRecovery := false, dupAckCount := 0 }
    t.cubicSetCwnd t.getSsthres

def cubicAckReceived (s : Conn) : Conn :=
  let segmentAcked := sub32 s.tcb.SEG.ACK s.tcb.SND.UNA / s.tcb.getMSS
  if s.tcb.isDupAck then
    let s := s.countDupAck
    if s.tcb.congestionData.dupAckCount < tcpDupThresh then
      if s.sackReportsLoss then s.cubictcpFastretransmit else s
    else s.cubictcpFastretransmit
  else if s.tcb.congestionData.isFastRecovery then s.cubicFastRecovery
  else s.mapTcb fun t => (t.cubictcpAcked s.dEventTime).cubictcpCongAvoid s.dEventTime segmentAcked

/-- `ack_received`, the callback that `congestion_setcallback` installs. -/
def ackReceived (s : Conn) : Conn :=
  match s.tcb.variant with
  | .oldTahoe => s.oldtahoeAckReceived
  | .tahoe => s.tahoeAckReceived
  | .reno => s.renoAckReceived
  | .newReno => s.newrenoAckReceived
  | .bic => s.bicAckReceived
  | .cubic => s.cubicAckReceived

end Conn

end NetSim.Tcp
