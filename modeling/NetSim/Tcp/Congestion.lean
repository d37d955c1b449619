import NetSim.Tcp.Sack

/-!
# Congestion control (`Congestion.c`)

The congestion window is kept in 16 bits; with window scaling these are the bits above the shift.
The functions that CUBIC uses as well take `set_cwnd` and `increase_cwnd` as they are in its file.
-/

namespace NetSim.Tcp

namespace Tcb

/-- The shift that the setters and getters of the window apply. -/
def windShift (t : Tcb) : Nat := if t.isWindowScaling then t.sndWindShift else 0

def getSsthres (t : Tcb) : Nat :=
  if t.isWindowScaling then u32 (t.congestionData.ssthresh <<< t.sndWindShift)
  else t.congestionData.ssthresh

/-- `get_cwnd`, and `get_cwnd_print`. -/
def getCwnd (t : Tcb) : Nat :=
  if t.isWindowScaling then u32 (t.congestionData.cwnd <<< t.sndWindShift)
  else t.congestionData.cwnd

/-- A new value in the 16 bits of `cwnd`. -/
def withCwnd (t : Tcb) (cwnd : Nat) : Tcb :=
  { t with congestionData := { t.congestionData with cwnd := cwnd } }

/-- `set_cwnd` of `Congestion.c`. -/
def setCwnd (t : Tcb) (newcwnd : Nat) : Tcb :=
  if t.isWindowScaling then
    let cwnd := u16 (newcwnd >>> t.sndWindShift)
    t.withCwnd (if cwnd = 0 then 1 else cwnd)
  else t.withCwnd (u16 newcwnd)

/-- `increase_cwnd` of `Congestion.c`. -/
def increaseCwnd (t : Tcb) (increase : Nat) : Tcb :=
  if t.isWindowScaling then
    let cwnd := u32 (t.windowScaleGetCwnd + increase) >>> t.sndWindShift
    t.withCwnd (if 65535 ≤ cwnd then 65535 else cwnd)
  else
    let c := t.congestionData.cwnd + increase
    t.withCwnd (if 65535 ≤ c then 65535 else c)

def inSlowStart (t : Tcb) : Bool := t.getCwnd ≤ t.getSsthres

def congestionSetIW (dev : DevVar) (t : Tcb) : Tcb :=
  let smss := t.congestionData.SMSS
  let factor := if 2190 < smss then 2 else if 1095 < smss then 3 else 4
  { t with congestionData := { t.congestionData with
      IW := u16 (max (factor * smss) (factor * dev.mss.toNat)) } }

def congestionSetMSS (dev : DevVar) (mss : Nat) (t : Tcb) : Tcb :=
  let t := { t with congestionData := { t.congestionData with
    SMSS := min t.congestionData.SMSS mss, RMSS := min t.congestionData.RMSS mss } }
  let t := t.congestionSetIW dev
  let t := { t with congestionData := { t.congestionData with LW := t.congestionData.SMSS } }
  let t := t.setCwnd t.congestionData.IW
  { t with congestionData := { t.congestionData with rwnd := t.congestionData.IW } }

def isDupAck (t : Tcb) : Bool := t.SEG.ACK ≤ t.SND.UNA

/-- The bytes that an acknowledgment newly acknowledges, cast to `UINT16`. -/
def ackedBytes (t : Tcb) : Nat := u16 (sub32 t.SEG.ACK t.SND.UNA)

/-- The bytes in flight, cast to `UINT16`. -/
def flightSize (t : Tcb) : Nat := u16 (sub32 t.SND.NXT t.SND.UNA)

def segCwnd (t : Tcb) : Nat := t.getCwnd / t.getMSS

def mapCongestion (t : Tcb) (f : CongestionVar → CongestionVar) : Tcb :=
  { t with congestionData := f t.congestionData }

def slowStart (t : Tcb) : Tcb := t.increaseCwnd (min t.ackedBytes t.congestionData.SMSS)

def congestionAvoidance (dEventTime : Nat) (t : Tcb) : Tcb :=
  let rtt := t.retransmissionQueue.getRTT dEventTime t.SEG.ACK
  if t.congestionData.lastWinUpdateTime + rtt < dEventTime then
    (t.mapCongestion fun c => { c with lastWinUpdateTime := dEventTime }).increaseCwnd
      (min t.ackedBytes t.congestionData.SMSS)
  else t

def growCwnd (dEventTime : Nat) (t : Tcb) : Tcb :=
  if t.inSlowStart then t.slowStart else t.congestionAvoidance dEventTime

/-- `isFastRecovery` of the variant. -/
def isFastRecoveryVariant (t : Tcb) : Bool :=
  match t.variant with
  | .reno | .newReno | .bic => true
  | _ => false

end Tcb

namespace Conn

/-- Fast retransmit after the window has been set: the segment is sent again and the recovery
starts. -/
def enterRecovery (s : Conn) (isFastRecovery : Bool) : Conn :=
  let s := s.resendSegmentWithoutTimeout s.tcb.SEG.ACK
  let s := s.mapTcb (·.mapCongestion fun c => { c with isFastRecovery := isFastRecovery })
  if s.tcb.isSackOption then
    s.sackFastRetransmit.mapTcb (·.mapCongestion fun c => { c with isLossRecoveryPhase := true })
  else s

/-- The part of the fast retransmit functions for a further duplicate acknowledgment, after the
window has grown. -/
def stayInRecovery (s : Conn) : Conn :=
  if s.tcb.isSackOption && s.tcb.congestionData.isLossRecoveryPhase then
    let (goesOn, s) := s.sackLossRecoveryPhase
    s.mapTcb (·.mapCongestion fun c => { c with isLossRecoveryPhase := goesOn })
  else s

def fastRetransmit (s : Conn) : Conn :=
  if s.tcb.congestionData.dupAckCount = tcpDupThresh then
    let s := s.mapTcb fun t => t.setSsthres (max (t.flightSize / 2) (2 * t.congestionData.SMSS))
    let s := s.mapTcb fun t =>
      t.setCwnd (u32 (t.getSsthres + tcpDupThresh * t.congestionData.SMSS))
    s.enterRecovery s.tcb.isFastRecoveryVariant
  else
    (s.mapTcb fun t => t.increaseCwnd t.congestionData.SMSS).stayInRecovery

def fastRecovery (s : Conn) : Conn :=
  s.mapTcb fun t =>
    let t := t.mapCongestion fun c => { c with isFastRecovery := false, dupAckCount := 0 }
    t.setCwnd t.getSsthres

def newRenoFastRecovery (s : Conn) : Conn :=
  let s := s.mapTcb (·.mapCongestion fun c => { c with dupAckCount := 0 })
  let smss := s.tcb.congestionData.SMSS
  if s.tcb.congestionData.recover ≤ s.tcb.SEG.ACK then
    s.mapTcb fun t =>
      (t.setCwnd (min (u16 t.getSsthres) (max t.flightSize smss + smss))).mapCongestion
        fun c => { c with isFastRecovery := false }
  else
    (s.mapTcb fun t => t.increaseCwnd (u16 (sub32 t.SEG.ACK t.congestionData.recover)))
      |>.resendSegmentWithoutTimeout s.tcb.SEG.ACK

def countDupAck (s : Conn) : Conn :=
  s.mapTcb (·.mapCongestion fun c => { c with dupAckCount := u32 (c.dupAckCount + 1) })

/-- The test of the `ack_received` functions on a duplicate acknowledgment below the threshold. -/
def sackReportsLoss (s : Conn) : Bool :=
  s.tcb.isSackOption && s.tcb.sackIsLost (u32 (s.tcb.SND.UNA + 1))

def oldtahoeAckReceived (s : Conn) : Conn := s.mapTcb (·.growCwnd s.dEventTime)

def tahoeAckReceived (s : Conn) : Conn :=
  if s.tcb.isDupAck then
    let s := s.countDupAck
    if s.tcb.congestionData.dupAckCount < tcpDupThresh then
      if s.sackReportsLoss then s.fastRetransmit else s
    else s.fastRetransmit
  else if s.tcb.congestionData.dupAckCount ≠ 0 then
    s.mapTcb fun t =>
      (t.mapCongestion fun c => { c with dupAckCount := 0 }).setCwnd t.congestionData.LW
  else s.mapTcb (·.growCwnd s.dEventTime)

def renoAckReceived (s : Conn) : Conn :=
  if s.tcb.isDupAck then
    let s := s.countDupAck
    if s.tcb.congestionData.dupAckCount < tcpDupThresh then
      if s.sackReportsLoss then s.fastRetransmit else s
    else s.fastRetransmit
  else if s.tcb.congestionData.isFastRecovery then s.fastRecovery
  else s.mapTcb (·.growCwnd s.dEventTime)

def newrenoAckReceived (s : Conn) : Conn :=
  if s.tcb.isDupAck then
    let s := s.countDupAck
    if s.tcb.congestionData.dupAckCount < tcpDupThresh then
      if s.sackReportsLoss then s.fastRetransmit else s
    else if s.tcb.congestionData.recover < sub32 s.tcb.SEG.ACK 1 then
      (s.mapTcb fun t => t.mapCongestion fun c => { c with recover := t.SND.NXT }).fastRetransmit
    else s
  else if s.tcb.congestionData.isFastRecovery then s.newRenoFastRecovery
  else s.mapTcb (·.growCwnd s.dEventTime)

end Conn

/-! ## BIC -/

def bictcpB : Nat := 4

namespace Tcb

/-- `bictcp_recalc_ssthresh`: the new threshold, and the state with `last_max_cwnd` updated. -/
def bictcpRecalcSsthresh (t : Tcb) : Nat × Tcb :=
  let ca := t.congestionData.bic
  let segCwnd := t.segCwnd
  let t := t.mapCongestion fun c => { c with bic := { ca with
    epochStart := 0
    lastMaxCwnd :=
      if segCwnd < ca.lastMaxCwnd && ca.fastConvergence then floorU32 (segCwnd * ca.beta)
      else segCwnd
    lossCwnd := segCwnd } }
  if segCwnd ≤ ca.lowWindow then (max (2 * t.getMSS) (t.flightSize / 2), t)
  else (floorU32 ((if segCwnd * ca.beta < 2 then 2 else segCwnd * ca.beta) * t.getMSS), t)

/-- The count that the binary search of `bictcp_update` arrives at. -/
def bictcpCnt (ca : Bic) (cwnd : Nat) : Nat :=
  if cwnd < ca.lastMaxCwnd then
    let dist := (ca.lastMaxCwnd - cwnd) / bictcpB
    if ca.maxIncrement < dist then cwnd / ca.maxIncrement
    else if dist ≤ 1 then u32 (cwnd * ca.smoothPart) / bictcpB
    else cwnd / dist
  else if cwnd < u32 (ca.lastMaxCwnd + bictcpB) then u32 (cwnd * ca.smoothPart) / bictcpB
  else if cwnd < u32 (ca.lastMaxCwnd + u32 (ca.maxIncrement * (bictcpB - 1))) then
    u32 (cwnd * (bictcpB - 1)) / (cwnd - ca.lastMaxCwnd)
  else cwnd / ca.maxIncrement

def bictcpUpdate (dEventTime : Nat) (t : Tcb) : Tcb :=
  let cwnd := t.segCwnd
  t.mapCongestion fun c =>
    let ca := { c.bic with
      lastCwnd := cwnd, lastTime := u32 dEventTime
      epochStart := if c.bic.epochStart = 0 then u32 dEventTime else c.bic.epochStart }
    if cwnd ≤ ca.lowWindow then { c with bic := { ca with cnt := cwnd } }
    else
      let cnt := bictcpCnt ca cwnd
      let cnt := if ca.lastMaxCwnd = 0 then min cnt 20 else cnt
      let cnt := u32 (cnt * 2 ^ 4) / ca.delayedAck
      { c with bic := { ca with cnt := if cnt = 0 then 1 else cnt } }

def bictcpCongAvoid (dEventTime segmentAcked : Nat) (t : Tcb) : Tcb :=
  let (t, segmentAcked) :=
    if t.inSlowStart then (t.slowStart, sub32 segmentAcked 1) else (t, segmentAcked)
  if !t.inSlowStart && 0 < segmentAcked then
    let t := t.mapCongestion fun c =>
      { c with bic := { c.bic with cwndcnt := u32 (c.bic.cwndcnt + segmentAcked) } }
    let t := t.bictcpUpdate dEventTime
    if t.congestionData.bic.cnt < t.congestionData.bic.cwndcnt then
      (t.increaseCwnd t.congestionData.SMSS).mapCongestion fun c =>
        { c with bic := { c.bic with cwndcnt := 0 } }
    else t
  else t

end Tcb

namespace Conn

def bictcpFastretransmit (s : Conn) : Conn :=
  if s.tcb.congestionData.dupAckCount = tcpDupThresh then
    let s := s.mapTcb fun t =>
      let (ssThresh, t) := t.bictcpRecalcSsthresh
      t.setSsthres (u16 ssThresh)
    let s := s.mapTcb fun t =>
      t.setCwnd (u32 (t.getSsthres + tcpDupThresh * t.congestionData.SMSS))
    s.enterRecovery s.tcb.isFastRecoveryVariant
  else
    (s.mapTcb fun t => t.increaseCwnd t.congestionData.SMSS).stayInRecovery

/-- `bic_ack_received`. The update of `delayed_ack` by `bictcp_acked` goes to a copy and is lost. -/
def bicAckReceived (s : Conn) : Conn :=
  let segmentAcked := sub32 s.tcb.SEG.ACK s.tcb.SND.UNA / s.tcb.getMSS
  if s.tcb.isDupAck then
    let s := s.countDupAck
    if s.tcb.congestionData.dupAckCount < tcpDupThresh then
      if s.sackReportsLoss then s.bictcpFastretransmit else s
    else s.bictcpFastretransmit
  else if s.tcb.congestionData.isFastRecovery then s.fastRecovery
  else s.mapTcb (·.bictcpCongAvoid s.dEventTime segmentAcked)

def congestionRtoTimeout (s : Conn) : Conn :=
  s.mapTcb fun t =>
    let t := t.setSsthres (max (t.flightSize / 2) (2 * t.congestionData.SMSS))
    let t := t.setCwnd t.congestionData.LW
    if t.variant = .newReno then
      t.mapCongestion fun c => { c with recover := t.SND.NXT, isFastRecovery := false }
    else t

end Conn

end NetSim.Tcp
