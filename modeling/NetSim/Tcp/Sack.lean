import NetSim.Tcp.Outgoing
import NetSim.Lib.WhileLoop

/-!
# Selective acknowledgments at the sender (`SACK.c`)

The sender marks the queued segments that a SACK option reports, and in the loss recovery phase
looks for the next segment to send.
-/

namespace NetSim.Tcp

open NetSim.Lib

def tcpDupThresh : Nat := 3

namespace Tcb

/-- The edges of block `i` of the scoreboard. -/
def edges (t : Tcb) (i : Nat) : SackData := t.scoreboard.getD i ⟨0, 0⟩

/-- `update_sack_flag`: every queued segment that starts in `[left, right]` is marked. -/
def updateSackFlag (t : Tcb) (left right : Nat) : Tcb :=
  { t with retransmissionQueue := t.retransmissionQueue.mapSacked fun info =>
      info.isSacked || (left ≤ info.packet.seqNum && info.packet.seqNum ≤ right) }

/-- `receive_sack_option`, on the options of an acknowledgment. -/
def receiveSackOption (t : Tcb) (option : List TcpOption) : Tcb :=
  let t := { t with isSackOption := false }
  if t.isSackPermitted = false then t
  else
    match getSackOption option with
    | none => t
    | some sackData =>
      if sackData = [] then t
      else
        let t := sackData.foldl (fun t data => t.updateSackFlag data.leftEdge data.rightEdge)
          { t with isSackOption := true }
        { t with scoreboard := sackData ++ List.replicate (4 - sackData.length) ⟨0, 0⟩ }

/-- The loop of `tcp_sack_isLost` over the blocks from `i` on; `c` counts full segments. -/
def isLostFrom (t : Tcb) (seqNum : Nat) : List Nat → Nat → Bool
  | [], _ => false
  | i :: rest, c =>
    let c := u32 (c + sub32 (t.edges i).rightEdge (t.edges i).leftEdge / t.getMSS)
    if tcpDupThresh ≤ c then true
    else if u32 ((tcpDupThresh - 1) * t.getMSS + seqNum) < (t.edges i).rightEdge then true
    else t.isLostFrom seqNum rest c

def sackIsLost (t : Tcb) (seqNum : Nat) : Bool :=
  if u32 (seqNum + t.getMSS) ≤ (t.edges 0).leftEdge then t.isLostFrom seqNum [0, 1, 2, 3] 0
  else false

/-- One round of the loop of `tcp_sack_setPipe`, at `s1` with the estimate so far. -/
def setPipeRound (t : Tcb) : Nat × Nat → Nat ⊕ (Nat × Nat)
  | (s1, pipe) =>
    if s1 < t.SND.NXT then
      let pipe := if t.sackIsLost s1 then pipe else u32 (pipe + t.getMSS)
      let pipe := if s1 ≤ t.highRxt then u32 (pipe + t.getMSS) else pipe
      .inr (u32 (s1 + t.getMSS), pipe)
    else .inl pipe

/-- `tcp_sack_setPipe`: `SND.UNA`, `SND.UNA + SMSS`, ... below `SND.NXT`, for `2 ^ 32` rounds at
most. -/
def sackSetPipe (t : Tcb) : Tcb :=
  { t with pipe := (runLoop t.setPipeRound (2 ^ 32) (t.SND.UNA, 0)).getD 0 }

/-- Rules 1 and 3 of `tcp_sack_nextSeg`: the first unmarked segment that passes `test`, with a
marked one behind it. -/
def firstUnsacked (test : Nat → Bool) : List QueueInfo → Option Nat
  | [] => none
  | info :: rest =>
    if !info.isSacked && test info.packet.seqNum && rest.any QueueInfo.isSacked then
      some info.packet.seqNum
    else firstUnsacked test rest

end Tcb

namespace Conn

/-- `tcp_sack_nextSeg`. The return value 0 stands for no segment, also where it is `SND.NXT`. -/
def sackNextSeg (s : Conn) : Option Nat × Conn :=
  let queue := s.tcb.retransmissionQueue.queue
  match Tcb.firstUnsacked (fun s2 => s.tcb.highRxt < s2 && s.tcb.sackIsLost s2) queue with
  | some s2 => (some s2, s)
  | none =>
    let s := s.mapTcb fun t => { t with SND.WND := t.getWND }
    if s.sId.head?.any s.windowHasRoom then
      (if s.tcb.SND.NXT = 0 then none else some s.tcb.SND.NXT, s)
    else (Tcb.firstUnsacked (fun s2 => s.tcb.highRxt < s2) queue, s)

def sackFastRetransmit (s : Conn) : Conn :=
  if s.tcb.isSackOption then
    s.mapTcb fun t => ({ t with recoveryPoint := t.SND.NXT }).sackSetPipe
  else s

/-- The loop of `tcp_sack_lossRecoveryPhase`, for a number of rounds, with the local copy `pipe`. -/
def lossRecoveryLoop (wnd mss : Nat) : Nat → Nat → Conn → Conn
  | 0, _, s => s
  | rounds + 1, pipe, s =>
    if wnd < u32 (mss + pipe) then s
    else
      match s.sackNextSeg with
      | (none, s) => s
      | (some nextSeg, s) =>
        if nextSeg < s.tcb.SND.NXT then
          lossRecoveryLoop wnd mss rounds pipe
            ((s.resendSegmentWithoutTimeout nextSeg).setHighRxt nextSeg)
        else
          let prev := s.tcb.SND.NXT
          let s := s.sendSegment
          let len := sub32 s.tcb.SND.NXT prev
          lossRecoveryLoop wnd mss rounds (u32 (pipe + len))
            (s.mapTcb fun t => { t with pipe := u32 (t.pipe + len) })

/-- Each round sends a packet of the application, or a queued segment above those sent again before.
-/
def lossRecoveryRounds (s : Conn) : Nat :=
  s.tcb.retransmissionQueue.queue.length + 2 * s.sId.length + 1

/-- `tcp_sack_lossRecoveryPhase`: whether the phase goes on. -/
def sackLossRecoveryPhase (s : Conn) : Bool × Conn :=
  if s.tcb.recoveryPoint < s.tcb.SEG.ACK then (false, s)
  else
    let s := s.mapTcb Tcb.sackSetPipe
    (true, lossRecoveryLoop s.tcb.getWND s.tcb.getMSS s.lossRecoveryRounds s.tcb.pipe s)

end Conn

end NetSim.Tcp
