import Mathlib

/-!
# TCP segments (`TCP_Header.h`, `TCP_Packet.c`)

The part of a segment that the TCP files read. Numbers and sizes are natural; where the source
computes on `UINT32` or `UINT16` the model applies `u32` and `u16`.
-/

namespace NetSim.Tcp

/-! ## Machine integers -/

/-- The value that a `UINT32` keeps of `n`. -/
def u32 (n : Nat) : Nat := n % 2 ^ 32

/-- The value that a `UINT16` keeps of `n`. -/
def u16 (n : Nat) : Nat := n % 2 ^ 16

/-- `a - b` on `UINT32`. -/
def sub32 (a b : Nat) : Nat := (a + (2 ^ 32 - b % 2 ^ 32)) % 2 ^ 32

theorem u32_lt (n : Nat) : u32 n < 2 ^ 32 := Nat.mod_lt _ (by decide)

theorem u16_lt (n : Nat) : u16 n < 2 ^ 16 := Nat.mod_lt _ (by decide)

@[simp] theorem u32_of_lt {n : Nat} (h : n < 2 ^ 32) : u32 n = n := Nat.mod_eq_of_lt h

@[simp] theorem u16_of_lt {n : Nat} (h : n < 2 ^ 16) : u16 n = n := Nat.mod_eq_of_lt h

theorem sub32_of_le {a b : Nat} (h : b ≤ a) (ha : a < 2 ^ 32) : sub32 a b = a - b := by
  unfold sub32
  omega

/-! ## Options -/

/-- One block of a SACK option, `SACKDATA`. -/
structure SackData where
  leftEdge : Nat
  rightEdge : Nat
deriving DecidableEq

/-- `TCPOPTION`. The padding options of `add_tcp_extra_option` are never read; they count in
`HdrLength` only. -/
inductive TcpOption
  | mss (mssData : UInt16)
  | windowScale (shiftCnt : UInt8)
  | sackPermitted
  | sack (sackData : List SackData)
  | timestamp (tsVal tsecr : Nat)
deriving DecidableEq

/-- `get_tcp_option` for `TCP_OPTION_MSS`. -/
def getMssOption (option : List TcpOption) : Option UInt16 :=
  option.findSome? fun o => match o with | .mss m => some m | _ => none

/-- `get_tcp_option` for `TCP_OPTION_WINDOW_SCALE`. -/
def getWindowScaleOption (option : List TcpOption) : Option UInt8 :=
  option.findSome? fun o => match o with | .windowScale n => some n | _ => none

/-- `get_tcp_option` for `TCP_OPTION_SACK_PERMITTED`. -/
def getSackPermittedOption (option : List TcpOption) : Bool :=
  option.any fun o => match o with | .sackPermitted => true | _ => false

/-- `get_tcp_option` for `TCP_OPTION_SACK`. -/
def getSackOption (option : List TcpOption) : Option (List SackData) :=
  option.findSome? fun o => match o with | .sack d => some d | _ => none

/-- `get_tcp_option` for `TCP_OPTION_TIMESTAMP`: the value `TSval`. -/
def getTimestampOption (option : List TcpOption) : Option Nat :=
  option.findSome? fun o => match o with | .timestamp v _ => some v | _ => none

def tcpHdrSize : Nat := 20
def maxTcpHdrSize : Nat := 60
def sackOptionFixLen : Nat := 2
def sackDataLen : Nat := 8

/-- What an option adds to `HdrLength`, with the `TCP_OPTION_NOOPERATION` that may follow it. -/
def TcpOption.len : TcpOption → Nat
  | .mss _ => 4
  | .windowScale _ => 3 + 1
  | .sackPermitted => 2
  | .sack d => sackOptionFixLen + d.length * sackDataLen
  | .timestamp _ _ => 10 + 1

/-- `HdrLength` of a header with these options, before `set_tcp_packet_size`. -/
def optionsLen (option : List TcpOption) : Nat := tcpHdrSize + (option.map TcpOption.len).sum

/-- `HdrLength` after `set_tcp_packet_size`, which pads it to a multiple of four. -/
def paddedLen (len : Nat) : Nat := if len % 4 = 0 then len else len + (4 - len % 4)

/-! ## Segments -/

/-- The control packets of `TCPPACKET`. -/
inductive TcpPacket | syn | synAck | fin | rst | ack
deriving DecidableEq

/-- A segment with the application packet that it carries. `controlDataType` is `nControlDataType`.
-/
structure Segment where
  seqNum : Nat
  ackNum : Nat
  hdrLength : Nat
  fin : Bool
  syn : Bool
  rst : Bool
  ack : Bool
  window : Nat
  option : List TcpOption
  controlDataType : Option TcpPacket
  dPayload : Nat
  appData : Option Nat
deriving DecidableEq

namespace Segment

/-- `get_seg_len`. -/
def segLen (p : Segment) : Nat := if p.syn then 1 else u32 p.dPayload

def seqEnd (p : Segment) : Nat := u32 (p.seqNum + p.segLen)

/-- `pstruTransportData->dPacketSize`. -/
def dPacketSize (p : Segment) : Nat := p.dPayload + p.hdrLength

def isTCPControl (p : Segment) : Bool := p.controlDataType.isSome

/-- A segment of the stream: it carries an application packet. -/
def isData (p : Segment) : Bool := !p.isTCPControl

end Segment

/-- A packet that the application leaves in the socket interface. It is not empty. -/
structure AppPacket where
  nPacketId : Nat
  dPacketSize : Nat
  nAppEndFlag : Bool
  size_pos : 0 < dPacketSize
deriving DecidableEq

/-! ## Configuration -/

inductive TcpVariant | oldTahoe | tahoe | reno | newReno | bic | cubic
deriving DecidableEq

inductive TcpAckType | undelayed | delayed
deriving DecidableEq

/-- `TCP_DEV_VAR`, the TCP settings of a device. -/
structure DevVar where
  tcpVariant : TcpVariant
  initSSThresh : UInt16
  mss : UInt16
  maxSynRetries : Nat
  ackType : TcpAckType
  dDelayedAckTime : Nat
  isSackPermitted : Bool
  isWindowScaling : Bool
  shiftCount : UInt8
  isTimestampOpt : Bool
  beta : Rat
  lowWindow : Nat
  maxIncrement : Nat
  smoothPart : Nat
  bicScale : Nat
  hystartLowWindow : Nat
  hystartAckDelta : Nat
deriving DecidableEq

/-- The settings of `10Nodes/Configuration.netsim`. BIC and CUBIC are not in use there. -/
def DevVar.config : DevVar where
  tcpVariant := .newReno
  initSSThresh := 65535
  mss := 1460
  maxSynRetries := 5
  ackType := .undelayed
  dDelayedAckTime := 0
  isSackPermitted := false
  isWindowScaling := false
  shiftCount := 0
  isTimestampOpt := false
  beta := 0
  lowWindow := 0
  maxIncrement := 0
  smoothPart := 0
  bicScale := 0
  hystartLowWindow := 0
  hystartAckDelta := 0

end NetSim.Tcp
