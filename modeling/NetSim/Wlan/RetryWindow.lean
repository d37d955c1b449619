import NetSim.Wlan.FrameAccounting

/-!
# The retry count, the contention window and the backoff

`RetryVar` is the sending side of `MacVar` with `nCWcurrent`, `nBackOffCounter` and, for the reader,
the attempts at the frame that is pending.
-/

namespace NetSim.Wlan

/-- `CWmin` and `CWmax` of `currEdcaTable`. -/
structure RetryConfig extends MacConfig where
  CWmin : ℕ
  CWmax : ℕ

/-- What `fn_NetSim_IEEE802_11_SendToPhy` sends, and the counters when it does. -/
structure Attempt where
  frame : List Frame
  failures : ℕ
  nRetryCount : ℕ
  nCWcurrent : ℕ

structure RetryVar where
  mac : MacVar
  nCWcurrent : ℕ
  nBackOffCounter : ℤ
  /-- The attempts at the pending frame that have failed. -/
  failures : ℕ
  /-- The last attempt has not been answered, and its timeout has not been handled. -/
  isOpen : Bool
  attempts : List Attempt

/-- The cast of a `double` to `int`. -/
def truncate (x : ℚ) : ℤ := x.num.tdiv x.den

namespace RetryVar

variable (cfg : RetryConfig)

def csmacaInit (s : RetryVar) (now : ℚ) : RetryVar :=
  if s.mac.currMacState = .macIdle ∧ s.mac.radioIdle then
    if s.mac.currentProcessingPacket ≠ [] then { s with mac := s.mac.rtsCtsInit cfg.toMacConfig }
    else
      let r := s.mac.getFromQueue cfg.toMacConfig now
      if r.1 = [] then { s with mac := r.2 }
      else
        { s with
          mac := { r.2 with currentProcessingPacket := r.1.map .data }.rtsCtsInit cfg.toMacConfig
          nCWcurrent := cfg.CWmin
          failures := 0 }
  else s

def increaseCW (s : RetryVar) : RetryVar :=
  { s with nCWcurrent := min ((s.nCWcurrent * 2 + 1) % 2 ^ 32) cfg.CWmax }

def attempt (s : RetryVar) (frame : List Frame) : Attempt :=
  { frame, failures := s.failures, nRetryCount := s.mac.nRetryCount, nCWcurrent := s.nCWcurrent }

def sendToPhy (s : RetryVar) (now : ℚ) : RetryVar :=
  match s.mac.currentProcessingPacket with
  | [] => s
  | p :: rest =>
    { s with
      mac := s.mac.sendToPhy cfg.toMacConfig now
      isOpen := !isMulti p
      attempts := s.attempt (p :: rest) :: s.attempts }

def macReInit (s : RetryVar) (now : ℚ) : RetryVar :=
  { s with mac := { s.mac with nRetryCount := 0 } }.csmacaInit cfg now

/-- The second half of the handlers of an acknowledgment. -/
def afterAck (s : RetryVar) (now : ℚ) : RetryVar :=
  let mac := { s.mac with currMacState := .macIdle }
  if mac.isTxopTimerSet cfg.toMacConfig now then
    let r := mac.getFromQueue cfg.toMacConfig now
    if r.1 = [] then { s with mac := r.2.unsetTxopTime cfg.toMacConfig }
    else
      { s with
        mac := { r.2 with currentProcessingPacket := r.1.map .data }
        failures := 0 }.sendToPhy cfg now
  else { s with mac := mac.unsetTxopTime cfg.toMacConfig }.macReInit cfg now

def processAck (s : RetryVar) (now : ℚ) : RetryVar :=
  { s with
    mac := { s.mac with
      acknowledged := packetsOf s.mac.currentProcessingPacket ++ s.mac.acknowledged
      currentProcessingPacket := [] }
    failures := 0
    isOpen := false }.afterAck cfg now

def processBlockAck (s : RetryVar) (bitMap : BitVec 64) (now : ℚ) : RetryVar :=
  let r := Wlan.processBlockAck bitMap s.mac.currentProcessingPacket
  { s with
    mac := { s.mac with
      acknowledged := packetsOf r.1 ++ s.mac.acknowledged
      currentProcessingPacket := r.2 }
    failures := if r.2 = [] then 0 else s.failures + 1
    isOpen := false }.afterAck cfg now

def ackTimeOut (s : RetryVar) (needDataSend : Bool) (now : ℚ) : RetryVar :=
  if s.mac.currMacState = .waitAck ∨ s.mac.currMacState = .txingMpdu then
    match s.mac.currentProcessingPacket with
    | [] => { s with mac := { s.mac with failed := true } }
    | p :: _ =>
      let mac := { s.mac with currMacState := .macIdle }.unsetTxopTime cfg.toMacConfig
      let isRetry :=
        if cfg.minstrel then needDataSend else mac.checkRetryLimit cfg.toMacConfig (payload p)
      if isRetry then
        ({ s with
          mac := { mac with nRetryCount := mac.nRetryCount + 1 }
          failures := s.failures + 1
          isOpen := false }.increaseCW cfg).csmacaInit cfg now
      else
        { s with
          mac := { mac with
            dropped := packetsOf [p] ++ mac.dropped
            currentProcessingPacket := []
            nRetryCount := 0 }
          failures := 0
          isOpen := false }.csmacaInit cfg now
  else s

def ctsTimeOut (s : RetryVar) (now : ℚ) : RetryVar :=
  let mac := { s.mac with currMacState := .macIdle }
  if mac.checkRetryLimit cfg.toMacConfig 1 then
    ({ s with
      mac := { mac with nRetryCount := mac.nRetryCount + 1 }
      failures := s.failures + 1
      isOpen := false }.increaseCW cfg).csmacaInit cfg now
  else
    match s.mac.waitingforCTS with
    | [] => { s with mac := { mac with nRetryCount := 0 } }.csmacaInit cfg now
    | p :: _ =>
      { s with
        mac := { mac with
          dropped := packetsOf [p] ++ mac.dropped
          currentProcessingPacket := []
          waitingforCTS := []
          nRetryCount := 0 }
        failures := 0
        isOpen := false }.csmacaInit cfg now

def processCts (s : RetryVar) : RetryVar := { s with mac := s.mac.processCts, isOpen := false }

/-- `fn_NetSim_IEEE802_11_CSMACA_StartBackOff`, which draws a count if none is left. -/
def startBackOff (s : RetryVar) (dRandomNumber : ℚ) : RetryVar :=
  { s with
    nBackOffCounter :=
      if s.nBackOffCounter = 0 then truncate (dRandomNumber * s.nCWcurrent) else s.nBackOffCounter }

/-- `fn_NetSim_IEEE802_11_CSMACA_DIFSEnd` and `fn_NetSim_IEEE802_11_CSMACA_AIFSEnd`. -/
def ifsEnd (wait : MacState) (s : RetryVar) (mediumIdle : Bool) (dRandomNumber : ℚ) : RetryVar :=
  if mediumIdle then
    { s with mac := { s.mac with currMacState := .backingOff } }.startBackOff dRandomNumber
  else if s.mac.currMacState = wait then
    { s with mac := { s.mac with currMacState := .macIdle } }
  else s

def backoffFailed (s : RetryVar) : RetryVar :=
  { s with
    mac := { s.mac with
      currMacState := if s.mac.currMacState = .backingOff then .macIdle else s.mac.currMacState }
    nBackOffCounter := 0 }

/-- `fn_NetSim_IEEE802_11_CSMACA_Backoff`, and whether the backoff has succeeded. -/
def backoff (s : RetryVar) (mediumIdle : Bool) : Bool × RetryVar :=
  if !s.mac.radioIdle then (false, s.backoffFailed)
  else if mediumIdle then
    if 0 < s.nBackOffCounter - 1 then
      (false, { s with nBackOffCounter := s.nBackOffCounter - 1 })
    else (true, { s with nBackOffCounter := 0 })
  else if s.nBackOffCounter ≤ 1 then (false, s.backoffFailed)
  else (false, s)

end RetryVar

/-- `ifsEnd` is `DIFS_END` or `AIFS_END`, and `sendToPhy` of a `MacEvent` is `SEND_MPDU`. -/
inductive RetryEvent
  | mac (event : MacEvent)
  | ifsEnd (wait : MacState) (mediumIdle : Bool) (dRandomNumber : ℚ)
  | backoff (mediumIdle : Bool)

namespace RetryVar

def start : RetryVar :=
  { mac := .start
    nCWcurrent := 0
    nBackOffCounter := 0
    failures := 0
    isOpen := false
    attempts := [] }

def handle (cfg : RetryConfig) (s : RetryVar) (now : ℚ) : RetryEvent → RetryVar
  | .mac (.add packet) => { s with mac := s.mac.handle cfg.toMacConfig now (.add packet) }
  | .mac (.changeState state radioIdle) =>
    { s with mac := s.mac.handle cfg.toMacConfig now (.changeState state radioIdle) }
  | .mac .csmacaInit => s.csmacaInit cfg now
  | .mac .sendToPhy => s.sendToPhy cfg now
  | .mac .ack => s.processAck cfg now
  | .mac (.blockAck bitMap) => s.processBlockAck cfg bitMap now
  | .mac .cts => s.processCts
  | .mac (.ackTimeOut needDataSend) => s.ackTimeOut cfg needDataSend now
  | .mac .ctsTimeOut => s.ctsTimeOut cfg now
  | .ifsEnd wait mediumIdle dRandomNumber => s.ifsEnd wait mediumIdle dRandomNumber
  | .backoff mediumIdle =>
    let r := s.backoff mediumIdle
    if r.1 then r.2.sendToPhy cfg now else r.2

/-- What `MacVar.step` asks of an event; a random number divided by `NETSIM_RAND_MAX` lies between
zero and one. -/
def Enabled (cfg : RetryConfig) (s : RetryVar) (now : ℚ) : RetryEvent → Prop
  | .mac event => (s.mac.step cfg.toMacConfig (now, event)).isSome
  | .ifsEnd _ _ dRandomNumber => s.mac.failed = false ∧ 0 ≤ dRandomNumber ∧ dRandomNumber ≤ 1
  | .backoff _ => s.mac.failed = false

instance (cfg : RetryConfig) (s : RetryVar) (now : ℚ) (event : RetryEvent) :
    Decidable (s.Enabled cfg now event) := by
  unfold Enabled
  split <;> infer_instance

def step (cfg : RetryConfig) (s : RetryVar) (x : ℚ × RetryEvent) : Option RetryVar :=
  if s.Enabled cfg x.1 x.2 then some (s.handle cfg x.1 x.2) else none

/-! ## The MAC below -/

variable {cfg : RetryConfig} {s : RetryVar} {now : ℚ}

theorem csmacaInit_mac (s : RetryVar) :
    (s.csmacaInit cfg now).mac = s.mac.csmacaInit cfg.toMacConfig now := by
  unfold csmacaInit MacVar.csmacaInit
  dsimp only
  split
  · split
    · rfl
    · split <;> rfl
  · rfl

theorem sendToPhy_mac (s : RetryVar) :
    (s.sendToPhy cfg now).mac = s.mac.sendToPhy cfg.toMacConfig now := by
  unfold sendToPhy
  split
  · next hnil =>
    unfold MacVar.sendToPhy
    rw [hnil]
  · rfl

theorem afterAck_mac (s : RetryVar) :
    (s.afterAck cfg now).mac = s.mac.afterAck cfg.toMacConfig now := by
  unfold afterAck MacVar.afterAck
  dsimp only
  split
  · split
    · rfl
    · exact sendToPhy_mac _
  · exact csmacaInit_mac _

theorem ackTimeOut_mac (s : RetryVar) (needDataSend : Bool) :
    (s.ackTimeOut cfg needDataSend now).mac =
      s.mac.ackTimeOut cfg.toMacConfig needDataSend now := by
  unfold ackTimeOut MacVar.ackTimeOut
  split
  · cases hcur : s.mac.currentProcessingPacket with
    | nil =>
      dsimp only
      rw [hcur]
    | cons p rest =>
      -- Minstrel decides, or the retry limit.
      dsimp only
      rw [← hcur]
      split_ifs <;> exact csmacaInit_mac _
  · rfl

theorem ctsTimeOut_mac (s : RetryVar) :
    (s.ctsTimeOut cfg now).mac = s.mac.ctsTimeOut cfg.toMacConfig now := by
  rw [ctsTimeOut, MacVar.ctsTimeOut]
  by_cases hcheck : MacVar.checkRetryLimit cfg.toMacConfig { s.mac with currMacState := .macIdle } 1
  · rw [if_pos hcheck, if_pos hcheck, csmacaInit_mac]
    rfl
  · rw [if_neg hcheck, if_neg hcheck]
    cases s.mac.waitingforCTS with
    | nil => rw [csmacaInit_mac]
    | cons p rest => rw [csmacaInit_mac]

theorem handle_mac (s : RetryVar) (event : MacEvent) :
    (s.handle cfg now (.mac event)).mac = s.mac.handle cfg.toMacConfig now event := by
  cases event with
  | add packet => rfl
  | changeState state radioIdle => rfl
  | csmacaInit => exact csmacaInit_mac s
  | sendToPhy => exact sendToPhy_mac s
  | ack => exact afterAck_mac _
  | blockAck bitMap => exact afterAck_mac _
  | cts => rfl
  | ackTimeOut needDataSend => exact ackTimeOut_mac s needDataSend
  | ctsTimeOut =>
    rw [handle, MacVar.handle]
    exact ctsTimeOut_mac s

theorem handle_of_step {s' : RetryVar} {x : ℚ × RetryEvent} (h : s.step cfg x = some s') :
    s.Enabled cfg x.1 x.2 ∧ s' = s.handle cfg x.1 x.2 := by
  unfold step at h
  split at h
  · next henabled =>
    cases h
    exact ⟨henabled, rfl⟩
  · cases h

theorem mac_step_changeState (hlive : s.mac.failed = false) (state : MacState) :
    s.mac.step cfg.toMacConfig (now, .changeState state s.mac.radioIdle) =
      some { s.mac with currMacState := state } := by
  unfold MacVar.step
  rw [if_neg (by rw [hlive]; exact Bool.false_ne_true)]
  rfl

theorem backoff_cases (s : RetryVar) (mediumIdle : Bool) :
    (∃ state n, s.backoff mediumIdle =
        (false, { s with mac := { s.mac with currMacState := state }, nBackOffCounter := n }) ∧
      (0 ≤ s.nBackOffCounter → 0 ≤ n)) ∨
    s.backoff mediumIdle = (true, { s with nBackOffCounter := 0 }) := by
  unfold backoff
  split
  · exact .inl ⟨_, 0, rfl, fun _ => Int.le_refl 0⟩
  · split
    · split
      · next hpos => exact .inl ⟨s.mac.currMacState, _, rfl, fun _ => Int.le_of_lt hpos⟩
      · exact .inr rfl
    · split
      · exact .inl ⟨_, 0, rfl, fun _ => Int.le_refl 0⟩
      · exact .inl ⟨s.mac.currMacState, s.nBackOffCounter, rfl, id⟩

theorem mac_step {s' : RetryVar} {x : ℚ × RetryEvent} (h : s.step cfg x = some s') :
    ∃ event, s.mac.step cfg.toMacConfig (x.1, event) = some s'.mac := by
  obtain ⟨now, event⟩ := x
  obtain ⟨henabled, rfl⟩ := handle_of_step h
  cases event with
  | mac event =>
    obtain ⟨mac', hmac'⟩ := Option.isSome_iff_exists.1 henabled
    refine ⟨event, ?_⟩
    rw [hmac', handle_mac, MacVar.handle_of_step hmac']
  | ifsEnd wait mediumIdle dRandomNumber =>
    dsimp only [handle, ifsEnd]
    split
    · exact ⟨_, mac_step_changeState henabled.1 .backingOff⟩
    · split
      · exact ⟨_, mac_step_changeState henabled.1 .macIdle⟩
      · exact ⟨_, mac_step_changeState henabled.1 s.mac.currMacState⟩
  | backoff mediumIdle =>
    have hlive : s.mac.failed = false := henabled
    rcases backoff_cases s mediumIdle with ⟨state, n, hbackoff, -⟩ | hbackoff
    · rw [handle, hbackoff]
      exact ⟨_, mac_step_changeState hlive state⟩
    · rw [handle, hbackoff]
      refine ⟨.sendToPhy, ?_⟩
      rw [if_pos rfl, sendToPhy_mac]
      unfold MacVar.step
      rw [if_neg (by rw [hlive]; exact Bool.false_ne_true)]
      rfl

end RetryVar

end NetSim.Wlan
