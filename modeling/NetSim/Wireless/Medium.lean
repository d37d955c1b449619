import NetSim.Lib.KeyedList
import NetSim.Lib.Run

/-!
# The wireless medium (`Medium.c`)

The power of a transmitter is added when its first packet goes on the air and taken off when its
last one is received. Powers and levels are exact numbers, and `log10` is any function on them.
-/

namespace NetSim.Wireless

open NetSim.Lib

/-- `deviceId` and `interfaceId`. -/
abbrev Dev := Nat × Nat

/-- The devices, `getRxPower_mw`, the devices with a `medium_change_callback`, and the logarithm. -/
structure Radio (K : Type) [Zero K] [LE K] where
  inMedium : Dev → Bool
  hasCallback : Dev → Bool
  getRxPower : Dev → Dev → ℚ → K
  getRxPower_nonneg : ∀ tx rx t, 0 ≤ getRxPower tx rx t
  log10 : K → K

/-- The arguments of `medium_update_device`. -/
structure Settings (K : Type) where
  dFrequency : K
  dBandwidth : K
  dRxSensitivity : K
  dEdThreshold : K
deriving DecidableEq

/-- `DEVICE_IN_MEDIUM`. The level of a device that has not received any power is minus infinity. -/
structure Device (K : Type) extends Settings K where
  dCummulativeReceivedPower : K
  dCummulativeReceivedPowerDbm : WithBot K

/-- `PACKETINFO`; `packet` names the packet. -/
structure PacketInfo where
  packet : Nat
  tx : Dev
  rx : Dev
  startTime : ℚ
deriving DecidableEq

/-- `MEDIUM`, with the packets that are `PacketStatus_Collided`, what the callbacks said last, and
the powers added. -/
structure Medium (K : Type) where
  devices : Dev → Device K
  transmissionPacket : List PacketInfo
  collided : Nat → Bool
  told : Dev → Option Bool
  added : Dev → Dev → K

section Functions

variable {K : Type}

def packetInfoAdd (s : Medium K) (info : PacketInfo) : Medium K :=
  { s with transmissionPacket := s.transmissionPacket ++ [info] }

variable [Field K] [LinearOrder K]

instance atLeastTwo : Nat.AtLeastTwo (999 + 1) := inferInstance

def mwToDbm (r : Radio K) (mw : K) : K := if mw ≤ 1 / 10 ^ 100 then -1000 else 10 * r.log10 mw

def checkFrequencyInterfrence (dFrequency₁ dFrequency₂ bandwidth : K) : Bool :=
  if dFrequency₁ > dFrequency₂ then
    if dFrequency₁ - dFrequency₂ ≥ bandwidth then false else true
  else if dFrequency₂ - dFrequency₁ ≥ bandwidth then false else true

def hears (r : Radio K) (devices : Dev → Device K) (tx d : Dev) : Bool :=
  r.inMedium tx && r.inMedium d && d ≠ tx &&
    checkFrequencyInterfrence (devices tx).dFrequency (devices d).dFrequency (devices tx).dBandwidth

def amount (r : Radio K) (devices : Dev → Device K) (tx d : Dev) (startTime : ℚ) : K :=
  if hears r devices tx d then r.getRxPower tx d startTime else 0

def Device.setPower (r : Radio K) (dm : Device K) (mw : K) : Device K :=
  { dm with
    dCummulativeReceivedPower := mw
    dCummulativeReceivedPowerDbm := (mwToDbm r mw : K) }

/-- `packetInfo_remove`: the packet, and the medium without it. A packet that is not there fails. -/
def packetInfoRemove (s : Medium K) (packet : Nat) : Option (PacketInfo × Medium K) :=
  (lookup PacketInfo.packet packet s.transmissionPacket).map fun info =>
    (info, { s with
      transmissionPacket := eraseFirst PacketInfo.packet packet s.transmissionPacket })

def isAnypacketIsThereForThisTransmitter (s : Medium K) (info : PacketInfo) : Bool :=
  s.transmissionPacket.any fun i => i.packet ≠ info.packet && i.tx = info.tx

def updatePowerDueToTransmission (r : Radio K) (s : Medium K) (info : PacketInfo) : Medium K :=
  let devices := fun d =>
    if hears r s.devices info.tx d then
      (s.devices d).setPower r
        ((s.devices d).dCummulativeReceivedPower + r.getRxPower info.tx d info.startTime)
    else s.devices d
  { s with
    devices := devices
    told := fun d =>
      if hears r s.devices info.tx d ∧ d ≠ info.rx ∧
          (devices d).dCummulativeReceivedPowerDbm > (devices d).dEdThreshold ∧
          r.hasCallback d = true then some true
      else s.told d
    added := Function.update s.added info.tx
      fun d => amount r s.devices info.tx d info.startTime }

/-- `update_power_due_to_transmission_stop`; `isRadioIdle` is what the function of the transmitter
says. -/
def updatePowerDueToTransmissionStop (r : Radio K) (s : Medium K) (info : PacketInfo)
    (isRadioIdle : Bool) : Medium K :=
  let devices := fun d =>
    if hears r s.devices info.tx d then
      (s.devices d).setPower r
        ((s.devices d).dCummulativeReceivedPower - r.getRxPower info.tx d info.startTime)
    else s.devices d
  { s with
    devices := devices
    told := fun d =>
      if d = info.tx then
        if r.inMedium d && isRadioIdle && r.hasCallback d then some false else s.told d
      else if hears r s.devices info.tx d ∧ d ≠ info.rx ∧
          (devices d).dCummulativeReceivedPowerDbm < (devices d).dEdThreshold ∧
          r.hasCallback d = true then some false
      else s.told d }

/-- A turn of the loop of `medium_mark_collision`: what the receiver of `i` has over the power of
`i`. -/
def isCollided (r : Radio K) (s : Medium K) (isTranmitterBusy : Dev → Bool) (i : PacketInfo) : Bool :=
  mwToDbm r ((s.devices i.rx).dCummulativeReceivedPower - r.getRxPower i.tx i.rx i.startTime) >
      (s.devices i.rx).dRxSensitivity ||
    isTranmitterBusy i.rx

def mediumMarkCollision (r : Radio K) (s : Medium K) (isTranmitterBusy : Dev → Bool)
    (info : PacketInfo) : Medium K :=
  { s with
    collided := fun packet => s.collided packet || s.transmissionPacket.any fun i =>
      i.packet = packet && !(i.tx = info.tx && i.packet ≠ info.packet) &&
        isCollided r s isTranmitterBusy i }

def mediumNotifyPacketSend (r : Radio K) (s : Medium K) (info : PacketInfo)
    (isTranmitterBusy : Dev → Bool) : Medium K :=
  let s := packetInfoAdd s info
  if isAnypacketIsThereForThisTransmitter s info then s
  else mediumMarkCollision r (updatePowerDueToTransmission r s info) isTranmitterBusy info

def mediumNotifyPacketReceived (r : Radio K) (s : Medium K) (packet : Nat) (isRadioIdle : Bool) :
    Option (Medium K) :=
  (packetInfoRemove s packet).map fun (info, s) =>
    if isAnypacketIsThereForThisTransmitter s info then s
    else updatePowerDueToTransmissionStop r s info isRadioIdle

def mediumUpdateDevice (s : Medium K) (d : Dev) (settings : Settings K) : Medium K :=
  { s with
    devices := Function.update s.devices d { s.devices d with toSettings := settings } }

def mediumIsIdle (s : Medium K) (d : Dev) : Bool :=
  (s.devices d).dCummulativeReceivedPowerDbm < (s.devices d).dEdThreshold

/-- The medium after `medium_add_device` for its devices. -/
def Medium.init (settings : Dev → Settings K) : Medium K where
  devices := fun d => ⟨settings d, 0, ⊥⟩
  transmissionPacket := []
  collided := fun _ => false
  told := fun _ => none
  added := fun _ _ => 0

/-- A call, with what the functions of the devices say at the time. -/
inductive MediumAction (K : Type) where
  | send (info : PacketInfo) (isTranmitterBusy : Dev → Bool)
  | received (packet : Nat) (isRadioIdle : Bool)
  | update (d : Dev) (settings : Settings K)

/-- One call. A packet that is sent is new; a packet is received when it is on the air. -/
def mediumStep (r : Radio K) (s : Medium K) : MediumAction K → Option (Medium K)
  | .send info busy =>
    if (∀ i ∈ s.transmissionPacket, i.packet ≠ info.packet) ∧ s.collided info.packet = false ∧
        r.inMedium info.rx = true then
      some (mediumNotifyPacketSend r s info busy)
    else none
  | .received packet idle => mediumNotifyPacketReceived r s packet idle
  | .update d settings => if r.inMedium d then some (mediumUpdateDevice s d settings) else none

end Functions

end NetSim.Wireless
