import NetSim.Aodv.Node

/-!
# A network of AODV devices

Any number of devices, one clock and one counter of RREQ ids. A frame may reach any device it is
addressed to at any later time, any number of times, or never.
-/

namespace NetSim.Aodv

open NetSim.Lib

/-- The state of the network. `sent` keeps every frame ever put out, the latest first. -/
structure Net where
  now : Time
  nRREQId : UInt32
  device : IPAddress → Device
  sent : List Packet

/-- `strcpy` between flag strings: it stops at the first terminator, and the destination has been
calloc'ed. -/
def strcpy (src : Vector Char 6) : Vector Char 6 :=
  Vector.ofFn fun i => if ∀ j : Fin 6, j ≤ i → src[j] ≠ '\x00' then src[i] else '\x00'

/-- `fn_NetSim_AODV_CopyPacket_F` on the AODV part. -/
def copyPayload : Payload → Payload
  | .rreq rreq => .rreq { rreq with jrgdu := strcpy rreq.jrgdu }
  | .rrep rrep => .rrep { rrep with congestionflag := false }
  | .rerr rerr => .rerr rerr
  | .data nPacketId => .data nPacketId

/-- The copy of a frame that the PHY layer delivers, once the IP layer has counted the TTL down. -/
def receivedCopy (packet : Packet) : Packet :=
  { packet with payload := copyPayload packet.payload, nTTL := packet.nTTL - 1 }

/-- Whether a frame is addressed to `r`. A device does not hear its own frames. -/
def Packet.addressedTo (packet : Packet) (r : IPAddress) : Bool :=
  match packet.nReceiverId with
  | none => decide (packet.nTransmitterId ≠ r)
  | some d => decide (d = r)

/-- What can happen in the network. -/
inductive NetAction where
  | tick (time : Time)
  | fire (i : IPAddress) (event : EventDetails)
  | dataOut (i : IPAddress) (packet : Packet)
  | deliver (r : IPAddress) (frame : Packet)
  | drop (frame : Packet)
  deriving DecidableEq

/-- The device an action concerns, and what happens to it. -/
def NetAction.local (sent : List Packet) : NetAction → Option (IPAddress × NodeAction)
  | .tick _ => none
  | .fire i event => some (i, .fire event)
  | .dataOut i packet => some (i, .dataOut packet)
  | .deliver r frame =>
    if frame ∈ sent ∧ frame.addressedTo r then some (r, .networkIn (receivedCopy frame)) else none
  | .drop frame =>
    if frame ∈ sent ∧ !frame.isControl then
      frame.szNextHopIp.map fun nextHop => (frame.nTransmitterId, .dropNotification nextHop)
    else none

def Net.actAt (s : Net) (i : IPAddress) (r : Device × Outcome) : Net where
  now := s.now
  nRREQId := r.2.nRREQId
  device := Function.update s.device i r.1
  sent := r.2.frame.toList ++ s.sent

/-- One step of the network; `nodes` are the devices that `fn_NetSim_AODV_Init_F` has found. -/
def Net.step (nodes : List IPAddress) (s : Net) : NetAction → Option Net
  | .tick time =>
    if s.now ≤ time ∧ ∀ i ∈ nodes, ∀ e ∈ (s.device i).events, time ≤ e.dEventTime then
      some { s with now := time }
    else none
  | a =>
    match a.local s.sent with
    | some (i, act) =>
      if i ∈ nodes then (nodeStep ⟨i, s.now⟩ s.nRREQId (s.device i) act).map (s.actAt i) else none
    | none => none

def Net.init : Net := ⟨0, 0, fun _ => .init, []⟩

/-- The runs of a network of the devices `nodes`. -/
abbrev NetRun (nodes : List IPAddress) (tr : List (Net × NetAction)) (s : Net) : Prop :=
  Run (Net.step nodes) .init tr s

/-! ## The cases of a step -/

/-- The state after device `i` has handled `act` with outcome `o`. -/
def Net.after (s : Net) (i : IPAddress) (act : NodeAction) (o : Outcome) : Net :=
  s.actAt i (⟨o.devVar, act.remaining (s.device i).events ++ o.added⟩, o)

section After

variable {s : Net} {i j : IPAddress} {act : NodeAction} {o : Outcome}

@[simp] theorem after_now : (s.after i act o).now = s.now := rfl
@[simp] theorem after_nRREQId : (s.after i act o).nRREQId = o.nRREQId := rfl
@[simp] theorem after_sent : (s.after i act o).sent = o.frame.toList ++ s.sent := rfl

@[simp] theorem after_device_self : (s.after i act o).device i =
    ⟨o.devVar, act.remaining (s.device i).events ++ o.added⟩ :=
  Function.update_self i _ s.device

theorem after_device_ne (h : j ≠ i) : (s.after i act o).device j = s.device j :=
  Function.update_of_ne h _ s.device

end After

/-- Device `i` handles `act` with outcome `o`, as action `a` of the network. -/
structure Net.Acts (nodes : List IPAddress) (s : Net) (a : NetAction) (i : IPAddress)
    (act : NodeAction) (o : Outcome) : Prop where
  act_eq : a.local s.sent = some (i, act)
  mem_nodes : i ∈ nodes
  enabled : act.enabled s.now (s.device i).events = true
  handled : handle ⟨i, s.now⟩ s.nRREQId (s.device i).var act = some o

variable {nodes : List IPAddress}

theorem Net.step_cases {s s' : Net} {a : NetAction} (h : s.step nodes a = some s') :
    (∃ time, a = .tick time ∧ s.now ≤ time ∧
        (∀ i ∈ nodes, ∀ e ∈ (s.device i).events, time ≤ e.dEventTime) ∧
        s' = { s with now := time }) ∨
      ∃ i act o, s.Acts nodes a i act o ∧ s' = s.after i act o := by
  have hact : ∀ {r : Option (IPAddress × NodeAction)}, a.local s.sent = r →
      (match r with
        | some (i, act) =>
          if i ∈ nodes then (nodeStep ⟨i, s.now⟩ s.nRREQId (s.device i) act).map (s.actAt i)
          else none
        | none => none) = some s' →
      ∃ i act o, s.Acts nodes a i act o ∧ s' = s.after i act o := by
    intro r hr h
    cases r with
    | none => cases h
    | some r =>
      obtain ⟨i, act⟩ := r
      simp only at h
      split at h
      · next hi =>
        obtain ⟨r, hstep, rfl⟩ := Option.map_eq_some_iff.1 h
        unfold nodeStep at hstep
        split at hstep
        · next henabled =>
          obtain ⟨o, ho, rfl⟩ := Option.map_eq_some_iff.1 hstep
          exact ⟨i, act, o, ⟨hr, hi, henabled, ho⟩, rfl⟩
        · cases hstep
      · cases h
  cases a with
  | tick time =>
    simp only [Net.step] at h
    split at h
    · next htime => exact Or.inl ⟨time, rfl, htime.1, htime.2, (Option.some.inj h).symm⟩
    · cases h
  | fire i event => exact Or.inr (hact rfl h)
  | dataOut i packet => exact Or.inr (hact rfl h)
  | deliver r frame => exact Or.inr (hact rfl h)
  | drop frame => exact Or.inr (hact rfl h)

theorem Net.Acts.step_eq {s : Net} {a : NetAction} {i : IPAddress}
    {act : NodeAction} {o : Outcome} (h : s.Acts nodes a i act o) :
    s.step nodes a = some (s.after i act o) := by
  obtain ⟨hact, hi, henabled, hhandled⟩ := h
  have hnode : nodeStep ⟨i, s.now⟩ s.nRREQId (s.device i) act =
      some (⟨o.devVar, act.remaining (s.device i).events ++ o.added⟩, o) := by
    unfold nodeStep
    rw [if_pos henabled, hhandled]
    rfl
  cases a with
  | tick time => cases hact
  | fire j event => simp only [Net.step, hact, if_pos hi, hnode]; rfl
  | dataOut j packet => simp only [Net.step, hact, if_pos hi, hnode]; rfl
  | deliver r frame => simp only [Net.step, hact, if_pos hi, hnode]; rfl
  | drop frame => simp only [Net.step, hact, if_pos hi, hnode]; rfl

theorem NetRun.device_invariant {P : DeviceVar → Prop} (h0 : P .init)
    (hstep : ∀ c nRREQId v a o, P v → handle c nRREQId v a = some o → P o.devVar)
    {tr : List (Net × NetAction)} {s : Net} (run : NetRun nodes tr s) (i : IPAddress) :
    P (s.device i).var := by
  refine run.always (P := fun s => ∀ i, P (s.device i).var) (fun _ => h0) ?_ i
  intro s a s' hP h j
  rcases Net.step_cases h with ⟨time, -, -, -, rfl⟩ | ⟨i, act, o, hact, rfl⟩
  · exact hP j
  · by_cases hj : j = i
    · subst hj
      rw [after_device_self]
      exact hstep _ _ _ _ _ (hP j) hact.handled
    · rw [after_device_ne hj]
      exact hP j

/-! ## Strategies for executions -/

abbrev Strategy := Net → Option NetAction

namespace Strategy

/-- The first pending event of `i` that is due. -/
def due (i : IPAddress) : Strategy := fun s =>
  ((s.device i).events.find? fun e => e.dEventTime = s.now).map (.fire i)

/-- The `k`-th pending event of `i`. -/
def fireNth (i : IPAddress) (k : ℕ) : Strategy := fun s => (s.device i).events[k]?.map (.fire i)

/-- The delivery to `r` of the `k`-th latest frame. -/
def hear (r : IPAddress) (k : ℕ) : Strategy := fun s => s.sent[k]?.map (.deliver r)

/-- Time passes until `ms` milliseconds. -/
def wait (ms : ℕ) : Strategy := fun _ => some (.tick (ms * millisecond))

/-- The upper layers of `i` hand down data packet `nPacketId` for `dest`. -/
def data (i dest : IPAddress) (nPacketId : ℕ) : Strategy := fun _ =>
  some (.dataOut i ⟨i, dest, i, none, none, 0, .data nPacketId⟩)

end Strategy

theorem NetRun.of_exec (nodes : List IPAddress) (acts : List Strategy)
    (test : List (Net × NetAction) × Net → Bool)
    (h : (exec (Net.step nodes) Net.init acts).any test = true) :
    ∃ tr s, NetRun nodes tr s ∧ test (tr, s) = true :=
  run_of_exec h

end NetSim.Aodv
