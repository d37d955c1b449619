import NetSim.Aodv.Bookkeeping
import NetSim.Aodv.Network

/-!
# Messages in flight

The packets in flight are the frames put out so far and those that wait for their `NETWORK_OUT`
event. A property of messages is an invariant as soon as every reason of `Emits` keeps it.
-/

namespace NetSim.Aodv

/-- The packets of a device that wait for their `NETWORK_OUT` event. -/
def Device.pending (d : Device) : List Packet := networkOuts d.events

/-- The packet has been put out as a frame, or waits for its `NETWORK_OUT` event. -/
def Net.InFlight (s : Net) (p : Packet) : Prop :=
  p ∈ s.sent ∨ ∃ i, p ∈ (s.device i).pending

section InFlight

variable {nodes : List IPAddress} {s : Net} {a : NetAction} {i : IPAddress} {act : NodeAction}
  {o : Outcome} {p : Packet}

theorem not_inFlight_init : ¬ Net.init.InFlight p := by
  rintro (h | ⟨i, h⟩)
  · cases h
  · cases h

theorem mem_remaining {e : EventDetails} {events : List EventDetails}
    (h : e ∈ act.remaining events) : e ∈ events := by
  unfold NodeAction.remaining at h
  split at h
  · exact List.mem_of_mem_erase h
  · exact h

theorem inFlight_after (h : (s.after i act o).InFlight p) : s.InFlight p ∨ p ∈ o.emitted := by
  rcases h with h | ⟨j, h⟩
  · rw [after_sent, List.mem_append] at h
    rcases h with h | h
    · exact Or.inr (List.mem_append_right _ h)
    · exact Or.inl (Or.inl h)
  · by_cases hj : j = i
    · subst hj
      rw [after_device_self] at h
      obtain ⟨time, hmem⟩ := mem_networkOuts.1 h
      rcases List.mem_append.1 hmem with hmem | hmem
      · exact Or.inl (Or.inr ⟨j, mem_networkOuts.2 ⟨time, mem_remaining hmem⟩⟩)
      · exact Or.inr (List.mem_append_left _ (mem_networkOuts.2 ⟨time, hmem⟩))
    · rw [after_device_ne hj] at h
      exact Or.inl (Or.inr ⟨j, h⟩)

variable {packet : Packet}

theorem inFlight_of_fire {time : Time}
    (hact : s.Acts nodes a i (.fire ⟨time, .networkOut packet⟩) o) : s.InFlight packet := by
  have henabled := hact.enabled
  simp only [NodeAction.enabled, Bool.and_eq_true, decide_eq_true_eq] at henabled
  exact Or.inr ⟨i, mem_networkOuts.2 ⟨time, henabled.1⟩⟩

theorem exists_frame_of_networkIn (hact : s.Acts nodes a i (.networkIn packet) o) :
    ∃ frame ∈ s.sent, frame.addressedTo i = true ∧ packet = receivedCopy frame := by
  have hlocal := hact.act_eq
  cases a with
  | deliver r frame =>
    simp only [NetAction.local] at hlocal
    split at hlocal
    · next hframe =>
      obtain ⟨rfl, rfl⟩ := hlocal
      exact ⟨frame, hframe.1, hframe.2, rfl⟩
    · cases hlocal
  | drop frame =>
    simp only [NetAction.local] at hlocal
    split at hlocal
    · obtain ⟨n, -, h⟩ := Option.map_eq_some_iff.1 hlocal
      cases h
    · cases hlocal
  | tick time => cases hlocal
  | fire j event => cases hlocal
  | dataOut j packet => cases hlocal

theorem data_of_dataOut (hact : s.Acts nodes a i (.dataOut packet) o) :
    packet.isControl = false := by
  have henabled := hact.enabled
  simp only [NodeAction.enabled, Bool.and_eq_true, Bool.not_eq_true'] at henabled
  exact henabled.1

theorem dataFIFO_of_run {tr : List (Net × NetAction)} (run : NetRun nodes tr s) (i : IPAddress) :
    DataFIFO (s.device i).var :=
  run.device_invariant (P := DataFIFO) (fun _ h => nomatch h)
    (fun _ _ _ _ _ hfifo h => handle_dataFIFO h hfifo) i

theorem Net.Acts.emits {tr : List (Net × NetAction)} (hact : s.Acts nodes a i act o)
    (run : NetRun nodes tr s) (hp : p ∈ o.emitted) :
    Emits ⟨i, s.now⟩ s.nRREQId (s.device i).var o act p :=
  handle_emits (dataFIFO_of_run run i)
    (fun packet h => by subst h; exact data_of_dataOut hact) hact.handled hp

end InFlight

theorem onePerDestination_of_run {nodes : List IPAddress} {tr : List (Net × NetAction)} {s : Net}
    (run : NetRun nodes tr s) (i : IPAddress) : OnePerDestination (s.device i).var.routeTable :=
  run.device_invariant (P := fun v => OnePerDestination v.routeTable) List.nodup_nil
    (fun _ _ _ _ _ hl h => handle_onePerDestination h hl) i

/-- The device, the packet, the RREQ and the outcome, where a step of the run delivers an RREQ. -/
def rreqDelivery (nodes : List IPAddress) (x : Net × NetAction) :
    Option (IPAddress × Packet × RREQ × Outcome) :=
  match x.2.local x.1.sent with
  | some (i, .networkIn packet) =>
    match packet.payload with
    | .rreq rreq =>
      if i ∈ nodes then
        (handle ⟨i, x.1.now⟩ x.1.nRREQId (x.1.device i).var (.networkIn packet)).map
          fun o => (i, packet, rreq, o)
      else none
    | _ => none
  | _ => none

theorem acts_of_rreqDelivery {nodes : List IPAddress} {x : Net × NetAction} {i : IPAddress}
    {packet : Packet} {rreq : RREQ} {o : Outcome}
    (h : rreqDelivery nodes x = some (i, packet, rreq, o)) :
    x.1.Acts nodes x.2 i (.networkIn packet) o ∧ packet.payload = .rreq rreq := by
  unfold rreqDelivery at h
  split at h
  · next j packet' hlocal =>
    split at h
    · next rreq' hrreq =>
      split at h
      · next hj =>
        obtain ⟨o', ho', heq⟩ := Option.map_eq_some_iff.1 h
        obtain ⟨rfl, rfl, rfl, rfl⟩ := heq
        exact ⟨⟨hlocal, hj, rfl, ho'⟩, hrreq⟩
      · cases h
    · cases h
  · cases h

theorem now_nonneg {nodes : List IPAddress} {tr : List (Net × NetAction)} {s : Net}
    (run : NetRun nodes tr s) : 0 ≤ s.now := by
  refine run.always (P := fun s => 0 ≤ s.now) (le_refl 0) ?_
  intro s a s' hnow h
  rcases Net.step_cases h with ⟨time, -, hle, -, rfl⟩ | ⟨i, act, o, -, rfl⟩
  · exact le_trans hnow hle
  · exact hnow

end NetSim.Aodv
