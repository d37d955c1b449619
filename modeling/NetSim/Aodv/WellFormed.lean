import NetSim.Aodv.DuplicateSuppression
import NetSim.Aodv.InvalidRoutes

/-!
# The messages in flight

`Relayed` and `Advertises` compare what an RREQ or an RREP says with the way it has come.
`ForwardRREQ` sets the U flag where the number is known, and `GenerateRREPByIntermediate` sends its
stored hop count.
-/

namespace NetSim.Aodv

open NetSim.Lib

/-! ## Ways -/

/-- Along `next` it is `n` hops from a device to `dest`. -/
inductive RouteLength (next : IPAddress → Option IPAddress) (dest : IPAddress) :
    IPAddress → ℕ → Prop
  | arrived : RouteLength next dest dest 0
  | hop {i j : IPAddress} {n : ℕ} (hne : i ≠ dest) (hnext : next i = some j)
      (rest : RouteLength next dest j n) : RouteLength next dest i (n + 1)

theorem RouteLength.unique {next : IPAddress → Option IPAddress} {dest i : IPAddress} {m n : ℕ}
    (hm : RouteLength next dest i m) (hn : RouteLength next dest i n) : m = n := by
  induction hm generalizing n with
  | arrived =>
    cases hn with
    | arrived => rfl
    | hop hne => exact absurd rfl hne
  | hop hne hnext _ ih =>
    cases hn with
    | arrived => exact absurd rfl hne
    | hop _ hnext' rest =>
      cases hnext.symm.trans hnext'
      rw [ih rest]

/-- The next hops for `dest`, with the reverse route that `rreq` gives device `i`. -/
def nextHops (s : Net) (i : IPAddress) (rreq : RREQ) (j : IPAddress) : Option IPAddress :=
  findNextHop
    (if j = i then (s.device i).var.withReverseRoute ⟨i, s.now⟩ rreq else (s.device j).var)
    rreq.destinationIPAddress

/-- In the run `k` devices have relayed the RREQ of the packet since its originator. -/
inductive Relayed (nodes : List IPAddress) : List (Net × NetAction) → Packet → ℕ → Prop
  | originated {tr : List (Net × NetAction)} {s : Net} {a : NetAction} {i : IPAddress}
      {act : NodeAction} {o : Outcome} {p : Packet} (dest : IPAddress)
      (hact : s.Acts nodes a i act o) (hp : p ∈ o.emitted)
      (hrreq : p.payload = .rreq (newRREQ ⟨i, s.now⟩ dest (.start s.nRREQId (s.device i).var))) :
    Relayed nodes ((s, a) :: tr) p 0
  | relayed {tr : List (Net × NetAction)} {s : Net} {a : NetAction} {i : IPAddress} {o : Outcome}
      {frame p : Packet} {k : ℕ} (hact : s.Acts nodes a i (.networkIn (receivedCopy frame)) o)
      (hframe : Relayed nodes tr frame k) (hp : p ∈ o.emitted) (hrreq : p.isRREQ = true) :
    Relayed nodes ((s, a) :: tr) p (k + 1)
  | sent {tr : List (Net × NetAction)} {s : Net} {a : NetAction} {i : IPAddress} {o : Outcome}
      {time : Time} {packet p : Packet} {k : ℕ}
      (hact : s.Acts nodes a i (.fire ⟨time, .networkOut packet⟩) o)
      (hpacket : Relayed nodes tr packet k) (hp : p ∈ o.emitted) :
    Relayed nodes ((s, a) :: tr) p k
  | before {tr : List (Net × NetAction)} {x : Net × NetAction} {p : Packet} {k : ℕ}
      (h : Relayed nodes tr p k) : Relayed nodes (x :: tr) p k

/-- The RREP advertises a route that has `r` hops for its next receiver, or (`none`) one that does
not lead to the destination. -/
inductive Advertises (nodes : List IPAddress) :
    List (Net × NetAction) → Packet → Option ℕ → Prop
  | destination {tr : List (Net × NetAction)} {s : Net} {a : NetAction} {i : IPAddress}
      {o : Outcome} {packet p : Packet} (rreq : RREQ)
      (hact : s.Acts nodes a i (.networkIn packet) o) (hrreq : packet.payload = .rreq rreq)
      (hdest : i = rreq.destinationIPAddress) (hp : p ∈ o.emitted) (hrrep : p.isRREP = true) :
    Advertises nodes ((s, a) :: tr) p (some 1)
  | intermediate {tr : List (Net × NetAction)} {s : Net} {a : NetAction} {i : IPAddress}
      {o : Outcome} {packet p : Packet} {r : Option ℕ} (rreq : RREQ)
      (hact : s.Acts nodes a i (.networkIn packet) o) (hrreq : packet.payload = .rreq rreq)
      (hdest : i ≠ rreq.destinationIPAddress) (hp : p ∈ o.emitted) (hrrep : p.isRREP = true)
      (hr : ∀ n, r = some n ↔ RouteLength (nextHops s i rreq) rreq.destinationIPAddress i n) :
    Advertises nodes ((s, a) :: tr) p (r.map (· + 1))
  | forwarded {tr : List (Net × NetAction)} {s : Net} {a : NetAction} {i : IPAddress} {o : Outcome}
      {frame p : Packet} {r : Option ℕ} (hact : s.Acts nodes a i (.networkIn (receivedCopy frame)) o)
      (hframe : Advertises nodes tr frame r) (hp : p ∈ o.emitted) (hrrep : p.isRREP = true) :
    Advertises nodes ((s, a) :: tr) p (r.map (· + 1))
  | sent {tr : List (Net × NetAction)} {s : Net} {a : NetAction} {i : IPAddress} {o : Outcome}
      {time : Time} {packet p : Packet} {r : Option ℕ}
      (hact : s.Acts nodes a i (.fire ⟨time, .networkOut packet⟩) o)
      (hpacket : Advertises nodes tr packet r) (hp : p ∈ o.emitted) :
    Advertises nodes ((s, a) :: tr) p r
  | before {tr : List (Net × NetAction)} {x : Net × NetAction} {p : Packet} {r : Option ℕ}
      (h : Advertises nodes tr p r) : Advertises nodes (x :: tr) p r

/-- The messages in flight say what is the case. A hello message is no RREP in this sense: it is
broadcast. -/
structure WellFormed (nodes : List IPAddress) (tr : List (Net × NetAction)) (s : Net) : Prop where
  relayed : ∀ p rreq, s.InFlight p → p.payload = .rreq rreq →
    (∃ k, Relayed nodes tr p k) ∧ ∀ k, Relayed nodes tr p k → rreq.hopCount.toNat = k
  lastAddress : ∀ p rreq, s.InFlight p → p.payload = .rreq rreq →
    rreq.lastAddress = p.nTransmitterId
  unknown : ∀ p rreq, s.InFlight p → p.payload = .rreq rreq →
    (rreq.unknownSequenceNumber = true ↔ rreq.destinationSequenceNumber = 0)
  advertises : ∀ p rrep, s.InFlight p → p.payload = .rrep rrep → isBroadcastPacket p = false →
    (∃ r, Advertises nodes tr p r) ∧ ∀ r, Advertises nodes tr p r → r = some rrep.hopCount.toNat

def StoresNextCount (s : Net) (i : IPAddress) (rreq : RREQ) : Prop :=
  ∀ table, findRouteTable ((s.device i).var.withReverseRoute ⟨i, s.now⟩ rreq).routeTable
      rreq.destinationIPAddress = some table →
    ∃ n, RouteLength (nextHops s i rreq) rreq.destinationIPAddress i n ∧
      table.hopCount.toUInt8.toNat = n + 1

/-- The step forwards no greatest hop count, and answers for another device only with a stored hop
count that is one more than its route. -/
structure KeepsCounts (nodes : List IPAddress) (x : Net × NetAction) : Prop where
  forwardsBack : forwardsBack nodes x = false
  answers : ∀ i packet rreq o, rreqDelivery nodes x = some (i, packet, rreq, o) →
    checkRREQSeenTable (x.1.device i).var rreq = false → i ≠ rreq.destinationIPAddress →
    devCounter (x.1.device i).var.ncounter ≤ 25 →
    canAnswer ⟨i, x.1.now⟩ rreq ((x.1.device i).var.withReverseRoute ⟨i, x.1.now⟩ rreq) = true →
    StoresNextCount x.1 i rreq
  small : ∀ i packet rrep, x.2.local x.1.sent = some (i, .networkIn packet) →
    packet.payload = .rrep rrep →
    forwardsRREP ⟨i, x.1.now⟩ (x.1.device i).var packet rrep = true → rrep.hopCount ≠ 255

section Step

variable {nodes : List IPAddress} {tr : List (Net × NetAction)} {s : Net} {a : NetAction}
  {i : IPAddress} {act : NodeAction} {o : Outcome} {p : Packet}

/-! ## RREQs -/

theorem newRREQ_unknown (c : Curr) (dest : IPAddress) (t : Sim) :
    (newRREQ c dest t).unknownSequenceNumber = true ↔
      (newRREQ c dest t).destinationSequenceNumber = 0 := by
  unfold RREQ.unknownSequenceNumber newRREQ
  by_cases h : findSequenceNumber t.devVar dest = 0
  · simp [h, Vector.get]
  · simp [h, Vector.get, noFlags]

theorem isRREQ_iff : p.isRREQ = true ↔ ∃ rreq, p.payload = .rreq rreq := by
  unfold Packet.isRREQ
  split
  · next rreq h => exact iff_of_true rfl ⟨rreq, h⟩
  · next h => exact iff_of_false Bool.false_ne_true fun ⟨rreq, hrreq⟩ => h rreq hrreq

theorem isRREP_iff : p.isRREP = true ↔ ∃ rrep, p.payload = .rrep rrep := by
  unfold Packet.isRREP
  split
  · next rrep h => exact iff_of_true rfl ⟨rrep, h⟩
  · next h => exact iff_of_false Bool.false_ne_true fun ⟨rrep, hrrep⟩ => h rrep hrrep

variable {packet : Packet}

theorem nRREQId_of_networkIn {c : Curr} {nRREQId : UInt32} {v : DeviceVar}
    (h : handle c nRREQId v (.networkIn packet) = some o) : o.nRREQId = nRREQId := by
  generalize hact : NodeAction.networkIn packet = act at h
  have hroutes : ∀ {q}, act.Routes q → False := by
    rintro q (⟨time, heq⟩ | heq) <;> rw [← hact] at heq <;> cases heq
  cases handle_book h with
  | same _ _ _ hid => exact hid
  | expires _ _ _ hid => exact hid
  | breaks _ _ _ hid => exact hid
  | buffers _ _ _ _ _ _ _ hid => exact hid
  | discovers _ _ _ ha => exact (hroutes ha).elim
  | givesUp _ _ _ _ _ _ _ hid => exact hid
  | retries => cases hact
  | accepts _ _ _ _ _ hid => exact hid
  | learns _ _ _ _ _ hid => exact hid

theorem not_originates_of_networkIn
    (hact : s.Acts nodes a i (.networkIn packet) o) : o.nRREQId ≠ s.nRREQId + 1 := by
  have hhandled := hact.handled
  rw [nRREQId_of_networkIn hhandled]
  exact (succ_ne s.nRREQId).symm

theorem forwardsBack_of_rebroadcasts {rreq : RREQ}
    (hact : s.Acts nodes a i (.networkIn packet) o) (hrreq : packet.payload = .rreq rreq)
    (hseen : checkRREQSeenTable (s.device i).var rreq = false)
    (hdest : i ≠ rreq.destinationIPAddress) (hcongested : devCounter (s.device i).var.ncounter ≤ 25)
    (hanswer : mayAnswer ⟨i, s.now⟩ rreq ((s.device i).var.accept ⟨i, s.now⟩ rreq) = true)
    (hnext : findNextHop ((s.device i).var.accept ⟨i, s.now⟩ rreq) rreq.destinationIPAddress =
      some rreq.lastAddress) : forwardsBack nodes (s, a) = true := by
  rw [forwardsBack_iff (rreqDelivery_of_acts hact rfl hrreq)]
  rw [mayAnswer_accept] at hanswer
  rw [findNextHop_accept] at hnext
  exact ⟨hseen, hdest, hcongested, hanswer, hnext⟩

theorem isRREQ_of_receivedCopy {frame : Packet} {rreq : RREQ}
    (h : (receivedCopy frame).payload = .rreq rreq) : ∃ rreq0, frame.payload = .rreq rreq0 := by
  cases hpayload : frame.payload with
  | rreq rreq0 => exact ⟨rreq0, rfl⟩
  | _ => simp [receivedCopy, copyPayload, hpayload] at h

theorem isRREP_of_receivedCopy {frame : Packet} {rrep : RREP}
    (h : (receivedCopy frame).payload = .rrep rrep) : ∃ rrep0, frame.payload = .rrep rrep0 := by
  cases hpayload : frame.payload with
  | rrep rrep0 => exact ⟨rrep0, rfl⟩
  | _ => simp [receivedCopy, copyPayload, hpayload] at h

theorem payload_of_sent {c : Curr} {nRREQId : UInt32} {v : DeviceVar} {time : Time}
    (h : handle c nRREQId v (.fire ⟨time, .networkOut packet⟩) = some o)
    (hcontrol : packet.isControl = true) (hp : p ∈ o.emitted) : p.payload = packet.payload := by
  have ho : (networkOutEvent c packet (.start nRREQId v)).afterOut c = o := Option.some.inj h
  unfold networkOutEvent at ho
  split at ho
  · rw [← ho] at hp
    simp only [Outcome.emitted, Outcome.packets, Sim.afterOut, Sim.start, networkOuts_nil,
      List.nil_append, Option.mem_toList] at hp
    obtain ⟨q, hq, rfl⟩ := Option.map_eq_some_iff.1 hp
    split at hq
    · cases hq
    · rw [← Option.some.inj hq]
      rfl
  · rw [← ho] at hp
    obtain ⟨q, hq, rfl⟩ := mem_emitted_transmitIfAlive (by rfl) hp
    simp only [Option.some.injEq] at hq
    rw [← hq]
    rfl

theorem exists_relayed (run : NetRun nodes tr s) {rreq : RREQ} (hp : s.InFlight p)
    (hrreq : p.payload = .rreq rreq) : ∃ k, Relayed nodes tr p k := by
  induction run generalizing p rreq with
  | nil => exact absurd hp not_inFlight_init
  | @snoc tr s s' a run hstep ih =>
    rcases Net.step_cases hstep with ⟨time, rfl, -, -, rfl⟩ | ⟨i, act, o, hact, rfl⟩
    · obtain ⟨k, hk⟩ := ih hp hrreq
      exact ⟨k, hk.before⟩
    rcases inFlight_after hp with hold | hnew
    · obtain ⟨k, hk⟩ := ih hold hrreq
      exact ⟨k, hk.before⟩
    cases (hact.emits run hnew).rreq hrreq with
    | sends time packet hpacket =>
      obtain ⟨k, hk⟩ := ih (inFlight_of_fire hact) hpacket
      exact ⟨k, .sent hact hk hnew⟩
    | originates _ dest hdest =>
      exact ⟨0, .originated dest hact hnew (hdest ▸ hrreq)⟩
    | rebroadcasts packet rreq0 hpacket =>
      obtain ⟨frame, hframe, -, rfl⟩ := exists_frame_of_networkIn hact
      obtain ⟨rreq1, hrreq1⟩ := isRREQ_of_receivedCopy hpacket
      obtain ⟨k, hk⟩ := ih (Or.inl hframe) hrreq1
      exact ⟨k + 1, .relayed hact hk hnew (isRREQ_iff.2 ⟨rreq, hrreq⟩)⟩

theorem relayed_eq_zero (run : NetRun nodes tr s) (hback : ∀ x ∈ tr, forwardsBack nodes x = false)
    {k : ℕ} (h : Relayed nodes tr p k) :
    k = 0 ∧ ∃ rreq, p.payload = .rreq rreq ∧ rreq.hopCount = 0 ∧
      (rreq.unknownSequenceNumber = true ↔ rreq.destinationSequenceNumber = 0) := by
  induction run generalizing p k with
  | nil => cases h
  | @snoc tr s s' a run hstep ih =>
    have hbefore : ∀ x ∈ tr, forwardsBack nodes x = false :=
      fun x hx => hback x (List.mem_cons_of_mem _ hx)
    cases h with
    | originated dest hact hp hrreq =>
      exact ⟨rfl, _, hrreq, rfl, newRREQ_unknown _ _ _⟩
    | relayed hact hframe hp hisRREQ =>
      obtain ⟨rreq, hrreq⟩ := isRREQ_iff.1 hisRREQ
      cases (hact.emits run hp).rreq hrreq with
      | originates _ dest _ _ hcount => exact absurd hcount (not_originates_of_networkIn hact)
      | rebroadcasts _ rreq0 hpacket hseen hdest hcongested hanswer hnext =>
        have hforwards :=
          forwardsBack_of_rebroadcasts hact hpacket hseen hdest hcongested hanswer hnext
        rw [hback _ List.mem_cons_self] at hforwards
        cases hforwards
    | sent hact hpacket hp =>
      obtain ⟨hk, rreq, hrreq, hrest⟩ := ih hbefore hpacket
      refine ⟨hk, rreq, ?_, hrest⟩
      rw [payload_of_sent hact.handled (isControl_of_rreq hrreq) hp]
      exact hrreq
    | before h => exact ih hbefore h

theorem lastAddress_of_run (run : NetRun nodes tr s) :
    (∀ i p rreq, p ∈ (s.device i).pending → p.payload = .rreq rreq →
      rreq.lastAddress = i ∧ p.nTransmitterId = i) ∧
    ∀ p ∈ s.sent, ∀ rreq, p.payload = .rreq rreq → rreq.lastAddress = p.nTransmitterId := by
  induction run with
  | nil =>
    constructor
    · intro i p rreq hp
      cases hp
    · intro p hp
      cases hp
  | @snoc tr s s' a run hstep ih =>
    obtain ⟨hpending, hsent⟩ := ih
    rcases Net.step_cases hstep with ⟨time, rfl, -, -, rfl⟩ | ⟨i, act, o, hact, rfl⟩
    · exact ⟨hpending, hsent⟩
    have hemitted : ∀ p rreq, p ∈ o.emitted → p.payload = .rreq rreq →
        rreq.lastAddress = i ∧ p.nTransmitterId = i := by
      intro p rreq hp hrreq
      cases (hact.emits run hp).rreq hrreq with
      | sends time packet hpacket htransmitter =>
        have henabled := hact.enabled
        simp only [NodeAction.enabled, Bool.and_eq_true, decide_eq_true_eq] at henabled
        exact ⟨(hpending i packet rreq (mem_networkOuts.2 ⟨time, henabled.1⟩) hpacket).1,
          htransmitter⟩
      | originates _ dest hnew htransmitter =>
        rw [hnew]
        exact ⟨rfl, htransmitter⟩
      | rebroadcasts packet rreq0 _ _ _ _ _ _ hforwarded =>
        rw [hforwarded] at hrreq ⊢
        cases hrreq
        exact ⟨rfl, rfl⟩
    constructor
    · intro j p rreq hp hrreq
      by_cases hj : j = i
      · subst hj
        rw [after_device_self] at hp
        obtain ⟨time, hmem⟩ := mem_networkOuts.1 hp
        rcases List.mem_append.1 hmem with hmem | hmem
        · exact hpending j p rreq (mem_networkOuts.2 ⟨time, mem_remaining hmem⟩) hrreq
        · exact hemitted p rreq (List.mem_append_left _ (mem_networkOuts.2 ⟨time, hmem⟩)) hrreq
      · rw [after_device_ne hj] at hp
        exact hpending j p rreq hp hrreq
    · intro p hp rreq hrreq
      rw [after_sent, List.mem_append] at hp
      rcases hp with hp | hp
      · obtain ⟨hlast, htransmitter⟩ := hemitted p rreq (List.mem_append_right _ hp) hrreq
        rw [hlast, htransmitter]
      · exact hsent p hp rreq hrreq

/-! ## RREPs -/

theorem forwardsRREP_of_emitted {rrep rrep0 : RREP}
    (hact : s.Acts nodes a i (.networkIn packet) o) (run : NetRun nodes tr s)
    (hrrep0 : packet.payload = .rrep rrep0) (hp : p ∈ o.emitted) (hrrep : p.payload = .rrep rrep) :
    forwardsRREP ⟨i, s.now⟩ (s.device i).var packet rrep0 = true := by
  have hpackets : p ∈ o.packets := by
    have hhandled := hact.handled
    obtain ⟨t, -, rfl⟩ := Option.map_eq_some_iff.1 hhandled
    rw [emitted_afterIn] at hp
    exact hp
  exact (forwardsRREP_iff (dataFIFO_of_run run i) hrrep0 hact.handled).1 ⟨p, rrep, hpackets, hrrep⟩

theorem exists_advertises (run : NetRun nodes tr s) {rrep : RREP} (hp : s.InFlight p)
    (hrrep : p.payload = .rrep rrep) (hbroadcast : isBroadcastPacket p = false) :
    ∃ r, Advertises nodes tr p r := by
  induction run generalizing p rrep with
  | nil => exact absurd hp not_inFlight_init
  | @snoc tr s s' a run hstep ih =>
    rcases Net.step_cases hstep with ⟨time, rfl, -, -, rfl⟩ | ⟨i, act, o, hact, rfl⟩
    · obtain ⟨r, hr⟩ := ih hp hrrep hbroadcast
      exact ⟨r, hr.before⟩
    rcases inFlight_after hp with hold | hnew
    · obtain ⟨r, hr⟩ := ih hold hrrep hbroadcast
      exact ⟨r, hr.before⟩
    have hisRREP := isRREP_iff.2 ⟨rrep, hrrep⟩
    cases (hact.emits run hnew).rrep hrrep with
    | sends time packet hpacket hdest =>
      have hpacketDest : isBroadcastPacket packet = false := by
        rw [← hbroadcast]
        unfold isBroadcastPacket
        rw [hdest]
      obtain ⟨r, hr⟩ := ih (inFlight_of_fire hact) hpacket hpacketDest
      exact ⟨r, .sent hact hr hnew⟩
    | destination packet rreq hrreq hdest =>
      exact ⟨some 1, .destination rreq hact hrreq hdest hnew hisRREP⟩
    | intermediate packet rreq table hrreq _ hdest =>
      by_cases hlength : ∃ n, RouteLength (nextHops s i rreq) rreq.destinationIPAddress i n
      · obtain ⟨n, hn⟩ := hlength
        refine ⟨_, .intermediate (r := some n) rreq hact hrreq hdest hnew hisRREP fun m => ?_⟩
        rw [Option.some.injEq]
        exact ⟨fun heq => heq ▸ hn, fun hm => hn.unique hm⟩
      · refine ⟨_, .intermediate (r := none) rreq hact hrreq hdest hnew hisRREP fun m => ?_⟩
        exact iff_of_false (fun heq => nomatch heq) fun hm => hlength ⟨m, hm⟩
    | forwards packet rrep0 nextHop hrrep0 hforwarded =>
      obtain ⟨frame, hframe, -, rfl⟩ := exists_frame_of_networkIn hact
      obtain ⟨rrep1, hrrep1⟩ := isRREP_of_receivedCopy hrrep0
      have hframeDest : isBroadcastPacket frame = false := by
        rw [← hbroadcast, hforwarded]
        rfl
      obtain ⟨r, hr⟩ := ih (Or.inl hframe) hrrep1 hframeDest
      exact ⟨_, .forwarded hact hr hnew hisRREP⟩
    | hello time _ hdest =>
      unfold isBroadcastPacket at hbroadcast
      rw [hdest, decide_eq_true rfl] at hbroadcast
      cases hbroadcast

theorem toNat_succ {n : UInt8} (h : n ≠ 255) : (n + 1).toNat = n.toNat + 1 := by
  have hlt := n.toNat_lt
  have hne : n.toNat ≠ 255 := fun heq => h (UInt8.toNat_inj.1 heq)
  rw [UInt8.toNat_add, UInt8.toNat_one]
  omega

theorem advertises_eq (run : NetRun nodes tr s) (hkeeps : ∀ x ∈ tr, KeepsCounts nodes x)
    {r : Option ℕ} (h : Advertises nodes tr p r) :
    ∃ rrep, p.payload = .rrep rrep ∧ r = some rrep.hopCount.toNat := by
  induction run generalizing p r with
  | nil => cases h
  | @snoc tr s s' a run hstep ih =>
    have hbefore : ∀ x ∈ tr, KeepsCounts nodes x := fun x hx => hkeeps x (List.mem_cons_of_mem _ hx)
    have hlast := hkeeps (s, a) List.mem_cons_self
    cases h with
    | destination rreq hact hrreq hdest hp hisRREP =>
      obtain ⟨rrep, hrrep⟩ := isRREP_iff.1 hisRREP
      refine ⟨rrep, hrrep, ?_⟩
      cases (hact.emits run hp).rrep hrrep with
      | destination _ _ _ _ _ hreply =>
        rw [hreply] at hrrep
        cases hrrep
        rfl
      | intermediate _ _ _ hrreq' _ hdest' =>
        cases hrreq.symm.trans hrreq'
        exact absurd hdest hdest'
      | forwards _ _ _ hrrep0 => cases hrreq.symm.trans hrrep0
    | intermediate rreq hact hrreq hdest hp hisRREP hr =>
      obtain ⟨rrep, hrrep⟩ := isRREP_iff.1 hisRREP
      refine ⟨rrep, hrrep, ?_⟩
      cases (hact.emits run hp).rrep hrrep with
      | destination _ _ hrreq' hdest' =>
        cases hrreq.symm.trans hrreq'
        exact absurd hdest' hdest
      | intermediate _ _ table hrreq' hunseen _ hcongested hmay hfind hnext hreply =>
        cases hrreq.symm.trans hrreq'
        have hanswer := canAnswer_of_reply hmay hfind hnext
        rw [accept_routeTable] at hfind
        obtain ⟨n, hn, hstored⟩ := hlast.answers _ _ _ _ (rreqDelivery_of_acts hact rfl hrreq)
          hunseen hdest hcongested hanswer table hfind
        rw [hreply] at hrrep
        cases hrrep
        rw [(hr n).2 hn, Option.map_some, ← hstored]
        rfl
      | forwards _ _ _ hrrep0 => cases hrreq.symm.trans hrrep0
    | @forwarded _ _ _ i o frame _ r hact hframe hp hisRREP =>
      obtain ⟨rrep, hrrep⟩ := isRREP_iff.1 hisRREP
      refine ⟨rrep, hrrep, ?_⟩
      obtain ⟨rrep1, hrrep1, rfl⟩ := ih hbefore hframe
      have hcopy : (receivedCopy frame).payload = .rrep { rrep1 with congestionflag := false } := by
        simp only [receivedCopy, hrrep1, copyPayload]
      cases (hact.emits run hp).rrep hrrep with
      | destination _ _ hrreq => cases hcopy.symm.trans hrreq
      | intermediate _ _ _ hrreq => cases hcopy.symm.trans hrreq
      | forwards _ rrep0 nextHop hrrep0 hforwarded =>
        have hsmall := hlast.small i _ rrep0 hact.act_eq hrrep0
          (forwardsRREP_of_emitted hact run hrrep0 hp hrrep)
        cases hcopy.symm.trans hrrep0
        rw [hforwarded] at hrrep
        cases hrrep
        rw [toNat_succ hsmall]
        rfl
    | sent hact hpacket hp =>
      obtain ⟨rrep, hrrep, hr⟩ := ih hbefore hpacket
      refine ⟨rrep, ?_, hr⟩
      rw [payload_of_sent hact.handled (isControl_of_rrep hrrep) hp]
      exact hrrep
    | before h => exact ih hbefore h

end Step

/-- In every run all of whose steps keep the counts, the messages in flight are well formed. -/
theorem wellFormed_of_run {nodes : List IPAddress} {tr : List (Net × NetAction)} {s : Net}
    (run : NetRun nodes tr s) (hkeeps : ∀ x ∈ tr, KeepsCounts nodes x) : WellFormed nodes tr s := by
  have hback : ∀ x ∈ tr, forwardsBack nodes x = false := fun x hx => (hkeeps x hx).forwardsBack
  have hrelayed : ∀ {p rreq}, p.payload = .rreq rreq → ∀ k, Relayed nodes tr p k →
      k = 0 ∧ rreq.hopCount = 0 ∧
        (rreq.unknownSequenceNumber = true ↔ rreq.destinationSequenceNumber = 0) := by
    intro p rreq hrreq k hk
    obtain ⟨hzero, rreq', hrreq', hrest⟩ := relayed_eq_zero run hback hk
    rw [hrreq] at hrreq'
    cases hrreq'
    exact ⟨hzero, hrest⟩
  refine ⟨?_, ?_, ?_, ?_⟩
  · intro p rreq hp hrreq
    refine ⟨exists_relayed run hp hrreq, fun k hk => ?_⟩
    obtain ⟨hzero, hcount, -⟩ := hrelayed hrreq k hk
    rw [hzero, hcount]
    rfl
  · intro p rreq hp hrreq
    obtain ⟨hpending, hsent⟩ := lastAddress_of_run run
    rcases hp with hp | ⟨i, hp⟩
    · exact hsent p hp rreq hrreq
    · obtain ⟨hlast, htransmitter⟩ := hpending i p rreq hp hrreq
      rw [hlast, htransmitter]
  · intro p rreq hp hrreq
    obtain ⟨k, hk⟩ := exists_relayed run hp hrreq
    exact (hrelayed hrreq k hk).2.2
  · intro p rrep hp hrrep hbroadcast
    refine ⟨exists_advertises run hp hrrep hbroadcast, fun r hr => ?_⟩
    obtain ⟨rrep', hrrep', heq⟩ := advertises_eq run hkeeps hr
    rw [hrrep] at hrrep'
    cases hrrep'
    exact heq

/-- A step that forwards no RREQ, answers for no other device and delivers no RREP with the greatest
hop count. -/
def keepsCounts (nodes : List IPAddress) (x : Net × NetAction) : Bool :=
  !forwardsBack nodes x &&
    (match rreqDelivery nodes x with
      | some (i, _, rreq, _) => !canAnswer ⟨i, x.1.now⟩ rreq
          ((x.1.device i).var.withReverseRoute ⟨i, x.1.now⟩ rreq)
      | none => true) &&
    match x.2.local x.1.sent with
    | some (_, .networkIn packet) =>
      match packet.payload with
      | .rrep rrep => decide (rrep.hopCount ≠ 255)
      | _ => true
    | _ => true

theorem KeepsCounts.of_keepsCounts {nodes : List IPAddress} {x : Net × NetAction}
    (h : keepsCounts nodes x = true) : KeepsCounts nodes x := by
  unfold keepsCounts at h
  rw [Bool.and_eq_true, Bool.and_eq_true, Bool.not_eq_true'] at h
  obtain ⟨⟨hback, hanswers⟩, hsmall⟩ := h
  refine ⟨hback, ?_, ?_⟩
  · intro i packet rreq o hdelivery _ _ _ hanswer
    rw [hdelivery] at hanswers
    simp only [hanswer, Bool.not_true, Bool.false_eq_true] at hanswers
  · intro i packet rrep hlocal hrrep _
    rw [hlocal] at hsmall
    simp only [hrrep, decide_eq_true_eq] at hsmall
    exact hsmall

open Strategy

def answered : List Strategy := [data 1 2 8, hear 2 0, due 2, hear 1 0]

def bothSent (r : List (Net × NetAction) × Net) : Bool :=
  (r.1.all (keepsCounts [1, 2])) && r.2.sent.any Packet.isRREQ && r.2.sent.any Packet.isRREP

theorem answered_bothSent : ((exec (Net.step [1, 2]) Net.init answered).any bothSent) = true := by
  decide +kernel

theorem wellFormed_of_answered : ∃ tr s, NetRun [1, 2] tr s ∧ (∃ p ∈ s.sent, p.isRREQ = true) ∧
    (∃ p ∈ s.sent, p.isRREP = true) ∧ WellFormed [1, 2] tr s := by
  obtain ⟨tr, s, run, htest⟩ := NetRun.of_exec [1, 2] answered bothSent answered_bothSent
  simp only [bothSent, Bool.and_eq_true, List.any_eq_true, List.all_eq_true] at htest
  obtain ⟨⟨hkeeps, hrreq⟩, hrrep⟩ := htest
  exact ⟨tr, s, run, hrreq, hrrep,
    wellFormed_of_run run fun x hx => KeepsCounts.of_keepsCounts (hkeeps x hx)⟩

/-- Device 2 has heard an RREQ of device 1, its neighbour, and hears the RREQ of device 3 for
device 1. -/
def answeredByNeighbour : List Strategy := [data 1 9 8, hear 2 0, data 3 1 5, hear 2 0]

def answersZero (r : List (Net × NetAction) × Net) : Bool :=
  match r.1 with
  | x :: _ =>
    match rreqDelivery [1, 2, 3] x with
    | some (i, _, rreq, o) =>
      decide (i = 2) && decide (rreq.destinationIPAddress = 1) &&
        decide (nextHops x.1 2 rreq 2 = some 1) &&
        o.packets.any fun p =>
          match p.payload with
          | .rrep rrep => decide (rrep.hopCount = 0) && !isBroadcastPacket p
          | _ => false
    | none => false
  | [] => false

theorem answeredByNeighbour_answersZero :
    ((exec (Net.step [1, 2, 3]) Net.init answeredByNeighbour).any answersZero) = true := by
  decide +kernel

/-- Device 3 is two hops from device 1, and is told 0. -/
theorem exists_not_wellFormed : ¬ ∀ nodes tr s, NetRun nodes tr s → WellFormed nodes tr s := by
  intro h
  obtain ⟨tr, s, run, htest⟩ := NetRun.of_exec [1, 2, 3] answeredByNeighbour answersZero
    answeredByNeighbour_answersZero
  have hwell := h [1, 2, 3] tr s run
  cases run with
  | nil => cases htest
  | @snoc pre s₀ _ a run hstep =>
    unfold answersZero at htest
    simp only at htest
    split at htest
    · next i packet rreq o hdelivery =>
      obtain ⟨hact, hrreq⟩ := acts_of_rreqDelivery hdelivery
      simp only [Bool.and_eq_true, decide_eq_true_eq, List.any_eq_true] at htest
      obtain ⟨⟨⟨rfl, hdest⟩, hnext⟩, p, hp, hzero⟩ := htest
      split at hzero
      · next rrep hrrep =>
        simp only [Bool.and_eq_true, decide_eq_true_eq, Bool.not_eq_true'] at hzero
        cases hact.step_eq.symm.trans hstep
        have hinFlight : (s₀.after 2 (.networkIn packet) o).InFlight p := by
          refine Or.inr ⟨2, ?_⟩
          rw [after_device_self]
          unfold Device.pending
          rw [networkOuts_append]
          exact List.mem_append_right _ hp
        have hlength : RouteLength (nextHops s₀ 2 rreq) rreq.destinationIPAddress 2 1 := by
          rw [hdest]
          exact .hop (by decide) hnext .arrived
        have hadvertises : Advertises [1, 2, 3] ((s₀, a) :: pre) p (some 2) := by
          refine .intermediate (r := some 1) rreq hact hrreq ?_ (List.mem_append_left _ hp)
            (isRREP_iff.2 ⟨rrep, hrrep⟩) fun n => ?_
          · rw [hdest]
            decide
          · rw [Option.some.injEq]
            exact ⟨fun heq => heq ▸ hlength, fun hn => hlength.unique hn⟩
        have heq := (hwell.advertises p rrep hinFlight hrrep hzero.2).2 _ hadvertises
        rw [hzero.1] at heq
        cases heq
      · cases hzero
    · cases htest

end NetSim.Aodv
