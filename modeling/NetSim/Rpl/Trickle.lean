import NetSim.Lib.Run

/-!
# The trickle timer of RPL (`Trickle.c`)

The role and the configuration of a node at a reset and the random numbers are inputs. A conversion
of a `double` that does not fit a `UINT` is undefined, as is a remainder by 0.
-/

namespace NetSim.Rpl

open NetSim.Lib

/-- `RPL_DEFAULT_POISON_COUNT`. -/
def poisonCount : UInt8 := 4

/-- What `rpl_node_is_root` and its like tell. -/
inductive Role
  | root
  | joined
  | poisoning
  | isolated
deriving DecidableEq

/-- The parameters of the timer in `root_info` and `joined_dodag`. -/
structure DioConfig where
  dio_interval_min : UInt8
  dio_interval_doublings : UInt8
  dio_redundancy_constant : UInt8

def DioConfig.Fits (config : DioConfig) : Prop :=
  2 ^ config.dio_interval_min.toNat * 1000 / 2 < (2 ^ 32 : ℚ)

inductive SubEvent
  | trickleTTimeout
  | trickleITimeout
deriving DecidableEq

structure TimerEvent where
  id : ℕ
  nSubEventType : SubEvent
  dEventTime : ℚ
deriving DecidableEq

/-- `stru_trickle`. -/
structure Trickle where
  Imin : ℚ
  Imax : ℕ
  k : ℕ
  t : ℚ
  I : ℚ
  C : UInt8
  trickle_i_eventid : ℕ
  trickle_t_eventid : ℕ

/-- A node with its pending timer events and the number of DIOs sent. For the reader: the start of
the interval, the intervals completed since the reset, and the DIOs heard in this one. -/
structure Node where
  role : Role
  config : DioConfig
  trickle : Trickle
  poison_count_so_far : UInt8
  events : List TimerEvent
  nextId : ℕ
  now : ℚ
  undefined : Bool
  sent : ℕ
  started : ℚ
  completed : ℕ
  heard : ℕ

def fnDeleteEvent (id : ℕ) (events : List TimerEvent) : List TimerEvent :=
  events.filter fun e => e.id ≠ id

def Trickle.setTrickleTTime (r : Trickle) (rand : UInt32) : Option Trickle :=
  if r.I / 2 < 2 ^ 32 ∧ ⌊r.I / 2⌋₊ ≠ 0 then
    some { r with t := (rand.toNat % ⌊r.I / 2⌋₊ : ℕ) + r.I / 2 }
  else none

namespace Node

/-- What `rpl_trickle_reset` and `rpl_trickle_handle_i_timeout` end with. -/
def schedule (s : Node) (rand : UInt32) : Node :=
  match s.trickle.setTrickleTTime rand with
  | none => { s with undefined := true }
  | some r =>
    { s with
      trickle := { r with trickle_t_eventid := s.nextId, trickle_i_eventid := s.nextId + 1 }
      events := ⟨s.nextId + 1, .trickleITimeout, s.now + r.I⟩ ::
        ⟨s.nextId, .trickleTTimeout, s.now + r.t⟩ :: s.events
      nextId := s.nextId + 2
      started := s.now
      heard := 0 }

def rplTrickleReset (s : Node) (rand : UInt32) : Node :=
  if s.role = .isolated then s
  else
    let Imin := 2 ^ s.config.dio_interval_min.toNat * 1000
    schedule
      { s with
        trickle :=
          { s.trickle with
            Imin
            Imax := s.config.dio_interval_doublings.toNat
            k := s.config.dio_redundancy_constant.toNat
            I := Imin }
        events := fnDeleteEvent s.trickle.trickle_t_eventid
          (fnDeleteEvent s.trickle.trickle_i_eventid s.events)
        completed := 0 } rand

/-- `rpl_trickle_handle_t_timeout`: `create_current_dio_message` makes a DIO in every role but that
of an isolated node. -/
def rplTrickleHandleTTimeout (s : Node) : Node :=
  if s.role = .isolated then s else { s with sent := s.sent + 1 }

/-- `rpl_trickle_handle_i_timeout`. A node that has poisoned enough joins what
`get_preferred_dodag_dio_pdu` finds, or starts as root: `role` and `config` are those that it has
then. -/
def rplTrickleHandleITimeout (s : Node) (role : Role) (config : DioConfig) (rand : UInt32) : Node :=
  match s.role with
  | .root | .joined =>
    if s.trickle.C.toNat < s.trickle.Imax then
      schedule
        { s with
          trickle := { s.trickle with C := s.trickle.C + 1, I := s.trickle.I * 2 }
          completed := s.completed + 1 } rand
    else schedule { s with completed := s.completed + 1 } rand
  | .poisoning =>
    if s.poison_count_so_far < poisonCount then
      schedule
        { s with
          poison_count_so_far := s.poison_count_so_far + 1
          completed := s.completed + 1 } rand
    else rplTrickleReset { s with role, config } rand
  | .isolated => s

end Node

/-- `join` stands for `join_dodag_iteration`, `update_dodag_config` and `start_as_root`, which reset
the timer under a configuration. -/
inductive Action
  | join (role : Role) (config : DioConfig) (rand : UInt32)
  | startDioPoisoning (rand : UInt32)
  | processDioMsg
  | timeout (e : TimerEvent) (role : Role) (config : DioConfig) (rand : UInt32)

namespace Node

/-- One action at a time that no pending event comes before. A DIO that has not changed leaves the
node alone. -/
def step (s : Node) (x : ℚ × Action) : Option Node :=
  if s.undefined = false ∧ s.now ≤ x.1 ∧ ∀ e ∈ s.events, x.1 ≤ e.dEventTime then
    match x.2 with
    | .join role config rand =>
      if role = .root ∨ role = .joined then
        some (rplTrickleReset { s with now := x.1, role, config } rand)
      else none
    | .startDioPoisoning rand =>
      if s.role = .joined then
        some (rplTrickleReset
          { s with now := x.1, role := .poisoning, poison_count_so_far := 0 } rand)
      else none
    | .processDioMsg => some { s with now := x.1, heard := s.heard + 1 }
    | .timeout e role config rand =>
      if e ∈ s.events ∧ x.1 = e.dEventTime ∧ (role = .root ∨ role = .joined) then
        let s := { s with now := x.1, events := s.events.erase e }
        match e.nSubEventType with
        | .trickleTTimeout => some s.rplTrickleHandleTTimeout
        | .trickleITimeout => some (s.rplTrickleHandleITimeout role config rand)
      else none
  else none

def start (config : DioConfig) : Node :=
  { role := .isolated
    config
    trickle :=
      { Imin := 0, Imax := 0, k := 0, t := 0, I := 0, C := 0, trickle_i_eventid := 0
        trickle_t_eventid := 0 }
    poison_count_so_far := 0
    events := []
    nextId := 1
    now := 0
    undefined := false
    sent := 0
    started := 0
    completed := 0
    heard := 0 }

def iEvent (s : Node) : TimerEvent :=
  ⟨s.trickle.trickle_i_eventid, .trickleITimeout, s.started + s.trickle.I⟩

def tEvent (s : Node) : TimerEvent :=
  ⟨s.trickle.trickle_t_eventid, .trickleTTimeout, s.started + s.trickle.t⟩

/-- The interval, its transmission instant and the pending events of a node with a timer. -/
structure Right (s : Node) : Prop where
  Imin : s.trickle.Imin = 2 ^ s.config.dio_interval_min.toNat * 1000
  interval : s.trickle.I = s.trickle.Imin * 2 ^ min s.completed s.trickle.Imax
  divisor : 0 < ⌊s.trickle.I / 2⌋₊ ∧ s.trickle.I / 2 < 2 ^ 32
  instant : s.trickle.I / 2 ≤ s.trickle.t ∧ s.trickle.t < s.trickle.I
  events : s.events = [s.iEvent, s.tEvent] ∨ s.events = [s.iEvent] ∧ s.tEvent.dEventTime ≤ s.now

def SendsDio (s : Node) (x : ℚ × Action) : Prop :=
  (∃ role config rand, x.2 = .timeout s.tEvent role config rand) ∧ s.heard < s.trickle.k

/-- A DIO is sent at the transmission instant of an interval in which fewer than `k` were heard, and
at no other time. -/
def SendsRight (s : Node) (x : ℚ × Action) : Prop :=
  ∀ s', s.step x = some s' →
    (s.SendsDio x → s'.sent = s.sent + 1) ∧ (¬s.SendsDio x → s'.sent = s.sent)

/-- The condition at the end of an interval: `C` tells whether it is to be doubled, as it would if a
reset set it back, and a node that poisons has no doublings left. -/
def EndMeets (s : Node) (config : DioConfig) : Prop :=
  if s.role = .poisoning then
    if s.poison_count_so_far < poisonCount then s.trickle.Imax ≤ s.completed else config.Fits
  else
    (s.trickle.C.toNat < s.trickle.Imax ↔ s.completed < s.trickle.Imax) ∧
      (s.completed < s.trickle.Imax → s.trickle.I < 2 ^ 32)

/-- The condition on an action: at a transmission instant fewer than `k` DIOs were heard, and the
halves of the intervals fit a `UINT`. -/
def Meets (s : Node) (x : ℚ × Action) : Prop :=
  match x.2 with
  | .join _ config _ => config.Fits
  | .startDioPoisoning _ | .processDioMsg => True
  | .timeout e _ config _ =>
    if e.nSubEventType = .trickleTTimeout then s.heard < s.trickle.k else s.EndMeets config

structure Inv (s : Node) : Prop where
  defined : s.undefined = false
  right : s.role ≠ .isolated → s.Right
  idle : s.role = .isolated → s.events = []

variable {s s' : Node} {x : ℚ × Action} {rand : UInt32}

/-- An interval can be scheduled. -/
structure Ready (s : Node) : Prop where
  role : s.role ≠ .isolated
  defined : s.undefined = false
  Imin : s.trickle.Imin = 2 ^ s.config.dio_interval_min.toNat * 1000
  interval : s.trickle.I = s.trickle.Imin * 2 ^ min s.completed s.trickle.Imax
  fits : s.trickle.I / 2 < 2 ^ 32

theorem Ready.le_interval (h : s.Ready) :
    2 ^ s.config.dio_interval_min.toNat * 1000 ≤ s.trickle.I ∧ 1000 ≤ s.trickle.I := by
  have hone : (1 : ℚ) ≤ 2 ^ s.config.dio_interval_min.toNat := one_le_pow₀ one_le_two
  have hImin : s.trickle.Imin ≤ s.trickle.I := by
    rw [h.interval]
    have hpos : 0 ≤ s.trickle.Imin := by
      rw [h.Imin]
      positivity
    exact le_mul_of_one_le_right hpos (one_le_pow₀ one_le_two)
  rw [h.Imin] at hImin
  exact ⟨hImin, by linarith⟩

theorem Ready.schedule (h : s.Ready) (hevents : s.events = []) :
    (s.schedule rand).Inv ∧ (s.schedule rand).sent = s.sent := by
  have hI := h.le_interval.2
  have hfloor : 0 < ⌊s.trickle.I / 2⌋₊ := Nat.floor_pos.2 (by linarith)
  have hle : (⌊s.trickle.I / 2⌋₊ : ℚ) ≤ s.trickle.I / 2 := Nat.floor_le (by linarith)
  have hmod : ((rand.toNat % ⌊s.trickle.I / 2⌋₊ : ℕ) : ℚ) < ⌊s.trickle.I / 2⌋₊ :=
    Nat.cast_lt.2 (Nat.mod_lt _ hfloor)
  unfold Node.schedule Trickle.setTrickleTTime
  rw [if_pos ⟨h.fits, hfloor.ne'⟩]
  refine ⟨⟨h.defined, fun _ => ⟨h.Imin, h.interval, ⟨hfloor, h.fits⟩, ⟨?_, ?_⟩, .inl ?_⟩,
    fun hidle => absurd hidle h.role⟩, rfl⟩
  · exact le_add_of_nonneg_left (Nat.cast_nonneg _)
  · dsimp only
    linarith
  · dsimp only
    rw [hevents]
    rfl

theorem reset_inv (hrole : s.role ≠ .isolated) (hdefined : s.undefined = false)
    (hids : ∀ e ∈ s.events, e.id = s.trickle.trickle_i_eventid ∨ e.id = s.trickle.trickle_t_eventid)
    (hfits : s.config.Fits) :
    (s.rplTrickleReset rand).Inv ∧ (s.rplTrickleReset rand).sent = s.sent := by
  unfold rplTrickleReset
  rw [if_neg hrole]
  refine Ready.schedule ⟨hrole, hdefined, rfl, by simp, hfits⟩ ?_
  refine List.filter_eq_nil_iff.2 fun e he => ?_
  obtain ⟨he, hi⟩ := List.mem_filter.1 he
  rcases hids e he with h | h
  · exact absurd h (of_decide_eq_true hi)
  · simp [h]

theorem Inv.ids (h : s.Inv) : ∀ e ∈ s.events,
    e.id = s.trickle.trickle_i_eventid ∨ e.id = s.trickle.trickle_t_eventid := by
  intro e he
  by_cases hrole : s.role = .isolated
  · rw [h.idle hrole] at he
    cases he
  have hmem : e ∈ [s.iEvent, s.tEvent] := by
    rcases (h.right hrole).events with hevents | ⟨hevents, -⟩
    · exact hevents ▸ he
    · rw [hevents] at he
      rw [List.mem_singleton.1 he]
      exact List.mem_cons_self
  rcases List.mem_cons.1 hmem with rfl | hmem
  · exact .inl rfl
  · rw [List.mem_singleton.1 hmem]
    exact .inr rfl

theorem Inv.ready (h : s.Inv) (hrole : s.role ≠ .isolated) : s.Ready :=
  ⟨hrole, h.defined, (h.right hrole).Imin, (h.right hrole).interval, (h.right hrole).divisor.2⟩

/-- What is pending when the timer of the transmission comes. -/
theorem Right.tTimeout (h : s.Right) {e : TimerEvent} (he : e ∈ s.events)
    (hkind : e.nSubEventType = .trickleTTimeout) :
    e = s.tEvent ∧ s.events.erase e = [s.iEvent] := by
  rcases h.events with hevents | ⟨hevents, -⟩
  · rw [hevents] at he ⊢
    rcases List.mem_cons.1 he with rfl | he
    · cases hkind
    · cases List.mem_singleton.1 he
      refine ⟨rfl, ?_⟩
      rw [List.erase_cons_tail (by simp [iEvent, tEvent]), List.erase_cons_head]
  · rw [hevents] at he
    cases List.mem_singleton.1 he
    cases hkind

/-- Nothing else is pending when the interval is over. -/
theorem Right.iTimeout (h : s.Right) {e : TimerEvent} (he : e ∈ s.events)
    (hkind : e.nSubEventType = .trickleITimeout)
    (hfirst : ∀ e' ∈ s.events, e.dEventTime ≤ e'.dEventTime) : s.events.erase e = [] := by
  rcases h.events with hevents | ⟨hevents, -⟩
  · rw [hevents] at he hfirst
    rcases List.mem_cons.1 he with rfl | he
    · have hle := hfirst s.tEvent (List.mem_cons_of_mem _ List.mem_cons_self)
      have hlt := h.instant.2
      simp only [iEvent, tEvent] at hle
      linarith
    · cases List.mem_singleton.1 he
      cases hkind
  · rw [hevents] at he ⊢
    cases List.mem_singleton.1 he
    exact List.erase_cons_head _ _

theorem Ready.handleITimeout (h : s.Ready) (hevents : s.events = []) {role : Role}
    {config : DioConfig} (hnew : role = .root ∨ role = .joined) (hmeets : s.EndMeets config) :
    (s.rplTrickleHandleITimeout role config rand).Inv ∧
      (s.rplTrickleHandleITimeout role config rand).sent = s.sent := by
  unfold EndMeets at hmeets
  have hlast (hle : s.trickle.Imax ≤ s.completed) : s.trickle.I =
      s.trickle.Imin * 2 ^ min (s.completed + 1) s.trickle.Imax := by
    rw [h.interval, min_eq_right hle, min_eq_right (by omega)]
  have hmember (hr : s.role = .root ∨ s.role = .joined) :
      (s.rplTrickleHandleITimeout role config rand).Inv ∧
        (s.rplTrickleHandleITimeout role config rand).sent = s.sent := by
    have heq : s.rplTrickleHandleITimeout role config rand =
        if s.trickle.C.toNat < s.trickle.Imax then
          Node.schedule
            { s with
              trickle := { s.trickle with C := s.trickle.C + 1, I := s.trickle.I * 2 }
              completed := s.completed + 1 } rand
        else Node.schedule { s with completed := s.completed + 1 } rand := by
      rcases hr with hr | hr <;> simp only [rplTrickleHandleITimeout, hr]
    rw [if_neg (by rcases hr with hr | hr <;> simp [hr])] at hmeets
    rw [heq]
    obtain ⟨hcounts, hroom⟩ := hmeets
    split
    · next hlt =>
      have hless := hcounts.1 hlt
      refine Ready.schedule ⟨h.role, h.defined, h.Imin, ?_, ?_⟩ hevents
      · dsimp only
        rw [h.interval, min_eq_left hless.le, min_eq_left hless, pow_succ, mul_assoc]
      · dsimp only
        rw [mul_div_cancel_right₀ _ two_ne_zero]
        exact hroom hless
    · next hge =>
      have hle := not_lt.1 fun hlt => hge (hcounts.2 hlt)
      exact Ready.schedule ⟨h.role, h.defined, h.Imin, hlast hle, h.fits⟩ hevents
  cases hr : s.role with
  | root => exact hmember (.inl hr)
  | joined => exact hmember (.inr hr)
  | isolated => exact absurd hr h.role
  | poisoning =>
    rw [if_pos hr] at hmeets
    simp only [rplTrickleHandleITimeout, hr]
    split
    · next hpoison =>
      rw [if_pos hpoison] at hmeets
      exact Ready.schedule ⟨by simp, h.defined, h.Imin, hlast hmeets, h.fits⟩ hevents
    · next hpoison =>
      rw [if_neg hpoison] at hmeets
      refine reset_inv ?_ h.defined ?_ hmeets
      · rcases hnew with rfl | rfl <;> simp
      · intro e he
        rw [hevents] at he
        cases he

theorem Inv.step (h : s.Inv) (hmeets : s.Meets x) (hs : s.step x = some s') :
    s'.Inv ∧ (s.SendsDio x → s'.sent = s.sent + 1) ∧ (¬s.SendsDio x → s'.sent = s.sent) := by
  obtain ⟨time, action⟩ := x
  have hother (hnew : s'.Inv ∧ s'.sent = s.sent) (hnot : ¬s.SendsDio (time, action)) :
      s'.Inv ∧ (s.SendsDio (time, action) → s'.sent = s.sent + 1) ∧
        (¬s.SendsDio (time, action) → s'.sent = s.sent) :=
    ⟨hnew.1, fun hsends => absurd hsends hnot, fun _ => hnew.2⟩
  unfold Node.step at hs
  split at hs
  swap
  · cases hs
  next hguard =>
  obtain ⟨-, hnow, hfirst⟩ := hguard
  cases action with
  | join role config rand =>
    refine hother ?_ fun ⟨⟨_, _, _, heq⟩, _⟩ => nomatch heq
    dsimp only at hs
    split at hs
    · next hnew =>
      cases hs
      refine reset_inv ?_ h.defined h.ids hmeets
      rcases hnew with rfl | rfl <;> simp
    · cases hs
  | startDioPoisoning rand =>
    refine hother ?_ fun ⟨⟨_, _, _, heq⟩, _⟩ => nomatch heq
    dsimp only at hs
    split at hs
    · next hjoined =>
      have hready := h.ready (by simp [hjoined])
      cases hs
      refine reset_inv (by simp) h.defined h.ids ?_
      have hle := hready.le_interval.1
      have hfits := hready.fits
      unfold DioConfig.Fits
      linarith
    · cases hs
  | processDioMsg =>
    refine hother ?_ fun ⟨⟨_, _, _, heq⟩, _⟩ => nomatch heq
    cases hs
    refine ⟨⟨h.defined, fun hrole => ?_, h.idle⟩, rfl⟩
    have hright := h.right hrole
    refine ⟨hright.Imin, hright.interval, hright.divisor, hright.instant, ?_⟩
    exact hright.events.imp_right fun hlast => ⟨hlast.1, hlast.2.trans hnow⟩
  | timeout e role config rand =>
    dsimp only at hs hfirst
    split at hs
    swap
    · cases hs
    next hdue =>
    obtain ⟨he, rfl, hnew⟩ := hdue
    have hrole : s.role ≠ .isolated := by
      intro hrole
      rw [h.idle hrole] at he
      cases he
    have hright := h.right hrole
    cases hkind : e.nSubEventType with
    | trickleTTimeout =>
      simp only [hkind, Option.some.injEq, rplTrickleHandleTTimeout, if_neg hrole] at hs
      simp only [Meets, hkind] at hmeets
      obtain ⟨heq, hlast⟩ := hright.tTimeout he hkind
      have hsends : s.SendsDio (e.dEventTime, .timeout e role config rand) :=
        ⟨⟨role, config, rand, by rw [← heq]⟩, hmeets⟩
      rw [← hs]
      refine ⟨⟨h.defined, fun _ => ?_, fun hidle => absurd hidle hrole⟩, fun _ => rfl,
        fun hnot => absurd hsends hnot⟩
      refine ⟨hright.Imin, hright.interval, hright.divisor, hright.instant, .inr ⟨hlast, ?_⟩⟩
      rw [heq]
      exact le_rfl
    | trickleITimeout =>
      simp only [hkind, Option.some.injEq] at hs
      simp only [Meets, hkind] at hmeets
      refine hother ?_ ?_
      · have hready := h.ready hrole
        rw [← hs]
        exact Ready.handleITimeout (s := { s with now := e.dEventTime, events := s.events.erase e })
          ⟨hrole, h.defined, hready.Imin, hready.interval, hready.fits⟩
          (hright.iTimeout he hkind hfirst) hnew hmeets
      · rintro ⟨⟨_, _, _, heq⟩, -⟩
        cases heq
        cases hkind

/-- In every run whose steps meet the condition the timer is that of its interval, and DIOs are sent
where fewer than `k` were heard. -/
theorem trickle_right {config : DioConfig} {tr : List (Node × (ℚ × Action))}
    (run : Run step (start config) tr s) (hmeets : ∀ x ∈ tr, x.1.Meets x.2) :
    s.undefined = false ∧ (s.role ≠ .isolated → s.Right) ∧ ∀ x ∈ tr, x.1.SendsRight x.2 := by
  have hinv : ∀ {tr s}, Run step (start config) tr s → (∀ x ∈ tr, x.1.Meets x.2) → s.Inv := by
    intro tr s run hmeets
    refine run.induction (P := fun _ s => s.Inv) ⟨rfl, fun h => absurd rfl h, fun _ => rfl⟩ ?_ hmeets
    intro _ _ _ _ _ h hmeets hs
    exact (h.step hmeets hs).1
  refine ⟨(hinv run hmeets).defined, (hinv run hmeets).right, fun x hx s' hs => ?_⟩
  obtain ⟨pre, post, _, rfl, hpre, -⟩ := run.prefix_of_mem hx
  have hmeets_pre : ∀ y ∈ pre, y.1.Meets y.2 := fun y hy =>
    hmeets y (List.mem_append_right _ (List.mem_cons_of_mem _ hy))
  exact ((hinv hpre hmeets_pre).step (hmeets x hx) hs).2

instance (config : DioConfig) : Decidable config.Fits := by
  unfold DioConfig.Fits
  infer_instance

instance (s : Node) (config : DioConfig) : Decidable (s.EndMeets config) := by
  unfold EndMeets
  infer_instance

instance (s : Node) (x : ℚ × Action) : Decidable (s.Meets x) := by
  unfold Meets
  split <;> infer_instance

/-- The event that comes next. -/
def due (config : DioConfig) (s : Node) : Option (ℚ × Action) :=
  s.events.getLast?.map fun e => (e.dEventTime, .timeout e .root config 7)

/-- A root whose interval is doubled once joins a DODAG without doublings, poisons, and is root. -/
theorem trickle_right_poisoned :
    ∃ tr s, Run step (start ⟨0, 0, 1⟩) tr s ∧
      (s.undefined = false ∧ (s.role ≠ .isolated → s.Right) ∧ ∀ x ∈ tr, x.1.SendsRight x.2) ∧
      s.role = .root ∧ s.sent = 7 := by
  have hexec : (exec step (start ⟨0, 0, 1⟩)
      ([fun _ => some (0, .join .root ⟨0, 1, 1⟩ 7), due ⟨0, 0, 1⟩, due ⟨0, 0, 1⟩, due ⟨0, 0, 1⟩,
        fun s => some (s.now, .join .joined ⟨0, 0, 1⟩ 7),
        fun s => some (s.now, .startDioPoisoning 7)] ++ List.replicate 10 (due ⟨0, 0, 1⟩))).any
      (fun r => decide ((∀ x ∈ r.1, x.1.Meets x.2) ∧ r.2.role = .root ∧ r.2.sent = 7)) = true := by
    decide +kernel
  obtain ⟨tr, s, run, h⟩ := run_of_exec hexec
  obtain ⟨hmeets, hrole, hsent⟩ := of_decide_eq_true h
  exact ⟨tr, s, run, trickle_right run hmeets, hrole, hsent⟩

/-- A reset leaves `C` at its doublings: the interval is not doubled again. -/
theorem not_trickle_right :
    ¬ ∀ (config : DioConfig) (tr : List (Node × (ℚ × Action))) (s : Node),
      Run step (start config) tr s →
        s.undefined = false ∧ (s.role ≠ .isolated → s.Right) ∧ ∀ x ∈ tr, x.1.SendsRight x.2 := by
  intro hall
  have hexec : (exec step (start ⟨0, 1, 1⟩)
      [fun _ => some (0, .join .root ⟨0, 1, 1⟩ 7), due ⟨0, 1, 1⟩, due ⟨0, 1, 1⟩,
        fun s => some (s.now, .join .root ⟨0, 1, 1⟩ 7), due ⟨0, 1, 1⟩, due ⟨0, 1, 1⟩]).any
      (fun r => decide (r.2.role = .root ∧ r.2.trickle.I = 1000 ∧ r.2.trickle.Imin = 1000 ∧
        r.2.completed = 1 ∧ r.2.trickle.Imax = 1)) = true := by
    decide +kernel
  obtain ⟨tr, s, run, h⟩ := run_of_exec hexec
  obtain ⟨hrole, hI, hImin, hcompleted, hImax⟩ := of_decide_eq_true h
  have hinterval := ((hall _ tr s run).2.1 (ne_of_eq_of_ne hrole (by decide))).interval
  rw [hI, hImin, hcompleted, hImax] at hinterval
  norm_num at hinterval

end Node

end NetSim.Rpl
