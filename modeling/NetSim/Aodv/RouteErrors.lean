import NetSim.Aodv.Node

/-!
# Route errors, list by list (`AODV_RouteError.c`)

The loop of `GenerateRERR` that shifts the precursor list in place while its length changes, with a
read beyond the list as a failure.
-/

namespace NetSim.Aodv

/-! ## The loop over the precursor list -/

structure PrecursorLoop where
  list : List IPAddress
  count : ℕ
  flag : Bool

/-- One turn of the loop, `none` if it reads beyond the list. -/
def precursorTurn (unreachableIP : IPAddress) (loop : ℕ) (s : PrecursorLoop) : Option PrecursorLoop :=
  match s.list[loop]? with
  | none => none
  | some ip =>
    let s := if ip = unreachableIP then { s with count := s.count - 1, flag := true } else s
    if s.flag then
      match s.list[loop + 1]? with
      | none => none
      | some next => some { s with list := s.list.set loop next }
    else some s

/-- The loop from `loop` on. -/
def precursorTurns (unreachableIP : IPAddress) : ℕ → ℕ → PrecursorLoop → Option PrecursorLoop
  | 0, _, s => some s
  | fuel + 1, loop, s =>
    if loop < s.count then
      match precursorTurn unreachableIP loop s with
      | none => none
      | some s => precursorTurns unreachableIP fuel (loop + 1) s
    else some s

/-- The precursor list after the loop; `count` only falls, so there are no more turns than elements.
-/
def removePrecursor (unreachableIP : IPAddress) (list : List IPAddress) : Option (List IPAddress) :=
  (precursorTurns unreachableIP list.length 0 ⟨list, list.length, false⟩).map fun s =>
    s.list.take s.count

/-! ## `fn_NetSim_AODV_GenerateRERR` -/

def brokenRoutes (unreachableIP : IPAddress) (s : Sim) : List RouteTable :=
  s.devVar.routeTable.filter fun table => table.nextHop = unreachableIP

/-- `GenerateRERR`, with `list` for the precursor list that its loop leaves. -/
def sendRERR (c : Curr) (unreachableIP : IPAddress) (list : List IPAddress) (s : Sim) : Sim :=
  let broken := brokenRoutes unreachableIP s
  let s := s.modifyVar fun v => { v with
    ncounter := v.ncounter - 1
    routeTable := v.routeTable.map fun table =>
      if table.nextHop = unreachableIP then table.invalidate c else table
    precursorsList := some list }
  if broken = [] then s
  else
    s.addEvent c.dEventTime <| .networkOut
      { generateCtrlPacket c.ip none none (.ofNat aodvNetDiameter) (.rerr (newRERR broken)) with
        szNextHopIp := none }

/-- `fn_NetSim_AODV_GenerateRERR`, with its loop over the precursor list. -/
def generateRERRInPlace (c : Curr) (unreachableIP : IPAddress) (s : Sim) : Option Sim :=
  match s.devVar.precursorsList with
  | none => none
  | some list =>
    (removePrecursor unreachableIP list).map fun list => sendRERR c unreachableIP list s

theorem generateRERR_eq (c : Curr) (unreachableIP : IPAddress) (s : Sim) :
    generateRERR c unreachableIP s =
      s.devVar.precursorsList.map fun list => sendRERR c unreachableIP (list.erase unreachableIP) s := by
  unfold generateRERR
  cases s.devVar.precursorsList <;> rfl

/-! ## What the loop does -/

section Loop

variable {u : IPAddress} {done rest l₁ l₂ : List IPAddress} {c fuel i p : ℕ}

theorem precursorTurn_keeps {x : IPAddress} (hx : x ≠ u) (hi : done.length = i) :
    precursorTurn u i ⟨done ++ x :: rest, c, false⟩ = some ⟨done ++ x :: rest, c, false⟩ := by
  unfold precursorTurn
  have hget : (done ++ x :: rest)[i]? = some x := by simp [← hi]
  simp only [hget, if_neg hx]
  rfl

theorem precursorTurn_shifts {x y : IPAddress} {flag : Bool} (hflag : flag = true ∨ x = u)
    (hi : done.length = i) :
    precursorTurn u i ⟨done ++ x :: y :: rest, c, flag⟩ =
      some ⟨done ++ y :: y :: rest, if x = u then c - 1 else c, true⟩ := by
  unfold precursorTurn
  have hget : (done ++ x :: y :: rest)[i]? = some x := by simp [← hi]
  have hget' : (done ++ x :: y :: rest)[i + 1]? = some y := by simp [← hi]
  have hset : (done ++ x :: y :: rest).set i y = done ++ y :: y :: rest := by
    rw [← hi, List.set_append_right _ _ le_rfl, Nat.sub_self]
    rfl
  by_cases hx : x = u
  · subst hx
    simp [hget, hget', hset]
  · have hflag : flag = true := hflag.resolve_right hx
    simp [hget, hget', hset, hx, hflag]

theorem precursorTurn_last (hi : done.length = i) {flag : Bool} :
    precursorTurn u i ⟨done ++ [u], c, flag⟩ = none := by
  unfold precursorTurn
  have hget : (done ++ [u])[i]? = some u := by simp [← hi]
  have hget' : (done ++ [u])[i + 1]? = none := by simp [← hi]
  simp [hget, hget']

theorem take_append_of_le (hi : done.length = i) (hc : c ≤ i) (l₁ l₂ : List IPAddress) :
    (done ++ l₁).take c = (done ++ l₂).take c := by
  rw [List.take_append_of_le_length (by omega), List.take_append_of_le_length (by omega)]

/-- The list once the neighbour has been found: the rest is shifted by one. -/
structure Shifted (u : IPAddress) (i c : ℕ) (done rest : List IPAddress) (s : PrecursorLoop) : Prop where
  count_le : s.count ≤ c
  take : s.list.take s.count = (done ++ rest.tail).take s.count
  of_notMem : u ∉ rest → s.count = c
  of_le : c ≤ i → s.count = c
  le_count : ∀ p, u ∉ rest.take p → i + p ≤ c → i + p ≤ s.count

theorem shifted_self (hi : done.length = i) (hc : c ≤ i) :
    Shifted u i c done rest ⟨done ++ rest, c, true⟩ :=
  ⟨le_rfl, take_append_of_le hi hc _ _, fun _ => rfl, fun _ => rfl, fun _ _ h => h⟩

theorem Shifted.cons {x y : IPAddress} {s : PrecursorLoop} (hlt : i < c)
    (h : Shifted u (i + 1) (if x = u then c - 1 else c) (done ++ [y]) (y :: rest) s) :
    Shifted u i c done (x :: y :: rest) s := by
  have hcount : (if x = u then c - 1 else c) ≤ c := by
    split <;> omega
  refine ⟨h.count_le.trans hcount, ?_, ?_, fun hle => absurd hlt (not_lt.2 hle), ?_⟩
  · rw [h.take]
    simp
  · intro hu
    have hx : x ≠ u := fun he => hu (he ▸ List.mem_cons_self)
    rw [h.of_notMem fun hu' => hu (List.mem_cons_of_mem _ hu'), if_neg hx]
  · intro p hp hle
    cases p with
    | zero =>
      by_cases hnext : i + 1 ≤ if x = u then c - 1 else c
      · have := h.le_count 0 (by simp) hnext
        omega
      · have := h.of_le (by omega)
        split at this <;> omega
    | succ p =>
      have hx : x ≠ u := by
        rintro rfl
        exact hp List.mem_cons_self
      rw [if_neg hx] at h
      have := h.le_count p (fun hu => hp (List.mem_cons_of_mem _ hu)) (by omega)
      omega

theorem precursorTurns_shift :
    ∀ (fuel i c : ℕ) (done rest : List IPAddress), done.length = i → c < i + rest.length →
      c ≤ i + fuel → ∃ s, precursorTurns u fuel i ⟨done ++ rest, c, true⟩ = some s ∧
        Shifted u i c done rest s
  | 0, i, c, done, rest, hi, _, hfuel => ⟨_, rfl, shifted_self hi hfuel⟩
  | fuel + 1, i, c, done, rest, hi, hc, hfuel => by
    unfold precursorTurns
    by_cases hlt : i < c
    · obtain ⟨x, y, rest, rfl⟩ : ∃ x y rest', rest = x :: y :: rest' := by
        match rest with
        | [] => simp at hc; omega
        | [x] => simp at hc; omega
        | x :: y :: rest => exact ⟨x, y, rest, rfl⟩
      rw [if_pos hlt, precursorTurn_shifts (.inl rfl) hi]
      have hcount : (if x = u then c - 1 else c) ≤ c := by
        split <;> omega
      simp only [List.length_cons] at hc
      obtain ⟨s, hs, hshifted⟩ := precursorTurns_shift fuel (i + 1) (if x = u then c - 1 else c)
        (done ++ [y]) (y :: rest) (by simp [hi]) (by simp; omega) (by omega)
      refine ⟨s, ?_, hshifted.cons hlt⟩
      simpa using hs
    · rw [if_neg hlt]
      exact ⟨_, rfl, shifted_self hi (not_lt.1 hlt)⟩

theorem precursorTurns_keeps :
    ∀ (fuel i c : ℕ) (done l₁ rest : List IPAddress), done.length = i → u ∉ l₁ → i + l₁.length ≤ c →
      precursorTurns u (l₁.length + fuel) i ⟨done ++ (l₁ ++ rest), c, false⟩ =
        precursorTurns u fuel (i + l₁.length) ⟨(done ++ l₁) ++ rest, c, false⟩
  | fuel, i, c, done, [], rest, hi, _, _ => by simp
  | fuel, i, c, done, x :: l₁, rest, hi, hu, hc => by
    have hx : x ≠ u := fun he => hu (he ▸ List.mem_cons_self)
    simp only [List.length_cons] at hc ⊢
    rw [show l₁.length + 1 + fuel = (l₁.length + fuel) + 1 by omega]
    rw [precursorTurns, if_pos (show i < c by omega), List.cons_append, precursorTurn_keeps hx hi]
    have ih := precursorTurns_keeps fuel (i + 1) c (done ++ [x]) l₁ rest (by simp [hi])
      (fun h => hu (List.mem_cons_of_mem _ h)) (by omega)
    simp only [List.append_assoc, List.singleton_append] at ih ⊢
    rw [ih, show i + 1 + l₁.length = i + (l₁.length + 1) by omega]

theorem removePrecursor_of_notMem {list : List IPAddress} (hu : u ∉ list) :
    removePrecursor u list = some list := by
  unfold removePrecursor
  have h := precursorTurns_keeps 0 0 list.length [] list [] rfl hu (by simp)
  simp only [List.append_nil, List.nil_append, Nat.add_zero] at h
  rw [h]
  simp [precursorTurns]

theorem removePrecursor_eq (hu : u ∉ l₁) :
    removePrecursor u (l₁ ++ u :: l₂) =
      (precursorTurns u (l₂.length + 1) l₁.length
        ⟨l₁ ++ u :: l₂, (l₁ ++ u :: l₂).length, false⟩).map fun s => s.list.take s.count := by
  unfold removePrecursor
  have h := precursorTurns_keeps (l₂.length + 1) 0 (l₁ ++ u :: l₂).length [] l₁ (u :: l₂) rfl hu (by simp)
  simp only [List.nil_append, Nat.zero_add] at h
  rw [show (l₁ ++ u :: l₂).length = l₁.length + (l₂.length + 1) by simp] at h ⊢
  rw [h]

theorem removePrecursor_last (hu : u ∉ l₁) : removePrecursor u (l₁ ++ [u]) = none := by
  rw [removePrecursor_eq hu, precursorTurns, if_pos (by simp), precursorTurn_last rfl]
  rfl

theorem removePrecursor_middle (hu : u ∉ l₁) (y : IPAddress) (l₂ : List IPAddress) :
    ∃ n, removePrecursor u (l₁ ++ u :: y :: l₂) = some ((l₁ ++ y :: l₂).take n) ∧
      (u ∉ y :: l₂ → n = (l₁ ++ y :: l₂).length) ∧
      ∀ p, u ∉ (y :: l₂).take p → p ≤ l₂.length → l₁.length + 1 + p ≤ n := by
  have hlen : (l₁ ++ u :: y :: l₂).length = l₁.length + 1 + (y :: l₂).length := by
    simp
    omega
  obtain ⟨s, hs, hshifted⟩ := precursorTurns_shift (u := u) (y :: l₂).length (l₁.length + 1)
    (l₁.length + (y :: l₂).length) (l₁ ++ [y]) (y :: l₂) (by simp) (by simp) (by omega)
  refine ⟨s.count, ?_, ?_, ?_⟩
  · rw [removePrecursor_eq hu, precursorTurns, if_pos (by simp), precursorTurn_shifts (.inr rfl) rfl]
    rw [if_pos rfl, hlen]
    have hcount : l₁.length + 1 + (y :: l₂).length - 1 = l₁.length + (y :: l₂).length := by omega
    rw [hcount]
    simp only [List.append_assoc, List.singleton_append] at hs
    simp only [hs, Option.map_some, hshifted.take]
    simp
  · intro hy
    rw [hshifted.of_notMem hy]
    simp
  · intro p hp hle
    exact hshifted.le_count p hp (by simp; omega)

theorem filter_ne_of_notMem {l : List IPAddress} (hu : u ∉ l) : l.filter (· ≠ u) = l := by
  rw [List.filter_eq_self]
  exact fun x hx => decide_eq_true fun he => hu (he ▸ hx)

theorem erase_eq_filter {l : List IPAddress} (hcount : l.count u ≤ 1) :
    l.erase u = l.filter (· ≠ u) := by
  by_cases hu : u ∈ l
  · obtain ⟨l₁, l₂, rfl, hu1⟩ := List.eq_append_cons_of_mem hu
    have hu2 : u ∉ l₂ := by
      intro hu2
      have hpos := List.count_pos_iff.2 hu2
      rw [List.count_append, List.count_cons_self] at hcount
      omega
    rw [List.erase_append_right _ hu1, List.erase_cons_head, List.filter_append,
      List.filter_cons_of_neg (by simp), filter_ne_of_notMem hu1, filter_ne_of_notMem hu2]
  · rw [List.erase_of_not_mem hu, filter_ne_of_notMem hu]

theorem removePrecursor_iff {list : List IPAddress} :
    removePrecursor u list = some (list.filter (· ≠ u)) ↔
      list.count u ≤ 1 ∧ list.getLast? ≠ some u := by
  by_cases hu : u ∈ list
  · obtain ⟨l₁, l₂, rfl, hu1⟩ := List.eq_append_cons_of_mem hu
    match l₂ with
    | [] =>
      rw [removePrecursor_last hu1]
      exact iff_of_false nofun fun h => h.2 (by simp)
    | y :: l₂ =>
      obtain ⟨n, hn, hall, hle⟩ := removePrecursor_middle hu1 y l₂
      rw [hn, Option.some.injEq]
      by_cases hu2 : u ∈ y :: l₂
      · have htwo : ¬ (l₁ ++ u :: y :: l₂).count u ≤ 1 := by
          have hpos := List.count_pos_iff.2 hu2
          rw [List.count_append, List.count_cons_self]
          omega
        refine iff_of_false (fun heq => ?_) fun h => htwo h.1
        -- Its second occurrence has been shifted to a place below `count`.
        obtain ⟨l3, l4, hsplit, hu3⟩ := List.eq_append_cons_of_mem hu2
        have hlen := congrArg List.length hsplit
        simp only [List.length_cons, List.length_append] at hlen
        have hcount := hle l3.length (by rw [hsplit]; simpa using hu3) (by omega)
        have hmem : u ∈ (l₁ ++ y :: l₂).take n := by
          rw [hsplit, ← List.append_assoc, List.take_append]
          obtain ⟨k, hk⟩ : ∃ k, n - (l₁ ++ l3).length = k + 1 := by
            refine ⟨n - (l₁ ++ l3).length - 1, ?_⟩
            rw [List.length_append]
            omega
          rw [hk]
          exact List.mem_append_right _ List.mem_cons_self
        rw [heq, List.mem_filter] at hmem
        exact of_decide_eq_true hmem.2 rfl
      · rw [hall hu2, List.take_length]
        have hlast : (l₁ ++ u :: y :: l₂).getLast? ≠ some u := by
          intro h
          rw [List.getLast?_append_of_ne_nil _ (by simp), List.getLast?_cons_cons] at h
          exact hu2 (List.mem_of_getLast? h)
        refine iff_of_true ?_ ⟨?_, hlast⟩
        · rw [List.filter_append, List.filter_cons_of_neg (by simp), filter_ne_of_notMem hu1,
            filter_ne_of_notMem hu2]
        · rw [List.count_append, List.count_cons_self, List.count_eq_zero_of_not_mem hu1,
            List.count_eq_zero_of_not_mem hu2]
  · rw [removePrecursor_of_notMem hu, filter_ne_of_notMem hu]
    refine iff_of_true rfl ⟨?_, ?_⟩
    · rw [List.count_eq_zero_of_not_mem hu]
      omega
    · exact fun h => hu (List.mem_of_getLast? h)

end Loop

/-! ## Exact route errors -/

structure MarkedFor (unreachableIP : IPAddress) (table table' : RouteTable) : Prop where
  marked : table.nextHop = unreachableIP → table'.routingFlags = .inValid
  kept : table.nextHop ≠ unreachableIP → table' = table
  same : table'.destinationIPAddress = table.destinationIPAddress ∧
    table'.destinationSequenceNumber = table.destinationSequenceNumber ∧
    table'.nextHop = table.nextHop

structure Lists (rerr : RERR) (tables : List RouteTable) : Prop where
  addresses : rerr.unreachableDestinationIPAddress = tables.map RouteTable.destinationIPAddress
  sequences : rerr.unreachableDestinationSequenceNumber =
    tables.map RouteTable.destinationSequenceNumber
  destCount : rerr.destCount.toNat = tables.length

def Reports (c : Curr) (tables : List RouteTable) (added : List EventDetails) : Prop :=
  if tables = [] then added = []
  else ∃ packet rerr, added = [⟨c.dEventTime, .networkOut packet⟩] ∧ packet.payload = .rerr rerr ∧
    Lists rerr tables

/-- `GenerateRERR` reads nothing beyond a list, and does what it should to the tables and by its
RERR. -/
def RerrExact (c : Curr) (unreachableIP : IPAddress) (s : Sim) : Prop :=
  ∃ s' list added, generateRERRInPlace c unreachableIP s = some s' ∧
    List.Forall₂ (MarkedFor unreachableIP) s.devVar.routeTable s'.devVar.routeTable ∧
    s.devVar.precursorsList = some list ∧
    s'.devVar.precursorsList = some (list.filter (· ≠ unreachableIP)) ∧
    s'.added = s.added ++ added ∧ Reports c (brokenRoutes unreachableIP s) added

/-- There is a precursor list, with the neighbour at most once and not at its end, and the entries
that use the neighbour fit in 8 bits. -/
def MeetsRerr (unreachableIP : IPAddress) (s : Sim) : Prop :=
  ∃ list, s.devVar.precursorsList = some list ∧ list.count unreachableIP ≤ 1 ∧
    list.getLast? ≠ some unreachableIP ∧ (brokenRoutes unreachableIP s).length < 256

section Exact

variable {c : Curr} {u : IPAddress} {list : List IPAddress} {s : Sim}

theorem markedFor_invalidate (table : RouteTable) :
    MarkedFor u table (if table.nextHop = u then table.invalidate c else table) := by
  by_cases h : table.nextHop = u
  · rw [if_pos h]
    exact ⟨fun _ => rfl, fun hne => absurd h hne, rfl, rfl, rfl⟩
  · rw [if_neg h]
    exact ⟨fun he => absurd he h, fun _ => rfl, rfl, rfl, rfl⟩

theorem routeTable_sendRERR :
    (sendRERR c u list s).devVar.routeTable =
      s.devVar.routeTable.map fun table => if table.nextHop = u then table.invalidate c else table := by
  unfold sendRERR
  dsimp only
  split <;> rfl

theorem precursorsList_sendRERR : (sendRERR c u list s).devVar.precursorsList = some list := by
  unfold sendRERR
  dsimp only
  split <;> rfl

theorem added_sendRERR (c : Curr) (u : IPAddress) (list : List IPAddress) (s : Sim) :
    ∃ added, (sendRERR c u list s).added = s.added ++ added := by
  unfold sendRERR
  dsimp only
  split
  · exact ⟨[], (List.append_nil _).symm⟩
  · exact ⟨_, rfl⟩

theorem forall₂_sendRERR :
    List.Forall₂ (MarkedFor u) s.devVar.routeTable (sendRERR c u list s).devVar.routeTable := by
  rw [routeTable_sendRERR, List.forall₂_map_right_iff, List.forall₂_same]
  exact fun table _ => markedFor_invalidate table

theorem reports_iff {added : List EventDetails} (hadded : (sendRERR c u list s).added = s.added ++ added) :
    Reports c (brokenRoutes u s) added ↔ (brokenRoutes u s).length < 256 := by
  unfold Reports
  unfold sendRERR at hadded
  split
  · next hnil =>
    rw [if_pos hnil] at hadded
    have hnone : added = [] := List.append_right_eq_self.1 hadded.symm
    simp [hnone, hnil]
  · next hne =>
    rw [if_neg hne] at hadded
    have hone := List.append_cancel_left hadded
    have hsize : (newRERR (brokenRoutes u s)).destCount.toNat = (brokenRoutes u s).length % 256 := rfl
    constructor
    · rintro ⟨packet, rerr, hpacket, hpayload, hlists⟩
      rw [hpacket] at hone
      obtain ⟨⟩ := hone
      obtain ⟨⟩ := hpayload
      have hcount := hlists.destCount
      omega
    · intro hlt
      refine ⟨_, newRERR (brokenRoutes u s), hone.symm, rfl, rfl, rfl, ?_⟩
      rw [hsize, Nat.mod_eq_of_lt hlt]

/-- A route error is exact if the state meets the condition, and not otherwise. -/
theorem rerrExact_iff (c : Curr) (unreachableIP : IPAddress) (s : Sim) :
    RerrExact c unreachableIP s ↔ MeetsRerr unreachableIP s := by
  constructor
  · rintro ⟨s', list, added, hs', -, hlist, hlist', hadded, hreports⟩
    unfold generateRERRInPlace at hs'
    rw [hlist] at hs'
    obtain ⟨left, hleft, rfl⟩ := Option.map_eq_some_iff.1 hs'
    rw [precursorsList_sendRERR, Option.some.injEq] at hlist'
    subst hlist'
    obtain ⟨hcount, hlast⟩ := removePrecursor_iff.1 hleft
    exact ⟨list, hlist, hcount, hlast, (reports_iff hadded).1 hreports⟩
  · rintro ⟨list, hlist, hcount, hlast, hlt⟩
    have hleft := removePrecursor_iff.2 ⟨hcount, hlast⟩
    obtain ⟨added, hadded⟩ := added_sendRERR c unreachableIP (list.filter (· ≠ unreachableIP)) s
    refine ⟨sendRERR c unreachableIP (list.filter (· ≠ unreachableIP)) s, list, added, ?_,
      forall₂_sendRERR, hlist, precursorsList_sendRERR, hadded, (reports_iff hadded).2 hlt⟩
    unfold generateRERRInPlace
    rw [hlist]
    dsimp only
    rw [hleft]
    rfl

theorem generateRERRInPlace_eq (hlist : s.devVar.precursorsList = some list) (hcount : list.count u ≤ 1)
    (hlast : list.getLast? ≠ some u) : generateRERRInPlace c u s = generateRERR c u s := by
  have hleft := removePrecursor_iff.2 ⟨hcount, hlast⟩
  rw [generateRERR_eq]
  unfold generateRERRInPlace
  rw [hlist]
  dsimp only
  rw [hleft, Option.map_some, Option.map_some, erase_eq_filter hcount]

/-- A neighbour at the end of the precursor list is read past. -/
theorem not_rerrExact :
    ¬ RerrExact ⟨1, 0⟩ 2 ⟨{ DeviceVar.init with precursorsList := some [3, 2] }, 0, [], none, 0⟩ := by
  rintro ⟨s', list, added, hs', -⟩
  have hnone : removePrecursor 2 [3, 2] = none := by decide
  unfold generateRERRInPlace at hs'
  simp [hnone] at hs'

end Exact

end NetSim.Aodv
