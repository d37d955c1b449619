import NetSim.Aodv.RouteTable

/-!
# What a route-table entry keeps of the routes it is told

An entry should keep the best triple of number, hop count and next hop it has been told. The source
assigns the next hop of a new entry only, and takes any route for an entry whose number is 0.
-/

namespace NetSim.Aodv

open NetSim.Lib

/-! ## Adverts -/

/-- A route as `InsertInRouteTable` is told of it. -/
structure Advert where
  seqNumber : UInt32
  hopCount : UInt32
  nextHop : IPAddress
  deriving DecidableEq

def Advert.Beats (a b : Advert) : Prop :=
  b.seqNumber < a.seqNumber ∨ a.seqNumber = b.seqNumber ∧ a.hopCount < b.hopCount

instance (a b : Advert) : Decidable (a.Beats b) := inferInstanceAs (Decidable (_ ∨ _ ∧ _))

def IsFirstBest (l : List Advert) (a : Advert) : Prop :=
  ∃ pre post, l = pre ++ a :: post ∧ (∀ b ∈ pre, a.Beats b) ∧ ∀ b ∈ post, ¬ b.Beats a

section Beats

variable {a b d : Advert} {l : List Advert}

theorem Advert.Beats.irrefl (a : Advert) : ¬ a.Beats a := by
  rintro (h | ⟨-, h⟩)
  · exact UInt32.lt_irrefl _ h
  · exact UInt32.lt_irrefl _ h

theorem Advert.Beats.trans (hab : a.Beats b) (hbd : b.Beats d) : a.Beats d := by
  rcases hab with hab | ⟨hab, hab'⟩
  · rcases hbd with hbd | ⟨hbd, -⟩
    · exact .inl (UInt32.lt_trans hbd hab)
    · exact .inl (hbd ▸ hab)
  · rcases hbd with hbd | ⟨hbd, hbd'⟩
    · exact .inl (hab ▸ hbd)
    · exact .inr ⟨hab.trans hbd, UInt32.lt_trans hab' hbd'⟩

theorem Advert.Beats.of_not_beats (hab : a.Beats b) (hdb : ¬ d.Beats b) : a.Beats d := by
  unfold Advert.Beats at *
  simp only [not_or, not_and, UInt32.not_lt] at hdb
  obtain ⟨hseq, hhop⟩ := hdb
  rcases hab with hab | ⟨hab, hab'⟩
  · exact .inl (UInt32.lt_of_le_of_lt hseq hab)
  · by_cases hd : d.seqNumber = b.seqNumber
    · exact .inr ⟨hab.trans hd.symm, UInt32.lt_of_lt_of_le hab' (hhop hd)⟩
    · exact .inl (hab ▸ UInt32.lt_of_le_of_ne hseq hd)

theorem Advert.seqNumber_le_of_not_beats (h : ¬ b.Beats a) : b.seqNumber ≤ a.seqNumber :=
  UInt32.not_lt.1 fun hlt => h (.inl hlt)

theorem isFirstBest_singleton (a : Advert) : IsFirstBest [a] a :=
  ⟨[], [], rfl, nofun, nofun⟩

theorem IsFirstBest.mem (h : IsFirstBest l a) : a ∈ l := by
  obtain ⟨pre, post, rfl, -, -⟩ := h
  exact List.mem_append_right _ List.mem_cons_self

theorem IsFirstBest.not_beats (h : IsFirstBest l a) : ∀ b ∈ l, ¬ b.Beats a := by
  obtain ⟨pre, post, rfl, hpre, hpost⟩ := h
  intro b hb hbeats
  rcases List.mem_append.1 hb with hb | hb
  · exact Advert.Beats.irrefl a ((hpre b hb).trans hbeats)
  · rcases List.mem_cons.1 hb with rfl | hb
    · exact Advert.Beats.irrefl b hbeats
    · exact hpost b hb hbeats

theorem IsFirstBest.eq (ha : IsFirstBest l a) (hb : IsFirstBest l b) : a = b := by
  have hba := ha.not_beats b hb.mem
  have hab := hb.not_beats a ha.mem
  obtain ⟨pre, post, rfl, hpre, -⟩ := ha
  obtain ⟨pre', post', heq, hpre', -⟩ := hb
  rcases List.append_eq_append_iff.1 heq with ⟨m, rfl, hm⟩ | ⟨m, rfl, hm⟩
  · cases m with
    | nil => exact (List.cons.inj hm).1
    | cons x m =>
      have hx : a = x := (List.cons.inj hm).1
      subst hx
      exact absurd (hpre' a (List.mem_append_right _ List.mem_cons_self)) hba
  · cases m with
    | nil => exact (List.cons.inj hm).1.symm
    | cons x m =>
      have hx : b = x := (List.cons.inj hm).1
      subst hx
      exact absurd (hpre b (List.mem_append_right _ List.mem_cons_self)) hab

theorem IsFirstBest.append (h : IsFirstBest l a) :
    IsFirstBest (l ++ [b]) (if b.Beats a then b else a) := by
  split
  · next hbeats =>
    exact ⟨l, [], rfl, fun x hx => hbeats.of_not_beats (h.not_beats x hx), nofun⟩
  · next hbeats =>
    obtain ⟨pre, post, rfl, hpre, hpost⟩ := h
    refine ⟨pre, post ++ [b], by simp, hpre, ?_⟩
    intro x hx
    rcases List.mem_append.1 hx with hx | hx
    · exact hpost x hx
    · rw [List.mem_singleton.1 hx]
      exact hbeats

end Beats

/-! ## Calls -/

/-- One call for a fixed destination. -/
structure InsertCall where
  curr : Curr
  advert : Advert
  lifeTime : Time

/-- `InsertInRouteTable`, called for `ip`. -/
def InsertCall.apply (ip : IPAddress) (s : Sim) (call : InsertCall) : Sim :=
  insertInRouteTable call.curr ip call.advert.seqNumber call.advert.hopCount call.advert.nextHop
    call.lifeTime s

/-- A sequence of calls for `ip`. -/
def insertCalls (ip : IPAddress) (s : Sim) (calls : List InsertCall) : Sim :=
  calls.foldl (InsertCall.apply ip) s

def RouteTable.advert (table : RouteTable) : Advert where
  seqNumber := table.destinationSequenceNumber
  hopCount := table.hopCount
  nextHop := table.nextHop

/-- The entry that the node finds for `ip`. -/
def Sim.entry (ip : IPAddress) (s : Sim) : Option RouteTable := findRouteTable s.devVar.routeTable ip

/-! ## The adverts an entry has to be the best of -/

structure Heard where
  adverts : List Advert
  live : Bool

def Heard.start : Option RouteTable → Heard
  | none => ⟨[], true⟩
  | some table => ⟨[table.advert], decide (table.routingFlags ≠ .inValid)⟩

/-- One more advert; an equal or newer number for an entry that is not in use starts anew. -/
def Heard.add (h : Heard) (a : Advert) : Heard :=
  if h.live = false ∧ ∀ b ∈ h.adverts, b.seqNumber ≤ a.seqNumber then ⟨[a], true⟩
  else ⟨h.adverts ++ [a], h.live⟩

def heard (ip : IPAddress) (s : Sim) (calls : List InsertCall) : Heard :=
  calls.foldl (fun h call => h.add call.advert) (.start (s.entry ip))

def HoldsBest (h : Heard) : Option RouteTable → Prop
  | none => h.adverts = []
  | some table => IsFirstBest h.adverts table.advert

def Sim.others (ip : IPAddress) (s : Sim) : List RouteTable :=
  s.devVar.routeTable.filter fun table => table.destinationIPAddress ≠ ip

/-- At every moment of a sequence of calls: the entry holds the best advert, a call that renews it
leaves its own triple, and other entries are as they were. -/
structure KeepsBest (ip : IPAddress) (s : Sim) (calls : List InsertCall) : Prop where
  best : ∀ pre, pre <+: calls → HoldsBest (heard ip s pre) ((insertCalls ip s pre).entry ip)
  renewed : ∀ pre call, pre ++ [call] <+: calls → ∀ table ∈ (insertCalls ip s pre).entry ip,
    table.routingFlags = .inValid → table.destinationSequenceNumber ≤ call.advert.seqNumber →
      ∃ table' ∈ (insertCalls ip s (pre ++ [call])).entry ip, table'.advert = call.advert
  others : ∀ pre, pre <+: calls → (insertCalls ip s pre).others ip = s.others ip

/-! ## When a call does right by its entry -/

def RouteTable.Yields (table : RouteTable) (a : Advert) : Prop :=
  table.routingFlags = .inValid ∧ table.destinationSequenceNumber ≤ a.seqNumber ∨
    a.Beats table.advert

instance (table : RouteTable) (a : Advert) : Decidable (table.Yields a) :=
  inferInstanceAs (Decidable (_ ∧ _ ∨ _))

def RouteTable.OneHopLonger (table : RouteTable) (a : Advert) : Prop :=
  table.validDestinationSequenceNumberflag = true ∧ table.routingFlags ≠ .inValid ∧
    a.seqNumber = table.destinationSequenceNumber ∧ a.hopCount + 1 = table.hopCount
deriving Decidable

def RouteTable.Wraps (table : RouteTable) (a : Advert) : Prop :=
  a.seqNumber = table.destinationSequenceNumber ∧ a.hopCount + 1 = 0 ∧ table.hopCount ≠ 0
deriving Decidable

/-- The condition on the entry before a call: an advert to be stored names the stored next hop and
is not shorter by just one hop; any other does not wrap, or repeats what is stored. -/
def MeetsAdvert (a : Advert) : Option RouteTable → Prop
  | none => True
  | some table =>
    if table.Yields a then a.nextHop = table.nextHop ∧ ¬ table.OneHopLonger a
    else
      table.validDestinationSequenceNumberflag = true ∧ ¬ table.Wraps a ∨
        a.seqNumber = table.destinationSequenceNumber ∧ a.hopCount = table.hopCount

instance (a : Advert) (e : Option RouteTable) : Decidable (MeetsAdvert a e) := by
  unfold MeetsAdvert
  split <;> infer_instance

theorem meetsAdvert_some {a : Advert} {table : RouteTable} :
    MeetsAdvert a (some table) ↔
      if table.Yields a then a.nextHop = table.nextHop ∧ ¬ table.OneHopLonger a
      else
        table.validDestinationSequenceNumberflag = true ∧ ¬ table.Wraps a ∨
          a.seqNumber = table.destinationSequenceNumber ∧ a.hopCount = table.hopCount := Iff.rfl

def CallsMeet (ip : IPAddress) (s : Sim) (calls : List InsertCall) : Prop :=
  ∀ pre call, pre ++ [call] <+: calls → MeetsAdvert call.advert ((insertCalls ip s pre).entry ip)

/-! ## One call -/

section Apply

variable {ip : IPAddress} {s : Sim} {call : InsertCall} {a : Advert} {table : RouteTable} {h : Heard}

/-- The entry for `ip` after a call. -/
def RouteTable.told (call : InsertCall) (table : RouteTable) : RouteTable :=
  if table.accepts call.advert.seqNumber call.advert.hopCount then
    table.overwrite call.advert.seqNumber call.advert.hopCount call.lifeTime
  else table

theorem entry_apply_some (hs : s.entry ip = some table) :
    (call.apply ip s).entry ip = some (table.told call) := by
  unfold Sim.entry findRouteTable at *
  unfold InsertCall.apply insertInRouteTable findRouteTable RouteTable.told
  rw [hs]
  dsimp only
  split
  · rw [modifyVar_devVar]
    rw [lookup_modifyFirst, if_pos rfl, hs]
    · rfl
    · exact fun _ => rfl
  · exact hs

theorem entry_apply_none (call : InsertCall) (hs : s.entry ip = none) :
    ∃ table ∈ (call.apply ip s).entry ip, table.advert = call.advert ∧
      table.routingFlags ≠ .inValid := by
  unfold Sim.entry findRouteTable at *
  unfold InsertCall.apply insertInRouteTable findRouteTable
  rw [hs]
  rw [addEvent_devVar, modifyVar_devVar, lookup_append_single, hs]
  exact ⟨_, if_pos rfl, rfl, nofun⟩

theorem others_apply : (call.apply ip s).others ip = s.others ip := by
  unfold InsertCall.apply insertInRouteTable Sim.others
  split
  · split
    · rw [modifyVar_devVar]
      induction s.devVar.routeTable with
      | nil => rfl
      | cons table tables ih =>
        unfold modifyFirst
        split
        · next hkey => simp [RouteTable.overwrite, hkey]
        · rw [List.filter_cons, List.filter_cons, ih]
    · rfl
  · simp [RouteTable.alloc, RouteTable.overwrite]

theorem accepts_of_yields (hy : table.Yields a) :
    table.accepts a.seqNumber a.hopCount = true ↔ ¬ table.OneHopLonger a := by
  unfold RouteTable.accepts RouteTable.OneHopLonger
  unfold RouteTable.Yields Advert.Beats RouteTable.advert at hy
  grind

theorem accepts_of_not_yields (hy : ¬ table.Yields a) :
    table.accepts a.seqNumber a.hopCount = false ↔
      table.validDestinationSequenceNumberflag = true ∧ ¬ table.Wraps a := by
  unfold RouteTable.accepts RouteTable.Wraps
  unfold RouteTable.Yields Advert.Beats RouteTable.advert at hy
  grind

theorem advert_told_iff :
    (table.told call).advert = (if table.Yields call.advert then call.advert else table.advert) ↔
      MeetsAdvert call.advert (some table) := by
  rw [meetsAdvert_some]
  unfold RouteTable.told
  by_cases hy : table.Yields call.advert
  · rw [if_pos hy, if_pos hy, ← accepts_of_yields hy]
    by_cases ha : table.accepts call.advert.seqNumber call.advert.hopCount = true
    · rw [if_pos ha]
      constructor
      · intro h
        exact ⟨(congrArg Advert.nextHop h).symm, ha⟩
      · rintro ⟨hn, -⟩
        change Advert.mk call.advert.seqNumber call.advert.hopCount table.nextHop = call.advert
        rw [← hn]
    · rw [if_neg ha]
      refine ⟨fun h => ?_, fun h => absurd h.2 ha⟩
      -- An entry that is kept already holds the advert, so it is marked invalid, and then it is not kept.
      rcases hy with ⟨hinv, -⟩ | hbeats
      · unfold RouteTable.accepts at ha
        have hseq : table.destinationSequenceNumber = call.advert.seqNumber := congrArg Advert.seqNumber h
        rw [hinv, hseq] at ha
        simp at ha
      · rw [h] at hbeats
        exact absurd hbeats (Advert.Beats.irrefl _)
  · rw [if_neg hy, if_neg hy, ← accepts_of_not_yields hy]
    by_cases ha : table.accepts call.advert.seqNumber call.advert.hopCount = true
    · rw [if_pos ha, ha]
      simp [RouteTable.overwrite, RouteTable.advert]
    · simp [ha]

theorem routingFlags_told (hmeets : MeetsAdvert call.advert (some table)) :
    (table.told call).routingFlags = .inValid ↔
      table.routingFlags = .inValid ∧ ¬ table.destinationSequenceNumber ≤ call.advert.seqNumber := by
  rw [meetsAdvert_some] at hmeets
  unfold RouteTable.told
  by_cases ha : table.accepts call.advert.seqNumber call.advert.hopCount = true
  · rw [if_pos ha]
    simp only [RouteTable.overwrite, reduceCtorEq, false_iff, not_and, not_not]
    intro hinv
    by_contra hle
    have hy : ¬ table.Yields call.advert := by
      rintro (⟨-, h⟩ | h | ⟨h, -⟩)
      · exact hle h
      · exact hle (UInt32.le_of_lt h)
      · exact hle (UInt32.le_of_eq h.symm)
    rw [if_neg hy, ← accepts_of_not_yields hy, ha] at hmeets
    rcases hmeets with h | ⟨h, -⟩
    · cases h
    · exact hle (UInt32.le_of_eq h.symm)
  · rw [if_neg ha]
    constructor
    · intro hinv
      refine ⟨hinv, fun hle => ?_⟩
      have hy : table.Yields call.advert := .inl ⟨hinv, hle⟩
      rw [if_pos hy] at hmeets
      exact ha ((accepts_of_yields hy).2 hmeets.2)
    · exact And.left

end Apply

/-! ## Sequences of calls -/

section Calls

variable {ip : IPAddress} {s : Sim} {calls : List InsertCall} {call : InsertCall} {h : Heard}
  {table : RouteTable}

theorem insertCalls_append : insertCalls ip s (calls ++ [call]) = call.apply ip (insertCalls ip s calls) := by
  unfold insertCalls
  rw [List.foldl_append]
  rfl

theorem heard_append : heard ip s (calls ++ [call]) = (heard ip s calls).add call.advert := by
  unfold heard
  rw [List.foldl_append]
  rfl

/-- What has been heard fits the entry: it is the best, and in use if it counts as such. -/
structure Fits (h : Heard) (entry : Option RouteTable) : Prop where
  best : HoldsBest h entry
  live : ∀ table ∈ entry, h.live = decide (table.routingFlags ≠ .inValid)

theorem fits_start (entry : Option RouteTable) : Fits (.start entry) entry := by
  cases entry with
  | none => exact ⟨rfl, nofun⟩
  | some table =>
    refine ⟨isFirstBest_singleton _, ?_⟩
    rintro t ⟨⟩
    rfl

theorem Heard.add_of_nil (hnil : h.adverts = []) (a : Advert) :
    (h.add a).adverts = [a] ∧ (h.add a).live = true := by
  unfold Heard.add
  split
  · exact ⟨rfl, rfl⟩
  · next hadd =>
    rw [hnil] at hadd ⊢
    refine ⟨rfl, ?_⟩
    cases hlive : h.live with
    | true => rfl
    | false => exact absurd ⟨hlive, nofun⟩ hadd

theorem Fits.add_eq (hf : Fits h (some table)) (a : Advert) :
    h.add a =
      if table.routingFlags = .inValid ∧ table.destinationSequenceNumber ≤ a.seqNumber then ⟨[a], true⟩
      else ⟨h.adverts ++ [a], h.live⟩ := by
  have hbest : IsFirstBest h.adverts table.advert := hf.best
  have hle : (∀ b ∈ h.adverts, b.seqNumber ≤ a.seqNumber) ↔
      table.destinationSequenceNumber ≤ a.seqNumber := by
    constructor
    · exact fun hall => hall _ hbest.mem
    · exact fun hle b hb =>
        UInt32.le_trans (Advert.seqNumber_le_of_not_beats (hbest.not_beats b hb)) hle
  have hlive : h.live = false ↔ table.routingFlags = .inValid := by
    rw [hf.live table rfl]
    simp
  exact if_congr (and_congr hlive hle) rfl rfl

theorem Fits.holdsBest_iff {table' : RouteTable} (hf : Fits h (some table)) (a : Advert) :
    HoldsBest (h.add a) (some table') ↔
      table'.advert = if table.Yields a then a else table.advert := by
  have hbest : IsFirstBest h.adverts table.advert := hf.best
  have hnext : IsFirstBest (h.add a).adverts (if table.Yields a then a else table.advert) := by
    rw [hf.add_eq a]
    split
    · next hnew =>
      rw [if_pos (.inl hnew)]
      exact isFirstBest_singleton a
    · next hnew =>
      have hyields : table.Yields a ↔ a.Beats table.advert := or_iff_right hnew
      rw [if_congr hyields rfl rfl]
      exact hbest.append
  constructor
  · exact fun h' => IsFirstBest.eq h' hnext
  · intro heq
    change IsFirstBest _ _
    rw [heq]
    exact hnext

theorem Fits.apply_iff (hf : Fits h (s.entry ip)) :
    HoldsBest (h.add call.advert) ((call.apply ip s).entry ip) ↔
      MeetsAdvert call.advert (s.entry ip) := by
  cases hs : s.entry ip with
  | none =>
    rw [hs] at hf
    obtain ⟨table, htable, hadvert, -⟩ := entry_apply_none call hs
    have hnil : h.adverts = [] := hf.best
    rw [htable]
    refine iff_of_true ?_ trivial
    change IsFirstBest _ _
    rw [(Heard.add_of_nil hnil call.advert).1, hadvert]
    exact isFirstBest_singleton _
  | some table =>
    rw [hs] at hf
    rw [entry_apply_some hs, hf.holdsBest_iff, advert_told_iff]

theorem Fits.apply (hf : Fits h (s.entry ip)) (hmeets : MeetsAdvert call.advert (s.entry ip)) :
    Fits (h.add call.advert) ((call.apply ip s).entry ip) := by
  refine ⟨hf.apply_iff.2 hmeets, ?_⟩
  cases hs : s.entry ip with
  | none =>
    rw [hs] at hf
    obtain ⟨table, htable, -, hflags⟩ := entry_apply_none call hs
    rw [htable]
    rintro t ⟨⟩
    rw [(Heard.add_of_nil hf.best call.advert).2]
    simp [hflags]
  | some table =>
    rw [hs] at hf hmeets
    rw [entry_apply_some hs, hf.add_eq]
    rintro t ⟨⟩
    have hflags := routingFlags_told hmeets
    split
    · next hnew => simp [hflags, hnew.1, hnew.2]
    · next hnew =>
      rw [hf.live table rfl]
      simp only [ne_eq, decide_eq_decide, not_iff_not, hflags]
      exact ⟨fun hinv => ⟨hinv, fun hle => hnew ⟨hinv, hle⟩⟩, And.left⟩

theorem fits_of_callsMeet (hmeet : CallsMeet ip s calls) :
    Fits (heard ip s calls) ((insertCalls ip s calls).entry ip) := by
  induction calls using List.reverseRecOn with
  | nil => exact fits_start _
  | append_singleton calls call ih =>
    have hcalls : CallsMeet ip s calls := fun pre c hpre => hmeet pre c (hpre.trans (List.prefix_append _ _))
    rw [insertCalls_append, heard_append]
    exact (ih hcalls).apply (hmeet calls call List.prefix_rfl)

theorem callsMeet_of_best
    (hbest : ∀ pre, pre <+: calls → HoldsBest (heard ip s pre) ((insertCalls ip s pre).entry ip)) :
    CallsMeet ip s calls := by
  induction calls using List.reverseRecOn with
  | nil =>
    intro pre call hpre
    simp at hpre
  | append_singleton calls last ih =>
    have hcalls : CallsMeet ip s calls := ih fun pre hpre => hbest pre (hpre.trans (List.prefix_append _ _))
    intro pre call hpre
    rcases List.prefix_concat_iff.1 hpre with heq | hpre
    · obtain ⟨rfl, hcall⟩ := List.append_inj' heq rfl
      obtain rfl : call = last := List.singleton_inj.1 hcall
      have hlast := hbest (pre ++ [call]) List.prefix_rfl
      rw [insertCalls_append, heard_append] at hlast
      exact (fits_of_callsMeet hcalls).apply_iff.1 hlast
    · exact hcalls pre call hpre

theorem others_insertCalls : (insertCalls ip s calls).others ip = s.others ip := by
  induction calls using List.reverseRecOn with
  | nil => rfl
  | append_singleton calls call ih => rw [insertCalls_append, others_apply, ih]

/-- The entry keeps the best route in every sequence of calls that meet the condition, and in no
other. -/
theorem keepsBest_iff (ip : IPAddress) (s : Sim) (calls : List InsertCall) :
    KeepsBest ip s calls ↔ CallsMeet ip s calls := by
  constructor
  · exact fun h => callsMeet_of_best h.best
  · intro hmeet
    refine ⟨?_, ?_, fun pre _ => others_insertCalls⟩
    · intro pre hpre
      exact (fits_of_callsMeet fun p c hp => hmeet p c (hp.trans hpre)).best
    · intro pre call hpre table htable hinv hle
      rw [insertCalls_append, entry_apply_some htable]
      have hcall := hmeet pre call hpre
      rw [htable, ← advert_told_iff, if_pos (.inl ⟨hinv, hle⟩)] at hcall
      exact ⟨_, rfl, hcall⟩

/-- A newer route through another neighbour: the entry gets its number and hop count, and keeps the
next hop it had. -/
theorem not_keepsBest :
    ¬ KeepsBest 9 ⟨.init, 0, [], none, 0⟩
        [⟨⟨1, 0⟩, ⟨5, 3, 2⟩, 0⟩, ⟨⟨1, 0⟩, ⟨6, 2, 3⟩, 0⟩] := by
  intro h
  have hcall := callsMeet_of_best h.best [⟨⟨1, 0⟩, ⟨5, 3, 2⟩, 0⟩] ⟨⟨1, 0⟩, ⟨6, 2, 3⟩, 0⟩ List.prefix_rfl
  revert hcall
  decide +kernel

end Calls

end NetSim.Aodv
