import NetSim.Zrp.RoutingTable

/-!
# OLSR: HELLO messages

The five sets that a HELLO is put into, one function each, and the expiry of a link tuple. A handler
that follows a null or a stale pointer yields `none`.
-/

namespace NetSim.Zrp

open NetSim.Lib

inductive LinkType
  | unspecLink
  | asymLink
  | symLink
  | lostLink
deriving DecidableEq

def LinkType.IsHeard (t : LinkType) : Prop := t = .asymLink ∨ t = .symLink
deriving Decidable

structure HelloLink (Addr : Type) where
  linkType : LinkType
  neighTypes : NeighborType
  neighborInterfaceAddress : Addr
deriving DecidableEq

/-- `OLSR_HELLO_PACKET` and its `OLSR_HEADER_MESSAGE`. It comes from its originator. -/
structure HelloMessage (Addr : Type) where
  originatorAddress : Addr
  vtime : ℕ
  willingness : Willingness
  link : List (HelloLink Addr)
deriving DecidableEq

structure LinkTimer (Addr : Type) where
  lNeighborIfaceAddr : Addr
  dEventTime : ℚ
deriving DecidableEq

def neighbHoldTime : ℚ := 2 * 3 * second

variable {Addr : Type} [DecidableEq Addr]

def olsrFindLinkSet (linkSet : List (LinkTuple Addr)) (ip : Addr) : Option (LinkTuple Addr) :=
  lookup LinkTuple.lNeighborIfaceAddr ip linkSet

def TwoHopTuple.key (t : TwoHopTuple Addr) : Addr × Addr := (t.nNeighborMainAddr, t.n2hopAddr)

def olsrFind2HopNeighbor (set : List (TwoHopTuple Addr)) (neighbor twoHop : Addr) :
    Option (TwoHopTuple Addr) :=
  lookup TwoHopTuple.key (neighbor, twoHop) set

def HelloMessage.linkTo (hello : HelloMessage Addr) (main : Addr) : Option LinkType :=
  (hello.link.find? fun i => i.neighborInterfaceAddress = main).map HelloLink.linkType

def LinkTuple.hear (main : Addr) (now vTime : ℚ) (hello : HelloMessage Addr) (link : LinkTuple Addr) :
    LinkTuple Addr :=
  let link : LinkTuple Addr := { link with lAsymTime := now + vTime }
  let link : LinkTuple Addr :=
    match hello.linkTo main with
    | some .lostLink => { link with lSymTime := now - 1 }
    | some .asymLink | some .symLink =>
      { link with lSymTime := now + vTime, lTime := now + neighbHoldTime }
    | some .unspecLink | none => link
  { link with lTime := max link.lTime link.lAsymTime }

/-- `fn_NetSim_OLSR_PopulateLinkSet`: the node, and the expiry event of a new tuple. -/
def populateLinkSet (convertMEToDouble : ℕ → ℚ) (now : ℚ) (hello : HelloMessage Addr)
    (olsr : NodeOlsr Addr) : NodeOlsr Addr × List (LinkTimer Addr) :=
  let src := hello.originatorAddress
  let vTime := convertMEToDouble hello.vtime * second
  match olsrFindLinkSet olsr.linkSet src with
  | some _ =>
    ({ olsr with
       linkSet := modifyFirst LinkTuple.lNeighborIfaceAddr src
         (LinkTuple.hear olsr.mainAddress now vTime hello) olsr.linkSet }, [])
  | none =>
    let link := LinkTuple.hear olsr.mainAddress now vTime hello
      { lNeighborIfaceAddr := src, lSymTime := now - 1, lAsymTime := 0, lTime := now + vTime }
    ({ olsr with linkSet := olsr.linkSet ++ [link], bRoutingTableUpdate := true },
      [{ lNeighborIfaceAddr := src, dEventTime := link.lTime }])

/-! ## The neighbour set -/

def statusOf (now : ℚ) (link : LinkTuple Addr) : NeighborType :=
  if link.lSymTime ≥ now then .symNeigh else .notNeigh

def createNeighbor (addr : Addr) (olsr : NodeOlsr Addr) : NodeOlsr Addr :=
  match olsrFindNeighborSet olsr.neighborSet addr with
  | some _ => olsr
  | none =>
    { olsr with
      neighborSet := olsr.neighborSet ++
        [{ nNeighborMainAddr := addr, nStatus := .notNeigh, nWillingness := .default }]
      bRoutingTableUpdate := true }

/-- A turn of the first loop of `fn_NetSim_OLSR_PopulateNeighborSet`. -/
def neighborOfLink (now : ℚ) (olsr : NodeOlsr Addr) (link : LinkTuple Addr) : NodeOlsr Addr :=
  let olsr := createNeighbor link.lNeighborIfaceAddr olsr
  { olsr with
    neighborSet := modifyFirst NeighborTuple.nNeighborMainAddr link.lNeighborIfaceAddr
      (fun n => { n with nStatus := statusOf now link }) olsr.neighborSet
    bRoutingTableUpdate := olsr.bRoutingTableUpdate || decide (link.lSymTime ≥ now) }

/-- The last loop of `fn_NetSim_OLSR_PopulateNeighborSet`: the neighbours that the HELLO lists. -/
def setWillingness (hello : HelloMessage Addr) (neighborSet : List (NeighborTuple Addr)) :
    List (NeighborTuple Addr) :=
  hello.link.foldl (fun set i =>
    modifyFirst NeighborTuple.nNeighborMainAddr i.neighborInterfaceAddress
      (fun n => { n with nWillingness := hello.willingness }) set) neighborSet

/-- `fn_NetSim_OLSR_PopulateNeighborSet`, which takes the first tuple for the head of the list. -/
def populateNeighborSet (now : ℚ) (hello : HelloMessage Addr) (olsr : NodeOlsr Addr) :
    Option (NodeOlsr Addr) :=
  let olsr := olsr.linkSet.foldl (neighborOfLink now) olsr
  if olsr.neighborSet.any fun n => (olsrFindLinkSet olsr.linkSet n.nNeighborMainAddr).isNone then none
  else some { olsr with neighborSet := setWillingness hello olsr.neighborSet }

def addTwoHop (originator addr : Addr) (nTime : ℚ) (olsr : NodeOlsr Addr) : NodeOlsr Addr :=
  match olsrFind2HopNeighbor olsr.twoHopNeighborSet originator addr with
  | some _ =>
    { olsr with
      twoHopNeighborSet := modifyFirst TwoHopTuple.key (originator, addr) (fun t => { t with nTime })
        olsr.twoHopNeighborSet }
  | none =>
    { olsr with
      twoHopNeighborSet := olsr.twoHopNeighborSet ++
        [{ nNeighborMainAddr := originator, n2hopAddr := addr, nTime }]
      bRoutingTableUpdate := true }

/-- A turn of `fn_NetSim_OLSR_Populate2HopNeighbor`. -/
def twoHopOfLink (originator : Addr) (nTime : ℚ) (olsr : NodeOlsr Addr) (i : HelloLink Addr) :
    NodeOlsr Addr :=
  let addr := i.neighborInterfaceAddress
  match i.neighTypes with
  | .symNeigh | .mprNeigh =>
    if addr = olsr.mainAddress then olsr else addTwoHop originator addr nTime olsr
  | .notNeigh =>
    { olsr with
      twoHopNeighborSet := eraseFirst TwoHopTuple.key (originator, addr) olsr.twoHopNeighborSet }

def populate2HopNeighbor (convertMEToDouble : ℕ → ℚ) (now : ℚ) (hello : HelloMessage Addr)
    (olsr : NodeOlsr Addr) : NodeOlsr Addr :=
  if (olsrFindLinkSet olsr.linkSet hello.originatorAddress).any fun l => l.lSymTime ≥ now then
    hello.link.foldl
      (twoHopOfLink hello.originatorAddress (now + convertMEToDouble hello.vtime * second)) olsr
  else olsr

/-! ## The MPR set -/

def olsrFillNeighbor (olsr : NodeOlsr Addr) : List (NeighborTuple Addr) :=
  olsr.neighborSet.filter fun n => n.nWillingness ≠ .never

/-- A turn of `olsrFill2HopNeighbor`. The neighbour is used without a look whether there is one. -/
def fill2HopTuple (now : ℚ) (olsr : NodeOlsr Addr) (set : List (TwoHopTuple Addr)) (t : TwoHopTuple Addr) :
    Option (List (TwoHopTuple Addr)) :=
  match olsrFindNeighborSet olsr.neighborSet t.nNeighborMainAddr with
  | none => none
  | some n =>
    if n.nWillingness = .never then some set
    else if (olsrFindNeighborSet olsr.neighborSet t.n2hopAddr).isSome then some set
    else if (olsrFindLinkSet olsr.linkSet t.n2hopAddr).any fun l => l.lSymTime ≥ now then some set
    else some (set ++ [t])

def olsrFill2HopNeighbor (now : ℚ) (olsr : NodeOlsr Addr) : Option (List (TwoHopTuple Addr)) :=
  olsr.twoHopNeighborSet.foldlM (fill2HopTuple now olsr) []

def olsrAddtoMPRSet (mpr : List Addr) (N : List (NeighborTuple Addr)) (t : TwoHopTuple Addr) : List Addr :=
  match olsrFindNeighborSet N t.nNeighborMainAddr with
  | some n => mpr ++ [n.nNeighborMainAddr]
  | none => mpr

/-- `fnFlush2HopSetBasedonMPR`: the addresses that an MPR reaches are flushed from `N2`. -/
def flush2HopSetBasedonMPR (N2 : List (TwoHopTuple Addr)) (mprSet : List Addr) : List (TwoHopTuple Addr) :=
  mprSet.foldl (fun N2 j =>
    N2.filter fun t => ¬ ∃ i ∈ N2, i.nNeighborMainAddr = j ∧ i.n2hopAddr = t.n2hopAddr) N2

/-- The first loop of `fn_NetSim_OLSR_PopulateMPRSet`: an address that one tuple alone leads to. -/
def onlyMprs (N : List (NeighborTuple Addr)) :
    ℕ → List (TwoHopTuple Addr) → List Addr → List (TwoHopTuple Addr) × List Addr
  | 0, N2, mpr => (N2, mpr)
  | fuel + 1, N2, mpr =>
    match N2.find? fun i => N2.countP (fun j => j.n2hopAddr = i.n2hopAddr) = 1 with
    | none => (N2, mpr)
    | some i =>
      let mpr := olsrAddtoMPRSet mpr N i
      onlyMprs N fuel (flush2HopSetBasedonMPR N2 mpr) mpr

/-- The second loop. The neighbour of the first tuple is taken; the best one, which the source looks
for, is not used. -/
def moreMprs (N : List (NeighborTuple Addr)) : ℕ → List (TwoHopTuple Addr) → List Addr → List Addr
  | 0, _, mpr => mpr
  | _ + 1, [], mpr => mpr
  | fuel + 1, i :: N2, mpr =>
    let mpr := olsrAddtoMPRSet mpr N i
    moreMprs N fuel (flush2HopSetBasedonMPR (i :: N2) mpr) mpr

def olsrMarkMPR (mprSet : List Addr) (neighborSet : List (NeighborTuple Addr)) :
    List (NeighborTuple Addr) :=
  mprSet.foldl (fun set j =>
    modifyFirst NeighborTuple.nNeighborMainAddr j (fun n => { n with nStatus := .mprNeigh }) set) neighborSet

/-- `fn_NetSim_OLSR_PopulateMPRSet`. Every turn of a loop flushes a tuple, so the tuples are turns
enough. -/
def populateMPRSet (now : ℚ) (olsr : NodeOlsr Addr) : Option (NodeOlsr Addr) :=
  (olsrFill2HopNeighbor now olsr).map fun N2 =>
    let N := olsrFillNeighbor olsr
    let only := onlyMprs N N2.length N2 []
    let mprSet := moreMprs N only.1.length only.1 only.2
    { olsr with
      neighborSet := olsrMarkMPR mprSet olsr.neighborSet
      bRoutingTableUpdate := olsr.bRoutingTableUpdate || decide (N2 ≠ []) }

/-- A turn of `fn_NetSim_OLSR_PopulateMPRSelectorSet`. -/
def selectorOfLink (originator : Addr) (msTime : ℚ) (set : List (MprSelector Addr)) (i : HelloLink Addr) :
    List (MprSelector Addr) :=
  if i.neighTypes = .mprNeigh then
    match olsrFindMPRSelectorSet set originator with
    | some _ => modifyFirst MprSelector.msMainAddr originator (fun x => { x with msTime }) set
    | none => set ++ [{ msMainAddr := originator, msTime }]
  else set

/-- `fn_NetSim_OLSR_PopulateMPRSelectorSet`. The validity time is not in microseconds here. -/
def populateMPRSelectorSet (convertMEToDouble : ℕ → ℚ) (now : ℚ) (hello : HelloMessage Addr)
    (olsr : NodeOlsr Addr) : NodeOlsr Addr :=
  { olsr with
    mprSelectionSet := hello.link.foldl
      (selectorOfLink hello.originatorAddress (now + convertMEToDouble hello.vtime)) olsr.mprSelectionSet }

/-! ## The handlers -/

/-- `fn_NetSim_OLSR_UpdateRoutingTable`, as far as the node itself changes. -/
def refreshRoutingTable (olsr : NodeOlsr Addr) : Option (NodeOlsr Addr) :=
  if olsr.bRoutingTableUpdate then
    (updateRoutingTable olsr).map fun _ => { olsr with bRoutingTableUpdate := false }
  else some olsr

/-- `fn_NetSim_NDP_ReceiveHello`: the node, and the expiry events that are added. -/
def receiveHello (convertMEToDouble : ℕ → ℚ) (now : ℚ) (hello : HelloMessage Addr) (olsr : NodeOlsr Addr) :
    Option (NodeOlsr Addr × List (LinkTimer Addr)) := do
  let (olsr, timers) := populateLinkSet convertMEToDouble now hello olsr
  let olsr ← populateNeighborSet now hello olsr
  let olsr := populate2HopNeighbor convertMEToDouble now hello olsr
  let olsr ← populateMPRSet now olsr
  let olsr := populateMPRSelectorSet convertMEToDouble now hello olsr
  let olsr ← refreshRoutingTable olsr
  some (olsr, timers)

/-- `fn_NetSim_OLSR_RemoveNeighbortuple`, with `fn_NetSim_OLSR_Remove2HopTuple`. -/
def removeNeighborTuple (addr : Addr) (olsr : NodeOlsr Addr) : NodeOlsr Addr :=
  if olsr.linkSet.countP (fun l => l.lNeighborIfaceAddr = addr) ≥ 2 then olsr
  else if olsr.neighborSet.any fun n => n.nNeighborMainAddr = addr then
    { olsr with
      twoHopNeighborSet := olsr.twoHopNeighborSet.filter fun t => t.nNeighborMainAddr ≠ addr
      neighborSet := olsr.neighborSet.filter fun n => n.nNeighborMainAddr ≠ addr
      bRoutingTableUpdate := true }
  else olsr

/-- `fn_NetSim_OLSR_LinkTupleExpire`: the node, and the expiry event that is put in again. -/
def linkTupleExpire (x : LinkTimer Addr) (olsr : NodeOlsr Addr) :
    Option (NodeOlsr Addr × List (LinkTimer Addr)) :=
  match olsrFindLinkSet olsr.linkSet x.lNeighborIfaceAddr with
  | none => none
  | some link =>
    if link.lTime ≤ x.dEventTime then
      let olsr := removeNeighborTuple x.lNeighborIfaceAddr olsr
      let olsr :=
        { olsr with
          linkSet := eraseFirst LinkTuple.lNeighborIfaceAddr x.lNeighborIfaceAddr olsr.linkSet }
      (refreshRoutingTable olsr).map fun olsr => (olsr, [])
    else some (olsr, [{ x with dEventTime := link.lTime }])

/-! ## What becomes of the links -/

section
variable {convertMEToDouble : ℕ → ℚ} {now : ℚ} {hello : HelloMessage Addr} {olsr olsr' : NodeOlsr Addr}
  {a : Addr}

def freshLink (now vTime : ℚ) (src : Addr) : LinkTuple Addr :=
  { lNeighborIfaceAddr := src, lSymTime := now - 1, lAsymTime := 0, lTime := now + vTime }

@[simp] theorem addr_hear {main : Addr} {vTime : ℚ} {link : LinkTuple Addr} :
    (link.hear main now vTime hello).lNeighborIfaceAddr = link.lNeighborIfaceAddr := by
  unfold LinkTuple.hear
  split <;> rfl

def oldLink (convertMEToDouble : ℕ → ℚ) (now : ℚ) (hello : HelloMessage Addr) (olsr : NodeOlsr Addr) :
    LinkTuple Addr :=
  (olsrFindLinkSet olsr.linkSet hello.originatorAddress).getD
    (freshLink now (convertMEToDouble hello.vtime * second) hello.originatorAddress)

def heardLink (convertMEToDouble : ℕ → ℚ) (now : ℚ) (hello : HelloMessage Addr) (olsr : NodeOlsr Addr) :
    LinkTuple Addr :=
  LinkTuple.hear olsr.mainAddress now (convertMEToDouble hello.vtime * second) hello
    (oldLink convertMEToDouble now hello olsr)

theorem times_heardLink (convertMEToDouble : ℕ → ℚ) (now : ℚ) (hello : HelloMessage Addr)
    (olsr : NodeOlsr Addr) :
    ((∃ t ∈ hello.linkTo olsr.mainAddress, t.IsHeard) ∧
      (heardLink convertMEToDouble now hello olsr).lSymTime = now + convertMEToDouble hello.vtime * second ∧
      (heardLink convertMEToDouble now hello olsr).lTime =
        max (now + neighbHoldTime) (now + convertMEToDouble hello.vtime * second)) ∨
    (hello.linkTo olsr.mainAddress = some .lostLink ∧
      (heardLink convertMEToDouble now hello olsr).lSymTime = now - 1 ∧
      (heardLink convertMEToDouble now hello olsr).lTime =
        max (oldLink convertMEToDouble now hello olsr).lTime
          (now + convertMEToDouble hello.vtime * second)) ∨
    ((hello.linkTo olsr.mainAddress = none ∨ hello.linkTo olsr.mainAddress = some .unspecLink) ∧
      (heardLink convertMEToDouble now hello olsr).lSymTime =
        (oldLink convertMEToDouble now hello olsr).lSymTime ∧
      (heardLink convertMEToDouble now hello olsr).lTime =
        max (oldLink convertMEToDouble now hello olsr).lTime
          (now + convertMEToDouble hello.vtime * second)) := by
  unfold heardLink LinkTuple.hear
  cases hto : hello.linkTo olsr.mainAddress with
  | none => exact .inr (.inr ⟨.inl rfl, rfl, rfl⟩)
  | some t =>
    cases t with
    | unspecLink => exact .inr (.inr ⟨.inr rfl, rfl, rfl⟩)
    | asymLink => exact .inl ⟨⟨_, rfl, .inl rfl⟩, rfl, rfl⟩
    | symLink => exact .inl ⟨⟨_, rfl, .inr rfl⟩, rfl, rfl⟩
    | lostLink => exact .inr (.inl ⟨rfl, rfl, rfl⟩)

omit [DecidableEq Addr] in
theorem vTime_nonneg (hconv : ∀ m, 0 ≤ convertMEToDouble m) : 0 ≤ convertMEToDouble hello.vtime * second := by
  have hsecond : (0 : ℚ) ≤ second := by
    decide +kernel
  exact mul_nonneg (hconv _) hsecond

theorem findLinkSet_populateLinkSet (convertMEToDouble : ℕ → ℚ) (now : ℚ) (hello : HelloMessage Addr)
    (olsr : NodeOlsr Addr) (a : Addr) :
    olsrFindLinkSet (populateLinkSet convertMEToDouble now hello olsr).1.linkSet a =
      if a = hello.originatorAddress then some (heardLink convertMEToDouble now hello olsr)
      else olsrFindLinkSet olsr.linkSet a := by
  unfold populateLinkSet heardLink oldLink olsrFindLinkSet
  dsimp only
  cases hfind : lookup LinkTuple.lNeighborIfaceAddr hello.originatorAddress olsr.linkSet with
  | some link =>
    rw [lookup_modifyFirst fun _ => addr_hear, hfind]
    rfl
  | none =>
    rw [lookup_append_single, addr_hear]
    by_cases ha : a = hello.originatorAddress
    · rw [if_pos ha, ha, hfind]
      exact if_pos rfl
    · rw [if_neg ha]
      cases lookup LinkTuple.lNeighborIfaceAddr a olsr.linkSet with
      | some link => rfl
      | none => exact if_neg (Ne.symm ha)

theorem addrs_populateLinkSet :
    (populateLinkSet convertMEToDouble now hello olsr).1.linkSet.map LinkTuple.lNeighborIfaceAddr =
      if (olsrFindLinkSet olsr.linkSet hello.originatorAddress).isSome then
        olsr.linkSet.map LinkTuple.lNeighborIfaceAddr
      else olsr.linkSet.map LinkTuple.lNeighborIfaceAddr ++ [hello.originatorAddress] := by
  unfold populateLinkSet
  dsimp only
  cases hfind : olsrFindLinkSet olsr.linkSet hello.originatorAddress with
  | some link => exact map_key_modifyFirst fun _ => addr_hear
  | none =>
    rw [List.map_append, List.map_singleton, addr_hear]
    rfl

theorem timers_populateLinkSet :
    (populateLinkSet convertMEToDouble now hello olsr).2 =
      if (olsrFindLinkSet olsr.linkSet hello.originatorAddress).isSome then []
      else
        [{ lNeighborIfaceAddr := hello.originatorAddress
           dEventTime := (heardLink convertMEToDouble now hello olsr).lTime }] := by
  unfold populateLinkSet heardLink oldLink
  dsimp only
  cases olsrFindLinkSet olsr.linkSet hello.originatorAddress with
  | some link => rfl
  | none => rfl

structure SameNeighbors (olsr olsr' : NodeOlsr Addr) : Prop where
  main : olsr'.mainAddress = olsr.mainAddress
  neighborSet : olsr'.neighborSet = olsr.neighborSet
  twoHopNeighborSet : olsr'.twoHopNeighborSet = olsr.twoHopNeighborSet
  mprSelectionSet : olsr'.mprSelectionSet = olsr.mprSelectionSet

theorem sameNeighbors_populateLinkSet :
    SameNeighbors olsr (populateLinkSet convertMEToDouble now hello olsr).1 := by
  unfold populateLinkSet
  dsimp only
  split <;> exact ⟨rfl, rfl, rfl, rfl⟩

/-! ## What becomes of the neighbours -/

structure OnlyNeighbors (olsr olsr' : NodeOlsr Addr) : Prop where
  main : olsr'.mainAddress = olsr.mainAddress
  linkSet : olsr'.linkSet = olsr.linkSet
  twoHopNeighborSet : olsr'.twoHopNeighborSet = olsr.twoHopNeighborSet
  mprSelectionSet : olsr'.mprSelectionSet = olsr.mprSelectionSet

omit [DecidableEq Addr] in
theorem OnlyNeighbors.trans {olsr'' : NodeOlsr Addr} (h : OnlyNeighbors olsr olsr')
    (h' : OnlyNeighbors olsr' olsr'') : OnlyNeighbors olsr olsr'' :=
  ⟨h'.main.trans h.main, h'.linkSet.trans h.linkSet, h'.twoHopNeighborSet.trans h.twoHopNeighborSet,
    h'.mprSelectionSet.trans h.mprSelectionSet⟩

def neighborOr (neighborSet : List (NeighborTuple Addr)) (a : Addr) : NeighborTuple Addr :=
  (olsrFindNeighborSet neighborSet a).getD
    { nNeighborMainAddr := a, nStatus := .notNeigh, nWillingness := .default }

variable {neighborSet : List (NeighborTuple Addr)}

theorem addr_neighborOr : (neighborOr neighborSet a).nNeighborMainAddr = a := by
  unfold neighborOr
  cases hfind : olsrFindNeighborSet neighborSet a with
  | some n => exact (lookup_some hfind).2
  | none => rfl

theorem findNeighborSet_append {n : NeighborTuple Addr}
    (hnone : olsrFindNeighborSet neighborSet n.nNeighborMainAddr = none) (b : Addr) :
    olsrFindNeighborSet (neighborSet ++ [n]) b =
      if b = n.nNeighborMainAddr then some n else olsrFindNeighborSet neighborSet b := by
  unfold olsrFindNeighborSet at hnone ⊢
  rw [lookup_append_single]
  by_cases hb : b = n.nNeighborMainAddr
  · rw [if_pos hb, hb, hnone]
    exact if_pos rfl
  · rw [if_neg hb]
    cases lookup NeighborTuple.nNeighborMainAddr b neighborSet with
    | some n => rfl
    | none => exact if_neg (Ne.symm hb)

theorem findNeighborSet_modify
    {f : NeighborTuple Addr → NeighborTuple Addr} (hf : ∀ n, (f n).nNeighborMainAddr = n.nNeighborMainAddr)
    (b : Addr) :
    olsrFindNeighborSet (modifyFirst NeighborTuple.nNeighborMainAddr a f neighborSet) b =
      if b = a then (olsrFindNeighborSet neighborSet a).map f else olsrFindNeighborSet neighborSet b :=
  lookup_modifyFirst hf

theorem find_createNeighbor (a b : Addr) :
    olsrFindNeighborSet (createNeighbor a olsr).neighborSet b =
      if b = a then some (neighborOr olsr.neighborSet b) else olsrFindNeighborSet olsr.neighborSet b := by
  unfold createNeighbor
  cases hfind : olsrFindNeighborSet olsr.neighborSet a with
  | some n =>
    dsimp only
    split
    · next hb =>
      rw [hb]
      unfold neighborOr
      rw [hfind]
      rfl
    · rfl
  | none =>
    rw [findNeighborSet_append hfind]
    split
    · next hb =>
      rw [hb]
      unfold neighborOr
      rw [hfind]
      rfl
    · rfl

theorem addrs_createNeighbor (a : Addr) :
    (createNeighbor a olsr).neighborSet.map NeighborTuple.nNeighborMainAddr =
      if a ∈ olsr.neighborSet.map NeighborTuple.nNeighborMainAddr then
        olsr.neighborSet.map NeighborTuple.nNeighborMainAddr
      else olsr.neighborSet.map NeighborTuple.nNeighborMainAddr ++ [a] := by
  unfold createNeighbor
  cases hfind : olsrFindNeighborSet olsr.neighborSet a with
  | some n =>
    obtain ⟨hn, rfl⟩ := lookup_some hfind
    exact (if_pos (List.mem_map_of_mem hn)).symm
  | none =>
    refine Eq.trans ?_ (if_neg fun hmem => ?_).symm
    · exact List.map_append
    · obtain ⟨n, hn, rfl⟩ := List.mem_map.1 hmem
      exact lookup_eq_none.1 hfind n hn rfl

variable {link : LinkTuple Addr}

theorem onlyNeighbors_neighborOfLink : OnlyNeighbors olsr (neighborOfLink now olsr link) := by
  unfold neighborOfLink createNeighbor
  split <;> exact ⟨rfl, rfl, rfl, rfl⟩

theorem find_neighborOfLink (b : Addr) :
    olsrFindNeighborSet (neighborOfLink now olsr link).neighborSet b =
      if b = link.lNeighborIfaceAddr then
        some { neighborOr olsr.neighborSet b with nStatus := statusOf now link }
      else olsrFindNeighborSet olsr.neighborSet b := by
  unfold neighborOfLink
  rw [findNeighborSet_modify, find_createNeighbor, if_pos rfl, find_createNeighbor]
  · by_cases hb : b = link.lNeighborIfaceAddr
    · rw [if_pos hb, if_pos hb, hb]
      rfl
    · rw [if_neg hb, if_neg hb, if_neg hb]
  · exact fun _ => rfl

theorem addrs_neighborOfLink :
    (neighborOfLink now olsr link).neighborSet.map NeighborTuple.nNeighborMainAddr =
      if link.lNeighborIfaceAddr ∈ olsr.neighborSet.map NeighborTuple.nNeighborMainAddr then
        olsr.neighborSet.map NeighborTuple.nNeighborMainAddr
      else olsr.neighborSet.map NeighborTuple.nNeighborMainAddr ++ [link.lNeighborIfaceAddr] := by
  refine Eq.trans ?_ (addrs_createNeighbor _)
  exact map_key_modifyFirst fun _ => rfl

omit [DecidableEq Addr] in
theorem OnlyNeighbors.refl : OnlyNeighbors olsr olsr := ⟨rfl, rfl, rfl, rfl⟩

theorem onlyNeighbors_foldl (links : List (LinkTuple Addr)) :
    OnlyNeighbors olsr (links.foldl (neighborOfLink now) olsr) := by
  induction links generalizing olsr with
  | nil => exact .refl
  | cons link links ih => exact onlyNeighbors_neighborOfLink.trans ih

variable {links : List (LinkTuple Addr)}

theorem find_foldl_neighborOfLink
    (hnd : (links.map LinkTuple.lNeighborIfaceAddr).Nodup) (b : Addr) :
    olsrFindNeighborSet (links.foldl (neighborOfLink now) olsr).neighborSet b =
      match olsrFindLinkSet links b with
      | some link => some { neighborOr olsr.neighborSet b with nStatus := statusOf now link }
      | none => olsrFindNeighborSet olsr.neighborSet b := by
  induction links generalizing olsr with
  | nil => rfl
  | cons link links ih =>
    rw [List.map_cons, List.nodup_cons] at hnd
    rw [List.foldl_cons, ih hnd.2]
    unfold olsrFindLinkSet
    rw [lookup_cons]
    by_cases hb : link.lNeighborIfaceAddr = b
    · have hnone : lookup LinkTuple.lNeighborIfaceAddr b links = none :=
        lookup_eq_none.2 fun l hl hlb => hnd.1 (hb.trans hlb.symm ▸ List.mem_map_of_mem hl)
      rw [if_pos hb, hnone, find_neighborOfLink, if_pos hb.symm]
    · have hfind : olsrFindNeighborSet (neighborOfLink now olsr link).neighborSet b =
          olsrFindNeighborSet olsr.neighborSet b := by
        rw [find_neighborOfLink, if_neg (Ne.symm hb)]
      rw [if_neg hb]
      unfold neighborOr
      rw [hfind]

theorem addrs_foldl_neighborOfLink (hnd : (links.map LinkTuple.lNeighborIfaceAddr).Nodup) :
    (links.foldl (neighborOfLink now) olsr).neighborSet.map NeighborTuple.nNeighborMainAddr =
      olsr.neighborSet.map NeighborTuple.nNeighborMainAddr ++
        (links.map LinkTuple.lNeighborIfaceAddr).filter fun a =>
          a ∉ olsr.neighborSet.map NeighborTuple.nNeighborMainAddr := by
  induction links generalizing olsr with
  | nil => exact (List.append_nil _).symm
  | cons link links ih =>
    rw [List.map_cons, List.nodup_cons] at hnd
    rw [List.foldl_cons, ih hnd.2, addrs_neighborOfLink, List.map_cons, List.filter_cons]
    by_cases hmem : link.lNeighborIfaceAddr ∈ olsr.neighborSet.map NeighborTuple.nNeighborMainAddr
    · rw [if_pos hmem, if_neg (by simpa using hmem)]
    · rw [if_neg hmem, if_pos (by simpa using hmem), List.append_assoc, List.singleton_append]
      refine congrArg _ (congrArg _ (List.filter_congr fun a ha => decide_eq_decide.2 (not_congr ?_)))
      have hne : a ≠ link.lNeighborIfaceAddr := fun h => hnd.1 (h ▸ ha)
      rw [List.mem_append, List.mem_singleton, or_iff_left hne]

def givenWillingness (hello : HelloMessage Addr) (n : NeighborTuple Addr) : Willingness :=
  if n.nNeighborMainAddr ∈ hello.link.map HelloLink.neighborInterfaceAddress then hello.willingness
  else n.nWillingness

theorem find_setWillingness (b : Addr) :
    olsrFindNeighborSet (setWillingness hello neighborSet) b =
      (olsrFindNeighborSet neighborSet b).map fun n => { n with nWillingness := givenWillingness hello n } := by
  unfold setWillingness givenWillingness
  induction hello.link generalizing neighborSet with
  | nil => simp
  | cons i link ih =>
    rw [List.foldl_cons, ih, findNeighborSet_modify]
    swap
    · exact fun _ => rfl
    by_cases hb : b = i.neighborInterfaceAddress
    · rw [if_pos hb, hb]
      cases hfind : olsrFindNeighborSet neighborSet i.neighborInterfaceAddress with
      | none => rfl
      | some n =>
        have hn : n.nNeighborMainAddr = i.neighborInterfaceAddress := (lookup_some hfind).2
        simp [hn]
    · rw [if_neg hb]
      cases hfind : olsrFindNeighborSet neighborSet b with
      | none => rfl
      | some n =>
        have hn : n.nNeighborMainAddr = b := (lookup_some hfind).2
        have hne : n.nNeighborMainAddr ≠ i.neighborInterfaceAddress := hn ▸ hb
        simp [hne]

theorem addrs_setWillingness :
    (setWillingness hello neighborSet).map NeighborTuple.nNeighborMainAddr =
      neighborSet.map NeighborTuple.nNeighborMainAddr := by
  unfold setWillingness
  induction hello.link generalizing neighborSet with
  | nil => rfl
  | cons i link ih =>
    rw [List.foldl_cons, ih]
    exact map_key_modifyFirst fun _ => rfl

def Matched (olsr : NodeOlsr Addr) : Prop :=
  olsr.neighborSet.map NeighborTuple.nNeighborMainAddr = olsr.linkSet.map LinkTuple.lNeighborIfaceAddr

structure Populated (now : ℚ) (hello : HelloMessage Addr) (olsr olsr' : NodeOlsr Addr) : Prop where
  only : OnlyNeighbors olsr olsr'
  matched : Matched olsr'
  find : ∀ b, olsrFindNeighborSet olsr'.neighborSet b = (olsrFindLinkSet olsr.linkSet b).map fun link =>
    { nNeighborMainAddr := b
      nStatus := statusOf now link
      nWillingness := givenWillingness hello (neighborOr olsr.neighborSet b) }

theorem populated_populateNeighborSet (now : ℚ) (hello : HelloMessage Addr)
    (hnd : (olsr.linkSet.map LinkTuple.lNeighborIfaceAddr).Nodup)
    (hsub : olsr.neighborSet.map NeighborTuple.nNeighborMainAddr ++
      (olsr.linkSet.map LinkTuple.lNeighborIfaceAddr).filter (fun a =>
        a ∉ olsr.neighborSet.map NeighborTuple.nNeighborMainAddr) =
      olsr.linkSet.map LinkTuple.lNeighborIfaceAddr) :
    ∃ olsr', populateNeighborSet now hello olsr = some olsr' ∧ Populated now hello olsr olsr' := by
  have honly : OnlyNeighbors olsr (olsr.linkSet.foldl (neighborOfLink now) olsr) :=
    onlyNeighbors_foldl olsr.linkSet
  have haddrs : (olsr.linkSet.foldl (neighborOfLink now) olsr).neighborSet.map
      NeighborTuple.nNeighborMainAddr = olsr.linkSet.map LinkTuple.lNeighborIfaceAddr :=
    (addrs_foldl_neighborOfLink hnd).trans hsub
  have hfind : ∀ b, olsrFindNeighborSet (olsr.linkSet.foldl (neighborOfLink now) olsr).neighborSet b =
      (olsrFindLinkSet olsr.linkSet b).map fun link =>
        { neighborOr olsr.neighborSet b with nStatus := statusOf now link } := by
    intro b
    rw [find_foldl_neighborOfLink hnd]
    cases hlink : olsrFindLinkSet olsr.linkSet b with
    | some link => rfl
    | none =>
      refine lookup_eq_none.2 fun n hn hnb => ?_
      have hmem : b ∈ olsr.linkSet.map LinkTuple.lNeighborIfaceAddr := by
        rw [← hsub]
        exact List.mem_append_left _ (hnb ▸ List.mem_map_of_mem hn)
      obtain ⟨l, hl, hlb⟩ := List.mem_map.1 hmem
      exact lookup_eq_none.1 hlink l hl hlb
  unfold populateNeighborSet
  generalize olsr.linkSet.foldl (neighborOfLink now) olsr = olsr1 at honly haddrs hfind ⊢
  have hall : ¬ (olsr1.neighborSet.any fun n =>
      (olsrFindLinkSet olsr1.linkSet n.nNeighborMainAddr).isNone) = true := by
    rw [List.any_eq_true]
    rintro ⟨n, hn, hnone⟩
    have hmem : n.nNeighborMainAddr ∈ olsr.linkSet.map LinkTuple.lNeighborIfaceAddr :=
      haddrs ▸ List.mem_map_of_mem hn
    obtain ⟨l, hl, hln⟩ := List.mem_map.1 hmem
    rw [honly.linkSet] at hnone
    exact lookup_eq_none.1 (Option.isNone_iff_eq_none.1 hnone) l hl hln
  refine ⟨_, if_neg hall, ⟨honly.main, honly.linkSet, honly.twoHopNeighborSet, honly.mprSelectionSet⟩, ?_,
    fun b => ?_⟩
  · unfold Matched
    rw [addrs_setWillingness, haddrs, honly.linkSet]
  · rw [find_setWillingness, hfind, Option.map_map]
    refine Option.map_congr fun link _ => ?_
    unfold givenWillingness
    dsimp only [Function.comp]
    rw [addr_neighborOr]

/-! ## What becomes of the two-hop neighbours -/

def ListsSym (link : List (HelloLink Addr)) (z : Addr) : Prop :=
  ∃ i ∈ link, i.neighborInterfaceAddress = z ∧ i.neighTypes ≠ .notNeigh

instance (link : List (HelloLink Addr)) (z : Addr) : Decidable (ListsSym link z) :=
  inferInstanceAs (Decidable (∃ i ∈ link, _))

structure OnlyTwoHop (olsr olsr' : NodeOlsr Addr) : Prop where
  main : olsr'.mainAddress = olsr.mainAddress
  linkSet : olsr'.linkSet = olsr.linkSet
  neighborSet : olsr'.neighborSet = olsr.neighborSet
  mprSelectionSet : olsr'.mprSelectionSet = olsr.mprSelectionSet

omit [DecidableEq Addr] in
theorem OnlyTwoHop.refl : OnlyTwoHop olsr olsr := ⟨rfl, rfl, rfl, rfl⟩

omit [DecidableEq Addr] in
theorem OnlyTwoHop.trans {olsr'' : NodeOlsr Addr} (h : OnlyTwoHop olsr olsr')
    (h' : OnlyTwoHop olsr' olsr'') : OnlyTwoHop olsr olsr'' :=
  ⟨h'.main.trans h.main, h'.linkSet.trans h.linkSet, h'.neighborSet.trans h.neighborSet,
    h'.mprSelectionSet.trans h.mprSelectionSet⟩

def twoHopKeys (olsr : NodeOlsr Addr) : List (Addr × Addr) := olsr.twoHopNeighborSet.map TwoHopTuple.key

variable {src : Addr} {nTime : ℚ}

theorem onlyTwoHop_addTwoHop {z : Addr} : OnlyTwoHop olsr (addTwoHop src z nTime olsr) := by
  unfold addTwoHop
  split <;> exact ⟨rfl, rfl, rfl, rfl⟩

variable {i : HelloLink Addr}

theorem onlyTwoHop_twoHopOfLink : OnlyTwoHop olsr (twoHopOfLink src nTime olsr i) := by
  unfold twoHopOfLink
  dsimp only
  split
  · split
    · exact .refl
    · exact onlyTwoHop_addTwoHop
  · split
    · exact .refl
    · exact onlyTwoHop_addTwoHop
  · exact ⟨rfl, rfl, rfl, rfl⟩

theorem keys_addTwoHop {z : Addr} :
    twoHopKeys (addTwoHop src z nTime olsr) =
      if (src, z) ∈ twoHopKeys olsr then twoHopKeys olsr else twoHopKeys olsr ++ [(src, z)] := by
  unfold addTwoHop olsrFind2HopNeighbor
  cases hfind : lookup TwoHopTuple.key (src, z) olsr.twoHopNeighborSet with
  | some t =>
    obtain ⟨ht, hkey⟩ := lookup_some hfind
    refine Eq.trans ?_ (if_pos (hkey ▸ List.mem_map_of_mem ht)).symm
    exact map_key_modifyFirst fun _ => rfl
  | none =>
    refine Eq.trans ?_ (if_neg fun hmem => ?_).symm
    · exact List.map_append
    · obtain ⟨t, ht, hkey⟩ := List.mem_map.1 hmem
      exact lookup_eq_none.1 hfind t ht hkey

theorem keys_twoHopOfLink :
    twoHopKeys (twoHopOfLink src nTime olsr i) =
      if i.neighTypes = .notNeigh then
        (eraseFirst TwoHopTuple.key (src, i.neighborInterfaceAddress) olsr.twoHopNeighborSet).map
          TwoHopTuple.key
      else if i.neighborInterfaceAddress = olsr.mainAddress then twoHopKeys olsr
      else if (src, i.neighborInterfaceAddress) ∈ twoHopKeys olsr then twoHopKeys olsr
      else twoHopKeys olsr ++ [(src, i.neighborInterfaceAddress)] := by
  unfold twoHopOfLink
  cases htype : i.neighTypes with
  | symNeigh =>
    dsimp only
    split
    · rfl
    · exact keys_addTwoHop
  | mprNeigh =>
    dsimp only
    split
    · rfl
    · exact keys_addTwoHop
  | notNeigh =>
    rfl

structure Relisted (main src : Addr) (link : List (HelloLink Addr)) (keys keys' : List (Addr × Addr)) :
    Prop where
  nodup : keys'.Nodup
  from_old : ∀ k ∈ keys', k ∈ keys ∨ k.1 = src ∧ k.2 ≠ main ∧ ListsSym link k.2
  listed : ∀ k ∈ keys', k.1 = src → k.2 ∈ link.map HelloLink.neighborInterfaceAddress → k.2 ≠ main →
    ListsSym link k.2

theorem onlyTwoHop_foldl (link : List (HelloLink Addr)) :
    OnlyTwoHop olsr (link.foldl (twoHopOfLink src nTime) olsr) := by
  induction link generalizing olsr with
  | nil => exact .refl
  | cons i link ih => exact onlyTwoHop_twoHopOfLink.trans ih

omit [DecidableEq Addr] in
theorem ListsSym.cons {link : List (HelloLink Addr)} {z : Addr} (i : HelloLink Addr)
    (h : ListsSym link z) : ListsSym (i :: link) z := by
  obtain ⟨j, hj, hz⟩ := h
  exact ⟨j, List.mem_cons_of_mem _ hj, hz⟩

theorem relisted_foldl {link : List (HelloLink Addr)}
    (hnd : (twoHopKeys olsr).Nodup) :
    Relisted olsr.mainAddress src link (twoHopKeys olsr)
      (twoHopKeys (link.foldl (twoHopOfLink src nTime) olsr)) := by
  induction link generalizing olsr with
  | nil => exact ⟨hnd, fun k hk => .inl hk, nofun⟩
  | cons i link ih =>
    -- What the turn for the first listed address does.
    have hone : (twoHopKeys (twoHopOfLink src nTime olsr i)).Nodup ∧
        ∀ k ∈ twoHopKeys (twoHopOfLink src nTime olsr i),
          k ∈ twoHopKeys olsr ∧ (i.neighTypes = .notNeigh → k ≠ (src, i.neighborInterfaceAddress)) ∨
          k = (src, i.neighborInterfaceAddress) ∧ i.neighborInterfaceAddress ≠ olsr.mainAddress ∧
            i.neighTypes ≠ .notNeigh := by
      rw [keys_twoHopOfLink]
      by_cases htype : i.neighTypes = .notNeigh
      · rw [if_pos htype]
        refine ⟨nodup_map_eraseFirst hnd, fun k hk => ?_⟩
        obtain ⟨t, ht, rfl⟩ := List.mem_map.1 hk
        obtain ⟨hmem, hne⟩ := (mem_eraseFirst_iff hnd).1 ht
        exact .inl ⟨List.mem_map_of_mem hmem, fun _ => hne⟩
      · rw [if_neg htype]
        have hsame : (twoHopKeys olsr).Nodup ∧ ∀ k ∈ twoHopKeys olsr,
            k ∈ twoHopKeys olsr ∧ (i.neighTypes = .notNeigh → k ≠ (src, i.neighborInterfaceAddress)) ∨
            k = (src, i.neighborInterfaceAddress) ∧ i.neighborInterfaceAddress ≠ olsr.mainAddress ∧
              i.neighTypes ≠ .notNeigh :=
          ⟨hnd, fun k hk => .inl ⟨hk, fun h => absurd h htype⟩⟩
        split
        · exact hsame
        · next hmain =>
          split
          · exact hsame
          · next hnot =>
            refine ⟨?_, fun k hk => ?_⟩
            · rw [List.nodup_append]
              refine ⟨hnd, List.nodup_singleton _, fun x hx y hy hxy => hnot ?_⟩
              rw [← List.mem_singleton.1 hy, ← hxy]
              exact hx
            · rcases List.mem_append.1 hk with hk | hk
              · exact .inl ⟨hk, fun h => absurd h htype⟩
              · exact .inr ⟨List.mem_singleton.1 hk, hmain, htype⟩
    have hrest := ih hone.1
    rw [onlyTwoHop_twoHopOfLink.main] at hrest
    refine ⟨hrest.nodup, fun k hk => ?_, fun k hk hsrc hlisted hmain => ?_⟩
    · rcases hrest.from_old k hk with hk | ⟨hsrc, hmain, hsym⟩
      · rcases hone.2 k hk with ⟨hk, -⟩ | ⟨rfl, hmain, htype⟩
        · exact .inl hk
        · exact .inr ⟨rfl, hmain, i, List.mem_cons_self, rfl, htype⟩
      · exact .inr ⟨hsrc, hmain, hsym.cons i⟩
    · by_cases hin : k.2 ∈ link.map HelloLink.neighborInterfaceAddress
      · exact (hrest.listed k hk hsrc hin hmain).cons i
      · have hz : k.2 = i.neighborInterfaceAddress := (List.mem_cons.1 hlisted).resolve_right hin
        rcases hrest.from_old k hk with hk | ⟨-, -, hsym⟩
        · rcases hone.2 k hk with ⟨-, hne⟩ | ⟨-, -, htype⟩
          · refine ⟨i, List.mem_cons_self, hz.symm, fun htype => hne htype ?_⟩
            exact Prod.ext hsrc hz
          · exact ⟨i, List.mem_cons_self, hz.symm, htype⟩
        · exact hsym.cons i

/-! ## What becomes of the MPRs -/

theorem exists_fill2HopNeighbor (now : ℚ)
    (hn : ∀ t ∈ olsr.twoHopNeighborSet, (olsrFindNeighborSet olsr.neighborSet t.nNeighborMainAddr).isSome) :
    ∃ N2, olsrFill2HopNeighbor now olsr = some N2 ∧ N2 ⊆ olsr.twoHopNeighborSet := by
  have hloop : ∀ {l acc : List (TwoHopTuple Addr)}, l ⊆ olsr.twoHopNeighborSet →
      acc ⊆ olsr.twoHopNeighborSet →
      ∃ N2, l.foldlM (fill2HopTuple now olsr) acc = some N2 ∧ N2 ⊆ olsr.twoHopNeighborSet := by
    intro l
    induction l with
    | nil => exact fun _ hacc => ⟨_, rfl, hacc⟩
    | cons t l ih =>
      intro acc hl hacc
      have ht := hl List.mem_cons_self
      have hl' : l ⊆ olsr.twoHopNeighborSet := fun x hx => hl (List.mem_cons_of_mem _ hx)
      have hone : ∃ acc', fill2HopTuple now olsr acc t = some acc' ∧ acc' ⊆ olsr.twoHopNeighborSet := by
        obtain ⟨n, hfind⟩ := Option.isSome_iff_exists.1 (hn t ht)
        unfold fill2HopTuple
        rw [hfind]
        dsimp only
        split
        · exact ⟨_, rfl, hacc⟩
        · split
          · exact ⟨_, rfl, hacc⟩
          · split
            · exact ⟨_, rfl, hacc⟩
            · exact ⟨_, rfl, List.append_subset.2 ⟨hacc, fun x hx => List.mem_singleton.1 hx ▸ ht⟩⟩
      obtain ⟨acc', hacc', hsub⟩ := hone
      rw [List.foldlM_cons, hacc']
      exact ih hl' hsub
  exact hloop (List.Subset.refl _) (List.nil_subset _)

def neighborsOf (set : List (TwoHopTuple Addr)) : List Addr := set.map TwoHopTuple.nNeighborMainAddr

variable {N2 : List (TwoHopTuple Addr)} {mpr : List Addr}

theorem flush2HopSetBasedonMPR_subset : flush2HopSetBasedonMPR N2 mpr ⊆ N2 := by
  induction mpr generalizing N2 with
  | nil => exact List.Subset.refl _
  | cons j mpr ih => exact List.Subset.trans ih (List.filter_subset_self _)

variable {N : List (NeighborTuple Addr)} {S : List Addr}

theorem olsrAddtoMPRSet_subset {t : TwoHopTuple Addr}
    (hmpr : mpr ⊆ S) (ht : t.nNeighborMainAddr ∈ S) : olsrAddtoMPRSet mpr N t ⊆ S := by
  unfold olsrAddtoMPRSet
  cases hfind : olsrFindNeighborSet N t.nNeighborMainAddr with
  | none => exact hmpr
  | some n =>
    refine List.append_subset.2 ⟨hmpr, fun x hx => ?_⟩
    rw [List.mem_singleton.1 hx, (lookup_some hfind).2]
    exact ht

theorem onlyMprs_subset {fuel : ℕ} (hmpr : mpr ⊆ S) (hN2 : neighborsOf N2 ⊆ S) :
    neighborsOf (onlyMprs N fuel N2 mpr).1 ⊆ S ∧ (onlyMprs N fuel N2 mpr).2 ⊆ S := by
  induction fuel generalizing N2 mpr with
  | zero => exact ⟨hN2, hmpr⟩
  | succ fuel ih =>
    unfold onlyMprs
    cases hfind : N2.find? fun i => N2.countP (fun j => j.n2hopAddr = i.n2hopAddr) = 1 with
    | none => exact ⟨hN2, hmpr⟩
    | some i =>
      have hi : i.nNeighborMainAddr ∈ S := hN2 (List.mem_map_of_mem (List.mem_of_find?_eq_some hfind))
      refine ih (olsrAddtoMPRSet_subset hmpr hi) (List.Subset.trans ?_ hN2)
      exact List.map_subset _ flush2HopSetBasedonMPR_subset

theorem moreMprs_subset {fuel : ℕ}
    (hmpr : mpr ⊆ S) (hN2 : neighborsOf N2 ⊆ S) : moreMprs N fuel N2 mpr ⊆ S := by
  induction fuel generalizing N2 mpr with
  | zero => exact hmpr
  | succ fuel ih =>
    cases N2 with
    | nil => exact hmpr
    | cons i N2 =>
      refine ih (olsrAddtoMPRSet_subset hmpr (hN2 List.mem_cons_self)) (List.Subset.trans ?_ hN2)
      exact List.map_subset _ flush2HopSetBasedonMPR_subset

theorem find_olsrMarkMPR (b : Addr) :
    olsrFindNeighborSet (olsrMarkMPR mpr neighborSet) b =
      (olsrFindNeighborSet neighborSet b).map fun n =>
        { n with nStatus := if b ∈ mpr then .mprNeigh else n.nStatus } := by
  unfold olsrMarkMPR
  induction mpr generalizing neighborSet with
  | nil => simp
  | cons j mpr ih =>
    rw [List.foldl_cons, ih, findNeighborSet_modify]
    swap
    · exact fun _ => rfl
    by_cases hb : b = j
    · rw [if_pos hb, hb, Option.map_map]
      refine Option.map_congr fun n _ => ?_
      simp
    · simp [hb]

theorem addrs_olsrMarkMPR :
    (olsrMarkMPR mpr neighborSet).map NeighborTuple.nNeighborMainAddr =
      neighborSet.map NeighborTuple.nNeighborMainAddr := by
  unfold olsrMarkMPR
  induction mpr generalizing neighborSet with
  | nil => rfl
  | cons j mpr ih =>
    rw [List.foldl_cons, ih]
    exact map_key_modifyFirst fun _ => rfl

structure Marked (olsr olsr' : NodeOlsr Addr) : Prop where
  only : OnlyNeighbors olsr olsr'
  addrs : olsr'.neighborSet.map NeighborTuple.nNeighborMainAddr =
    olsr.neighborSet.map NeighborTuple.nNeighborMainAddr
  find : ∃ mpr ⊆ neighborsOf olsr.twoHopNeighborSet, ∀ b, olsrFindNeighborSet olsr'.neighborSet b =
    (olsrFindNeighborSet olsr.neighborSet b).map fun n =>
      { n with nStatus := if b ∈ mpr then .mprNeigh else n.nStatus }

theorem marked_populateMPRSet (now : ℚ)
    (hn : ∀ t ∈ olsr.twoHopNeighborSet, (olsrFindNeighborSet olsr.neighborSet t.nNeighborMainAddr).isSome) :
    ∃ olsr', populateMPRSet now olsr = some olsr' ∧ Marked olsr olsr' := by
  obtain ⟨N2, hN2, hsub⟩ := exists_fill2HopNeighbor now hn
  have hsub' : neighborsOf N2 ⊆ neighborsOf olsr.twoHopNeighborSet := List.map_subset _ hsub
  unfold populateMPRSet
  rw [hN2]
  refine ⟨_, rfl, ⟨rfl, rfl, rfl, rfl⟩, addrs_olsrMarkMPR, _, ?_, fun b => find_olsrMarkMPR b⟩
  have honly : neighborsOf (onlyMprs (olsrFillNeighbor olsr) N2.length N2 []).1 ⊆
      neighborsOf olsr.twoHopNeighborSet ∧ (onlyMprs (olsrFillNeighbor olsr) N2.length N2 []).2 ⊆
      neighborsOf olsr.twoHopNeighborSet := onlyMprs_subset (List.nil_subset _) hsub'
  exact moreMprs_subset honly.2 honly.1

structure SameSets (olsr olsr' : NodeOlsr Addr) : Prop where
  main : olsr'.mainAddress = olsr.mainAddress
  linkSet : olsr'.linkSet = olsr.linkSet
  neighborSet : olsr'.neighborSet = olsr.neighborSet
  twoHopNeighborSet : olsr'.twoHopNeighborSet = olsr.twoHopNeighborSet
  mprSelectionSet : olsr'.mprSelectionSet = olsr.mprSelectionSet

def Anchored (olsr : NodeOlsr Addr) : Prop :=
  ∀ t ∈ olsr.twoHopNeighborSet, (olsrFindNeighborSet olsr.neighborSet t.nNeighborMainAddr).isSome

theorem sameSets_refreshRoutingTable (hn : Anchored olsr) :
    ∃ olsr', refreshRoutingTable olsr = some olsr' ∧ SameSets olsr olsr' := by
  have hloop : ∀ {l : List (TwoHopTuple Addr)} {table : List (Route Addr)}, l ⊆ olsr.twoHopNeighborSet →
      ∃ table', l.foldlM (addTwoHopRoute olsr) table = some table' := by
    intro l
    induction l with
    | nil => exact fun _ => ⟨_, rfl⟩
    | cons t l ih =>
      intro table hl
      obtain ⟨n, hfind⟩ := Option.isSome_iff_exists.1 (hn t (hl List.mem_cons_self))
      have hone : ∃ table', addTwoHopRoute olsr table t = some table' := by
        unfold addTwoHopRoute
        rw [hfind]
        dsimp only
        split
        · split
          · exact ⟨_, rfl⟩
          · exact ⟨_, rfl⟩
        · exact ⟨_, rfl⟩
      obtain ⟨table', htable⟩ := hone
      rw [List.foldlM_cons, htable]
      exact ih fun x hx => hl (List.mem_cons_of_mem _ hx)
  unfold refreshRoutingTable
  split
  · have hnear : ∃ table, olsr.twoHopNeighborSet.foldlM (addTwoHopRoute olsr) (neighborRoutes olsr) =
        some table := hloop (List.Subset.refl _)
    obtain ⟨table, htable⟩ := hnear
    unfold updateRoutingTable nearRoutes
    rw [htable]
    exact ⟨_, rfl, rfl, rfl, rfl, rfl, rfl⟩
  · exact ⟨_, rfl, rfl, rfl, rfl, rfl, rfl⟩

def selectorAddrs (olsr : NodeOlsr Addr) : List Addr := olsr.mprSelectionSet.map MprSelector.msMainAddr

def ListsMpr (link : List (HelloLink Addr)) : Prop := ∃ i ∈ link, i.neighTypes = .mprNeigh

theorem mem_selectorOfLink {msTime : ℚ} {set : List (MprSelector Addr)} :
    a ∈ (selectorOfLink src msTime set i).map MprSelector.msMainAddr ↔
      a ∈ set.map MprSelector.msMainAddr ∨ a = src ∧ i.neighTypes = .mprNeigh := by
  unfold selectorOfLink olsrFindMPRSelectorSet
  by_cases htype : i.neighTypes = .mprNeigh
  · rw [if_pos htype]
    cases hfind : lookup MprSelector.msMainAddr src set with
    | some x =>
      obtain ⟨hx, rfl⟩ := lookup_some hfind
      have hkeys : (modifyFirst MprSelector.msMainAddr x.msMainAddr (fun x => { x with msTime }) set).map
          MprSelector.msMainAddr = set.map MprSelector.msMainAddr := map_key_modifyFirst fun _ => rfl
      rw [hkeys]
      refine ⟨.inl, ?_⟩
      rintro (h | ⟨rfl, -⟩)
      · exact h
      · exact List.mem_map_of_mem hx
    | none =>
      rw [List.map_append, List.mem_append, List.map_singleton, List.mem_singleton]
      exact or_congr Iff.rfl (and_iff_left htype).symm
  · rw [if_neg htype]
    exact (or_iff_left fun h => htype h.2).symm

theorem mem_foldl_selectorOfLink {msTime : ℚ} {link : List (HelloLink Addr)}
    {set : List (MprSelector Addr)} :
    a ∈ (link.foldl (selectorOfLink src msTime) set).map MprSelector.msMainAddr ↔
      a ∈ set.map MprSelector.msMainAddr ∨ a = src ∧ ListsMpr link := by
  unfold ListsMpr
  induction link generalizing set with
  | nil => simp
  | cons i link ih =>
    rw [List.foldl_cons, ih, mem_selectorOfLink, or_assoc, ← and_or_left]
    simp

/-! ## What a HELLO does -/

/-- What a node keeps of its neighbours whatever it hears. -/
structure Kept (olsr : NodeOlsr Addr) : Prop where
  links : (olsr.linkSet.map LinkTuple.lNeighborIfaceAddr).Nodup
  matched : Matched olsr
  anchored : Anchored olsr
  twoHop : (twoHopKeys olsr).Nodup
  notSelf : ∀ k ∈ twoHopKeys olsr, k.2 ≠ olsr.mainAddress

structure Received (convertMEToDouble : ℕ → ℚ) (now : ℚ) (hello : HelloMessage Addr)
    (olsr olsr' : NodeOlsr Addr) (timers : List (LinkTimer Addr)) : Prop where
  main : olsr'.mainAddress = olsr.mainAddress
  linkSet : olsr'.linkSet = (populateLinkSet convertMEToDouble now hello olsr).1.linkSet
  timers : timers = (populateLinkSet convertMEToDouble now hello olsr).2
  matched : Matched olsr'
  find : ∃ mpr ⊆ neighborsOf olsr'.twoHopNeighborSet, ∀ b, olsrFindNeighborSet olsr'.neighborSet b =
    (olsrFindLinkSet olsr'.linkSet b).map fun link =>
      { nNeighborMainAddr := b
        nStatus := if b ∈ mpr then .mprNeigh else statusOf now link
        nWillingness := givenWillingness hello (neighborOr olsr.neighborSet b) }
  twoHop : if (heardLink convertMEToDouble now hello olsr).lSymTime ≥ now then
      Relisted olsr.mainAddress hello.originatorAddress hello.link (twoHopKeys olsr) (twoHopKeys olsr')
    else twoHopKeys olsr' = twoHopKeys olsr
  selectors : ∀ a, a ∈ selectorAddrs olsr' ↔
    a ∈ selectorAddrs olsr ∨ a = hello.originatorAddress ∧ ListsMpr hello.link

theorem nodup_populateLinkSet (convertMEToDouble : ℕ → ℚ) (now : ℚ) (hello : HelloMessage Addr)
    (hnd : (olsr.linkSet.map LinkTuple.lNeighborIfaceAddr).Nodup) :
    ((populateLinkSet convertMEToDouble now hello olsr).1.linkSet.map
      LinkTuple.lNeighborIfaceAddr).Nodup := by
  rw [addrs_populateLinkSet]
  split
  · exact hnd
  · next hnone =>
    rw [List.nodup_append]
    refine ⟨hnd, List.nodup_singleton _, fun x hx y hy hxy => hnone ?_⟩
    rw [← List.mem_singleton.1 hy, ← hxy]
    obtain ⟨l, hl, rfl⟩ := List.mem_map.1 hx
    exact Option.isSome_iff_exists.2 ⟨l, lookup_of_mem hnd hl⟩

theorem addrs_of_matched (convertMEToDouble : ℕ → ℚ) (now : ℚ) (hello : HelloMessage Addr)
    (hm : Matched olsr) (hnd : (olsr.linkSet.map LinkTuple.lNeighborIfaceAddr).Nodup) :
    olsr.neighborSet.map NeighborTuple.nNeighborMainAddr ++
      ((populateLinkSet convertMEToDouble now hello olsr).1.linkSet.map LinkTuple.lNeighborIfaceAddr).filter
        (fun a => a ∉ olsr.neighborSet.map NeighborTuple.nNeighborMainAddr) =
      (populateLinkSet convertMEToDouble now hello olsr).1.linkSet.map LinkTuple.lNeighborIfaceAddr := by
  have hself : (olsr.linkSet.map LinkTuple.lNeighborIfaceAddr).filter
      (fun a => a ∉ olsr.linkSet.map LinkTuple.lNeighborIfaceAddr) = [] :=
    List.filter_eq_nil_iff.2 fun a ha hnot => of_decide_eq_true hnot ha
  have hnew := nodup_populateLinkSet convertMEToDouble now hello hnd
  rw [hm]
  rw [addrs_populateLinkSet] at hnew ⊢
  split
  · rw [hself, List.append_nil]
  · next hnone =>
    rw [if_neg hnone, List.nodup_append] at hnew
    have hsrc : hello.originatorAddress ∉ olsr.linkSet.map LinkTuple.lNeighborIfaceAddr := fun h =>
      hnew.2.2 _ h _ List.mem_cons_self rfl
    rw [List.filter_append, hself, List.nil_append, List.filter_singleton, decide_eq_true hsrc]
    rfl

theorem isSome_findNeighborSet (hm : Matched olsr) :
    (olsrFindNeighborSet olsr.neighborSet a).isSome = (olsrFindLinkSet olsr.linkSet a).isSome := by
  have hns : (olsrFindNeighborSet olsr.neighborSet a).isSome ↔
      a ∈ olsr.neighborSet.map NeighborTuple.nNeighborMainAddr := by
    unfold olsrFindNeighborSet lookup
    simp
  have hls : (olsrFindLinkSet olsr.linkSet a).isSome ↔
      a ∈ olsr.linkSet.map LinkTuple.lNeighborIfaceAddr := by
    unfold olsrFindLinkSet lookup
    simp
  rw [Bool.eq_iff_iff, hns, hls, hm]

theorem anchored_iff : Anchored olsr ↔
    ∀ k ∈ twoHopKeys olsr, (olsrFindNeighborSet olsr.neighborSet k.1).isSome := by
  unfold Anchored twoHopKeys
  rw [List.forall_mem_map]
  rfl

theorem relisted_populate2HopNeighbor (convertMEToDouble : ℕ → ℚ) (now : ℚ)
    (hlink : olsrFindLinkSet olsr.linkSet hello.originatorAddress = some link)
    (hnd : (twoHopKeys olsr).Nodup) :
    OnlyTwoHop olsr (populate2HopNeighbor convertMEToDouble now hello olsr) ∧
      if link.lSymTime ≥ now then
        Relisted olsr.mainAddress hello.originatorAddress hello.link (twoHopKeys olsr)
          (twoHopKeys (populate2HopNeighbor convertMEToDouble now hello olsr))
      else twoHopKeys (populate2HopNeighbor convertMEToDouble now hello olsr) = twoHopKeys olsr := by
  unfold populate2HopNeighbor
  rw [hlink, Option.any_some]
  by_cases hsym : link.lSymTime ≥ now
  · rw [if_pos (decide_eq_true hsym), if_pos hsym]
    exact ⟨onlyTwoHop_foldl _, relisted_foldl hnd⟩
  · rw [if_neg (by rw [decide_eq_true_eq]; exact hsym), if_neg hsym]
    exact ⟨.refl, rfl⟩

theorem received_receiveHello (convertMEToDouble : ℕ → ℚ) (now : ℚ) (hello : HelloMessage Addr)
    (h : Kept olsr) : ∃ olsr' timers,
      receiveHello convertMEToDouble now hello olsr = some (olsr', timers) ∧
        Received convertMEToDouble now hello olsr olsr' timers ∧ Kept olsr' := by
  have hsame : SameNeighbors olsr (populateLinkSet convertMEToDouble now hello olsr).1 :=
    sameNeighbors_populateLinkSet
  have hnd := nodup_populateLinkSet convertMEToDouble now hello h.links
  have hlinks := findLinkSet_populateLinkSet convertMEToDouble now hello olsr
  -- The neighbours of the links.
  have haddrs := addrs_of_matched convertMEToDouble now hello h.matched h.links
  rw [← hsame.neighborSet] at haddrs
  obtain ⟨olsr2, hpop, hpopulated⟩ := populated_populateNeighborSet now hello hnd haddrs
  have hfind2 := hpopulated.find
  rw [hsame.neighborSet] at hfind2
  have hkeys2 : twoHopKeys olsr2 = twoHopKeys olsr :=
    congrArg (List.map TwoHopTuple.key)
      (hpopulated.only.twoHopNeighborSet.trans hsame.twoHopNeighborSet)
  have hmain2 : olsr2.mainAddress = olsr.mainAddress := hpopulated.only.main.trans hsame.main
  -- The two-hop neighbours.
  have hlink2 : olsrFindLinkSet olsr2.linkSet hello.originatorAddress =
      some (heardLink convertMEToDouble now hello olsr) := by
    rw [hpopulated.only.linkSet, hlinks, if_pos rfl]
  obtain ⟨honly3, hkeys3⟩ := relisted_populate2HopNeighbor convertMEToDouble now hlink2
    (hkeys2 ▸ h.twoHop)
  rw [hkeys2, hmain2] at hkeys3
  generalize hthree : populate2HopNeighbor convertMEToDouble now hello olsr2 = olsr3 at honly3 hkeys3
  have hfrom : (twoHopKeys olsr3).Nodup ∧ ∀ k ∈ twoHopKeys olsr3, k ∈ twoHopKeys olsr ∨
      k.1 = hello.originatorAddress ∧ k.2 ≠ olsr.mainAddress := by
    split at hkeys3
    · exact ⟨hkeys3.nodup, fun k hk => (hkeys3.from_old k hk).imp_right fun h => ⟨h.1, h.2.1⟩⟩
    · exact ⟨hkeys3 ▸ h.twoHop, fun k hk => .inl (hkeys3 ▸ hk)⟩
  have hmatched3 : Matched olsr3 := by
    unfold Matched
    rw [honly3.neighborSet, honly3.linkSet]
    exact hpopulated.matched
  have hanchored3 : Anchored olsr3 := by
    refine anchored_iff.2 fun k hk => ?_
    rw [isSome_findNeighborSet hmatched3, honly3.linkSet, hpopulated.only.linkSet, hlinks]
    split
    · rfl
    · next hne =>
      have hold := ((hfrom.2 k hk).resolve_right fun h => hne h.1)
      rw [← isSome_findNeighborSet h.matched]
      exact anchored_iff.1 h.anchored k hold
  -- The MPRs, and what comes after them.
  obtain ⟨olsr4, hmpr, hmarked⟩ := marked_populateMPRSet now hanchored3
  obtain ⟨mpr, hsub, hfind4⟩ := hmarked.find
  have hmatched4 : Matched olsr4 := by
    unfold Matched
    rw [hmarked.addrs, hmarked.only.linkSet]
    exact hmatched3
  have hanchored4 : Anchored olsr4 := by
    intro t ht
    rw [hmarked.only.twoHopNeighborSet] at ht
    rw [hfind4, Option.isSome_map]
    exact hanchored3 t ht
  have hsel : ∀ a, a ∈ selectorAddrs (populateMPRSelectorSet convertMEToDouble now hello olsr4) ↔
      a ∈ selectorAddrs olsr ∨ a = hello.originatorAddress ∧ ListsMpr hello.link := by
    intro a
    unfold selectorAddrs populateMPRSelectorSet
    rw [mem_foldl_selectorOfLink, hmarked.only.mprSelectionSet, honly3.mprSelectionSet,
      hpopulated.only.mprSelectionSet, hsame.mprSelectionSet]
  have hanchored5 : Anchored (populateMPRSelectorSet convertMEToDouble now hello olsr4) := hanchored4
  obtain ⟨olsr', hrefresh, hsets⟩ := sameSets_refreshRoutingTable hanchored5
  have hlinkSet : olsr'.linkSet = (populateLinkSet convertMEToDouble now hello olsr).1.linkSet :=
    hsets.linkSet.trans (hmarked.only.linkSet.trans (honly3.linkSet.trans hpopulated.only.linkSet))
  have hneighborSet : olsr'.neighborSet = olsr4.neighborSet := hsets.neighborSet
  have htwoHop : olsr'.twoHopNeighborSet = olsr3.twoHopNeighborSet :=
    hsets.twoHopNeighborSet.trans hmarked.only.twoHopNeighborSet
  have hkeys : twoHopKeys olsr' = twoHopKeys olsr3 := congrArg (List.map TwoHopTuple.key) htwoHop
  have hmain : olsr'.mainAddress = olsr.mainAddress :=
    hsets.main.trans (hmarked.only.main.trans (honly3.main.trans hmain2))
  have hmatched : Matched olsr' := by
    unfold Matched
    rw [hneighborSet, hsets.linkSet]
    exact hmatched4
  refine ⟨olsr', _, ?_, ⟨hmain, hlinkSet, rfl, hmatched, ⟨mpr, ?_, fun b => ?_⟩, ?_, fun a => ?_⟩,
    ⟨hlinkSet ▸ hnd, hmatched, ?_, hkeys ▸ hfrom.1, ?_⟩⟩
  · unfold receiveHello
    dsimp only
    rw [hpop]
    simp only [Option.bind_eq_bind, Option.bind_some]
    rw [hthree, hmpr]
    simp only [Option.bind_some]
    rw [hrefresh]
    rfl
  · rw [htwoHop]
    exact hsub
  · rw [hneighborSet, hfind4, honly3.neighborSet, hfind2, Option.map_map, hlinkSet]
    rfl
  · rw [hkeys]
    exact hkeys3
  · rw [← hsel a]
    unfold selectorAddrs
    rw [hsets.mprSelectionSet]
  · intro t ht
    rw [hsets.twoHopNeighborSet] at ht
    rw [hneighborSet]
    exact hanchored4 t ht
  · rw [hkeys, hmain]
    intro k hk
    rcases hfrom.2 k hk with hold | ⟨-, hne⟩
    · exact h.notSelf k hold
    · exact hne

/-! ## What an expiry does -/

structure LinkGone (addr : Addr) (olsr olsr' : NodeOlsr Addr) : Prop where
  main : olsr'.mainAddress = olsr.mainAddress
  linkSet : olsr'.linkSet = eraseFirst LinkTuple.lNeighborIfaceAddr addr olsr.linkSet
  neighborSet : olsr'.neighborSet = olsr.neighborSet.filter fun n => n.nNeighborMainAddr ≠ addr
  twoHopNeighborSet : olsr'.twoHopNeighborSet =
    olsr.twoHopNeighborSet.filter fun t => t.nNeighborMainAddr ≠ addr
  mprSelectionSet : olsr'.mprSelectionSet = olsr.mprSelectionSet

theorem eraseFirst_eq_filter (hnd : (links.map LinkTuple.lNeighborIfaceAddr).Nodup) :
    eraseFirst LinkTuple.lNeighborIfaceAddr a links = links.filter fun l => l.lNeighborIfaceAddr ≠ a := by
  induction links with
  | nil => rfl
  | cons l links ih =>
    rw [List.map_cons, List.nodup_cons] at hnd
    unfold eraseFirst at ih ⊢
    rw [List.eraseP_cons, List.filter_cons]
    by_cases hl : l.lNeighborIfaceAddr = a
    · have hself : links.filter (fun l => l.lNeighborIfaceAddr ≠ a) = links :=
        List.filter_eq_self.2 fun x hx => decide_eq_true fun hxa =>
          hnd.1 (hl.trans hxa.symm ▸ List.mem_map_of_mem hx)
      rw [decide_eq_true hl, if_neg (by simp [hl]), hself]
      rfl
    · rw [decide_eq_false hl, if_pos (by simp [hl]), ih hnd.2]
      rfl

theorem kept_linkGone (h : Kept olsr) (hgone : LinkGone a olsr olsr') : Kept olsr' := by
  have hlinks : olsr'.linkSet = olsr.linkSet.filter fun l => l.lNeighborIfaceAddr ≠ a :=
    hgone.linkSet.trans (eraseFirst_eq_filter h.links)
  have hmatched : Matched olsr' := by
    unfold Matched
    rw [hgone.neighborSet, hlinks]
    have hns : (olsr.neighborSet.map NeighborTuple.nNeighborMainAddr).filter (fun b => b ≠ a) =
        (olsr.neighborSet.filter fun n => n.nNeighborMainAddr ≠ a).map NeighborTuple.nNeighborMainAddr :=
      List.filter_map
    have hls : (olsr.linkSet.map LinkTuple.lNeighborIfaceAddr).filter (fun b => b ≠ a) =
        (olsr.linkSet.filter fun l => l.lNeighborIfaceAddr ≠ a).map LinkTuple.lNeighborIfaceAddr :=
      List.filter_map
    rw [h.matched] at hns
    exact hns.symm.trans hls
  have hkeys : twoHopKeys olsr' ⊆ twoHopKeys olsr := by
    unfold twoHopKeys
    rw [hgone.twoHopNeighborSet]
    exact List.map_subset _ (List.filter_subset_self _)
  refine ⟨?_, hmatched, fun t ht => ?_, ?_, fun k hk => ?_⟩
  · rw [hgone.linkSet]
    exact nodup_map_eraseFirst h.links
  · rw [hgone.twoHopNeighborSet] at ht
    obtain ⟨hmem, hne⟩ := List.mem_filter.1 ht
    have hne' : t.nNeighborMainAddr ≠ a := of_decide_eq_true hne
    have hfind : olsrFindNeighborSet (olsr.neighborSet.filter fun n => n.nNeighborMainAddr ≠ a)
        t.nNeighborMainAddr = olsrFindNeighborSet olsr.neighborSet t.nNeighborMainAddr :=
      lookup_filter_ne hne'
    rw [hgone.neighborSet, hfind]
    exact h.anchored t hmem
  · unfold twoHopKeys
    rw [hgone.twoHopNeighborSet]
    exact h.twoHop.sublist (List.filter_sublist.map _)
  · rw [hgone.main]
    exact h.notSelf k (hkeys hk)

theorem expired_linkTupleExpire (h : Kept olsr) {x : LinkTimer Addr}
    (hlink : olsrFindLinkSet olsr.linkSet x.lNeighborIfaceAddr = some link) :
    (x.dEventTime < link.lTime ∧
      linkTupleExpire x olsr = some (olsr, [{ x with dEventTime := link.lTime }])) ∨
    link.lTime ≤ x.dEventTime ∧ ∃ olsr', linkTupleExpire x olsr = some (olsr', []) ∧
      LinkGone x.lNeighborIfaceAddr olsr olsr' := by
  by_cases htime : link.lTime ≤ x.dEventTime
  · refine .inr ⟨htime, ?_⟩
    have hfind : (olsrFindNeighborSet olsr.neighborSet x.lNeighborIfaceAddr).isSome = true := by
      rw [isSome_findNeighborSet h.matched, hlink]
      rfl
    obtain ⟨n, hn⟩ := Option.isSome_iff_exists.1 hfind
    have hany : (olsr.neighborSet.any fun n => n.nNeighborMainAddr = x.lNeighborIfaceAddr) = true :=
      List.any_eq_true.2 ⟨n, (lookup_some hn).1, decide_eq_true (lookup_some hn).2⟩
    have hcount : ¬ olsr.linkSet.countP (fun l => l.lNeighborIfaceAddr = x.lNeighborIfaceAddr) ≥ 2 := by
      have hle := List.nodup_iff_count_le_one.1 h.links x.lNeighborIfaceAddr
      have heq : (olsr.linkSet.map LinkTuple.lNeighborIfaceAddr).count x.lNeighborIfaceAddr =
          olsr.linkSet.countP fun l => l.lNeighborIfaceAddr = x.lNeighborIfaceAddr := by
        rw [List.count, List.countP_map]
        exact List.countP_congr fun l _ => by simp
      omega
    have hgone : LinkGone x.lNeighborIfaceAddr olsr
        { removeNeighborTuple x.lNeighborIfaceAddr olsr with
          linkSet := eraseFirst LinkTuple.lNeighborIfaceAddr x.lNeighborIfaceAddr
            (removeNeighborTuple x.lNeighborIfaceAddr olsr).linkSet } := by
      unfold removeNeighborTuple
      rw [if_neg hcount, if_pos hany]
      exact ⟨rfl, rfl, rfl, rfl, rfl⟩
    have hkept := kept_linkGone h hgone
    obtain ⟨olsr', hrefresh, hsets⟩ := sameSets_refreshRoutingTable hkept.anchored
    refine ⟨olsr', ?_, hsets.main.trans hgone.main, hsets.linkSet.trans hgone.linkSet,
      hsets.neighborSet.trans hgone.neighborSet, hsets.twoHopNeighborSet.trans hgone.twoHopNeighborSet,
      hsets.mprSelectionSet.trans hgone.mprSelectionSet⟩
    unfold linkTupleExpire
    rw [hlink]
    dsimp only
    rw [if_pos htime, hrefresh]
    rfl
  · refine .inl ⟨not_le.1 htime, ?_⟩
    unfold linkTupleExpire
    rw [hlink]
    exact if_neg htime

end

end NetSim.Zrp
