import NetSim.Lib.ScanBest
import NetSim.Ospf.Lsa

/-!
# The routing table (`OSPF_RoutingTable.c`)

A row is looked up by the longest prefix that contains an address, or with `isAdvertSelfIntf` by the
address alone, and written over whatever its prefix. A pointer to a row is its place.
-/

namespace NetSim.Ospf

open NetSim.Lib

inductive DestType
  | abr | asbr | abrAsbr | network | router
deriving DecidableEq

inductive PathType
  | intraArea | interArea | type1External | type2External
deriving DecidableEq

inductive RouteFlag
  | invalid | changed | noChange | new
deriving DecidableEq

/-- An `OSPFROUTINGTABLEROW` before it has a flag. -/
structure Route where
  destType : DestType
  destAddr : Ip
  addrMask : Ip
  option : Nat
  areaId : Ip
  pathType : PathType
  metric : Nat
  type2Metric : Nat
  LSOrigin : Lsa
  nextHop : IpPtr
  outInterface : Ip
  outInterfaceId : Nat
  advertisingRouter : Ip
deriving DecidableEq

/-- `OSPFROUTINGTABLEROW`. -/
structure RtRow extends Route where
  flag : RouteFlag
deriving DecidableEq

def Route.network (r : Route) : Nat × Nat := (r.destAddr.int_ip, r.addrMask.int_ip)

/-- `flag != OSPFROUTEFLAG_INVALID`. -/
def RtRow.isValid (r : RtRow) : Bool := r.flag != .invalid

def covers (isAdvertSelfIntf : Bool) (network : Nat × Nat) (destAddr : Nat) : Bool :=
  if isAdvertSelfIntf then network.1 == destAddr
  else network.1 &&& network.2 == destAddr &&& network.2

theorem covers_self (isAdvertSelfIntf : Bool) (network : Nat × Nat) :
    covers isAdvertSelfIntf network network.1 = true := by
  cases isAdvertSelfIntf <;> simp [covers]

variable {network : Nat × Nat}

theorem covers_of_eq (isAdvertSelfIntf : Bool) {destAddr : Nat}
    (h : network.1 = destAddr) : covers isAdvertSelfIntf network destAddr = true :=
  h ▸ covers_self isAdvertSelfIntf network

def compareDestType (destType1 destType2 : DestType) : Bool :=
  if destType1 = destType2 then true
  else if destType1 = .abrAsbr ∧ (destType2 = .abr ∨ destType2 = .asbr) then true
  else destType2 = .abrAsbr ∧ (destType1 = .abr ∨ destType1 = .asbr)

theorem compareDestType_network {t : DestType} : compareDestType t .network = true ↔ t = .network := by
  cases t <;> decide

/-! ## Looking up -/

def longestMatch (p : RtRow → Bool) (rows : List RtRow) : Option Nat :=
  (scanBest (fun b a => decide (a.1.addrMask.int_ip ≤ b.1.addrMask.int_ip)) none
    (rows.zipIdx.filter fun x => p x.1)).map Prod.snd

def getIntraAreaRoute (isAdvertSelfIntf : Bool) (rows : List RtRow) (destAddr : Ip)
    (destType : DestType) (areaId : Ip) : Option Nat :=
  longestMatch (fun r => covers isAdvertSelfIntf r.network destAddr.int_ip &&
    compareDestType r.destType destType && r.pathType == .intraArea &&
    r.areaId.int_ip == areaId.int_ip) rows

def matchRow (isAdvertSelfIntf : Bool) (p : RtRow → Bool) (rows : List RtRow) : Option Nat :=
  if isAdvertSelfIntf then rows.findIdx? p else longestMatch p rows

def getRoute (isAdvertSelfIntf : Bool) (rows : List RtRow) (destAddr : Ip) (destType : DestType) :
    Option Nat :=
  matchRow isAdvertSelfIntf (fun r => covers isAdvertSelfIntf r.network destAddr.int_ip &&
    compareDestType r.destType destType) rows

def getValidHostRoute (rows : List RtRow) (destAddr : Ip) (destType : DestType) : Option Nat :=
  rows.findIdx? fun r => r.destAddr.int_ip == destAddr.int_ip &&
    compareDestType r.destType destType && r.isValid

def getValidRoute (isAdvertSelfIntf : Bool) (rows : List RtRow) (destAddr : Ip)
    (destType : DestType) : Option Nat :=
  matchRow isAdvertSelfIntf (fun r => covers isAdvertSelfIntf r.network destAddr.int_ip &&
    compareDestType r.destType destType && r.isValid) rows

/-- The look-up ends at a row that meets `p`, or there is none. -/
def Finds (p : RtRow → Bool) (rows : List RtRow) : Option Nat → Prop
  | none => ∀ r ∈ rows, p r = false
  | some i => ∃ l₁ r l₂, rows = l₁ ++ r :: l₂ ∧ l₁.length = i ∧ p r = true

variable {rows : List RtRow}

theorem finds_of_getElem? {p : RtRow → Bool} {i : Nat} {r : RtRow}
    (h : rows[i]? = some r) (hp : p r = true) : Finds p rows (some i) := by
  obtain ⟨hi, rfl⟩ := List.getElem?_eq_some_iff.1 h
  refine ⟨rows.take i, rows[i], rows.drop (i + 1), ?_, List.length_take_of_le (Nat.le_of_lt hi), hp⟩
  rw [List.getElem_cons_drop, List.take_append_drop]

theorem finds_findIdx? (p : RtRow → Bool) (rows : List RtRow) : Finds p rows (rows.findIdx? p) := by
  cases h : rows.findIdx? p with
  | none => exact List.findIdx?_eq_none_iff.1 h
  | some i =>
    obtain ⟨hi, hp, -⟩ := List.findIdx?_eq_some_iff_getElem.1 h
    exact finds_of_getElem? (List.getElem?_eq_getElem hi) hp

theorem finds_longestMatch (p : RtRow → Bool) (rows : List RtRow) :
    Finds p rows (longestMatch p rows) := by
  cases hscan : scanBest (fun b a : RtRow × Nat => decide (a.1.addrMask.int_ip ≤ b.1.addrMask.int_ip))
      none (rows.zipIdx.filter fun x => p x.1) with
  | none =>
    rw [longestMatch, hscan]
    intro r hr
    obtain ⟨i, hi⟩ := List.mem_iff_getElem?.1 hr
    have hnil := scanBest_eq_none.1 hscan
    have hnot := List.filter_eq_nil_iff.1 hnil (r, i) (List.mk_mem_zipIdx_iff_getElem?.2 hi)
    exact Bool.eq_false_iff.2 hnot
  | some x =>
    rw [longestMatch, hscan]
    obtain ⟨r, i⟩ := x
    obtain ⟨hr, hp⟩ := List.mem_filter.1 (scanBest_mem hscan)
    have hrow : p r = true := hp
    exact finds_of_getElem? (List.mk_mem_zipIdx_iff_getElem?.1 hr) hrow

theorem finds_matchRow (isAdvertSelfIntf : Bool) (p : RtRow → Bool) (rows : List RtRow) :
    Finds p rows (matchRow isAdvertSelfIntf p rows) := by
  unfold matchRow
  split
  · exact finds_findIdx? p rows
  · exact finds_longestMatch p rows

/-! ## Adding and removing -/

def isRouteMatch (newRoute oldRoute : Route) : Option Bool :=
  if newRoute.metric = oldRoute.metric then sameIp newRoute.nextHop oldRoute.nextHop
  else some false

def addRoute (isAdvertSelfIntf : Bool) (rows : List RtRow) (newRoute : Route) :
    Option (List RtRow) :=
  match if newRoute.destType = .network then
      getRoute isAdvertSelfIntf rows newRoute.destAddr newRoute.destType
    else getIntraAreaRoute isAdvertSelfIntf rows newRoute.destAddr newRoute.destType
      newRoute.areaId with
  | some i => do
    let oldRoute ← rows[i]?
    let same ← isRouteMatch newRoute oldRoute.toRoute
    some (rows.set i ⟨newRoute, if same then .noChange else .changed⟩)
  | none => some (rows ++ [⟨newRoute, .new⟩])

/-- `ospf_rtTable_freeRoute`: the rows behind the row are moved down by one. -/
def freeRoute (rows : List RtRow) (row : Nat) : List RtRow := rows.eraseIdx row

/-- The loop of `ospf_rtTable_freeAllInvalidRoute`: after a row has been removed, the next one is at
the same place. -/
def freeInvalidFrom (rows : List RtRow) (i : Nat) : List RtRow :=
  if h : i < rows.length then
    if rows[i].flag = .invalid then freeInvalidFrom (freeRoute rows i) i
    else freeInvalidFrom rows (i + 1)
  else rows
termination_by rows.length - i
decreasing_by
  · rw [freeRoute, List.length_eraseIdx_of_lt h]
    omega
  · omega

def freeAllInvalidRoute (rows : List RtRow) : List RtRow := freeInvalidFrom rows 0

theorem freeInvalidFrom_append : ∀ (done rest : List RtRow),
    freeInvalidFrom (done ++ rest) done.length = done ++ rest.filter RtRow.isValid
  | done, [] => by
    unfold freeInvalidFrom
    simp
  | done, row :: rest => by
    have hlt : done.length < (done ++ row :: rest).length := by simp
    have hrow : (done ++ row :: rest)[done.length] = row := by simp
    unfold freeInvalidFrom
    rw [dif_pos hlt, hrow]
    by_cases hflag : row.flag = .invalid
    · have hnot : row.isValid = false := by simp [RtRow.isValid, hflag]
      rw [if_pos hflag, freeRoute, List.eraseIdx_append_of_length_le (Nat.le_refl _), Nat.sub_self,
        List.eraseIdx_cons_zero, freeInvalidFrom_append done rest,
        List.filter_cons_of_neg (by simp [hnot])]
    · have hvalid : row.isValid = true := by simp [RtRow.isValid, hflag]
      have hnext := freeInvalidFrom_append (done ++ [row]) rest
      rw [List.length_append, List.length_singleton, List.append_assoc, List.singleton_append,
        List.append_assoc, List.singleton_append] at hnext
      rw [if_neg hflag, hnext, List.filter_cons_of_pos hvalid]

theorem freeAllInvalidRoute_eq (rows : List RtRow) :
    freeAllInvalidRoute rows = rows.filter RtRow.isValid :=
  freeInvalidFrom_append [] rows

/-! ## The rows of a prefix -/

def rowsFor (network : Nat × Nat) (rows : List RtRow) : List RtRow :=
  rows.filter fun row => row.isValid && row.network == network

variable {row : RtRow}

theorem mem_rowsFor :
    row ∈ rowsFor network rows ↔ row ∈ rows ∧ row.isValid = true ∧ row.network = network := by
  simp [rowsFor]

theorem rowsFor_append (network : Nat × Nat) (l1 l2 : List RtRow) :
    rowsFor network (l1 ++ l2) = rowsFor network l1 ++ rowsFor network l2 :=
  List.filter_append ..

theorem rowsFor_cons_of_valid (h : row.isValid = true) (l : List RtRow) :
    rowsFor row.network (row :: l) = row :: rowsFor row.network l := by
  simp [rowsFor, h]

theorem rowsFor_cons_of_invalid (h : row.isValid = false) (network : Nat × Nat)
    (l : List RtRow) : rowsFor network (row :: l) = rowsFor network l := by
  simp [rowsFor, h]

theorem rowsFor_cons_of_ne (h : row.network ≠ network)
    (l : List RtRow) : rowsFor network (row :: l) = rowsFor network l := by
  simp [rowsFor, h]

theorem addRoute_spec {isAdvertSelfIntf : Bool} {route : Route} (htype : route.destType = .network)
    (happart : ∀ row ∈ rows, row.destType = .network →
      covers isAdvertSelfIntf row.network route.network.1 = true → row.network = route.network)
    (hnone : rowsFor route.network rows = [])
    (hcompared : ∀ row ∈ rows, row.destType = .network → row.network = route.network →
      row.isValid = false → row.metric = route.metric →
        route.nextHop.isSome ∧ row.nextHop.isSome) :
    ∃ rows' flag, addRoute isAdvertSelfIntf rows route = some rows' ∧
      rowsFor route.network rows' = [⟨route, flag⟩] ∧ flag ≠ .invalid ∧
      (∀ network, network ≠ route.network → rowsFor network rows' = rowsFor network rows) ∧
      rows'.filter (fun row => row.network != route.network) =
        rows.filter (fun row => row.network != route.network) ∧
      ∀ row ∈ rows', row ∈ rows ∨ row = ⟨route, flag⟩ := by
  have hvalid : ∀ flag : RouteFlag, flag ≠ .invalid → (⟨route, flag⟩ : RtRow).isValid = true :=
    fun flag h => bne_iff_ne.2 h
  have hfinds : Finds (fun r => covers isAdvertSelfIntf r.network route.network.1 &&
      compareDestType r.destType route.destType) rows
      (getRoute isAdvertSelfIntf rows route.destAddr route.destType) :=
    finds_matchRow ..
  unfold addRoute
  rw [if_pos htype]
  cases hget : getRoute isAdvertSelfIntf rows route.destAddr route.destType with
  | none =>
    refine ⟨rows ++ [⟨route, .new⟩], .new, rfl, ?_, nofun, fun network hne => ?_, ?_, ?_⟩
    · rw [rowsFor_append, hnone]
      exact rowsFor_cons_of_valid (hvalid .new nofun) []
    · rw [rowsFor_append, @rowsFor_cons_of_ne network ⟨route, .new⟩ hne.symm]
      exact List.append_nil _
    · simp [Route.network]
    · intro row hrow
      rcases List.mem_append.1 hrow with hrow | hrow
      · exact .inl hrow
      · exact .inr (List.mem_singleton.1 hrow)
  | some i =>
    rw [hget] at hfinds
    obtain ⟨l1, old, l2, rfl, rfl, hold⟩ := hfinds
    rw [Bool.and_eq_true, htype, compareDestType_network] at hold
    have hmem : old ∈ l1 ++ old :: l2 := by simp
    have hnetwork := happart old hmem hold.2 hold.1
    have hinvalid : old.isValid = false := by
      cases h : old.isValid with
      | false => rfl
      | true =>
        have hin := mem_rowsFor.2 ⟨hmem, h, hnetwork⟩
        rw [hnone] at hin
        cases hin
    obtain ⟨same, hsame⟩ : ∃ same, isRouteMatch route old.toRoute = some same := by
      unfold isRouteMatch
      split
      · next hmetric =>
        obtain ⟨hnew, hnext⟩ := hcompared old hmem hold.2 hnetwork hinvalid hmetric.symm
        obtain ⟨a, ha⟩ := Option.isSome_iff_exists.1 hnew
        obtain ⟨b, hb⟩ := Option.isSome_iff_exists.1 hnext
        exact ⟨_, by rw [ha, hb, sameIp_some]⟩
      · exact ⟨false, rfl⟩
    have hget : (l1 ++ old :: l2)[l1.length]? = some old := by simp
    have hset : ∀ row, (l1 ++ old :: l2).set l1.length row = l1 ++ row :: l2 := by simp
    have hflag : (if same then RouteFlag.noChange else RouteFlag.changed) ≠ .invalid := by
      cases same <;> decide
    rw [rowsFor_append, rowsFor_cons_of_invalid hinvalid, List.append_eq_nil_iff] at hnone
    refine ⟨l1 ++ ⟨route, if same then .noChange else .changed⟩ :: l2, _, ?_, ?_, hflag,
      fun network hne => ?_, ?_, ?_⟩
    · simp only [hget, hsame, hset, Option.bind_eq_bind, Option.bind_some]
    · rw [rowsFor_append, hnone.1, List.nil_append]
      exact (rowsFor_cons_of_valid (hvalid _ hflag) l2).trans (by rw [hnone.2])
    · rw [rowsFor_append, rowsFor_append, rowsFor_cons_of_invalid hinvalid]
      exact congrArg _ (@rowsFor_cons_of_ne network ⟨route, _⟩ hne.symm l2)
    · simp [hnetwork]
    · intro row hrow
      rcases List.mem_append.1 hrow with hrow | hrow
      · exact .inl (List.mem_append_left _ hrow)
      · rcases List.mem_cons.1 hrow with rfl | hrow
        · exact .inr rfl
        · exact .inl (List.mem_append_right _ (List.mem_cons_of_mem _ hrow))

theorem rowsFor_freeRoute {l1 l2 : List RtRow}
    (hone : rowsFor row.network (l1 ++ row :: l2) = [row]) (hvalid : row.isValid = true) :
    rowsFor row.network (freeRoute (l1 ++ row :: l2) l1.length) = [] ∧
      ∀ network, network ≠ row.network →
        rowsFor network (freeRoute (l1 ++ row :: l2) l1.length) =
          rowsFor network (l1 ++ row :: l2) := by
  have herase : freeRoute (l1 ++ row :: l2) l1.length = l1 ++ l2 := by
    rw [freeRoute, List.eraseIdx_append_of_length_le (Nat.le_refl _), Nat.sub_self,
      List.eraseIdx_cons_zero]
  rw [rowsFor_append, rowsFor_cons_of_valid hvalid] at hone
  rw [herase]
  refine ⟨?_, fun network hne => ?_⟩
  · have hlen := congrArg List.length hone
    simp only [List.length_append, List.length_cons, List.length_nil] at hlen
    rw [rowsFor_append]
    exact List.eq_nil_of_length_eq_zero (by rw [List.length_append]; omega)
  · rw [rowsFor_append, rowsFor_append, rowsFor_cons_of_ne hne.symm]

end NetSim.Ospf
