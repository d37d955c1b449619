import NetSim.Ospf.Flood

/-!
# The link-state database (`OSPF_LSDB.c`, `OSPF_LSA.c`)

The calculation of the routing table, and its rows that point into the database, are left out.
-/

namespace NetSim.Ospf

open NetSim.Lib

/-! ## Installing -/

/-- `ospf_lsdb_install` on the list of an area: the list after it, and whether it changed. -/
def Config.installInList (cfg : Config) (now : Nat) (lsa : Lsa) (list : List Lsa) :
    List Lsa × Bool :=
  match lookup Lsa.key lsa.key list with
  | some hdr =>
    if cfg.isContentChanged lsa hdr then
      (modifyFirst Lsa.key lsa.key (fun _ => { lsa with time := now }) list, true)
    else (list, false)
  | none => (list ++ [{ lsa with time := now }], true)

namespace Router

variable (cfg : Config) (now current : Nat)

def scheduleMaxAgeRemovalTimer (r : Router) : Router :=
  { r.addEvent .maxAgeRemovalTimer with isMaxAgeRemovalTimerSet := true }

def isPresentInMaxAgeList (lsa : Lsa) (list : List Lsa) : Bool :=
  list.any fun hdr => cfg.compareToListMem lsa hdr

def addToMaxAgeLSAList (r : Router) (areaId : Ip) (lsa : Lsa) : Option Router := do
  let a ← r.areaGetId areaId
  let area ← r.area? a
  if isPresentInMaxAgeList cfg lsa area.maxAgeList then some r
  else
    let r := r.modifyArea a fun area => { area with maxAgeList := area.maxAgeList ++ [lsa] }
    some (if r.isMaxAgeRemovalTimerSet then r else r.scheduleMaxAgeRemovalTimer)

/-- `ospf_lsdb_install` on the list of the LSAs of a type of an area. -/
def install (r : Router) (a : Nat) (lsa : Lsa) : Option (Router × Bool) := do
  let area ← r.area? a
  let list ← area.lsaList lsa.LSType
  let (list, ret) := cfg.installInList now lsa list
  let r := r.modifyArea a fun area => area.setLsaList list lsa.LSType
  if cfg.hasMaxAge lsa then
    (r.addToMaxAgeLSAList cfg area.areaId lsa).map fun r => (r, ret)
  else some (r, ret)

/-- `ospf_lsa_flush`, with the LSA after it. -/
def flush (r : Router) (a : Nat) (lsa : Lsa) : Option (Router × Lsa) :=
  if lsa.LSAge = cfg.LSAMaxAge then some (r, lsa)
  else do
    let lsa := { lsa with LSAge := cfg.LSAMaxAge }
    let area ← r.area? a
    let (r, _) ← r.flood cfg .flush a lsa (some cfg.anyDest) current 0
    let r ← r.addToMaxAgeLSAList cfg area.areaId lsa
    some (r, lsa)

/-- `ospf_lsa_schedule`. Only what concerns router LSAs is kept; for the other types the interface
is read. -/
def schedule (r : Router) (thisInterface : Option Nat) (a : Nat) (lsType : LsType) :
    Option Router :=
  match lsType with
  | .router => r.scheduleRouterLSA current a false
  | .network | .summaryNetwork | .summaryRouter => thisInterface.map fun _ => r
  | _ => some r

/-! ## Updating -/

/-- `ospf_lsaAck_sendDelayedAck`, without its timer. -/
def sendDelayedAck (r : Router) (i : Nat) (lsa : Lsa) : Router :=
  r.modifyInter i fun inter => { inter with delayedAckList := inter.delayedAckList ++ [lsa] }

/-- The delayed acknowledgment of `ospf_lsdb_updateLSAList`. -/
def ackUpdate (r : Router) (isFloodBack : Bool) (i : Nat) (lsa : Lsa) (srcAddr : Ip) :
    Option Router :=
  if isFloodBack then some r
  else do
    let thisInterface ← r.inter? i
    if thisInterface.State = .backup then
      (sameIp thisInterface.designaterRouter (some srcAddr)).map fun isDr =>
        if isDr then r.sendDelayedAck i lsa else r
    else some (r.sendDelayedAck i lsa)

/-- The test of step 5 (a): the stored instance is younger than `minLSInterval`. -/
def isTooEarly (lsa : Lsa) (list : List Lsa) : Bool :=
  match lookup Lsa.key lsa.key list with
  | some hdr => !cfg.isSelfOriginated lsa && now < hdr.time + cfg.minLSInterval
  | none => false

/-- `ospf_lsdb_updateLSAList`, for an LSA of a type that has the list `list`. -/
def updateLSAList (r : Router) (i : Nat) (a : Nat) (list : List Lsa) (lsa : Lsa) (srcAddr : Ip) :
    Option (Router × Int) :=
  if isTooEarly cfg now lsa list then some (r, -1)
  else do
    let thisInterface ← r.inter? i
    let (r, isFloodBack) ← r.flood cfg .update a lsa (some srcAddr) current thisInterface.id
    let r ← r.ackUpdate isFloodBack i lsa srcAddr
    let (r, ret) ← r.install cfg now a lsa
    some (r, if ret then 1 else 0)

/-- The first half of `ospf_lsdb_update`. -/
def updateLsdb (r : Router) (i : Nat) (a : Nat) (lsa : Lsa) (srcAddr : Ip) :
    Option (Router × Int) := do
  let area ← r.area? a
  match area.lsaList lsa.LSType with
  | none => some (r, 0)
  | some list => r.updateLSAList cfg now current i a list lsa srcAddr

/-- A network LSA of an interface on which this router is not the designated router. -/
def isFlush (r : Router) (lsa : Lsa) : Option Bool :=
  let interface := cfg.interfaceIdFromIP lsa.LinkStateID.int_ip
  if lsa.LSType = .network ∧ interface ≠ 0 then do
    let i ← r.ifGet interface
    let myInterface ← r.inter? i
    some (myInterface.State ≠ .dr ∧ lsa.AdvertisingRouter.int_ip ≠ cfg.routerId.int_ip)
  else some false

def advance (r : Router) (a : Nat) (lsa : Lsa) : Option Router := do
  let area ← r.area? a
  let list ← area.lsaList lsa.LSType
  let _ ← lookup Lsa.key lsa.key list
  some (r.modifyArea a fun area =>
    area.setLsaList (modifyFirst Lsa.key lsa.key
      (fun oldLSA => { oldLSA with LSSequenceNumber := lsa.LSSequenceNumber + 1 }) list) lsa.LSType)

/-- The second half of `ospf_lsdb_update`, for an LSA that this router originated. -/
def updateSelf (r : Router) (i : Nat) (a : Nat) (lsa : Lsa) : Option Router := do
  let isFlush ← r.isFlush cfg lsa
  if isFlush then (r.flush cfg current a lsa).map Prod.fst
  else
    let r ← r.advance a lsa
    r.schedule current (some i) a lsa.LSType

/-- `ospf_lsdb_update`, without its result, which tells whether to calculate the routes. -/
def update (r : Router) (i : Nat) (a : Nat) (lsa : Lsa) (srcAddr : Ip) : Option Router := do
  let (r, ret) ← r.updateLsdb cfg now current i a lsa srcAddr
  if 0 ≤ ret ∧ cfg.isSelfOriginated lsa then r.updateSelf cfg current i a lsa else some r

def removeFromSendList (r : Router) (areaId : Ip) (lsa : Lsa) : Router :=
  { r with
    ospfIf := r.ospfIf.map fun inter =>
      if inter.areaId.int_ip = areaId.int_ip ∨ areaId.int_ip = cfg.invalidAreaId.int_ip then
        { inter with
          neighborRouterList := inter.neighborRouterList.map fun neigh =>
            { neigh with
              linkStateSendList := neigh.linkStateSendList.filter fun s => !s.sameLsa lsa } }
      else inter }

def removeLSA (r : Router) (a : Nat) (lsa : Lsa) : Option Router := do
  let area ← r.area? a
  match area.lsaList lsa.LSType with
  | none => some r
  | some list =>
    let list := list.filter fun l => l.key ≠ lsa.key
    some ((r.modifyArea a fun area => area.setLsaList list lsa.LSType).removeFromSendList cfg
      area.areaId lsa)

end Router

end NetSim.Ospf
