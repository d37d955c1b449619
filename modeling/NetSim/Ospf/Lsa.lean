import NetSim.Ospf.Types

/-!
# Link-state advertisements (`OSPF_Msg.h`, `OSPF_LSA.c`, `OSPF_RLSA.c`)

Two instances of an LSA are compared by sequence number, then by age, whose bit `DoNotAge` counts
only where demand circuits are supported.
-/

namespace NetSim.Ospf

def initialSequenceNumber : UInt32 := 0x80000001

def maxSequenceNumber : UInt32 := 0x7FFFFFFF

def doNotAge : Nat := 0x8000

/-- `OSPF_LSA_MAX_AGE_DIFF / SECOND`. -/
def lsaMaxAgeDiff : Nat := 15 * 60

/-- `SECOND`, in microseconds. -/
def second : Nat := 1000000

def packetHdrLen : Nat := 24

def lsUpdateLenFixed : Nat := 4

def lsReqLenSingle : Nat := 12

def lsaHdrLen : Nat := 20

/-- `enum_ls_type`; `unknown` is any value outside the enumeration. -/
inductive LsType
  | unknown | router | network | summaryRouter | summaryNetwork | asExternal | undefined
deriving DecidableEq

inductive LinkType
  | pointToPoint | transit | stub | virtual
deriving DecidableEq

structure RlsaLink where
  linkId : Ip
  linkData : Ip
  type : LinkType
  metric : Nat
deriving DecidableEq

/-- `stru_ospf_router_lsa`. -/
structure Rlsa where
  VEB : Nat
  rlsaLink : List RlsaLink
deriving DecidableEq

/-- `stru_lsa_header`. A header alone has no `lsaInfo`. -/
structure Lsa where
  LSAge : Nat
  Options : Nat
  LSType : LsType
  LinkStateID : Ip
  AdvertisingRouter : Ip
  LSSequenceNumber : UInt32
  length : Nat
  lsaInfo : Option Rlsa
  time : Nat
deriving DecidableEq

/-- The constants of an `OSPF_PDS`, and what the stack knows of the router's own addresses. -/
structure Config where
  routerId : Ip
  minLSInterval : Nat
  supportDC : Bool
  LSAMaxAge : Nat
  LSRefreshTime : Nat
  incrementTime : Nat
  isMyAddr : Nat → Bool
  interfaceIdFromIP : Nat → Nat
  /-- `DEVICE_NWADDRESS` of an interface. -/
  nwAddress : Nat → Ip
  /-- `DEVICE_SUBNETMASK` of an interface. -/
  subnetMask : Nat → Ip
  /-- The interface is not `INTERFACE_VIRTUAL` and its MAC protocol is `MAC_PROTOCOL_P2P`. -/
  isMacP2p : Nat → Bool
  /-- `GET_BROADCAST_IP(4)`. -/
  broadcastIp : Ip
  /-- `AllSPFRouters`. -/
  allSPFRouters : Ip
  invalidAreaId : Ip
  /-- `INTERFACE_MTU_DEFAULT - IP_HDR_LEN`. -/
  maxIpPayload : Nat

/-- `OSPF_LSA_HDR_COPY`. -/
def Lsa.hdrCopy (lsa : Lsa) : Lsa := { lsa with lsaInfo := none }

def Lsa.sameId (a b : Lsa) : Bool :=
  a.AdvertisingRouter.int_ip == b.AdvertisingRouter.int_ip &&
    a.LinkStateID.int_ip == b.LinkStateID.int_ip

def Lsa.sameLsa (a b : Lsa) : Bool := a.LSType == b.LSType && a.sameId b

namespace Config

variable (cfg : Config)

def checkForDoNotAge (age : Nat) : Bool := cfg.supportDC && age / doNotAge % 2 == 1

def maskDoNotAge (age : Nat) : Nat := if cfg.checkForDoNotAge age then age % doNotAge else age

def assignNewLSAge (age newAge : Nat) : Nat :=
  if cfg.checkForDoNotAge age then doNotAge ||| newAge else newAge

/-- `ospf_lsa_DiffOfAge`, which returns an `INT16`. -/
def diffOfAge (a1 a2 : Nat) : Int :=
  ((cfg.maskDoNotAge a1 : Int) - cfg.maskDoNotAge a2).bmod (2 ^ 16)

def hasMaxAge (lsa : Lsa) : Bool := cfg.maskDoNotAge lsa.LSAge == cfg.LSAMaxAge

/-- `ospf_lsa_compare`: 1 if the new instance is more recent, -1 if the old one is. -/
def lsaCompare (oldLS newLS : Lsa) : Int :=
  let oldAge := cfg.maskDoNotAge oldLS.LSAge
  let newAge := cfg.maskDoNotAge newLS.LSAge
  if newLS.LSSequenceNumber > oldLS.LSSequenceNumber then 1
  else if oldLS.LSSequenceNumber > newLS.LSSequenceNumber then -1
  else if newAge ≥ cfg.LSAMaxAge ∧ oldAge < cfg.LSAMaxAge then 1
  else if oldAge ≥ cfg.LSAMaxAge ∧ newAge < cfg.LSAMaxAge then -1
  else if (cfg.diffOfAge newLS.LSAge oldLS.LSAge).natAbs > lsaMaxAgeDiff ∧ newAge < oldAge then 1
  else if (cfg.diffOfAge newLS.LSAge oldLS.LSAge).natAbs > lsaMaxAgeDiff ∧ newAge > oldAge then -1
  else 0

def compareToListMem (oldLS newLS : Lsa) : Bool :=
  oldLS.sameLsa newLS && cfg.lsaCompare oldLS newLS == 0

def isMoreRecent (newLSA : Lsa) (oldLSA : Option Lsa) : Int :=
  match oldLSA with
  | none => 1
  | some oldLSA => cfg.lsaCompare oldLSA newLSA

def isSelfOriginated (lsa : Lsa) : Bool :=
  lsa.AdvertisingRouter.int_ip == cfg.routerId.int_ip ||
    (cfg.isMyAddr lsa.LinkStateID.int_ip && lsa.LSType == .network)

end Config

/-! ## Content -/

def RlsaLink.same (new old : RlsaLink) : Bool :=
  new.linkId == old.linkId && new.type == old.type &&
    new.linkData.int_ip == old.linkData.int_ip && new.metric == old.metric

/-- The loop of `ospf_rlsa_isBodyChanged`: what is left of the old links once each link has taken
the first that is the same. -/
def unmatchedLinks : List RlsaLink → List RlsaLink → List RlsaLink
  | [], old => old
  | new :: rest, old => unmatchedLinks rest (old.eraseP new.same)

def Rlsa.isBodyChanged (new old : Rlsa) : Bool :=
  new.rlsaLink.length != old.rlsaLink.length || new.VEB != old.VEB ||
    !(unmatchedLinks new.rlsaLink old.rlsaLink).isEmpty

/-- `ospf_lsa_isBodyChanged`, which is written for router LSAs only. A header has no body to read.
-/
def Lsa.isBodyChanged (new old : Lsa) : Bool :=
  match new.LSType, new.lsaInfo, old.lsaInfo with
  | .router, some newRlsa, some oldRlsa => newRlsa.isBodyChanged oldRlsa
  | _, _, _ => false

def Config.isContentChanged (cfg : Config) (new old : Lsa) : Bool :=
  new.Options != old.Options || cfg.hasMaxAge new != cfg.hasMaxAge old ||
    new.length != old.length || new.isBodyChanged old

end NetSim.Ospf
