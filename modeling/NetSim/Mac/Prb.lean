import NetSim.Tcp.Segment

/-!
# The scheduler of physical resource blocks (`LTENR_PRB.c`, `LTENR_MAC.h`)

A `double` is a rational number, and a quotient by 0 is 0. A list of UEs that is linked by `next` is
a Lean list, and `none` is a read through a null pointer.
-/

namespace NetSim.Mac

open NetSim.Tcp (u32 sub32)

inductive SchedulingType
  | roundRobin | proportionalFair | maxThroughput | fairScheduling
deriving DecidableEq

/-- `LTENR_SLOTTYPE`, as far as the scheduler tells the types apart. -/
inductive SlotType
  | uplink | downlink | other
deriving DecidableEq

structure UeSchedularInfo where
  ueId : ℕ
  ueIf : ℕ
  bufferSize : ℕ
  bitsPerPRB : ℕ
  rank : ℚ
  initRank : ℚ
  allocatedPRBCount : ℕ
deriving DecidableEq

structure SchedularInfo where
  PRBCount : ℕ
  OH_UL : ℚ
  OH_DL : ℚ
  isPRBRankInit : Bool
  schedulingType : SchedulingType
  slotType : SlotType
  uplinkInfo : List UeSchedularInfo
  downlinkInfo : List UeSchedularInfo
deriving DecidableEq

/-- The walk of `LTENR_PRB_SortingofRank`: behind the first `info` whose successor has a lower rank.
-/
def insertMiddle (x : UeSchedularInfo) : List UeSchedularInfo → Option (List UeSchedularInfo)
  | [] => some []
  | [_] => none
  | info :: next :: rest =>
    if next.rank < x.rank then some (info :: x :: next :: rest)
    else (insertMiddle x (next :: rest)).map (info :: ·)

/-- A turn of `LTENR_PRB_SortingofRank`: `x` goes to the head, to the tail or between. -/
def insertRanked (x : UeSchedularInfo) : List UeSchedularInfo → Option (List UeSchedularInfo)
  | [] => some [x]
  | head :: rest =>
    if x.rank ≥ head.rank then some (x :: head :: rest)
    else if x.rank ≤ ((head :: rest).getLast (List.cons_ne_nil _ _)).rank then
      some (head :: rest ++ [x])
    else insertMiddle x (head :: rest)

def sortingOfRank (list : List UeSchedularInfo) : Option (List UeSchedularInfo) :=
  list.foldlM (fun sorted x => insertRanked x sorted) []

/-! ## Ranks -/

/-- The ranks that `LTENR_PRB_SetRank` gives; the `product` of fair scheduling is that of all first
ranks. -/
def firstRank (type : SchedulingType) (list : List UeSchedularInfo) (x : UeSchedularInfo) : ℚ :=
  let sigmaofBitperPRB : ℚ := (list.map UeSchedularInfo.bitsPerPRB).sum
  let share (y : UeSchedularInfo) : ℚ := y.bitsPerPRB / sigmaofBitperPRB
  match type with
  | .roundRobin => 1
  | .proportionalFair => share x
  | .fairScheduling => (list.map share).prod / share x
  | .maxThroughput => share x

/-- `LTENR_PRB_SetRank`. -/
def setRank (type : SchedulingType) (list : List UeSchedularInfo) : List UeSchedularInfo :=
  list.map fun x =>
    { x with rank := firstRank type list x, initRank := firstRank type list x }

def resetAllocationPRBCount (list : List UeSchedularInfo) : List UeSchedularInfo :=
  list.map fun x => { x with allocatedPRBCount := 0 }

def updateRank (initTotalPRBAvailable : ℕ) (list : List UeSchedularInfo) : List UeSchedularInfo :=
  list.map fun x =>
    { x with rank := x.rank - x.allocatedPRBCount / initTotalPRBAvailable + x.initRank }

/-- `LTENR_PRB_UpdateRank_FAIR`, whose `min_rank` starts at `INT_MAX`. -/
def updateRankFAIR (initTotalPRBAvailable : ℕ) (list : List UeSchedularInfo) :
    List UeSchedularInfo :=
  let minRank := list.foldl (fun minRank x => if x.initRank < minRank then x.initRank else minRank)
    (2 ^ 31 - 1 : ℚ)
  let list := list.map fun x =>
    { x with rank := x.rank - minRank * (x.allocatedPRBCount / initTotalPRBAvailable) }
  if list.any fun x => x.rank ≤ 0 then list.map fun x => { x with rank := x.rank + x.initRank }
  else list

/-! ## Allocation -/

def UeSchedularInfo.need (x : UeSchedularInfo) : ℕ := ⌈(x.bufferSize * 8 / x.bitsPerPRB : ℚ)⌉₊

/-- The `PRBallocation` of a UE: of a number of PRBs that is no `UINT` the low 32 bits are left. -/
def UeSchedularInfo.prbAllocation (x : UeSchedularInfo) : ℕ := u32 x.need

/-- The loop of `LTENR_PRB_AllocatePRB`, which ends when no PRB is available. -/
def allocateLoop (totalPRBAvailable : ℕ) : List UeSchedularInfo → List UeSchedularInfo
  | [] => []
  | current :: rest =>
    if totalPRBAvailable = 0 then current :: rest
    else if current.prbAllocation < totalPRBAvailable then
      let allocated := u32 (current.allocatedPRBCount + current.prbAllocation)
      { current with allocatedPRBCount := allocated } ::
        allocateLoop (sub32 totalPRBAvailable allocated) rest
    else
      { current with allocatedPRBCount := u32 (current.allocatedPRBCount + totalPRBAvailable) } ::
        rest

namespace SchedularInfo

def ueList (s : SchedularInfo) (isUplink : Bool) : List UeSchedularInfo :=
  if isUplink then s.uplinkInfo else s.downlinkInfo

def withUeList (s : SchedularInfo) (isUplink : Bool) (list : List UeSchedularInfo) :
    SchedularInfo :=
  if isUplink then { s with uplinkInfo := list } else { s with downlinkInfo := list }

def initRanks (s : SchedularInfo) : SchedularInfo :=
  if s.isPRBRankInit then s
  else { s with
    isPRBRankInit := true
    downlinkInfo := setRank s.schedulingType s.downlinkInfo
    uplinkInfo := setRank s.schedulingType s.uplinkInfo }

def updateRanks (s : SchedularInfo) (initTotalPRBAvailable : ℕ) (list : List UeSchedularInfo) :
    List UeSchedularInfo :=
  match s.schedulingType with
  | .fairScheduling => updateRankFAIR initTotalPRBAvailable list
  | .maxThroughput => list
  | _ => updateRank initTotalPRBAvailable list

/-- `LTENR_PRB_AllocatePRB` for the list of the uplink or of the downlink. -/
def allocatePRB (s : SchedularInfo) (initTotalPRBAvailable : ℕ) (isUplink : Bool)
    (totalPRBAvailable : ℕ) : Option SchedularInfo :=
  let s := s.initRanks
  (sortingOfRank (s.ueList isUplink)).map fun sorted =>
    s.withUeList isUplink
      (s.updateRanks initTotalPRBAvailable (allocateLoop totalPRBAvailable sorted))

/-- What `LTENR_PRB_Schedular` does in an uplink slot or in a downlink slot. -/
def schedularFor (s : SchedularInfo) (isUplink : Bool) (OH : ℚ) : Option SchedularInfo :=
  if s.ueList isUplink = [] then some s
  else
    let totalPRBAvailable := sub32 s.PRBCount (u32 ⌈s.PRBCount * OH⌉₊)
    (s.withUeList isUplink (resetAllocationPRBCount (s.ueList isUplink))).allocatePRB
      s.PRBCount isUplink totalPRBAvailable

def schedular (s : SchedularInfo) : Option SchedularInfo :=
  match s.slotType with
  | .uplink => s.schedularFor true s.OH_UL
  | .downlink => s.schedularFor false s.OH_DL
  | .other => some s

end SchedularInfo

end NetSim.Mac
