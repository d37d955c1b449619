import NetSim.Ospf.LsUpdate

/-!
# Packing LS updates (`OSPF_LSUPDATE.c`)

LSAs are put into a packet until the next one does not fit. One that fits into no packet gets one of
its own, with the count of the empty packet before it. The destination is left out.
-/

namespace NetSim.Ospf

/-- `OSPFLSUPDATE`: the array `LSAs`, and how many of its entries belong to the message. -/
structure LsUpdateMsg where
  LSAsCount : Nat
  LSAs : List Lsa
deriving DecidableEq

def LsUpdateMsg.carried (msg : LsUpdateMsg) : List Lsa := msg.LSAs.take msg.LSAsCount

def lsaBytes (list : List Lsa) : Nat := (list.map Lsa.length).sum

def Config.maxPayloadSize (cfg : Config) : Nat :=
  (cfg.maxIpPayload - packetHdrLen - lsUpdateLenFixed) % 2 ^ 16

/-- The LSA is `InfTransDelay` older, up to `LSAMaxAge`. -/
def Config.ageBy (cfg : Config) (infTransDelay : Nat) (lsa : Lsa) : Lsa :=
  let age := (lsa.LSAge + infTransDelay / second) % 2 ^ 16
  { lsa with LSAge :=
      if cfg.maskDoNotAge age > cfg.LSAMaxAge then cfg.assignNewLSAge age cfg.LSAMaxAge else age }

/-- `count`, `lsas` and `payloadSize` of the two functions. -/
structure Packing where
  count : Nat
  lsas : List Lsa
  payloadSize : Nat
deriving DecidableEq

def Packing.message (p : Packing) : LsUpdateMsg := ⟨p.count, p.lsas⟩

/-- One turn of the two loops, from `LOOP_LSA_AGAIN` on: the LSA goes into a packet of its own or
with others. -/
def packLsa (maxPayloadSize : Nat) (single add : Lsa → Lsa) (lsa : Lsa) (p : Packing) :
    List LsUpdateMsg × Packing :=
  if p.payloadSize = 0 ∧ lsa.length > maxPayloadSize then
    ([⟨p.count, [single lsa]⟩], { p with lsas := [] })
  else if p.payloadSize + lsa.length > maxPayloadSize then
    let (sent, p') := packLsa maxPayloadSize single add lsa ⟨0, [], 0⟩
    (p.message :: sent, p')
  else
    ([], {
      count := p.count + 1
      lsas := (if p.count = 0 then [] else p.lsas) ++ [add lsa]
      payloadSize := (p.payloadSize + lsa.length) % 2 ^ 16 })
termination_by p.payloadSize
decreasing_by
  -- Where nothing is packed yet the LSA would have been sent alone.
  omega

def packLoop (maxPayloadSize : Nat) (single add : Lsa → Lsa) :
    Packing → List Lsa → List LsUpdateMsg × List Lsa
  | p, [] => (if p.count = 0 then [] else [p.message], [])
  | p, lsa :: list =>
    let (sent, p) := packLsa maxPayloadSize single add lsa p
    let (rest, left) := packLoop maxPayloadSize single add p list
    (sent ++ rest, left)

def Interface.sendUpdates (cfg : Config) (inter : Interface) (single add : Lsa → Lsa) :
    List LsUpdateMsg × Interface :=
  if inter.updateLSAList = [] then ([], inter)
  else
    let (sent, left) := packLoop cfg.maxPayloadSize single add ⟨0, [], 0⟩ inter.updateLSAList
    (sent, { inter with updateLSAList := left })

def Interface.lsupdateSend (cfg : Config) (inter : Interface) : List LsUpdateMsg × Interface :=
  inter.sendUpdates cfg (cfg.ageBy inter.InfTransDelay) (cfg.ageBy inter.InfTransDelay)

/-- `ospf_lsu_sendLSUpdateToNeighbor`, where an LSA alone in its packet does not age. -/
def Interface.sendLSUpdateToNeighbor (cfg : Config) (inter : Interface) :
    List LsUpdateMsg × Interface :=
  inter.sendUpdates cfg (fun lsa => lsa) (cfg.ageBy inter.InfTransDelay)

/-! ## One turn -/

@[simp] theorem lsaBytes_nil : lsaBytes [] = 0 := rfl

@[simp] theorem lsaBytes_append (l l' : List Lsa) :
    lsaBytes (l ++ l') = lsaBytes l + lsaBytes l' := by
  simp [lsaBytes]

@[simp] theorem lsaBytes_singleton (lsa : Lsa) : lsaBytes [lsa] = lsa.length := by
  simp [lsaBytes]

section

variable {max : Nat} {single add : Lsa → Lsa} {lsa : Lsa} {p : Packing} {list : List Lsa}

/-- What is packed fits into a packet, and counts once. -/
structure Packing.Fits (max : Nat) (p : Packing) : Prop where
  count : p.count = p.lsas.length
  payloadSize : p.payloadSize = lsaBytes p.lsas
  le : p.payloadSize ≤ max
  pos : ∀ lsa ∈ p.lsas, 0 < lsa.length

theorem Packing.fits_nil (max : Nat) : Packing.Fits max ⟨0, [], 0⟩ :=
  ⟨rfl, rfl, Nat.zero_le _, fun _ h => by cases h⟩

theorem Packing.Fits.carried (h : p.Fits max) : p.message.carried = p.lsas := by
  unfold Packing.message LsUpdateMsg.carried
  rw [h.count, List.take_length]

theorem Packing.Fits.lsas_eq_nil (h : p.Fits max) (hzero : p.payloadSize = 0) : p.lsas = [] := by
  cases hl : p.lsas with
  | nil => rfl
  | cons lsa rest =>
    have hpos := h.pos lsa (hl ▸ List.mem_cons_self)
    have hbytes := h.payloadSize
    rw [hl, hzero] at hbytes
    simp [lsaBytes] at hbytes
    omega

structure TurnFits (max : Nat) (add : Lsa → Lsa) (lsa : Lsa) (p : Packing)
    (r : List LsUpdateMsg × Packing) : Prop where
  fits : r.2.Fits max
  sent : ∀ msg ∈ r.1, lsaBytes msg.carried ≤ max
  carried : r.1.flatMap LsUpdateMsg.carried ++ r.2.lsas =
    p.lsas ++ if lsa.length ≤ max then [add lsa] else []

theorem turnFits_add (hp : p.Fits max) (hmax : max < 2 ^ 16) (hadd : (add lsa).length = lsa.length)
    (hpos : 0 < lsa.length) (hroom : p.payloadSize + lsa.length ≤ max) :
    TurnFits max add lsa p ([], {
      count := p.count + 1
      lsas := (if p.count = 0 then [] else p.lsas) ++ [add lsa]
      payloadSize := (p.payloadSize + lsa.length) % 2 ^ 16 }) := by
  have hlsas : (if p.count = 0 then [] else p.lsas) = p.lsas := by
    split
    · next hzero =>
      rw [hp.count] at hzero
      exact (List.length_eq_zero_iff.1 hzero).symm
    · rfl
  have hmod : (p.payloadSize + lsa.length) % 2 ^ 16 = p.payloadSize + lsa.length :=
    Nat.mod_eq_of_lt (by omega)
  rw [hlsas, hmod]
  refine ⟨⟨?_, ?_, hroom, ?_⟩, ?_, ?_⟩
  · rw [List.length_append, hp.count]
    rfl
  · rw [lsaBytes_append, lsaBytes_singleton, hadd, hp.payloadSize]
  · intro lsa' hmem
    rcases List.mem_append.1 hmem with hmem | hmem
    · exact hp.pos lsa' hmem
    · rw [List.mem_singleton.1 hmem, hadd]
      exact hpos
  · intro msg hmsg
    cases hmsg
  · rw [if_pos (by omega)]
    rfl

theorem turnFits_single (hp : p.Fits max) (hzero : p.payloadSize = 0) (hlong : max < lsa.length) :
    TurnFits max add lsa p ([⟨p.count, [single lsa]⟩], { p with lsas := [] }) := by
  have hlsas := hp.lsas_eq_nil hzero
  have hcount : p.count = 0 := by rw [hp.count, hlsas, List.length_nil]
  have hnone : LsUpdateMsg.carried ⟨p.count, [single lsa]⟩ = [] := by
    rw [LsUpdateMsg.carried, hcount]
    rfl
  refine ⟨⟨hcount, hzero, hp.le, fun _ h => by cases h⟩, ?_, ?_⟩
  · intro msg hmsg
    rw [List.mem_singleton.1 hmsg, hnone]
    exact Nat.zero_le _
  · rw [if_neg (by omega), hlsas, List.flatMap_singleton, hnone]

theorem turnFits_packLsa (single : Lsa → Lsa) (hp : p.Fits max) (hmax : max < 2 ^ 16)
    (hadd : (add lsa).length = lsa.length) (hpos : 0 < lsa.length) :
    TurnFits max add lsa p (packLsa max single add lsa p) := by
  -- The turn with an empty packet, which is the one after `goto LOOP_LSA_AGAIN`.
  have hempty : TurnFits max add lsa ⟨0, [], 0⟩ (packLsa max single add lsa ⟨0, [], 0⟩) := by
    rw [packLsa]
    split
    · next hlong => exact turnFits_single (Packing.fits_nil max) rfl hlong.2
    · next hshort =>
      have hle : lsa.length ≤ max := by
        by_contra hlong
        exact hshort ⟨rfl, by omega⟩
      have hroom : (⟨0, [], 0⟩ : Packing).payloadSize + lsa.length ≤ max := by
        rw [Nat.zero_add]
        exact hle
      rw [if_neg (Nat.not_lt.2 hroom)]
      exact turnFits_add (Packing.fits_nil max) hmax hadd hpos hroom
  rw [packLsa]
  split
  · next hlong => exact turnFits_single hp hlong.1 hlong.2
  · split
    · obtain ⟨hfits, hsent, hcarried⟩ := hempty
      refine ⟨hfits, ?_, ?_⟩
      · intro msg hmsg
        rcases List.mem_cons.1 hmsg with rfl | hmsg
        · rw [hp.carried, ← hp.payloadSize]
          exact hp.le
        · exact hsent msg hmsg
      · rw [List.flatMap_cons, hp.carried, List.append_assoc, hcarried]
        rfl
    · next hroom => exact turnFits_add hp hmax hadd hpos (by omega)

theorem packLoop_spec (single : Lsa → Lsa) (hp : p.Fits max) (hmax : max < 2 ^ 16)
    (hadd : ∀ lsa, (add lsa).length = lsa.length) (hpos : ∀ lsa ∈ list, 0 < lsa.length) :
    (packLoop max single add p list).2 = [] ∧
      (∀ msg ∈ (packLoop max single add p list).1, lsaBytes msg.carried ≤ max) ∧
      (packLoop max single add p list).1.flatMap LsUpdateMsg.carried =
        p.lsas ++ (list.filter fun lsa => lsa.length ≤ max).map add := by
  induction list generalizing p with
  | nil =>
    refine ⟨rfl, fun msg hmsg => ?_, ?_⟩
    · rw [packLoop] at hmsg
      split at hmsg
      · cases hmsg
      · rw [List.mem_singleton.1 hmsg, hp.carried, ← hp.payloadSize]
        exact hp.le
    · rw [packLoop]
      split
      · next hzero =>
        rw [hp.count] at hzero
        simp [List.length_eq_zero_iff.1 hzero]
      · simp [hp.carried]
  | cons lsa list ih =>
    obtain ⟨hlsa, hlist⟩ := List.forall_mem_cons.1 hpos
    obtain ⟨hfits, hsent, hcarried⟩ := turnFits_packLsa single hp hmax (hadd lsa) hlsa
    obtain ⟨hleft, hrest, hflat⟩ := ih hfits hlist
    rw [packLoop]
    refine ⟨hleft, fun msg hmsg => ?_, ?_⟩
    · rcases List.mem_append.1 hmsg with hmsg | hmsg
      · exact hsent msg hmsg
      · exact hrest msg hmsg
    · rw [List.flatMap_append, hflat, ← List.append_assoc, hcarried, List.append_assoc,
        List.filter_cons]
      by_cases hle : lsa.length ≤ max
      · simp [hle]
      · simp [hle]

end

/-! ## The two functions -/

/-- The packets carry the LSAs in order, each once and aged once, none longer than it may be unless
it carries one LSA that fits nowhere. -/
structure LosesNothing (cfg : Config) (inter : Interface) (r : List LsUpdateMsg × Interface) :
    Prop where
  emptied : r.2.updateLSAList = []
  carried : r.1.flatMap LsUpdateMsg.carried =
    inter.updateLSAList.map (cfg.ageBy inter.InfTransDelay)
  size : ∀ msg ∈ r.1, lsaBytes msg.carried ≤ cfg.maxPayloadSize ∨
    ∃ lsa, msg.carried = [lsa] ∧ cfg.maxPayloadSize < lsa.length

variable {cfg : Config} {inter : Interface}

theorem sendUpdates_losesNothing_iff (single : Lsa → Lsa)
    (hpos : ∀ lsa ∈ inter.updateLSAList, 0 < lsa.length) :
    LosesNothing cfg inter (inter.sendUpdates cfg single (cfg.ageBy inter.InfTransDelay)) ↔
      ∀ lsa ∈ inter.updateLSAList, lsa.length ≤ cfg.maxPayloadSize := by
  have hmax : cfg.maxPayloadSize < 2 ^ 16 := Nat.mod_lt _ (by decide)
  have hadd : ∀ lsa, (cfg.ageBy inter.InfTransDelay lsa).length = lsa.length := fun _ => rfl
  obtain ⟨hleft, hsize, hcarried⟩ :=
    packLoop_spec single (Packing.fits_nil cfg.maxPayloadSize) hmax hadd hpos
  unfold Interface.sendUpdates
  split
  · next hempty =>
    constructor
    · intro _ lsa hlsa
      rw [hempty] at hlsa
      cases hlsa
    · intro _
      refine ⟨hempty, ?_, fun msg hmsg => ?_⟩
      · rw [hempty]
        rfl
      · cases hmsg
  · constructor
    · intro h
      have hsame := hcarried.symm.trans h.carried
      have hlength := congrArg List.length hsame
      rw [List.nil_append, List.length_map, List.length_map, List.length_filter_eq_length_iff]
        at hlength
      intro lsa hlsa
      exact of_decide_eq_true (hlength lsa hlsa)
    · intro hshort
      refine ⟨hleft, ?_, fun msg hmsg => .inl (hsize msg hmsg)⟩
      have hall : inter.updateLSAList.filter (fun lsa => lsa.length ≤ cfg.maxPayloadSize) =
          inter.updateLSAList :=
        List.filter_eq_self.2 fun lsa hlsa => decide_eq_true (hshort lsa hlsa)
      rw [hall] at hcarried
      exact hcarried

/-- The link with a router LSA of `length` bytes to flood. -/
def flooding (length : Nat) : Interface :=
  { exampleLink with updateLSAList := [{
      LSAge := 0
      Options := 0
      LSType := .router
      LinkStateID := ⟨20, 20⟩
      AdvertisingRouter := ⟨20, 20⟩
      LSSequenceNumber := initialSequenceNumber
      length := length
      lsaInfo := none
      time := 0 }] }

def NeverLoses : Prop :=
  ∀ (cfg : Config) (inter : Interface), (∀ lsa ∈ inter.updateLSAList, 0 < lsa.length) →
    LosesNothing cfg inter (inter.lsupdateSend cfg) ∧
      LosesNothing cfg inter (inter.sendLSUpdateToNeighbor cfg)

end NetSim.Ospf
