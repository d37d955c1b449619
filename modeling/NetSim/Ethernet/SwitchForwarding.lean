import NetSim.Ethernet.Switch

/-!
# What a switch learns and where it sends a frame

`MeetsWire` and `MeetsNetwork` are the states and frames for which a switch learns and forwards
rightly: it never looks at the port a frame came in by, nor at that of a known destination, and
never changes an entry.
-/

namespace NetSim.Ethernet

open NetSim.Lib

variable {Mac : Type}

/-- The interfaces of a LAN are distinct, numbered from one, and the table leads to them. -/
structure SwitchLan.WellFormed (lan : SwitchLan Mac) : Prop where
  nodup : lan.interfaceId.Nodup
  zero_notMem : 0 ∉ lan.interfaceId
  outPort_mem : ∀ e ∈ lan.switchTable, e.outPort ∈ lan.interfaceId

section
variable (eth : EthVar Mac) (firewall : MacFirewall Mac) (interfaceId : List ℕ) (p : ℕ)
  (packet : Frame Mac)

/-- A frame that has come in at `p` is to be flooded on `o`. -/
def IsFloodPort (o : ℕ) : Prop :=
  o ≠ p ∧ eth.portState o ≠ .blocking ∧ firewall o packet .outbound = .permit

instance (o : ℕ) : Decidable (IsFloodPort eth firewall p packet o) :=
  inferInstanceAs (Decidable (_ ∧ _ ∧ _))

/-- The frame has left exactly once on every port of the LAN it is to be flooded on. -/
def Flooded (sent : List (ℕ × Frame Mac)) : Prop :=
  ∀ o ∈ interfaceId,
    (sent.map Prod.fst).count o = if IsFloodPort eth firewall p packet o then 1 else 0

/-- Where a frame that came in at `p` is to leave, if the table has its destination at `target`. -/
def ForwardedRightly (target : Option ℕ) (sent : List (ℕ × Frame Mac)) : Prop :=
  if eth.portState p = .blocking then sent = []
  else
    match target with
    | none => Flooded eth firewall interfaceId p packet sent
    | some f =>
      if f = p then sent = []
      else if eth.portState f = .blocking then Flooded eth firewall interfaceId p packet sent
      else sent.map Prod.fst = [f]

def NoFloodPort : Prop := ∀ o ∈ interfaceId, ¬ IsFloodPort eth firewall p packet o

def NoTrunkPort : Prop :=
  eth.isVLAN = true → ∀ o ∈ eth.trunkPortIds, o ∉ interfaceId → o ≠ packet.incomingPort →
    eth.portState o ≠ .blocking → firewall o packet .outbound ≠ .permit

/-- When a frame is forwarded rightly by a function that sends to a known `f` under `Sends f`, and
floods otherwise. -/
def MeetsForward (Sends : ℕ → Prop) : Option ℕ → Prop
  | none =>
    eth.portState p = .blocking →
      NoFloodPort eth firewall interfaceId p packet ∧ NoTrunkPort eth firewall interfaceId packet
  | some f =>
    if eth.portState p = .blocking ∨ f = p then ¬ Sends f
    else if eth.portState f = .blocking then ¬ Sends f ∧ NoFloodPort eth firewall interfaceId p packet
    else Sends f

end

section
variable {eth : EthVar Mac} {firewall : MacFirewall Mac} {lan : SwitchLan Mac} {p o : ℕ}
  {packet : Frame Mac}

theorem map_fst_forwardToLan :
    (forwardToLan eth firewall p lan packet).map Prod.fst =
      lan.interfaceId.filter fun o => IsFloodPort eth firewall p packet o := by
  unfold forwardToLan IsFloodPort
  rw [List.map_map]
  exact List.map_id _

theorem forwardToLan_eq_nil :
    forwardToLan eth firewall p lan packet = [] ↔ NoFloodPort eth firewall lan.interfaceId p packet := by
  rw [← List.map_eq_nil_iff (f := Prod.fst), map_fst_forwardToLan, List.filter_eq_nil_iff]
  simp [NoFloodPort]

theorem vlanForwardToAllTrunk_eq_nil :
    vlanForwardToAllTrunk eth firewall packet lan = [] ↔ NoTrunkPort eth firewall lan.interfaceId packet := by
  unfold vlanForwardToAllTrunk NoTrunkPort
  split
  · next h =>
    simp [h]
  · next h => simp [h]

theorem notMem_vlanForwardToAllTrunk (ho : o ∈ lan.interfaceId) :
    o ∉ (vlanForwardToAllTrunk eth firewall packet lan).map Prod.fst := by
  unfold vlanForwardToAllTrunk
  split
  · simp only [List.map_map, List.mem_map, List.mem_filter]
    rintro ⟨inter, ⟨-, h⟩, rfl⟩
    exact (of_decide_eq_true h).1 ho
  · exact List.not_mem_nil

theorem flooded_flood (hlan : lan.WellFormed) :
    Flooded eth firewall lan.interfaceId p packet
      (forwardToLan eth firewall p lan packet ++ vlanForwardToAllTrunk eth firewall packet lan) := by
  intro o ho
  rw [List.map_append, List.count_append, map_fst_forwardToLan,
    List.count_eq_zero_of_not_mem (notMem_vlanForwardToAllTrunk ho), Nat.add_zero]
  by_cases h : IsFloodPort eth firewall p packet o
  · rw [if_pos h, List.count_filter (p := fun o => decide (IsFloodPort eth firewall p packet o))
      (decide_eq_true h), List.count_eq_one_of_mem hlan.nodup ho]
  · rw [if_neg h, List.count_eq_zero_of_not_mem]
    intro hmem
    exact h (of_decide_eq_true (List.mem_filter.1 hmem).2)

theorem flooded_nil : Flooded eth firewall lan.interfaceId p packet [] ↔ NoFloodPort eth firewall lan.interfaceId p packet := by
  refine forall₂_congr fun o _ => ?_
  split <;> simp_all

theorem not_flooded_single {f : ℕ} {q : Frame Mac} (hf : f ∈ lan.interfaceId)
    (hblock : eth.portState f = .blocking) : ¬ Flooded eth firewall lan.interfaceId p packet [(f, q)] := by
  intro h
  have hcount := h f hf
  rw [if_neg fun hport => hport.2.1 hblock] at hcount
  simp at hcount

theorem forwardedRightly_iff (hlan : lan.WellFormed) {target : Option ℕ} {Sends : ℕ → Prop}
    {sent : List (ℕ × Frame Mac)} {q : Frame Mac} (htarget : ∀ f ∈ target, f ∈ lan.interfaceId)
    (hnone : target = none →
      sent = forwardToLan eth firewall p lan packet ++ vlanForwardToAllTrunk eth firewall packet lan)
    (hsends : ∀ f ∈ target, Sends f → sent = [(f, q)]) (hnot : ∀ f ∈ target, ¬ Sends f → sent = []) :
    ForwardedRightly eth firewall lan.interfaceId p packet target sent ↔
      MeetsForward eth firewall lan.interfaceId p packet Sends target := by
  unfold ForwardedRightly MeetsForward
  cases target with
  | none =>
    rw [hnone rfl]
    by_cases hp : eth.portState p = .blocking
    · simp [hp, forwardToLan_eq_nil, vlanForwardToAllTrunk_eq_nil]
    · simp [hp, flooded_flood hlan]
  | some f =>
    have hf := htarget f rfl
    by_cases hs : Sends f
    · rw [hsends f rfl hs]
      by_cases hp : eth.portState p = .blocking
      · simp [hp, hs]
      · by_cases hfp : f = p
        · simp [hfp, hfp ▸ hs, hp]
        · by_cases hb : eth.portState f = .blocking
          · simp [hp, hfp, hb, hs, not_flooded_single hf hb]
          · simp [hp, hfp, hb, hs]
    · rw [hnot f rfl hs]
      by_cases hp : eth.portState p = .blocking
      · simp [hp, hs]
      · by_cases hfp : f = p
        · simp [hfp, hfp ▸ hs, hp]
        · by_cases hb : eth.portState f = .blocking
          · simp [hp, hfp, hb, hs, flooded_nil]
          · simp [hp, hfp, hb, hs]

end

/-! ## The table -/

section
variable [DecidableEq Mac] {lan : SwitchLan Mac} {src dst : Mac} {p : ℕ}

def SwitchLan.outPort (lan : SwitchLan Mac) (mac : Mac) : Option ℕ :=
  (switchTableFind lan mac).map SwitchTable.outPort

theorem SwitchLan.outPort_eq_some {mac : Mac} (h : lan.outPort mac = some p) :
    ∃ e ∈ lan.switchTable, e.outPort = p := by
  obtain ⟨e, he, rfl⟩ := Option.map_eq_some_iff.1 h
  exact ⟨e, (lookup_some he).1, rfl⟩

theorem outPort_switchTableNew :
    (switchTableNew lan src p).outPort dst =
      if dst = src then some ((lan.outPort src).getD p) else lan.outPort dst := by
  unfold SwitchLan.outPort switchTableNew
  split
  · next e he =>
    by_cases hd : dst = src
    · rw [if_pos hd, hd, he]
      rfl
    · rw [if_neg hd]
  · next hnone =>
    unfold switchTableFind at hnone ⊢
    rw [lookup_append_single]
    by_cases hd : dst = src
    · rw [if_pos hd, hd, hnone]
      simp
    · rw [if_neg hd]
      cases lookup SwitchTable.mac dst lan.switchTable with
      | some e => rfl
      | none => simp [Ne.symm hd]

@[simp] theorem interfaceId_switchTableNew :
    (switchTableNew lan src p).interfaceId = lan.interfaceId := by
  unfold switchTableNew
  split <;> rfl

@[simp] theorem vlanId_switchTableNew : (switchTableNew lan src p).vlanId = lan.vlanId := by
  unfold switchTableNew
  split <;> rfl

@[simp] theorem lanIP_switchTableNew : (switchTableNew lan src p).lanIP = lan.lanIP := by
  unfold switchTableNew
  split <;> rfl

theorem switchTableNew_eq_self : switchTableNew lan src p = lan ↔ lan.outPort src ≠ none := by
  unfold switchTableNew SwitchLan.outPort
  cases h : switchTableFind lan src with
  | some e => simp
  | none =>
    simp only [Option.map_none, ne_eq, not_true_eq_false, iff_false]
    intro he
    have hlen := congrArg (fun l : SwitchLan Mac => l.switchTable.length) he
    simp at hlen

theorem SwitchLan.WellFormed.switchTableNew (h : lan.WellFormed) (hp : p ∈ lan.interfaceId) :
    (switchTableNew lan src p).WellFormed := by
  unfold Ethernet.switchTableNew
  split
  · exact h
  · refine ⟨h.nodup, h.zero_notMem, ?_⟩
    intro e he
    rcases List.mem_append.1 he with he | he
    · exact h.outPort_mem e he
    · rw [List.mem_singleton.1 he]
      exact hp

theorem SwitchLan.WellFormed.outPort_mem_interfaceId (h : lan.WellFormed) {mac : Mac}
    (hout : lan.outPort mac = some p) : p ∈ lan.interfaceId := by
  obtain ⟨e, he, rfl⟩ := SwitchLan.outPort_eq_some hout
  exact h.outPort_mem e he

theorem findForwardInterface_eq (packet : Frame Mac) :
    findForwardInterface lan packet = (lan.outPort packet.szDestMac).getD 0 := by
  unfold findForwardInterface SwitchLan.outPort
  cases switchTableFind lan packet.szDestMac <;> rfl

end

/-! ## The frame from the wire -/

section
variable [DecidableEq Mac] (eth : EthVar Mac) (firewall : MacFirewall Mac) (lan : SwitchLan Mac) (p : ℕ)
  (packet : Frame Mac)

/-- At a blocking port the table stays as it is, and at any other the source is learnt. -/
def ProcessedRightly (r : Processed Mac) : Prop :=
  if eth.portState p = .blocking then r.lan = lan ∧ r.sent = []
  else
    r.lan.outPort packet.szSourceMac = some p ∧
      ForwardedRightly eth firewall lan.interfaceId p (packet.storeEthParamMacin p lan)
        (r.lan.outPort packet.szDestMac) r.sent

/-- A frame for which the table has `target` is to leave on no port. -/
def NothingDue (packet : Frame Mac) : Option ℕ → Prop
  | none => NoFloodPort eth firewall lan.interfaceId p packet
  | some f => f = p ∨ eth.portState f = .blocking ∧ NoFloodPort eth firewall lan.interfaceId p packet

def targetAt : Option ℕ :=
  if packet.szDestMac = packet.szSourceMac then some p else lan.outPort packet.szDestMac

def SwitchLan.Learns : Prop := lan.switchingTechnique ≠ .null

/-- At a blocking port a frame must have a known source and nowhere to go to. At any other its
source must not be known elsewhere, its destination not at `p` nor at a blocking port, and the
firewall must let it out. -/
def MeetsWire : Prop :=
  let stored := packet.storeEthParamMacin p lan
  if firewall p packet .inbound = .deny then
    eth.portState p = .blocking ∨ lan.outPort packet.szSourceMac = some p ∧
      NothingDue eth firewall lan p stored (lan.outPort packet.szDestMac)
  else if eth.portState p = .blocking then
    (lan.outPort packet.szSourceMac ≠ none ∨ ¬ lan.Learns) ∧
      MeetsForward eth firewall lan.interfaceId p stored (fun f => firewall f stored .outbound = .permit)
        (lan.outPort packet.szDestMac)
  else
    (lan.outPort packet.szSourceMac = some p ∨ lan.outPort packet.szSourceMac = none ∧ lan.Learns) ∧
      MeetsForward eth firewall lan.interfaceId p stored (fun f => firewall f stored .outbound = .permit)
        (targetAt lan p packet)

/-- The same for what the network layer hands down, with a recorded incoming port. -/
def MeetsNetwork : Prop :=
  let stripped := packet.clearEthIncoming.addMacHeader
  if 1 < lan.interfaceId.length then
    MeetsForward eth firewall lan.interfaceId p stripped
      (fun f => firewall f stripped .outbound = .permit ∧ f ≠ p) (lan.outPort packet.szDestMac)
  else
    eth.portState p = .blocking ∨ lan.outPort packet.szDestMac ≠ none →
      NoTrunkPort eth firewall lan.interfaceId stripped

end

section
variable [DecidableEq Mac] {eth : EthVar Mac} {firewall : MacFirewall Mac} {lan : SwitchLan Mac} {p : ℕ}
  {packet : Frame Mac}

omit [DecidableEq Mac] in
theorem szDestMac_storeEthParamMacin :
    (packet.storeEthParamMacin p lan).szDestMac = packet.szDestMac := by
  unfold Frame.storeEthParamMacin
  split <;> rfl

variable {src : Mac}

theorem storeEthParamMacin_switchTableNew {q : ℕ} :
    packet.storeEthParamMacin p (switchTableNew lan src q) = packet.storeEthParamMacin p lan := by
  unfold Frame.storeEthParamMacin
  rw [vlanId_switchTableNew]

theorem findForwardInterface_ne_zero (hlan : lan.WellFormed) {f : ℕ}
    (h : lan.outPort packet.szDestMac = some f) : findForwardInterface lan packet = f ∧ f ≠ 0 := by
  rw [findForwardInterface_eq, h]
  refine ⟨rfl, ?_⟩
  rintro rfl
  exact hlan.zero_notMem (hlan.outPort_mem_interfaceId h)

theorem forwardedRightly_forwardFrame (eth : EthVar Mac) (firewall : MacFirewall Mac) (p : ℕ)
    (packet : Frame Mac) (hlan : lan.WellFormed) :
    ForwardedRightly eth firewall lan.interfaceId p packet (lan.outPort packet.szDestMac)
        (forwardFrame eth firewall p lan packet) ↔
      MeetsForward eth firewall lan.interfaceId p packet
        (fun f => firewall f packet .outbound = .permit) (lan.outPort packet.szDestMac) := by
  refine forwardedRightly_iff hlan (q := packet.clearEthIncoming)
    (fun f hf => hlan.outPort_mem_interfaceId hf) ?_ ?_ ?_
  · intro hnone
    unfold forwardFrame
    simp [findForwardInterface_eq, hnone]
  · intro f hf hs
    obtain ⟨he, hne⟩ := findForwardInterface_ne_zero hlan hf
    unfold forwardFrame
    simp [he, hne, hs]
  · intro f hf hs
    obtain ⟨he, hne⟩ := findForwardInterface_ne_zero hlan hf
    unfold forwardFrame
    simp [he, hne, hs]

/-- The LAN after a frame has come in at `p`. -/
def SwitchLan.learned (lan : SwitchLan Mac) (src : Mac) (p : ℕ) : SwitchLan Mac :=
  if lan.switchingTechnique ≠ .null then switchTableNew lan src p else lan

theorem ethernetMacProcessFrame_of_permit (hin : firewall p packet .inbound ≠ .deny)
    (hip : lan.lanIP = false) (htag : packet.tag = none) :
    ethernetMacProcessFrame eth firewall p lan packet =
      { lan := lan.learned packet.szSourceMac p
        sent := forwardFrame eth firewall p (lan.learned packet.szSourceMac p)
          (packet.storeEthParamMacin p lan)
        up := none } := by
  unfold ethernetMacProcessFrame SwitchLan.learned
  rw [if_neg hin]
  by_cases ht : lan.switchingTechnique ≠ .null
  · simp only [if_pos ht, lanIP_switchTableNew, hip, htag, storeEthParamMacin_switchTableNew]
    rfl
  · simp only [if_neg ht, hip, htag]
    rfl

theorem interfaceId_learned : (lan.learned src p).interfaceId = lan.interfaceId := by
  unfold SwitchLan.learned
  split
  · exact interfaceId_switchTableNew
  · rfl

theorem SwitchLan.WellFormed.learned (h : lan.WellFormed) (hp : p ∈ lan.interfaceId) (src : Mac) :
    (lan.learned src p).WellFormed := by
  unfold SwitchLan.learned
  split
  · exact h.switchTableNew hp
  · exact h

theorem learned_eq_self : lan.learned src p = lan ↔ lan.outPort src ≠ none ∨ ¬ lan.Learns := by
  unfold SwitchLan.learned SwitchLan.Learns
  split
  · next h => simp [switchTableNew_eq_self, h]
  · next h => simp [h]

theorem outPort_learned_source :
    (lan.learned src p).outPort src = some p ↔
      lan.outPort src = some p ∨ lan.outPort src = none ∧ lan.Learns := by
  unfold SwitchLan.learned SwitchLan.Learns
  split
  · next h =>
    rw [outPort_switchTableNew, if_pos rfl]
    cases lan.outPort src <;> simp [h]
  · next h => simp [h]

theorem outPort_learned {dst : Mac} (h : (lan.learned src p).outPort src = some p) :
    (lan.learned src p).outPort dst = if dst = src then some p else lan.outPort dst := by
  by_cases hd : dst = src
  · rw [if_pos hd, hd, h]
  · unfold SwitchLan.learned
    split
    · rw [outPort_switchTableNew, if_neg hd]
    · rfl

omit [DecidableEq Mac] in
theorem forwardedRightly_nil {target : Option ℕ} (hp : eth.portState p ≠ .blocking) :
    ForwardedRightly eth firewall lan.interfaceId p packet target [] ↔
      NothingDue eth firewall lan p packet target := by
  unfold ForwardedRightly NothingDue
  rw [if_neg hp]
  cases target with
  | none => exact flooded_nil
  | some f =>
    by_cases hf : f = p
    · simp [hf]
    · by_cases hb : eth.portState f = .blocking
      · simp [hf, hb, flooded_nil]
      · simp [hf, hb]

theorem processedRightly_iff (hlan : lan.WellFormed) (hip : lan.lanIP = false)
    (hp : p ∈ lan.interfaceId) (htag : packet.tag = none) :
    ProcessedRightly eth firewall lan p packet (ethernetMacProcessFrame eth firewall p lan packet) ↔
      MeetsWire eth firewall lan p packet := by
  unfold ProcessedRightly MeetsWire
  by_cases hin : firewall p packet .inbound = .deny
  · have hr : ethernetMacProcessFrame eth firewall p lan packet = { lan, sent := [], up := none } := by
      unfold ethernetMacProcessFrame
      rw [if_pos hin]
    rw [hr, if_pos hin]
    by_cases hb : eth.portState p = .blocking
    · simp [hb]
    · rw [if_neg hb, forwardedRightly_nil hb]
      simp [hb]
  · rw [ethernetMacProcessFrame_of_permit hin hip htag, if_neg hin]
    have hfwd := forwardedRightly_forwardFrame eth firewall p (packet.storeEthParamMacin p lan)
      (hlan.learned hp packet.szSourceMac)
    rw [interfaceId_learned, szDestMac_storeEthParamMacin] at hfwd
    by_cases hb : eth.portState p = .blocking
    · rw [if_pos hb, if_pos hb, learned_eq_self]
      refine and_congr_right fun hsrc => ?_
      rw [learned_eq_self.2 hsrc] at hfwd ⊢
      rw [← hfwd]
      unfold ForwardedRightly
      rw [if_pos hb]
    · rw [if_neg hb, if_neg hb, ← outPort_learned_source]
      refine and_congr_right fun hsrc => ?_
      rw [hfwd, outPort_learned hsrc]
      rfl

theorem forwardedRightly_network_iff (hlan : lan.WellFormed) (hp : packet.incomingPort ∈ lan.interfaceId)
    (hvlan : packet.incomingVlanId = 0) :
    ForwardedRightly eth firewall lan.interfaceId packet.incomingPort packet.clearEthIncoming.addMacHeader
        (lan.outPort packet.szDestMac) (packetArriveFromNetworkLayer eth firewall lan packet) ↔
      MeetsNetwork eth firewall lan packet.incomingPort packet := by
  let stripped := packet.clearEthIncoming.addMacHeader
  have hsend : packetArriveFromNetworkLayer eth firewall lan packet =
      if (if 1 < lan.interfaceId.length then findForwardInterface lan packet else 0) ≠ 0 then
        if firewall (findForwardInterface lan packet) stripped .outbound = .permit ∧
            findForwardInterface lan packet ≠ packet.incomingPort then
          [(findForwardInterface lan packet, stripped.clearEthIncoming)]
        else []
      else
        forwardToLan eth firewall packet.incomingPort lan stripped ++
          vlanForwardToAllTrunk eth firewall stripped lan := by
    unfold packetArriveFromNetworkLayer
    rw [if_neg (not_not.2 hvlan)]
    by_cases h : 1 < lan.interfaceId.length
    · simp only [if_pos h]
      rfl
    · simp only [if_neg h]
      rfl
  unfold MeetsNetwork
  by_cases hlen : 1 < lan.interfaceId.length
  · rw [if_pos hlen] at hsend ⊢
    refine forwardedRightly_iff hlan (q := stripped.clearEthIncoming)
      (fun f hf => hlan.outPort_mem_interfaceId hf) ?_ ?_ ?_
    · intro hnone
      rw [hsend, if_neg]
      simp [findForwardInterface_eq, hnone]
    · intro f hf hs
      obtain ⟨he, hne⟩ := findForwardInterface_ne_zero hlan hf
      rw [hsend, he, if_pos hne, if_pos hs]
    · intro f hf hs
      obtain ⟨he, hne⟩ := findForwardInterface_ne_zero hlan hf
      rw [hsend, he, if_pos hne, if_neg hs]
  · -- The frame came in at the only port, so it can leave on a trunk port only.
    rw [if_neg hlen, if_neg (by simp)] at hsend
    rw [if_neg hlen, hsend]
    have honly : ∀ o ∈ lan.interfaceId, o = packet.incomingPort := by
      intro o ho
      match hids : lan.interfaceId with
      | [] => simp [hids] at ho
      | [a] =>
        rw [hids, List.mem_singleton] at ho hp
        rw [ho, hp]
      | a :: b :: rest => simp [hids] at hlen
    have hflood : NoFloodPort eth firewall lan.interfaceId packet.incomingPort stripped :=
      fun o ho hport => hport.1 (honly o ho)
    rw [forwardToLan_eq_nil.2 hflood, List.nil_append]
    unfold ForwardedRightly
    by_cases hb : eth.portState packet.incomingPort = .blocking
    · simp [hb, vlanForwardToAllTrunk_eq_nil, stripped]
    · cases hout : lan.outPort packet.szDestMac with
      | none =>
        have htrunk : Flooded eth firewall lan.interfaceId packet.incomingPort stripped
            (forwardToLan eth firewall packet.incomingPort lan stripped ++
              vlanForwardToAllTrunk eth firewall stripped lan) := flooded_flood hlan
        rw [forwardToLan_eq_nil.2 hflood, List.nil_append] at htrunk
        simp [hb, htrunk, stripped]
      | some f =>
        have hf := honly f (hlan.outPort_mem_interfaceId hout)
        simp [hb, hf, vlanForwardToAllTrunk_eq_nil, stripped]

end

end NetSim.Ethernet
