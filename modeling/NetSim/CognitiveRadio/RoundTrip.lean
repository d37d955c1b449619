import NetSim.CognitiveRadio.Fragmentation

/-!
# Fragmentation and packing: the round trip

The payloads of the fragments are right; the other sizes are those of a full fragment, and what
follows the packet in its list is lost. The base station reads the header of a freed fragment.
-/

namespace NetSim.CognitiveRadio

/-! ## What fragmentation is to do -/

def fragmentCount (L S : ℚ) : Nat := ⌈L / S⌉₊

structure IsCut (L S : ℚ) (fragments : List Packet) : Prop where
  length : fragments.length = fragmentCount L S
  payloads : fragments.map (fun f => f.mac.dPayload) =
    List.replicate (fragmentCount L S - 1) S ++ [L - (fragmentCount L S - 1 : Nat) * S]
  sum : (fragments.map fun f => f.mac.dPayload).sum = L

structure Packet.SizesAgree (f : Packet) : Prop where
  mac : f.mac.dPacketSize = f.mac.dOverhead + f.mac.dPayload
  phy : f.phy.dPayload = f.mac.dPacketSize
  n_Length : f.gmh.n_Length = ⌊f.mac.dPacketSize⌋₊
  length : ∀ header ∈ f.gmh.subheader, header.length = ⌊f.mac.dPayload⌋₊

def Numbered (fragments : List Packet) : Prop :=
  ∀ i f, fragments[i]? = some f → ∃ header, f.gmh.subheader = some header ∧ header.FSN = i + 1 ∧
    header.FC = if i = 0 then .b10 else if i + 1 = fragments.length then .b01 else .b11

/-- The packet list that `fn_NetSim_CR_FragmentPacket` leaves is right for a packet of size `L`. -/
def FragmentsRight (L S : ℚ) (following list : List Packet) : Prop :=
  ∃ fragments, list = fragments ++ following ∧ IsCut L S fragments ∧
    (∀ f ∈ fragments, f.SizesAgree) ∧ (1 < fragments.length → Numbered fragments)

/-- The packet is not cut, or it is cut into full fragments and nothing follows it; lengths and
numbers fit. -/
def FragmentOk (L S : ℚ) (following : List Packet) : Prop :=
  (L ≤ S ∧ ⌊gmhSize + L⌋₊ < 2 ^ 11) ∨
    (S < L ∧ following = [] ∧ fragmentCount L S * S = L ∧
      ⌊gmhSize + fragmentSize + S⌋₊ < 2 ^ 11 ∧ fragmentCount L S < 2 ^ 10)

/-! ## The fragments -/

section

variable {L S now : ℚ} {nFragmentId : UInt32} {following : List Packet}

structure IsFragment (nFragmentId : UInt32) (S dPayload : ℚ) (FC : B2) (FSN : Nat) (f : Packet) :
    Prop where
  payload : f.mac.dPayload = dPayload
  overhead : f.mac.dOverhead = gmhSize + fragmentSize
  macSize : f.mac.dPacketSize = gmhSize + fragmentSize + S
  phyPayload : f.phy.dPayload = gmhSize + fragmentSize + S
  gmh : f.gmh = ⟨toBits 11 (gmhSize + fragmentSize + S),
    some ⟨FC, FSN % 2 ^ 10, toBits 11 S, nFragmentId⟩⟩

theorem fragmentCount_pos (hL : 0 < L) (hS : 0 < S) : 0 < fragmentCount L S :=
  Nat.ceil_pos.2 (div_pos hL hS)

theorem fragmentCount_sub (hS : 0 < S) : fragmentCount (L - S) S = fragmentCount L S - 1 := by
  unfold fragmentCount
  rw [sub_div, div_self (ne_of_gt hS), Nat.ceil_sub_one]

theorem one_lt_fragmentCount (hS : 0 < S) : 1 < fragmentCount L S ↔ S < L := by
  unfold fragmentCount
  rw [Nat.lt_ceil, Nat.cast_one, one_lt_div hS]

theorem fragmentLoop_fragments (now : ℚ) (nFragmentId : UInt32) (hS : 0 < S) (nCount : Nat) {dSize : ℚ} (hsize : 0 < dSize)
    (hcount : fragmentCount dSize S = nCount) (n : Nat) (packet : Packet)
    (hpacket : packet.mac.dPayload = S) :
    (fragmentLoop now nFragmentId S nCount dSize n packet).length = nCount ∧
      ∀ i f, (fragmentLoop now nFragmentId S nCount dSize n packet)[i]? = some f →
        IsFragment nFragmentId S (if i + 1 < nCount then S else dSize - (nCount - 1 : Nat) * S)
          (if i + 1 < nCount then .b11 else .b01) (n + 1 + i) f := by
  induction nCount generalizing dSize n packet with
  | zero => exact absurd hcount (ne_of_gt (fragmentCount_pos hsize hS))
  | succ nCount ih =>
    rw [fragmentLoop]
    set fragment := Packet.setMacPayload _ _ with hfragment
    have hone : 1 < nCount + 1 ↔ dSize > S := hcount ▸ one_lt_fragmentCount hS
    by_cases hlast : nCount = 0
    · subst hlast
      have hnot : ¬dSize > S := fun h => absurd (hone.2 h) (by decide)
      refine ⟨rfl, fun i f hf => ?_⟩
      cases i with
      | succ i => cases hf
      | zero =>
        cases hf
        rw [if_neg hnot, if_neg hnot] at hfragment
        rw [hfragment]
        refine ⟨?_, rfl, ?_, ?_, ?_⟩
        · simp [Packet.setMacPayload]
        · rw [← hpacket]
          rfl
        · rw [← hpacket]
          rfl
        · rw [← hpacket]
          rfl
    · have hbig : dSize > S := hone.1 (by omega)
      rw [if_pos hbig, if_pos hbig] at hfragment
      have hsub : fragmentCount (dSize - S) S = nCount := by
        rw [fragmentCount_sub hS, hcount, Nat.add_sub_cancel]
      obtain ⟨hlength, hrest⟩ := ih (sub_pos.2 hbig) hsub (n + 1) fragment (by rw [hfragment]; rfl)
      refine ⟨by rw [List.length_cons, hlength], fun i f hf => ?_⟩
      cases i with
      | zero =>
        cases hf
        rw [if_pos (by omega), if_pos (by omega), hfragment]
        refine ⟨rfl, rfl, ?_, ?_, ?_⟩
        · rw [← hpacket]
          rfl
        · rw [← hpacket]
          rfl
        · rw [← hpacket]
          rfl
      | succ i =>
        have hf := hrest i f hf
        have hlt : i + 1 + 1 < nCount + 1 ↔ i + 1 < nCount := by omega
        have hsucc : ((nCount + 1 - 1 : Nat) : ℚ) = ((nCount - 1 : Nat) : ℚ) + 1 := by
          exact_mod_cast (by omega : nCount + 1 - 1 = nCount - 1 + 1)
        simp only [hlt, hsucc]
        rw [show dSize - (((nCount - 1 : Nat) : ℚ) + 1) * S = dSize - S - (nCount - 1 : Nat) * S by
          ring, show n + 1 + (i + 1) = n + 1 + 1 + i by omega]
        exact hf

structure AreFragments (nFragmentId : UInt32) (L S : ℚ) (fragments : List Packet) : Prop where
  length : fragments.length = fragmentCount L S
  each : ∀ i f, fragments[i]? = some f →
    IsFragment nFragmentId S
      (if i + 1 < fragmentCount L S then S else L - (fragmentCount L S - 1 : Nat) * S)
      (if i = 0 then .b10 else if i + 1 < fragmentCount L S then .b11 else .b01) (i + 1) f

theorem fragmentPacket_fragments {g_FragmentId : UInt32} {packet : Packet} (hS : 0 < S)
    (hcut : S < packet.networkPacketSize) :
    AreFragments (g_FragmentId + 1) packet.networkPacketSize S
      (fragmentPacket now g_FragmentId packet following S).2 := by
  set L := packet.networkPacketSize with hL
  have hone : 1 < fragmentCount L S := (one_lt_fragmentCount hS).2 hcut
  set first := firstFragment now (g_FragmentId + 1) S (fragmentCount L S) packet with hfirst
  have hlist : (fragmentPacket now g_FragmentId packet following S).2 =
      first :: fragmentLoop now (g_FragmentId + 1) S (fragmentCount L S - 1) (L - S) 1 first := by
    unfold fragmentPacket
    rw [if_neg (not_le.2 hcut)]
    rfl
  obtain ⟨hlength, hrest⟩ := fragmentLoop_fragments now (g_FragmentId + 1) hS
    (fragmentCount L S - 1) (sub_pos.2 hcut) (fragmentCount_sub hS) 1 first rfl
  rw [hlist]
  refine ⟨by rw [List.length_cons, hlength]; omega, fun i f hf => ?_⟩
  cases i with
  | zero =>
    cases hf
    rw [if_pos (by omega), if_pos rfl]
    exact ⟨rfl, rfl, rfl, rfl, rfl⟩
  | succ i =>
    have hf := hrest i f hf
    have hlt : i + 1 + 1 < fragmentCount L S ↔ i + 1 < fragmentCount L S - 1 := by omega
    have hsub : ((fragmentCount L S - 1 : Nat) : ℚ) = ((fragmentCount L S - 1 - 1 : Nat) : ℚ) + 1 := by
      exact_mod_cast (by omega : fragmentCount L S - 1 = fragmentCount L S - 1 - 1 + 1)
    simp only [hlt]
    rw [show L - ((fragmentCount L S - 1 : Nat) : ℚ) * S =
      L - S - ((fragmentCount L S - 1 - 1 : Nat) : ℚ) * S by rw [hsub]; ring,
      show i + 1 + 1 = 1 + 1 + i by omega]
    exact hf

theorem AreFragments.isCut {fragments : List Packet} (h : AreFragments nFragmentId L S fragments)
    (hcount : 0 < fragmentCount L S) : IsCut L S fragments := by
  have hpayloads : fragments.map (fun f => f.mac.dPayload) =
      List.replicate (fragmentCount L S - 1) S ++ [L - (fragmentCount L S - 1 : Nat) * S] := by
    apply List.ext_getElem?
    intro i
    rw [List.getElem?_map, List.getElem?_append, List.length_replicate]
    by_cases hi : i < fragments.length
    · have hat : fragments[i]? = some fragments[i] := List.getElem?_eq_getElem hi
      rw [hat, Option.map_some, (h.each i _ hat).payload]
      rw [h.length] at hi
      by_cases hlast : i + 1 < fragmentCount L S
      · rw [if_pos hlast, if_pos (by omega), List.getElem?_replicate, if_pos (by omega)]
      · rw [if_neg hlast, if_neg (by omega), show i - (fragmentCount L S - 1) = 0 by omega]
        rfl
    · rw [List.getElem?_eq_none (not_lt.1 hi), Option.map_none]
      rw [h.length] at hi
      rw [if_neg (by omega), List.getElem?_eq_none]
      rw [List.length_singleton]
      omega
  refine ⟨h.length, hpayloads, ?_⟩
  rw [hpayloads, List.sum_append, List.sum_replicate, List.sum_singleton, nsmul_eq_mul]
  ring

theorem toBits_eq_iff {w : Nat} {size : ℚ} : toBits w size = ⌊size⌋₊ ↔ ⌊size⌋₊ < 2 ^ w := by
  constructor
  · intro h
    rw [← h]
    exact Nat.mod_lt _ (Nat.two_pow_pos w)
  · exact Nat.mod_eq_of_lt

theorem IsFragment.sizesAgree {FC : B2} {FSN : Nat} {f : Packet}
    (h : IsFragment nFragmentId S S FC FSN f)
    (hbits : ⌊gmhSize + fragmentSize + S⌋₊ < 2 ^ 11) : f.SizesAgree := by
  have hle : ⌊S⌋₊ ≤ ⌊gmhSize + fragmentSize + S⌋₊ :=
    Nat.floor_le_floor (by norm_num [gmhSize, fragmentSize])
  refine ⟨?_, ?_, ?_, fun header hheader => ?_⟩
  · rw [h.macSize, h.overhead, h.payload]
  · rw [h.phyPayload, h.macSize]
  · rw [h.gmh, h.macSize]
    exact toBits_eq_iff.2 hbits
  · rw [h.gmh] at hheader
    cases hheader
    rw [h.payload]
    exact toBits_eq_iff.2 (lt_of_le_of_lt hle hbits)

theorem AreFragments.numbered_iff {fragments : List Packet}
    (h : AreFragments nFragmentId L S fragments) (hcount : 1 < fragmentCount L S) :
    Numbered fragments ↔ fragmentCount L S < 2 ^ 10 := by
  constructor
  · intro hnumbered
    have hlt : fragmentCount L S - 1 < fragments.length := by rw [h.length]; omega
    have hat := List.getElem?_eq_getElem hlt
    obtain ⟨header, hheader, hFSN, _⟩ := hnumbered _ _ hat
    rw [(h.each _ _ hat).gmh] at hheader
    cases hheader
    dsimp only at hFSN
    omega
  · intro hlt i f hf
    have hi : i < fragments.length := by
      by_contra hi
      rw [List.getElem?_eq_none (not_lt.1 hi)] at hf
      cases hf
    have hfragment := h.each i f hf
    rw [h.length] at hi
    have hmod : (i + 1) % 2 ^ 10 = i + 1 := Nat.mod_eq_of_lt (by omega)
    refine ⟨_, by rw [hfragment.gmh], hmod, ?_⟩
    rw [h.length]
    by_cases h0 : i = 0
    · rw [if_pos h0, if_pos h0]
    · rw [if_neg h0, if_neg h0]
      by_cases hlast : i + 1 < fragmentCount L S
      · rw [if_pos hlast, if_neg (by omega)]
      · rw [if_neg hlast, if_pos (by omega)]

theorem wholePacket_right {packet : Packet} (hL : 0 < packet.networkPacketSize)
    (hle : packet.networkPacketSize ≤ S) :
    FragmentsRight packet.networkPacketSize S following (wholePacket now packet :: following) ↔
      ⌊gmhSize + packet.networkPacketSize⌋₊ < 2 ^ 11 := by
  have hS : 0 < S := lt_of_lt_of_le hL hle
  have hcount : fragmentCount packet.networkPacketSize S = 1 := by
    have h := one_lt_fragmentCount (L := packet.networkPacketSize) hS
    have hpos := fragmentCount_pos hL hS
    have hnot : ¬1 < fragmentCount packet.networkPacketSize S := fun hlt => not_lt.2 hle (h.1 hlt)
    omega
  constructor
  · rintro ⟨fragments, hlist, hcut, hsizes, _⟩
    have hlength := hcut.length
    rw [hcount] at hlength
    obtain ⟨f, rfl⟩ := List.length_eq_one_iff.1 hlength
    cases hlist
    exact toBits_eq_iff.1 (hsizes _ (List.mem_singleton_self _)).n_Length
  · intro hbits
    refine ⟨[wholePacket now packet], rfl, ⟨hcount.symm, ?_, ?_⟩, fun f hf => ?_, fun h => ?_⟩
    · rw [hcount]
      simp [wholePacket, Packet.setHeader, Packet.updateSizes, Packet.setMacPayload]
    · simp [wholePacket, Packet.setHeader, Packet.updateSizes, Packet.setMacPayload]
    · rw [List.mem_singleton.1 hf]
      exact ⟨rfl, rfl, toBits_eq_iff.2 hbits, nofun⟩
    · exact absurd h (Nat.lt_irrefl 1)

theorem fragmentPacket_right {g_FragmentId : UInt32} {packet : Packet}
    (hL : 0 < packet.networkPacketSize) (hS : 0 < S) :
    FragmentsRight packet.networkPacketSize S following
        (fragmentPacket now g_FragmentId packet following S).2 ↔
      FragmentOk packet.networkPacketSize S following := by
  by_cases hle : packet.networkPacketSize ≤ S
  · have hlist : (fragmentPacket now g_FragmentId packet following S).2 =
        wholePacket now packet :: following := by
      unfold fragmentPacket
      rw [if_pos hle]
    rw [hlist, wholePacket_right hL hle]
    constructor
    · exact fun h => Or.inl ⟨hle, h⟩
    · rintro (h | h)
      · exact h.2
      · exact absurd h.1 (not_lt.2 hle)
  · have hcut := not_le.1 hle
    have hone := (one_lt_fragmentCount hS).2 hcut
    have hfragments : AreFragments (g_FragmentId + 1) packet.networkPacketSize S
        (fragmentPacket now g_FragmentId packet following S).2 := fragmentPacket_fragments hS hcut
    generalize (fragmentPacket now g_FragmentId packet following S).2 = list at hfragments
    generalize packet.networkPacketSize = L at *
    have hlast : fragmentCount L S - 1 < list.length := by rw [hfragments.length]; omega
    have hat := List.getElem?_eq_getElem hlast
    have hthe := hfragments.each _ _ hat
    rw [if_neg (by omega)] at hthe
    have hfull : fragmentCount L S * S = L ↔ L - (fragmentCount L S - 1 : Nat) * S = S := by
      rw [Nat.cast_pred (by omega)]
      constructor <;> intro h <;> linarith
    constructor
    · rintro ⟨fragments, hlist, hcut', hsizes, hnumbered⟩
      have hnil : following = [] := by
        have hlength := hfragments.length
        rw [hlist, List.length_append, hcut'.length] at hlength
        exact List.length_eq_zero_iff.1 (by omega)
      obtain rfl : list = fragments := by rw [hlist, hnil, List.append_nil]
      have hmem := hsizes _ (List.getElem_mem hlast)
      refine Or.inr ⟨hcut, hnil, hfull.2 ?_, ?_, ?_⟩
      · have hmac := hmem.mac
        rw [hthe.macSize, hthe.overhead, hthe.payload] at hmac
        exact (add_left_cancel hmac).symm
      · have hlength := hmem.n_Length
        rw [hthe.gmh, hthe.macSize] at hlength
        exact toBits_eq_iff.1 hlength
      · exact (hfragments.numbered_iff hone).1 (hnumbered (by rw [hcut'.length]; exact hone))
    · rintro (h | ⟨_, rfl, hsum, hbits, hnumber⟩)
      · exact absurd h.1 hle
      · refine ⟨list, (List.append_nil _).symm, hfragments.isCut (by omega), fun f hf => ?_,
          fun _ => (hfragments.numbered_iff hone).2 hnumber⟩
        obtain ⟨i, hi⟩ := List.mem_iff_getElem?.1 hf
        have hfragment := hfragments.each i f hi
        rw [hfull.1 hsum, ite_self] at hfragment
        exact hfragment.sizesAgree hbits

end

/-! ## What packing is to do -/

/-- A packet that is cut, with the other arguments of `fn_NetSim_CR_FragmentPacket`. -/
structure Source where
  now : ℚ
  g_FragmentId : UInt32
  packet : Packet
  following : List Packet
  dSDUSize : ℚ
  pos : 0 < dSDUSize
  cut : dSDUSize < packet.networkPacketSize

namespace Source

variable (src : Source)

def nFragmentId : UInt32 := src.g_FragmentId + 1

def fragments : List Packet :=
  (fragmentPacket src.now src.g_FragmentId src.packet src.following src.dSDUSize).2

end Source

/-- The packets arrive whole, or as fragments in any interleaving that keeps the order of each
source. -/
structure Arrive (sources : List Source) (arrivals : List Packet) : Prop where
  nodup : (sources.map Source.nFragmentId).Nodup
  each : ∀ src ∈ sources, arrivals.filter (Packet.isOf src.nFragmentId) = src.fragments
  only : ∀ packet ∈ arrivals, ∀ header ∈ packet.gmh.subheader,
    ∃ src ∈ sources, src.nFragmentId = header.nFragmentId

def packAll (pack : List Packet → Packet → Packed) (arrivals : List Packet) : List Packet :=
  arrivals.foldl (fun list packet => (pack list packet).pstruFragmentPacketList) []

/-- Packing is right for a packet that arrives at the fragments `list`, before the packets `later`.
-/
structure PackRight (sources : List Source) (list : List Packet) (packet : Packet)
    (later : List Packet) (packed : Packed) : Prop where
  live : packed.readsFreed = false
  whole : packet.gmh.subheader = none →
    packed.returned = some packet ∧ packed.pstruFragmentPacketList = list
  last : ∀ src ∈ sources, packet.isOf src.nFragmentId = true →
    later.filter (Packet.isOf src.nFragmentId) = [] →
      ∃ p, packed.returned = some p ∧ p.isOf src.nFragmentId = true ∧
        p.mac.dPayload = src.packet.networkPacketSize
  notLast : ∀ src ∈ sources, packet.isOf src.nFragmentId = true →
    later.filter (Packet.isOf src.nFragmentId) ≠ [] → packed.returned = none
  others : ∀ nFragmentId, packet.isOf nFragmentId = false →
    packed.pstruFragmentPacketList.filter (Packet.isOf nFragmentId) =
      list.filter (Packet.isOf nFragmentId)

/-- Packing is right for all arrivals: each packet is returned when its last fragment arrives, and
at no other time. -/
def PacksRight (pack : List Packet → Packet → Packed) (sources : List Source)
    (arrivals : List Packet) : Prop :=
  ∀ earlier packet later, arrivals = earlier ++ packet :: later →
    PackRight sources (packAll pack earlier) packet later (pack (packAll pack earlier) packet)

/-! ## Packing -/

section

variable {frees : Bool} {packet : Packet} {header : FragmentSubHeader} {list : List Packet}
  {nFragmentId : UInt32}

theorem isOf_of_header (hheader : packet.gmh.subheader = some header) :
    packet.isOf nFragmentId = (header.nFragmentId == nFragmentId) := by
  rw [Packet.isOf, hheader, Option.any_some]

theorem isOf_add (stored : Packet) : (stored.add packet).isOf nFragmentId = stored.isOf nFragmentId :=
  rfl

theorem isOf_unique {id id' : UInt32} {p : Packet} (h : p.isOf id = true)
    (h' : p.isOf id' = true) : id = id' := by
  unfold Packet.isOf at h h'
  cases hp : p.gmh.subheader with
  | none =>
    rw [hp] at h
    cases h
  | some header =>
    rw [hp, Option.any_some, beq_iff_eq] at h h'
    exact h.symm.trans h'

theorem packLoop_others (hheader : packet.gmh.subheader = some header)
    (hother : packet.isOf nFragmentId = false) :
    (packLoop frees packet header list).pstruFragmentPacketList.filter (Packet.isOf nFragmentId) =
      list.filter (Packet.isOf nFragmentId) := by
  have hne : ∀ stored : Packet, stored.isOf header.nFragmentId = true →
      stored.isOf nFragmentId = false := by
    intro stored hstored
    rw [Bool.eq_false_iff]
    intro h
    rw [isOf_of_header hheader, ← isOf_unique hstored h] at hother
    exact absurd hother (by simp)
  induction list with
  | nil =>
    rw [packLoop, List.filter_cons_of_neg (by rw [hother]; exact Bool.false_ne_true)]
  | cons stored list ih =>
    rw [packLoop]
    split
    · next hstored =>
      have hstored' := hne stored hstored
      split
      · rw [List.filter_cons_of_neg (by rw [hstored']; exact Bool.false_ne_true)]
      · rw [List.filter_cons_of_neg (by rw [isOf_add, hstored']; exact Bool.false_ne_true),
          List.filter_cons_of_neg (by rw [hstored']; exact Bool.false_ne_true)]
    · simp only [List.filter_cons, ih]

theorem packLoop_first (hlist : list.filter (Packet.isOf header.nFragmentId) = []) :
    packLoop frees packet header list = ⟨list ++ [packet], none, false⟩ := by
  induction list with
  | nil => rfl
  | cons stored list ih =>
    have hstored : ¬stored.isOf header.nFragmentId = true := fun h => by
      rw [List.filter_cons_of_pos h] at hlist
      cases hlist
    rw [List.filter_cons_of_neg hstored] at hlist
    rw [packLoop, if_neg hstored, ih hlist]
    rfl

theorem packLoop_further (frees : Bool) (packet : Packet) (header : FragmentSubHeader)
    {stored : Packet} (hlist : list.filter (Packet.isOf header.nFragmentId) = [stored]) :
    (packLoop frees packet header list).readsFreed = frees ∧
      (packLoop frees packet header list).returned =
        (if header.FC = .b01 then some (stored.add packet) else none) ∧
      (packLoop frees packet header list).pstruFragmentPacketList.filter
          (Packet.isOf header.nFragmentId) =
        if header.FC = .b01 then [] else [stored.add packet] := by
  induction list with
  | nil => cases hlist
  | cons p list ih =>
    rw [packLoop]
    by_cases hp : p.isOf header.nFragmentId = true
    · rw [List.filter_cons_of_pos hp] at hlist
      obtain ⟨rfl, hrest⟩ := List.cons.inj hlist
      rw [if_pos hp]
      split
      · exact ⟨rfl, rfl, hrest⟩
      · refine ⟨rfl, rfl, ?_⟩
        rw [List.filter_cons_of_pos (by rw [isOf_add]; exact hp), hrest]
    · rw [List.filter_cons_of_neg hp] at hlist
      obtain ⟨hfreed, hreturned, hfilter⟩ := ih hlist
      rw [if_neg hp]
      refine ⟨hfreed, hreturned, ?_⟩
      rw [List.filter_cons_of_neg hp]
      exact hfilter

/-! ## The fragments of a source -/

namespace Source

variable (src : Source)

theorem areFragments :
    AreFragments src.nFragmentId src.packet.networkPacketSize src.dSDUSize src.fragments :=
  fragmentPacket_fragments src.pos src.cut

theorem one_lt_count : 1 < fragmentCount src.packet.networkPacketSize src.dSDUSize :=
  (one_lt_fragmentCount src.pos).2 src.cut

theorem sum_payloads :
    (src.fragments.map fun f => f.mac.dPayload).sum = src.packet.networkPacketSize :=
  (src.areFragments.isCut (by have := src.one_lt_count; omega)).sum

theorem fragment_header {earlier later : List Packet} {f : Packet}
    (h : src.fragments = earlier ++ f :: later) :
    ∃ header, f.gmh.subheader = some header ∧ header.nFragmentId = src.nFragmentId ∧
      (header.FC = .b01 ↔ later = []) := by
  have hat : src.fragments[earlier.length]? = some f := by simp [h]
  have hfragment := src.areFragments.each _ _ hat
  have hlength := src.areFragments.length
  rw [h, List.length_append, List.length_cons] at hlength
  refine ⟨_, by rw [hfragment.gmh], rfl, ?_⟩
  have hone := src.one_lt_count
  rw [← List.length_eq_zero_iff]
  by_cases h0 : earlier.length = 0
  · rw [if_pos h0]
    exact ⟨nofun, fun hlater => by omega⟩
  · rw [if_neg h0]
    by_cases hlast : earlier.length + 1 < fragmentCount src.packet.networkPacketSize src.dSDUSize
    · rw [if_pos hlast]
      exact ⟨nofun, fun hlater => by omega⟩
    · rw [if_neg hlast]
      exact ⟨fun _ => by omega, fun _ => rfl⟩

/-- What the list of fragments holds of a source: between its first and last fragment one packet
with the payloads that have arrived. -/
structure Stored (received remaining stored : List Packet) : Prop where
  all : src.fragments = received ++ remaining
  none : received = [] ∨ remaining = [] → stored = []
  some : received ≠ [] → remaining ≠ [] → ∃ q : Packet, stored = [q] ∧
    q.isOf src.nFragmentId = true ∧ q.mac.dPayload = (received.map fun f => f.mac.dPayload).sum

end Source

structure Arrived (frees : Bool) (src : Source) (received : List Packet) (later : List Packet)
    (packed : Packed) : Prop where
  stored : src.Stored received later
    (packed.pstruFragmentPacketList.filter (Packet.isOf src.nFragmentId))
  freed : packed.readsFreed = (frees && decide (1 < received.length))
  last : later = [] → ∃ p, packed.returned = some p ∧ p.isOf src.nFragmentId = true ∧
    p.mac.dPayload = src.packet.networkPacketSize
  notLast : later ≠ [] → packed.returned = none

theorem Source.Stored.arrived {src : Source} {received later : List Packet}
    (h : src.Stored received (packet :: later) (list.filter (Packet.isOf src.nFragmentId))) :
    Arrived frees src (received ++ [packet]) later (packPacket frees list packet) := by
  obtain ⟨header, hheader, hid, hlast⟩ := src.fragment_header h.all
  have hall : src.fragments = received ++ [packet] ++ later := by
    rw [h.all, List.append_assoc, List.singleton_append]
  have hne : received ++ [packet] ≠ [] := List.append_ne_nil_of_right_ne_nil _ (List.cons_ne_nil _ _)
  have hof : packet.isOf src.nFragmentId = true := by
    rw [isOf_of_header hheader, hid]
    exact beq_self_eq_true _
  have hpack : packPacket frees list packet = packLoop frees packet header list := by
    rw [packPacket, hheader]
  rw [hpack]
  by_cases hfirst : received = []
  · subst hfirst
    have hlater : later ≠ [] := by
      rintro rfl
      have hlength := src.areFragments.length
      have hone := src.one_lt_count
      rw [hall] at hlength
      simp only [List.nil_append, List.append_nil, List.length_singleton] at hlength
      omega
    have hempty := h.none (Or.inl rfl)
    rw [packLoop_first (by rw [hid]; exact hempty)]
    refine ⟨⟨hall, ?_, fun _ _ => ⟨packet, ?_, hof, ?_⟩⟩, ?_, fun h => absurd h hlater, fun _ => rfl⟩
    · rintro (h | h)
      · exact absurd h hne
      · exact absurd h hlater
    · rw [List.filter_append, hempty, List.nil_append, List.filter_cons_of_pos hof, List.filter_nil]
    · simp
    · simp
  · obtain ⟨q, hq, hqof, hqpayload⟩ := h.some hfirst (List.cons_ne_nil _ _)
    obtain ⟨hfreed, hreturned, hfilter⟩ :=
      packLoop_further frees packet header (by rw [hid]; exact hq)
    rw [hid] at hfilter
    have hpayload : (q.add packet).mac.dPayload =
        ((received ++ [packet]).map fun f => f.mac.dPayload).sum := by
      rw [List.map_append, List.sum_append, ← hqpayload, List.map_singleton, List.sum_singleton]
      rfl
    refine ⟨⟨hall, ?_, fun _ hlater => ⟨q.add packet, ?_, hqof, hpayload⟩⟩, ?_, fun hnil => ?_,
      fun hlater => ?_⟩
    · rintro (h | h)
      · exact absurd h hne
      · rw [hfilter, if_pos (hlast.2 h)]
    · rw [hfilter, if_neg fun h => hlater (hlast.1 h)]
    · have hlength := List.length_pos_iff.2 hfirst
      rw [hfreed, List.length_append, List.length_singleton, decide_eq_true (by omega), Bool.and_true]
    · refine ⟨q.add packet, by rw [hreturned, if_pos (hlast.2 hnil)], hqof, ?_⟩
      rw [hpayload, ← src.sum_payloads, hall, hnil, List.append_nil]
    · rw [hreturned, if_neg fun h => hlater (hlast.1 h)]

/-! ## Arrivals -/

variable {sources : List Source} {arrivals : List Packet} {src : Source}

theorem packPacket_others {id : UInt32} (hother : packet.isOf id = false) :
    (packPacket frees list packet).pstruFragmentPacketList.filter (Packet.isOf id) =
      list.filter (Packet.isOf id) := by
  unfold packPacket
  split
  · rfl
  · next header hheader => exact packLoop_others hheader hother

theorem packAll_concat (pack : List Packet → Packet → Packed) (earlier : List Packet)
    (packet : Packet) : packAll pack (earlier ++ [packet]) =
      (pack (packAll pack earlier) packet).pstruFragmentPacketList := by
  rw [packAll, packAll, List.foldl_append]
  rfl

theorem packAll_stored (frees : Bool) (harrive : Arrive sources arrivals) (hsrc : src ∈ sources)
    (earlier : List Packet) :
    ∀ later, arrivals = earlier ++ later →
      src.Stored (earlier.filter (Packet.isOf src.nFragmentId))
        (later.filter (Packet.isOf src.nFragmentId))
        ((packAll (packPacket frees) earlier).filter (Packet.isOf src.nFragmentId)) := by
  induction earlier using List.reverseRecOn with
  | nil =>
    rintro later rfl
    exact ⟨(harrive.each src hsrc).symm, fun _ => rfl, fun h => absurd rfl h⟩
  | append_singleton earlier packet ih =>
    rintro later harrivals
    have h := ih (packet :: later) (by rw [harrivals, List.append_assoc, List.singleton_append])
    rw [packAll_concat, List.filter_append]
    by_cases hof : packet.isOf src.nFragmentId = true
    · rw [List.filter_cons_of_pos hof] at h
      rw [List.filter_cons_of_pos hof, List.filter_nil]
      exact h.arrived.stored
    · rw [List.filter_cons_of_neg hof] at h
      rw [List.filter_cons_of_neg hof, List.filter_nil, List.append_nil,
        packPacket_others ((Bool.not_eq_true _).mp hof)]
      exact h

theorem packAll_arrived (harrive : Arrive sources arrivals) (hsrc : src ∈ sources)
    {earlier later : List Packet} (harrivals : arrivals = earlier ++ packet :: later)
    (hof : packet.isOf src.nFragmentId = true) :
    Arrived frees src (earlier.filter (Packet.isOf src.nFragmentId) ++ [packet])
      (later.filter (Packet.isOf src.nFragmentId))
      (packPacket frees (packAll (packPacket frees) earlier) packet) := by
  have h := packAll_stored frees harrive hsrc earlier (packet :: later) harrivals
  rw [List.filter_cons_of_pos hof] at h
  exact h.arrived

theorem packRight (frees : Bool) (harrive : Arrive sources arrivals) {earlier later : List Packet}
    (harrivals : arrivals = earlier ++ packet :: later)
    (hlive : (packPacket frees (packAll (packPacket frees) earlier) packet).readsFreed = false) :
    PackRight sources (packAll (packPacket frees) earlier) packet later
      (packPacket frees (packAll (packPacket frees) earlier) packet) where
  live := hlive
  whole := fun hwhole => by
    rw [packPacket, hwhole]
    exact ⟨rfl, rfl⟩
  last := fun _ hsrc hof => (packAll_arrived harrive hsrc harrivals hof).last
  notLast := fun _ hsrc hof => (packAll_arrived harrive hsrc harrivals hof).notLast
  others := fun _ hother => packPacket_others hother

theorem cpePackPacket_right (harrive : Arrive sources arrivals) :
    PacksRight cpePackPacket sources arrivals := by
  intro earlier packet later harrivals
  refine packRight false harrive harrivals ?_
  cases hheader : packet.gmh.subheader with
  | none =>
    rw [packPacket, hheader]
  | some header =>
    have hmem : packet ∈ arrivals := by
      rw [harrivals]
      exact List.mem_append_right _ List.mem_cons_self
    obtain ⟨src, hsrc, hid⟩ := harrive.only packet hmem header hheader
    have hof : packet.isOf src.nFragmentId = true := by
      rw [isOf_of_header hheader, hid]
      exact beq_self_eq_true _
    exact (packAll_arrived harrive hsrc harrivals hof).freed

theorem exists_second {p : Packet → Bool} {f1 f2 : Packet} {rest : List Packet} :
    ∀ {l : List Packet}, l.filter p = f1 :: f2 :: rest →
      ∃ earlier later, l = earlier ++ f2 :: later ∧ earlier.filter p = [f1] ∧ p f2 = true := by
  intro l h
  obtain ⟨l1, l2, rfl, hl1, hf1, hl2⟩ := List.filter_eq_cons_iff.1 h
  obtain ⟨l3, l4, rfl, hl3, hf2, _⟩ := List.filter_eq_cons_iff.1 hl2
  refine ⟨l1 ++ f1 :: l3, l4, by simp, ?_, hf2⟩
  rw [List.filter_append, List.filter_eq_nil_iff.2 hl1, List.filter_cons_of_pos hf1,
    List.filter_eq_nil_iff.2 hl3, List.nil_append]

theorem bsPackPacket_right (harrive : Arrive sources arrivals) :
    PacksRight bsPackPacket sources arrivals ↔ sources = [] := by
  constructor
  · intro hright
    by_contra hne
    obtain ⟨src, hsrc⟩ := List.exists_mem_of_ne_nil _ hne
    have hlength := src.areFragments.length
    have hone := src.one_lt_count
    cases hfragments : src.fragments with
    | nil =>
      rw [hfragments, List.length_nil] at hlength
      omega
    | cons f1 fragments =>
      cases fragments with
      | nil =>
        rw [hfragments, List.length_singleton] at hlength
        omega
      | cons f2 rest =>
        -- the second fragment finds the first one in the list
        obtain ⟨earlier, later, harrivals, hfirst, hof⟩ :=
          exists_second ((harrive.each src hsrc).trans hfragments)
        have harrived : Arrived true src _ _ _ := packAll_arrived harrive hsrc harrivals hof
        have hfreed := harrived.freed
        rw [hfirst] at hfreed
        have hlive := (hright earlier f2 later harrivals).live
        exact Bool.false_ne_true (hlive.symm.trans hfreed)
  · rintro rfl earlier packet later harrivals
    refine packRight true harrive harrivals ?_
    cases hheader : packet.gmh.subheader with
    | none => rw [packPacket, hheader]
    | some header =>
      have hmem : packet ∈ arrivals := by
        rw [harrivals]
        exact List.mem_append_right _ List.mem_cons_self
      obtain ⟨src, hsrc, _⟩ := harrive.only packet hmem header hheader
      cases hsrc

/-- The fragments are right exactly if they are full ones that fit or none; the CPE packs right, and
the base station only what is not cut. -/
theorem packet_roundTrip (now : ℚ) (g_FragmentId : UInt32) (following : List Packet) {dSDUSize : ℚ}
    (hL : 0 < packet.networkPacketSize) (hS : 0 < dSDUSize) (harrive : Arrive sources arrivals) :
    (FragmentsRight packet.networkPacketSize dSDUSize following
        (fragmentPacket now g_FragmentId packet following dSDUSize).2 ↔
      FragmentOk packet.networkPacketSize dSDUSize following) ∧
    PacksRight cpePackPacket sources arrivals ∧
    (PacksRight bsPackPacket sources arrivals ↔ sources = []) :=
  ⟨fragmentPacket_right hL hS, cpePackPacket_right harrive, bsPackPacket_right harrive⟩

end

/-! ## Examples -/

def examplePacket (networkPacketSize : ℚ) : Packet :=
  ⟨networkPacketSize, none, ⟨0, 0, 0, 0, 0⟩, ⟨0, 0, 0, 0, 0⟩, ⟨0, none⟩⟩

def exampleSource : Source where
  now := 0
  g_FragmentId := 0
  packet := examplePacket 600
  following := []
  dSDUSize := 255
  pos := by norm_num
  cut := by norm_num [examplePacket]

theorem exampleSource_arrive : Arrive [exampleSource] exampleSource.fragments where
  nodup := by simp
  each := by decide +kernel
  only := by decide +kernel

/-- A packet of two full fragments is cut right, and the CPE packs one of three fragments. -/
theorem roundTrip_cpe :
    FragmentsRight 510 255 [] (fragmentPacket 0 0 (examplePacket 510) [] 255).2 ∧
      PacksRight cpePackPacket [exampleSource] exampleSource.fragments := by
  have hpos : 0 < (examplePacket 510).networkPacketSize := by norm_num [examplePacket]
  have h := packet_roundTrip 0 0 [] hpos (by norm_num : (0 : ℚ) < 255) exampleSource_arrive
  refine ⟨h.1.2 (Or.inr ?_), h.2.1⟩
  decide +kernel

/-- The last fragment of 600 bytes has the sizes of a full one, and the base station reads the
header of a freed fragment. -/
theorem not_roundTrip :
    (¬∀ (now : ℚ) (g_FragmentId : UInt32) (packet : Packet) (following : List Packet) (S : ℚ),
      0 < packet.networkPacketSize → 0 < S →
        FragmentsRight packet.networkPacketSize S following
          (fragmentPacket now g_FragmentId packet following S).2) ∧
    ¬∀ (sources : List Source) (arrivals : List Packet), Arrive sources arrivals →
      PacksRight bsPackPacket sources arrivals := by
  constructor
  · intro hclaim
    have hpos : 0 < (examplePacket 600).networkPacketSize := by norm_num [examplePacket]
    have hok := (fragmentPacket_right hpos (by norm_num)).1
      (hclaim 0 0 (examplePacket 600) [] 255 hpos (by norm_num))
    have hnot : ¬FragmentOk 600 255 [] := by
      unfold FragmentOk
      decide +kernel
    exact hnot hok
  · intro hclaim
    exact List.cons_ne_nil _ _
      ((bsPackPacket_right exampleSource_arrive).1 (hclaim _ _ exampleSource_arrive))

end NetSim.CognitiveRadio
