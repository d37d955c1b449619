import NetSim.Rlc.Segments
import NetSim.Rlc.Unacknowledged

/-!
# What a UM entity sends (`LTENR_RLC_UM.c`)

As long as no SDU is cut while one of another channel is half sent, the PDUs are the segments of the
SDUs, each SDU with an SN of its own, and those sent whole.
-/

namespace NetSim.Rlc

open NetSim.Lib NetSim.Tcp

def AmdPdu.umd (p : AmdPdu) : UmdPdu := ⟨p.si, p.SN, p.SO, p.nPacketId, p.dPayload⟩

structure UmSdu where
  nPacketId : Nat
  SN : Nat
  segments : List Nat
  two_le : 2 ≤ segments.length
deriving DecidableEq

def UmSdu.pdus (g : UmSdu) : List UmdPdu :=
  (segmentsOf g.nPacketId g.SN g.segments false).map AmdPdu.umd

def UmSdu.delivery (g : UmSdu) : UmDelivery := ⟨g.nPacketId, g.segments.sum⟩

def UmDelivery.pdu (d : UmDelivery) : UmdPdu := ⟨.all, 0, 0, d.nPacketId, d.dPayload⟩

def handed (tr : List (UmTransmitter × UmEvent)) : List UmDelivery :=
  tr.filterMap fun x => match x.2 with
    | .upper _ _ nPacketId dPayload => some ⟨nPacketId, dPayload⟩
    | .grant _ _ => none

namespace UmTransmitter

def isHalfSent (b : UmBuffer) : Bool := b.hdr.isSome

/-- The loop of `LTENR_RLC_UM_SEND_PDU` comes to a packet that it cuts. -/
def cuts (channel : LogicalChannel) : Nat → List UmBuffer → Bool
  | _, [] => false
  | left, b :: l =>
    if b.channel ≠ channel then cuts channel left l
    else if left < minRlcPduSize then false
    else if isCut left b then true
    else cuts channel (sub32 left b.dPayload) l

variable {s s' : UmTransmitter}

theorem sendPdus_rule (channel : LogicalChannel) {P Q : UmTransmitter → Prop}
    (hlast : ∀ (s : UmTransmitter) pre b post, P { s with transmissionBuffer := pre ++ b :: post } →
      b.channel = channel → (∀ c ∈ pre, c.channel ≠ channel) →
      P { s.sendLast b with transmissionBuffer := pre ++ post })
    (hcut : ∀ (s : UmTransmitter) left pre b post,
      P { s with transmissionBuffer := pre ++ b :: post } →
      b.channel = channel → (∀ c ∈ pre, c.channel ≠ channel) → isCut left b = true →
      Q { s with
        mac := s.mac ++ [(b.fragment left s.TX_Next).1]
        transmissionBuffer := pre ++ (b.fragment left s.TX_Next).2 :: post }) :
    ∀ l (s : UmTransmitter) left pre, P { s with transmissionBuffer := pre ++ l } →
      (∀ c ∈ pre, c.channel ≠ channel) →
      (cuts channel left l = true → Q { (sendPdus channel s left l).1 with
          transmissionBuffer := pre ++ (sendPdus channel s left l).2 }) ∧
      (cuts channel left l = false → P { (sendPdus channel s left l).1 with
          transmissionBuffer := pre ++ (sendPdus channel s left l).2 }) := by
  intro l
  induction l with
  | nil => exact fun s left pre h _ => ⟨nofun, fun _ => h⟩
  | cons b l ih =>
    intro s left pre h hpre
    unfold sendPdus cuts
    by_cases hchannel : b.channel = channel
    · simp only [hchannel, ne_eq, not_true_eq_false, if_false]
      by_cases hleft : left < minRlcPduSize
      · simp only [hleft, if_true]
        exact ⟨nofun, fun _ => h⟩
      · simp only [hleft, if_false]
        by_cases hb : isCut left b = true
        · simp only [hb, if_true]
          exact ⟨fun _ => hcut s left pre b l h hchannel hpre hb, nofun⟩
        · simp only [hb]
          exact ih (s.sendLast b) (sub32 left b.dPayload) pre (hlast s pre b l h hchannel hpre) hpre
    · simp only [ne_eq, hchannel, not_false_eq_true, if_true]
      have hstep := ih s left (pre ++ [b]) (by
        rw [List.append_assoc]
        exact h) (by
        intro c hc
        rcases List.mem_append.1 hc with hc | hc
        · exact hpre c hc
        · rw [List.mem_singleton.1 hc]
          exact hchannel)
      simp only [List.append_assoc, List.singleton_append] at hstep
      exact hstep

def whole (cut : List Nat) (b : UmBuffer) : UmDelivery :=
  ⟨b.nPacketId, if isHalfSent b then cut.sum + b.dPayload else b.dPayload⟩

/-- The SDUs `alls` have been sent whole and `sdus` in segments; `cut` are the payloads sent of the
one half sent. -/
structure Sending (given : List UmDelivery) (alls : List UmDelivery) (sdus : List UmSdu)
    (cut : List Nat) (nPacketId : Nat) (s : UmTransmitter) : Prop where
  uplane : ∀ b ∈ s.transmissionBuffer, b.isUplane = true
  next : s.TX_Next = sdus.length
  sns_lt : ∀ g ∈ sdus, g.SN < s.TX_Next
  sns : (sdus.map UmSdu.SN).Nodup
  mac : s.mac.Perm (alls.map UmDelivery.pdu ++ (sdus.flatMap UmSdu.pdus ++
    (segmentsOf nPacketId s.TX_Next cut true).map AmdPdu.umd))
  given : given.Perm (alls ++ (sdus.map UmSdu.delivery ++ s.transmissionBuffer.map (whole cut)))
  half : (s.transmissionBuffer.filter isHalfSent).length = if cut = [] then 0 else 1
  hdr : ∀ b ∈ s.transmissionBuffer, isHalfSent b = true →
    b.hdr = some (s.TX_Next, u16 cut.length) ∧ b.nPacketId = nPacketId
  first : s.transmissionBuffer.Pairwise fun a b => isHalfSent b = true → a.channel ≠ b.channel

variable {given alls : List UmDelivery} {sdus : List UmSdu} {cut : List Nat} {nPacketId : Nat}

theorem Sending.next_le (h : Sending given alls sdus cut nPacketId s) :
    s.TX_Next ≤ given.length := by
  have hlength := h.given.length_eq
  rw [List.length_append, List.length_append, List.length_map] at hlength
  rw [h.next]
  omega

variable {pre post : List UmBuffer} {b : UmBuffer}

theorem Sending.others (h : Sending given alls sdus cut nPacketId s)
    (hlist : s.transmissionBuffer = pre ++ b :: post) (hb : isHalfSent b = true) :
    cut ≠ [] ∧ (∀ c ∈ pre, isHalfSent c = false) ∧ ∀ c ∈ post, isHalfSent c = false := by
  have hhalf := h.half
  rw [hlist, List.filter_append, List.filter_cons_of_pos hb, List.length_append,
    List.length_cons] at hhalf
  have hcut : cut ≠ [] := by
    rintro rfl
    rw [if_pos rfl] at hhalf
    omega
  rw [if_neg hcut] at hhalf
  have hpre : pre.filter isHalfSent = [] := List.length_eq_zero_iff.1 (by omega)
  have hpost : post.filter isHalfSent = [] := List.length_eq_zero_iff.1 (by omega)
  rw [List.filter_eq_nil_iff] at hpre hpost
  exact ⟨hcut, fun c hc => by simpa using hpre c hc, fun c hc => by simpa using hpost c hc⟩

theorem map_whole {l : List UmBuffer} (h : ∀ b ∈ l, isHalfSent b = false) (cut cut' : List Nat) :
    l.map (whole cut') = l.map (whole cut) := by
  apply List.map_congr_left
  intro b hb
  unfold whole
  rw [h b hb]
  rfl

theorem SN_addHdr {sn so : Nat} (hhdr : b.hdr = some (sn, so))
    (hlt : sn + 1 < 2 ^ 32) : b.addHdr.2 ≠ -1 := by
  unfold UmBuffer.addHdr
  rw [hhdr]
  dsimp only
  split <;> omega

theorem Sending.sendLast
    (h : Sending given alls sdus cut nPacketId
      { s with transmissionBuffer := pre ++ b :: post })
    (hlt : given.length + 1 < 2 ^ 32) :
    ∃ alls' sdus' cut', Sending given alls' sdus' cut' nPacketId
      { s.sendLast b with transmissionBuffer := pre ++ post } := by
  have hsub : ∀ c ∈ pre ++ post, c ∈ pre ++ b :: post := by
    intro c hc
    simp only [List.mem_append, List.mem_cons] at hc ⊢
    tauto
  have hsublist : (pre ++ post).Sublist (pre ++ b :: post) :=
    (List.sublist_cons_self b post).append_left pre
  have hnext : s.TX_Next + 1 < 2 ^ 32 := by
    have := h.next_le
    dsimp only at this
    omega
  have hmac := h.mac
  have hgiven := h.given
  have hhalf := h.half
  rw [List.perm_iff_count] at hmac hgiven
  cases hhdr : b.hdr with
  | none =>
    have hb : isHalfSent b = false := by rw [isHalfSent, hhdr]; rfl
    have hadd : b.addHdr = (UmDelivery.pdu ⟨b.nPacketId, b.dPayload⟩, -1) := by
      unfold UmBuffer.addHdr
      rw [hhdr]
      rfl
    have hsend : s.sendLast b =
        { s with mac := s.mac ++ [UmDelivery.pdu ⟨b.nPacketId, b.dPayload⟩] } := by
      unfold UmTransmitter.sendLast
      rw [hadd]
      rfl
    have hwhole : whole cut b = ⟨b.nPacketId, b.dPayload⟩ := by
      unfold whole
      rw [hb]
      rfl
    rw [hsend]
    refine ⟨⟨b.nPacketId, b.dPayload⟩ :: alls, sdus, cut, fun c hc => h.uplane c (hsub c hc),
      h.next, h.sns_lt, h.sns, ?_, ?_, ?_, fun c hc => h.hdr c (hsub c hc),
      h.first.sublist hsublist⟩
    · rw [List.perm_iff_count]
      intro p
      have hp := hmac p
      simp only [List.map_cons, List.count_append, List.count_cons, List.count_nil] at hp ⊢
      omega
    · rw [List.perm_iff_count]
      intro d
      have hd := hgiven d
      rw [← hwhole]
      simp only [List.map_append, List.map_cons, List.count_append, List.count_cons] at hd ⊢
      omega
    · rw [List.filter_append, List.filter_cons_of_neg (by simp [hb])] at hhalf
      rw [List.filter_append]
      exact hhalf
  | some hdr =>
    have hb : isHalfSent b = true := by rw [isHalfSent, hhdr]; rfl
    obtain ⟨hhdr', hid⟩ := h.hdr b (by simp) hb
    obtain ⟨hcut, hpre, hpost⟩ := h.others rfl hb
    have hrest : ∀ c ∈ pre ++ post, isHalfSent c = false := by
      intro c hc
      rcases List.mem_append.1 hc with hc | hc
      · exact hpre c hc
      · exact hpost c hc
    have htwo : 2 ≤ (cut ++ [b.dPayload]).length := by
      have := List.length_pos_iff.2 hcut
      rw [List.length_append, List.length_singleton]
      omega
    have hlast : b.addHdr.1 =
        (segmentAt nPacketId s.TX_Next (cut ++ [b.dPayload]) false cut.length).umd := by
      rw [segmentAt_last, if_neg hcut]
      unfold UmBuffer.addHdr
      rw [hhdr', ← hid]
      rfl
    have hsend : s.sendLast b = { s with
        TX_Next := s.TX_Next + 1
        mac := s.mac ++
          [(segmentAt nPacketId s.TX_Next (cut ++ [b.dPayload]) false cut.length).umd] } := by
      unfold UmTransmitter.sendLast
      dsimp only
      rw [if_neg (SN_addHdr hhdr' hnext), u32_of_lt hnext, hlast]
    have hwhole : whole cut b = UmSdu.delivery ⟨nPacketId, s.TX_Next, cut ++ [b.dPayload], htwo⟩ := by
      unfold whole UmSdu.delivery
      rw [hb, hid, if_pos rfl, List.sum_append, List.sum_singleton]
    have hpdus : UmSdu.pdus ⟨nPacketId, s.TX_Next, cut ++ [b.dPayload], htwo⟩ =
        (segmentsOf nPacketId s.TX_Next cut true).map AmdPdu.umd ++
          [(segmentAt nPacketId s.TX_Next (cut ++ [b.dPayload]) false cut.length).umd] := by
      unfold UmSdu.pdus
      rw [segmentsOf_append, List.map_append, List.map_singleton]
    rw [hsend]
    refine ⟨alls, ⟨nPacketId, s.TX_Next, cut ++ [b.dPayload], htwo⟩ :: sdus, [],
      fun c hc => h.uplane c (hsub c hc), ?_, ?_, ?_, ?_, ?_, ?_, ?_, h.first.sublist hsublist⟩
    · have := h.next
      rw [List.length_cons, this]
    · intro g hg
      rcases List.mem_cons.1 hg with rfl | hg
      · exact Nat.lt_succ_self _
      · exact Nat.lt_succ_of_lt (h.sns_lt g hg)
    · rw [List.map_cons, List.nodup_cons]
      refine ⟨fun hmem => ?_, h.sns⟩
      obtain ⟨g, hg, hsn⟩ := List.mem_map.1 hmem
      have hglt := h.sns_lt g hg
      dsimp only at hglt hsn
      omega
    · rw [List.perm_iff_count]
      intro p
      have hp := hmac p
      have hnil : segmentsOf nPacketId (s.TX_Next + 1) [] true = [] := rfl
      rw [List.flatMap_cons, hpdus, hnil]
      simp only [List.map_nil, List.count_append, List.count_cons, List.count_nil] at hp ⊢
      omega
    · rw [List.perm_iff_count]
      intro d
      have hd := hgiven d
      rw [map_whole hrest cut]
      rw [List.map_append, List.map_cons, hwhole] at hd
      simp only [List.map_append, List.map_cons, List.count_append, List.count_cons] at hd ⊢
      omega
    · rw [if_pos rfl, List.length_eq_zero_iff, List.filter_eq_nil_iff]
      intro c hc
      simpa using hrest c hc
    · intro c hc hhalf
      rw [hrest c hc] at hhalf
      cases hhalf

theorem Sending.cutSegment {left : Nat}
    (h : Sending given alls sdus cut nPacketId
      { s with transmissionBuffer := pre ++ b :: post })
    (hpre : ∀ c ∈ pre, c.channel ≠ b.channel)
    (hsolo : ∀ c ∈ pre ++ b :: post, isHalfSent c = true → c.channel = b.channel)
    (hcut : isCut left b = true) :
    ∃ cut', Sending given alls sdus cut' b.nPacketId { s with
      mac := s.mac ++ [(b.fragment left s.TX_Next).1]
      transmissionBuffer := pre ++ (b.fragment left s.TX_Next).2 :: post } := by
  simp only [isCut, Bool.and_eq_true, decide_eq_true_eq] at hcut
  obtain ⟨huplane, hleft⟩ := hcut
  have hfirst := h.first
  rw [List.pairwise_append, List.pairwise_cons] at hfirst
  obtain ⟨hfirstPre, ⟨hfirstB, hfirstPost⟩, hfirstAcross⟩ := hfirst
  have hfilter := h.half
  -- the packet is the half-sent one, or there is none
  have hstart : (isHalfSent b = true ↔ cut ≠ []) ∧ (cut = [] ∨ nPacketId = b.nPacketId) ∧
      (∀ c ∈ pre ++ post, isHalfSent c = false) ∧ b.fragment left s.TX_Next =
        ((segmentAt b.nPacketId s.TX_Next (cut ++ [left]) true cut.length).umd,
          { b with
            dPayload := b.dPayload - left
            hdr := some (s.TX_Next, u16 (cut.length + 1)) }) := by
    rw [segmentAt_cut]
    cases hhdr : b.hdr with
    | none =>
      have hb : isHalfSent b = false := by rw [isHalfSent, hhdr]; rfl
      have hnone : ∀ c ∈ pre ++ b :: post, isHalfSent c = false := by
        intro c hc
        by_contra hhalf
        rw [Bool.not_eq_false] at hhalf
        have hchannel := hsolo c hc hhalf
        rcases List.mem_append.1 hc with hc | hc
        · exact hpre c hc hchannel
        · rcases List.mem_cons.1 hc with rfl | hc
          · rw [hb] at hhalf
            cases hhalf
          · exact hfirstB c hc hhalf hchannel.symm
      have hnil : cut = [] := by
        by_contra hne
        rw [if_neg hne, List.filter_eq_nil_iff.2 fun c hc => by simp [hnone c hc]] at hfilter
        cases hfilter
      subst hnil
      refine ⟨by simp [hb], .inl rfl, ?_, ?_⟩
      · intro c hc
        apply hnone
        simp only [List.mem_append, List.mem_cons] at hc ⊢
        tauto
      · unfold UmBuffer.fragment
        rw [hhdr]
        rfl
    | some hdr =>
      have hb : isHalfSent b = true := by rw [isHalfSent, hhdr]; rfl
      obtain ⟨hne, hothers, hothers'⟩ := h.others rfl hb
      obtain ⟨hhdr', hid⟩ := h.hdr b (by simp) hb
      rw [hhdr, Option.some.injEq] at hhdr'
      refine ⟨by simp [hb, hne], .inr hid.symm, ?_, ?_⟩
      · intro c hc
        rcases List.mem_append.1 hc with hc | hc
        · exact hothers c hc
        · exact hothers' c hc
      · have hso : u16 (u16 cut.length + 1) = u16 (cut.length + 1) := by
          unfold u16
          omega
        unfold UmBuffer.fragment
        rw [hhdr, hhdr']
        dsimp only
        rw [hso, if_neg hne]
        rfl
  obtain ⟨hb, hid, hothers, hfragment⟩ := hstart
  have hsegments : segmentsOf nPacketId s.TX_Next cut true =
      segmentsOf b.nPacketId s.TX_Next cut true := by
    rcases hid with rfl | rfl <;> rfl
  have hwhole : whole cut b = ⟨b.nPacketId, cut.sum + b.dPayload⟩ := by
    unfold whole
    by_cases hne : cut = []
    · rw [hne, List.sum_nil, Nat.zero_add, ite_self]
    · rw [if_pos (hb.2 hne)]
  have hothersPre : ∀ c ∈ pre, isHalfSent c = false :=
    fun c hc => hothers c (List.mem_append_left _ hc)
  have hothersPost : ∀ c ∈ post, isHalfSent c = false :=
    fun c hc => hothers c (List.mem_append_right _ hc)
  have hmac := h.mac
  have hgiven := h.given
  rw [List.perm_iff_count] at hmac hgiven
  rw [hfragment]
  refine ⟨cut ++ [left], ?_, h.next, h.sns_lt, h.sns, ?_, ?_, ?_, ?_, ?_⟩
  · intro c hc
    simp only [List.mem_append, List.mem_cons] at hc
    rcases hc with hc | rfl | hc
    · exact h.uplane c (List.mem_append_left _ hc)
    · exact huplane
    · exact h.uplane c (by simp [hc])
  · rw [List.perm_iff_count]
    intro p
    have hp := hmac p
    rw [segmentsOf_append, List.map_append, List.map_singleton]
    rw [hsegments] at hp
    simp only [List.count_append, List.count_cons, List.count_nil] at hp ⊢
    omega
  · rw [List.perm_iff_count]
    intro d
    have hd := hgiven d
    have hnew : whole (cut ++ [left]) { b with
        dPayload := b.dPayload - left
        hdr := some (s.TX_Next, u16 (cut.length + 1)) } = whole cut b := by
      rw [hwhole]
      unfold whole isHalfSent
      simp only [Option.isSome_some, if_true, List.sum_append, List.sum_singleton,
        UmDelivery.mk.injEq, true_and]
      omega
    rw [List.map_append, List.map_cons, map_whole hothersPre cut, map_whole hothersPost cut, hnew,
      ← List.map_cons, ← List.map_append]
    exact hd
  · rw [List.filter_append, List.filter_cons_of_pos rfl,
      List.filter_eq_nil_iff.2 fun c hc => by simp [hothersPre c hc],
      List.filter_eq_nil_iff.2 fun c hc => by simp [hothersPost c hc], if_neg (by simp)]
    rfl
  · intro c hc hhalf
    simp only [List.mem_append, List.mem_cons] at hc
    rcases hc with hc | rfl | hc
    · rw [hothersPre c hc] at hhalf
      cases hhalf
    · rw [List.length_append, List.length_singleton]
      exact ⟨rfl, rfl⟩
    · rw [hothersPost c hc] at hhalf
      cases hhalf
  · rw [List.pairwise_append, List.pairwise_cons]
    refine ⟨hfirstPre, ⟨fun c hc => hfirstB c hc, hfirstPost⟩, ?_⟩
    intro a ha c hc hhalf
    rcases List.mem_cons.1 hc with rfl | hc
    · exact hpre a ha
    · exact hfirstAcross a ha c (List.mem_cons_of_mem _ hc) hhalf

/-- No grant cuts an SDU while one of another channel is half sent. -/
def Solo (s : UmTransmitter) : UmEvent → Prop
  | .upper _ _ _ _ => True
  | .grant size channel => cuts channel size s.transmissionBuffer = true →
      ∀ b ∈ s.transmissionBuffer, isHalfSent b = true → b.channel = channel

theorem sending_sendPdu {size : Nat} {channel : LogicalChannel}
    (h : ∃ alls sdus cut nPacketId, Sending given alls sdus cut nPacketId s)
    (hlt : given.length + 1 < 2 ^ 32) (hsolo : s.Solo (.grant size channel)) :
    ∃ alls sdus cut nPacketId, Sending given alls sdus cut nPacketId (s.sendPdu size channel) := by
  -- what holds up to the segment that is cut
  have hrule := sendPdus_rule channel
    (P := fun t => (∃ alls sdus cut nPacketId, Sending given alls sdus cut nPacketId t) ∧
      ∀ b ∈ t.transmissionBuffer, b ∈ s.transmissionBuffer)
    (Q := fun t => (∀ b ∈ s.transmissionBuffer, isHalfSent b = true → b.channel = channel) →
      ∃ alls sdus cut nPacketId, Sending given alls sdus cut nPacketId t) ?_ ?_
    s.transmissionBuffer s size [] ⟨h, fun _ => id⟩ nofun
  · cases hcuts : cuts channel size s.transmissionBuffer with
    | true => exact hrule.1 hcuts (hsolo hcuts)
    | false => exact (hrule.2 hcuts).1
  · rintro t pre b post ⟨⟨alls, sdus, cut, nPacketId, h⟩, hsub⟩ - -
    obtain ⟨alls', sdus', cut', h'⟩ := h.sendLast hlt
    refine ⟨⟨alls', sdus', cut', nPacketId, h'⟩, fun c hc => hsub c ?_⟩
    simp only [List.mem_append, List.mem_cons] at hc ⊢
    tauto
  · rintro t left pre b post ⟨⟨alls, sdus, cut, nPacketId, h⟩, hsub⟩ hchannel hpre hcut hall
    obtain ⟨cut', h'⟩ := h.cutSegment (by rw [hchannel]; exact hpre)
      (fun c hc hhalf => (hall c (hsub c hc) hhalf).trans hchannel.symm) hcut
    exact ⟨alls, sdus, cut', b.nPacketId, h'⟩

theorem sending_upper {channel : LogicalChannel} {nPacketId dPayload : Nat}
    (h : ∃ alls sdus cut nPacketId, Sending given alls sdus cut nPacketId s) :
    ∃ alls sdus cut nPacketId', Sending (⟨nPacketId, dPayload⟩ :: given) alls sdus cut nPacketId'
      (s.handlePDUFromUpperLayer channel true nPacketId dPayload) := by
  obtain ⟨alls, sdus, cut, nPacketId', h⟩ := h
  have hgiven := h.given
  rw [List.perm_iff_count] at hgiven
  refine ⟨alls, sdus, cut, nPacketId', ?_, h.next, h.sns_lt, h.sns, h.mac, ?_, ?_, ?_, ?_⟩
  · intro b hb
    rcases List.mem_append.1 hb with hb | hb
    · exact h.uplane b hb
    · rw [List.mem_singleton.1 hb]
  · rw [List.perm_iff_count]
    intro d
    have hd := hgiven d
    have hwhole : whole cut ⟨channel, true, nPacketId, dPayload, none⟩ = ⟨nPacketId, dPayload⟩ := rfl
    unfold handlePDUFromUpperLayer
    rw [List.map_append, List.map_singleton, hwhole]
    simp only [List.count_append, List.count_cons, List.count_nil] at hd ⊢
    omega
  · unfold handlePDUFromUpperLayer
    rw [List.filter_append, List.filter_cons_of_neg (by simp [isHalfSent]), List.filter_nil,
      List.append_nil]
    exact h.half
  · intro b hb hhalf
    rcases List.mem_append.1 hb with hb | hb
    · exact h.hdr b hb hhalf
    · rw [List.mem_singleton.1 hb] at hhalf
      cases hhalf
  · unfold handlePDUFromUpperLayer
    rw [List.pairwise_append]
    refine ⟨h.first, List.pairwise_singleton _ _, ?_⟩
    intro a _ b hb hhalf
    rw [List.mem_singleton.1 hb] at hhalf
    cases hhalf

theorem sending_of_run {tr : List (UmTransmitter × UmEvent)}
    (run : Run UmTransmitter.step establish tr s)
    (huplane : ∀ x ∈ tr, ∀ c u i d, x.2 = .upper c u i d → u = true)
    (hsolo : ∀ x ∈ tr, x.1.Solo x.2) (hlt : (handed tr).length + 1 < 2 ^ 32) :
    ∃ alls sdus cut nPacketId, Sending (handed tr) alls sdus cut nPacketId s := by
  induction run with
  | nil =>
    exact ⟨[], [], [], 0, nofun, rfl, nofun, List.nodup_nil, List.Perm.nil, List.Perm.nil, rfl, nofun,
      List.Pairwise.nil⟩
  | @snoc tr s s' e run hstep ih =>
    have hih := ih (fun x hx => huplane x (List.mem_cons_of_mem _ hx))
      (fun x hx => hsolo x (List.mem_cons_of_mem _ hx))
    cases e with
    | upper channel isUplane nPacketId dPayload =>
      obtain rfl := Option.some.inj hstep
      obtain rfl := huplane _ List.mem_cons_self channel isUplane nPacketId dPayload rfl
      have hhanded : handed ((s, .upper channel true nPacketId dPayload) :: tr) =
          ⟨nPacketId, dPayload⟩ :: handed tr := rfl
      rw [hhanded, List.length_cons] at hlt
      exact sending_upper (hih (by omega))
    | grant size channel =>
      obtain rfl := Option.some.inj hstep
      exact sending_sendPdu (hih hlt) hlt (hsolo _ List.mem_cons_self)

end UmTransmitter

end NetSim.Rlc
