import NetSim.Rlc.UmSending

/-!
# Segmentation and reassembly in unacknowledged mode (`LTENR_RLC_UM.c`)

A receiver that gets the PDUs of a run once, in any order, passes up the SDUs. Its reassembly window
stays empty, so that every segment is kept.
-/

namespace NetSim.Rlc

open NetSim.Lib NetSim.Tcp

/-- `p` carries a segment of `g`. -/
structure UmdPdu.IsSegment (g : UmSdu) (p : UmdPdu) : Prop where
  so_lt : p.SO < g.segments.length
  last_iff : p.si = .last ↔ p.SO + 1 = g.segments.length
  ne_all : p.si ≠ .all
  sn_eq : p.SN = g.SN
  nPacketId_eq : p.nPacketId = g.nPacketId
  dPayload_eq : p.dPayload = g.segments.getD p.SO 0

theorem UmSdu.map_SO_pdus {g : UmSdu} (hlength : g.segments.length ≤ 2 ^ 16) :
    g.pdus.map UmdPdu.SO = List.range g.segments.length := by
  unfold UmSdu.pdus segmentsOf
  rw [List.map_map, List.map_map]
  refine (List.map_congr_left fun i hi => ?_).trans (List.map_id _)
  rw [List.mem_range] at hi
  exact u16_of_lt (by omega)

theorem UmSdu.isSegment {g : UmSdu} (hlength : g.segments.length ≤ 2 ^ 16) {p : UmdPdu}
    (hp : p ∈ g.pdus) : p.IsSegment g := by
  unfold UmSdu.pdus segmentsOf at hp
  rw [List.map_map] at hp
  obtain ⟨i, hi, rfl⟩ := List.mem_map.1 hp
  rw [List.mem_range] at hi
  have htwo := g.two_le
  have hso : u16 i = i := u16_of_lt (by omega)
  unfold segmentAt AmdPdu.umd
  simp only [Function.comp, hso, and_true]
  by_cases hlast : i + 1 = g.segments.length
  · have hzero : ¬ i = 0 := by omega
    refine ⟨hi, ?_, ?_, rfl, rfl, rfl⟩ <;> simp [hlast, hzero]
  · refine ⟨hi, ?_, ?_, rfl, rfl, rfl⟩
    · simp only [hlast, if_false, iff_false]
      split <;> simp
    · simp only [hlast, if_false]
      split <;> simp

def isOf (sn : Nat) (p : UmdPdu) : Bool := p.si ≠ .all && p.SN = sn

theorem filter_pdus {g : UmSdu} (hlength : g.segments.length ≤ 2 ^ 16) (sn : Nat) :
    g.pdus.filter (isOf sn) = if g.SN = sn then g.pdus else [] := by
  split
  · next hsn =>
    rw [List.filter_eq_self]
    intro p hp
    have hseg := g.isSegment hlength hp
    simp [isOf, hseg.ne_all, hseg.sn_eq, hsn]
  · next hsn =>
    rw [List.filter_eq_nil_iff]
    intro p hp
    have hseg := g.isSegment hlength hp
    simp [isOf, hseg.sn_eq, hsn]

theorem filter_isOf {alls : List UmDelivery} {sdus : List UmSdu} {g : UmSdu}
    (hsns : (sdus.map UmSdu.SN).Nodup) (hlength : ∀ g ∈ sdus, g.segments.length ≤ 2 ^ 16)
    (hg : g ∈ sdus) :
    (alls.map UmDelivery.pdu ++ sdus.flatMap UmSdu.pdus).filter (isOf g.SN) = g.pdus := by
  have halls : (alls.map UmDelivery.pdu).filter (isOf g.SN) = [] := by
    rw [List.filter_eq_nil_iff]
    intro p hp
    obtain ⟨d, -, rfl⟩ := List.mem_map.1 hp
    simp [isOf, UmDelivery.pdu]
  rw [List.filter_append, halls, List.nil_append]
  induction sdus with
  | nil => cases hg
  | cons g' sdus ih =>
    rw [List.map_cons, List.nodup_cons] at hsns
    rw [List.flatMap_cons, List.filter_append, filter_pdus (hlength g' List.mem_cons_self)]
    rcases List.mem_cons.1 hg with rfl | hg
    · have hrest : (sdus.flatMap UmSdu.pdus).filter (isOf g.SN) = [] := by
        rw [List.filter_eq_nil_iff]
        intro p hp
        obtain ⟨g', hg', hp⟩ := List.mem_flatMap.1 hp
        have hseg := g'.isSegment (hlength g' (List.mem_cons_of_mem _ hg')) hp
        have hne : g'.SN ≠ g.SN := by
          intro heq
          exact hsns.1 (by rw [← heq]; exact List.mem_map_of_mem hg')
        simp [isOf, hseg.sn_eq, hne]
      rw [if_pos rfl, hrest, List.append_nil]
    · have hne : ¬ g'.SN = g.SN := by
        intro heq
        exact hsns.1 (by rw [heq]; exact List.mem_map_of_mem hg)
      rw [if_neg hne, List.nil_append]
      exact ih hsns.2 (fun g hg => hlength g (List.mem_cons_of_mem _ hg)) hg

/-! ## Reception buffers -/

namespace UmReceptionBuffer

/-- The buffer has segments of `g`, each one once. -/
structure Wf (g : UmSdu) (b : UmReceptionBuffer) : Prop where
  segment : ∀ p ∈ b.packets, p.IsSegment g
  nodup : (b.packets.map UmdPdu.SO).Nodup
  last : b.isLastSDUReceived = true →
    b.lastSDUSO + 1 = g.segments.length ∧ ∃ p ∈ b.packets, p.SO = b.lastSDUSO
  last_of : ∀ p ∈ b.packets, p.si = .last → b.isLastSDUReceived = true

/-- All the segments of `g` are in the list. -/
def covers (g : UmSdu) (l : List UmdPdu) : Bool :=
  (List.range g.segments.length).all fun i => l.any (·.SO = i)

variable {g : UmSdu} {b : UmReceptionBuffer} {p : UmdPdu}

theorem covers_iff {l : List UmdPdu} :
    covers g l = true ↔ ∀ i < g.segments.length, ∃ p ∈ l, p.SO = i := by
  simp [covers]

theorem wf_create (g : UmSdu) (sn : Nat) : Wf g (create sn) :=
  ⟨nofun, List.nodup_nil, nofun, nofun⟩

theorem mem_add {q : UmdPdu} : q ∈ (b.add p).packets ↔ q ∈ b.packets ∨ q = p := by
  unfold add
  rw [List.mem_append, List.mem_singleton]

theorem Wf.add (h : Wf g b) (hp : p.IsSegment g) (hnew : ∀ q ∈ b.packets, q.SO ≠ p.SO) :
    Wf g (b.add p) := by
  refine ⟨?_, ?_, ?_, ?_⟩
  · intro q hq
    rcases mem_add.1 hq with hq | rfl
    · exact h.segment q hq
    · exact hp
  · have hnone : lookup UmdPdu.SO p.SO b.packets = none := lookup_eq_none.2 hnew
    exact nodup_append_single h.nodup hnone
  · intro hlast
    by_cases hend : p.si = .last
    · have hso : (b.add p).lastSDUSO = p.SO := if_pos hend
      rw [hso]
      exact ⟨hp.last_iff.1 hend, p, mem_add.2 (.inr rfl), rfl⟩
    · have hlast' : b.isLastSDUReceived = true := by
        simpa [UmReceptionBuffer.add, hend] using hlast
      have hso : (b.add p).lastSDUSO = b.lastSDUSO := if_neg hend
      obtain ⟨hlength, q, hq, hqso⟩ := h.last hlast'
      rw [hso]
      exact ⟨hlength, q, mem_add.2 (.inl hq), hqso⟩
  · intro q hq hend
    have hor : (b.add p).isLastSDUReceived = (decide (p.si = .last) || b.isLastSDUReceived) := rfl
    rw [hor, Bool.or_eq_true, decide_eq_true_eq]
    rcases mem_add.1 hq with hq | rfl
    · exact .inr (h.last_of q hq hend)
    · exact .inl hend

theorem Wf.isAllByteSegmentReceived (h : Wf g b) :
    b.isAllByteSegmentReceived = some (covers g b.packets) := by
  unfold UmReceptionBuffer.isAllByteSegmentReceived
  cases hlast : b.isLastSDUReceived with
  | false =>
    refine congrArg some (Bool.eq_false_iff.2 fun hall => ?_).symm
    have htwo := g.two_le
    obtain ⟨p, hp, hso⟩ := covers_iff.1 hall (g.segments.length - 1) (by omega)
    have hend : p.si = .last := (h.segment p hp).last_iff.2 (by omega)
    rw [h.last_of p hp hend] at hlast
    cases hlast
  | true =>
    obtain ⟨hlength, q, hq, hqso⟩ := h.last hlast
    have hassert : b.packets.all (·.SO ≤ b.lastSDUSO) = true := by
      rw [List.all_eq_true]
      intro p hp
      have := (h.segment p hp).so_lt
      exact decide_eq_true (by omega)
    rw [if_pos rfl, if_pos hassert]
    have hlastAny : b.packets.any (·.SO = b.lastSDUSO) = true := by
      rw [List.any_eq_true]
      exact ⟨q, hq, decide_eq_true hqso⟩
    unfold covers
    rw [← hlength, List.range_succ, List.all_append, List.all_cons, hlastAny]
    simp

theorem Wf.perm (h : Wf g b) (hall : covers g b.packets = true) :
    (b.packets.map UmdPdu.SO).Perm (List.range g.segments.length) :=
  perm_range h.nodup (fun p hp => (h.segment p hp).so_lt) (covers_iff.1 hall)

theorem Wf.reassembleAllBytes (h : Wf g b) (hall : covers g b.packets = true) :
    b.reassembleAllBytes = g.delivery := by
  have hperm := h.perm hall
  have hid : (b.packets.head?.map UmdPdu.nPacketId).getD 0 = g.nPacketId := by
    cases hpackets : b.packets with
    | nil =>
      have htwo := g.two_le
      rw [hpackets, List.map_nil, List.nil_perm, List.range_eq_nil] at hperm
      omega
    | cons p l => exact (h.segment p (by rw [hpackets]; exact List.mem_cons_self)).nPacketId_eq
  unfold UmReceptionBuffer.reassembleAllBytes UmSdu.delivery
  rw [hid, sum_of_perm_range hperm fun p hp => (h.segment p hp).dPayload_eq]

end UmReceptionBuffer

namespace UmReceiver

open UmReceptionBuffer (covers covers_iff)

/-! ## Arrivals -/

/-- What the receiver has after the arrivals `l` of segments of `sdus`, and of SDUs sent whole. -/
structure Got (sdus : List UmSdu) (l : List UmdPdu) (r : UmReceiver) : Prop where
  highest : r.RX_Next_Highest = 0
  next : r.RX_Next_Reassembly + 1 < 2 ^ 32
  timer : r.isReassemblyTimerStarted = false
  distinct : (r.receptionBuffer.map UmReceptionBuffer.SN).Nodup
  buffer : ∀ b ∈ r.receptionBuffer, ∃ g ∈ sdus, g.SN = b.SN ∧ b.Wf g ∧
    b.packets = l.filter (isOf g.SN)
  opened : ∀ g ∈ sdus, (∀ b ∈ r.receptionBuffer, b.SN ≠ g.SN) →
    l.filter (isOf g.SN) = [] ∨ covers g (l.filter (isOf g.SN)) = true
  pdcp : r.pdcp.Perm ((l.filter (·.si = .all)).map (fun p => ⟨p.nPacketId, p.dPayload⟩) ++
    (sdus.filter fun g => covers g (l.filter (isOf g.SN))).map UmSdu.delivery)

variable {sdus : List UmSdu} {l : List UmdPdu} {r : UmReceiver} {p : UmdPdu} {g : UmSdu}

theorem got_establish : Got sdus [] establish := by
  refine ⟨rfl, Nat.one_lt_two_pow (by decide), rfl, List.nodup_nil, nofun,
    fun _ _ _ => .inl rfl, ?_⟩
  have hnone : sdus.filter (fun g => covers g (([] : List UmdPdu).filter (isOf g.SN))) = [] := by
    rw [List.filter_eq_nil_iff]
    intro g _ hall
    have htwo := g.two_le
    obtain ⟨q, hq, -⟩ := covers_iff.1 hall 0 (by omega)
    cases hq
  rw [hnone]
  exact List.Perm.nil

theorem updateReassemblyTimer_eq (hhighest : r.RX_Next_Highest = 0)
    (hnext : r.RX_Next_Reassembly + 1 < 2 ^ 32) (htimer : r.isReassemblyTimerStarted = false) :
    r.updateReassemblyTimer = some r := by
  have hgap : r.hasGap = some false := by
    unfold hasGap
    rw [hhighest, u32_of_lt hnext, if_neg (Nat.not_lt_zero _), if_neg (by omega)]
  unfold updateReassemblyTimer
  rw [htimer, hgap]
  rfl

theorem SN_filled (r : UmReceiver) (p : UmdPdu) : (r.filled p).SN = p.SN := by
  change ((r.findReceptionBuffer p.SN).getD (.create p.SN)).SN = p.SN
  cases hfind : r.findReceptionBuffer p.SN with
  | none => rfl
  | some b => exact (lookup_some hfind).2

theorem mem_place (hdistinct : (r.receptionBuffer.map UmReceptionBuffer.SN).Nodup)
    {b : UmReceptionBuffer} : b ∈ (r.place p).receptionBuffer ↔
      b = r.filled p ∨ b ∈ r.receptionBuffer ∧ b.SN ≠ p.SN := by
  unfold place
  cases hfind : r.findReceptionBuffer p.SN with
  | none =>
    rw [List.mem_append, List.mem_singleton]
    have hne := lookup_eq_none.1 hfind
    constructor
    · rintro (hb | hb)
      · exact .inr ⟨hb, hne b hb⟩
      · exact .inl hb
    · rintro (hb | ⟨hb, -⟩)
      · exact .inr hb
      · exact .inl hb
  | some b0 =>
    have hfilled : r.filled p = b0.add p := by rw [filled, hfind, Option.getD_some]
    rw [hfilled]
    exact mem_modifyFirst_iff hdistinct (fun _ => rfl) hfind

theorem nodup_place (hdistinct : (r.receptionBuffer.map UmReceptionBuffer.SN).Nodup) :
    ((r.place p).receptionBuffer.map UmReceptionBuffer.SN).Nodup := by
  unfold place
  cases hfind : r.findReceptionBuffer p.SN with
  | none =>
    apply nodup_append_single hdistinct
    rw [SN_filled]
    exact hfind
  | some b =>
    have hkeys : (modifyFirst UmReceptionBuffer.SN p.SN (·.add p) r.receptionBuffer).map
        UmReceptionBuffer.SN = r.receptionBuffer.map UmReceptionBuffer.SN :=
      map_key_modifyFirst fun _ => rfl
    rw [hkeys]
    exact hdistinct

/-- A new segment of `g`: its SO has not arrived before. -/
structure New (sdus : List UmSdu) (l : List UmdPdu) (g : UmSdu) (p : UmdPdu) : Prop where
  mem : g ∈ sdus
  sns : (sdus.map UmSdu.SN).Nodup
  segment : p.IsSegment g
  fresh : ∀ q ∈ l.filter (isOf g.SN), q.SO ≠ p.SO

section

variable (h : New sdus l g p)

include h

theorem New.eq_of_sn {g' : UmSdu} (hg' : g' ∈ sdus) (hsn : g'.SN = g.SN) : g' = g :=
  List.inj_on_of_nodup_map h.sns hg' h.mem hsn

theorem New.filter_other {sn : Nat} (hsn : sn ≠ g.SN) :
    (l ++ [p]).filter (isOf sn) = l.filter (isOf sn) := by
  have hno : isOf sn p = false := by
    simp [isOf, h.segment.sn_eq, Ne.symm hsn]
  rw [List.filter_append, List.filter_cons_of_neg (by simp [hno]), List.filter_nil,
    List.append_nil]

theorem New.filter_self : (l ++ [p]).filter (isOf g.SN) = l.filter (isOf g.SN) ++ [p] := by
  have hyes : isOf g.SN p = true := by
    simp [isOf, h.segment.sn_eq, h.segment.ne_all]
  rw [List.filter_append, List.filter_cons_of_pos hyes, List.filter_nil]

theorem New.not_covers : covers g (l.filter (isOf g.SN)) = false := by
  rw [Bool.eq_false_iff]
  intro hall
  obtain ⟨q, hq, hso⟩ := covers_iff.1 hall p.SO h.segment.so_lt
  exact h.fresh q hq hso

theorem New.filled (hgot : Got sdus l r) :
    (r.filled p).Wf g ∧ (r.filled p).packets = (l ++ [p]).filter (isOf g.SN) := by
  have hsn := h.segment.sn_eq
  rw [h.filter_self]
  unfold UmReceiver.filled findReceptionBuffer
  rw [hsn]
  cases hfind : lookup UmReceptionBuffer.SN g.SN r.receptionBuffer with
  | none =>
    have hnil := (hgot.opened g h.mem (lookup_eq_none.1 hfind)).resolve_right
      (by rw [h.not_covers]; exact Bool.false_ne_true)
    rw [hnil]
    exact ⟨(UmReceptionBuffer.wf_create g g.SN).add h.segment nofun, rfl⟩
  | some b =>
    obtain ⟨hb, hbsn⟩ := lookup_some hfind
    obtain ⟨g', hg', hsn', hwf, hpackets⟩ := hgot.buffer b hb
    obtain rfl := h.eq_of_sn hg' (hsn'.trans hbsn)
    rw [← hpackets]
    refine ⟨hwf.add h.segment ?_, rfl⟩
    rw [hpackets]
    exact h.fresh

theorem New.filter_covers :
    (sdus.filter fun g => covers g ((l ++ [p]).filter (isOf g.SN))).Perm
      ((if covers g ((l ++ [p]).filter (isOf g.SN)) then [g] else []) ++
        sdus.filter fun g => covers g (l.filter (isOf g.SN))) := by
  have hnodup : sdus.Nodup := h.sns.of_map _
  have hg : g ∉ sdus.filter fun g => covers g (l.filter (isOf g.SN)) := by
    intro hmem
    have := (List.mem_filter.1 hmem).2
    rw [h.not_covers] at this
    cases this
  have hiff : ∀ g', g' ∈ sdus.filter (fun g => covers g ((l ++ [p]).filter (isOf g.SN))) ↔
      g' ∈ (if covers g ((l ++ [p]).filter (isOf g.SN)) then [g] else []) ++
        sdus.filter fun g => covers g (l.filter (isOf g.SN)) := by
    intro g'
    rw [List.mem_append, List.mem_filter, List.mem_filter]
    by_cases hsn : g'.SN = g.SN
    · constructor
      · rintro ⟨hg', hcovers⟩
        obtain rfl := h.eq_of_sn hg' hsn
        rw [if_pos hcovers]
        exact .inl List.mem_cons_self
      · rintro (hg' | ⟨hg', hcovers⟩)
        · split at hg'
          · next hcovers =>
            obtain rfl := List.mem_singleton.1 hg'
            exact ⟨h.mem, hcovers⟩
          · cases hg'
        · obtain rfl := h.eq_of_sn hg' hsn
          rw [h.not_covers] at hcovers
          cases hcovers
    · rw [h.filter_other hsn]
      constructor
      · exact .inr
      · rintro (hg' | hg')
        · split at hg'
          · obtain rfl := List.mem_singleton.1 hg'
            exact absurd rfl hsn
          · cases hg'
        · exact hg'
  refine (List.perm_ext_iff_of_nodup (hnodup.filter _) ?_).2 hiff
  split
  · rw [List.singleton_append, List.nodup_cons]
    exact ⟨hg, hnodup.filter _⟩
  · exact hnodup.filter _

theorem New.filter_all : (l ++ [p]).filter (·.si = .all) = l.filter (·.si = .all) := by
  rw [List.filter_append, List.filter_cons_of_neg (by simpa using h.segment.ne_all),
    List.filter_nil, List.append_nil]

end

theorem Got.place (hgot : Got sdus l r) (h : New sdus l g p)
    (hopen : covers g ((l ++ [p]).filter (isOf g.SN)) = false) :
    Got sdus (l ++ [p]) (r.place p) := by
  have hmem {b : UmReceptionBuffer} := mem_place (b := b) (p := p) hgot.distinct
  obtain ⟨hwf, hpackets⟩ := h.filled hgot
  have hsn := h.segment.sn_eq
  refine ⟨hgot.highest, hgot.next, hgot.timer, nodup_place hgot.distinct, ?_, ?_, ?_⟩
  · intro b hb
    rcases hmem.1 hb with rfl | ⟨hb, hne⟩
    · exact ⟨g, h.mem, by rw [SN_filled, hsn], hwf, hpackets⟩
    · obtain ⟨g', hg', hsn', hwf', hpackets'⟩ := hgot.buffer b hb
      refine ⟨g', hg', hsn', hwf', ?_⟩
      rw [h.filter_other (by rw [hsn', ← hsn]; exact hne)]
      exact hpackets'
  · intro g' hg' hnone
    have hne : g'.SN ≠ g.SN := by
      intro heq
      exact hnone _ (hmem.2 (.inl rfl)) (by rw [SN_filled, hsn, heq])
    rw [h.filter_other hne]
    apply hgot.opened g' hg'
    intro b hb heq
    exact hnone b (hmem.2 (.inr ⟨hb, by rw [heq, hsn]; exact hne⟩)) heq
  · rw [h.filter_all]
    refine hgot.pdcp.trans (List.Perm.append_left _ ?_)
    have hperm := h.filter_covers
    rw [hopen] at hperm
    exact (hperm.map _).symm

theorem Got.deliver (hgot : Got sdus l r) (h : New sdus l g p)
    (hlt : ∀ g ∈ sdus, g.SN + 1 < 2 ^ 32)
    (hall : covers g ((l ++ [p]).filter (isOf g.SN)) = true) :
    Got sdus (l ++ [p]) ((r.place p).deliver (r.filled p)) := by
  obtain ⟨hwf, hpackets⟩ := h.filled hgot
  have hsn := h.segment.sn_eq
  have hpacket := hwf.reassembleAllBytes (by rw [hpackets]; exact hall)
  have hnodup := nodup_place (p := p) hgot.distinct
  -- the entity before `RX_Next_Reassembly` is looked at
  have hgot' : Got sdus (l ++ [p]) { r.place p with
      receptionBuffer := eraseFirst UmReceptionBuffer.SN (r.filled p).SN (r.place p).receptionBuffer
      pdcp := (r.place p).pdcp ++ [(r.filled p).reassembleAllBytes] } := by
    have hmem {b : UmReceptionBuffer} :
        b ∈ eraseFirst UmReceptionBuffer.SN (r.filled p).SN (r.place p).receptionBuffer ↔
          b ∈ r.receptionBuffer ∧ b.SN ≠ g.SN := by
      rw [mem_eraseFirst_iff hnodup, mem_place hgot.distinct, SN_filled, hsn]
      constructor
      · rintro ⟨rfl | hb, hne⟩
        · exact absurd ((SN_filled r p).trans hsn) hne
        · exact ⟨hb.1, hne⟩
      · rintro ⟨hb, hne⟩
        exact ⟨.inr ⟨hb, hne⟩, hne⟩
    refine ⟨hgot.highest, hgot.next, hgot.timer, nodup_map_eraseFirst hnodup, ?_, ?_, ?_⟩
    · intro b hb
      obtain ⟨hb, hne⟩ := hmem.1 hb
      obtain ⟨g', hg', hsn', hwf', hpackets'⟩ := hgot.buffer b hb
      refine ⟨g', hg', hsn', hwf', ?_⟩
      rw [h.filter_other (by rw [hsn']; exact hne)]
      exact hpackets'
    · intro g' hg' hnone
      by_cases hne : g'.SN = g.SN
      · obtain rfl := h.eq_of_sn hg' hne
        exact .inr hall
      · rw [h.filter_other hne]
        apply hgot.opened g' hg'
        intro b hb heq
        exact hnone b (hmem.2 ⟨hb, by rw [heq]; exact hne⟩) heq
    · rw [h.filter_all, hpacket]
      have hperm := h.filter_covers
      rw [if_pos hall] at hperm
      have hmap := hperm.map UmSdu.delivery
      refine (hgot.pdcp.append_right _).trans ?_
      rw [List.append_assoc]
      refine List.Perm.append_left _ ?_
      exact (List.perm_append_comm).trans hmap.symm
  unfold UmReceiver.deliver
  dsimp only
  split
  · unfold updateRXNextReassembly
    split
    · next b hfind =>
      obtain ⟨g', hg', hsn', -⟩ := hgot'.buffer b (List.mem_of_find?_eq_some hfind)
      obtain ⟨h1, -, h3, h4, h5, h6, h7⟩ := hgot'
      refine ⟨h1, ?_, h3, h4, h5, h6, h7⟩
      rw [← hsn']
      exact hlt g' hg'
    · exact hgot'
  · exact hgot'

theorem Got.segment (hgot : Got sdus l r) (h : New sdus l g p)
    (hlt : ∀ g ∈ sdus, g.SN + 1 < 2 ^ 32) :
    ∃ r', r.receivePdu p = some r' ∧ Got sdus (l ++ [p]) r' := by
  obtain ⟨hwf, hpackets⟩ := h.filled hgot
  have hwindow : r.isSNFallsInReassemblyWindows p.SN = false := by
    unfold isSNFallsInReassemblyWindows
    rw [hgot.highest]
    simp
  unfold receivePdu receivePduWithSn placeUmdPduInReceptionBuffer
  rw [if_neg h.segment.ne_all, hwindow, if_neg Bool.false_ne_true, hwf.isAllByteSegmentReceived,
    Option.map_some, Option.bind_some, hpackets]
  cases hall : covers g ((l ++ [p]).filter (isOf g.SN)) with
  | false =>
    have hgot' := hgot.place h hall
    exact ⟨_, updateReassemblyTimer_eq hgot'.highest hgot'.next hgot'.timer, hgot'⟩
  | true =>
    have hgot' := hgot.deliver h hlt hall
    exact ⟨_, updateReassemblyTimer_eq hgot'.highest hgot'.next hgot'.timer, hgot'⟩

theorem Got.whole (hgot : Got sdus l r) (d : UmDelivery) :
    ∃ r', r.receivePdu d.pdu = some r' ∧ Got sdus (l ++ [d.pdu]) r' := by
  have hother : ∀ sn, (l ++ [d.pdu]).filter (isOf sn) = l.filter (isOf sn) := by
    intro sn
    have hno : isOf sn d.pdu = false := by simp [isOf, UmDelivery.pdu]
    rw [List.filter_append, List.filter_cons_of_neg (by simp [hno]), List.filter_nil,
      List.append_nil]
  have hall : (l ++ [d.pdu]).filter (·.si = .all) = l.filter (·.si = .all) ++ [d.pdu] := by
    rw [List.filter_append, List.filter_cons_of_pos (by simp [UmDelivery.pdu]), List.filter_nil]
  refine ⟨_, if_pos rfl, hgot.highest, hgot.next, hgot.timer, hgot.distinct, ?_, ?_, ?_⟩
  · intro b hb
    obtain ⟨g, hg, hsn, hwf, hpackets⟩ := hgot.buffer b hb
    exact ⟨g, hg, hsn, hwf, by rw [hother]; exact hpackets⟩
  · intro g hg hnone
    rw [hother]
    exact hgot.opened g hg hnone
  · simp only [hother, hall, List.map_append, List.map_singleton, List.append_assoc]
    refine (hgot.pdcp.append_right _).trans ?_
    rw [List.append_assoc]
    exact List.Perm.append_left _ List.perm_append_comm

section Arrivals

variable {alls : List UmDelivery} {arrivals : List UmdPdu}

theorem got_of_arrivals (hsns : (sdus.map UmSdu.SN).Nodup)
    (hlength : ∀ g ∈ sdus, g.segments.length ≤ 2 ^ 16) (hlt : ∀ g ∈ sdus, g.SN + 1 < 2 ^ 32)
    (hperm : arrivals.Perm (alls.map UmDelivery.pdu ++ sdus.flatMap UmSdu.pdus)) :
    ∀ l1 l2, arrivals = l1 ++ l2 →
      ∃ r, l1.foldlM receivePdu establish = some r ∧ Got sdus l1 r := by
  intro l1
  induction l1 using List.reverseRecOn with
  | nil => exact fun _ _ => ⟨establish, rfl, got_establish⟩
  | append_singleton l1 p ih =>
    intro l2 hsplit
    rw [List.append_assoc, List.singleton_append] at hsplit
    obtain ⟨r, hr, hgot⟩ := ih (p :: l2) hsplit
    rw [List.foldlM_append, hr]
    simp only [Option.bind_eq_bind, Option.bind_some, List.foldlM_cons, List.foldlM_nil,
      Option.pure_def, Option.bind_fun_some]
    have hp : p ∈ alls.map UmDelivery.pdu ++ sdus.flatMap UmSdu.pdus :=
      hperm.mem_iff.1 (by rw [hsplit]; simp)
    rcases List.mem_append.1 hp with hp | hp
    · obtain ⟨d, -, rfl⟩ := List.mem_map.1 hp
      exact hgot.whole d
    · obtain ⟨g, hg, hp⟩ := List.mem_flatMap.1 hp
      have hseg := g.isSegment (hlength g hg) hp
      have hyes : isOf g.SN p = true := by simp [isOf, hseg.sn_eq, hseg.ne_all]
      -- the segments of `g` arrive once each
      have hof := hperm.filter (isOf g.SN)
      rw [filter_isOf hsns hlength hg] at hof
      have hnodup := (hof.map UmdPdu.SO).symm.nodup (by
        rw [UmSdu.map_SO_pdus (hlength g hg)]
        exact List.nodup_range)
      rw [hsplit, List.filter_append, List.filter_cons_of_pos hyes, List.map_append, List.map_cons,
        List.nodup_append] at hnodup
      refine hgot.segment ⟨hg, hsns, hseg, fun q hq => ?_⟩ hlt
      exact hnodup.2.2 _ (List.mem_map_of_mem hq) _ List.mem_cons_self

theorem pdcp_of_arrivals (hsns : (sdus.map UmSdu.SN).Nodup)
    (hlength : ∀ g ∈ sdus, g.segments.length ≤ 2 ^ 16)
    (hperm : arrivals.Perm (alls.map UmDelivery.pdu ++ sdus.flatMap UmSdu.pdus))
    (hgot : Got sdus arrivals r) : r.pdcp.Perm (alls ++ sdus.map UmSdu.delivery) := by
  have hcovers : sdus.filter (fun g => covers g (arrivals.filter (isOf g.SN))) = sdus := by
    rw [List.filter_eq_self]
    intro g hg
    have hof := hperm.filter (isOf g.SN)
    rw [filter_isOf hsns hlength hg] at hof
    have hso := hof.map UmdPdu.SO
    rw [UmSdu.map_SO_pdus (hlength g hg)] at hso
    rw [covers_iff]
    intro i hi
    exact List.mem_map.1 (hso.mem_iff.2 (List.mem_range.2 hi))
  have halls : (arrivals.filter (·.si = .all)).Perm (alls.map UmDelivery.pdu) := by
    have hfilter := hperm.filter (·.si = .all)
    have hpdus : (sdus.flatMap UmSdu.pdus).filter (·.si = .all) = [] := by
      rw [List.filter_eq_nil_iff]
      intro p hp
      obtain ⟨g, hg, hp⟩ := List.mem_flatMap.1 hp
      simpa using (g.isSegment (hlength g hg) hp).ne_all
    have hself : (alls.map UmDelivery.pdu).filter (·.si = .all) = alls.map UmDelivery.pdu := by
      rw [List.filter_eq_self]
      intro p hp
      obtain ⟨d, -, rfl⟩ := List.mem_map.1 hp
      rfl
    rw [List.filter_append, hpdus, hself, List.append_nil] at hfilter
    exact hfilter
  have hmap := halls.map fun p => (⟨p.nPacketId, p.dPayload⟩ : UmDelivery)
  rw [List.map_map] at hmap
  have hid : alls.map ((fun p : UmdPdu => (⟨p.nPacketId, p.dPayload⟩ : UmDelivery)) ∘
      UmDelivery.pdu) = alls := List.map_id'' (fun _ => rfl) _
  rw [hid] at hmap
  have hpdcp := hgot.pdcp
  rw [hcovers] at hpdcp
  exact hpdcp.trans (hmap.append_right _)

end Arrivals

end UmReceiver

/-! ## The round trip -/

namespace UmTransmitter

variable {s : UmTransmitter}

/-- The PDUs are the SDUs `given`, whole or in segments with an SN of their own. A receiver that
gets them once, in any order, passes up these SDUs, and its timer never runs. -/
def RoundTrips (given : List UmDelivery) (mac : List UmdPdu) : Prop :=
  ∃ (alls : List UmDelivery) (sdus : List UmSdu),
    mac.Perm (alls.map UmDelivery.pdu ++ sdus.flatMap UmSdu.pdus) ∧
    given.Perm (alls ++ sdus.map UmSdu.delivery) ∧ (sdus.map UmSdu.SN).Nodup ∧
    ((∀ g ∈ sdus, g.segments.length ≤ 2 ^ 16) →
      (∀ g ∈ sdus, g.pdus.map UmdPdu.SO = List.range g.segments.length ∧
        ∀ p ∈ g.pdus, p.IsSegment g) ∧
      ∀ arrivals : List UmdPdu, arrivals.Perm mac →
        (∀ l₁ l₂, arrivals = l₁ ++ l₂ →
          ∃ r, l₁.foldlM UmReceiver.receivePdu UmReceiver.establish = some r ∧
            r.isReassemblyTimerStarted = false) ∧
        ∃ r, arrivals.foldlM UmReceiver.receivePdu UmReceiver.establish = some r ∧
          r.pdcp.Perm given)

/-- For every run on user-plane SDUs that are all sent, if no SDU is cut while one of another
channel is half sent. -/
theorem umRoundTrip {tr : List (UmTransmitter × UmEvent)}
    (run : Run UmTransmitter.step establish tr s)
    (huplane : ∀ x ∈ tr, ∀ c u i d, x.2 = .upper c u i d → u = true)
    (hsolo : ∀ x ∈ tr, x.1.Solo x.2) (hlt : (handed tr).length + 1 < 2 ^ 32)
    (hsent : s.transmissionBuffer = []) : RoundTrips (handed tr) s.mac := by
  obtain ⟨alls, sdus, cut, nPacketId, h⟩ := sending_of_run run huplane hsolo hlt
  have hcut : cut = [] := by
    by_contra hne
    have hhalf := h.half
    rw [hsent, if_neg hne] at hhalf
    cases hhalf
  have hmac := h.mac
  have hgiven := h.given
  have hnil : segmentsOf nPacketId s.TX_Next [] true = [] := rfl
  rw [hcut, hnil, List.map_nil, List.append_nil] at hmac
  rw [hsent, List.map_nil, List.append_nil] at hgiven
  have hsns : ∀ g ∈ sdus, g.SN + 1 < 2 ^ 32 := by
    intro g hg
    have := h.sns_lt g hg
    have := h.next_le
    omega
  refine ⟨alls, sdus, hmac, hgiven, h.sns, fun hlength => ⟨?_, ?_⟩⟩
  · exact fun g hg => ⟨UmSdu.map_SO_pdus (hlength g hg), fun p hp => g.isSegment (hlength g hg) hp⟩
  · intro arrivals harrivals
    have hgot := UmReceiver.got_of_arrivals h.sns hlength hsns (harrivals.trans hmac)
    constructor
    · intro l₁ l₂ hsplit
      obtain ⟨r, hr, hgot⟩ := hgot l₁ l₂ hsplit
      exact ⟨r, hr, hgot.timer⟩
    · obtain ⟨r, hr, hgot⟩ := hgot arrivals [] (List.append_nil _).symm
      exact ⟨r, hr, (UmReceiver.pdcp_of_arrivals h.sns hlength (harrivals.trans hmac) hgot).trans
        hgiven.symm⟩

/-- A test for the conditions of `umRoundTrip` on a step. -/
def isSoloUplane (x : UmTransmitter × UmEvent) : Bool :=
  match x.2 with
  | .upper _ isUplane _ _ => isUplane
  | .grant size channel => !cuts channel size x.1.transmissionBuffer ||
      x.1.transmissionBuffer.all fun b => !isHalfSent b || b.channel = channel

theorem isSoloUplane_sound {x : UmTransmitter × UmEvent} (h : isSoloUplane x = true) :
    (∀ c u i d, x.2 = .upper c u i d → u = true) ∧ x.1.Solo x.2 := by
  obtain ⟨s, e⟩ := x
  cases e with
  | upper channel isUplane nPacketId dPayload =>
    refine ⟨?_, trivial⟩
    rintro c u i d ⟨rfl⟩
    exact h
  | grant size channel =>
    refine ⟨nofun, fun hcuts b hb hhalf => ?_⟩
    simp only [isSoloUplane, hcuts, Bool.not_true, Bool.false_or, List.all_eq_true,
      Bool.or_eq_true, Bool.not_eq_true', decide_eq_true_eq] at h
    exact (h b hb).resolve_left (by simp [hhalf])

/-- One SDU is cut twice, and another is sent whole. -/
theorem umRoundTrip_threeGrants :
    ∃ tr s, Run UmTransmitter.step establish tr s ∧ handed tr = [⟨2, 5⟩, ⟨1, 25⟩] ∧
      s.mac = [⟨.first, 0, 0, 1, 10⟩, ⟨.middle, 0, 1, 1, 10⟩, ⟨.last, 0, 2, 1, 5⟩,
        ⟨.all, 0, 0, 2, 5⟩] ∧ RoundTrips (handed tr) s.mac := by
  have hexec : (exec UmTransmitter.step establish
      [fun _ => some (.upper .dtch true 1 25), fun _ => some (.upper .dtch true 2 5),
        fun _ => some (.grant 10 .dtch), fun _ => some (.grant 10 .dtch),
        fun _ => some (.grant 20 .dtch)]).any
      (fun r => r.1.all isSoloUplane && decide (handed r.1 = [⟨2, 5⟩, ⟨1, 25⟩] ∧
        r.2.mac = [⟨.first, 0, 0, 1, 10⟩, ⟨.middle, 0, 1, 1, 10⟩, ⟨.last, 0, 2, 1, 5⟩,
          ⟨.all, 0, 0, 2, 5⟩] ∧ r.2.transmissionBuffer = [])) = true := by decide +kernel
  obtain ⟨tr, s, run, htest⟩ := run_of_exec hexec
  simp only [Bool.and_eq_true, List.all_eq_true, decide_eq_true_eq] at htest
  obtain ⟨hsteps, hhanded, hmac, hsent⟩ := htest
  refine ⟨tr, s, run, hhanded, hmac, umRoundTrip run
    (fun x hx => (isSoloUplane_sound (hsteps x hx)).1)
    (fun x hx => (isSoloUplane_sound (hsteps x hx)).2) ?_ hsent⟩
  rw [hhanded]
  decide

/-- An SDU is cut while one of another channel is half sent: both get the SN 0, and are passed up as
one. -/
theorem not_umRoundTrip_twoChannels :
    ∃ tr s, Run UmTransmitter.step establish tr s ∧ handed tr = [⟨2, 25⟩, ⟨1, 25⟩] ∧
      s.transmissionBuffer = [] ∧ s.mac = [⟨.first, 0, 0, 1, 10⟩, ⟨.first, 0, 0, 2, 10⟩,
        ⟨.last, 0, 1, 1, 15⟩, ⟨.last, 0, 1, 2, 15⟩] ∧
      ((s.mac.foldlM UmReceiver.receivePdu UmReceiver.establish).map UmReceiver.pdcp) =
        some [⟨1, 35⟩] ∧ ¬ RoundTrips (handed tr) s.mac := by
  have hexec : (exec UmTransmitter.step establish
      [fun _ => some (.upper .dtch true 1 25), fun _ => some (.upper .dcch true 2 25),
        fun _ => some (.grant 10 .dtch), fun _ => some (.grant 10 .dcch),
        fun _ => some (.grant 20 .dtch), fun _ => some (.grant 20 .dcch)]).any
      (fun r => decide (handed r.1 = [⟨2, 25⟩, ⟨1, 25⟩] ∧ r.2.transmissionBuffer = [] ∧
        r.2.mac = [⟨.first, 0, 0, 1, 10⟩, ⟨.first, 0, 0, 2, 10⟩, ⟨.last, 0, 1, 1, 15⟩,
          ⟨.last, 0, 1, 2, 15⟩] ∧
        (r.2.mac.foldlM UmReceiver.receivePdu UmReceiver.establish).map UmReceiver.pdcp =
          some [⟨1, 35⟩])) = true := by decide +kernel
  obtain ⟨tr, s, run, htest⟩ := run_of_exec hexec
  simp only [decide_eq_true_eq] at htest
  obtain ⟨hhanded, hsent, hmac, hpdcp⟩ := htest
  refine ⟨tr, s, run, hhanded, hsent, hmac, hpdcp, ?_⟩
  rintro ⟨alls, sdus, hperm, -, -, hround⟩
  have hlength : ∀ g ∈ sdus, g.segments.length ≤ 2 ^ 16 := by
    intro g hg
    have hle : g.pdus.length ≤ (sdus.flatMap UmSdu.pdus).length := by
      rw [List.length_flatMap]
      exact List.single_le_sum (fun _ _ => Nat.zero_le _) _
        (List.mem_map_of_mem (f := fun g : UmSdu => g.pdus.length) hg)
    have hsegments : g.pdus.length = g.segments.length := by
      unfold UmSdu.pdus
      rw [List.length_map, length_segmentsOf]
    have htotal := hperm.length_eq
    rw [hmac, List.length_append] at htotal
    simp only [List.length_cons, List.length_nil] at htotal
    omega
  obtain ⟨-, r, hr, hperm'⟩ := (hround hlength).2 s.mac (List.Perm.refl _)
  rw [hr, Option.map_some, Option.some.injEq] at hpdcp
  rw [hpdcp, hhanded] at hperm'
  exact absurd hperm'.length_eq (by decide)

end UmTransmitter

end NetSim.Rlc
