import NetSim.Rlc.Segments
import NetSim.Rlc.Window
import NetSim.Rlc.Delivery

/-!
# Segmentation and reassembly in acknowledged mode (`LTENR_RLC_AM.c`)

An SDU is cut by the grants of its channel into segments without a gap, and a receiver that gets
them in any order puts it together when the last one arrives.
-/

namespace NetSim.Rlc

open NetSim.Lib NetSim.Tcp

/-! ## Cutting -/

namespace TransmittingEntity

variable {s s' : TransmittingEntity}

/-- What is left of the SDU `sn` in the transmission buffer. -/
def queue (s : TransmittingEntity) (sn : Nat) : List RlcBuffer :=
  s.transmissionBuffer.filter (·.SN = sn)

/-- The PDUs of the SDU `sn` that have been produced after those in `base`, if `produced` begins
with these. -/
def producedSince (s : TransmittingEntity) (base : List AmdPdu) (sn : Nat) : List AmdPdu :=
  (s.produced.drop base.length).filter (·.SN = sn)

/-- The SDU `sn` has been cut into segments with the payloads `cut` so far; the rest is in the
transmission buffer. -/
structure Cut (base : List AmdPdu) (sn nPacketId dPayload : Nat) (cut : List Nat)
    (rest : Option RlcBuffer) (s : TransmittingEntity) : Prop where
  queue : s.queue sn = rest.toList
  extends_base : base.length ≤ s.produced.length
  produced : s.producedSince base sn = segmentsOf nPacketId sn cut rest.isSome
  sum : cut.sum + (rest.map RlcBuffer.dPayload).getD 0 = dPayload
  rest_eq : ∀ b ∈ rest, b.nPacketId = nPacketId ∧ b.isFragmented = decide (cut ≠ []) ∧
    b.SO = u16 cut.length
  cut_ne_nil : rest = none → cut ≠ []

variable {base : List AmdPdu} {sn nPacketId dPayload : Nat} {cut : List Nat}
  {rest : Option RlcBuffer}

theorem Cut.congr (h : Cut base sn nPacketId dPayload cut rest s)
    (hqueue : s'.queue sn = s.queue sn) (hproduced : s'.produced = s.produced) :
    Cut base sn nPacketId dPayload cut rest s' := by
  refine ⟨hqueue.trans h.queue, ?_, ?_, h.sum, h.rest_eq, h.cut_ne_nil⟩
  · rw [hproduced]
    exact h.extends_base
  · unfold producedSince
    rw [hproduced]
    exact h.produced

theorem producedSince_append (sn : Nat) {p : AmdPdu} (hbase : base.length ≤ s.produced.length)
    (hproduced : s'.produced = s.produced ++ [p]) :
    s'.producedSince base sn = s.producedSince base sn ++ [p].filter (·.SN = sn) := by
  unfold producedSince
  rw [hproduced, List.drop_append_of_le_length hbase, List.filter_append]

theorem Cut.sendNew (h : Cut base sn nPacketId dPayload cut rest s) {left : Nat}
    {pre post : List RlcBuffer} {buf : RlcBuffer}
    (hlist : s.transmissionBuffer = pre ++ buf :: post) :
    ∃ cut' rest', Cut base sn nPacketId dPayload cut' rest' (s.sendNew left pre buf post) := by
  obtain ⟨-, -, htransmission, -, -, hproduced, -⟩ := sent_sendNew s left pre buf post
  have hbase : base.length ≤ (s.sendNew left pre buf post).produced.length := by
    rw [hproduced, List.length_append]
    exact Nat.le_trans h.extends_base (Nat.le_add_right _ _)
  have hsince := producedSince_append sn h.extends_base hproduced
  have hqueue : (s.sendNew left pre buf post).queue sn = pre.filter (·.SN = sn) ++
      ((buf.fragment left).2.toList.filter (·.SN = sn) ++ post.filter (·.SN = sn)) := by
    unfold TransmittingEntity.queue
    rw [htransmission, List.filter_append, List.filter_append]
  have hold := h.queue
  unfold TransmittingEntity.queue at hold
  rw [hlist, List.filter_append, List.filter_cons] at hold
  by_cases hsn : buf.SN = sn
  · -- the SDU itself: nothing else of it is queued
    rw [if_pos (by simpa using hsn)] at hold
    cases rest with
    | none =>
      rw [Option.toList_none, List.append_eq_nil_iff] at hold
      cases hold.2
    | some b =>
      rw [Option.toList_some] at hold
      obtain ⟨hpre, hbuf, hpost⟩ : pre.filter (·.SN = sn) = [] ∧ buf = b ∧
          post.filter (·.SN = sn) = [] := by
        cases hpre : pre.filter (·.SN = sn) with
        | nil =>
          rw [hpre, List.nil_append, List.cons.injEq] at hold
          exact ⟨rfl, hold⟩
        | cons c l =>
          rw [hpre, List.cons_append, List.cons.injEq, List.append_eq_nil_iff] at hold
          cases hold.2.2
      subst hbuf
      obtain ⟨hid, hfragmented, hso⟩ := h.rest_eq buf rfl
      have hsum : cut.sum + buf.dPayload = dPayload := h.sum
      have hret : ∀ p : AmdPdu, p.SN = sn → [p].filter (·.SN = sn) = [p] := by
        intro p hp
        rw [List.filter_cons_of_pos (by simpa using hp), List.filter_nil]
      rw [hpre, hpost, List.nil_append, List.append_nil] at hqueue
      by_cases hcut : left < buf.dPayload
      · -- a segment is cut off
        have hfrag : buf.fragment left = ({ buf with
            si := if buf.isFragmented then .middle else .first
            SO := if buf.isFragmented then buf.SO else 0
            retxCount := 0
            dPayload := left
            isFragmented := true }, some { buf with
            si := .last
            SO := if buf.isFragmented then u16 (buf.SO + 1) else 1
            dPayload := buf.dPayload - left
            isFragmented := true }) := if_pos hcut
        rw [hfrag] at hqueue hsince
        refine ⟨cut ++ [left], some { buf with
            si := .last
            SO := if buf.isFragmented then u16 (buf.SO + 1) else 1
            dPayload := buf.dPayload - left
            isFragmented := true }, ?_, hbase, ?_, ?_, ?_, nofun⟩
        · rw [hqueue, Option.toList_some, List.filter_cons_of_pos (by simpa using hsn),
            List.filter_nil]
        · rw [hsince, h.produced, hret _ hsn, Option.isSome_some, Option.isSome_some,
            segmentsOf_append, segmentAt_cut]
          congr 2
          rw [hsn, hid, hso, hfragmented]
          cases cut <;> rfl
        · rw [List.sum_append, List.sum_singleton]
          simp only [Option.map_some, Option.getD_some]
          omega
        · rintro b ⟨rfl⟩
          refine ⟨hid, by simp, ?_⟩
          rw [List.length_append, List.length_singleton]
          dsimp only
          rw [hso, hfragmented]
          cases cut with
          | nil => rfl
          | cons n cut =>
            rw [if_pos (by simp)]
            unfold u16
            omega
      · -- the last segment, or the whole SDU
        have hfrag : buf.fragment left =
            ({ buf with si := if buf.isFragmented then .last else .all }, none) := if_neg hcut
        rw [hfrag] at hqueue hsince
        refine ⟨cut ++ [buf.dPayload], none, ?_, hbase, ?_, ?_, nofun, fun _ => by simp⟩
        · rw [hqueue]
          rfl
        · rw [hsince, h.produced, hret _ hsn, Option.isSome_some, Option.isSome_none,
            segmentsOf_append, segmentAt_last]
          congr 2
          rw [hsn, hid, hso, hfragmented]
          cases cut <;> rfl
        · simpa using hsum
  · -- another SDU
    rw [if_neg (by simpa using hsn)] at hold
    have hrest : (buf.fragment left).2.toList.filter (·.SN = sn) = [] := by
      rw [List.filter_eq_nil_iff]
      intro r hr
      rw [SN_rest (Option.mem_toList.1 hr)]
      simpa using hsn
    have hret : [(buf.fragment left).1.pdu].filter (·.SN = sn) = [] := by
      have hne : ¬ (buf.fragment left).1.pdu.SN = sn := by
        change ¬ (buf.fragment left).1.SN = sn
        rw [SN_fragment]
        exact hsn
      rw [List.filter_cons_of_neg (by simpa using hne), List.filter_nil]
    refine ⟨cut, rest, ?_, hbase, ?_, h.sum, h.rest_eq, h.cut_ne_nil⟩
    · rw [hqueue, hrest, List.nil_append]
      exact hold
    · rw [hsince, hret, List.append_nil]
      exact h.produced

theorem cut_sendPdu (h : ∃ cut rest, Cut base sn nPacketId dPayload cut rest s) (size : Nat)
    (channel : LogicalChannel) :
    ∃ cut rest, Cut base sn nPacketId dPayload cut rest (s.sendPdu size channel) := by
  refine sendPdu_rule (P := fun s => ∃ cut rest, Cut base sn nPacketId dPayload cut rest s) ?_ ?_ h
  · rintro s pre buf post ⟨cut, rest, h⟩ -
    obtain ⟨-, -, htransmission, -, -, hproduced, -⟩ := sent_sendAgain s pre buf post
    refine ⟨cut, rest, h.congr ?_ hproduced⟩
    unfold queue
    rw [htransmission]
  · rintro s left pre buf post ⟨cut, rest, h⟩ hlist - - -
    exact h.sendNew hlist

theorem cut_step {e : TxEvent} (h : ∃ cut rest, Cut base sn nPacketId dPayload cut rest s)
    (hsn : ∀ c i d, e = .upper c i d → s.TX_Next ≠ sn) (hs : s.step e = some s') :
    ∃ cut rest, Cut base sn nPacketId dPayload cut rest s' := by
  cases e with
  | upper channel nPacketId' dPayload' =>
    obtain rfl := Option.some.inj hs
    obtain ⟨cut, rest, h⟩ := h
    refine ⟨cut, rest, h.congr ?_ rfl⟩
    have hne := hsn _ _ _ rfl
    unfold queue handlePDUFromUpperLayer
    rw [List.filter_append, List.filter_cons_of_neg (by simpa using hne), List.filter_nil,
      List.append_nil]
  | grant size channel =>
    obtain rfl := Option.some.inj hs
    exact cut_sendPdu h size channel
  | statusPdu pdu =>
    obtain ⟨cut, rest, h⟩ := h
    have hreceived := statusReceived hs
    refine ⟨cut, rest, h.congr ?_ hreceived.produced⟩
    unfold queue
    rw [hreceived.transmissionBuffer]
  | pollRetransmitTimeout =>
    simp only [TransmittingEntity.step] at hs
    split at hs
    · obtain rfl := Option.some.inj hs
      obtain ⟨cut, rest, h⟩ := h
      exact ⟨cut, rest, h.congr rfl rfl⟩
    · cases hs

theorem cut_of_run {channel : LogicalChannel} {tr : List (TransmittingEntity × TxEvent)}
    (hnew : ∀ b ∈ s.transmissionBuffer, b.SN ≠ s.TX_Next)
    (run : Run TransmittingEntity.step (s.handlePDUFromUpperLayer channel nPacketId dPayload) tr s')
    (hsn : ∀ x ∈ tr, ∀ c i d, x.2 = .upper c i d → x.1.TX_Next ≠ s.TX_Next) :
    ∃ cut rest, Cut s.produced s.TX_Next nPacketId dPayload cut rest s' := by
  apply run.induction
    (P := fun _ s' => ∃ cut rest, Cut s.produced s.TX_Next nPacketId dPayload cut rest s')
    (Q := fun t e => ∀ c i d, e = .upper c i d → t.TX_Next ≠ s.TX_Next)
  · refine ⟨[], some {
        si := .all
        SN := s.TX_Next
        SO := 0
        retxCount := 0
        channel := channel
        nPacketId := nPacketId
        dPayload := dPayload
        isFragmented := false }, ?_, Nat.le_refl _, ?_, Nat.zero_add dPayload, ?_, nofun⟩
    · have hnone : s.transmissionBuffer.filter (·.SN = s.TX_Next) = [] := by
        rw [List.filter_eq_nil_iff]
        intro b hb
        simpa using hnew b hb
      unfold queue handlePDUFromUpperLayer
      rw [List.filter_append, hnone, List.nil_append, List.filter_cons_of_pos (by simp),
        List.filter_nil, Option.toList_some]
    · change (s.produced.drop s.produced.length).filter _ = []
      rw [List.drop_length, List.filter_nil]
    · rintro b ⟨rfl⟩
      exact ⟨rfl, rfl, rfl⟩
  · exact fun tr t e t' _ h hsn hstep => cut_step h hsn hstep
  · exact hsn

end TransmittingEntity

/-! ## Putting together -/

namespace ReceivingEntity

variable {sdus : Nat → Sdu} {s s' : ReceivingEntity} {p : AmdPdu} {sn : Nat}

/-- The entity has the segments `l` of the SDU `sn`, in the order of their arrival. -/
def HasOnly (s : ReceivingEntity) (sn : Nat) (l : List AmdPdu) : Prop :=
  match l with
  | [] => ∀ b ∈ s.receptionBuffer, b.SN ≠ sn
  | _ :: _ => ∃ b ∈ s.receptionBuffer, b.SN = sn ∧ b.packets = l

variable {l : List AmdPdu}

theorem HasOnly.of_core (h : HasOnly s sn l) (hcore : s'.core = s.core) : HasOnly s' sn l := by
  cases l with
  | nil =>
    intro b hb
    obtain ⟨b0, hb0, hsn, -⟩ := buffer_of_core hcore hb
    rw [← hsn]
    exact h b0 hb0
  | cons p l =>
    obtain ⟨b, hb, hsn, hpackets⟩ := h
    obtain ⟨b0, hb0, hsn0, hpackets0, -⟩ := buffer_of_core hcore.symm hb
    exact ⟨b0, hb0, hsn0.trans hsn, hpackets0.trans hpackets⟩

theorem HasOnly.endsIn (h : HasOnly s sn l) (hend : EndsIn s s') : HasOnly s' sn l := by
  rcases hend with hcore | hcore
  · exact h.of_core hcore
  · have hreport : HasOnly s.constructStatusPdu sn l := by
      cases l <;> exact h
    exact hreport.of_core hcore

theorem EndsIn.RX_Next (hend : EndsIn s s') : s'.RX_Next = s.RX_Next := by
  rcases hend with hcore | hcore
  · exact eq_of_core (g := ReceivingEntity.RX_Next) (fun _ => rfl) hcore
  · have heq := eq_of_core (g := ReceivingEntity.RX_Next) (fun _ => rfl) hcore
    exact heq

theorem HasOnly.packets_filled (h : HasOnly s p.SN l) (ha : Assembling sdus s) :
    (s.filled p).packets = l ++ [p] := by
  unfold filled findReceptionBuffer
  cases l with
  | nil =>
    rw [lookup_eq_none.2 h]
    rfl
  | cons q l =>
    obtain ⟨b, hb, hsn, hpackets⟩ := h
    have hfind := lookup_of_mem ha.distinct hb
    rw [hsn] at hfind
    rw [hfind]
    change b.packets ++ [p] = _
    rw [hpackets]

theorem HasOnly.accepts (h : HasOnly s p.SN l) (ha : Assembling sdus s)
    (hwindow : s.isSNFallsInReceivingWindow p.SN = true) (hnew : ∀ q ∈ l, q.SO ≠ p.SO) :
    s.accepts p = true := by
  unfold ReceivingEntity.accepts isPDUPresentInReceptionBuffer findReceptionBuffer
  rw [hwindow, Bool.true_and, Bool.not_eq_true']
  cases l with
  | nil => rw [lookup_eq_none.2 h]
  | cons q l =>
    obtain ⟨b, hb, hsn, hpackets⟩ := h
    have hfind := lookup_of_mem ha.distinct hb
    rw [hsn] at hfind
    rw [hfind]
    dsimp only
    rw [hpackets]
    simpa using hnew

/-- No index into the table of `LTENR_RLCAM_isAllByteSegmentReceived` is above `lastSDUSO`. -/
def IndexesInTable (b : ReceptionBuffer) : Prop :=
  b.isLastSDUReceived = true → ∀ p ∈ b.packets, p.SO ≤ b.lastSDUSO

theorem indexesInTable {sdu : Sdu} {b : ReceptionBuffer} (h : b.Wf sdu) : IndexesInTable b := by
  intro hlast p hp
  have hlength := (h.last hlast).1
  have := (h.segment p hp).so_lt
  omega

theorem receivePdu_incomplete (h : HasOnly s p.SN l) (ha : Assembling sdus s)
    (hp : p.IsSegment (sdus p.SN)) (hwindow : s.isSNFallsInReceivingWindow p.SN = true)
    (hnew : ∀ q ∈ l, q.SO ≠ p.SO)
    (hmissing : ∃ so < (sdus p.SN).segments.length, ∀ q ∈ l ++ [p], q.SO ≠ so) :
    Assembling sdus (s.receivePdu p) ∧ HasOnly (s.receivePdu p) p.SN (l ++ [p]) ∧
      (s.receivePdu p).RX_Next = s.RX_Next ∧ (s.receivePdu p).pdcp = s.pdcp := by
  have haccepts := h.accepts ha hwindow hnew
  have hpackets := h.packets_filled ha
  have hopen : (s.filled p).isAllByteSegmentReceived = false := by
    rw [Bool.eq_false_iff]
    intro hall
    obtain ⟨so, hso, hno⟩ := hmissing
    obtain ⟨q, hq, hqso⟩ := (ha.filled haccepts hp).isAllByteSegmentReceived_iff.1 hall so hso
    rw [hpackets] at hq
    exact hno q hq hqso
  have htake : s.takePdu p = s.place p := by
    unfold takePdu
    rw [hopen]
    rfl
  have hplaced : HasOnly (s.place p) p.SN (l ++ [p]) := by
    have hmem : s.filled p ∈ (s.place p).receptionBuffer := ha.mem_place.2 (.inl rfl)
    cases l with
    | nil => exact ⟨s.filled p, hmem, SN_filled s p, hpackets⟩
    | cons q l => exact ⟨s.filled p, hmem, SN_filled s p, hpackets⟩
  have hstep : s.step (.pdu p) = some (s.receivePdu p) := rfl
  have hs := stepped hstep
  generalize s.receivePdu p = s' at hs ⊢
  cases hs with
  | discarded hrejects =>
    rw [haccepts] at hrejects
    cases hrejects
  | taken _ hend _ =>
    have hassembling := (ha.takePdu haccepts hp).endsIn hend
    rw [htake] at hend
    exact ⟨hassembling, hplaced.endsIn hend, hend.RX_Next, hend.pdcp⟩

theorem receivePdu_complete (h : HasOnly s p.SN l) (ha : Assembling sdus s)
    (hp : p.IsSegment (sdus p.SN)) (hwindow : s.isSNFallsInReceivingWindow p.SN = true)
    (hnew : ∀ q ∈ l, q.SO ≠ p.SO)
    (hall : ∀ so < (sdus p.SN).segments.length, ∃ q ∈ l ++ [p], q.SO = so) :
    (s.receivePdu p).pdcp = s.pdcp ++ [deliveryOf sdus p.SN] := by
  have haccepts := h.accepts ha hwindow hnew
  have hcomplete : (s.filled p).isAllByteSegmentReceived = true := by
    rw [(ha.filled haccepts hp).isAllByteSegmentReceived_iff, h.packets_filled ha]
    exact hall
  have hpdcp := ha.pdcp_takePdu haccepts hp
  rw [if_pos hcomplete] at hpdcp
  have hstep : s.step (.pdu p) = some (s.receivePdu p) := rfl
  have hs := stepped hstep
  generalize s.receivePdu p = s' at hs ⊢
  cases hs with
  | discarded hrejects =>
    rw [haccepts] at hrejects
    cases hrejects
  | taken _ hend _ => rw [hend.pdcp, hpdcp]

def unpolled (p : AmdPdu) : AmdPdu := { p with P := false }

section Arrivals

variable {sdu : Sdu} {arrivals : List AmdPdu}

theorem isSegment_of_perm (hperm : (arrivals.map unpolled).Perm (sdu.pdus sn)) :
    ∀ p ∈ arrivals, p.IsSegment sdu ∧ p.SN = sn := by
  intro p hp
  have hmem : unpolled p ∈ sdu.pdus sn := hperm.mem_iff.1 (List.mem_map_of_mem hp)
  obtain ⟨so, hso, heq⟩ := List.mem_map.1 hmem
  have hseg : (sdu.pdu false sn so).IsSegment sdu := Sdu.isSegment_pdu (List.mem_range.1 hso)
  obtain ⟨h1, h2, h3, h4⟩ := hseg
  rw [heq] at h1 h2 h3 h4
  exact ⟨⟨h1, h2, h3, h4⟩, (congrArg AmdPdu.SN heq).symm⟩

theorem map_SO_of_perm (hperm : (arrivals.map unpolled).Perm (sdu.pdus sn)) :
    (arrivals.map AmdPdu.SO).Perm (List.range sdu.segments.length) := by
  have h := hperm.map AmdPdu.SO
  rw [List.map_map] at h
  have hso : (sdu.pdus sn).map AmdPdu.SO = List.range sdu.segments.length := by
    unfold Sdu.pdus
    rw [List.map_map]
    exact List.map_id'' (fun _ => rfl) _
  rw [hso] at h
  exact h

theorem collects {r : ReceivingEntity} (ha : Assembling sdus r) (hnone : HasOnly r sn [])
    (hwindow : r.isSNFallsInReceivingWindow sn = true)
    (hperm : (arrivals.map unpolled).Perm ((sdus sn).pdus sn)) :
    ∀ l1 l2, arrivals = l1 ++ l2 → l2 ≠ [] → Assembling sdus (l1.foldl receivePdu r) ∧
      HasOnly (l1.foldl receivePdu r) sn l1 ∧ (l1.foldl receivePdu r).RX_Next = r.RX_Next ∧
      (l1.foldl receivePdu r).pdcp = r.pdcp := by
  intro l1
  induction l1 using List.reverseRecOn with
  | nil => exact fun _ _ _ => ⟨ha, hnone, rfl, rfl⟩
  | append_singleton l1 p ih =>
    intro l2 hsplit hmore
    rw [List.append_assoc, List.singleton_append] at hsplit
    obtain ⟨ha', hhas, hnext, hpdcp⟩ := ih (p :: l2) hsplit nofun
    rw [List.foldl_append, List.foldl_cons, List.foldl_nil]
    have hp : p ∈ arrivals := by
      rw [hsplit]
      simp
    obtain ⟨hseg, hsn⟩ := isSegment_of_perm hperm p hp
    have hso := map_SO_of_perm hperm
    have hnodup := hso.symm.nodup List.nodup_range
    rw [hsplit, List.map_append, List.map_cons, List.nodup_append] at hnodup
    obtain ⟨-, hrest, hdistinct⟩ := hnodup
    rw [List.nodup_cons] at hrest
    obtain ⟨q, l2', rfl⟩ := List.exists_cons_of_ne_nil hmore
    have hin : (l1.foldl receivePdu r).isSNFallsInReceivingWindow p.SN = true := by
      unfold isSNFallsInReceivingWindow at hwindow ⊢
      rw [hnext, hsn]
      exact hwindow
    have hnew : ∀ q ∈ l1, q.SO ≠ p.SO :=
      fun q hq => hdistinct _ (List.mem_map_of_mem hq) _ List.mem_cons_self
    have hmissing : ∃ so < (sdus p.SN).segments.length, ∀ c ∈ l1 ++ [p], c.SO ≠ so := by
      refine ⟨q.SO, ?_, ?_⟩
      · rw [hsn, ← List.mem_range]
        apply hso.mem_iff.1
        simp [hsplit]
      · intro c hc
        rcases List.mem_append.1 hc with hc | hc
        · exact hdistinct _ (List.mem_map_of_mem hc) _
            (List.mem_cons_of_mem _ (List.mem_map_of_mem List.mem_cons_self))
        · obtain rfl := List.mem_singleton.1 hc
          intro heq
          exact hrest.1 (by rw [heq]; exact List.mem_cons_self)
    rw [← hsn] at hseg hhas ⊢
    obtain ⟨h1, h2, h3, h4⟩ := receivePdu_incomplete hhas ha' hseg hin hnew hmissing
    exact ⟨h1, h2, h3.trans hnext, h4.trans hpdcp⟩

end Arrivals

/-- A receiver in any state puts the segments `pdus` of the SDU `sn` together, in any order: nothing
goes to PDCP until the last arrives, and then the packet with its payload. -/
def Reassembles (sdu : Sdu) (sn : Nat) (pdus : List AmdPdu) : Prop :=
  ∀ (sdus : Nat → Sdu) (maxRetxThreshold : Nat) (tr : List (ReceivingEntity × RxEvent))
    (r : ReceivingEntity), sdus sn = sdu → Run step (establish maxRetxThreshold) tr r →
    (∀ x ∈ tr, ∀ p, x.2 = .pdu p → p.IsSegment (sdus p.SN)) →
    (∀ b ∈ r.receptionBuffer, b.SN ≠ sn) → r.isSNFallsInReceivingWindow sn = true →
    ∀ arrivals : List AmdPdu, (arrivals.map unpolled).Perm pdus →
      (∀ l₁ p l₂, arrivals = l₁ ++ p :: l₂ → IndexesInTable ((l₁.foldl receivePdu r).filled p)) ∧
      (∀ l₁ l₂, arrivals = l₁ ++ l₂ → l₂ ≠ [] → (l₁.foldl receivePdu r).pdcp = r.pdcp) ∧
      (arrivals.foldl receivePdu r).pdcp = r.pdcp ++ [⟨sn, sdu.nPacketId, sdu.segments.sum⟩]

theorem assembling_of_run {maxRetxThreshold : Nat} {tr : List (ReceivingEntity × RxEvent)}
    (run : Run step (establish maxRetxThreshold) tr s)
    (hpdus : ∀ x ∈ tr, ∀ p, x.2 = .pdu p → p.IsSegment (sdus p.SN)) : Assembling sdus s := by
  apply run.induction (P := fun _ s => Assembling sdus s)
    (Q := fun _ e => ∀ p, e = .pdu p → p.IsSegment (sdus p.SN))
  · exact ⟨List.nodup_nil, nofun⟩
  · exact fun tr s e s' _ h hpdu hstep => h.stepped hpdu (stepped hstep)
  · exact hpdus

theorem reassembles_pdus (sdu : Sdu) (sn : Nat) : Reassembles sdu sn (sdu.pdus sn) := by
  rintro sdus maxRetxThreshold tr r rfl run hpdus hnone hwindow arrivals hperm
  have ha := assembling_of_run run hpdus
  have hcollects := collects ha hnone hwindow hperm
  have hsegments := isSegment_of_perm hperm
  have hso := map_SO_of_perm hperm
  -- the state in which a segment arrives
  have harrival : ∀ l1 p l2, arrivals = l1 ++ p :: l2 →
      (l1.foldl receivePdu r).isSNFallsInReceivingWindow p.SN = true ∧
      HasOnly (l1.foldl receivePdu r) p.SN l1 ∧ p.IsSegment (sdus p.SN) ∧
      (∀ q ∈ l1, q.SO ≠ p.SO) := by
    intro l1 p l2 hsplit
    obtain ⟨-, hhas, hnext, -⟩ := hcollects l1 (p :: l2) hsplit nofun
    obtain ⟨hseg, hsn⟩ := hsegments p (by rw [hsplit]; simp)
    have hnodup := hso.symm.nodup List.nodup_range
    rw [hsplit, List.map_append, List.map_cons, List.nodup_append] at hnodup
    rw [hsn]
    refine ⟨?_, hhas, hseg, ?_⟩
    · unfold isSNFallsInReceivingWindow at hwindow ⊢
      rw [hnext]
      exact hwindow
    · exact fun q hq => hnodup.2.2 _ (List.mem_map_of_mem hq) _ List.mem_cons_self
  refine ⟨?_, ?_, ?_⟩
  · intro l1 p l2 hsplit
    obtain ⟨hin, hhas, hseg, hnew⟩ := harrival l1 p l2 hsplit
    have ha' := (hcollects l1 (p :: l2) hsplit nofun).1
    exact indexesInTable (ha'.filled (hhas.accepts ha' hin hnew) hseg)
  · exact fun l1 l2 hsplit hmore => (hcollects l1 l2 hsplit hmore).2.2.2
  · -- there is a segment, so there is one that arrives last
    have hne : arrivals ≠ [] := by
      rintro rfl
      have hlength := hso.length_eq
      rw [List.length_range] at hlength
      exact absurd hlength.symm (Nat.ne_of_gt (sdus sn).length_pos)
    obtain ⟨l1, p, rfl⟩ : ∃ l1 p, arrivals = l1 ++ [p] :=
      ⟨arrivals.dropLast, arrivals.getLast hne, (List.dropLast_append_getLast hne).symm⟩
    obtain ⟨hin, hhas, hseg, hnew⟩ := harrival l1 p [] rfl
    obtain ⟨ha', -, -, hpdcp⟩ := hcollects l1 [p] rfl nofun
    have hsn := (hsegments p (by simp)).2
    rw [List.foldl_append, List.foldl_cons, List.foldl_nil,
      receivePdu_complete hhas ha' hseg hin hnew, hpdcp, hsn]
    · rfl
    · intro so hlt
      rw [hsn] at hlt
      obtain ⟨q, hq, heq⟩ := List.mem_map.1 (hso.mem_iff.2 (List.mem_range.2 hlt))
      exact ⟨q, hq, heq⟩

end ReceivingEntity

/-! ## The round trip -/

namespace TransmittingEntity

variable {s s' : TransmittingEntity}

/-- For every SDU and every run that follows, as long as no other SDU gets its SN: once nothing of
it is queued, its segments have no gap, and every receiver puts them together. -/
theorem roundTrip {channel : LogicalChannel} {nPacketId dPayload : Nat}
    {tr : List (TransmittingEntity × TxEvent)}
    (hnew : ∀ b ∈ s.transmissionBuffer, b.SN ≠ s.TX_Next)
    (run : Run TransmittingEntity.step (s.handlePDUFromUpperLayer channel nPacketId dPayload) tr s')
    (hsn : ∀ x ∈ tr, ∀ c i d, x.2 = .upper c i d → x.1.TX_Next ≠ s.TX_Next)
    (hlength : (s'.producedSince s.produced s.TX_Next).length < 2 ^ 16) :
    (s'.producedSince s.produced s.TX_Next).map AmdPdu.SO =
        List.range (s'.producedSince s.produced s.TX_Next).length ∧
      (s'.queue s.TX_Next = [] → ∃ sdu : Sdu, sdu.nPacketId = nPacketId ∧
        sdu.segments.sum = dPayload ∧
        s'.producedSince s.produced s.TX_Next = sdu.pdus s.TX_Next ∧
        ReceivingEntity.Reassembles sdu s.TX_Next (s'.producedSince s.produced s.TX_Next)) := by
  obtain ⟨cut, rest, h⟩ := cut_of_run hnew run hsn
  rw [h.produced, length_segmentsOf] at hlength
  rw [h.produced, length_segmentsOf]
  constructor
  · unfold segmentsOf
    rw [List.map_map]
    refine (List.map_congr_left fun so hso => ?_).trans (List.map_id _)
    rw [List.mem_range] at hso
    exact u16_of_lt (by omega)
  · intro hqueue
    rw [h.queue] at hqueue
    cases rest with
    | some b => cases hqueue
    | none =>
      have hpos : 0 < cut.length := List.length_pos_iff.2 (h.cut_ne_nil rfl)
      refine ⟨⟨nPacketId, cut, hpos, hlength⟩, rfl, h.sum, ?_, ?_⟩
      · exact segmentsOf_eq_pdus ⟨nPacketId, cut, hpos, hlength⟩ s.TX_Next
      · rw [Option.isSome_none, segmentsOf_eq_pdus ⟨nPacketId, cut, hpos, hlength⟩ s.TX_Next]
        exact ReceivingEntity.reassembles_pdus _ _

/-- Three grants for an SDU of 25 bytes. -/
theorem roundTrip_threeGrants :
    ∃ tr s', Run TransmittingEntity.step
        ((establish 4 4 100).handlePDUFromUpperLayer .dtch 1 25) tr s' ∧
      s'.mac = [⟨false, .first, 0, 0, 1, 10⟩, ⟨false, .middle, 0, 1, 1, 10⟩,
        ⟨true, .last, 0, 2, 1, 5⟩] ∧
      ∃ sdu : Sdu, sdu.nPacketId = 1 ∧ sdu.segments.sum = 25 ∧
        s'.producedSince [] 0 = sdu.pdus 0 ∧
        ReceivingEntity.Reassembles sdu 0 (s'.producedSince [] 0) := by
  have hexec : (exec TransmittingEntity.step
      ((establish 4 4 100).handlePDUFromUpperLayer .dtch 1 25)
      [fun _ => some (.grant 10 .dtch), fun _ => some (.grant 10 .dtch),
        fun _ => some (.grant 10 .dtch)]).any
      (fun r => (r.1.all fun x => x.2 = .grant 10 .dtch) &&
        decide (r.2.mac = [⟨false, .first, 0, 0, 1, 10⟩, ⟨false, .middle, 0, 1, 1, 10⟩,
          ⟨true, .last, 0, 2, 1, 5⟩] ∧ r.2.queue 0 = [] ∧
          (r.2.producedSince [] 0).length < 2 ^ 16)) = true := by decide +kernel
  obtain ⟨tr, s', run, htest⟩ := run_of_exec hexec
  simp only [Bool.and_eq_true, List.all_eq_true, decide_eq_true_eq] at htest
  obtain ⟨hgrants, hmac, hqueue, hlength⟩ := htest
  have hempty : ∀ b ∈ (establish 4 4 100).transmissionBuffer,
      b.SN ≠ (establish 4 4 100).TX_Next := by
    intro b hb
    cases hb
  have hround := roundTrip hempty run (fun x hx c i d heq => by
    have := hgrants x hx
    rw [heq] at this
    cases this) hlength
  exact ⟨tr, s', run, hmac, hround.2 hqueue⟩

/-- Only the SDU with SN 0 is queued, with `n` bytes left and `k` segments sent. -/
structure Waiting (n k : Nat) (s : TransmittingEntity) : Prop where
  ack : s.TX_Next_Ack = 0
  retransmission : s.retransmissionBuffer = []
  single : ∃ b, s.transmissionBuffer = [b] ∧ b.channel = .dtch ∧ b.SN = 0 ∧ b.dPayload = n
  length : (s.producedSince [] 0).length = k

theorem Waiting.sendPdu {n k : Nat} (h : Waiting n k s) :
    ∃ b, s.transmissionBuffer = [b] ∧ b.channel = .dtch ∧ b.SN = 0 ∧ b.dPayload = n ∧
      s.sendPdu 10 .dtch = s.sendNew 10 [] b [] := by
  obtain ⟨b, hlist, hchannel, hsn, hpayload⟩ := h.single
  refine ⟨b, hlist, hchannel, hsn, hpayload, ?_⟩
  have hstop : s.transmits .dtch 10 b = true := by
    simp [transmits, hchannel, isSNFallsInTransmittingWindow, h.ack, hsn, u32, amWindowSize]
  have hsplit : splitFirst (s.transmits .dtch 10) s.transmissionBuffer = some ([], b, []) := by
    rw [hlist]
    exact if_pos hstop
  have hround : sendPDUFromTransmissionBuffer .dtch 1 s 10 = (s.sendNew 10 [] b [],
      10 - (b.fragment 10).1.dPayload) := by
    unfold sendPDUFromTransmissionBuffer
    rw [hsplit]
    rfl
  unfold TransmittingEntity.sendPdu
  rw [h.retransmission]
  change (sendPDUFromTransmissionBuffer .dtch s.transmissionBuffer.length s 10).1 = _
  rw [hlist, List.length_singleton, hround]

theorem length_producedSince_sendNew {b : RlcBuffer} (hsn : b.SN = 0) :
    ((s.sendNew 10 [] b []).producedSince [] 0).length = (s.producedSince [] 0).length + 1 := by
  obtain ⟨-, -, -, -, -, hproduced, -⟩ := sent_sendNew s 10 [] b []
  have hsn' : (b.fragment 10).1.pdu.SN = 0 := (SN_fragment b 10).trans hsn
  have hbase : ([] : List AmdPdu).length ≤ s.produced.length := Nat.zero_le _
  rw [producedSince_append 0 hbase hproduced, List.length_append,
    List.filter_cons_of_pos (by simpa using hsn'), List.filter_nil, List.length_singleton]

theorem Waiting.grant {n k : Nat} (h : Waiting n k s) (hn : 10 < n) :
    Waiting (n - 10) (k + 1) (s.sendPdu 10 .dtch) := by
  obtain ⟨b, hlist, hchannel, hsn, hpayload, heq⟩ := h.sendPdu
  obtain ⟨hack, -, htransmission, hretx, -, -, -⟩ := sent_sendNew s 10 [] b []
  have hrest : (b.fragment 10).2 = some { b with
      si := .last
      SO := if b.isFragmented then u16 (b.SO + 1) else 1
      dPayload := b.dPayload - 10
      isFragmented := true } := by
    unfold RlcBuffer.fragment
    rw [if_pos (by omega)]
  rw [heq]
  refine ⟨hack.trans h.ack, hretx.trans h.retransmission, ?_, ?_⟩
  · rw [htransmission, hrest]
    exact ⟨_, rfl, hchannel, hsn, congrArg (· - 10) hpayload⟩
  · rw [length_producedSince_sendNew hsn, h.length]

theorem Waiting.lastGrant {k : Nat} (h : Waiting 10 k s) :
    (s.sendPdu 10 .dtch).queue 0 = [] ∧
      ((s.sendPdu 10 .dtch).producedSince [] 0).length = k + 1 := by
  obtain ⟨b, hlist, -, hsn, hpayload, heq⟩ := h.sendPdu
  obtain ⟨-, -, htransmission, -⟩ := sent_sendNew s 10 [] b []
  have hrest : (b.fragment 10).2 = none := by
    unfold RlcBuffer.fragment
    rw [if_neg (by omega)]
  rw [heq]
  constructor
  · unfold queue
    rw [htransmission, hrest]
    rfl
  · rw [length_producedSince_sendNew hsn, h.length]

theorem waiting_of_grants (k m : Nat) (hm : 0 < m) :
    ∃ tr s, Run TransmittingEntity.step
        ((establish 4 4 100).handlePDUFromUpperLayer .dtch 1 (10 * (k + m))) tr s ∧
      (∀ x ∈ tr, x.2 = .grant 10 .dtch) ∧ Waiting (10 * m) k s := by
  induction k generalizing m with
  | zero =>
    refine ⟨[], _, .nil, nofun, rfl, rfl, ⟨_, rfl, rfl, rfl, ?_⟩, rfl⟩
    rw [Nat.zero_add]
  | succ k ih =>
    obtain ⟨tr, s, run, hgrants, h⟩ := ih (m + 1) (Nat.succ_pos m)
    rw [show k + (m + 1) = k + 1 + m by omega] at run
    refine ⟨(s, .grant 10 .dtch) :: tr, s.sendPdu 10 .dtch, run.snoc rfl, ?_, ?_⟩
    · intro x hx
      rcases List.mem_cons.1 hx with rfl | hx
      · rfl
      · exact hgrants x hx
    · have hnext := h.grant (by omega)
      rwa [show 10 * (m + 1) - 10 = 10 * m by omega] at hnext

/-- An SDU of 655370 bytes, sent in 65537 grants of ten: its last segment has an offset that has
been used before. -/
theorem not_roundTrip_tenByteGrants :
    ∃ tr s', Run TransmittingEntity.step
        ((establish 4 4 100).handlePDUFromUpperLayer .dtch 1 655370) tr s' ∧
      (∀ x ∈ tr, x.2 = .grant 10 .dtch) ∧ s'.queue 0 = [] ∧
      (s'.producedSince [] 0).length = 65537 ∧
      (s'.producedSince [] 0).map AmdPdu.SO ≠ List.range 65537 := by
  obtain ⟨tr, s, run, hgrants, h⟩ := waiting_of_grants 65536 1 Nat.one_pos
  obtain ⟨hqueue, hlength⟩ := h.lastGrant
  have hrun : Run TransmittingEntity.step
      ((establish 4 4 100).handlePDUFromUpperLayer .dtch 1 655370)
      ((s, .grant 10 .dtch) :: tr) (s.sendPdu 10 .dtch) := run.snoc rfl
  have hall : ∀ x ∈ (s, TxEvent.grant 10 .dtch) :: tr, x.2 = .grant 10 .dtch := by
    intro x hx
    rcases List.mem_cons.1 hx with rfl | hx
    · rfl
    · exact hgrants x hx
  have hempty : ∀ b ∈ (establish 4 4 100).transmissionBuffer,
      b.SN ≠ (establish 4 4 100).TX_Next := by
    intro b hb
    cases hb
  obtain ⟨cut, rest, hcut⟩ := cut_of_run hempty hrun (fun x hx c i d heq => by
    rw [hall x hx] at heq
    cases heq)
  refine ⟨_, _, hrun, hall, hqueue, hlength, fun hrange => ?_⟩
  have hmem : 65536 ∈ ((s.sendPdu 10 .dtch).producedSince [] 0).map AmdPdu.SO := by
    rw [hrange, List.mem_range]
    decide
  have hproduced : (s.sendPdu 10 .dtch).producedSince [] 0 =
      segmentsOf 1 0 cut rest.isSome := hcut.produced
  rw [hproduced] at hmem
  obtain ⟨p, hp, hso⟩ := List.mem_map.1 hmem
  obtain ⟨i, -, rfl⟩ := List.mem_map.1 hp
  have hlt : u16 i < 65536 := Nat.mod_lt _ (by decide)
  change u16 i = 65536 at hso
  omega

end TransmittingEntity

end NetSim.Rlc
