import NetSim.Tcp.Unacceptable

/-!
# How far the sending functions send (`TCP_Outgoing.c`, `SACK.c`)

`send_segment` sends as long as a packet ends within the congestion window, and so does the recovery
of SACK. The packets end below `2 ^ 32`.
-/

namespace NetSim.Tcp

def packetBytes (packets : List AppPacket) : Nat := (packets.map AppPacket.dPacketSize).sum

@[simp] theorem packetBytes_nil : packetBytes [] = 0 := rfl

@[simp] theorem packetBytes_cons (p : AppPacket) (rest : List AppPacket) :
    packetBytes (p :: rest) = p.dPacketSize + packetBytes rest := rfl

theorem packetBytes_append (l l' : List AppPacket) :
    packetBytes (l ++ l') = packetBytes l + packetBytes l' := by
  simp [packetBytes]

namespace Conn

variable {s s₁ s' : Conn}

/-- The number behind the last byte that the application has left. -/
def streamEnd (s : Conn) : Nat := s.tcb.SND.NXT + packetBytes s.sId

def place (s : Conn) : Nat × Nat × List AppPacket := (s.tcb.SND.UNA, s.tcb.SND.NXT, s.sId)

/-- From `s` to `s'` the first packets that wait have been sent, if any, up to the end of the
congestion window. -/
structure Advances (s s' : Conn) : Prop where
  una : s'.tcb.SND.UNA = s.tcb.SND.UNA
  waits : s'.sId <:+ s.sId
  streamEnd : s'.streamEnd = s.streamEnd
  nxt_le : s.tcb.SND.NXT ≤ s'.tcb.SND.NXT
  within : s'.tcb.SND.NXT = s.tcb.SND.NXT ∨
    s'.tcb.SND.NXT ≤ s'.tcb.SND.UNA + s'.tcb.windowScaleGetCwnd

theorem Advances.of_place (h : s'.place = s.place) : Advances s s' := by
  simp only [place, Prod.mk.injEq] at h
  obtain ⟨huna, hnxt, hsId⟩ := h
  have hstream : s'.streamEnd = s.streamEnd := by
    rw [Conn.streamEnd, Conn.streamEnd, hnxt, hsId]
  have hwaits : s'.sId <:+ s.sId := hsId ▸ List.suffix_refl _
  exact ⟨huna, hwaits, hstream, hnxt.ge, .inl hnxt⟩

theorem Advances.refl (s : Conn) : Advances s s := .of_place rfl

theorem Advances.trans (h1 : Advances s s₁) (h2 : Advances s₁ s')
    (hcwnd : s'.tcb.windowScaleGetCwnd = s₁.tcb.windowScaleGetCwnd) : Advances s s' := by
  refine ⟨h2.una.trans h1.una, h2.waits.trans h1.waits, h2.streamEnd.trans h1.streamEnd,
    h1.nxt_le.trans h2.nxt_le, ?_⟩
  rcases h2.within with hstays | hwithin
  · rcases h1.within with hstays1 | hwithin1
    · exact .inl (hstays.trans hstays1)
    · rw [hstays, h2.una, hcwnd]
      exact .inr hwithin1
  · exact .inr hwithin

theorem Advances.from_place (hplace : s₁.place = s.place) (h : Advances s₁ s') : Advances s s' := by
  simp only [place, Prod.mk.injEq] at hplace
  obtain ⟨huna, hnxt, hsId⟩ := hplace
  obtain ⟨hsame, hwaits, hstream, hle, hwithin⟩ := h
  rw [Conn.streamEnd, Conn.streamEnd, hnxt, hsId] at hstream
  rw [huna] at hsame
  rw [hsId] at hwaits
  rw [hnxt] at hle hwithin
  exact ⟨hsame, hwaits, hstream, hle, hwithin⟩

theorem cwnd_of_controls {t t' : Tcb} (h : t'.controls = t.controls) :
    t'.windowScaleGetCwnd = t.windowScaleGetCwnd := by
  simp only [Tcb.controls, Prod.mk.injEq] at h
  obtain ⟨hcong, -, -, hscaling, hshift⟩ := h
  rw [Tcb.windowScaleGetCwnd, Tcb.getWND, hcong, hscaling, hshift]
  rfl

/-! ## `send_segment` -/

theorem sendLoop_place (l : List AppPacket) (s : Conn)
    (hend : s.tcb.SND.NXT + packetBytes l < 2 ^ 32) :
    (s.sendLoop l).tcb.SND.UNA = s.tcb.SND.UNA ∧ (s.sendLoop l).sId <:+ l ∧
      (s.sendLoop l).streamEnd = s.tcb.SND.NXT + packetBytes l ∧
      s.tcb.SND.NXT ≤ (s.sendLoop l).tcb.SND.NXT ∧
      ((s.sendLoop l).tcb.SND.NXT = s.tcb.SND.NXT ∨
        (s.sendLoop l).tcb.SND.NXT ≤ s.tcb.SND.UNA + s.tcb.SND.WND) := by
  induction l generalizing s with
  | nil => exact ⟨rfl, List.suffix_refl [], rfl, Nat.le_refl _, .inl rfl⟩
  | cons p rest ih =>
    rw [packetBytes_cons] at hend ⊢
    rw [sendLoop]
    split
    · next hroom =>
      have hsize : u32 p.dPacketSize = p.dPacketSize := u32_of_lt (by omega)
      have hnxt : (s.sendPacket p).tcb.SND.NXT = s.tcb.SND.NXT + p.dPacketSize := by
        change u32 (s.tcb.SND.NXT + u32 p.dPacketSize) = _
        rw [hsize, u32_of_lt (by omega)]
      obtain ⟨huna, hwaits, hstream, hle, hwithin⟩ := ih (s.sendPacket p) (by rw [hnxt]; omega)
      have hfits : s.tcb.SND.NXT + p.dPacketSize ≤ s.tcb.SND.UNA + s.tcb.SND.WND := by
        have htest := of_decide_eq_true hroom
        have hwrap : u32 (s.tcb.SND.WND + s.tcb.SND.UNA) ≤ s.tcb.SND.WND + s.tcb.SND.UNA :=
          Nat.mod_le _ _
        rw [hsize, u32_of_lt (by omega)] at htest
        omega
      refine ⟨huna, hwaits.trans (List.suffix_cons p rest), by omega, by omega, .inr ?_⟩
      rcases hwithin with hstays | hmore
      · omega
      · exact hmore
    · exact ⟨rfl, List.suffix_refl _, rfl, Nat.le_refl _, .inl rfl⟩

theorem place_tcpClose (s : Conn) : s.tcpClose.place = s.place := by
  unfold tcpClose
  split
  · rfl
  · obtain ⟨prev, heq⟩ := s.sendFin.changeState_eq .finWait1
    rw [heq]
    rfl

theorem advances_openLoop (hend : s.streamEnd < 2 ^ 32) :
    Advances s (s.openWindow.sendLoop s.sId) := by
  obtain ⟨huna, hwaits, hstream, hle, hwithin⟩ := sendLoop_place s.sId s.openWindow hend
  have hcwnd : (s.openWindow.sendLoop s.sId).tcb.windowScaleGetCwnd =
      s.tcb.windowScaleGetCwnd := cwnd_of_controls (controls_sendLoop s.sId s.openWindow)
  refine ⟨huna, hwaits, hstream, hle, ?_⟩
  rw [hcwnd, huna]
  exact hwithin

theorem advances_sendSegment (hend : s.streamEnd < 2 ^ 32) : Advances s s.sendSegment := by
  have hwait : (if s.sId = [] then { s with waitFromApp := true } else s).place = s.place := by
    split
    · rfl
    · rfl
  unfold sendSegment
  generalize (if s.sId = [] then { s with waitFromApp := true } else s) = s₁ at hwait ⊢
  have hend1 : s₁.streamEnd < 2 ^ 32 := by
    rw [(Advances.of_place hwait).streamEnd]
    exact hend
  have hloop := advances_openLoop hend1
  apply Advances.from_place hwait
  dsimp only
  split
  · apply hloop.trans (.of_place (place_tcpClose _))
    exact cwnd_of_controls (controls_tcpClose _)
  · exact hloop

/-! ## The recovery of SACK -/

structure Recovers (s s' : Conn) : Prop where
  advances : Advances s s'
  controls : s'.tcb.controls = s.tcb.controls

theorem Recovers.refl (s : Conn) : Recovers s s := ⟨.refl s, rfl⟩

theorem Recovers.trans (h1 : Recovers s s₁) (h2 : Recovers s₁ s') : Recovers s s' :=
  ⟨h1.advances.trans h2.advances (cwnd_of_controls h2.controls), h2.controls.trans h1.controls⟩

theorem recovers_sackNextSeg (s : Conn) : Recovers s s.sackNextSeg.2 := by
  unfold sackNextSeg
  dsimp only
  split
  · exact .refl s
  · split
    · exact ⟨.of_place rfl, rfl⟩
    · exact ⟨.of_place rfl, rfl⟩

theorem recovers_resend (s : Conn) (seq : Nat) :
    Recovers s (s.resendSegmentWithoutTimeout seq) := by
  unfold resendSegmentWithoutTimeout
  split
  · exact .refl s
  · split
    · exact .refl s
    · exact ⟨.of_place rfl, rfl⟩

theorem recovers_sendSegment (hend : s.streamEnd < 2 ^ 32) : Recovers s s.sendSegment :=
  ⟨advances_sendSegment hend, controls_sendSegment s⟩

theorem recovers_lossRecoveryLoop (wnd mss rounds pipe : Nat) (s : Conn)
    (hend : s.streamEnd < 2 ^ 32) : Recovers s (lossRecoveryLoop wnd mss rounds pipe s) := by
  induction rounds generalizing pipe s with
  | zero => exact .refl s
  | succ rounds ih =>
    rw [lossRecoveryLoop]
    split
    · exact .refl s
    · have hnext := recovers_sackNextSeg s
      generalize s.sackNextSeg = r at hnext
      obtain ⟨next, s₁⟩ := r
      have hend1 : s₁.streamEnd < 2 ^ 32 := by
        rw [hnext.advances.streamEnd]
        exact hend
      cases next with
      | none => exact hnext
      | some nextSeg =>
        dsimp only
        split
        · have hresend : Recovers s₁
              ((s₁.resendSegmentWithoutTimeout nextSeg).setHighRxt nextSeg) :=
            (recovers_resend s₁ nextSeg).trans ⟨.of_place rfl, rfl⟩
          apply hnext.trans (hresend.trans (ih _ _ _))
          rw [hresend.advances.streamEnd]
          exact hend1
        · have hsend : Recovers s₁ (s₁.sendSegment.mapTcb fun t => { t with
              pipe := u32 (t.pipe + sub32 s₁.sendSegment.tcb.SND.NXT s₁.tcb.SND.NXT) }) :=
            (recovers_sendSegment hend1).trans ⟨.of_place rfl, rfl⟩
          apply hnext.trans (hsend.trans (ih _ _ _))
          rw [hsend.advances.streamEnd]
          exact hend1

theorem recovers_sackLossRecoveryPhase (hend : s.streamEnd < 2 ^ 32) :
    Recovers s s.sackLossRecoveryPhase.2 := by
  unfold sackLossRecoveryPhase
  split
  · exact .refl s
  · have hpipe : Recovers s (s.mapTcb Tcb.sackSetPipe) := ⟨.of_place rfl, rfl⟩
    refine hpipe.trans (recovers_lossRecoveryLoop _ _ _ _ _ ?_)
    rw [hpipe.advances.streamEnd]
    exact hend

theorem advances_stayInRecovery (hend : s.streamEnd < 2 ^ 32) : Advances s s.stayInRecovery := by
  unfold stayInRecovery
  split
  · have hphase := (recovers_sackLossRecoveryPhase hend).advances
    generalize s.sackLossRecoveryPhase = r at hphase
    exact hphase.trans (.of_place rfl) rfl
  · exact .refl s

theorem place_enterRecovery (s : Conn) (isFastRecovery : Bool) :
    (s.enterRecovery isFastRecovery).place = s.place := by
  have hresend : (s.resendSegmentWithoutTimeout s.tcb.SEG.ACK).place = s.place := by
    unfold resendSegmentWithoutTimeout
    split
    · rfl
    · split
      · rfl
      · rfl
  rw [← hresend]
  unfold enterRecovery
  generalize s.resendSegmentWithoutTimeout s.tcb.SEG.ACK = s₁
  dsimp only
  split
  · unfold sackFastRetransmit
    split
    · rfl
    · rfl
  · rfl

/-! ## `ack_received` -/

theorem place_mapTcb {f : Tcb → Tcb} (h : (f s.tcb).SND = s.tcb.SND) :
    (s.mapTcb f).place = s.place := by
  rw [place, mapTcb, h, place]

theorem snd_setCwnd (t : Tcb) (n : Nat) : (t.setCwnd n).SND = t.SND := by
  obtain ⟨cwnd, hcwnd⟩ := t.setCwnd_frame n
  rw [hcwnd]
  rfl

theorem snd_increaseCwnd (t : Tcb) (n : Nat) : (t.increaseCwnd n).SND = t.SND := by
  obtain ⟨cwnd, hcwnd⟩ := t.increaseCwnd_frame n
  rw [hcwnd]
  rfl

theorem snd_cubicIncreaseCwnd (t : Tcb) (n : Nat) : (t.cubicIncreaseCwnd n).SND = t.SND := by
  obtain ⟨cwnd, hcwnd⟩ := t.cubicIncreaseCwnd_frame n
  rw [hcwnd]
  rfl

section

variable (hend : s.streamEnd < 2 ^ 32)

include hend

theorem advances_inflated {f : Tcb → Tcb}
    (hf : (f s.tcb).SND = s.tcb.SND) : Advances s (s.mapTcb f).stayInRecovery := by
  have hplace := place_mapTcb hf
  apply Advances.from_place hplace
  apply advances_stayInRecovery
  rw [(Advances.of_place hplace).streamEnd]
  exact hend

theorem advances_fastRetransmit : Advances s s.fastRetransmit := by
  unfold fastRetransmit
  split
  · refine .of_place ((place_enterRecovery _ _).trans ((place_mapTcb ?_).trans ?_))
    · exact snd_setCwnd _ _
    · rfl
  · exact advances_inflated hend (snd_increaseCwnd _ _)

theorem advances_bictcpFastretransmit : Advances s s.bictcpFastretransmit := by
  unfold bictcpFastretransmit
  split
  · refine .of_place ((place_enterRecovery _ _).trans ((place_mapTcb ?_).trans ?_))
    · exact snd_setCwnd _ _
    · obtain ⟨bic, hbic⟩ := s.tcb.bictcpRecalcSsthresh_frame
      apply place_mapTcb
      dsimp only
      rw [hbic]
      rfl
  · exact advances_inflated hend (snd_increaseCwnd _ _)

theorem advances_cubictcpFastretransmit : Advances s s.cubictcpFastretransmit := by
  unfold cubictcpFastretransmit
  split
  · refine .of_place ((place_enterRecovery _ _).trans ((place_mapTcb ?_).trans ?_))
    · rw [Tcb.cubicSetCwnd_eq]
      rfl
    · rfl
  · exact advances_inflated hend (snd_cubicIncreaseCwnd _ _)

theorem advances_variantRetransmit : Advances s s.variantRetransmit := by
  unfold variantRetransmit
  cases s.tcb.variant with
  | bic => exact advances_bictcpFastretransmit hend
  | cubic => exact advances_cubictcpFastretransmit hend
  | _ => exact advances_fastRetransmit hend

theorem advances_retransmitCall : Advances s s.retransmitCall := by
  obtain ⟨recover, hcall⟩ := s.retransmitCall_eq
  have hplace : (s.mapTcb (·.withCounters s.tcb.congestionData.dupAckCount recover)).place =
    s.place := rfl
  rw [hcall]
  exact Advances.from_place hplace (advances_variantRetransmit hend)

theorem advances_ackReceived : Advances s s.ackReceived := by
  by_cases hcalls : s.tcb.variant ≠ .oldTahoe ∧ s.tcb.isDupAck = true
  · obtain ⟨hholds, hretransmits⟩ := ackReceived_of_dupAck hcalls.1 hcalls.2
    have hplace : s.countDupAck.place = s.place := rfl
    by_cases h : s.holdsBack
    · rw [hholds h]
      exact .of_place hplace
    · rcases hretransmits h with heq | heq
      · rw [heq]
        exact Advances.from_place hplace (advances_variantRetransmit hend)
      · rw [heq]
        exact Advances.from_place hplace (advances_retransmitCall hend)
  · have hquiet : s.tcb.variant = .oldTahoe ∨ s.tcb.isDupAck = false := by
      by_cases hvariant : s.tcb.variant = .oldTahoe
      · exact .inl hvariant
      · exact .inr (Bool.eq_false_of_not_eq_true fun hdup => hcalls ⟨hvariant, hdup⟩)
    obtain ⟨hview, hsId⟩ := testView_ackReceived hquiet
    simp only [Tcb.testView, Prod.mk.injEq] at hview
    refine .of_place ?_
    rw [place, hview.2.1, hsId, place]

end

end Conn

end NetSim.Tcp
