import NetSim.Wlan.RetryWindow

/-!
# Retries over whole runs

A frame that is pending has failed `nRetryCount` times, and the contention window is the one of that
many failures, as long as no counter is taken over from one frame to the next.
-/

namespace NetSim.Wlan

open NetSim.Lib

namespace RetryConfig

/-- The contention window after `k` failures. -/
def window (cfg : RetryConfig) (k : ℕ) : ℕ := min (2 ^ k * (cfg.CWmin + 1) - 1) cfg.CWmax

def limit (cfg : RetryConfig) (frameLength : ℕ) : ℕ :=
  if frameLength ≤ cfg.dot11RTSThreshold then cfg.dot11ShortRetryLimit else cfg.dot11LongRetryLimit

/-- Rate adaptation is not MINSTREL, the limits are not zero, and the windows and the limits fit
their types. -/
structure WellFormed (cfg : RetryConfig) : Prop where
  minstrel : cfg.minstrel = false
  short : 0 < cfg.dot11ShortRetryLimit ∧ cfg.dot11ShortRetryLimit < 2 ^ 32
  long : 0 < cfg.dot11LongRetryLimit ∧ cfg.dot11LongRetryLimit < 2 ^ 32
  windows : cfg.CWmin ≤ cfg.CWmax ∧ cfg.CWmax < 2 ^ 31

variable {cfg : RetryConfig}

theorem window_zero (hcfg : cfg.WellFormed) : cfg.window 0 = cfg.CWmin := by
  have h := hcfg.windows.1
  unfold window
  omega

theorem window_succ (hcfg : cfg.WellFormed) (k : ℕ) :
    min ((cfg.window k * 2 + 1) % 2 ^ 32) cfg.CWmax = cfg.window (k + 1) := by
  have h := hcfg.windows.2
  have hpos : 0 < 2 ^ k * (cfg.CWmin + 1) := Nat.mul_pos (Nat.two_pow_pos k) (Nat.succ_pos _)
  have hdouble : 2 ^ (k + 1) * (cfg.CWmin + 1) = 2 * (2 ^ k * (cfg.CWmin + 1)) := by
    rw [Nat.pow_succ, Nat.mul_comm (2 ^ k) 2, Nat.mul_assoc]
  unfold window
  rw [hdouble]
  generalize 2 ^ k * (cfg.CWmin + 1) = x at hpos ⊢
  omega

theorem limit_pos (hcfg : cfg.WellFormed) (n : ℕ) : 0 < cfg.limit n := by
  unfold limit
  split
  · exact hcfg.short.1
  · exact hcfg.long.1

theorem lt_of_checkRetryLimit (hcfg : cfg.WellFormed) {mac : MacVar} {n : ℕ}
    (h : mac.checkRetryLimit cfg.toMacConfig n = true) : mac.nRetryCount + 1 < cfg.limit n := by
  have hshort := hcfg.short
  have hlong := hcfg.long
  unfold MacVar.checkRetryLimit at h
  unfold limit
  rw [decide_eq_true_eq] at h
  split at h
  · next hle =>
    rw [if_pos hle]
    omega
  · next hgt =>
    rw [if_neg hgt]
    omega

end RetryConfig

namespace RetryVar

/-- How often `fn_NetSim_IEEE802_11_SendToPhy` has sent a packet. -/
def tries (s : RetryVar) (p : Packet) : ℕ := (s.attempts.flatMap fun a => packetsOf a.frame).count p

def pending (mac : MacVar) : List Packet :=
  packetsOf mac.currentProcessingPacket ++ packetsOf mac.waitingforCTS

/-- No packet is sent more often than its limit, first attempts have the first values, the window is
that of the failures, and the backoff counter is not negative. -/
structure RetryLaw (cfg : RetryConfig) (s : RetryVar) : Prop where
  limit : ∀ p, s.tries p ≤ cfg.limit p.dPayload
  first : ∀ a ∈ s.attempts, a.failures = 0 → a.nRetryCount = 0 ∧ a.nCWcurrent = cfg.CWmin
  window : s.mac.currentProcessingPacket ≠ [] → s.nCWcurrent = cfg.window s.failures
  counter : 0 ≤ s.nBackOffCounter

structure Inv (cfg : RetryConfig) (s : RetryVar) : Prop extends RetryLaw cfg s where
  taken : ∀ p, s.tries p ≠ 0 → p ∈ s.mac.taken
  shape : s.mac.Shape
  retry : s.mac.nRetryCount = s.failures
  idle : s.mac.currentProcessingPacket = [] → s.failures = 0
  unicast : ∀ f ∈ s.mac.currentProcessingPacket.head?, isMulti f = true → s.failures = 0
  waits : ∀ f ∈ s.mac.waitingforCTS.head?, isMulti f = false
  nodup : (pending s.mac).Nodup
  had : ∀ p ∈ pending s.mac, p ∈ s.mac.taken
  tried : ∀ p ∈ pending s.mac, s.tries p ≤ s.failures + 1
  /-- No attempt at the packets themselves is open. -/
  closed : (s.isOpen = true → s.mac.waitingforCTS ≠ []) → ∀ p ∈ pending s.mac,
    s.tries p ≤ s.failures ∧ s.tries p < cfg.limit p.dPayload

variable {cfg : RetryConfig} {s : RetryVar} {now : ℚ}

theorem Inv.waiting_of_idle (h : Inv cfg s) (hidle : s.mac.currentProcessingPacket = []) :
    s.mac.waitingforCTS = [] := by
  rcases h.shape with ⟨hwait, -⟩ | ⟨hrts, -⟩
  · exact hwait
  · rw [hidle] at hrts
    cases hrts

/-! ## A list is taken from the queue -/

theorem Inv.take (hcfg : cfg.WellFormed) (h : Inv cfg s)
    (hnd : (s.mac.qosList ++ s.mac.taken).Nodup) (hidle : s.mac.currentProcessingPacket = [])
    {nCWcurrent : ℕ} (hwindow : nCWcurrent = cfg.CWmin) :
    Inv cfg { s with
      mac := { (s.mac.getFromQueue cfg.toMacConfig now).2 with
        currentProcessingPacket := (s.mac.getFromQueue cfg.toMacConfig now).1.map .data }
      nCWcurrent
      failures := 0 } := by
  have hwait := h.waiting_of_idle hidle
  have hwait' : (s.mac.getFromQueue cfg.toMacConfig now).2.waitingforCTS = [] := hwait
  have hpending : packetsOf ((s.mac.getFromQueue cfg.toMacConfig now).1.map .data) ++
      packetsOf (s.mac.getFromQueue cfg.toMacConfig now).2.waitingforCTS =
      (s.mac.getFromQueue cfg.toMacConfig now).1 := by
    rw [packetsOf_map_data, hwait']
    exact List.append_nil _
  have hsub : (s.mac.getFromQueue cfg.toMacConfig now).1.Sublist s.mac.qosList :=
    (List.sublist_append_left _ _).trans (getPacketsFromQueue_sublist _ _ _ _)
  -- What comes from the queue has not been had before, so it has not been sent.
  have hnew : ∀ p ∈ (s.mac.getFromQueue cfg.toMacConfig now).1, s.tries p = 0 := by
    intro p hp
    by_contra htries
    exact List.disjoint_of_nodup_append hnd (hsub.subset hp) (h.taken p htries)
  exact
    { limit := h.limit
      first := h.first
      window := fun _ => hwindow.trans (cfg.window_zero hcfg).symm
      counter := h.counter
      taken := fun p hp => List.mem_append_right _ (h.taken p hp)
      shape := .inl ⟨hwait, MacVar.rts_notMem_map_data _⟩
      retry := h.retry.trans (h.idle hidle)
      idle := fun _ => rfl
      unicast := fun _ _ _ => rfl
      waits := h.waits
      nodup := by
        unfold pending
        rw [hpending]
        exact hsub.nodup hnd.of_append_left
      had := by
        unfold pending
        rw [hpending]
        exact fun p hp => List.mem_append_left _ hp
      tried := by
        unfold pending
        rw [hpending]
        exact fun p hp => (Nat.le_of_eq (hnew p hp)).trans (Nat.zero_le _)
      closed := by
        unfold pending
        rw [hpending]
        intro _ p hp
        have hzero : s.tries p = 0 := hnew p hp
        exact ⟨Nat.le_of_eq hzero, (Nat.le_of_eq hzero).trans_lt (cfg.limit_pos hcfg _)⟩ }

theorem Inv.takeNone (h : Inv cfg s) (hnone : (s.mac.getFromQueue cfg.toMacConfig now).1 = []) :
    Inv cfg { s with mac := (s.mac.getFromQueue cfg.toMacConfig now).2 } := by
  have htaken : (s.mac.getFromQueue cfg.toMacConfig now).2.taken = s.mac.taken := by
    change (s.mac.getFromQueue cfg.toMacConfig now).1 ++ s.mac.taken = s.mac.taken
    rw [hnone]
    rfl
  refine { h with taken := ?_, had := ?_ }
  · rw [htaken]
    exact h.taken
  · rw [htaken]
    exact h.had

theorem Inv.rtsCtsInit (h : Inv cfg s) (hopen : s.isOpen = false) :
    Inv cfg { s with mac := s.mac.rtsCtsInit cfg.toMacConfig } := by
  unfold MacVar.rtsCtsInit
  split
  · next hdecide =>
    unfold MacVar.decideRtsCtsMechanism at hdecide
    split at hdecide
    · cases hdecide
    · cases hdecide
    · next packet rest hcur =>
      have hmulti : packet.multi = false := by
        cases hm : packet.multi with
        | false => rfl
        | true =>
          rw [hm] at hdecide
          cases hdecide
      have hwait : s.mac.waitingforCTS = [] ∧ Frame.rts ∉ s.mac.currentProcessingPacket := by
        rcases h.shape with hshape | ⟨hrts, -⟩
        · exact hshape
        · rw [hrts] at hcur
          cases hcur
      have hne : s.mac.currentProcessingPacket ≠ [] := by
        rw [hcur]
        exact List.cons_ne_nil _ _
      have hpending : packetsOf [Frame.rts] ++ packetsOf s.mac.currentProcessingPacket =
          pending s.mac := by
        unfold pending
        rw [hwait.1]
        exact (List.append_nil _).symm
      have hclosed := h.closed fun ho => by rw [hopen] at ho; cases ho
      exact
        { h with
          window := fun _ => h.window hne
          shape := .inr ⟨rfl, hne, hwait.2⟩
          idle := fun hnil => by cases hnil
          unicast := fun f hf hmulti => by
            cases hf
            cases hmulti
          waits := fun f hf => by
            rw [hcur] at hf
            cases hf
            exact hmulti
          nodup := by
            have hnodup := h.nodup
            rwa [← hpending] at hnodup
          had := by
            have hhad := h.had
            rwa [← hpending] at hhad
          tried := by
            have htried := h.tried
            rwa [← hpending] at htried
          closed := by
            rw [← hpending] at hclosed
            exact fun _ => hclosed }
  · exact h

theorem Inv.csmacaInit (hcfg : cfg.WellFormed) (h : Inv cfg s)
    (hnd : (s.mac.qosList ++ s.mac.taken).Nodup)
    (hopen : s.mac.currMacState = .macIdle → s.isOpen = false) :
    Inv cfg (s.csmacaInit cfg now) := by
  unfold RetryVar.csmacaInit
  split
  · next hstate =>
    split
    · exact h.rtsCtsInit (hopen hstate.1)
    · next hidle =>
      dsimp only
      split
      · next hnone => exact h.takeNone hnone
      · exact (h.take hcfg hnd (not_not.1 hidle) rfl).rtsCtsInit (hopen hstate.1)
  · exact h

variable {mac : MacVar}

theorem sendToPhy_frame (cfg : MacConfig) (now : ℚ) {f : Frame} {rest : List Frame}
    (hcur : mac.currentProcessingPacket = f :: rest) :
    (mac.sendToPhy cfg now).currentProcessingPacket = (if isMulti f then [] else f :: rest) ∧
      (mac.sendToPhy cfg now).nRetryCount = mac.nRetryCount := by
  unfold MacVar.sendToPhy MacVar.setTxopTime
  rw [hcur]
  dsimp only
  split <;> split <;> exact ⟨rfl, rfl⟩

theorem Inv.sendToPhy (hcfg : cfg.WellFormed) (h : Inv cfg s) (hopen : s.isOpen = false) :
    Inv cfg (s.sendToPhy cfg now) := by
  unfold RetryVar.sendToPhy
  split
  · exact h
  next f rest hcur =>
  obtain ⟨hwait, -, -, htaken, -⟩ := MacVar.sendToPhy_keeps cfg.toMacConfig now s.mac
  obtain ⟨hframe, hretry⟩ := sendToPhy_frame cfg.toMacConfig now hcur
  have hne : s.mac.currentProcessingPacket ≠ [] := by
    rw [hcur]
    exact List.cons_ne_nil _ _
  have hsent : ∀ p, p ∈ packetsOf (f :: rest) → p ∈ pending s.mac := by
    intro p hp
    rw [← hcur] at hp
    exact List.mem_append_left _ hp
  have hclosed := h.closed fun ho => by rw [hopen] at ho; cases ho
  have hcount : ∀ p, tries { s with attempts := s.attempt (f :: rest) :: s.attempts } p =
      (packetsOf (f :: rest)).count p + s.tries p := fun p => List.count_append
  have hnodup : (packetsOf (f :: rest)).Nodup := by
    have hnodup := h.nodup.of_append_left
    rwa [hcur] at hnodup
  have hle : ∀ p, (packetsOf (f :: rest)).count p ≤ 1 := List.nodup_iff_count_le_one.1 hnodup
  have hshape : (s.mac.waitingforCTS = [] ∧ Frame.rts ∉ f :: rest) ∨
      (f :: rest = [.rts] ∧ s.mac.waitingforCTS ≠ [] ∧ Frame.rts ∉ s.mac.waitingforCTS) := by
    have hshape := h.shape
    rwa [MacVar.Shape, hcur] at hshape
  have htried : ∀ p ∈ pending s.mac, (packetsOf (f :: rest)).count p + s.tries p ≤ s.failures + 1 :=
    fun p hp => (Nat.add_le_add (hle p) (hclosed p hp).1).trans (Nat.le_of_eq (Nat.add_comm _ _))
  have hlaw : RetryLaw cfg { s with
      mac := s.mac.sendToPhy cfg.toMacConfig now
      isOpen := !isMulti f
      attempts := s.attempt (f :: rest) :: s.attempts } := by
    refine ⟨fun p => (Nat.le_of_eq (hcount p)).trans ?_, ?_, fun _ => h.window hne, h.counter⟩
    · by_cases hp : p ∈ packetsOf (f :: rest)
      · have hlt := (hclosed p (hsent p hp)).2
        have hone := hle p
        omega
      · rw [List.count_eq_zero.2 hp, Nat.zero_add]
        exact h.limit p
    · intro a ha hfirst
      rcases List.mem_cons.1 ha with rfl | ha
      · have hfirst : s.failures = 0 := hfirst
        have hwindow := h.window hne
        rw [hfirst, cfg.window_zero hcfg] at hwindow
        exact ⟨h.retry.trans hfirst, hwindow⟩
      · exact h.first a ha hfirst
  have hknown : ∀ p, (packetsOf (f :: rest)).count p + s.tries p ≠ 0 →
      p ∈ (s.mac.sendToPhy cfg.toMacConfig now).taken := by
    intro p hp
    rw [htaken]
    by_cases hmem : p ∈ packetsOf (f :: rest)
    · exact h.had p (hsent p hmem)
    · rw [List.count_eq_zero.2 hmem, Nat.zero_add] at hp
      exact h.taken p hp
  have hwaits : ∀ g ∈ (s.mac.sendToPhy cfg.toMacConfig now).waitingforCTS.head?,
      isMulti g = false := by
    rw [hwait]
    exact h.waits
  cases hmulti : isMulti f with
  | true =>
    -- The list is gone, and no other one waits.
    rw [hmulti, if_pos rfl] at hframe
    have hnone : s.mac.waitingforCTS = [] := by
      rcases hshape with ⟨hnone, -⟩ | ⟨hrts, -⟩
      · exact hnone
      · cases hrts
        cases hmulti
    have hpending : pending (s.mac.sendToPhy cfg.toMacConfig now) = [] := by
      unfold pending
      rw [hframe, hwait, hnone]
      rfl
    have hfailures : s.failures = 0 := h.unicast f (by rw [hcur]; rfl) hmulti
    have hempty : ∀ p, p ∉ pending (s.mac.sendToPhy cfg.toMacConfig now) := by
      rw [hpending]
      exact fun p => List.not_mem_nil
    exact
      { hlaw with
        taken := fun p hp => hknown p (hcount p ▸ hp)
        shape := .inl ⟨hwait.trans hnone, by rw [hframe]; exact List.not_mem_nil⟩
        retry := hretry.trans h.retry
        idle := fun _ => hfailures
        unicast := fun _ _ _ => hfailures
        waits := hwaits
        nodup := by
          rw [hpending]
          exact List.nodup_nil
        had := fun p hp => absurd hp (hempty p)
        tried := fun p hp => absurd hp (hempty p)
        closed := fun _ p hp => absurd hp (hempty p) }
  | false =>
    rw [hmulti, if_neg Bool.false_ne_true] at hframe
    have hpending : pending (s.mac.sendToPhy cfg.toMacConfig now) = pending s.mac := by
      unfold pending
      rw [hframe, hwait, hcur]
    exact
      { hlaw with
        taken := fun p hp => hknown p (hcount p ▸ hp)
        shape := by
          unfold MacVar.Shape
          rw [hframe, hwait]
          exact hshape
        retry := hretry.trans h.retry
        idle := fun hnil => by
          rw [hframe] at hnil
          cases hnil
        unicast := fun g hg hm => by
          rw [hframe] at hg
          cases hg
          rw [hmulti] at hm
          cases hm
        waits := hwaits
        nodup := by
          rw [hpending]
          exact h.nodup
        had := by
          rw [hpending, htaken]
          exact h.had
        tried := by
          rw [hpending]
          exact fun p hp => (Nat.le_of_eq (hcount p)).trans (htried p hp)
        closed := by
          rw [hpending, hwait]
          intro hrts p hp
          rcases hshape with ⟨hnone, -⟩ | ⟨hcur', -⟩
          · exact absurd hnone (hrts rfl)
          · -- An RTS goes out, and no packet.
            have hzero : (packetsOf (f :: rest)).count p = 0 := by
              rw [hcur']
              rfl
            have hsame := hcount p
            rw [hzero, Nat.zero_add] at hsame
            exact ⟨(Nat.le_of_eq hsame).trans (hclosed p hp).1,
              (Nat.le_of_eq hsame).trans_lt (hclosed p hp).2⟩ }

/-! ## A list is retried or given up -/

theorem Inv.same (h : Inv cfg s)
    (hcur : mac.currentProcessingPacket = s.mac.currentProcessingPacket)
    (hwait : mac.waitingforCTS = s.mac.waitingforCTS) : pending mac = pending s.mac ∧ mac.Shape := by
  unfold pending MacVar.Shape
  rw [hcur, hwait]
  exact ⟨rfl, h.shape⟩

theorem Inv.of_eq (h : Inv cfg s)
    (hcur : mac.currentProcessingPacket = s.mac.currentProcessingPacket)
    (hwait : mac.waitingforCTS = s.mac.waitingforCTS) (htaken : mac.taken = s.mac.taken)
    (hretry : mac.nRetryCount = s.mac.nRetryCount) : Inv cfg { s with mac } := by
  obtain ⟨hpending, hshape⟩ := h.same hcur hwait
  exact
    { limit := h.limit
      first := h.first
      window := hcur ▸ h.window
      counter := h.counter
      taken := htaken ▸ h.taken
      shape := hshape
      retry := hretry.trans h.retry
      idle := hcur ▸ h.idle
      unicast := hcur ▸ h.unicast
      waits := hwait ▸ h.waits
      nodup := hpending ▸ h.nodup
      had := by
        rw [hpending, htaken]
        exact h.had
      tried := hpending ▸ h.tried
      closed := by
        rw [hpending, hwait]
        exact h.closed }

theorem Inv.cleared (h : Inv cfg s) (hcur : mac.currentProcessingPacket = [])
    (hwait : mac.waitingforCTS = []) (htaken : mac.taken = s.mac.taken)
    (hretry : mac.nRetryCount = 0) : Inv cfg { s with mac, failures := 0, isOpen := false } := by
  have hempty : ∀ p, p ∉ pending mac := by
    intro p
    unfold pending
    rw [hcur, hwait]
    exact List.not_mem_nil
  exact
    { limit := h.limit
      first := h.first
      window := fun hne => absurd hcur hne
      counter := h.counter
      taken := htaken ▸ h.taken
      shape := .inl ⟨hwait, by rw [hcur]; exact List.not_mem_nil⟩
      retry := hretry
      idle := fun _ => rfl
      unicast := fun _ _ _ => rfl
      waits := by
        rw [hwait]
        exact fun f hf => by cases hf
      nodup := by
        unfold pending
        rw [hcur, hwait]
        exact List.nodup_nil
      had := fun p hp => absurd hp (hempty p)
      tried := fun p hp => absurd hp (hempty p)
      closed := fun _ p hp => absurd hp (hempty p) }

theorem Inv.retried (hcfg : cfg.WellFormed) (h : Inv cfg s)
    (hcur : mac.currentProcessingPacket = s.mac.currentProcessingPacket)
    (hwait : mac.waitingforCTS = s.mac.waitingforCTS) (htaken : mac.taken = s.mac.taken)
    (hretry : mac.nRetryCount = s.mac.nRetryCount + 1) (hne : s.mac.currentProcessingPacket ≠ [])
    (hunicast : ∀ f ∈ s.mac.currentProcessingPacket.head?, isMulti f = false)
    (htries : ∀ p ∈ pending s.mac, s.tries p < cfg.limit p.dPayload) :
    Inv cfg ({ s with mac, failures := s.failures + 1, isOpen := false }.increaseCW cfg) := by
  obtain ⟨hpending, hshape⟩ := h.same hcur hwait
  have hwindow : min ((s.nCWcurrent * 2 + 1) % 2 ^ 32) cfg.CWmax = cfg.window (s.failures + 1) := by
    rw [h.window hne]
    exact cfg.window_succ hcfg s.failures
  exact
    { limit := h.limit
      first := h.first
      window := fun _ => hwindow
      counter := h.counter
      taken := htaken ▸ h.taken
      shape := hshape
      retry := hretry.trans (congrArg (· + 1) h.retry)
      idle := fun hnil => absurd (hcur.symm.trans hnil) hne
      unicast := fun f hf hmulti => by
        have hf : f ∈ s.mac.currentProcessingPacket.head? := hcur ▸ hf
        rw [hunicast f hf] at hmulti
        cases hmulti
      waits := hwait ▸ h.waits
      nodup := hpending ▸ h.nodup
      had := by
        dsimp only [increaseCW]
        rw [hpending, htaken]
        exact h.had
      tried := by
        dsimp only [increaseCW]
        rw [hpending]
        exact fun p hp => (h.tried p hp).trans (Nat.le_succ _)
      closed := by
        dsimp only [increaseCW]
        rw [hpending]
        exact fun _ p hp => ⟨h.tried p hp, htries p hp⟩ }

theorem unsetTxopTime_eq (cfg : MacConfig) (mac : MacVar) :
    mac.unsetTxopTime cfg = { mac with txopTime := (mac.unsetTxopTime cfg).txopTime } := by
  unfold MacVar.unsetTxopTime
  split <;> rfl

theorem Inv.afterAck (hcfg : cfg.WellFormed) (h : Inv cfg s)
    (hcur : mac.currentProcessingPacket = []) (hwait : mac.waitingforCTS = [])
    (htaken : mac.taken = s.mac.taken) (hnd : (mac.qosList ++ mac.taken).Nodup)
    (hnext : mac.isTxopTimerSet cfg.toMacConfig now = true →
      mac.nRetryCount = 0 ∧ s.nCWcurrent = cfg.CWmin) :
    Inv cfg ({ s with mac, failures := 0, isOpen := false }.afterAck cfg now) := by
  unfold RetryVar.afterAck
  dsimp only
  split
  · next htimer =>
    obtain ⟨hretry, hwindow⟩ := hnext htimer
    have hclear : Inv cfg { s with
        mac := { mac with currMacState := .macIdle }
        failures := 0
        isOpen := false } := h.cleared hcur hwait htaken hretry
    split
    · next hnone =>
      rw [unsetTxopTime_eq]
      exact (hclear.takeNone hnone).of_eq rfl rfl rfl rfl
    · exact (hclear.take hcfg hnd hcur hwindow).sendToPhy hcfg rfl
  · unfold RetryVar.macReInit
    rw [unsetTxopTime_eq]
    refine Inv.csmacaInit hcfg (h.cleared ?_ ?_ ?_ rfl) hnd fun _ => rfl
    · exact hcur
    · exact hwait
    · exact htaken

/-! ## The condition -/

/-- An acknowledgment comes for a list that is sent, and a TXOP that lasts then goes on with the
counters of a first attempt; a block ack has the bit that is looked up. A CTS and its timeout come
while an RTS is out. The timeout of an acknowledgment is that of unicast packets with one limit.
What has been sent is not sent again, and the MAC is not idle, before the attempt has been answered.
-/
def Meets (cfg : RetryConfig) (s : RetryVar) (x : ℚ × RetryEvent) : Prop :=
  match x.2 with
  | .mac (.add _) => True
  | .mac (.changeState _ _) => True
  | .mac .csmacaInit => s.mac.currMacState = .macIdle → s.isOpen = false
  | .mac .sendToPhy => s.isOpen = false
  | .mac .ack => s.mac.currentProcessingPacket ≠ [] ∧ s.mac.waitingforCTS = [] ∧
      (s.mac.isTxopTimerSet cfg.toMacConfig x.1 = true → s.mac.nRetryCount = 0)
  | .mac (.blockAck bitMap) => bitMap.getLsbD 0 = true ∧ s.mac.currentProcessingPacket ≠ [] ∧
      s.mac.waitingforCTS = [] ∧
      (s.mac.isTxopTimerSet cfg.toMacConfig x.1 = true → s.mac.nRetryCount = 0)
  | .mac .cts => s.mac.waitingforCTS ≠ []
  | .mac (.ackTimeOut _) => s.mac.waitingforCTS = [] ∧
      ∀ f ∈ s.mac.currentProcessingPacket.head?, isMulti f = false ∧
        ∀ p ∈ packetsOf s.mac.currentProcessingPacket,
          (p.dPayload ≤ cfg.dot11RTSThreshold ↔ payload f ≤ cfg.dot11RTSThreshold)
  | .mac .ctsTimeOut => s.mac.waitingforCTS ≠ []
  | .ifsEnd _ _ _ => True
  | .backoff _ => s.isOpen = false

instance (cfg : RetryConfig) (s : RetryVar) (x : ℚ × RetryEvent) : Decidable (s.Meets cfg x) := by
  unfold Meets
  split <;> infer_instance

theorem Inv.first_window (hcfg : cfg.WellFormed) (h : Inv cfg s)
    (hne : s.mac.currentProcessingPacket ≠ []) (hretry : s.mac.nRetryCount = 0) :
    s.nCWcurrent = cfg.CWmin := by
  rw [h.window hne, ← h.retry, hretry, cfg.window_zero hcfg]

theorem Inv.ackTimeOut (hcfg : cfg.WellFormed) (h : Inv cfg s)
    (hnd : (s.mac.qosList ++ s.mac.taken).Nodup) {needDataSend : Bool}
    (hmeets : s.Meets cfg (now, .mac (.ackTimeOut needDataSend))) :
    Inv cfg (s.ackTimeOut cfg needDataSend now) := by
  obtain ⟨hwait, hhead⟩ := hmeets
  unfold RetryVar.ackTimeOut
  split
  · split
    · exact h.of_eq rfl rfl rfl rfl
    · next f rest hcur =>
      obtain ⟨hunicast, halike⟩ := hhead f (by rw [hcur]; rfl)
      rw [unsetTxopTime_eq]
      dsimp only
      rw [hcfg.minstrel, if_neg Bool.false_ne_true]
      split
      · next hretry =>
        have hlt : s.mac.nRetryCount + 1 < cfg.limit (payload f) :=
          cfg.lt_of_checkRetryLimit hcfg hretry
        refine Inv.csmacaInit hcfg (h.retried hcfg rfl rfl rfl rfl ?_ ?_ ?_) hnd fun _ => rfl
        · rw [hcur]
          exact List.cons_ne_nil _ _
        · rw [hcur]
          exact fun g hg => by cases hg; exact hunicast
        · intro p hp
          have hmem : p ∈ packetsOf s.mac.currentProcessingPacket := by
            unfold pending at hp
            rw [hwait] at hp
            exact (List.mem_append.1 hp).resolve_right List.not_mem_nil
          have hlimit : cfg.limit p.dPayload = cfg.limit (payload f) := by
            unfold RetryConfig.limit
            rw [if_congr (halike p hmem) rfl rfl]
          have htried := h.tried p hp
          have hcount := h.retry
          omega
      · refine Inv.csmacaInit hcfg (h.cleared rfl ?_ ?_ rfl) hnd fun _ => rfl
        · exact hwait
        · rfl
  · exact h

theorem Inv.ctsTimeOut (hcfg : cfg.WellFormed) (h : Inv cfg s)
    (hnd : (s.mac.qosList ++ s.mac.taken).Nodup)
    (hmeets : s.mac.waitingforCTS ≠ []) : Inv cfg (s.ctsTimeOut cfg now) := by
  have hcur : s.mac.currentProcessingPacket = [.rts] := by
    rcases h.shape with ⟨hnil, -⟩ | ⟨hrts, -⟩
    · exact absurd hnil hmeets
    · exact hrts
  rw [RetryVar.ctsTimeOut]
  by_cases hcheck : MacVar.checkRetryLimit cfg.toMacConfig { s.mac with currMacState := .macIdle } 1
  · rw [if_pos hcheck]
    refine Inv.csmacaInit hcfg (h.retried hcfg rfl rfl rfl rfl ?_ ?_ ?_) hnd fun _ => rfl
    · rw [hcur]
      exact List.cons_ne_nil _ _
    · rw [hcur]
      exact fun g hg => by cases hg; rfl
    · exact fun p hp => (h.closed (fun _ => hmeets) p hp).2
  · rw [if_neg hcheck]
    split
    · next hnil => exact absurd hnil hmeets
    · refine Inv.csmacaInit hcfg (h.cleared rfl rfl ?_ rfl) hnd fun _ => rfl
      rfl

theorem Inv.processCts (h : Inv cfg s) (hmeets : s.mac.waitingforCTS ≠ []) :
    Inv cfg s.processCts := by
  rcases h.shape with ⟨hnil, -⟩ | ⟨hrts, -, hdata⟩
  · exact absurd hnil hmeets
  have hpending : pending s.mac.processCts = pending s.mac := by
    unfold pending MacVar.processCts
    rw [hrts]
    exact List.append_nil _
  have hne : s.mac.currentProcessingPacket ≠ [] := by
    rw [hrts]
    exact List.cons_ne_nil _ _
  exact
    { limit := h.limit
      first := h.first
      window := fun _ => h.window hne
      counter := h.counter
      taken := h.taken
      shape := .inl ⟨rfl, hdata⟩
      retry := h.retry
      idle := fun hnil => absurd hnil hmeets
      unicast := fun f hf hmulti => by
        rw [h.waits f hf] at hmulti
        cases hmulti
      waits := fun f hf => by cases hf
      nodup := hpending ▸ h.nodup
      had := hpending ▸ h.had
      tried := hpending ▸ h.tried
      closed := by
        dsimp only [RetryVar.processCts]
        rw [hpending]
        exact fun _ => h.closed fun _ => hmeets }

theorem Inv.handle (hcfg : cfg.WellFormed) (h : Inv cfg s)
    (hnd : (s.mac.qosList ++ s.mac.taken).Nodup) {event : RetryEvent}
    (henabled : s.Enabled cfg now event) (hmeets : s.Meets cfg (now, event)) :
    Inv cfg (s.handle cfg now event) := by
  cases event with
  | mac event =>
    cases event with
    | add packet => exact h.of_eq rfl rfl rfl rfl
    | changeState state radioIdle => exact h.of_eq rfl rfl rfl rfl
    | csmacaInit => exact h.csmacaInit hcfg hnd hmeets
    | sendToPhy => exact h.sendToPhy hcfg hmeets
    | ack =>
      obtain ⟨hne, hwait, hnext⟩ := hmeets
      refine h.afterAck hcfg ?_ ?_ ?_ hnd fun htimer => ?_
      · rfl
      · exact hwait
      · rfl
      · exact ⟨hnext htimer, h.first_window hcfg hne (hnext htimer)⟩
    | blockAck bitMap =>
      obtain ⟨hbit, hne, hwait, hnext⟩ := hmeets
      have hall : Wlan.processBlockAck bitMap s.mac.currentProcessingPacket =
          (s.mac.currentProcessingPacket, []) := by
        rw [Wlan.processBlockAck, processBlockAckLoop_eq, if_pos hbit]
      rw [RetryVar.handle, RetryVar.processBlockAck, hall]
      refine h.afterAck hcfg ?_ ?_ ?_ hnd fun htimer => ?_
      · rfl
      · exact hwait
      · rfl
      · exact ⟨hnext htimer, h.first_window hcfg hne (hnext htimer)⟩
    | cts => exact h.processCts hmeets
    | ackTimeOut needDataSend => exact h.ackTimeOut hcfg hnd hmeets
    | ctsTimeOut =>
      rw [RetryVar.handle]
      exact h.ctsTimeOut hcfg hnd hmeets
  | ifsEnd wait mediumIdle dRandomNumber =>
    dsimp only [RetryVar.handle, RetryVar.ifsEnd]
    split
    · have hstate : Inv cfg { s with mac := { s.mac with currMacState := .backingOff } } :=
        h.of_eq rfl rfl rfl rfl
      refine { hstate with counter := ?_ }
      dsimp only [RetryVar.startBackOff]
      split
      · refine Int.tdiv_nonneg (Rat.num_nonneg.2 ?_) (Int.natCast_nonneg _)
        exact mul_nonneg henabled.2.1 (Nat.cast_nonneg _)
      · exact h.counter
    · split
      · exact h.of_eq rfl rfl rfl rfl
      · exact h
  | backoff mediumIdle =>
    rw [RetryVar.handle]
    rcases backoff_cases s mediumIdle with ⟨state, n, hbackoff, hn⟩ | hbackoff
    · rw [hbackoff]
      have hstate : Inv cfg { s with mac := { s.mac with currMacState := state } } :=
        h.of_eq rfl rfl rfl rfl
      exact { hstate with counter := hn h.counter }
    · rw [hbackoff]
      have hzero : Inv cfg { s with nBackOffCounter := 0 } := { h with counter := Int.le_refl 0 }
      exact hzero.sendToPhy hcfg hmeets

theorem inv_of_run (hcfg : cfg.WellFormed) {tr : List (RetryVar × (ℚ × RetryEvent))}
    (run : Run (step cfg) start tr s) (hmeets : ∀ x ∈ tr, x.1.Meets cfg x.2) :
    Inv cfg s ∧ (s.mac.qosList ++ s.mac.taken).Nodup := by
  refine run.induction (P := fun _ s => Inv cfg s ∧ (s.mac.qosList ++ s.mac.taken).Nodup)
    (Q := Meets cfg) ⟨?_, ?_⟩ ?_ hmeets
  · exact
      { limit := fun _ => Nat.zero_le _
        first := fun a ha => by cases ha
        window := fun hne => absurd rfl hne
        counter := Int.le_refl 0
        taken := fun p hp => absurd rfl hp
        shape := .inl ⟨rfl, List.not_mem_nil⟩
        retry := rfl
        idle := fun _ => rfl
        unicast := fun _ _ _ => rfl
        waits := fun f hf => by cases hf
        nodup := List.nodup_nil
        had := fun p hp => by cases hp
        tried := fun p hp => by cases hp
        closed := fun _ p hp => by cases hp }
  · exact List.nodup_nil
  · rintro tr s ⟨now, event⟩ s' - ⟨hinv, hnd⟩ hm hstep
    obtain ⟨below, hbelow⟩ := mac_step hstep
    obtain ⟨henabled, rfl⟩ := handle_of_step hstep
    exact ⟨hinv.handle hcfg hnd henabled hm, MacVar.nodup_step hbelow hnd⟩

/-- In every run whose steps meet the condition the limits are kept, and the counters are those of
the frame's failures. -/
theorem retryLaw (cfg : RetryConfig) (hcfg : cfg.WellFormed)
    {tr : List (RetryVar × (ℚ × RetryEvent))} {s : RetryVar} (run : Run (step cfg) start tr s)
    (hmeets : ∀ x ∈ tr, x.1.Meets cfg x.2) : RetryLaw cfg s :=
  (inv_of_run hcfg run hmeets).1.toRetryLaw

def retryConfig : RetryConfig :=
  { MacVar.sampleConfig 5000 with
    nNumberOfAggregatedPackets := 1
    CWmin := 15
    CWmax := 1023 }

theorem retryConfig_wellFormed : retryConfig.WellFormed :=
  ⟨rfl, by decide, by decide, by decide⟩

/-- Two packets are queued, and the first one is sent, lost and sent again. -/
def lostOnce : List (ℚ × RetryEvent) :=
  [(0, .mac (.add (MacVar.samplePacket 1))), (0, .mac (.add (MacVar.samplePacket 2))),
    (0, .mac .csmacaInit), (1, .ifsEnd .waitAifs true 0), (2, .backoff true),
    (3, .mac (.ackTimeOut false)), (4, .ifsEnd .waitAifs true (1 / 2)), (5, .backoff false),
    (6, .mac (.changeState .backingOff true))] ++
  (List.range 15).map fun k => (7 + (k : ℚ) / 2, .backoff true)

/-- A packet that is acknowledged at the second attempt, after the TXOP. -/
theorem retryLaw_lostOnce :
    ∃ tr s, Run (step retryConfig) start tr s ∧ RetryLaw retryConfig s ∧
      s.mac.acknowledged = [MacVar.samplePacket 1] := by
  have hexec : (exec (step retryConfig) start
      ((lostOnce ++ [(100, RetryEvent.mac .ack)]).map fun x _ => some x)).any (fun x =>
        decide (∀ y ∈ x.1, y.1.Meets retryConfig y.2) &&
          decide (x.2.mac.acknowledged = [MacVar.samplePacket 1])) = true := by decide +kernel
  obtain ⟨tr, s, run, htest⟩ := run_of_exec hexec
  obtain ⟨hmeets, hack⟩ := (Bool.and_eq_true _ _).mp htest
  exact ⟨tr, s, run, retryLaw _ retryConfig_wellFormed run (of_decide_eq_true hmeets),
    of_decide_eq_true hack⟩

/-- The TXOP goes on with the second packet, and with the counters of the first. -/
theorem not_retryLaw :
    ∃ tr s, retryConfig.WellFormed ∧ Run (step retryConfig) start tr s ∧
      ¬ RetryLaw retryConfig s := by
  have hexec : (exec (step retryConfig) start
      ((lostOnce ++ [(20, RetryEvent.mac .ack)]).map fun x _ => some x)).any (fun x =>
        decide (∃ a ∈ x.2.attempts, a.failures = 0 ∧ a.nRetryCount ≠ 0)) = true := by
    decide +kernel
  obtain ⟨tr, s, run, htest⟩ := run_of_exec hexec
  obtain ⟨a, ha, hfirst, hretry⟩ := of_decide_eq_true htest
  exact ⟨tr, s, retryConfig_wellFormed, run, fun h => hretry (h.first a ha hfirst).1⟩

end RetryVar

end NetSim.Wlan
