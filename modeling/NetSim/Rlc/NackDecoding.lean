import NetSim.Rlc.Window

/-!
# The PDUs that NACKs move (`LTENR_RLC_AM.c`)

What the loop of `LTENR_RLCAM_ReceiveStatusPDU` takes out of the transmitted buffer: of a segment,
the first buffer with its SN and offset only.
-/

namespace NetSim.Rlc

open NetSim.Lib NetSim.Tcp

/-- The loop that `LTENR_RLCAM_ReceiveStatusPDU` runs for the NACK ends. -/
def Nack.Ends (n : Nack) : Prop :=
  if n.E3 then u32 (n.NAck_SN + n.NAckRange) + 1 < 2 ^ 32
  else if n.E2 then n.soEnd + 1 < 2 ^ 16
  else True
deriving Decidable

def RlcBuffer.again (b : RlcBuffer) : RlcBuffer := { b with retxCount := u32 (b.retxCount + 1) }

namespace TransmittingEntity

variable {s s' s'' : TransmittingEntity} {moved moved' : List RlcBuffer}
  {named named' : RlcBuffer → Prop}

/-- The buffers `moved` leave the transmitted buffer for the retransmission buffer, or are dropped.
-/
structure Moved (s s' : TransmittingEntity) (moved : List RlcBuffer) : Prop where
  maxRetxThreshold : s'.maxRetxThreshold = s.maxRetxThreshold
  transmittedBuffer : s.transmittedBuffer.Perm (moved ++ s'.transmittedBuffer)
  retransmissionBuffer : s'.retransmissionBuffer = s.retransmissionBuffer ++
    (moved.filter fun b => b.retxCount ≠ s.maxRetxThreshold).map RlcBuffer.again

theorem Moved.refl (s : TransmittingEntity) : Moved s s [] :=
  ⟨rfl, .refl _, (List.append_nil _).symm⟩

theorem Moved.trans (h : Moved s s' moved) (h' : Moved s' s'' moved') :
    Moved s s'' (moved ++ moved') := by
  refine ⟨h'.maxRetxThreshold.trans h.maxRetxThreshold, ?_, ?_⟩
  · rw [List.append_assoc]
    exact h.transmittedBuffer.trans (h'.transmittedBuffer.append_left moved)
  · rw [h'.retransmissionBuffer, h.retransmissionBuffer, h.maxRetxThreshold, List.filter_append,
      List.map_append, List.append_assoc]

theorem moved_foldl {t : TransmittingEntity} {rest : List RlcBuffer} (l : List RlcBuffer)
    (h : t.transmittedBuffer.Perm (l ++ rest)) :
    Moved t (l.foldl movePacketFromTransmittedBuffer { t with transmittedBuffer := rest }) l := by
  have hfold : ∀ (l : List RlcBuffer) (s : TransmittingEntity),
      (l.foldl movePacketFromTransmittedBuffer s).maxRetxThreshold = s.maxRetxThreshold ∧
      (l.foldl movePacketFromTransmittedBuffer s).transmittedBuffer = s.transmittedBuffer ∧
      (l.foldl movePacketFromTransmittedBuffer s).retransmissionBuffer =
        s.retransmissionBuffer ++
          (l.filter fun b => b.retxCount ≠ s.maxRetxThreshold).map RlcBuffer.again := by
    intro l
    induction l with
    | nil => exact fun s => ⟨rfl, rfl, (List.append_nil _).symm⟩
    | cons b l ih =>
      intro s
      obtain ⟨hmax, htransmitted, hretx⟩ := ih (s.movePacketFromTransmittedBuffer b)
      rw [List.foldl_cons, hmax, htransmitted, hretx]
      unfold movePacketFromTransmittedBuffer
      by_cases hcount : b.retxCount = s.maxRetxThreshold
      · rw [if_pos hcount, List.filter_cons_of_neg (by simpa using hcount)]
        exact ⟨rfl, rfl, rfl⟩
      · rw [if_neg hcount, List.filter_cons_of_pos (by simpa using hcount), List.map_cons]
        exact ⟨rfl, rfl, List.append_assoc _ _ _⟩
  obtain ⟨hmax, htransmitted, hretx⟩ := hfold l { t with transmittedBuffer := rest }
  exact ⟨hmax, by rw [htransmitted]; exact h, hretx⟩

/-- What is named is moved: of several buffers with one SN and one offset at least one, and nothing
else. -/
def MovesNamed (named : RlcBuffer → Prop) (s s' : TransmittingEntity) : Prop :=
  ∃ moved, Moved s s' moved ∧ (∀ b ∈ moved, named b) ∧
    ∀ b ∈ s.transmittedBuffer, named b → ∃ c ∈ moved, c.SN = b.SN ∧ c.SO = b.SO

theorem MovesNamed.refl (s : TransmittingEntity) : MovesNamed (fun _ => False) s s :=
  ⟨[], .refl s, nofun, fun _ _ => False.elim⟩

theorem MovesNamed.congr (h : MovesNamed named s s') (hiff : ∀ b, named b ↔ named' b) :
    MovesNamed named' s s' := by
  obtain rfl : named = named' := funext fun b => propext (hiff b)
  exact h

theorem MovesNamed.trans (h : MovesNamed named s s') (h' : MovesNamed named' s' s'') :
    MovesNamed (fun b => named b ∨ named' b) s s'' := by
  obtain ⟨moved, hmoved, hnamed, hall⟩ := h
  obtain ⟨moved', hmoved', hnamed', hall'⟩ := h'
  refine ⟨moved ++ moved', hmoved.trans hmoved', ?_, ?_⟩
  · intro b hb
    exact (List.mem_append.1 hb).imp (hnamed b) (hnamed' b)
  · rintro b hb (hname | hname)
    · obtain ⟨c, hc, hsame⟩ := hall b hb hname
      exact ⟨c, List.mem_append_left _ hc, hsame⟩
    · -- A buffer that the second part names may have been moved before.
      rcases List.mem_append.1 (hmoved.transmittedBuffer.mem_iff.1 hb) with hb | hb
      · exact ⟨b, List.mem_append_left _ hb, rfl, rfl⟩
      · obtain ⟨c, hc, hsame⟩ := hall' b hb hname
        exact ⟨c, List.mem_append_right _ hc, hsame⟩

theorem movesNamed_foldl {α : Type} {f : TransmittingEntity → α → TransmittingEntity}
    {named : α → RlcBuffer → Prop} (l : List α)
    (hround : ∀ s, ∀ a ∈ l, MovesNamed (named a) s (f s a)) (s : TransmittingEntity) :
    MovesNamed (fun b => ∃ a ∈ l, named a b) s (l.foldl f s) := by
  induction l generalizing s with
  | nil => exact (MovesNamed.refl s).congr fun b => ⟨False.elim, fun ⟨_, ha, _⟩ => nomatch ha⟩
  | cons a l ih =>
    refine ((hround s a List.mem_cons_self).trans
      (ih (fun s b hb => hround s b (List.mem_cons_of_mem _ hb)) _)).congr fun b => ?_
    exact (List.exists_mem_cons_iff (fun a => named a b) a l).symm

theorem movesNamed_updateBufferBasedOnNACK0 (s : TransmittingEntity) (sn : Nat) :
    MovesNamed (fun b => b.SN = sn) s (s.updateBufferBasedOnNACK0 sn) := by
  refine ⟨s.transmittedBuffer.filter (·.SN = sn), moved_foldl _ ?_, ?_, ?_⟩
  · have hperm := (List.filter_append_perm (fun b : RlcBuffer => decide (b.SN = sn))
      s.transmittedBuffer).symm
    simpa using hperm
  · intro b hb
    simpa using (List.mem_filter.1 hb).2
  · intro b hb hsn
    exact ⟨b, List.mem_filter.2 ⟨hb, by simpa using hsn⟩, rfl, rfl⟩

theorem movesNamed_nackOffset (s : TransmittingEntity) (sn so : Nat) :
    MovesNamed (fun b => b.SN = sn ∧ b.SO = so) s (nackOffset sn s so) := by
  unfold nackOffset
  split
  · next hsplit =>
    refine ⟨[], .refl s, nofun, fun b hb hname => ?_⟩
    have := splitFirst_eq_none.1 hsplit b hb
    simp [hname.1, hname.2] at this
  · next pre b post hsplit =>
    obtain ⟨hlist, hb, -⟩ := splitFirst_some hsplit
    simp only [Bool.and_eq_true, decide_eq_true_eq] at hb
    refine ⟨[b], moved_foldl [b] ?_, ?_, ?_⟩
    · rw [hlist]
      exact List.perm_middle
    · intro c hc
      rw [List.mem_singleton.1 hc]
      exact hb
    · rintro c - ⟨hsn, hso⟩
      exact ⟨b, List.mem_cons_self, hb.1.trans hsn.symm, hb.2.trans hso.symm⟩

theorem handleNack_of_ends {n : Nack} (h : n.Ends) (s : TransmittingEntity) :
    ∃ s', s.handleNack n = some s' ∧ MovesNamed (Names n) s s' := by
  unfold handleNack
  unfold Nack.Ends at h
  by_cases hE3 : n.E3 = true
  · rw [if_pos hE3] at h ⊢
    refine ⟨_, if_pos h, (movesNamed_foldl _
      (fun s sn _ => movesNamed_updateBufferBasedOnNACK0 s sn) s).congr fun b => ?_⟩
    unfold Names
    rw [if_pos hE3]
    constructor
    · rintro ⟨sn, hsn, rfl⟩
      have := List.mem_range'_1.1 hsn
      omega
    · intro hb
      exact ⟨b.SN, List.mem_range'_1.2 (by omega), rfl⟩
  · rw [if_neg hE3] at h ⊢
    by_cases hE2 : n.E2 = true
    · rw [if_pos hE2] at h ⊢
      refine ⟨_, if_pos h, (movesNamed_foldl _
        (fun s so _ => movesNamed_nackOffset s n.NAck_SN so) s).congr fun b => ?_⟩
      unfold Names
      rw [if_neg hE3, if_pos hE2]
      constructor
      · rintro ⟨so, hso, hsn, rfl⟩
        have := List.mem_range'_1.1 hso
        exact ⟨hsn, by omega, by omega⟩
      · rintro ⟨hsn, hlo, hhi⟩
        exact ⟨b.SO, List.mem_range'_1.2 (by omega), hsn, rfl⟩
    · rw [if_neg hE2]
      refine ⟨_, rfl, (movesNamed_updateBufferBasedOnNACK0 s n.NAck_SN).congr fun b => ?_⟩
      unfold Names
      rw [if_neg hE3, if_neg hE2]

theorem handleNack_of_not_ends {n : Nack} (h : ¬ n.Ends) (s : TransmittingEntity) :
    s.handleNack n = none := by
  unfold handleNack
  unfold Nack.Ends at h
  by_cases hE3 : n.E3 = true
  · rw [if_pos hE3] at h ⊢
    exact if_neg h
  · rw [if_neg hE3] at h ⊢
    by_cases hE2 : n.E2 = true
    · rw [if_pos hE2] at h ⊢
      exact if_neg h
    · rw [if_neg hE2] at h
      exact absurd trivial h

theorem handleNacks_of_ends {nacks : List Nack} (h : ∀ n ∈ nacks, n.Ends)
    (s : TransmittingEntity) : ∃ s', nacks.foldlM handleNack s = some s' ∧
      MovesNamed (fun b => ∃ n ∈ nacks, Names n b) s s' := by
  induction nacks generalizing s with
  | nil =>
    exact ⟨s, rfl, (MovesNamed.refl s).congr fun b => ⟨False.elim, fun ⟨_, ha, _⟩ => nomatch ha⟩⟩
  | cons n nacks ih =>
    obtain ⟨hn, hnacks⟩ := List.forall_mem_cons.1 h
    obtain ⟨t, ht, hmoves⟩ := handleNack_of_ends hn s
    obtain ⟨s', hs', hmoves'⟩ := ih hnacks t
    refine ⟨s', ?_, (hmoves.trans hmoves').congr fun b =>
      (List.exists_mem_cons_iff (fun n => Names n b) n nacks).symm⟩
    rw [List.foldlM_cons, ht]
    exact hs'

theorem ends_of_handleNacks {nacks : List Nack} (h : nacks.foldlM handleNack s = some s') :
    ∀ n ∈ nacks, n.Ends := by
  induction nacks generalizing s with
  | nil => exact nofun
  | cons n nacks ih =>
    obtain ⟨t, ht, hs'⟩ := Option.bind_eq_some_iff.1 h
    refine List.forall_mem_cons.2 ⟨?_, ih hs'⟩
    by_contra hends
    rw [handleNack_of_not_ends hends] at ht
    cases ht

end TransmittingEntity

end NetSim.Rlc
