import NetSim.Lib.Run
import NetSim.Ospf.Originate
import NetSim.Ospf.Stored

/-!
# The sequence numbers of the router's own LSAs

The next number comes from the stored instance. No number is used twice as long as a re-origination
has other content than that, and no received LSA takes its number back.
-/

namespace NetSim.Ospf

open NetSim.Lib

/-! ## What is to be shown -/

def signedNumber (n : UInt32) : Int := (n.toNat : Int).bmod (2 ^ 32)

/-- A router LSA that `ospf_rlsa_originateRouterLSA` or `ospf_lsdb_refreshLSA` hands to
`ospf_lsa_flood`. -/
def Flooded.IsOrigination (f : Flooded) : Prop :=
  (f.cause = .originate ∨ f.cause = .refresh) ∧ f.lsa.LSType = .router

def NumbersIncrease (floods : List Flooded) : Prop :=
  floods.Pairwise fun later earlier =>
    later.IsOrigination → earlier.IsOrigination → later.area = earlier.area →
      later.lsa.key = earlier.lsa.key →
      signedNumber earlier.lsa.LSSequenceNumber < signedNumber later.lsa.LSSequenceNumber

/-- An LS update, `OSPF_SCHEDULELSDB`, `OSPF_INCREMENTAGE`, or a change of the interfaces and the
neighbours. -/
inductive OwnEvent
  | lsu (now current : Nat) (srcAddr : Ip) (LSAs : List Lsa) (isRequestedLSAReceived : Bool)
  | scheduleLSDB (now current a : Nat) (isFlush : Bool)
  | incrementAge (now current : Nat)
  | other (ospfIf : List Interface)

def ownStep (cfg : Config) (r : Router) : OwnEvent → Option Router
  | .lsu now current srcAddr LSAs isReceived =>
    r.handleLSUPDATE cfg now current srcAddr LSAs isReceived
  | .scheduleLSDB now current a isFlush => r.originateRouterLSA cfg now current a isFlush
  | .incrementAge now current => r.incrementAge cfg now current
  | .other ospfIf => some { r with ospfIf := ospfIf }

/-! ## When it holds -/

def Config.IsOwn (cfg : Config) (lsa : Lsa) : Prop :=
  lsa.LSType = .router ∧ lsa.AdvertisingRouter.int_ip = cfg.routerId.int_ip
deriving Decidable

/-- A received LSA of the router's own, if not as recent as the stored one, has at least the number
before it. -/
def OwnCopyOk (cfg : Config) (a : Nat) (r : Router) (lsa : Lsa) : Prop :=
  cfg.IsOwn lsa → ∀ old ∈ r.stored a .router lsa.key, cfg.lsaCompare old lsa ≠ 0 →
    signedNumber old.LSSequenceNumber ≤ signedNumber (lsa.LSSequenceNumber + 1)

/-- The new LSA has other content than the stored instance, which has not the last number. -/
def OriginationOk (cfg : Config) (r : Router) (a : Nat) (isFlush : Bool) : Prop :=
  ∀ area ∈ r.area? a, ∀ lsa ∈ r.newRouterLSA cfg area,
    ∀ old ∈ r.stored a .router (cfg.routerId.int_ip, cfg.routerId.int_ip),
      ¬(old.LSSequenceNumber = maxSequenceNumber ∧
          cfg.maskDoNotAge old.LSAge < cfg.LSAMaxAge) →
      cfg.hasMaxAge old = false →
      old.LSSequenceNumber ≠ maxSequenceNumber ∧
        cfg.isContentChanged { lsa with LSAge := if isFlush then cfg.LSAMaxAge else 0 } old = true

def AgeingOk (cfg : Config) (r : Router) (now current : Nat) : Prop :=
  cfg.supportDC = true →
    ∀ r' ∈ loop (Router.incrementLSAge cfg now current) (fun _ => false) r r.places,
      ∀ x ∈ r'.storedLsas, cfg.IsOwn x.2 →
        ¬(cfg.checkForDoNotAge x.2.LSAge = true ∧ x.2.time + cfg.LSAMaxAge ≤ now)

def OwnOk (cfg : Config) (r : Router) : OwnEvent → Prop
  | .lsu now current srcAddr LSAs _ =>
    ∀ i n a, r.lsuTarget current srcAddr = some (some (i, n, a)) →
      EachTurn (Router.processLsa cfg now current i n a srcAddr) LsuState.isBadLSReq
        (fun s lsa _ => OwnCopyOk cfg a s.router lsa) ⟨r, [], false⟩ LSAs
  | .scheduleLSDB _ _ a isFlush => OriginationOk cfg r a isFlush
  | .incrementAge now current => AgeingOk cfg r now current
  | .other _ => True

/-! ## What the steps do to the numbers -/

section

variable {cfg : Config} {now current : Nat} {r r' r'' : Router} {a : Nat} {lsa : Lsa}

structure KeepsNumbers (cfg : Config) (r r' : Router) : Prop where
  wellFormed : r.WellFormed → r'.WellFormed
  floods : ∃ new, r'.floods = new ++ r.floods ∧ ∀ f ∈ new, ¬f.IsOrigination
  stored : ∀ a k old, k.1 = cfg.routerId.int_ip → r.stored a .router k = some old →
    ∃ new, r'.stored a .router k = some new ∧
      signedNumber old.LSSequenceNumber ≤ signedNumber new.LSSequenceNumber

namespace KeepsNumbers

theorem of_lists (hlists : r'.lsdbList = r.lsdbList)
    (hfloods : ∃ new, r'.floods = new ++ r.floods ∧ ∀ f ∈ new, ¬f.IsOrigination) :
    KeepsNumbers cfg r r' := by
  refine ⟨fun h => h.of_lists hlists, hfloods, fun b k old _ hold => ?_⟩
  rw [Router.stored_congr hlists]
  exact ⟨old, hold, Int.le_refl _⟩

theorem of_same (h : Router.SameLsdb r r') : KeepsNumbers cfg r r' :=
  of_lists h.lists ⟨[], h.floods, nofun⟩

theorem trans (h : KeepsNumbers cfg r r') (h' : KeepsNumbers cfg r' r'') :
    KeepsNumbers cfg r r'' := by
  obtain ⟨new, hnew, hno⟩ := h.floods
  obtain ⟨new', hnew', hno'⟩ := h'.floods
  refine ⟨fun hwf => h'.wellFormed (h.wellFormed hwf),
    ⟨new' ++ new, by rw [hnew', hnew, List.append_assoc], fun f hf => ?_⟩, ?_⟩
  · rcases List.mem_append.1 hf with hf | hf
    · exact hno' f hf
    · exact hno f hf
  · intro b k old hk hold
    obtain ⟨mid, hmid, hle⟩ := h.stored b k old hk hold
    obtain ⟨new, hnew, hle'⟩ := h'.stored b k mid hk hmid
    exact ⟨new, hnew, Int.le_trans hle hle'⟩

theorem of_flood {cause : FloodCause} {srcAddr : IpPtr} {inId : Nat} {x : Router × Bool}
    (hcause : cause ≠ .originate ∧ cause ≠ .refresh)
    (h : r.flood cfg cause a lsa srcAddr current inId = some x) : KeepsNumbers cfg r x.1 := by
  obtain ⟨hlists, new, hnew, hfloods⟩ := Router.flood_lists h
  refine of_lists hlists ⟨[new], hfloods, fun f hf horig => ?_⟩
  rw [List.mem_singleton.1 hf, Flooded.IsOrigination, hnew.1] at horig
  exact horig.1.elim hcause.1 hcause.2

theorem of_flush {x : Router × Lsa} (h : r.flush cfg current a lsa = some x) :
    KeepsNumbers cfg r x.1 := by
  obtain ⟨hlists, _, hfloods | ⟨new, hnew, hfloods⟩⟩ := Router.flush_lists h
  · exact of_lists hlists ⟨[], hfloods, nofun⟩
  · refine of_lists hlists ⟨[new], hfloods, fun f hf horig => ?_⟩
    rw [List.mem_singleton.1 hf, Flooded.IsOrigination, hnew.1] at horig
    exact horig.1.elim nofun nofun

end KeepsNumbers

structure Originates (cfg : Config) (a : Nat) (lsa : Lsa) (r r' : Router) : Prop where
  wellFormed : r.WellFormed → r'.WellFormed
  floods : ∃ f : Flooded, (f.IsOf .originate a lsa ∨ f.IsOf .refresh a lsa) ∧
    r'.floods = f :: r.floods
  own : cfg.IsOwn lsa
  above : ∀ old, r.stored a .router lsa.key = some old →
    signedNumber old.LSSequenceNumber < signedNumber lsa.LSSequenceNumber
  stored : ∃ new, r'.stored a .router lsa.key = some new ∧
    new.LSSequenceNumber = lsa.LSSequenceNumber
  others : ∀ b k, ¬(b = a ∧ k = lsa.key) → r'.stored b .router k = r.stored b .router k

/-- What every run keeps: the stored instance of an LSA that was originated has its number, or a
higher one. -/
structure UsedOnce (cfg : Config) (r : Router) : Prop where
  wellFormed : r.WellFormed
  increase : NumbersIncrease r.floods
  stored : ∀ f ∈ r.floods, f.IsOrigination → f.lsa.key.1 = cfg.routerId.int_ip ∧
    ∃ lsa, r.stored f.area .router f.lsa.key = some lsa ∧
      signedNumber f.lsa.LSSequenceNumber ≤ signedNumber lsa.LSSequenceNumber

theorem UsedOnce.keeps (h : UsedOnce cfg r) (hkeeps : KeepsNumbers cfg r r') : UsedOnce cfg r' := by
  obtain ⟨new, hnew, hno⟩ := hkeeps.floods
  refine ⟨hkeeps.wellFormed h.wellFormed, ?_, fun f hf horig => ?_⟩
  · rw [hnew, NumbersIncrease, List.pairwise_append]
    refine ⟨List.pairwise_of_forall_mem_list fun x hx y _ horig => absurd horig (hno x hx),
      h.increase, fun x hx y _ horig => absurd horig (hno x hx)⟩
  · rw [hnew] at hf
    rcases List.mem_append.1 hf with hf | hf
    · exact absurd horig (hno f hf)
    · obtain ⟨hown, old, hold, hle⟩ := h.stored f hf horig
      obtain ⟨lsa, hlsa, hle'⟩ := hkeeps.stored _ _ _ hown hold
      exact ⟨hown, lsa, hlsa, Int.le_trans hle hle'⟩

theorem UsedOnce.originates (h : UsedOnce cfg r) (horiginates : Originates cfg a lsa r r') :
    UsedOnce cfg r' := by
  obtain ⟨f0, hf0, hfloods⟩ := horiginates.floods
  obtain ⟨hfa, hfl⟩ : f0.area = a ∧ f0.lsa = lsa := hf0.elim And.right And.right
  obtain ⟨new, hnew, hnumber⟩ := horiginates.stored
  refine ⟨horiginates.wellFormed h.wellFormed, ?_, fun f hf horig => ?_⟩
  · rw [hfloods, NumbersIncrease, List.pairwise_cons]
    refine ⟨fun earlier hearlier _ horig harea hkey => ?_, h.increase⟩
    obtain ⟨_, old, hold, hle⟩ := h.stored earlier hearlier horig
    rw [← harea, ← hkey, hfa, hfl] at hold
    rw [hfl]
    exact Int.lt_of_le_of_lt hle (horiginates.above old hold)
  · rw [hfloods] at hf
    rcases List.mem_cons.1 hf with rfl | hf
    · rw [hfa, hfl]
      exact ⟨horiginates.own.2, new, hnew, Int.le_of_eq (by rw [hnumber])⟩
    · obtain ⟨hown, old, hold, hle⟩ := h.stored f hf horig
      refine ⟨hown, ?_⟩
      by_cases hsame : f.area = a ∧ f.lsa.key = lsa.key
      · rw [hsame.1, hsame.2] at hold ⊢
        have hlt := horiginates.above old hold
        exact ⟨new, hnew, by rw [hnumber]; omega⟩
      · rw [horiginates.others _ _ hsame]
        exact ⟨old, hold, hle⟩

/-! ## LS updates -/

theorem KeepsNumbers.of_stored (hwf : r.WellFormed → r'.WellFormed) (hfloods : r'.floods = r.floods)
    (hstored : ∀ b k, k.1 = cfg.routerId.int_ip →
      r'.stored b .router k = r.stored b .router k) : KeepsNumbers cfg r r' := by
  refine ⟨hwf, ⟨[], hfloods, nofun⟩, fun b k old hk hold => ?_⟩
  rw [hstored b k hk]
  exact ⟨old, hold, Int.le_refl _⟩

theorem Config.IsOwn.of_key {k : Nat × Nat} (hk : k.1 = cfg.routerId.int_ip)
    (h : .router = lsa.LSType ∧ k = lsa.key) : cfg.IsOwn lsa :=
  ⟨h.1.symm, by rw [← hk, h.2]; rfl⟩

theorem KeepsNumbers.of_install {x : Router × Bool} (hown : ¬cfg.IsOwn lsa)
    (h : r.install cfg now a lsa = some x) : KeepsNumbers cfg r x.1 := by
  refine of_stored (fun hwf => hwf.install h) (Router.install_lists h).1 fun b k hk => ?_
  rw [Router.install_stored h, if_neg]
  exact fun hkey => hown (.of_key hk hkey.2)

theorem Router.advance_stored (h : r.advance a lsa = some r') (b : Nat) (t : LsType)
    (k : Nat × Nat) :
    r'.stored b t k =
      if b = a ∧ t = lsa.LSType ∧ k = lsa.key then
        (r.stored a lsa.LSType lsa.key).map fun oldLSA =>
          { oldLSA with LSSequenceNumber := lsa.LSSequenceNumber + 1 }
      else r.stored b t k := by
  obtain ⟨_, list, hlist, _, hlists⟩ := Router.advance_lists h
  refine Router.stored_of_lists hlist hlists (fun k => ?_) b t k
  have hkey : ∀ old : Lsa,
      Lsa.key { old with LSSequenceNumber := lsa.LSSequenceNumber + 1 } = old.key := fun _ => rfl
  rw [lookup_modifyFirst hkey, Router.stored_of_list hlist]

theorem KeepsNumbers.of_advance (hown : ¬cfg.IsOwn lsa) (h : r.advance a lsa = some r') :
    KeepsNumbers cfg r r' := by
  refine of_stored (fun hwf => hwf.advance h) (Router.advance_lists h).1 fun b k hk => ?_
  rw [Router.advance_stored h, if_neg]
  exact fun hkey => hown (.of_key hk hkey.2)

variable {i : Nat}

theorem KeepsNumbers.of_updateSelf (hown : ¬cfg.IsOwn lsa)
    (h : r.updateSelf cfg current i a lsa = some r') : KeepsNumbers cfg r r' := by
  simp only [Router.updateSelf, Option.bind_eq_bind, Option.bind_eq_some_iff] at h
  obtain ⟨isFlush, _, h⟩ := h
  split at h
  · obtain ⟨x, hx, rfl⟩ := Option.map_eq_some_iff.1 h
    exact of_flush hx
  · obtain ⟨r1, hr1, h⟩ := Option.bind_eq_some_iff.1 h
    exact (of_advance hown hr1).trans (of_same ((Router.Quiet.schedule h).sameLsdb))

theorem Router.updateSelf_own (hown : cfg.IsOwn lsa)
    (h : r.updateSelf cfg current i a lsa = some r') :
    (r.WellFormed → r'.WellFormed) ∧ r'.floods = r.floods ∧
      (∃ new, r'.stored a .router lsa.key = some new ∧
        new.LSSequenceNumber = lsa.LSSequenceNumber + 1) ∧
      ∀ b k, ¬(b = a ∧ k = lsa.key) → r'.stored b .router k = r.stored b .router k := by
  simp only [Router.updateSelf, Option.bind_eq_bind, Option.bind_eq_some_iff] at h
  obtain ⟨isFlush, hflush, h⟩ := h
  have hno : isFlush = false := by
    unfold Router.isFlush at hflush
    rw [if_neg fun hnet => by rw [hown.1] at hnet; cases hnet.1] at hflush
    cases hflush
    rfl
  rw [hno, if_neg Bool.false_ne_true] at h
  obtain ⟨r1, hr1, h⟩ := Option.bind_eq_some_iff.1 h
  have hsame := (Router.Quiet.schedule h).sameLsdb
  obtain ⟨hfloods, list, hlist, hsome, _⟩ := Router.advance_lists hr1
  refine ⟨fun hwf => (hwf.advance hr1).of_lists hsame.lists, hsame.floods.trans hfloods, ?_, ?_⟩
  · obtain ⟨old, hold⟩ := Option.isSome_iff_exists.1 hsome
    rw [hsame.stored, ← hown.1, Router.advance_stored hr1, if_pos ⟨rfl, rfl, rfl⟩,
      Router.stored_of_list hlist, hold]
    exact ⟨_, rfl, rfl⟩
  · intro b k hbk
    rw [hsame.stored, Router.advance_stored hr1, if_neg fun h => hbk ⟨h.1, h.2.2⟩]

variable {srcAddr : Ip}

theorem KeepsNumbers.of_update
    (hok : cfg.IsOwn lsa → ∀ old ∈ r.stored a .router lsa.key,
      signedNumber old.LSSequenceNumber ≤ signedNumber (lsa.LSSequenceNumber + 1))
    (h : r.update cfg now current i a lsa srcAddr = some r') : KeepsNumbers cfg r r' := by
  simp only [Router.update, Option.bind_eq_bind, Option.bind_eq_some_iff] at h
  obtain ⟨⟨r1, ret⟩, hupdate, h⟩ := h
  have hflooded : ∀ (r2 : Router) (new : Flooded), r2.lsdbList = r.lsdbList →
      new.IsOf .update a lsa → r2.floods = new :: r.floods → KeepsNumbers cfg r r2 := by
    intro r2 new hlists hnew hfloods
    refine of_lists hlists ⟨[new], hfloods, fun f hf horig => ?_⟩
    rw [List.mem_singleton.1 hf, Flooded.IsOrigination, hnew.1] at horig
    exact horig.1.elim nofun nofun
  by_cases hown : cfg.IsOwn lsa
  · have hself : cfg.isSelfOriginated lsa = true := by
      unfold Config.isSelfOriginated
      rw [hown.2, beq_self_eq_true, Bool.true_or]
    cases Router.updateLsdb_updates hupdate with
    | unstored htype =>
      rw [hown.1] at htype
      cases htype
    | early hother =>
      rw [hself] at hother
      cases hother
    | flooded _ hret r2 hlists f hf hfloods ret' hinstall =>
      rw [if_pos ⟨hret, hself⟩] at h
      obtain ⟨hwf, hfloods', ⟨new, hnew, hnumber⟩, hothers⟩ := Router.updateSelf_own hown h
      have hkeeps := hflooded r2 f hlists hf hfloods
      obtain ⟨added, hadded, hno⟩ := hkeeps.floods
      refine ⟨fun h0 => hwf ((hkeeps.wellFormed h0).install hinstall), ⟨added, ?_, hno⟩, ?_⟩
      · rw [hfloods', (Router.install_lists hinstall).1, hadded]
      · intro b k old hk hold
        by_cases hbk : b = a ∧ k = lsa.key
        · rw [hbk.1, hbk.2] at hold ⊢
          exact ⟨new, hnew, by rw [hnumber]; exact hok hown old hold⟩
        · rw [hothers b k hbk, Router.install_stored hinstall,
            if_neg fun h => hbk ⟨h.1, h.2.2⟩, Router.stored_congr hlists]
          exact ⟨old, hold, Int.le_refl _⟩
  · have hfirst : KeepsNumbers cfg r r1 := by
      cases Router.updateLsdb_updates hupdate with
      | unstored _ heq =>
        cases heq
        exact of_same (Router.SameLsdb.refl r)
      | early _ _ _ _ heq =>
        cases heq
        exact of_same (Router.SameLsdb.refl r)
      | flooded _ _ r2 hlists f hf hfloods _ hinstall =>
        exact (hflooded r2 f hlists hf hfloods).trans (of_install hown hinstall)
    split at h
    · exact hfirst.trans (of_updateSelf hown h)
    · cases h
      exact hfirst

theorem KeepsNumbers.of_processLsa {n : Nat} {s s' : LsuState} (hok : OwnCopyOk cfg a s.router lsa)
    (h : Router.processLsa cfg now current i n a srcAddr s lsa = some s') :
    KeepsNumbers cfg s.router s'.router := by
  simp only [Router.processLsa, Option.bind_eq_bind, Option.bind_eq_some_iff] at h
  obtain ⟨area, harea, h⟩ := h
  rw [← Router.stored_of_area harea lsa] at h
  split at h
  · cases h
    exact of_same (Router.SameLsdb.refl _)
  · split at h
    · cases h
      exact of_same (Router.SameLsdb.refl _)
    · split at h
      · next hmore =>
        obtain ⟨r', hr', rfl⟩ := Option.map_eq_some_iff.1 h
        refine of_update (fun hown old hold => hok hown old hold ?_) hr'
        rw [hown.1, Option.mem_def.1 hold] at hmore
        exact hmore
      · obtain ⟨neigh, _, h⟩ := Option.bind_eq_some_iff.1 h
        split at h
        · cases h
          exact of_same (Router.SameLsdb.refl _)
        · split at h
          · exact of_same ((Router.Quiet.ackEqual h).sameLsdb)
          · split at h
            · cases h
            · obtain ⟨r', hr', rfl⟩ := Option.map_eq_some_iff.1 h
              exact of_same ((Router.Quiet.answerOlder hr').sameLsdb)

theorem UsedOnce.handleLSUPDATE {LSAs : List Lsa} {isReceived : Bool}
    (h : UsedOnce cfg r) (hok : OwnOk cfg r (.lsu now current srcAddr LSAs isReceived))
    (hstep : r.handleLSUPDATE cfg now current srcAddr LSAs isReceived = some r') :
    UsedOnce cfg r' := by
  unfold Router.handleLSUPDATE at hstep
  split at hstep
  · cases hstep
  · cases hstep
    exact h
  · next i n a htarget =>
    split at hstep
    · cases hstep
    · next s hloop =>
      have hinv := (loop_invariant (I := fun s => UsedOnce cfg s.router)
        (Q := fun s lsa _ => OwnCopyOk cfg a s.router lsa) (P := fun _ _ _ => True)
        (fun s lsa s' hI hQ hbody => ⟨hI.keeps (KeepsNumbers.of_processLsa hQ hbody), trivial⟩)
        h (hok i n a htarget) hloop).1
      split at hstep
      · cases hstep
        exact hinv
      · exact hinv.keeps (KeepsNumbers.of_same ((Router.Quiet.lsuEnd hstep).sameLsdb))

/-! ## Originating -/

theorem signedNumber_lt_succ {n : UInt32} (h : n ≠ maxSequenceNumber) :
    signedNumber n < signedNumber (n + 1) := by
  have hn : n.toNat < 2 ^ 32 := UInt32.toNat_lt n
  have hne : n.toNat ≠ 0x7FFFFFFF := fun heq => h (UInt32.toNat_inj.1 heq)
  have hsucc : (n + 1).toNat = (n.toNat + 1) % 2 ^ 32 := UInt32.toNat_add n 1
  unfold signedNumber
  rw [hsucc, Int.bmod_def, Int.bmod_def]
  split_ifs <;> omega

theorem setStored_keeps {list : List Lsa} {old new : Lsa} (hlist : r.lsdbList a .router = some list)
    (hold : lookup Lsa.key old.key list = some old) (hkey : new.key = old.key)
    (htype : new.LSType = .router) (hnumber : new.LSSequenceNumber = old.LSSequenceNumber) :
    KeepsNumbers cfg r (r.setStored a list new) := by
  have hlists : ∀ b u, (r.setStored a list new).lsdbList b u =
      if b = a ∧ u = .router then some (modifyFirst Lsa.key new.key (fun _ => new) list)
      else r.lsdbList b u := by
    unfold Router.setStored
    rw [htype]
    exact Router.lsdbList_modifyArea_setLsaList hlist
  have hstored : ∀ b u k, (r.setStored a list new).stored b u k =
      if b = a ∧ u = .router ∧ k = old.key then some new else r.stored b u k := by
    refine Router.stored_of_lists hlist hlists fun k => ?_
    rw [hkey, lookup_modifyFirst_of_key fun _ _ => hkey, hold, Option.map_some]
  refine ⟨fun hwf => hwf.of_list hlists ?_ fun l hl => ?_, ⟨[], rfl, nofun⟩, ?_⟩
  · exact nodup_modifyFirst (fun _ _ => rfl) (hwf.nodup _ _ _ hlist)
  · rcases mem_modifyFirst hl with hl | ⟨_, _, rfl⟩
    · exact hwf.typed _ _ _ hlist l hl
    · exact htype
  · intro b k lsa _ hlsa
    rw [hstored]
    split
    · next hbk =>
      rw [hbk.1, hbk.2.2, Router.stored_of_list hlist, hold] at hlsa
      cases hlsa
      exact ⟨new, rfl, Int.le_of_eq (by rw [hnumber])⟩
    · exact ⟨lsa, hlsa, Int.le_refl _⟩

theorem originate_originates (hown : cfg.IsOwn lsa)
    (hnew : ∀ old, r.stored a .router lsa.key = some old →
      signedNumber old.LSSequenceNumber < signedNumber lsa.LSSequenceNumber ∧
        cfg.isContentChanged lsa old = true)
    (h : r.originate cfg now current a lsa = some r') : Originates cfg a lsa r r' := by
  simp only [Router.originate, Option.bind_eq_bind, Option.bind_eq_some_iff] at h
  obtain ⟨⟨r2, back⟩, hflood, h⟩ := h
  obtain ⟨⟨r3, ret⟩, hinstall, rfl⟩ := Option.map_eq_some_iff.1 h
  have hsame : Router.SameLsdb r
      (r.modifyArea a fun area => { area with isRouterLSTimer := false }) :=
    Router.SameLsdb.modifyArea fun _ => rfl
  obtain ⟨hlists, f, hf, hfloods⟩ := Router.flood_lists hflood
  have hlists2 : r2.lsdbList = r.lsdbList := hlists.trans hsame.lists
  have hstored2 := Router.stored_congr hlists2
  have hinstalled : Router.installed cfg now lsa (r.stored a lsa.LSType lsa.key) =
      { lsa with time := now } := by
    rw [show r.stored a lsa.LSType lsa.key = r.stored a .router lsa.key by rw [hown.1]]
    unfold Router.installed
    split
    · next old hold => rw [if_pos (hnew old hold).2]
    · rfl
  have hadded := (Router.install_lists hinstall).1.trans hfloods
  refine ⟨fun hwf => (hwf.of_lists hlists2).install hinstall,
    ⟨f, Or.inl hf, hadded.trans (by rw [hsame.floods])⟩, hown,
    fun old hold => (hnew old hold).1, ⟨{ lsa with time := now }, ?_, rfl⟩, fun b k hbk => ?_⟩
  · rw [Router.install_stored hinstall, if_pos ⟨rfl, hown.1.symm, rfl⟩, hstored2, hinstalled]
  · rw [Router.install_stored hinstall, if_neg fun h => hbk ⟨h.1, h.2.2⟩, hstored2]

theorem UsedOnce.originateRouterLSA {isFlush : Bool} (h : UsedOnce cfg r)
    (hok : OriginationOk cfg r a isFlush)
    (hstep : r.originateRouterLSA cfg now current a isFlush = some r') : UsedOnce cfg r' := by
  simp only [Router.originateRouterLSA, Option.bind_eq_bind, Option.bind_eq_some_iff] at hstep
  obtain ⟨area, harea, lsa, hlsa, ⟨r1, seqNum⟩, hhdr, hstep⟩ := hstep
  have hlist : r.lsdbList a .router = some area.routerLSAList := Router.lsdbList_of_area harea _
  have hstored := Router.stored_of_list hlist (cfg.routerId.int_ip, cfg.routerId.int_ip)
  have hlsa' := hlsa
  obtain ⟨links, _, hfields⟩ := Option.map_eq_some_iff.1 hlsa
  have hok := hok area harea lsa hlsa'
  rw [hstored] at hok
  unfold Router.updateLsahdr lookupLsaList at hhdr
  split at hhdr
  · next hnone =>
    -- there is no instance yet, so none was originated
    cases hhdr
    refine h.originates (originate_originates ?_ ?_ hstep)
    · rw [← hfields]
      exact ⟨rfl, rfl⟩
    · intro old hold
      rw [← hfields] at hold
      cases hstored.symm.trans hold |>.symm.trans hnone
  · next old hold =>
    obtain ⟨htype, hkey⟩ := h.wellFormed.stored (hstored.trans hold)
    split at hhdr
    · -- the last number: the stored instance is flushed
      obtain ⟨⟨r2, flushed⟩, hflush, hr1⟩ := Option.map_eq_some_iff.1 hhdr
      cases hr1
      obtain ⟨hlists, hflushed, _⟩ := Router.flush_lists hflush
      subst hflushed
      have hkeeps : KeepsNumbers cfg r2 (r2.setStored a area.routerLSAList
          { old with LSAge := cfg.LSAMaxAge }) :=
        setStored_keeps ((congrFun (congrFun hlists a) _).trans hlist)
          ((congrArg (lookup Lsa.key · _) hkey).trans hold) rfl htype rfl
      exact h.keeps (((KeepsNumbers.of_flush hflush).trans hkeeps).trans
        (KeepsNumbers.of_same ((Router.Quiet.scheduleRouterLSA hstep).sameLsdb)))
    · next hnotMax =>
      split at hhdr
      · cases hhdr
        exact h.keeps (KeepsNumbers.of_same ((Router.Quiet.scheduleRouterLSA hstep).sameLsdb))
      · next hage =>
        cases hhdr
        obtain ⟨hne, hchanged⟩ := hok old hold hnotMax ((Bool.not_eq_true _).mp hage)
        refine h.originates (originate_originates ?_ ?_ hstep)
        · rw [← hfields]
          exact ⟨rfl, rfl⟩
        · intro old' hold'
          rw [← hfields] at hold'
          cases (hstored.symm.trans hold').symm.trans hold
          exact ⟨signedNumber_lt_succ hne, hchanged⟩

/-! ## Ageing -/

variable {t : LsType}

theorem Router.lsdbList_modifyLsa {list : List Lsa}
    (hlist : r.lsdbList a t = some list) (idx : Nat) (f : Lsa → Lsa) (b : Nat) (u : LsType) :
    (r.modifyLsa a t idx f).lsdbList b u =
      if b = a ∧ u = t then some (list.modify idx f) else r.lsdbList b u := by
  rw [← Router.lsdbList_modifyArea_setLsaList hlist]
  obtain ⟨area, harea, hlist'⟩ := Option.bind_eq_some_iff.1 hlist
  unfold Router.lsdbList Router.modifyLsa
  rw [Router.area?_modifyArea, Router.area?_modifyArea]
  by_cases hb : b = a
  · rw [if_pos hb, if_pos hb, harea, Option.map_some, Option.map_some, hlist']
  · rw [if_neg hb, if_neg hb]

variable {idx : Nat} {f : Lsa → Lsa}

theorem Router.WellFormed.modifyLsa (hwf : r.WellFormed)
    (hlsa : r.lsaAt a t idx = some lsa) (hkey : (f lsa).key = lsa.key)
    (htype : (f lsa).LSType = t) :
    (r.modifyLsa a t idx f).WellFormed ∧
      ∀ b u k, (r.modifyLsa a t idx f).stored b u k =
        if b = a ∧ u = t ∧ k = lsa.key then some (f lsa) else r.stored b u k := by
  obtain ⟨list, hlist, hat⟩ := Option.bind_eq_some_iff.1 hlsa
  have hlists := Router.lsdbList_modifyLsa hlist idx f
  have hnodup := hwf.nodup _ _ _ hlist
  refine ⟨hwf.of_list hlists ?_ fun l hl => ?_, ?_⟩
  · rwa [map_key_modify hat hkey]
  · obtain ⟨j, hj⟩ := List.mem_iff_getElem?.1 hl
    rw [List.getElem?_modify] at hj
    by_cases hij : idx = j
    · subst hij
      rw [hat] at hj
      simp only [if_pos, Option.map_eq_map, Option.map_some, Option.some.injEq] at hj
      rw [← hj]
      exact htype
    · simp only [if_neg hij, Option.map_eq_map, Option.map_id'] at hj
      exact hwf.typed _ _ _ hlist l (List.mem_of_getElem? hj)
  · exact Router.stored_of_lists hlist hlists fun k => lookup_modify hnodup hat hkey

theorem Router.WellFormed.stored_lsaAt (hwf : r.WellFormed)
    (hlsa : r.lsaAt a t idx = some lsa) : r.stored a t lsa.key = some lsa ∧ lsa.LSType = t := by
  obtain ⟨list, hlist, hat⟩ := Option.bind_eq_some_iff.1 hlsa
  have hmem := List.mem_of_getElem? hat
  refine ⟨?_, hwf.typed _ _ _ hlist lsa hmem⟩
  rw [Router.stored_of_list hlist, lookup_of_mem (hwf.nodup _ _ _ hlist) hmem]

theorem KeepsNumbers.of_modifyLsa (hwf : r.WellFormed)
    (hlsa : r.lsaAt a t idx = some lsa) (hkey : (f lsa).key = lsa.key)
    (htype : (f lsa).LSType = lsa.LSType)
    (hnumber : (f lsa).LSSequenceNumber = lsa.LSSequenceNumber) :
    KeepsNumbers cfg r (r.modifyLsa a t idx f) := by
  obtain ⟨hstored, ht⟩ := hwf.stored_lsaAt hlsa
  obtain ⟨hwf', hstored'⟩ := hwf.modifyLsa hlsa hkey (htype.trans ht)
  refine ⟨fun _ => hwf', ⟨[], rfl, nofun⟩, fun b k old _ hold => ?_⟩
  rw [hstored']
  split
  · next hbk =>
    obtain ⟨rfl, rfl, rfl⟩ := hbk
    cases hold.symm.trans hstored
    exact ⟨_, rfl, Int.le_of_eq (by rw [hnumber])⟩
  · exact ⟨old, hold, Int.le_refl _⟩

theorem Router.lsaAt_modifyLsa
    (hlsa : r.lsaAt a t idx = some lsa) : (r.modifyLsa a t idx f).lsaAt a t idx = some (f lsa) := by
  obtain ⟨list, hlist, hat⟩ := Option.bind_eq_some_iff.1 hlsa
  rw [Router.lsaAt, Router.lsdbList_modifyLsa hlist, if_pos ⟨rfl, rfl⟩, Option.bind_some,
    List.getElem?_modify, hat]
  simp

theorem UsedOnce.refreshLSA (h : UsedOnce cfg r) (hlsa : r.lsaAt a t idx = some lsa)
    (hown : lsa.AdvertisingRouter.int_ip = cfg.routerId.int_ip)
    (hstep : r.refreshLSA cfg now current a t idx = some r') : UsedOnce cfg r' := by
  obtain ⟨hstored, htype⟩ := h.wellFormed.stored_lsaAt hlsa
  simp only [Router.refreshLSA, hlsa, Option.bind_eq_bind, Option.bind_some] at hstep
  split at hstep
  · obtain ⟨⟨r1, flushed⟩, hflush, hstep⟩ := Option.bind_eq_some_iff.1 hstep
    obtain ⟨hlists, hflushed, _⟩ := Router.flush_lists hflush
    subst hflushed
    have h1 := h.keeps (KeepsNumbers.of_flush hflush)
    have hlsa1 : r1.lsaAt a t idx = some lsa := by rw [Router.lsaAt, hlists]; exact hlsa
    have hkeeps : KeepsNumbers cfg r1
        (r1.modifyLsa a t idx fun _ => { lsa with LSAge := cfg.LSAMaxAge }) :=
      KeepsNumbers.of_modifyLsa h1.wellFormed hlsa1 rfl rfl rfl
    exact (h1.keeps hkeeps).keeps (KeepsNumbers.of_same ((Router.Quiet.schedule hstep).sameLsdb))
  · next hne =>
    obtain ⟨⟨r1, back⟩, hflood, rfl⟩ := Option.map_eq_some_iff.1 hstep
    obtain ⟨hlists, f, hf, hfloods⟩ := Router.flood_lists hflood
    obtain ⟨hwf, hstored'⟩ := h.wellFormed.modifyLsa hlsa
      (f := fun _ => { lsa with LSSequenceNumber := lsa.LSSequenceNumber + 1, LSAge := 0, time := now })
      rfl htype
    by_cases ht : t = .router
    · subst ht
      refine h.originates (a := a) ⟨fun _ => hwf.of_lists hlists,
        ⟨f, Or.inr hf, hfloods⟩, ⟨htype, hown⟩, fun old hold => ?_, ⟨_, ?_, rfl⟩,
        fun b k hbk => ?_⟩
      · cases hold.symm.trans hstored
        exact signedNumber_lt_succ hne
      · rw [Router.stored_congr hlists, hstored']
        exact if_pos ⟨rfl, rfl, rfl⟩
      · rw [Router.stored_congr hlists, hstored']
        exact if_neg fun h => hbk ⟨h.1, h.2.2⟩
    · refine h.keeps ⟨fun _ => hwf.of_lists hlists, ⟨[f], hfloods, fun g hg horig => ?_⟩, ?_⟩
      · rw [List.mem_singleton.1 hg, Flooded.IsOrigination, hf.2.2] at horig
        exact ht (htype.symm.trans horig.2)
      · intro b k old _ hold
        rw [Router.stored_congr hlists, hstored', if_neg fun h => ht h.2.1.symm]
        exact ⟨old, hold, Int.le_refl _⟩

theorem UsedOnce.incrementLSAge {place : Nat × LsType × Nat} (h : UsedOnce cfg r)
    (hstep : r.incrementLSAge cfg now current place = some r') : UsedOnce cfg r' := by
  obtain ⟨a, t, idx⟩ := place
  simp only [Router.incrementLSAge, Option.bind_eq_bind, Option.bind_eq_some_iff] at hstep
  obtain ⟨lsa, hlsa, hstep⟩ := hstep
  split at hstep
  · cases hstep
    exact h
  · set lsa' := { lsa with
      LSAge := cfg.assignNewLSAge lsa.LSAge (Router.incrementedAge cfg lsa) } with hlsa'
    have h' : UsedOnce cfg (r.modifyLsa a t idx fun _ => lsa') :=
      h.keeps (KeepsNumbers.of_modifyLsa h.wellFormed hlsa rfl rfl rfl)
    split at hstep
    · next hrefresh =>
      exact h'.refreshLSA (Router.lsaAt_modifyLsa hlsa) hrefresh.1 hstep
    · split at hstep
      · obtain ⟨area, _, hstep⟩ := Option.bind_eq_some_iff.1 hstep
        obtain ⟨⟨r1, back⟩, hflood, hstep⟩ := Option.bind_eq_some_iff.1 hstep
        exact (h'.keeps (KeepsNumbers.of_flood ⟨by decide, by decide⟩ hflood)).keeps
          (KeepsNumbers.of_same (Router.SameLsdb.addToMaxAgeLSAList hstep))
      · cases hstep
        exact h'

theorem KeepsNumbers.of_removeLSA (hown : ¬cfg.IsOwn lsa) (h : r.removeLSA cfg a lsa = some r') :
    KeepsNumbers cfg r r' := by
  simp only [Router.removeLSA, Option.bind_eq_bind, Option.bind_eq_some_iff] at h
  obtain ⟨area, harea, h⟩ := h
  split at h
  · cases h
    exact of_same (Router.SameLsdb.refl r)
  · next list hlist =>
    cases h
    set list' := list.filter fun l => l.key ≠ lsa.key with hlist'
    rw [← Router.lsdbList_of_area harea] at hlist
    have hlists : ∀ b u, ((r.modifyArea a fun area =>
          area.setLsaList list' lsa.LSType).removeFromSendList cfg area.areaId lsa).lsdbList b u =
        if b = a ∧ u = lsa.LSType then some list' else r.lsdbList b u :=
      Router.lsdbList_modifyArea_setLsaList hlist
    refine ⟨fun hwf => hwf.of_list hlists ?_ fun l hl => ?_, ⟨[], rfl, nofun⟩, ?_⟩
    · exact (hwf.nodup _ _ _ hlist).sublist (List.filter_sublist.map _)
    · exact hwf.typed _ _ _ hlist l (List.mem_of_mem_filter hl)
    · intro b k old hk hold
      refine ⟨old, ?_, Int.le_refl _⟩
      rw [Router.stored, hlists]
      split
      · next hbu =>
        have hne : k ≠ lsa.key := fun hkey => hown (.of_key hk ⟨hbu.2, hkey⟩)
        rw [hbu.1, hbu.2, Router.stored_of_list hlist] at hold
        rw [Option.bind_some, hlist', lookup_filter_ne hne, hold]
      · exact hold

theorem UsedOnce.removeStale {x : Nat × Lsa} (h : UsedOnce cfg r)
    (hok : cfg.IsOwn x.2 → ¬(cfg.checkForDoNotAge x.2.LSAge = true ∧ x.2.time + cfg.LSAMaxAge ≤ now))
    (hstep : r.removeStale cfg now current x = some r') : UsedOnce cfg r' := by
  simp only [Router.removeStale] at hstep
  split at hstep
  · next hstale =>
    obtain ⟨⟨r1, flushed⟩, hflush, hstep⟩ := Option.bind_eq_some_iff.1 hstep
    obtain ⟨_, hflushed, _⟩ := Router.flush_lists hflush
    subst hflushed
    exact (h.keeps (KeepsNumbers.of_flush hflush)).keeps
      (KeepsNumbers.of_removeLSA (fun hown => hok hown hstale) hstep)
  · cases hstep
    exact h

theorem UsedOnce.incrementAge (h : UsedOnce cfg r) (hok : AgeingOk cfg r now current)
    (hstep : r.incrementAge cfg now current = some r') : UsedOnce cfg r' := by
  simp only [Router.incrementAge, Option.bind_eq_bind, Option.bind_eq_some_iff] at hstep
  obtain ⟨r1, hloop, hstep⟩ := hstep
  have h1 : UsedOnce cfg r1 := (loop_invariant (Q := fun _ _ _ => True) (P := fun _ _ _ => True)
    (fun s x s' hI _ hbody => ⟨UsedOnce.incrementLSAge hI hbody, trivial⟩) h
    (EachTurn.of_forall (fun _ _ _ _ => trivial) _) hloop).1
  split at hstep
  · next hdc =>
    have hok' := hok hdc r1 hloop
    exact (loop_invariant (P := fun _ _ _ => True)
      (Q := fun _ (x : Nat × Lsa) _ => cfg.IsOwn x.2 →
        ¬(cfg.checkForDoNotAge x.2.LSAge = true ∧ x.2.time + cfg.LSAMaxAge ≤ now))
      (fun s x s' hI hQ hbody => ⟨UsedOnce.removeStale hI hQ hbody, trivial⟩) h1
      (EachTurn.of_forall (fun x hx _ _ => hok' x hx) _) hstep).1
  · cases hstep
    exact h1

theorem UsedOnce.step {ev : OwnEvent} (h : UsedOnce cfg r) (hok : OwnOk cfg r ev)
    (hstep : ownStep cfg r ev = some r') : UsedOnce cfg r' := by
  cases ev with
  | lsu now current srcAddr LSAs isReceived => exact h.handleLSUPDATE hok hstep
  | scheduleLSDB now current a isFlush => exact h.originateRouterLSA hok hstep
  | incrementAge now current => exact h.incrementAge hok hstep
  | other ospfIf =>
    cases hstep
    exact h.keeps (KeepsNumbers.of_same (Router.SameLsdb.of_areaDS rfl rfl))

/-- In every run whose events meet the condition, the numbers of each router LSA increase. -/
theorem numbersIncrease {r₀ : Router} {tr : List (Router × OwnEvent)}
    (run : Run (ownStep cfg) r₀ tr r) (hwf : r₀.WellFormed) (h₀ : r₀.floods = [])
    (hok : ∀ x ∈ tr, OwnOk cfg x.1 x.2) : NumbersIncrease r.floods := by
  have hinv : UsedOnce cfg r := run.induction (P := fun _ r => UsedOnce cfg r)
    (Q := fun r ev => OwnOk cfg r ev)
    ⟨hwf, by rw [h₀]; exact List.Pairwise.nil, fun f hf => absurd (h₀ ▸ hf) List.not_mem_nil⟩
    (fun _ _ _ _ _ hP hQ hstep => hP.step hQ hstep) hok
  exact hinv.increase

end

/-! ## Examples -/

instance (f : Flooded) : Decidable f.IsOrigination := inferInstanceAs (Decidable (_ ∧ _))

instance (floods : List Flooded) : Decidable (NumbersIncrease floods) :=
  inferInstanceAs (Decidable (List.Pairwise _ _))

instance (cfg : Config) (r : Router) (a : Nat) (isFlush : Bool) :
    Decidable (OriginationOk cfg r a isFlush) := by
  unfold OriginationOk
  infer_instance

theorem exampleRouter_wellFormed : exampleRouter.WellFormed where
  nodup := by
    intro a t list hlist
    rcases a with _ | a
    · cases t <;> cases hlist <;> exact List.nodup_nil
    · cases hlist
  typed := by
    intro a t list hlist
    rcases a with _ | a
    · cases t <;> cases hlist <;> nofun
    · cases hlist

def numbersAndLinks (floods : List Flooded) : List (UInt32 × Option Nat) :=
  floods.map fun f => (f.lsa.LSSequenceNumber, f.lsa.lsaInfo.map fun rlsa => rlsa.rlsaLink.length)

def exampleLostLink : Interface := { exampleLink with neighborRouterList := [] }

/-- The router LSA is originated with a link to the neighbour, and again once that is lost. -/
theorem numbersIncrease_lostLink :
    ∃ tr r, Run (ownStep exampleConfig) exampleRouter tr r ∧
      numbersAndLinks r.floods = [(0x80000002, some 1), (0x80000001, some 2)] ∧
        NumbersIncrease r.floods := by
  have hexec : (exec (ownStep exampleConfig) exampleRouter
      [fun _ => some (.scheduleLSDB second 1 0 false), fun _ => some (.other [exampleLostLink]),
        fun _ => some (.scheduleLSDB (10 * second) 1 0 false)]).any (fun x =>
      decide (numbersAndLinks x.2.floods = [(0x80000002, some 1), (0x80000001, some 2)]) &&
      x.1.all fun y =>
        match y.2 with
        | .scheduleLSDB _ _ a isFlush => decide (OriginationOk exampleConfig y.1 a isFlush)
        | .other _ => true
        | _ => false) = true := by
    decide +kernel
  obtain ⟨tr, r, run, htest⟩ := run_of_exec hexec
  rw [Bool.and_eq_true, decide_eq_true_eq, List.all_eq_true] at htest
  refine ⟨tr, r, run, htest.1, numbersIncrease run exampleRouter_wellFormed rfl fun x hx => ?_⟩
  have hx := htest.2 x hx
  obtain ⟨y, ev⟩ := x
  cases ev with
  | scheduleLSDB _ _ a isFlush =>
    have hok : OriginationOk exampleConfig y a isFlush := of_decide_eq_true hx
    exact hok
  | other => trivial
  | lsu => cases hx
  | incrementAge => cases hx

/-- A re-origination without a change is flooded with the next number, which the next one has as
well. -/
theorem not_numbersIncrease :
    ¬∀ (cfg : Config) (r₀ : Router) (tr : List (Router × OwnEvent)) (r : Router),
      Run (ownStep cfg) r₀ tr r → r₀.WellFormed → r₀.floods = [] → NumbersIncrease r.floods := by
  intro hclaim
  have hexec : (exec (ownStep exampleConfig) exampleRouter
      [fun _ => some (.scheduleLSDB second 1 0 false),
        fun _ => some (.scheduleLSDB (10 * second) 1 0 false),
        fun _ => some (.other [exampleLostLink]),
        fun _ => some (.scheduleLSDB (20 * second) 1 0 false)]).any (fun x =>
      decide (¬NumbersIncrease x.2.floods)) = true := by
    decide +kernel
  obtain ⟨tr, r, run, htest⟩ := run_of_exec hexec
  exact of_decide_eq_true htest
    (hclaim exampleConfig exampleRouter tr r run exampleRouter_wellFormed rfl)

end NetSim.Ospf
