import NetSim.Lib.Run
import NetSim.Ospf.Recency
import NetSim.Ospf.Stored

/-!
# The database under LS updates

A received LSA is handed to `ospf_lsdb_update` also when it is older than the stored instance, so
the database may regress then, or when one of this router's own LSAs arrives, or one with the same
content.
-/

namespace NetSim.Ospf

open NetSim.Lib

/-! ## What is to be shown -/

/-- Every stored instance is still stored, or one that is not less recent. -/
def KeepsRecent (cfg : Config) (r r' : Router) : Prop :=
  ∀ a t k old, r.stored a t k = some old →
    ∃ new, r'.stored a t k = some new ∧ cfg.lsaCompare old new ≠ -1

/-- The stored instance of every LSA accepted so far is an accepted one, and none is more recent. -/
def IsUpToDate (cfg : Config) (r : Router) : Prop :=
  ∀ f ∈ r.floods, f.cause = .update →
    ∃ g ∈ r.floods, g.cause = .update ∧ g.area = f.area ∧ g.lsa.LSType = f.lsa.LSType ∧
      g.lsa.key = f.lsa.key ∧
      (∃ time, r.stored f.area f.lsa.LSType f.lsa.key = some { g.lsa with time := time }) ∧
      cfg.lsaCompare g.lsa f.lsa ≠ 1

/-- The LSA gets past steps 2 to 4 of `ospf_handle_LSUPDATE`. -/
def Router.isCompared (cfg : Config) (r : Router) (a : Nat) (lsa : Lsa) : Bool :=
  match r.area? a with
  | none => false
  | some area =>
    validateLsa lsa area &&
      !(cfg.hasMaxAge lsa && (r.stored a lsa.LSType lsa.key).isNone &&
        !r.isAnyNeighborInExchangeOrLoadingState)

structure Accepts (now a : Nat) (r r' : Router) (lsa : Lsa) : Prop where
  floods : ∃ f : Flooded, f.IsOf .update a lsa ∧ r'.floods = f :: r.floods
  stored : ∀ b t k, r'.stored b t k =
    if b = a ∧ t = lsa.LSType ∧ k = lsa.key then some { lsa with time := now } else r.stored b t k

/-- A newer instance is accepted once `minLSInterval` has passed, and an older one is answered as in
step 8. -/
structure HandlesLsa (cfg : Config) (now : Nat) (i n a : Nat) (srcAddr : Ip) (s s' : LsuState)
    (lsa : Lsa) : Prop where
  keepsRecent : KeepsRecent cfg s.router s'.router
  first : s.router.isCompared cfg a lsa = true → lsa.LSType.isStored = true →
    s.router.stored a lsa.LSType lsa.key = none → Accepts now a s.router s'.router lsa
  newer : ∀ old, s.router.isCompared cfg a lsa = true →
    s.router.stored a lsa.LSType lsa.key = some old → cfg.lsaCompare old lsa = 1 →
      cfg.isTooEarly now old = false → Accepts now a s.router s'.router lsa
  older : ∀ old, s.router.isCompared cfg a lsa = true →
    s.router.stored a lsa.LSType lsa.key = some old → cfg.lsaCompare old lsa = -1 →
      s'.router.floods = s.router.floods ∧ s'.router.stored = s.router.stored ∧
        s.router.answerOlder cfg now i n srcAddr old lsa = some s'.router

/-- An LS update, with the time and the interface of its arrival. -/
structure LsuEvent where
  now : Nat
  current : Nat
  srcAddr : Ip
  LSAs : List Lsa
  isRequestedLSAReceived : Bool

/-- `ospf_handle_LSUPDATE`. -/
def lsuStep (cfg : Config) (r : Router) (ev : LsuEvent) : Option Router :=
  r.handleLSUPDATE cfg ev.now ev.current ev.srcAddr ev.LSAs ev.isRequestedLSAReceived

/-- `P` holds of every turn of the loop of `ospf_handle_LSUPDATE`. -/
def EachLsa (cfg : Config) (P : (i n a : Nat) → LsuState → Lsa → LsuState → Prop) (r : Router)
    (ev : LsuEvent) : Prop :=
  ∀ i n a, r.lsuTarget ev.current ev.srcAddr = some (some (i, n, a)) →
    EachTurn (Router.processLsa cfg ev.now ev.current i n a ev.srcAddr) LsuState.isBadLSReq
      (P i n a) ⟨r, [], false⟩ ev.LSAs

/-- The condition on an LSA that is compared. Its age, and that of the stored instance, fits into 15
bits. -/
def UpdateOk (cfg : Config) (now a : Nat) (r : Router) (lsa : Lsa) : Prop :=
  r.isCompared cfg a lsa = true →
    cfg.FitsAge lsa ∧
      match r.stored a lsa.LSType lsa.key with
      | none => cfg.isSelfOriginated lsa = false
      | some old =>
        cfg.FitsAge old ∧ cfg.lsaCompare old lsa ≠ -1 ∧
          (cfg.lsaCompare old lsa = 1 →
            cfg.isSelfOriginated lsa = false ∧
              (cfg.isTooEarly now old = true ∨ cfg.isContentChanged lsa old = true))

/-! ## One LSA -/

section

variable {cfg : Config} {now current i n a : Nat} {srcAddr : Ip} {r : Router} {lsa : Lsa}

theorem update_updates {r' : Router} (hself : cfg.isSelfOriginated lsa = false)
    (h : r.update cfg now current i a lsa srcAddr = some r') :
    ∃ ret, Router.Updates cfg now a r (r', ret) lsa := by
  simp only [Router.update, Option.bind_eq_bind, Option.bind_eq_some_iff] at h
  obtain ⟨⟨r1, ret⟩, hupdate, h⟩ := h
  rw [hself, if_neg fun h => Bool.false_ne_true h.2] at h
  cases h
  exact ⟨ret, Router.updateLsdb_updates hupdate⟩

inductive Turns (cfg : Config) (now a : Nat) (r r' : Router) (lsa : Lsa) : Prop
  | same (hsame : Router.SameLsdb r r')
      (hfirst : r.isCompared cfg a lsa = true → lsa.LSType.isStored = true →
        r.stored a lsa.LSType lsa.key ≠ none)
      (hnewer : r.isCompared cfg a lsa = true → ∀ old, r.stored a lsa.LSType lsa.key = some old →
        cfg.lsaCompare old lsa ≠ 1 ∨ cfg.isTooEarly now old = true)
  | accepts (haccepts : Accepts now a r r' lsa) (hfits : cfg.FitsAge lsa)
      (hnewer : ∀ old, r.stored a lsa.LSType lsa.key = some old →
        cfg.FitsAge old ∧ cfg.IsNewer old lsa)

theorem Router.isCompared_of_area {area : Area} (harea : r.area? a = some area) :
    r.isCompared cfg a lsa =
      (validateLsa lsa area &&
        !(cfg.hasMaxAge lsa && (r.stored a lsa.LSType lsa.key).isNone &&
          !r.isAnyNeighborInExchangeOrLoadingState)) := by
  unfold Router.isCompared
  rw [harea]

theorem isMoreRecent_cases (hok : UpdateOk cfg now a r lsa)
    (hcompared : r.isCompared cfg a lsa = true) :
    (cfg.isMoreRecent lsa (r.stored a lsa.LSType lsa.key) = 1 ∧
        cfg.isSelfOriginated lsa = false) ∨
      (cfg.isMoreRecent lsa (r.stored a lsa.LSType lsa.key) = 0 ∧
        ∃ old, r.stored a lsa.LSType lsa.key = some old ∧ cfg.lsaCompare old lsa = 0) := by
  obtain ⟨hfits, hok⟩ := hok hcompared
  cases hold : r.stored a lsa.LSType lsa.key with
  | none =>
    rw [hold] at hok
    exact Or.inl ⟨rfl, hok⟩
  | some old =>
    rw [hold] at hok
    obtain ⟨hfits', hne, hnew⟩ := hok
    rcases lsaCompare_of_fits hfits' hfits with h | h | h
    · exact Or.inl ⟨h.1, (hnew h.1).1⟩
    · exact absurd h.1 hne
    · exact Or.inr ⟨h.1, old, rfl, h.1⟩

theorem turns_of_update {x : Router × Int} (hok : UpdateOk cfg now a r lsa)
    (hcompared : r.isCompared cfg a lsa = true)
    (hmore : cfg.isMoreRecent lsa (r.stored a lsa.LSType lsa.key) = 1)
    (hself : cfg.isSelfOriginated lsa = false) (hupdates : Router.Updates cfg now a r x lsa) :
    Turns cfg now a r x.1 lsa := by
  obtain ⟨hfits, hok⟩ := hok hcompared
  cases hupdates with
  | unstored htype heq =>
    cases heq
    refine .same (Router.SameLsdb.refl r) (fun _ h => ?_) fun _ old hold => ?_
    · rw [htype] at h
      cases h
    · rw [Router.stored_of_unstored htype] at hold
      cases hold
  | early _ old hold hearly heq =>
    cases heq
    refine .same (Router.SameLsdb.refl r) (fun _ _ h => ?_) fun _ old' hold' => ?_
    · rw [hold] at h
      cases h
    · cases hold.symm.trans hold'
      exact Or.inr hearly
  | flooded hlate _ r2 hlists f hf hfloods ret hinstall =>
    have hstored2 : r2.stored = r.stored := Router.stored_congr hlists
    have hinstalled : Router.installed cfg now lsa (r.stored a lsa.LSType lsa.key) =
        { lsa with time := now } := by
      cases hold : r.stored a lsa.LSType lsa.key with
      | none => rfl
      | some old =>
        rw [hold] at hok hmore
        rcases (hok.2.2 hmore).2 with hearly | hchanged
        · rw [hlate hself old hold] at hearly
          cases hearly
        · exact if_pos hchanged
    refine .accepts ⟨?_, fun b t k => ?_⟩ hfits fun old hold => ?_
    · exact ⟨f, hf, (Router.install_lists hinstall).1.trans hfloods⟩
    · rw [Router.install_stored hinstall, hstored2, hinstalled]
    · rw [hold] at hok hmore
      exact ⟨hok.1, (lsaCompare_eq_one_iff hok.1 hfits).1 hmore⟩

theorem processLsa_turns {s s' : LsuState} (hok : UpdateOk cfg now a s.router lsa)
    (h : Router.processLsa cfg now current i n a srcAddr s lsa = some s') :
    Turns cfg now a s.router s'.router lsa := by
  simp only [Router.processLsa, Option.bind_eq_bind, Option.bind_eq_some_iff] at h
  obtain ⟨area, harea, h⟩ := h
  have hcompared : s.router.isCompared cfg a lsa = _ := Router.isCompared_of_area harea
  rw [← Router.stored_of_area harea lsa] at h
  split at h
  · next hinvalid =>
    cases h
    rw [(Bool.not_eq_true' _).mp hinvalid, Bool.false_and] at hcompared
    refine .same (Router.SameLsdb.refl _) (fun h => ?_) fun h => ?_ <;>
      · rw [hcompared] at h
        cases h
  · split at h
    · next hmax =>
      cases h
      rw [hmax, Bool.not_true, Bool.and_false] at hcompared
      refine .same (Router.SameLsdb.refl _) (fun h => ?_) fun h => ?_ <;>
        · rw [hcompared] at h
          cases h
    · next hvalid hmax =>
      have hcompared' : s.router.isCompared cfg a lsa = true := by
        rw [hcompared]
        simp only [Bool.not_eq_true', Bool.not_eq_false] at hvalid hmax
        rw [hvalid, Bool.true_and, Bool.not_eq_true']
        simpa using hmax
      rcases isMoreRecent_cases hok hcompared' with ⟨hmore, hself⟩ | ⟨hequal, old, hold, hcmp⟩
      · rw [hmore, if_pos Int.one_ne_zero] at h
        obtain ⟨r', hr', rfl⟩ := Option.map_eq_some_iff.1 h
        obtain ⟨ret, hupdates⟩ := update_updates hself hr'
        exact turns_of_update hok hcompared' hmore hself hupdates
      · have hsame : Router.SameLsdb s.router s'.router := by
          rw [hequal, if_neg (not_not_intro rfl), if_pos rfl] at h
          obtain ⟨neigh, _, h⟩ := Option.bind_eq_some_iff.1 h
          split at h
          · cases h
            exact Router.SameLsdb.refl _
          · exact (Router.Quiet.ackEqual h).sameLsdb
        refine .same hsame (fun _ _ hnone => ?_) fun _ old' hold' => ?_
        · rw [hold] at hnone
          cases hnone
        · cases hold.symm.trans hold'
          exact Or.inl (by rw [hcmp]; decide)

end

/-! ## Whole updates -/

section

variable {cfg : Config} {now a : Nat} {r r' r'' : Router} {lsa : Lsa}

def KeepsNewer (cfg : Config) (r r' : Router) : Prop :=
  ∀ a t k old, r.stored a t k = some old →
    ∃ new, r'.stored a t k = some new ∧
      (new = old ∨ (cfg.FitsAge old ∧ cfg.FitsAge new ∧ cfg.IsNewer old new))

theorem KeepsNewer.of_stored (h : r'.stored = r.stored) : KeepsNewer cfg r r' := by
  intro a t k old hold
  exact ⟨old, by rw [h, hold], Or.inl rfl⟩

theorem KeepsNewer.trans (h : KeepsNewer cfg r r') (h' : KeepsNewer cfg r' r'') :
    KeepsNewer cfg r r'' := by
  intro a t k old hold
  obtain ⟨mid, hmid, hom⟩ := h a t k old hold
  obtain ⟨new, hnew, hmn⟩ := h' a t k mid hmid
  refine ⟨new, hnew, ?_⟩
  rcases hom with rfl | hom
  · exact hmn
  · rcases hmn with rfl | hmn
    · exact Or.inr hom
    · exact Or.inr ⟨hom.1, hmn.2.1, hom.2.2.trans hmn.2.2⟩

theorem KeepsNewer.keepsRecent (h : KeepsNewer cfg r r') : KeepsRecent cfg r r' := by
  intro a t k old hold
  obtain ⟨new, hnew, hrec⟩ := h a t k old hold
  refine ⟨new, hnew, ?_⟩
  rcases hrec with rfl | ⟨hold', hnew', hrec⟩
  · rw [lsaCompare_self]
    decide
  · exact Config.IsAtLeast.lsaCompare_ne hold' hnew' (Or.inr hrec)

theorem Turns.keepsNewer (h : Turns cfg now a r r' lsa) : KeepsNewer cfg r r' := by
  cases h with
  | same hsame => exact KeepsNewer.of_stored hsame.stored
  | accepts haccepts hfits hnewer =>
    intro b t k old hold
    rw [haccepts.stored]
    split
    · next hkey =>
      obtain ⟨rfl, rfl, rfl⟩ := hkey
      exact ⟨_, rfl, Or.inr ⟨(hnewer old hold).1, hfits, (hnewer old hold).2⟩⟩
    · exact ⟨old, hold, Or.inl rfl⟩

def StoresAccepted (cfg : Config) (r : Router) : Prop :=
  ∀ f ∈ r.floods, f.cause = .update → cfg.FitsAge f.lsa ∧
    ∃ g ∈ r.floods, g.cause = .update ∧ g.area = f.area ∧ g.lsa.LSType = f.lsa.LSType ∧
      g.lsa.key = f.lsa.key ∧
      (∃ time, r.stored f.area f.lsa.LSType f.lsa.key = some { g.lsa with time := time }) ∧
      cfg.FitsAge g.lsa ∧ cfg.IsAtLeast f.lsa g.lsa

theorem StoresAccepted.isUpToDate (h : StoresAccepted cfg r) : IsUpToDate cfg r := by
  intro f hf hcause
  obtain ⟨hfits, g, hg, hgc, harea, htype, hkey, hstored, hgfits, hrec⟩ := h f hf hcause
  refine ⟨g, hg, hgc, harea, htype, hkey, hstored, ?_⟩
  rw [Ne, lsaCompare_eq_one_iff hgfits hfits]
  rcases hrec with heq | hrec
  · rw [heq]
    exact Config.IsNewer.not_self
  · exact hrec.asymm

theorem StoresAccepted.of_same (h : StoresAccepted cfg r) (hsame : Router.SameLsdb r r') :
    StoresAccepted cfg r' := by
  unfold StoresAccepted at h ⊢
  rwa [hsame.stored, hsame.floods]

theorem StoresAccepted.turns (h : StoresAccepted cfg r) (hturn : Turns cfg now a r r' lsa) :
    StoresAccepted cfg r' := by
  cases hturn with
  | same hsame => exact h.of_same hsame
  | accepts haccepts hfits hnewer =>
    intro f hf hcause
    obtain ⟨new, ⟨hnewCause, hnewArea, hnewLsa⟩, hnew⟩ := haccepts.floods
    rw [hnew] at hf ⊢
    have hself : ∀ f : Flooded, f.area = a → f.lsa.LSType = lsa.LSType → f.lsa.key = lsa.key →
        r'.stored f.area f.lsa.LSType f.lsa.key = some { lsa with time := now } := by
      intro f ha ht hk
      rw [haccepts.stored, if_pos ⟨ha, ht, hk⟩]
    rcases List.mem_cons.1 hf with rfl | hf
    · rw [hnewLsa]
      exact ⟨hfits, f, List.mem_cons_self, hnewCause, rfl, by rw [hnewLsa], by rw [hnewLsa],
        ⟨now, hnewLsa ▸ hself f hnewArea (by rw [hnewLsa]) (by rw [hnewLsa])⟩, by rwa [hnewLsa],
        hnewLsa ▸ Config.IsAtLeast.refl _⟩
    · obtain ⟨hffits, g, hg, hgc, harea, htype, hkey, ⟨time, hstored⟩, hgfits, hrec⟩ := h f hf hcause
      refine ⟨hffits, ?_⟩
      by_cases hsame : f.area = a ∧ f.lsa.LSType = lsa.LSType ∧ f.lsa.key = lsa.key
      · obtain ⟨ha, ht, hk⟩ := hsame
        rw [ha, ht, hk] at hstored
        -- the stored instance differs from the accepted one in the time only
        have hgnew : cfg.IsNewer g.lsa lsa := (hnewer _ hstored).2
        refine ⟨new, List.mem_cons_self, hnewCause, hnewArea.trans ha.symm, ?_, ?_, ?_, ?_, ?_⟩ <;>
          rw [hnewLsa]
        · exact ht.symm
        · exact hk.symm
        · exact ⟨now, hself f ha ht hk⟩
        · exact hfits
        · exact hrec.trans (Or.inr hgnew)
      · refine ⟨g, List.mem_cons_of_mem _ hg, hgc, harea, htype, hkey, ⟨time, ?_⟩, hgfits, hrec⟩
        rw [haccepts.stored, if_neg hsame, hstored]

theorem Turns.handlesLsa {i n : Nat} {srcAddr : Ip} {s s' : LsuState}
    (hok : UpdateOk cfg now a s.router lsa) (h : Turns cfg now a s.router s'.router lsa) :
    HandlesLsa cfg now i n a srcAddr s s' lsa where
  keepsRecent := h.keepsNewer.keepsRecent
  first := by
    intro hcompared htype hnone
    cases h with
    | same _ hfirst _ => exact absurd hnone (hfirst hcompared htype)
    | accepts haccepts => exact haccepts
  newer := by
    intro old hcompared hold hcmp hlate
    cases h with
    | same _ _ hnewer =>
      rcases hnewer hcompared old hold with hne | hearly
      · exact absurd hcmp hne
      · rw [hlate] at hearly
        cases hearly
    | accepts haccepts => exact haccepts
  older := by
    intro old hcompared hold hcmp
    have hold' := (hok hcompared).2
    rw [hold] at hold'
    exact absurd hcmp hold'.2.1

theorem handleLSUPDATE_keeps {ev : LsuEvent} (h : StoresAccepted cfg r)
    (hok : EachLsa cfg (fun _ _ a s lsa _ => UpdateOk cfg ev.now a s.router lsa) r ev)
    (hstep : lsuStep cfg r ev = some r') :
    StoresAccepted cfg r' ∧ KeepsNewer cfg r r' ∧
      EachLsa cfg (fun i n a s lsa s' => HandlesLsa cfg ev.now i n a ev.srcAddr s s' lsa) r ev := by
  unfold lsuStep Router.handleLSUPDATE at hstep
  split at hstep
  · cases hstep
  · next htarget =>
    cases hstep
    refine ⟨h, KeepsNewer.of_stored rfl, fun i n a hother => ?_⟩
    cases htarget.symm.trans hother
  · next i n a htarget =>
    split at hstep
    · cases hstep
    · next s hloop =>
      have hinv := loop_invariant
        (I := fun s => StoresAccepted cfg s.router ∧ KeepsNewer cfg r s.router)
        (Q := fun s lsa _ => UpdateOk cfg ev.now a s.router lsa)
        (P := fun s lsa s' => HandlesLsa cfg ev.now i n a ev.srcAddr s s' lsa)
        (fun s lsa s' hI hQ hbody =>
          have hturn := processLsa_turns hQ hbody
          ⟨⟨hI.1.turns hturn, hI.2.trans hturn.keepsNewer⟩, hturn.handlesLsa hQ⟩)
        ⟨h, KeepsNewer.of_stored rfl⟩ (hok i n a htarget) hloop
      obtain ⟨⟨hacc, hkeep⟩, heach⟩ := hinv
      have hlast : Router.SameLsdb s.router r' := by
        split at hstep
        · cases hstep
          exact Router.SameLsdb.refl _
        · exact (Router.Quiet.lsuEnd hstep).sameLsdb
      refine ⟨hacc.of_same hlast, hkeep.trans (KeepsNewer.of_stored hlast.stored), ?_⟩
      intro i' n' a' hother
      cases htarget.symm.trans hother
      exact heach

/-- In every sequence of LS updates that meet the condition, the database never regresses, and the
stored instance of an LSA is the most recent one accepted. -/
theorem lsdb_neverRegresses {r₀ : Router} {tr : List (Router × LsuEvent)}
    (run : Run (lsuStep cfg) r₀ tr r) (h₀ : r₀.floods = [])
    (hok : ∀ x ∈ tr,
      EachLsa cfg (fun _ _ a s lsa _ => UpdateOk cfg x.2.now a s.router lsa) x.1 x.2) :
    IsUpToDate cfg r ∧
      ∀ x ∈ tr, (∀ r', lsuStep cfg x.1 x.2 = some r' → KeepsRecent cfg x.1 r') ∧
        EachLsa cfg (fun i n a s lsa s' => HandlesLsa cfg x.2.now i n a x.2.srcAddr s s' lsa)
          x.1 x.2 := by
  have hinv := run.induction
    (P := fun tr r => StoresAccepted cfg r ∧
      ∀ x ∈ tr, (∀ r', lsuStep cfg x.1 x.2 = some r' → KeepsRecent cfg x.1 r') ∧
        EachLsa cfg (fun i n a s lsa s' => HandlesLsa cfg x.2.now i n a x.2.srcAddr s s' lsa)
          x.1 x.2)
    (Q := fun r ev => EachLsa cfg (fun _ _ a s lsa _ => UpdateOk cfg ev.now a s.router lsa) r ev)
    ⟨fun f hf => absurd (h₀ ▸ hf) List.not_mem_nil, fun x hx => absurd hx List.not_mem_nil⟩
    (fun tr r ev r' _ hP hQ hstep => by
      obtain ⟨hacc, hkeep, heach⟩ := handleLSUPDATE_keeps hP.1 hQ hstep
      refine ⟨hacc, fun x hx => ?_⟩
      rcases List.mem_cons.1 hx with rfl | hx
      · refine ⟨fun r'' hr'' => ?_, heach⟩
        cases hstep.symm.trans hr''
        exact hkeep.keepsRecent
      · exact hP.2 x hx)
    hok
  exact ⟨hinv.1.isUpToDate, hinv.2⟩

end

/-! ## Examples -/

instance (cfg : Config) (lsa : Lsa) : Decidable (cfg.FitsAge lsa) :=
  inferInstanceAs (Decidable (_ < _))

instance (cfg : Config) (now a : Nat) (r : Router) (lsa : Lsa) :
    Decidable (UpdateOk cfg now a r lsa) := by
  unfold UpdateOk
  split <;> infer_instance

instance (cfg : Config) (P : (i n a : Nat) → LsuState → Lsa → LsuState → Prop)
    [∀ i n a s lsa s', Decidable (P i n a s lsa s')] (r : Router) (ev : LsuEvent) :
    Decidable (EachLsa cfg P r ev) :=
  match h : r.lsuTarget ev.current ev.srcAddr with
  | some (some (i, n, a)) =>
    decidable_of_iff
      (EachTurn (Router.processLsa cfg ev.now ev.current i n a ev.srcAddr) LsuState.isBadLSReq
        (P i n a) ⟨r, [], false⟩ ev.LSAs)
      ⟨fun hturns i' n' a' h' => by cases h.symm.trans h'; exact hturns, fun heach => heach i n a h⟩
  | some none => isTrue fun i n a h' => by cases h.symm.trans h'
  | none => isTrue fun i n a h' => by cases h.symm.trans h'

/-- A router LSA of router 30, with the sequence number `n` after the first. -/
def exampleLsa (n : UInt32) (metric : Nat) : Lsa where
  LSAge := 1
  Options := 0
  LSType := .router
  LinkStateID := ⟨30, 30⟩
  AdvertisingRouter := ⟨30, 30⟩
  LSSequenceNumber := initialSequenceNumber + n
  length := 36
  lsaInfo := some ⟨0, [⟨⟨20, 20⟩, ⟨31, 31⟩, .pointToPoint, metric⟩]⟩
  time := 0

def exampleUpdate (seconds : Nat) (lsa : Lsa) : LsuEvent where
  now := seconds * second
  current := 1
  srcAddr := ⟨20, 20⟩
  LSAs := [lsa]
  isRequestedLSAReceived := false

/-- Two instances with different links arrive one after the other; the later one is stored. -/
theorem lsdb_neverRegresses_twoUpdates :
    ∃ tr r, Run (lsuStep exampleConfig) exampleRouter tr r ∧ tr.length = 2 ∧
      r.stored 0 .router (30, 30) = some { exampleLsa 1 7 with time := 20 * second } ∧
      IsUpToDate exampleConfig r := by
  have hexec : (exec (lsuStep exampleConfig) exampleRouter
      [fun _ => some (exampleUpdate 10 (exampleLsa 0 5)),
        fun _ => some (exampleUpdate 20 (exampleLsa 1 7))]).any (fun x =>
      decide (x.1.length = 2 ∧
        x.2.stored 0 .router (30, 30) = some { exampleLsa 1 7 with time := 20 * second } ∧
        ∀ y ∈ x.1, EachLsa exampleConfig
          (fun _ _ a s lsa _ => UpdateOk exampleConfig y.2.now a s.router lsa) y.1 y.2)) = true := by
    decide +kernel
  obtain ⟨tr, r, run, htest⟩ := run_of_exec hexec
  obtain ⟨hlen, hstored, hok⟩ := of_decide_eq_true htest
  exact ⟨tr, r, run, hlen, hstored, (lsdb_neverRegresses run rfl hok).1⟩

/-- The claim fails: an instance that arrives ten seconds after a more recent one takes its place.
-/
theorem not_lsdb_neverRegresses :
    ¬∀ (cfg : Config) (r₀ : Router) (tr : List (Router × LsuEvent)) (r : Router),
      Run (lsuStep cfg) r₀ tr r → r₀.floods = [] →
      (∀ x ∈ tr, EachLsa cfg (fun _ _ a s lsa _ =>
        ∀ old ∈ s.router.stored a lsa.LSType lsa.key, cfg.isTooEarly x.2.now old = false) x.1 x.2) →
      ∀ x ∈ tr, ∀ r', lsuStep cfg x.1 x.2 = some r' → KeepsRecent cfg x.1 r' := by
  intro hclaim
  have hexec : (exec (lsuStep exampleConfig) exampleRouter
      [fun _ => some (exampleUpdate 10 (exampleLsa 1 7)),
        fun _ => some (exampleUpdate 20 (exampleLsa 0 5))]).any (fun x =>
      decide ((∀ y ∈ x.1, EachLsa exampleConfig
        (fun _ _ a s lsa _ => ∀ old ∈ s.router.stored a lsa.LSType lsa.key,
          exampleConfig.isTooEarly y.2.now old = false) y.1 y.2) ∧
        ∃ y ∈ x.1, y.1.stored 0 .router (30, 30) = some { exampleLsa 1 7 with time := 10 * second } ∧
          lsuStep exampleConfig y.1 y.2 = some x.2 ∧
          x.2.stored 0 .router (30, 30) = some { exampleLsa 0 5 with time := 20 * second })) = true := by
    decide +kernel
  obtain ⟨tr, r, run, htest⟩ := run_of_exec hexec
  obtain ⟨hspaced, y, hy, hold, hstep, hnew⟩ := of_decide_eq_true htest
  obtain ⟨new, hnew', hcmp⟩ :=
    hclaim exampleConfig exampleRouter tr r run rfl hspaced y hy r hstep 0 .router (30, 30) _ hold
  rw [hnew] at hnew'
  cases hnew'
  exact hcmp (by decide +kernel)

end NetSim.Ospf
