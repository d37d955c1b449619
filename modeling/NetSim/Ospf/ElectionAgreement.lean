import NetSim.Ospf.Election

/-!
# Agreement of elections (`OSPF_DR.c`)

`Elected` says whom a list of declarations elects, in whatever order. A router whose own role
changes holds the election a second time, with its own entry declaring the result of the first.
-/

namespace NetSim.Ospf

open NetSim.Lib

/-! ## Whom a list of declarations elects -/

structure Declaration where
  routerId : Nat
  priority : Nat
  addr : Nat
  designated : Option Nat
  backup : Option Nat
deriving DecidableEq

namespace Declaration

def DeclaresDr (e : Declaration) : Prop := e.designated = some e.routerId

def DeclaresBdr (e : Declaration) : Prop := ¬e.DeclaresDr ∧ e.backup = some e.routerId

instance (e : Declaration) : Decidable e.DeclaresDr := inferInstanceAs (Decidable (_ = _))

instance (e : Declaration) : Decidable e.DeclaresBdr := inferInstanceAs (Decidable (_ ∧ _))

def rank (e : Declaration) : Nat ×ₗ Nat := toLex (e.priority, e.routerId)

variable {e : Declaration}

theorem routerId_eq_of_rank_eq {f : Declaration} (h : e.rank = f.rank) : e.routerId = f.routerId :=
  congrArg Prod.snd (toLex.injective h)

def redeclare (me dr bdr : Nat) (e : Declaration) : Declaration :=
  if e.routerId = me then { e with designated := some dr, backup := some bdr } else e

@[simp] theorem routerId_redeclare (me dr bdr : Nat) (e : Declaration) :
    (e.redeclare me dr bdr).routerId = e.routerId := by
  unfold redeclare
  split <;> rfl

@[simp] theorem rank_redeclare (me dr bdr : Nat) (e : Declaration) :
    (e.redeclare me dr bdr).rank = e.rank := by
  unfold redeclare
  split <;> rfl

theorem redeclare_of_ne {me dr bdr : Nat} (h : e.routerId ≠ me) :
    e.redeclare me dr bdr = e := if_neg h

theorem declaresDr_redeclare {me dr bdr : Nat} (h : e.routerId = me) :
    (e.redeclare me dr bdr).DeclaresDr ↔ dr = me := by
  unfold DeclaresDr redeclare
  rw [if_pos h, h]
  exact Option.some_inj

theorem declaresBdr_redeclare {me dr bdr : Nat} (h : e.routerId = me) :
    (e.redeclare me dr bdr).DeclaresBdr ↔ dr ≠ me ∧ bdr = me := by
  unfold DeclaresBdr
  rw [declaresDr_redeclare h]
  unfold redeclare
  rw [if_pos h, h]
  exact and_congr Iff.rfl Option.some_inj

end Declaration

/-- The router with this id is the greatest of those that meet `P`. -/
def Greatest (P : Declaration → Prop) (l : List Declaration) (id : Nat) : Prop :=
  ∃ e, IsBest Declaration.rank P l e ∧ e.routerId = id

variable {P : Declaration → Prop} {id : Nat}

theorem Greatest.unique {l : List Declaration} {id' : Nat}
    (h : Greatest P l id) (h' : Greatest P l id') : id = id' := by
  obtain ⟨e, he, rfl⟩ := h
  obtain ⟨f, hf, rfl⟩ := h'
  exact Declaration.routerId_eq_of_rank_eq (he.key_eq hf)

theorem Greatest.of_mem_iff {l m : List Declaration}
    (h : Greatest P l id) (hmem : ∀ e, e ∈ l ↔ e ∈ m) : Greatest P m id := by
  obtain ⟨e, he, rfl⟩ := h
  exact ⟨e, he.of_mem_iff hmem, rfl⟩

theorem Greatest.redeclare {Q : Declaration → Prop} {l : List Declaration} {me dr bdr : Nat}
    (h : Greatest P l id) (hPQ : ∀ e ∈ l, Q (e.redeclare me dr bdr) ↔ P e) :
    Greatest Q (l.map (Declaration.redeclare me dr bdr)) id := by
  obtain ⟨e, he, rfl⟩ := h
  refine ⟨e.redeclare me dr bdr, ⟨List.mem_map_of_mem he.mem, (hPQ e he.mem).2 he.holds, ?_⟩,
    Declaration.routerId_redeclare _ _ _ _⟩
  intro g hg hQ
  obtain ⟨f, hf, rfl⟩ := List.mem_map.1 hg
  rw [Declaration.rank_redeclare, Declaration.rank_redeclare]
  exact he.le f hf ((hPQ f hf).1 hQ)

theorem Greatest.of_redeclare {Q : Declaration → Prop} {l : List Declaration}
    {me dr bdr : Nat} (h : Greatest Q (l.map (Declaration.redeclare me dr bdr)) id)
    (hPQ : ∀ e ∈ l, Q (e.redeclare me dr bdr) ↔ P e) : Greatest P l id := by
  obtain ⟨g, hg, rfl⟩ := h
  obtain ⟨e, he, rfl⟩ := List.mem_map.1 hg.mem
  refine ⟨e, ⟨he, (hPQ e he).1 hg.holds, fun f hf hP => ?_⟩,
    (Declaration.routerId_redeclare _ _ _ _).symm⟩
  have hle := hg.le _ (List.mem_map_of_mem hf) ((hPQ f hf).2 hP)
  rwa [Declaration.rank_redeclare, Declaration.rank_redeclare] at hle

/-- These declarations elect `dr` and `bdr`. -/
structure Elected (l : List Declaration) (dr bdr : Nat) : Prop where
  backup_declared : (∃ e ∈ l, e.DeclaresBdr) → Greatest Declaration.DeclaresBdr l bdr
  backup : (∀ e ∈ l, ¬e.DeclaresBdr) → Greatest (fun e => ¬e.DeclaresDr) l bdr
  designated_declared : (∃ e ∈ l, e.DeclaresDr) → Greatest Declaration.DeclaresDr l dr
  designated : (∀ e ∈ l, ¬e.DeclaresDr) → dr = bdr

namespace Elected

variable {l m : List Declaration} {dr bdr dr' bdr' : Nat}

section

variable (h : Elected l dr bdr)

include h

theorem backup_unique (h' : Elected l dr' bdr') : bdr = bdr' := by
  by_cases hdecl : ∃ e ∈ l, e.DeclaresBdr
  · exact (h.backup_declared hdecl).unique (h'.backup_declared hdecl)
  · have hnone : ∀ e ∈ l, ¬e.DeclaresBdr := fun e he hb => hdecl ⟨e, he, hb⟩
    exact (h.backup hnone).unique (h'.backup hnone)

theorem designated_unique (h' : Elected l dr' bdr') : dr = dr' := by
  by_cases hdecl : ∃ e ∈ l, e.DeclaresDr
  · exact (h.designated_declared hdecl).unique (h'.designated_declared hdecl)
  · have hnone : ∀ e ∈ l, ¬e.DeclaresDr := fun e he hd => hdecl ⟨e, he, hd⟩
    rw [h.designated hnone, h'.designated hnone, h.backup_unique h']

theorem of_perm (hperm : l.Perm m) : Elected m dr bdr where
  backup_declared := fun ⟨e, he, hb⟩ =>
    (h.backup_declared ⟨e, hperm.mem_iff.2 he, hb⟩).of_mem_iff fun _ => hperm.mem_iff
  backup := fun hnone =>
    (h.backup fun e he => hnone e (hperm.mem_iff.1 he)).of_mem_iff fun _ => hperm.mem_iff
  designated_declared := fun ⟨e, he, hd⟩ =>
    (h.designated_declared ⟨e, hperm.mem_iff.2 he, hd⟩).of_mem_iff fun _ => hperm.mem_iff
  designated := fun hnone => h.designated fun e he => hnone e (hperm.mem_iff.1 he)

theorem exists_backup : ∃ e ∈ l, e.routerId = bdr ∧ ¬e.DeclaresDr := by
  by_cases hdecl : ∃ e ∈ l, e.DeclaresBdr
  · obtain ⟨e, he, hid⟩ := h.backup_declared hdecl
    exact ⟨e, he.mem, hid, he.holds.1⟩
  · obtain ⟨e, he, hid⟩ := h.backup fun e he hb => hdecl ⟨e, he, hb⟩
    exact ⟨e, he.mem, hid, he.holds⟩

theorem ne (hdistinct : (l.map Declaration.routerId).Nodup)
    (hdecl : ∃ e ∈ l, e.DeclaresDr) : dr ≠ bdr := by
  obtain ⟨e, he, hid⟩ := h.designated_declared hdecl
  obtain ⟨f, hf, hid', hnot⟩ := h.exists_backup
  rintro rfl
  have hef : e = f := List.inj_on_of_nodup_map hdistinct he.mem hf (hid.trans hid'.symm)
  exact hnot (hef ▸ he.holds)

theorem declaresBdr_redeclare
    (hdistinct : (l.map Declaration.routerId).Nodup) (hdecl : ∃ e ∈ l, e.DeclaresDr) {me : Nat}
    (hme : me = dr ∨ me = bdr) :
    (∀ e ∈ l, (e.redeclare me dr bdr).DeclaresBdr ↔ e.DeclaresBdr) ∨
      me = bdr ∧ ∀ e ∈ l, ¬e.DeclaresBdr := by
  have hinj : ∀ e ∈ l, ∀ f ∈ l, e.routerId = f.routerId → e = f := fun e he f hf =>
    List.inj_on_of_nodup_map hdistinct he hf
  rcases hme with rfl | rfl
  · left
    intro e he
    by_cases hid : e.routerId = me
    · obtain ⟨d, hd, hdid⟩ := h.designated_declared hdecl
      rw [Declaration.declaresBdr_redeclare hid, hinj e he d hd.mem (hid.trans hdid.symm)]
      exact iff_of_false (fun hb => hb.1 rfl) fun hb => hb.1 hd.holds
    · rw [Declaration.redeclare_of_ne hid]
  · by_cases hbdr : ∃ e ∈ l, e.DeclaresBdr
    · left
      intro e he
      by_cases hid : e.routerId = me
      · obtain ⟨b, hb, hbid⟩ := h.backup_declared hbdr
        rw [Declaration.declaresBdr_redeclare hid, hinj e he b hb.mem (hid.trans hbid.symm)]
        exact iff_of_true ⟨h.ne hdistinct hdecl, rfl⟩ hb.holds
      · rw [Declaration.redeclare_of_ne hid]
    · exact .inr ⟨rfl, fun e he hb => hbdr ⟨e, he, hb⟩⟩

theorem declaresDr_redeclare
    (hdistinct : (l.map Declaration.routerId).Nodup) (hdecl : ∃ e ∈ l, e.DeclaresDr) {me : Nat}
    (hme : me = dr ∨ me = bdr) : ∀ e ∈ l, (e.redeclare me dr bdr).DeclaresDr ↔ e.DeclaresDr := by
  have hinj : ∀ e ∈ l, ∀ f ∈ l, e.routerId = f.routerId → e = f := fun e he f hf =>
    List.inj_on_of_nodup_map hdistinct he hf
  intro e he
  by_cases hid : e.routerId = me
  · rw [Declaration.declaresDr_redeclare hid]
    rcases hme with rfl | rfl
    · obtain ⟨d, hd, hdid⟩ := h.designated_declared hdecl
      rw [hinj e he d hd.mem (hid.trans hdid.symm)]
      exact iff_of_true rfl hd.holds
    · obtain ⟨b, hb, hbid, hbnot⟩ := h.exists_backup
      rw [hinj e he b hb (hid.trans hbid.symm)]
      exact iff_of_false (h.ne hdistinct hdecl) hbnot
  · rw [Declaration.redeclare_of_ne hid]

theorem redeclare_same (hdistinct : (l.map Declaration.routerId).Nodup)
    (hdecl : ∃ e ∈ l, e.DeclaresDr) {me : Nat} (hme : me = dr ∨ me = bdr) :
    Elected (l.map (Declaration.redeclare me dr bdr)) dr bdr := by
  have hDr := h.declaresDr_redeclare hdistinct hdecl hme
  obtain ⟨d, hd, hddr⟩ := hdecl
  have hsome : ∃ e ∈ l.map (Declaration.redeclare me dr bdr), e.DeclaresDr :=
    ⟨_, List.mem_map_of_mem hd, (hDr d hd).2 hddr⟩
  have hdesignated := (h.designated_declared ⟨d, hd, hddr⟩).redeclare hDr
  have hno : (∀ e ∈ l.map (Declaration.redeclare me dr bdr), ¬e.DeclaresDr) → dr = bdr := by
    intro hnone
    obtain ⟨e, he, hdr⟩ := hsome
    exact absurd hdr (hnone e he)
  rcases h.declaresBdr_redeclare hdistinct ⟨d, hd, hddr⟩ hme with hBdr | ⟨rfl, hnone⟩
  · refine ⟨?_, ?_, fun _ => hdesignated, hno⟩
    · rintro ⟨g, hg, hb⟩
      obtain ⟨e, he, rfl⟩ := List.mem_map.1 hg
      exact (h.backup_declared ⟨e, he, (hBdr e he).1 hb⟩).redeclare hBdr
    · intro hnone
      refine (h.backup fun e he hb => ?_).redeclare fun e he => not_congr (hDr e he)
      exact hnone _ (List.mem_map_of_mem he) ((hBdr e he).2 hb)
  · -- nobody declared itself backup: only this router does now
    obtain ⟨b, hb, hbid, -⟩ := h.exists_backup
    have hne := h.ne hdistinct ⟨d, hd, hddr⟩
    have hbdr : (b.redeclare me dr me).DeclaresBdr :=
      (Declaration.declaresBdr_redeclare hbid).2 ⟨hne, rfl⟩
    refine ⟨fun _ => ?_, fun hnot => absurd hbdr (hnot _ (List.mem_map_of_mem hb)),
      fun _ => hdesignated, hno⟩
    refine ⟨_, ⟨List.mem_map_of_mem hb, hbdr, ?_⟩, (Declaration.routerId_redeclare _ _ _ _).trans hbid⟩
    intro g hg hgb
    obtain ⟨e, he, rfl⟩ := List.mem_map.1 hg
    by_cases hid : e.routerId = me
    · rw [List.inj_on_of_nodup_map hdistinct he hb (hid.trans hbid.symm)]
    · rw [Declaration.redeclare_of_ne hid] at hgb
      exact absurd hgb (hnone e he)

end

theorem redeclare_alone {me : Nat} (h : Elected l me me) (hnone : ∀ e ∈ l, ¬e.DeclaresDr)
    (h' : Elected (l.map (Declaration.redeclare me me me)) dr' bdr') :
    dr' = me ∧ bdr' ≠ me ∧
      ((∃ e ∈ l, e.routerId ≠ me ∧ e.DeclaresBdr) →
        Greatest (fun e => e.routerId ≠ me ∧ e.DeclaresBdr) l bdr') ∧
      ((∀ e ∈ l, e.routerId ≠ me → ¬e.DeclaresBdr) →
        Greatest (fun e => e.routerId ≠ me) l bdr') := by
  have hDr : ∀ e ∈ l, (e.redeclare me me me).DeclaresDr ↔ e.routerId = me := by
    intro e he
    by_cases hid : e.routerId = me
    · rw [Declaration.declaresDr_redeclare hid]
      exact iff_of_true rfl hid
    · rw [Declaration.redeclare_of_ne hid]
      exact iff_of_false (hnone e he) hid
  have hBdr : ∀ e ∈ l, (e.redeclare me me me).DeclaresBdr ↔ e.routerId ≠ me ∧ e.DeclaresBdr := by
    intro e he
    by_cases hid : e.routerId = me
    · rw [Declaration.declaresBdr_redeclare hid]
      exact iff_of_false (fun hb => hb.1 rfl) fun hb => hb.1 hid
    · rw [Declaration.redeclare_of_ne hid]
      exact ⟨fun hb => ⟨hid, hb⟩, And.right⟩
  obtain ⟨b, hb, hbid, -⟩ := h.exists_backup
  refine ⟨?_, ?_, ?_, ?_⟩
  · obtain ⟨g, hg, rfl⟩ := h'.designated_declared ⟨_, List.mem_map_of_mem hb, (hDr b hb).2 hbid⟩
    obtain ⟨e, he, rfl⟩ := List.mem_map.1 hg.mem
    rw [Declaration.routerId_redeclare]
    exact (hDr e he).1 hg.holds
  · obtain ⟨g, hg, rfl, hnot⟩ := h'.exists_backup
    obtain ⟨e, he, rfl⟩ := List.mem_map.1 hg
    rw [Declaration.routerId_redeclare]
    exact fun hid => hnot ((hDr e he).2 hid)
  · rintro ⟨e, he, hb⟩
    exact (h'.backup_declared ⟨_, List.mem_map_of_mem he, (hBdr e he).2 hb⟩).of_redeclare hBdr
  · intro hno
    refine (h'.backup fun g hg hb => ?_).of_redeclare fun e he => not_congr (hDr e he)
    obtain ⟨e, he, rfl⟩ := List.mem_map.1 hg
    have hb := (hBdr e he).1 hb
    exact hno e he hb.1 hb.2

end Elected

/-! ## Whom the code elects -/

def EligibleRouter.declaration (r : EligibleRouter) : Declaration where
  routerId := r.routerId.int_ip
  priority := r.routerPriority
  addr := r.routerAddr.int_ip
  designated := r.DesignatedRouter.map Ip.int_ip
  backup := r.BackupDesignatedRouter.map Ip.int_ip

/-- Ids and addresses, and the order of ids and of their places, are the same, and all entries
declare something. -/
structure Regular (l : List EligibleRouter) : Prop where
  places : ∀ x ∈ l, ∀ y ∈ l, x.routerId.place < y.routerId.place ↔
    x.routerId.int_ip < y.routerId.int_ip
  address : ∀ x ∈ l, x.routerAddr.int_ip = x.routerId.int_ip
  designated : ∀ x ∈ l, x.DesignatedRouter.isSome
  backup : ∀ x ∈ l, x.BackupDesignatedRouter.isSome

theorem Regular.keeps_iff {l : List EligibleRouter} (h : Regular l) :
    ∀ x ∈ l, ∀ y ∈ l, keeps x y = true ↔ y.declaration.rank < x.declaration.rank := by
  intro x hx y hy
  unfold keeps Declaration.rank EligibleRouter.declaration
  rw [Prod.Lex.toLex_lt_toLex]
  simp only [Bool.or_eq_true, Bool.and_eq_true, decide_eq_true_eq, beq_iff_eq, gt_iff_lt]
  rw [h.places y hy x hx]
  exact or_congr Iff.rfl (and_congr eq_comm Iff.rfl)

theorem sameIp_eq {a : Ip} {p : IpPtr} (h : p.isSome) :
    sameIp (some a) p = some (decide (p.map Ip.int_ip = some a.int_ip)) := by
  obtain ⟨ip, rfl⟩ := Option.isSome_iff_exists.1 h
  rw [sameIp_some, Option.map_some, Bool.beq_eq_decide_eq]
  congr 2
  exact propext (eq_comm.trans Option.some_inj.symm)

def EligibleRouter.declaresBdr (r : EligibleRouter) : Bool := decide r.declaration.DeclaresBdr

def EligibleRouter.declaresDr (r : EligibleRouter) : Bool := decide r.declaration.DeclaresDr

theorem ite_keeps {β : Type} (f : Option EligibleRouter → β) (temp : Option EligibleRouter)
    (r : EligibleRouter) :
    (if temp.any (keeps · r) then f temp else f (some r)) = f (some (better keeps temp r)) := by
  cases temp with
  | none => rfl
  | some t =>
    cases hk : keeps t r <;> simp [better, hk]

theorem electBdrLoop_eq : ∀ (l : List EligibleRouter) (flag : Bool) (temp : Option EligibleRouter),
    (∀ x ∈ l, x.DesignatedRouter.isSome) → (∀ x ∈ l, x.BackupDesignatedRouter.isSome) →
    electBdrLoop flag temp l = some
      (if flag || l.any EligibleRouter.declaresBdr then
        scanBest keeps (if flag then temp else none) (l.filter EligibleRouter.declaresBdr)
      else scanBest keeps temp (l.filter fun r => !r.declaresDr))
  | [], flag, temp, _, _ => by cases flag <;> rfl
  | r :: rest, flag, temp, hdr, hbdr => by
    have ih := fun flag temp => electBdrLoop_eq rest flag temp
      (fun x hx => hdr x (List.mem_cons_of_mem _ hx)) fun x hx => hbdr x (List.mem_cons_of_mem _ hx)
    have h1 : sameIp (some r.routerId) r.DesignatedRouter = some r.declaresDr :=
      sameIp_eq (hdr r List.mem_cons_self)
    have h2 : sameIp (some r.routerId) r.BackupDesignatedRouter =
        some (decide (r.declaration.backup = some r.declaration.routerId)) :=
      sameIp_eq (hbdr r List.mem_cons_self)
    have h3 : r.declaresBdr =
        (!r.declaresDr && decide (r.declaration.backup = some r.declaration.routerId)) := by
      rw [Bool.eq_iff_iff, Bool.and_eq_true, Bool.not_eq_true', decide_eq_true_eq,
        EligibleRouter.declaresBdr, EligibleRouter.declaresDr, decide_eq_true_eq,
        decide_eq_false_iff_not]
      exact Iff.rfl
    rw [electBdrLoop, h1, h2]
    simp only [Option.bind_eq_bind, Option.bind_some]
    generalize decide (r.declaration.backup = some r.declaration.routerId) = bdr at h3
    cases hd : r.declaresDr with
    | true =>
      simp [ih, hd, h3]
    | false =>
      rw [hd] at h3
      cases bdr with
      | true =>
        cases flag with
        | true =>
          simp only [↓reduceIte, Bool.true_and]
          rw [ite_keeps (fun t => electBdrLoop true t rest)]
          simp [ih, h3]
        | false => simp [ih, h3, better]
      | false =>
        cases flag with
        | true => simp [ih, h3]
        | false =>
          rw [ite_keeps (fun t => electBdrLoop false t rest)]
          simp [ih, hd, h3]

theorem electDrLoop_eq : ∀ (l : List EligibleRouter) (temp : Option EligibleRouter),
    (∀ x ∈ l, x.DesignatedRouter.isSome) → (∀ x ∈ l, x.routerAddr.int_ip = x.routerId.int_ip) →
    electDrLoop temp l = some (scanBest keeps temp (l.filter EligibleRouter.declaresDr))
  | [], _, _, _ => rfl
  | r :: rest, temp, hdr, haddr => by
    have ih := fun temp => electDrLoop_eq rest temp
      (fun x hx => hdr x (List.mem_cons_of_mem _ hx)) fun x hx => haddr x (List.mem_cons_of_mem _ hx)
    have h1 : sameIp (some r.routerAddr) r.DesignatedRouter = some r.declaresDr := by
      rw [sameIp_eq (hdr r List.mem_cons_self), haddr r List.mem_cons_self]
      rfl
    rw [electDrLoop, h1]
    simp only [Option.bind_eq_bind, Option.bind_some]
    cases hd : r.declaresDr with
    | true =>
      rw [ite_keeps (fun t => electDrLoop t rest)]
      simp [ih, hd]
    | false => simp [ih, hd]

theorem greatest_of_isBest {l : List EligibleRouter} {a : EligibleRouter}
    (h : IsBest (fun r => r.declaration.rank) (fun r => P r.declaration) l a) :
    Greatest P (l.map EligibleRouter.declaration) a.routerId.int_ip := by
  refine ⟨a.declaration, ⟨List.mem_map_of_mem h.mem, h.holds, fun e he hP => ?_⟩, rfl⟩
  obtain ⟨r, hr, rfl⟩ := List.mem_map.1 he
  exact h.le r hr hP

theorem mem_declaresBdr {l : List EligibleRouter} :
    (∃ e ∈ l.map EligibleRouter.declaration, e.DeclaresBdr) ↔
      l.any EligibleRouter.declaresBdr = true := by
  rw [List.any_eq_true]
  constructor
  · rintro ⟨e, he, hb⟩
    obtain ⟨r, hr, rfl⟩ := List.mem_map.1 he
    exact ⟨r, hr, decide_eq_true hb⟩
  · rintro ⟨r, hr, hb⟩
    exact ⟨_, List.mem_map_of_mem hr, of_decide_eq_true hb⟩

theorem electBdrLoop_elects {l : List EligibleRouter} (h : Regular l)
    (hcandidate : ∃ e ∈ l.map EligibleRouter.declaration, ¬e.DeclaresDr) :
    ∃ b ∈ l, electBdrLoop false none l = some (some b) ∧
      ((∃ e ∈ l.map EligibleRouter.declaration, e.DeclaresBdr) →
        Greatest Declaration.DeclaresBdr (l.map EligibleRouter.declaration) b.routerId.int_ip) ∧
      ((∀ e ∈ l.map EligibleRouter.declaration, ¬e.DeclaresBdr) →
        Greatest (fun e => ¬e.DeclaresDr) (l.map EligibleRouter.declaration)
          b.routerId.int_ip) := by
  have hloop := electBdrLoop_eq l false none h.designated h.backup
  cases hany : l.any EligibleRouter.declaresBdr with
  | true =>
    rw [hany] at hloop
    obtain ⟨r, hr, hb⟩ := List.any_eq_true.1 hany
    rcases scanBest_filter (P := EligibleRouter.declaresBdr) h.keeps_iff with
      ⟨b, hscan, hbest⟩ | ⟨-, hnone⟩
    · refine ⟨b, hbest.mem, hloop.trans (congrArg some hscan), fun _ => ?_, fun hnot => ?_⟩
      · refine greatest_of_isBest ⟨hbest.mem, of_decide_eq_true hbest.holds, fun c hc hP => ?_⟩
        exact hbest.le c hc (decide_eq_true hP)
      · exact absurd (of_decide_eq_true hb) (hnot _ (List.mem_map_of_mem hr))
    · rw [hnone r hr] at hb
      cases hb
  | false =>
    rw [hany] at hloop
    have hno : ¬∃ e ∈ l.map EligibleRouter.declaration, e.DeclaresBdr := fun hex =>
      Bool.eq_false_iff.1 hany (mem_declaresBdr.1 hex)
    rcases scanBest_filter (P := fun r => !EligibleRouter.declaresDr r) h.keeps_iff with
      ⟨b, hscan, hbest⟩ | ⟨-, hnone⟩
    · refine ⟨b, hbest.mem, hloop.trans (congrArg some hscan), fun hex => absurd hex hno,
        fun _ => greatest_of_isBest (P := fun e => ¬e.DeclaresDr) ⟨hbest.mem, ?_, ?_⟩⟩
      · exact of_decide_eq_false ((Bool.not_eq_true' _).mp hbest.holds)
      · exact fun c hc hP => hbest.le c hc ((Bool.not_eq_true' _).mpr (decide_eq_false hP))
    · obtain ⟨e, he, hnot⟩ := hcandidate
      obtain ⟨r, hr, rfl⟩ := List.mem_map.1 he
      exact absurd (of_decide_eq_true ((Bool.not_eq_false' _).mp (hnone r hr))) hnot

theorem electDrLoop_elects {l : List EligibleRouter} (h : Regular l) :
    (∃ d ∈ l, electDrLoop none l = some (some d) ∧
      Greatest Declaration.DeclaresDr (l.map EligibleRouter.declaration) d.routerId.int_ip) ∨
    electDrLoop none l = some none ∧
      ∀ e ∈ l.map EligibleRouter.declaration, ¬e.DeclaresDr := by
  rw [electDrLoop_eq l none h.designated h.address]
  rcases scanBest_filter (P := EligibleRouter.declaresDr) h.keeps_iff with
    ⟨d, hscan, hbest⟩ | ⟨hscan, hnone⟩
  · left
    refine ⟨d, hbest.mem, congrArg some hscan, greatest_of_isBest ⟨hbest.mem, ?_, ?_⟩⟩
    · exact of_decide_eq_true hbest.holds
    · exact fun c hc hP => hbest.le c hc (decide_eq_true hP)
  · right
    refine ⟨congrArg some hscan, fun e he hdr => ?_⟩
    obtain ⟨r, hr, rfl⟩ := List.mem_map.1 he
    exact of_decide_eq_false (hnone r hr) hdr

/-- The role of a router once `dr` and `bdr` are elected. -/
def role (me dr bdr : Nat) : IfState :=
  if dr = me then .dr else if bdr = me then .backup else .drOther

namespace DrInterface

variable {i : DrInterface} {me : Ip}

/-- The interface once `d` and `b` are elected. -/
def withRoles (i : DrInterface) (d b : EligibleRouter) : DrInterface :=
  { i with
    designaterRouter := some d.routerId
    designaterRouterAddr := some d.routerAddr
    backupDesignaterRouter := some b.routerId
    backupDesignaterRouterAddr := some b.routerAddr }

def declarations (i : DrInterface) (me : Ip) : List Declaration :=
  (i.listEligibleRouter me).map EligibleRouter.declaration

theorem newState_withRoles (d b : EligibleRouter) :
    (i.withRoles d b).newState me =
      some (role me.int_ip d.routerId.int_ip b.routerId.int_ip) := by
  unfold newState withRoles role
  simp only [sameIp_some, Option.bind_eq_bind, Option.bind_some, beq_iff_eq, Option.pure_def]
  split
  · rfl
  · split <;> rfl

theorem elect_eq (h : Regular (i.listEligibleRouter me))
    (hcandidate : ∃ e ∈ i.declarations me, ¬e.DeclaresDr) :
    ∃ d ∈ i.listEligibleRouter me, ∃ b ∈ i.listEligibleRouter me,
      Elected (i.declarations me) d.routerId.int_ip b.routerId.int_ip ∧
      i.elect me = some
        (i.withRoles d b, role me.int_ip d.routerId.int_ip b.routerId.int_ip) := by
  unfold elect electBdr
  obtain ⟨b, hb, hbloop, hdeclared, hbackup⟩ := electBdrLoop_elects h hcandidate
  rcases electDrLoop_elects h with ⟨d, hd, hdloop, hgreatest⟩ | ⟨hdloop, hnone⟩
  · refine ⟨d, hd, b, hb, ⟨hdeclared, hbackup, fun _ => hgreatest, fun hnot => ?_⟩, ?_⟩
    · obtain ⟨e, he, -⟩ := hgreatest
      exact absurd he.holds (hnot e he.mem)
    · unfold electDr
      dsimp only
      rw [hbloop]
      simp only [Option.bind_eq_bind, Option.bind_some, hdloop, Option.map_some, Option.pure_def]
      exact congrArg (Option.bind · _) (newState_withRoles d b)
  · refine ⟨b, hb, b, hb, ⟨hdeclared, hbackup, fun ⟨e, he, hdr⟩ => absurd hdr (hnone e he),
      fun _ => rfl⟩, ?_⟩
    unfold electDr
    dsimp only
    rw [hbloop]
    simp only [Option.bind_eq_bind, Option.bind_some, hdloop, Option.map_some, Option.pure_def]
    exact congrArg (Option.bind · _) (newState_withRoles b b)

end DrInterface

/-! ## The election of one router -/

/-- The entry of a router that now declares `d` and `b`. -/
def EligibleRouter.redeclare (me : Ip) (d b r : EligibleRouter) : EligibleRouter :=
  if r.routerId.int_ip = me.int_ip then
    { r with DesignatedRouter := some d.routerAddr, BackupDesignatedRouter := some b.routerAddr }
  else r

theorem EligibleRouter.declaration_redeclare {me : Ip} {d b : EligibleRouter}
    (hd : d.routerAddr.int_ip = d.routerId.int_ip) (hb : b.routerAddr.int_ip = b.routerId.int_ip)
    (r : EligibleRouter) :
    (EligibleRouter.redeclare me d b r).declaration =
      r.declaration.redeclare me.int_ip d.routerId.int_ip b.routerId.int_ip := by
  unfold EligibleRouter.redeclare Declaration.redeclare EligibleRouter.declaration
  split
  · rw [Option.map_some, Option.map_some, hd, hb]
  · rfl

/-- A router was told of designated routers before, is not the only one, and not all declare
themselves designated router. -/
structure Electing (i : DrInterface) (me : Ip) : Prop where
  regular : Regular (i.listEligibleRouter me)
  distinct : ((i.declarations me).map Declaration.routerId).Nodup
  neighbours : ∀ neigh ∈ i.neighborRouterList, neigh.neighborId.int_ip ≠ me.int_ip
  two : 2 ≤ (i.declarations me).length
  candidate : ∃ e ∈ i.declarations me, ¬e.DeclaresDr
  designated : i.designaterRouter.isSome
  backup : i.backupDesignaterRouter.isSome

namespace Electing

variable {i : DrInterface} {me : Ip}

theorem listEligibleRouter_withRoles (h : Electing i me) (d b : EligibleRouter) :
    (i.withRoles d b).listEligibleRouter me =
      (i.listEligibleRouter me).map (EligibleRouter.redeclare me d b) := by
  unfold DrInterface.listEligibleRouter
  rw [List.map_append]
  congr 1
  · have hpriority : (i.withRoles d b).RouterPriority = i.RouterPriority := rfl
    rw [hpriority]
    split
    · have hself : EligibleRouter.redeclare me d b (i.self me) = (i.withRoles d b).self me :=
        if_pos rfl
      rw [List.map_singleton, hself]
    · rfl
  · rw [List.map_map]
    apply List.map_congr_left
    intro neigh hneigh
    have hne := h.neighbours neigh (List.mem_of_mem_filter hneigh)
    exact (if_neg hne).symm

theorem declarations_withRoles (h : Electing i me) {d b : EligibleRouter}
    (hd : d ∈ i.listEligibleRouter me) (hb : b ∈ i.listEligibleRouter me) :
    (i.withRoles d b).declarations me =
      (i.declarations me).map
        (Declaration.redeclare me.int_ip d.routerId.int_ip b.routerId.int_ip) := by
  unfold DrInterface.declarations
  rw [h.listEligibleRouter_withRoles, List.map_map, List.map_map]
  exact List.map_congr_left fun r _ =>
    EligibleRouter.declaration_redeclare (h.regular.address d hd) (h.regular.address b hb) r

theorem regular_withRoles (h : Electing i me) (d b : EligibleRouter) :
    Regular ((i.withRoles d b).listEligibleRouter me) := by
  rw [h.listEligibleRouter_withRoles]
  have hid : ∀ r : EligibleRouter, (EligibleRouter.redeclare me d b r).routerId = r.routerId := by
    intro r
    unfold EligibleRouter.redeclare
    split <;> rfl
  have haddr : ∀ r : EligibleRouter,
      (EligibleRouter.redeclare me d b r).routerAddr = r.routerAddr := by
    intro r
    unfold EligibleRouter.redeclare
    split <;> rfl
  refine ⟨fun x hx y hy => ?_, fun x hx => ?_, fun x hx => ?_, fun x hx => ?_⟩
  · obtain ⟨r, hr, rfl⟩ := List.mem_map.1 hx
    obtain ⟨r', hr', rfl⟩ := List.mem_map.1 hy
    rw [hid, hid]
    exact h.regular.places r hr r' hr'
  · obtain ⟨r, hr, rfl⟩ := List.mem_map.1 hx
    rw [hid, haddr]
    exact h.regular.address r hr
  · obtain ⟨r, hr, rfl⟩ := List.mem_map.1 hx
    unfold EligibleRouter.redeclare
    split
    · rfl
    · exact h.regular.designated r hr
  · obtain ⟨r, hr, rfl⟩ := List.mem_map.1 hx
    unfold EligibleRouter.redeclare
    split
    · rfl
    · exact h.regular.backup r hr

theorem exists_ne (h : Electing i me) (id : Nat) : ∃ e ∈ i.declarations me, e.routerId ≠ id := by
  have htwo := h.two
  have hdistinct := h.distinct
  generalize i.declarations me = l at *
  match l with
  | [] | [_] => simp at htwo
  | a :: c :: l =>
    rw [List.map_cons, List.map_cons, List.nodup_cons] at hdistinct
    have hne : a.routerId ≠ c.routerId := fun hac => hdistinct.1 (hac ▸ List.mem_cons_self)
    by_cases ha : a.routerId = id
    · exact ⟨c, List.mem_cons_of_mem _ List.mem_cons_self, fun hc => hne (ha.trans hc.symm)⟩
    · exact ⟨a, List.mem_cons_self, ha⟩

theorem candidate_redeclare (h : Electing i me) {dr bdr : Nat}
    (helected : Elected (i.declarations me) dr bdr) :
    ∃ e ∈ (i.declarations me).map (Declaration.redeclare me.int_ip dr bdr), ¬e.DeclaresDr := by
  obtain ⟨b, hb, hbid, hbnot⟩ := helected.exists_backup
  by_cases hme : dr = me.int_ip
  · -- some router other than this one does not declare itself designated router
    obtain ⟨e, he, hne, hnot⟩ : ∃ e ∈ i.declarations me, e.routerId ≠ me.int_ip ∧ ¬e.DeclaresDr := by
      by_cases hdecl : ∃ e ∈ i.declarations me, e.DeclaresDr
      · refine ⟨b, hb, fun hid => ?_, hbnot⟩
        exact helected.ne h.distinct hdecl (hme.trans (hid.symm.trans hbid))
      · obtain ⟨e, he, hne⟩ := h.exists_ne me.int_ip
        exact ⟨e, he, hne, fun hd => hdecl ⟨e, he, hd⟩⟩
    exact ⟨_, List.mem_map_of_mem he, by rwa [Declaration.redeclare_of_ne hne]⟩
  · refine ⟨_, List.mem_map_of_mem hb, ?_⟩
    by_cases hid : b.routerId = me.int_ip
    · rwa [Declaration.declaresDr_redeclare hid]
    · rwa [Declaration.redeclare_of_ne hid]

end Electing

/-- How the election of a router ends once its first round has elected `dr` and `bdr`. -/
structure Ends (i : DrInterface) (me : Ip) (dr bdr : Nat) (r : ElectionResult) (dr' bdr' : Nat) :
    Prop where
  designated : r.thisInterface.designaterRouter.map Ip.int_ip = some dr'
  backup : r.thisInterface.backupDesignaterRouter.map Ip.int_ip = some bdr'
  newState : r.newState = role me.int_ip dr' bdr'
  once : repeats i.State (role me.int_ip dr bdr) = false → dr' = dr ∧ bdr' = bdr
  again : repeats i.State (role me.int_ip dr bdr) = true →
    Elected ((i.declarations me).map (Declaration.redeclare me.int_ip dr bdr)) dr' bdr'

theorem election_of_rounds {i j : DrInterface} {me : Ip} {st : IfState} {d b : EligibleRouter}
    (hdr : i.designaterRouter.isSome) (hbdr : i.backupDesignaterRouter.isSome)
    (hrounds : (do
      let r ← i.elect me
      if repeats i.State r.2 then r.1.elect me else some r) = some (j.withRoles d b, st)) :
    ∃ adjok, i.election me = some ⟨j.withRoles d b, st, adjok⟩ := by
  obtain ⟨olddr, holddr⟩ := Option.isSome_iff_exists.1 hdr
  obtain ⟨oldbdr, holdbdr⟩ := Option.isSome_iff_exists.1 hbdr
  unfold DrInterface.election
  cases hround : i.elect me with
  | none =>
    rw [hround] at hrounds
    cases hrounds
  | some r =>
    rw [hround] at hrounds
    simp only [Option.bind_eq_bind, Option.bind_some, holddr, holdbdr] at hrounds ⊢
    cases hrepeats : repeats i.State r.2 with
    | false =>
      rw [hrepeats] at hrounds
      obtain rfl := Option.some.inj hrounds
      simp only [Bool.false_eq_true, ↓reduceIte, DrInterface.withRoles, Option.bind_some,
        sameIp_some]
      split <;> exact ⟨_, rfl⟩
    | true =>
      rw [hrepeats, if_pos rfl] at hrounds
      simp only [↓reduceIte, hrounds, DrInterface.withRoles, Option.bind_some, sameIp_some]
      split <;> exact ⟨_, rfl⟩

theorem Electing.ends {i : DrInterface} {me : Ip} (h : Electing i me) {dr bdr : Nat}
    (helected : Elected (i.declarations me) dr bdr) :
    ∃ r dr' bdr', i.election me = some r ∧ Ends i me dr bdr r dr' bdr' := by
  obtain ⟨d, hd, b, hb, hfirst, hround⟩ := DrInterface.elect_eq h.regular h.candidate
  obtain rfl := helected.designated_unique hfirst
  obtain rfl := helected.backup_unique hfirst
  cases hrepeats : repeats i.State (role me.int_ip d.routerId.int_ip b.routerId.int_ip) with
  | false =>
    obtain ⟨adjok, helection⟩ := election_of_rounds (j := i) (d := d) (b := b) h.designated
      h.backup (by rw [hround]; simp only [Option.bind_eq_bind, Option.bind_some, hrepeats]; rfl)
    refine ⟨_, _, _, helection, rfl, rfl, rfl, fun _ => ⟨rfl, rfl⟩, fun h => ?_⟩
    rw [hrepeats] at h
    cases h
  | true =>
    have hcandidate := h.candidate_redeclare helected
    rw [← h.declarations_withRoles hd hb] at hcandidate
    obtain ⟨d', -, b', -, hsecond, hround'⟩ :=
      DrInterface.elect_eq (h.regular_withRoles d b) hcandidate
    rw [h.declarations_withRoles hd hb] at hsecond
    obtain ⟨adjok, helection⟩ := election_of_rounds (j := i.withRoles d b) (d := d') (b := b')
      h.designated h.backup (by
        rw [hround]
        simp only [Option.bind_eq_bind, Option.bind_some, hrepeats, ↓reduceIte]
        exact hround')
    refine ⟨_, _, _, helection, rfl, rfl, rfl, fun h => ?_, fun _ => hsecond⟩
    rw [hrepeats] at h
    cases h

/-! ## Agreement -/

/-- The result of an election when `dr` and `bdr` are elected in the first round: the router keeps
to them unless its own role changes and no router declares itself designated router; then it ends
with itself and the greatest of the others. -/
def Verdict (i : DrInterface) (me : Ip) (dr bdr : Nat) : Prop :=
  ∃ r dr' bdr', i.election me = some r ∧ Ends i me dr bdr r dr' bdr' ∧
    ((∃ e ∈ i.declarations me, e.DeclaresDr) → me.int_ip = dr ∨ me.int_ip = bdr →
      dr' = dr ∧ bdr' = bdr) ∧
    ((∀ e ∈ i.declarations me, ¬e.DeclaresDr) → me.int_ip = dr →
      repeats i.State .dr = true →
      dr' = dr ∧ bdr' ≠ dr ∧
        ((∃ e ∈ i.declarations me, e.routerId ≠ dr ∧ e.DeclaresBdr) →
          Greatest (fun e => e.routerId ≠ dr ∧ e.DeclaresBdr) (i.declarations me) bdr') ∧
        ((∀ e ∈ i.declarations me, e.routerId ≠ dr → ¬e.DeclaresBdr) →
          Greatest (fun e => e.routerId ≠ dr) (i.declarations me) bdr'))

theorem Electing.verdict {i : DrInterface} {me : Ip} (h : Electing i me) {dr bdr : Nat}
    (helected : Elected (i.declarations me) dr bdr) : Verdict i me dr bdr := by
  obtain ⟨r, dr', bdr', helection, hends⟩ := h.ends helected
  refine ⟨r, dr', bdr', helection, hends, fun hdecl hme => ?_, fun hnone hme hrepeats => ?_⟩
  · cases hrepeats : repeats i.State (role me.int_ip dr bdr) with
    | false => exact hends.once hrepeats
    | true =>
      have hagain := hends.again hrepeats
      have hsame := helected.redeclare_same h.distinct hdecl hme
      exact ⟨hagain.designated_unique hsame, hagain.backup_unique hsame⟩
  · obtain rfl := helected.designated hnone
    subst hme
    have hrole : role me.int_ip me.int_ip me.int_ip = .dr := if_pos rfl
    exact helected.redeclare_alone hnone (hends.again (by rw [hrole]; exact hrepeats))

def exampleIp (n : Nat) : Ip := ⟨n, n⟩

/-- The interface of router `me` towards `other`, after the two designated routers have gone. -/
def exampleInterface (me other : Nat) : DrInterface where
  State := .drOther
  IPIfAddr := exampleIp me
  RouterPriority := 1
  neighborRouterList := [⟨.full, exampleIp other, 1, exampleIp other, some (exampleIp 9),
    some (exampleIp 8)⟩]
  designaterRouter := some (exampleIp 9)
  designaterRouterAddr := some (exampleIp 9)
  backupDesignaterRouter := some (exampleIp 8)
  backupDesignaterRouterAddr := some (exampleIp 8)

theorem electing_exampleInterface {me other : Nat}
    (h : (me, other) = (1, 2) ∨ (me, other) = (2, 1)) :
    Electing (exampleInterface me other) (exampleIp me) := by
  rcases h with h | h <;> obtain ⟨rfl, rfl⟩ := Prod.mk.inj h <;>
    exact ⟨⟨by decide, by decide, by decide, by decide⟩, by decide, by decide, by decide,
      by decide, rfl, rfl⟩

end NetSim.Ospf
