import NetSim.Pim.Hellos

/-!
# The designated router of a LAN

Routers that have heard each other agree on the greatest pair of priority and address exactly when
it wins every comparison of `dr_is_better`, which compares places of addresses in memory and leaves
the own priority out.
-/

namespace NetSim.Pim

open NetSim.Lib

namespace Network

variable (net : Network)

/-! ## Agreement -/

def lanAddress (v : Nat) : IpAddress := (net.device v).nwAddress (net.lan v)

structure IsDR (m : Nat) : Prop where
  mem : m ∈ net.routers
  best : ∀ n ∈ net.routers, n ≠ m → (net.device n).drPriority < (net.device m).drPriority ∨
    ((net.device n).drPriority = (net.device m).drPriority ∧
      (net.lanAddress n).ip < (net.lanAddress m).ip)

def HeardAll (hs : List (HelloArrival net)) : Prop :=
  ∀ v ∈ net.routers, ∀ u ∈ net.routers, u ≠ v →
    ∃ h ∈ hs, h.sender = u ∧ h.receiver = v ∧ h.ifid = net.lan v

def Agreed (s : State) : Prop :=
  ∃ m, net.IsDR m ∧
    (∀ v ∈ net.routers, ∃ a, (s v).dr (net.lan v) = some a ∧ a.ip = (net.lanAddress m).ip) ∧
    ∃ v, (v ∈ net.routers ∧ isIamDR (net.device v) (s v) (net.lan v) = true) ∧
      ∀ w, w ∈ net.routers ∧ isIamDR (net.device w) (s w) (net.lan w) = true → w = v

/-- In every run each hello is processed, and the routers agree once all have been heard. -/
def AgreesOnDR : Prop :=
  ∀ tr s, Run net.step init tr s →
    (∀ h : HelloArrival net, (net.step s h).isSome = true) ∧
    (net.HeardAll (tr.map Prod.snd) → net.Agreed s)

/-- There are two routers at least, and none is heard on two interfaces; the designated router has
its first interface on the LAN, and the highest address in memory; and where three meet, no third
beats its 16 bits of priority. -/
structure MeetsDR (m : Nat) : Prop where
  dr : net.IsDR m
  two : ∃ v ∈ net.routers, v ≠ m
  once : ∀ v j k u, net.Arrives v j u → net.Arrives v k u → j = k
  first : net.lan m = 1
  own : ∀ n ∈ net.routers, n ≠ m →
    (helloSource (net.device n)).strIp ≤ (net.lanAddress m).strIp
  above : ∀ v ∈ net.routers, v ≠ m →
    (net.lanAddress v).strIp < (helloSource (net.device m)).strIp
  others : ∀ v ∈ net.routers, ∀ n ∈ net.routers, v ≠ m → n ≠ m → n ≠ v →
    (net.device n).drPriority.toUInt16 ≤ (net.device m).drPriority.toUInt16 ∧
      ((net.device n).drPriority.toUInt16 = (net.device m).drPriority.toUInt16 →
        (helloSource (net.device n)).strIp ≤ (helloSource (net.device m)).strIp)

variable {net}

section Compare

variable {m n u v j k : Nat}

theorem IsDR.unique (hm : net.IsDR m) (hn : net.IsDR n) : m = n := by
  by_contra hne
  rcases hm.best n hn.mem (Ne.symm hne) with h | ⟨heq, h⟩
  · rcases hn.best m hm.mem hne with h' | ⟨heq', -⟩
    · exact UInt32.lt_asymm h h'
    · rw [heq'] at h
      exact UInt32.lt_irrefl _ h
  · rcases hn.best m hm.mem hne with h' | ⟨-, h'⟩
    · rw [heq] at h'
      exact UInt32.lt_irrefl _ h'
    · exact lt_asymm h h'

theorem drIsBetter_me :
    drIsBetter (recordOf (net.device n) j) (me (net.device v) k) = true ↔
      ((net.device v).nwAddress k).strIp < (helloSource (net.device n)).strIp :=
  decide_eq_true_iff

theorem drIsBetter_recordOf :
    drIsBetter (recordOf (net.device n) j) (recordOf (net.device m) j) = false ↔
      (net.device n).drPriority.toUInt16 ≤ (net.device m).drPriority.toUInt16 ∧
        ((net.device n).drPriority.toUInt16 = (net.device m).drPriority.toUInt16 →
          (helloSource (net.device n)).strIp ≤ (helloSource (net.device m)).strIp) := by
  change (decide ((net.device m).drPriority.toUInt16 < (net.device n).drPriority.toUInt16) ||
    (decide ((net.device n).drPriority.toUInt16 = (net.device m).drPriority.toUInt16) &&
      decide ((helloSource (net.device m)).strIp < (helloSource (net.device n)).strIp))) = false ↔ _
  rw [Bool.or_eq_false_iff, Bool.and_eq_false_imp, decide_eq_false_iff_not, decide_eq_false_iff_not,
    decide_eq_true_eq, UInt16.not_lt, not_lt]

theorem eq_of_strIp (hn : 0 < (net.device n).nNumOfInterface)
    (hm : 0 < (net.device m).nNumOfInterface)
    (h : (helloSource (net.device n)).strIp = (helloSource (net.device m)).strIp) : n = m :=
  (net.address_inj n 1 m 1 one_pos hn one_pos hm (net.object n 1 m 1 h)).1

theorem pos_of_mem (hv : v ∈ net.routers) : 0 < (net.device v).nNumOfInterface :=
  (net.lan_pos v hv).trans_le (net.lan_le v hv)

theorem eq_of_lanAddress (hv : v ∈ net.routers) (hm : m ∈ net.routers)
    (h : (net.lanAddress v).ip = (net.lanAddress m).ip) : v = m :=
  (net.address_inj _ _ _ _ (net.lan_pos v hv) (net.lan_le v hv) (net.lan_pos m hm)
    (net.lan_le m hm) h).1

theorem eq_of_helloSource (hu : 0 < (net.device u).nNumOfInterface) (hm : m ∈ net.routers)
    (h : (helloSource (net.device u)).ip = (net.lanAddress m).ip) : u = m ∧ 1 = net.lan m :=
  net.address_inj _ _ _ _ one_pos hu (net.lan_pos m hm) (net.lan_le m hm) h

end Compare

/-! ## Who is elected -/

section Elected

variable {m n u v j : Nat} {us : List Nat}

theorem bestDR_keeps {dr : Neighbor} {l : List Neighbor} (h : ∀ n ∈ l, drIsBetter n dr = false) :
    bestDR dr l = dr := by
  induction l with
  | nil => rfl
  | cons n l ih =>
    rw [bestDR_cons, h n List.mem_cons_self, if_neg Bool.false_ne_true]
    exact ih fun n' hn' => h n' (List.mem_cons_of_mem _ hn')

theorem bestDR_append (dr : Neighbor) (l1 l2 : List Neighbor) :
    bestDR dr (l1 ++ l2) = bestDR (bestDR dr l1) l2 := List.foldl_append

theorem elected_me
    (h : ∀ n ∈ us, (helloSource (net.device n)).strIp ≤ ((net.device v).nwAddress j).strIp) :
    net.elected v j us = (net.device v).nwAddress j := by
  unfold elected
  rw [bestDR_keeps]
  · rfl
  · rintro r hr
    obtain ⟨n, hn, rfl⟩ := List.mem_map.1 hr
    rw [Bool.eq_false_iff]
    intro hbetter
    exact absurd (h n hn) (not_le.2 (drIsBetter_me.1 hbetter))

theorem elected_neighbor (hm : m ∈ us) (hus : us.Nodup)
    (hpos : ∀ n ∈ us, 0 < (net.device n).nNumOfInterface)
    (habove : ((net.device v).nwAddress j).strIp < (helloSource (net.device m)).strIp)
    (hothers : ∀ n ∈ us, n ≠ m →
      drIsBetter (recordOf (net.device n) j) (recordOf (net.device m) j) = false) :
    net.elected v j us = helloSource (net.device m) := by
  obtain ⟨l1, l2, rfl⟩ := List.append_of_mem hm
  obtain ⟨-, hl2, hdisj⟩ := List.nodup_append.1 hus
  unfold elected
  rw [List.map_append, List.map_cons, bestDR_append, bestDR_cons, if_pos, bestDR_keeps]
  · rfl
  · intro r hr
    obtain ⟨n, hn, rfl⟩ := List.mem_map.1 hr
    refine hothers n (by simp [hn]) ?_
    rintro rfl
    exact (List.nodup_cons.1 hl2).1 hn
  · rcases bestDR_mem (me (net.device v) j) (l1.map fun u => recordOf (net.device u) j) with h | h
    · rw [h]
      exact drIsBetter_me.2 habove
    · obtain ⟨n, hn, heq⟩ := List.mem_map.1 h
      rw [← heq]
      have hne : n ≠ m := by
        rintro rfl
        exact hdisj n hn n List.mem_cons_self rfl
      obtain ⟨hle, hstr⟩ := drIsBetter_recordOf.1 (hothers n (by simp [hn]) hne)
      by_contra hbetter
      obtain ⟨hle', hstr'⟩ := drIsBetter_recordOf.1 (Bool.eq_false_iff.2 hbetter)
      have hprio := UInt16.le_antisymm hle hle'
      have hplace := le_antisymm (hstr hprio) (hstr' hprio.symm)
      exact hne (eq_of_strIp (hpos n (by simp [hn])) (hpos m hm) hplace)

theorem elected_mem (v j : Nat) (us : List Nat) :
    net.elected v j us = (net.device v).nwAddress j ∨
      ∃ u ∈ us, net.elected v j us = helloSource (net.device u) := by
  unfold elected
  rcases bestDR_mem (me (net.device v) j) (us.map fun u => recordOf (net.device u) j) with h | h
  · left
    rw [h]
    rfl
  · obtain ⟨u, hu, heq⟩ := List.mem_map.1 h
    right
    refine ⟨u, hu, ?_⟩
    rw [← heq]
    rfl

theorem elected_after {dr : Neighbor} (us : List Nat)
    (h : drIsBetter (recordOf (net.device n) j) dr = true) :
    ∃ u ∈ n :: us,
      (bestDR dr ((n :: us).map fun u => recordOf (net.device u) j)).neighborAddr =
        helloSource (net.device u) := by
  rw [List.map_cons, bestDR_cons, if_pos h]
  rcases bestDR_mem (recordOf (net.device n) j) (us.map fun u => recordOf (net.device u) j)
    with hbest | hbest
  · rw [hbest]
    exact ⟨n, List.mem_cons_self, rfl⟩
  · obtain ⟨u, hu, heq⟩ := List.mem_map.1 hbest
    rw [← heq]
    exact ⟨u, List.mem_cons_of_mem _ hu, rfl⟩

end Elected

/-! ## What has been learnt -/

section Learnt

variable {v u j k : Nat} {hs hs' : List (HelloArrival net)}

variable {l : List Entry}

theorem mem_learn {x : Entry} (h : x ∈ learn l u j) : x ∈ l ∨ x = (u, j) := by
  unfold learn at h
  split at h
  · exact .inl h
  · rcases List.mem_append.1 h with h | h
    · exact .inl h
    · exact .inr (List.mem_singleton.1 h)

theorem learn_grows (l : List Entry) (u j : Nat) : l <+: learn l u j := by
  unfold learn
  split
  · exact List.prefix_rfl
  · exact List.prefix_append _ _

theorem mem_fst_learn (l : List Entry) (u j : Nat) : u ∈ (learn l u j).map Prod.fst := by
  unfold learn
  split
  · assumption
  · rw [List.map_append]
    exact List.mem_append_right _ (List.mem_singleton.2 rfl)

theorem arrives_of_mem_learnt {x : Entry} (h : x ∈ learnt v hs) : net.Arrives v x.2 x.1 := by
  induction hs with
  | nil => cases h
  | cons a hs ih =>
    unfold learnt at h
    split at h
    · next hv =>
      subst hv
      rcases mem_learn h with h | rfl
      · exact ih h
      · exact a.arrives
    · exact ih h

theorem learnt_grows (v : Nat) (hs hs' : List (HelloArrival net)) :
    learnt v hs <+: learnt v (hs' ++ hs) := by
  induction hs' with
  | nil => exact List.prefix_rfl
  | cons h hs' ih =>
    change _ <+: if h.receiver = v then learn (learnt v (hs' ++ hs)) h.sender h.ifid
      else learnt v (hs' ++ hs)
    split
    · exact ih.trans (learn_grows _ _ _)
    · exact ih

theorem mem_fst_learnt {h : HelloArrival net} (hh : h ∈ hs) :
    h.sender ∈ (learnt h.receiver hs).map Prod.fst := by
  obtain ⟨l1, l2, rfl⟩ := List.append_of_mem hh
  have hgrows := (learnt_grows h.receiver (h :: l2) l1).map Prod.fst
  refine hgrows.subset ?_
  have hlearnt : learnt h.receiver (h :: l2) =
      learn (learnt h.receiver l2) h.sender h.ifid := if_pos rfl
  rw [hlearnt]
  exact mem_fst_learn _ _ _

theorem mem_sendersOn : u ∈ sendersOn j l ↔ (u, j) ∈ l := by
  unfold sendersOn
  rw [List.mem_map]
  constructor
  · rintro ⟨x, hx, rfl⟩
    obtain ⟨hmem, hj⟩ := List.mem_filter.1 hx
    obtain rfl : x.2 = j := of_decide_eq_true hj
    exact hmem
  · intro h
    exact ⟨(u, j), List.mem_filter.2 ⟨h, decide_eq_true rfl⟩, rfl⟩

theorem sendersOn_nodup (h : (l.map Prod.fst).Nodup) : (sendersOn j l).Nodup :=
  h.sublist (List.filter_sublist.map _)

theorem sendersOn_grows {l' : List Entry} (h : l <+: l') : sendersOn j l <+: sendersOn j l' :=
  (h.filter _).map _

theorem mem_routers_of_sendersOn (hv : v ∈ net.routers)
    (h : u ∈ sendersOn (net.lan v) (learnt v hs)) : u ∈ net.routers ∧ u ≠ v := by
  rcases arrives_of_mem_learnt (mem_sendersOn.1 h) with ⟨hu, -, hne, -⟩ | hreach
  · exact ⟨hu, hne⟩
  · exact absurd rfl (net.reaches_ne _ _ _ hreach hv)

end Learnt

/-! ## The condition is enough -/

section Meets

variable {m v : Nat} {tr : List (State × HelloArrival net)} {s : State}

theorem isSome_step (run : Run net.step init tr s)
    (honce : ∀ v j k u, net.Arrives v j u → net.Arrives v k u → j = k) (h : HelloArrival net) :
    (net.step s h).isSome = true := by
  obtain ⟨-, hsome⟩ := step_spec (run_spec run h.receiver)
  have hmem : h.sender ∈ sendersOn h.ifid
      (learn (learnt h.receiver (tr.map Prod.snd)) h.sender h.ifid) := by
    rw [mem_sendersOn]
    obtain ⟨x, hx, hsender⟩ := List.mem_map.1
      (mem_fst_learn (learnt h.receiver (tr.map Prod.snd)) h.sender h.ifid)
    rcases mem_learn hx with hold | rfl
    · have harrives := arrives_of_mem_learnt hold
      rw [hsender] at harrives
      have hifid := honce _ _ _ _ harrives h.arrives
      have heq : x = (h.sender, h.ifid) := Prod.ext hsender hifid
      rwa [heq] at hx
    · exact hx
  obtain ⟨var, hvar, -⟩ := hsome (List.ne_nil_of_mem hmem)
  rw [hvar]
  rfl

theorem mem_sendersOn_of_heardAll {hs : List (HelloArrival net)}
    (honce : ∀ v j k u, net.Arrives v j u → net.Arrives v k u → j = k) (hall : net.HeardAll hs)
    {u : Nat} (hv : v ∈ net.routers) (hu : u ∈ net.routers) (hne : u ≠ v) :
    u ∈ sendersOn (net.lan v) (learnt v hs) := by
  obtain ⟨h, hh, rfl, rfl, hifid⟩ := hall v hv u hu hne
  obtain ⟨x, hx, hsender⟩ := List.mem_map.1 (mem_fst_learnt hh)
  have harrives := arrives_of_mem_learnt hx
  rw [hsender] at harrives
  have hlan := honce _ _ _ _ harrives h.arrives
  rw [mem_sendersOn, ← hsender, ← hifid, ← hlan]
  exact hx

theorem dr_of_heardAll (hm : net.MeetsDR m) (run : Run net.step init tr s)
    (hall : net.HeardAll (tr.map Prod.snd)) (hv : v ∈ net.routers) :
    ∃ a, (s v).dr (net.lan v) = some a ∧ a.ip = (net.lanAddress m).ip := by
  have hknows := run_spec run v
  have hsenders : ∀ u ∈ net.routers, u ≠ v →
      u ∈ sendersOn (net.lan v) (learnt v (tr.map Prod.snd)) :=
    fun u hu hne => mem_sendersOn_of_heardAll hm.once hall hv hu hne
  have hrouters : ∀ u ∈ sendersOn (net.lan v) (learnt v (tr.map Prod.snd)),
      u ∈ net.routers ∧ u ≠ v := fun u hu => mem_routers_of_sendersOn hv hu
  have hdr := hknows.dr (net.lan v)
  by_cases hvm : v = m
  · subst hvm
    obtain ⟨w, hw, hne⟩ := hm.two
    rw [if_neg (List.ne_nil_of_mem (hsenders w hw hne))] at hdr
    refine ⟨_, hdr, ?_⟩
    rw [elected_me fun n hn => hm.own n (hrouters n hn).1 (hrouters n hn).2]
    rfl
  · have hmem := hsenders m hm.dr.mem (Ne.symm hvm)
    rw [if_neg (List.ne_nil_of_mem hmem)] at hdr
    refine ⟨_, hdr, ?_⟩
    rw [elected_neighbor hmem (sendersOn_nodup hknows.proper.nodup)
      (fun n hn => pos_of_mem (hrouters n hn).1) (hm.above v hv hvm) fun n hn hne => ?_]
    · exact congrArg (fun i => ((net.device m).nwAddress i).ip) hm.first.symm
    · exact drIsBetter_recordOf.2 (hm.others v hv n (hrouters n hn).1 hvm hne (hrouters n hn).2)

theorem isIamDR_iff {a : IpAddress} (hv : v ∈ net.routers) (ha : (s v).dr (net.lan v) = some a) :
    isIamDR (net.device v) (s v) (net.lan v) = true ↔ a.ip = (net.lanAddress v).ip := by
  unfold isIamDR
  rw [net.broadcast v hv, if_pos rfl, ha]
  exact decide_eq_true_iff

theorem agreesOnDR_of_meets (hm : net.MeetsDR m) : net.AgreesOnDR := by
  intro tr s run
  refine ⟨isSome_step run hm.once, fun hall => ⟨m, hm.dr, ?_, m, ⟨hm.dr.mem, ?_⟩, ?_⟩⟩
  · exact fun v hv => dr_of_heardAll hm run hall hv
  · obtain ⟨a, ha, heq⟩ := dr_of_heardAll hm run hall hm.dr.mem
    exact (isIamDR_iff hm.dr.mem ha).2 heq
  · rintro w ⟨hw, hiam⟩
    obtain ⟨a, ha, heq⟩ := dr_of_heardAll hm run hall hw
    exact eq_of_lanAddress hw hm.dr.mem (((isIamDR_iff hw ha).1 hiam).symm.trans heq)

end Meets

/-! ## The condition is necessary -/

section Necessary

variable {m n v : Nat}

theorem exists_run (h : net.AgreesOnDR) (hs : List (HelloArrival net)) :
    ∃ tr s, Run net.step init tr s ∧ tr.map Prod.snd = hs := by
  induction hs with
  | nil => exact ⟨[], init, .nil, rfl⟩
  | cons a hs ih =>
    obtain ⟨tr, s, run, rfl⟩ := ih
    obtain ⟨s', hs'⟩ := Option.isSome_iff_exists.1 ((h tr s run).1 a)
    exact ⟨(s, a) :: tr, s', run.snoc hs', rfl⟩

theorem exists_heardAll (net : Network) : ∃ hs : List (HelloArrival net), net.HeardAll hs := by
  have hpairs : ∀ ps : List (Nat × Nat), ∃ hs : List (HelloArrival net), ∀ p ∈ ps,
      p.1 ∈ net.routers → p.2 ∈ net.routers → p.1 ≠ p.2 →
      ∃ h ∈ hs, h.sender = p.1 ∧ h.receiver = p.2 ∧ h.ifid = net.lan p.2 := by
    intro ps
    induction ps with
    | nil => exact ⟨[], nofun⟩
    | cons p ps ih =>
      obtain ⟨hs, hall⟩ := ih
      by_cases hp : p.1 ∈ net.routers ∧ p.2 ∈ net.routers ∧ p.1 ≠ p.2
      · obtain ⟨hu, hv, hne⟩ := hp
        refine ⟨⟨p.1, p.2, net.lan p.2, 0, .inl ⟨hu, hv, hne, rfl⟩⟩ :: hs, fun q hq hqu hqv hqne => ?_⟩
        rcases List.mem_cons.1 hq with rfl | hq
        · exact ⟨_, List.mem_cons_self, rfl, rfl, rfl⟩
        · obtain ⟨h, hh, heq⟩ := hall q hq hqu hqv hqne
          exact ⟨h, List.mem_cons_of_mem _ hh, heq⟩
      · refine ⟨hs, fun q hq hqu hqv hqne => ?_⟩
        rcases List.mem_cons.1 hq with rfl | hq
        · exact absurd ⟨hqu, hqv, hqne⟩ hp
        · exact hall q hq hqu hqv hqne
  obtain ⟨hs, hall⟩ := hpairs (net.routers ×ˢ net.routers)
  refine ⟨hs, fun v hv u hu hne => ?_⟩
  exact hall (u, v) (List.pair_mem_product.2 ⟨hu, hv⟩) hu hv hne

theorem elected_of_agrees (h : net.AgreesOnDR) (hm : net.IsDR m) (hv : v ∈ net.routers)
    (first : List (HelloArrival net)) :
    ∃ us, sendersOn (net.lan v) (learnt v first) <+: us ∧ us.Nodup ∧
      (∀ w ∈ us, w ∈ net.routers ∧ w ≠ v) ∧
      (net.elected v (net.lan v) us).ip = (net.lanAddress m).ip := by
  obtain ⟨hs, hall⟩ := exists_heardAll net
  obtain ⟨tr, s, run, htr⟩ := exists_run h (hs ++ first)
  have hheard : net.HeardAll (tr.map Prod.snd) := by
    intro v hv u hu hne
    obtain ⟨a, ha, heq⟩ := hall v hv u hu hne
    exact ⟨a, htr ▸ List.mem_append_left _ ha, heq⟩
  obtain ⟨m', hm', hstored, -⟩ := (h tr s run).2 hheard
  obtain rfl := hm'.unique hm
  obtain ⟨a, ha, heq⟩ := hstored v hv
  have hknows := run_spec run v
  have hdr := hknows.dr (net.lan v)
  rw [ha] at hdr
  refine ⟨sendersOn (net.lan v) (learnt v (tr.map Prod.snd)), ?_, ?_, ?_, ?_⟩
  · rw [htr]
    exact sendersOn_grows (learnt_grows v first hs)
  · exact sendersOn_nodup hknows.proper.nodup
  · exact fun w hw => mem_routers_of_sendersOn hv hw
  · split at hdr
    · cases hdr
    · rw [Option.some.injEq] at hdr
      rw [← hdr]
      exact heq

theorem exists_isDR_of_agrees (h : net.AgreesOnDR) : ∃ m, net.IsDR m := by
  obtain ⟨hs, hall⟩ := exists_heardAll net
  obtain ⟨tr, s, run, rfl⟩ := exists_run h hs
  obtain ⟨m, hm, -⟩ := (h tr s run).2 hall
  exact ⟨m, hm⟩

theorem two_of_agrees (h : net.AgreesOnDR) (hm : net.IsDR m) : ∃ v ∈ net.routers, v ≠ m := by
  by_contra hnone
  push Not at hnone
  have hall : net.HeardAll [] := fun v hv u hu hne => absurd ((hnone u hu).trans (hnone v hv).symm) hne
  obtain ⟨m', -, hstored, -⟩ := (h [] init .nil).2 hall
  obtain ⟨a, ha, -⟩ := hstored m hm.mem
  cases ha

theorem once_of_agrees (h : net.AgreesOnDR) {j k u : Nat} (hj : net.Arrives v j u)
    (hk : net.Arrives v k u) : j = k := by
  by_contra hne
  obtain ⟨tr, s, run, htr⟩ := exists_run h [⟨u, v, j, 0, hj⟩]
  have hlearnt : learn (learnt v (tr.map Prod.snd)) u k = [(u, j)] := by
    rw [htr]
    have hfirst : learnt v [⟨u, v, j, 0, hj⟩] = [(u, j)] := if_pos rfl
    rw [hfirst]
    exact if_pos (List.mem_singleton.2 rfl)
  have hnil : sendersOn k (learn (learnt v (tr.map Prod.snd)) u k) = [] := by
    rw [hlearnt]
    unfold sendersOn
    rw [List.filter_cons_of_neg (by simpa using hne)]
    rfl
  have hnone := (step_spec (h := ⟨u, v, k, 0, hk⟩) (run_spec run v)).1 hnil
  have hsome := (h tr s run).1 ⟨u, v, k, 0, hk⟩
  rw [hnone] at hsome
  cases hsome

theorem sendersOn_single {u : Nat} (hu : u ∈ net.routers) (hv : v ∈ net.routers) (hne : u ≠ v) :
    sendersOn (net.lan v) (learnt v [⟨u, v, net.lan v, 0, .inl ⟨hu, hv, hne, rfl⟩⟩]) = [u] := by
  have hfirst : learnt v [(⟨u, v, net.lan v, 0, .inl ⟨hu, hv, hne, rfl⟩⟩ : HelloArrival net)] =
      [(u, net.lan v)] := if_pos rfl
  rw [hfirst]
  simp [sendersOn]

theorem first_of_agrees (h : net.AgreesOnDR) (hm : net.IsDR m) : net.lan m = 1 := by
  obtain ⟨v, hv, hne⟩ := two_of_agrees h hm
  obtain ⟨us, -, -, hus, heq⟩ := elected_of_agrees h hm hv []
  rcases elected_mem v (net.lan v) us with hme | ⟨u, hu, hsource⟩
  · rw [hme] at heq
    exact absurd (eq_of_lanAddress hv hm.mem heq) hne
  · rw [hsource] at heq
    exact (eq_of_helloSource (pos_of_mem (hus u hu).1) hm.mem heq).2.symm

theorem own_of_agrees (h : net.AgreesOnDR) (hm : net.IsDR m) (hn : n ∈ net.routers) (hne : n ≠ m) :
    (helloSource (net.device n)).strIp ≤ (net.lanAddress m).strIp := by
  by_contra hlt
  obtain ⟨us, ⟨rest, hrest⟩, -, hus, heq⟩ := elected_of_agrees h hm hm.mem
    [⟨n, m, net.lan m, 0, .inl ⟨hn, hm.mem, hne, rfl⟩⟩]
  rw [sendersOn_single hn hm.mem hne] at hrest
  subst hrest
  -- the neighbor takes the place of the own record, which never comes back
  obtain ⟨u, hu, hsource⟩ := elected_after rest (drIsBetter_me.2 (not_le.1 hlt))
  unfold elected at heq
  rw [List.singleton_append, hsource] at heq
  have hum := (eq_of_helloSource (pos_of_mem (hus u hu).1) hm.mem heq).1
  exact (hus u hu).2 hum

theorem above_of_agrees (h : net.AgreesOnDR) (hm : net.IsDR m) (hv : v ∈ net.routers) (hne : v ≠ m) :
    (net.lanAddress v).strIp < (helloSource (net.device m)).strIp := by
  by_contra hle
  obtain ⟨us, ⟨rest, hrest⟩, hnodup, hus, heq⟩ := elected_of_agrees h hm hv
    [⟨m, v, net.lan v, 0, .inl ⟨hm.mem, hv, hne.symm, rfl⟩⟩]
  rw [sendersOn_single hm.mem hv hne.symm] at hrest
  subst hrest
  have hskip : net.elected v (net.lan v) ([m] ++ rest) = net.elected v (net.lan v) rest := by
    unfold elected
    rw [List.singleton_append, List.map_cons, bestDR_cons, if_neg]
    exact fun hbetter => hle (drIsBetter_me.1 hbetter)
  rw [hskip] at heq
  rcases elected_mem v (net.lan v) rest with hme | ⟨u, hu, hsource⟩
  · rw [hme] at heq
    exact hne (eq_of_lanAddress hv hm.mem heq)
  · rw [hsource] at heq
    obtain ⟨rfl, -⟩ := eq_of_helloSource (pos_of_mem (hus u (List.mem_append_right _ hu)).1) hm.mem heq
    exact (List.nodup_cons.1 hnodup).1 hu

theorem others_of_agrees (h : net.AgreesOnDR) (hm : net.IsDR m) (hv : v ∈ net.routers)
    (hn : n ∈ net.routers) (hvm : v ≠ m) (hnm : n ≠ m) (hnv : n ≠ v) :
    (net.device n).drPriority.toUInt16 ≤ (net.device m).drPriority.toUInt16 ∧
      ((net.device n).drPriority.toUInt16 = (net.device m).drPriority.toUInt16 →
        (helloSource (net.device n)).strIp ≤ (helloSource (net.device m)).strIp) := by
  rw [← drIsBetter_recordOf (j := net.lan v), Bool.eq_false_iff]
  intro hbetter
  obtain ⟨us, ⟨rest, hrest⟩, hnodup, hus, heq⟩ := elected_of_agrees h hm hv
    [⟨n, v, net.lan v, 0, .inl ⟨hn, hv, hnv, rfl⟩⟩, ⟨m, v, net.lan v, 0, .inl ⟨hm.mem, hv, hvm.symm, rfl⟩⟩]
  have hpair : sendersOn (net.lan v) (learnt v
      [(⟨n, v, net.lan v, 0, .inl ⟨hn, hv, hnv, rfl⟩⟩ : HelloArrival net),
        ⟨m, v, net.lan v, 0, .inl ⟨hm.mem, hv, hvm.symm, rfl⟩⟩]) = [m, n] := by
    have hfirst : learnt v [(⟨m, v, net.lan v, 0, .inl ⟨hm.mem, hv, hvm.symm, rfl⟩⟩ :
        HelloArrival net)] = [(m, net.lan v)] := if_pos rfl
    have hsecond : learn [(m, net.lan v)] n (net.lan v) = [(m, net.lan v), (n, net.lan v)] :=
      if_neg fun hmem => hnm (List.mem_singleton.1 hmem)
    change sendersOn _ (if v = v then learn (learnt v [_]) n (net.lan v) else _) = _
    rw [if_pos rfl, hfirst, hsecond]
    simp [sendersOn]
  rw [hpair] at hrest
  subst hrest
  -- the third router takes the place of the designated one
  have hsteps : net.elected v (net.lan v) ([m, n] ++ rest) =
      (bestDR (recordOf (net.device m) (net.lan v))
        ((n :: rest).map fun u => recordOf (net.device u) (net.lan v))).neighborAddr := by
    unfold elected
    rw [List.cons_append, List.map_cons, bestDR_cons,
      if_pos (drIsBetter_me.2 (above_of_agrees h hm hv hvm))]
    rfl
  obtain ⟨u, hu, hsource⟩ := elected_after rest hbetter
  rw [hsteps, hsource] at heq
  obtain ⟨rfl, -⟩ := eq_of_helloSource (pos_of_mem (hus u (List.mem_cons_of_mem _ hu)).1) hm.mem heq
  exact (List.nodup_cons.1 hnodup).1 hu

theorem meets_of_agrees (h : net.AgreesOnDR) : ∃ m, net.MeetsDR m := by
  obtain ⟨m, hm⟩ := exists_isDR_of_agrees h
  exact ⟨m, hm, two_of_agrees h hm, fun _ _ _ _ hj hk => once_of_agrees h hj hk,
    first_of_agrees h hm, fun _ hn hne => own_of_agrees h hm hn hne,
    fun _ hv hne => above_of_agrees h hm hv hne,
    fun _ hv _ hn hvm hnm hnv => others_of_agrees h hm hv hn hvm hnm hnv⟩

end Necessary

/-- The routers of a LAN agree on the designated router in every run exactly when the network meets
the condition. -/
theorem agreesOnDR_iff (net : Network) : net.AgreesOnDR ↔ ∃ m, net.MeetsDR m :=
  ⟨meets_of_agrees, fun ⟨_, hm⟩ => agreesOnDR_of_meets hm⟩

/-- Router `v`, with the address `v` at place `v`. Router 1 has the priority 5, all others 1. -/
def device₁ (v : Nat) : Device where
  nNumOfInterface := 1
  nwAddress := fun _ => ⟨v, v⟩
  nInterfaceType := fun _ => .lan8023
  genId := 0
  helloPeriod := 30 * second
  tPeriodic := 60 * second
  drPriority := if v = 1 then 5 else 1
  propagationDelay := 500
  overrideInterval := 2500

def twoRouters : Network where
  device := device₁
  routers := [1, 2]
  lan := fun _ => 1
  reaches := fun _ _ _ => False
  lan_pos := fun _ _ => one_pos
  lan_le := fun _ _ => le_rfl
  broadcast := fun _ _ => rfl
  reaches_pos := nofun
  reaches_ne := nofun
  address_inj := by
    intro u i v j hi hi' hj hj' heq
    have hi₁ : i ≤ 1 := hi'
    have hj₁ : j ≤ 1 := hj'
    exact ⟨heq, by omega⟩
  object := fun _ _ _ _ h => h

/-- Both store the address of router 2, which lies above that of router 1, whose priority is
greater. -/
theorem not_agreesOnDR : ¬ ∀ net : Network, net.AgreesOnDR := by
  intro hall
  obtain ⟨m, hm⟩ := meets_of_agrees (hall twoRouters)
  rcases List.mem_cons.1 hm.dr.mem with rfl | hmem
  · exact absurd (hm.own 2 (by decide) (by decide)) (by decide)
  · obtain rfl : m = 2 := List.mem_singleton.1 hmem
    exact absurd (hm.dr.best 1 (by decide) (by decide)) (by decide)

end Network

end NetSim.Pim
