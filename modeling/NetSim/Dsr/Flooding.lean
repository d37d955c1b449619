import NetSim.Dsr.Network

/-!
# Request flooding

A node answers or passes on every request that it can, once, as long as its request table tells the
requests apart and no cached route shares an address with the request.
-/

namespace NetSim.Dsr

open NetSim.Lib Function

def Output.key : Output → Option (Nat × Nat × Nat)
  | .rreq r => some r.key
  | .rrep r => some r.request
  | .data .. => none
  | .networkOut _ => none

namespace Net

/-- What holds of the network in every state. -/
structure Flooded (s : Net) : Prop where
  once : ∀ i key, (s.answered.filter fun x => x.1 = i ∧ x.2.key = some key).length ≤ 1
  notOwn : ∀ x ∈ s.answered, ∀ key, x.2.key = some key → key.1 ≠ x.1

def IsAnswer (i : Nat) (rreq : Rreq) (output : Output) : Prop :=
  output = .rreq { rreq with
    address := rreq.address ++ [i], nOptDataLen := (rreq.nOptDataLen + 4) % 2 ^ 8 } ∨
  ∃ rrep, output = .rrep rrep ∧ rrep.replier = i ∧ rrep.request = rreq.key

/-- What holds of a step from `s`. -/
def FloodsExact (s : Net) (x : Nat × NodeStep) : Prop :=
  match x.2 with
  | .rreq rreq dEventTime =>
    (checkEntryInRREQTable rreq (s.node x.1).pstruRREQTable = true →
      rreq.key ∈ (s.node x.1).handled) ∧
    (checkEntryInRREQTable rreq (s.node x.1).pstruRREQTable = false →
      rreq.targetAddress ≠ x.1 → x.1 ∉ rreq.address →
      ∃ output node, (s.node x.1).handle (.rreq rreq dEventTime) = some ([output], node) ∧
        IsAnswer x.1 rreq output)
  | _ => True

/-- The condition on a step from `s`. -/
def FloodOk (s : Net) (x : Nat × NodeStep) : Prop :=
  match x.2 with
  | .rreq rreq dEventTime =>
    -- no entry for the identification and target stands for the request of another initiator
    (∀ entry ∈ (s.node x.1).pstruRREQTable, entry.nIdentification = rreq.nIdentification →
      entry.target = rreq.targetAddress → entry.initiator = rreq.initiator) ∧
    -- the entry of a request that has been started or handled is still there
    (rreq.key ∈ (s.node x.1).handled →
      checkEntryInRREQTable rreq (s.node x.1).pstruRREQTable = true) ∧
    -- a route that would be replied shares no address with the request
    (checkEntryInRREQTable rreq (s.node x.1).pstruRREQTable = false →
      rreq.targetAddress ≠ x.1 → x.1 ∉ rreq.address →
      ∀ cache ∈ ((s.node x.1).checkRouteFound rreq.targetAddress dEventTime).1,
        validateRouteCache cache rreq.address = true) ∧
    rreq.address.length ≤ 62
  | _ => True

instance (s : Net) (x : Nat × NodeStep) : Decidable (s.FloodOk x) := by
  unfold FloodOk
  split <;> infer_instance

end Net

theorem Rreq.len_eq {rreq : Rreq} (h : rreq.nOptDataLen = (6 + 4 * rreq.address.length) % 2 ^ 8)
    (hlen : rreq.address.length ≤ 62) : rreq.len = rreq.address.length := by
  have hval : rreq.nOptDataLen = 6 + 4 * rreq.address.length := by omega
  unfold Rreq.len
  rw [hval, show ((6 + 4 * rreq.address.length : Nat) : Int) - 6 = 4 * rreq.address.length by omega]
  exact Int.mul_tdiv_cancel_left _ (by decide)

theorem Rreq.take_eq {rreq : Rreq} (h : rreq.nOptDataLen = (6 + 4 * rreq.address.length) % 2 ^ 8)
    (hlen : rreq.address.length ≤ 62) : rreq.address.take rreq.len.toNat = rreq.address := by
  rw [Rreq.len_eq h hlen, Int.toNat_natCast, List.take_length]

theorem determinePosition_mem (myIP : Nat) {dest : Nat} {l : List Nat} (h : dest ∈ l) (i : Nat)
    (my : Option Nat) : ∃ my' de, determinePosition myIP dest i my l = (my', some de) := by
  induction l generalizing i my with
  | nil => cases h
  | cons a l ih =>
    unfold determinePosition
    dsimp only
    split
    · exact ⟨_, _, rfl⟩
    · next hne => exact ih ((List.mem_cons.1 h).resolve_left (Ne.symm hne)) _ _

namespace Net

/-! ## The invariant -/

structure FloodInv (s : Net) : Prop where
  address : ∀ i, (s.node i).address = i
  table : ∀ i, ∀ e ∈ (s.node i).pstruRREQTable, e.key ∈ (s.node i).handled
  origin : ∀ x ∈ s.rreqs, x.2.key ∈ (s.node x.2.initiator).handled
  length : ∀ x ∈ s.rreqs, x.2.nOptDataLen = (6 + 4 * x.2.address.length) % 2 ^ 8
  answered : ∀ x ∈ s.answered, ∀ key, x.2.key = some key → key ∈ (s.node x.1).handled
  once : ∀ i key, (s.answered.filter fun x => x.1 = i ∧ x.2.key = some key).length ≤ 1
  notOwn : ∀ x ∈ s.answered, ∀ key, x.2.key = some key → key.1 ≠ x.1

/-- What a node that handles `a` does for the flooding. -/
structure Floods (s : Net) (i : Nat) (outputs : List Output) (answers : List (Nat × Output))
    (node : Node) : Prop where
  address : node.address = i
  handled : ∀ key ∈ (s.node i).handled, key ∈ node.handled
  table : ∀ e ∈ node.pstruRREQTable, e.key ∈ node.handled
  rreqs : ∀ rreq, .rreq rreq ∈ outputs →
    (rreq.initiator = i ∧ rreq.key ∈ node.handled ∨ ∃ x ∈ s.rreqs, x.2.key = rreq.key) ∧
      rreq.nOptDataLen = (6 + 4 * rreq.address.length) % 2 ^ 8
  answers : answers = [] ∨ ∃ output, answers = [(i, output)] ∧ ∀ key, output.key = some key →
    key ∉ (s.node i).handled ∧ key ∈ node.handled ∧ key.1 ≠ i

section

variable {s : Net} {i : Nat}

theorem FloodInv.floods (h : s.FloodInv) {outputs : List Output} {answers : List (Nat × Output)}
    {node : Node} (hf : s.Floods i outputs answers node) (rreps : List Rrep) :
    FloodInv { s with
      node := update s.node i node
      rreqs := rreqsOf i outputs ++ s.rreqs
      rreps := rreps
      answered := answers ++ s.answered } := by
  have hmono : ∀ j, ∀ key ∈ (s.node j).handled, key ∈ (update s.node i node j).handled := by
    intro j key hkey
    by_cases hj : j = i
    · subst hj
      rw [update_self]
      exact hf.handled key hkey
    · rw [update_of_ne hj]
      exact hkey
  refine ⟨fun j => ?_, fun j e he => ?_, fun x hx => ?_, fun x hx => ?_, fun x hx key hkey => ?_,
    fun j key => ?_, fun x hx key hkey => ?_⟩
  all_goals dsimp only at *
  · by_cases hj : j = i
    · subst hj
      rw [update_self]
      exact hf.address
    · rw [update_of_ne hj]
      exact h.address j
  · by_cases hj : j = i
    · subst hj
      rw [update_self] at he ⊢
      exact hf.table e he
    · rw [update_of_ne hj] at he ⊢
      exact h.table j e he
  · rcases List.mem_append.1 hx with hx | hx
    · obtain ⟨-, hx⟩ := mem_rreqsOf.1 hx
      rcases (hf.rreqs _ hx).1 with ⟨hinit, hkey⟩ | ⟨y, hy, hkey⟩
      · rw [hinit, update_self]
        exact hkey
      · have hinit : y.2.initiator = x.2.initiator := congrArg Prod.fst hkey
        rw [← hkey, ← hinit]
        exact hmono _ _ (h.origin y hy)
    · exact hmono _ _ (h.origin x hx)
  · rcases List.mem_append.1 hx with hx | hx
    · exact (hf.rreqs _ (mem_rreqsOf.1 hx).2).2
    · exact h.length x hx
  · rcases List.mem_append.1 hx with hx | hx
    · rcases hf.answers with hnil | ⟨o, ho, hans⟩
      · rw [hnil] at hx
        cases hx
      · rw [ho, List.mem_singleton] at hx
        subst hx
        rw [update_self]
        exact (hans key hkey).2.1
    · exact hmono _ _ (h.answered x hx key hkey)
  · rw [List.filter_append]
    rcases hf.answers with hnil | ⟨o, ho, hans⟩
    · rw [hnil]
      exact h.once j key
    · rw [ho, List.filter_cons]
      split
      · next hcond =>
        obtain ⟨rfl, hkey⟩ := of_decide_eq_true hcond
        have hnew := (hans key hkey).1
        have hnone : (s.answered.filter fun x => x.1 = i ∧ x.2.key = some key) = [] := by
          refine List.filter_eq_nil_iff.2 fun x hx hx' => ?_
          obtain ⟨rfl, hxkey⟩ := of_decide_eq_true hx'
          exact hnew (h.answered x hx key hxkey)
        rw [hnone]
        exact Nat.le_refl _
      · exact h.once j key
  · rcases List.mem_append.1 hx with hx | hx
    · rcases hf.answers with hnil | ⟨o, ho, hans⟩
      · rw [hnil] at hx
        cases hx
      · rw [ho, List.mem_singleton] at hx
        subst hx
        exact (hans key hkey).2.2
    · exact h.notOwn x hx key hkey

theorem FloodInv.silent (h : s.FloodInv) {node : Node} (haddress : node.address = (s.node i).address)
    (htable : ∀ e ∈ node.pstruRREQTable, ∃ e' ∈ (s.node i).pstruRREQTable, e'.key = e.key)
    (hhandled : node.handled = (s.node i).handled) {outputs : List Output}
    (hnone : ∀ rreq, .rreq rreq ∉ outputs) : s.Floods i outputs [] node := by
  refine ⟨haddress.trans (h.address i), fun key hkey => hhandled ▸ hkey, fun e he => ?_,
    fun rreq hr => absurd hr (hnone rreq), .inl rfl⟩
  obtain ⟨e', he', heq⟩ := htable e he
  rw [← heq, hhandled]
  exact h.table i e' he'

theorem FloodInv.starts (h : s.FloodInv) {node : Node} {target : Nat} {rreq : Rreq}
    (hs : (s.node i).Starts node target rreq) : s.Floods i [.rreq rreq] [] node := by
  refine ⟨hs.address.trans (h.address i), fun key hkey => ?_, fun e he => ?_, fun rreq' hr => ?_,
    .inl rfl⟩
  · rw [hs.handled]
    exact List.mem_cons_of_mem _ hkey
  · rw [hs.handled]
    rcases hs.table e he with heq | ⟨e', he', heq⟩
    · rw [heq]
      exact List.mem_cons_self
    · rw [← heq]
      exact List.mem_cons_of_mem _ (h.table i e' he')
  · cases List.mem_singleton.1 hr
    refine ⟨.inl ⟨hs.initiator.trans (h.address i), ?_⟩, ?_⟩
    · rw [hs.handled]
      exact List.mem_cons_self
    · rw [hs.list.1, hs.list.2]
      rfl

theorem FloodInv.answers (h : s.FloodInv) {rreq : Rreq} {dEventTime : ℚ} {x : Nat}
    (hx : (x, rreq) ∈ s.rreqs) (hok : s.FloodOk (i, .rreq rreq dEventTime))
    (hnew : checkEntryInRREQTable rreq (s.node i).pstruRREQTable = false)
    {r : List Output × Node} (ha : (s.node i).Answers rreq dEventTime r) :
    s.Floods i r.1 (r.1.map (i, ·)) r.2 := by
  obtain ⟨-, hkept, -, hlen⟩ := hok
  have hlength := h.length _ hx
  have htake := Rreq.take_eq hlength hlen
  have hunhandled : rreq.key ∉ (s.node i).handled := fun hmem =>
    Bool.false_ne_true (hnew.symm.trans (hkept hmem))
  have hinit : rreq.initiator ≠ i := fun heq => hunhandled (heq ▸ h.origin _ hx)
  have hkey : ∀ key, some rreq.key = some key →
      key ∉ (s.node i).handled ∧ key ∈ r.2.handled ∧ key.1 ≠ i := by
    rintro key ⟨⟩
    refine ⟨hunhandled, ?_, hinit⟩
    rw [ha.handled]
    exact List.mem_cons_self
  refine ⟨ha.address.trans (h.address i), fun key hmem => ?_, fun e he => ?_, fun rreq' hr => ?_, ?_⟩
  · rw [ha.handled]
    exact List.mem_cons_of_mem _ hmem
  · rw [ha.handled]
    rcases ha.table e he with heq | ⟨e', he', heq⟩
    · rw [heq]
      exact List.mem_cons_self
    · rw [← heq]
      exact List.mem_cons_of_mem _ (h.table i e' he')
  · have hans := ha.answer
    cases hans' : r.1 with
    | nil =>
      rw [hans'] at hr
      cases hr
    | cons o os =>
      rw [hans'] at hr hans
      generalize hoos : o :: os = outputs at hr hans
      cases hans with
      | target rrep => cases List.mem_singleton.1 hr
      | listed => cases hr
      | cached cache =>
        obtain ⟨rrep, -, hcontra⟩ := List.mem_map.1 hr
        cases hcontra
      | forward =>
        cases List.mem_singleton.1 hr
        refine ⟨.inr ⟨(x, rreq), hx, rfl⟩, ?_⟩
        show (rreq.nOptDataLen + 4) % 2 ^ 8 = _
        rw [htake, List.length_append, List.length_singleton, hlength]
        omega
  · have hans := ha.answer
    generalize r.1 = outputs at hans
    cases hans with
    | target rrep htarget hrrep =>
      refine .inr ⟨.rrep rrep, rfl, ?_⟩
      unfold Node.generateRREP at hrrep
      split at hrrep
      · cases hrrep
      · cases hrrep
        exact hkey
    | listed => exact .inl rfl
    | cached cache =>
      cases hrrep : (s.node i).generateRREPUsingRouteCache rreq cache with
      | none => exact .inl rfl
      | some rrep =>
        refine .inr ⟨.rrep rrep, rfl, ?_⟩
        unfold Node.generateRREPUsingRouteCache at hrrep
        dsimp only at hrrep
        split at hrrep
        · split at hrrep
          · cases hrrep
            exact hkey
          · cases hrrep
        · cases hrrep
    | forward => exact .inr ⟨_, rfl, hkey⟩

/-! ## Steps -/

theorem canHappen_rreq {T : Topology} {rreq : Rreq} {dEventTime : ℚ}
    (h : s.canHappen T i (.rreq rreq dEventTime) = true) :
    ∃ x, (x, rreq) ∈ s.rreqs ∧ T.link x i = true := by
  obtain ⟨x, hx, hcond⟩ := List.any_eq_true.1 h
  obtain ⟨heq, hlink⟩ := (Bool.and_eq_true _ _).mp hcond
  exact ⟨x.1, of_decide_eq_true heq ▸ hx, hlink⟩

theorem FloodInv.step {T : Topology} {a : NodeStep} {s' : Net} (h : s.FloodInv)
    (hok : s.FloodOk (i, a)) (hstep : s.step T (i, a) = some s') : s'.FloodInv := by
  obtain ⟨hcan, ⟨-, rfl⟩ | ⟨outputs, node, hr, rfl⟩⟩ := step_cases hstep
  · exact ⟨h.1, h.2, h.3, h.4, h.5, h.6, h.7⟩
  · cases a with
    | send packet dEventTime =>
      have hcases := (s.node i).send_cases packet dEventTime
      rw [Option.some.inj hr] at hcases
      rcases hcases with ⟨hout, hq⟩ | ⟨rreq, hout, hs⟩
      · refine h.floods (h.silent hq.address hq.table hq.handled fun rreq hmem => ?_) _
        dsimp only at hout
        rcases hout with hout | ⟨nextHop, hout⟩
        · rw [hout] at hmem
          cases hmem
        · rw [hout] at hmem
          cases List.mem_singleton.1 hmem
      · subst hout
        exact h.floods (h.starts hs) _
    | timeout event dEventTime =>
      rcases Node.timeout_cases hr with ⟨hout, hq⟩ | ⟨rreq, hout, hs⟩
      · subst hout
        exact h.floods (h.silent hq.address hq.table hq.handled fun _ => List.not_mem_nil) _
      · subst hout
        exact h.floods (h.starts hs) _
    | rrep rrep dEventTime =>
      have hl := (s.node i).processRREP_learns rrep dEventTime
      rw [Option.some.inj hr] at hl
      exact h.floods (h.silent hl.address hl.table hl.handled hl.rreqs) _
    | rreq rreq dEventTime =>
      obtain ⟨x, hx, -⟩ := canHappen_rreq hcan
      rcases Node.processRREQ_cases hr with ⟨-, heq⟩ | ⟨hnew, ha⟩
      · cases heq
        exact h.floods (h.silent rfl (fun e he => ⟨e, he, rfl⟩) rfl fun _ => List.not_mem_nil) _
      · exact h.floods (h.answers hx hok hnew ha) _

theorem FloodInv.exact {T : Topology} {a : NodeStep} (h : s.FloodInv)
    (hcan : s.canHappen T i a = true) (hok : s.FloodOk (i, a)) : s.FloodsExact (i, a) := by
  cases a with
  | rreq rreq dEventTime =>
    obtain ⟨x, hx, -⟩ := canHappen_rreq hcan
    obtain ⟨hsame, -, hvalid, hlen⟩ := hok
    have hlength := h.length _ hx
    have htake := Rreq.take_eq hlength hlen
    refine ⟨fun hdup => ?_, fun hnew htarget hlisted => ?_⟩
    · obtain ⟨e, he, hcond⟩ := List.any_eq_true.1 hdup
      obtain ⟨hid, htarget⟩ := (Bool.and_eq_true _ _).mp hcond
      have hid := of_decide_eq_true hid
      have htarget := of_decide_eq_true htarget
      have hkey : e.key = rreq.key := by
        unfold RreqTable.key Rreq.key
        rw [hsame e he hid htarget, hid, htarget]
      exact hkey ▸ h.table i e he
    · have haddress := h.address i
      show ∃ output node, (s.node i).processRREQ rreq dEventTime = _ ∧ _
      unfold Node.processRREQ
      rw [if_neg (by rw [hnew]; exact Bool.false_ne_true)]
      dsimp only
      rw [haddress, if_neg htarget, if_neg (by rw [Rreq.len_eq hlength hlen]; omega), htake,
        if_neg hlisted]
      split
      · next cache node' heq =>
        have hfound : ((s.node i).checkRouteFound rreq.targetAddress dEventTime).1 = some cache :=
          congrArg Prod.fst heq
        have haddress' : node'.address = i := by
          have hnode' := congrArg Prod.snd heq
          dsimp only [Node.checkRouteFound] at hnode'
          rw [← hnode']
        have hv := hvalid hnew htarget hlisted cache hfound
        obtain ⟨my, de, hpos⟩ := determinePosition_mem rreq.initiator (findCache_some hfound).1 0 none
        unfold Node.generateRREPUsingRouteCache
        rw [htake]
        rw [if_pos hv, hpos]
        exact ⟨_, _, rfl, .inr ⟨_, rfl, haddress', rfl⟩⟩
      · next node' heq =>
        have haddress' : node'.address = i := by
          have hnode' := congrArg Prod.snd heq
          dsimp only [Node.checkRouteFound] at hnode'
          rw [← hnode']
        rw [haddress']
        exact ⟨_, _, rfl, .inl rfl⟩
  | _ => trivial

end

theorem floodInv_start : start.FloodInv :=
  ⟨fun _ => rfl, fun _ => nofun, nofun, nofun, nofun, fun _ _ => Nat.zero_le _, nofun⟩

/-! ## Runs -/

/-- Requests are flooded as they should be in every run whose steps all meet the condition. -/
theorem flooded {T : Topology} {s : Net} {tr : List (Net × (Nat × NodeStep))}
    (run : Run (step T) start tr s) (hok : ∀ x ∈ tr, x.1.FloodOk x.2) :
    s.Flooded ∧ ∀ x ∈ tr, x.1.FloodsExact x.2 := by
  have hinv : s.FloodInv ∧ ∀ x ∈ tr, x.1.FloodsExact x.2 := by
    refine run.induction (P := fun tr s => s.FloodInv ∧ ∀ x ∈ tr, x.1.FloodsExact x.2)
      ⟨floodInv_start, nofun⟩ ?_ hok
    rintro tr s ⟨i, a⟩ s' - ⟨h, htr⟩ ha hstep
    refine ⟨h.step ha hstep, fun x hx => ?_⟩
    rcases List.mem_cons.1 hx with rfl | hx
    · exact h.exact (step_cases hstep).1 ha
    · exact htr x hx
  exact ⟨⟨hinv.1.once, hinv.1.notOwn⟩, hinv.2⟩

def row : Topology where
  link a b := decide (a + 1 = b ∨ b + 1 = a)
  symm a b := by simp [or_comm]
  irrefl a := by simp

/-- The request of node 1 for node 3 comes back to node 1 and reaches node 3. -/
theorem flooded_row : ∃ tr s, Run (step row) start tr s ∧ s.Flooded ∧
    (∀ x ∈ tr, x.1.FloodsExact x.2) ∧ s.answered.length = 2 ∧ tr.length = 5 := by
  have hexec : (exec (step row) start
      [fun _ => some (1, .send ⟨1, 3⟩ 0),
       fun s => s.rreqs.head?.map fun x => (2, .rreq x.2 100),
       fun s => s.rreqs.head?.map fun x => (1, .rreq x.2 200),
       fun s => s.rreqs.head?.map fun x => (3, .rreq x.2 200),
       fun s => s.rreps.head?.map fun x => (2, .rrep x 300)]).any
      (fun x => decide ((∀ y ∈ x.1, y.1.FloodOk y.2) ∧ x.2.answered.length = 2 ∧ x.1.length = 5)) =
        true := by
    decide +kernel
  obtain ⟨tr, s, run, h⟩ := run_of_exec hexec
  obtain ⟨hok, hanswered, hlen⟩ := of_decide_eq_true h
  obtain ⟨hs, hexact⟩ := flooded run hok
  exact ⟨tr, s, run, hs, hexact, hanswered, hlen⟩

/-- A request that would be discarded has not been handled. -/
def discardTest (x : Net × Nat × NodeStep) : Bool :=
  match x.2.2 with
  | .rreq rreq _ => checkEntryInRREQTable rreq (x.1.node x.2.1).pstruRREQTable &&
      decide (rreq.key ∉ (x.1.node x.2.1).handled)
  | _ => false

/-- The nodes 1 and 3 both look for node 5. Node 2 takes the request of node 3 for that of node 1.
-/
theorem not_flooded : ¬ ∀ T tr s, Run (step T) start tr s →
    s.Flooded ∧ ∀ x ∈ tr, x.1.FloodsExact x.2 := by
  have hexec : (exec (step row) start
      [fun _ => some (1, .send ⟨1, 5⟩ 0),
       fun s => s.rreqs.head?.map fun x => (2, .rreq x.2 100),
       fun _ => some (3, .send ⟨1, 5⟩ 200),
       fun s => s.rreqs.head?.map fun x => (2, .rreq x.2 300)]).any
      (fun x => x.1.head?.any discardTest) = true := by
    decide +kernel
  obtain ⟨tr, s, run, h⟩ := run_of_exec hexec
  intro hall
  have hexact := (hall row tr s run).2
  cases tr with
  | nil => cases h
  | cons y tr =>
    obtain ⟨s', i, a⟩ := y
    cases a with
    | rreq rreq dEventTime =>
      obtain ⟨hdup, hnot⟩ := (Bool.and_eq_true _ _).mp h
      exact of_decide_eq_true hnot ((hexact _ List.mem_cons_self).1 hdup)
    | _ => cases h

end Net

end NetSim.Dsr
