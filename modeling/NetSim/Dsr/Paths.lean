import NetSim.Dsr.Flooding

/-!
# Replies and routes are paths

Replies and cached routes are simple paths, as long as a node recognises the copies of its own
requests and no cached route passes the initiator on the way to the target.
-/

namespace NetSim.Dsr

open NetSim.Lib Function

structure IsPath (T : Topology) (l : List Nat) : Prop where
  nodup : l.Nodup
  links : l.IsChain fun a b => T.link a b = true

namespace IsPath

variable {T : Topology} {l l₁ l₂ : List Nat}

theorem take (h : IsPath T l) (n : Nat) : IsPath T (l.take n) :=
  ⟨h.nodup.sublist (List.take_sublist n l), h.links.take n⟩

theorem suffix (h : IsPath T l) (h' : l₁ <:+ l) : IsPath T l₁ :=
  ⟨h.nodup.sublist h'.sublist, h.links.suffix h'⟩

theorem append (h1 : IsPath T l₁) (h2 : IsPath T l₂) (hdisjoint : ∀ a ∈ l₁, a ∉ l₂)
    (hlink : ∀ a ∈ l₁.getLast?, ∀ b ∈ l₂.head?, T.link a b = true) : IsPath T (l₁ ++ l₂) := by
  refine ⟨List.nodup_append.2 ⟨h1.nodup, h2.nodup, ?_⟩,
    List.isChain_append.2 ⟨h1.links, h2.links, hlink⟩⟩
  rintro a ha b hb rfl
  exact hdisjoint a ha hb

theorem singleton (a : Nat) : IsPath T [a] := ⟨List.nodup_singleton a, List.isChain_singleton a⟩

end IsPath

/-- A route request that node `x` puts out: a path from the initiator to `x` that the target is not
on. -/
structure RreqPath (T : Topology) (x : Nat) (rreq : Rreq) : Prop where
  path : IsPath T (rreq.initiator :: rreq.address)
  last : (rreq.initiator :: rreq.address).getLast? = some x
  target : rreq.targetAddress ∉ rreq.initiator :: rreq.address
  length : rreq.nOptDataLen = (6 + 4 * rreq.address.length) % 2 ^ 8

/-- A route reply: a path from the initiator to the target of the request by the node that replies,
and by the receiver. -/
structure RrepPath (T : Topology) (rrep : Rrep) : Prop where
  length : rrep.len.toNat = rrep.address.length
  path : IsPath T rrep.address
  head : rrep.address.head? = some rrep.request.1
  last : rrep.address.getLast? = some rrep.request.2.2
  replier : rrep.replier ∈ rrep.address
  receiver : rrep.nReceiverId ∈ rrep.address

/-- A route of node `i`. -/
structure CachePath (T : Topology) (i : Nat) (cache : RouteCache) : Prop where
  path : IsPath T cache.address
  head : cache.address.head? = some i

namespace Net

/-- What holds of the network in every state. -/
structure RealPaths (T : Topology) (s : Net) : Prop where
  rrep : ∀ rrep ∈ s.rreps, ∀ l, rrep.address.take rrep.len.toNat = l →
    IsPath T l ∧ l.head? = some rrep.request.1 ∧ l.getLast? = some rrep.request.2.2 ∧ rrep.replier ∈ l
  cache : ∀ i, ∀ cache ∈ (s.node i).pstruRouteCache,
    IsPath T cache.address ∧ cache.address ≠ [] ∧ cache.address.head? = some i
  nextHop : ∀ i dest dTime cache, dest ≠ i →
    ((s.node i).checkRouteFound dest dTime).1 = some cache →
      ∃ nextHop rest, cache.address = i :: nextHop :: rest ∧ cache.address[1]? = some nextHop ∧
        T.link i nextHop = true ∧ dest ∈ nextHop :: rest

/-- The condition on a step from `s`. -/
def PathOk (s : Net) (x : Nat × NodeStep) : Prop :=
  match x.2 with
  | .rreq rreq dEventTime =>
    -- the entry of an own request is still in the table
    (rreq.initiator = x.1 → checkEntryInRREQTable rreq (s.node x.1).pstruRREQTable = true) ∧
    -- a route that is replied does not pass the initiator, and the reply has at most 64 addresses
    (checkEntryInRREQTable rreq (s.node x.1).pstruRREQTable = false →
      rreq.targetAddress ≠ x.1 → x.1 ∉ rreq.address →
      ∀ cache ∈ ((s.node x.1).checkRouteFound rreq.targetAddress dEventTime).1,
        validateRouteCache cache rreq.address = true →
          rreq.initiator ∉ cache.address.takeWhile (· ≠ rreq.targetAddress) ∧
            rreq.address.length +
              (cache.address.takeWhile (· ≠ rreq.targetAddress)).length + 2 ≤ 64) ∧
    rreq.address.length ≤ 62
  | _ => True

instance (s : Net) : (x : Nat × NodeStep) → Decidable (s.PathOk x)
  | (_, .rreq ..) => inferInstanceAs (Decidable (_ ∧ _ ∧ _))
  | (_, .send ..) | (_, .rrep ..) | (_, .timeout ..) => inferInstanceAs (Decidable True)

end Net

/-! ## Replies -/

section

variable {T : Topology}

theorem getD_mem_of_lt {l : List Nat} {n : Nat} (h : n < l.length) : l.getD n 0 ∈ l := by
  rw [List.getD_eq_getElem?_getD, List.getElem?_eq_getElem h, Option.getD_some]
  exact List.getElem_mem h

variable {rreq : Rreq}

theorem makeRREP_len {node : Node} {nReceiverId : Nat} {address : List Nat}
    (hpos : 0 < address.length) (hle : address.length ≤ 64) :
    (node.makeRREP rreq nReceiverId address).len.toNat = address.length := by
  have hval : ((address.length - 1) * 4 + 3) % 2 ^ 8 = (address.length - 1) * 4 + 3 := by omega
  show (Int.tdiv ((((address.length - 1) * 4 + 3) % 2 ^ 8 : Nat) - 3) 4 + 1).toNat = _
  rw [hval, show (((address.length - 1) * 4 + 3 : Nat) : Int) - 3 = 4 * ((address.length - 1 : Nat) : Int)
    by omega, Int.mul_tdiv_cancel_left _ (by decide)]
  omega

theorem RreqPath.extend {x : Nat} (h : RreqPath T x rreq) {l : List Nat}
    (hl : IsPath T l) (hdisjoint : ∀ a ∈ rreq.initiator :: rreq.address, a ∉ l)
    (hlink : ∀ b ∈ l.head?, T.link x b = true) :
    IsPath T (rreq.initiator :: rreq.address ++ l) := by
  refine h.path.append hl hdisjoint fun a ha b hb => ?_
  rw [h.last, Option.mem_some_iff] at ha
  exact ha ▸ hlink b hb

theorem determinePosition_append {myIP dest : Nat} {pre suf : List Nat} (hmy : myIP ∉ pre)
    (hdest : dest ∉ pre) (hne : dest ≠ myIP) (i : Nat) (my : Option Nat) :
    determinePosition myIP dest i my (pre ++ dest :: suf) = (my, some (i + pre.length + 1)) := by
  induction pre generalizing i with
  | nil =>
    rw [List.nil_append, determinePosition]
    simp [hne]
  | cons a pre ih =>
    rw [List.mem_cons, not_or] at hmy hdest
    rw [List.cons_append, determinePosition, if_neg (Ne.symm hmy.1), if_neg (Ne.symm hdest.1), ih hmy.2 hdest.2]
    simp only [List.length_cons, Prod.mk.injEq, Option.some.injEq, true_and]
    omega

theorem generateRREP_path {node : Node} {x : Nat} (h : RreqPath T x rreq)
    (hlink : T.link x node.address = true) (htarget : rreq.targetAddress = node.address)
    (hlen : rreq.address.length ≤ 62) {rrep : Rrep} (hr : node.generateRREP rreq = some rrep) :
    RrepPath T rrep := by
  unfold Node.generateRREP at hr
  split at hr
  · cases hr
  · rw [Rreq.take_eq h.length hlen] at hr
    cases hr
    refine ⟨?_, ?_, rfl, ?_, ?_, ?_⟩
    · refine makeRREP_len ?_ ?_
      · simp
      · simp
        omega
    · refine h.extend (.singleton node.address) (fun a ha hmem => ?_) fun b hb => ?_
      · rw [List.mem_singleton] at hmem
        exact h.target (htarget ▸ hmem ▸ ha)
      · cases hb
        exact hlink
    · show (rreq.initiator :: rreq.address ++ [node.address]).getLast? = some rreq.targetAddress
      rw [List.getLast?_append, htarget]
      rfl
    · exact List.mem_append_right _ (List.mem_singleton_self _)
    · refine getD_mem_of_lt (l := rreq.initiator :: rreq.address ++ [node.address]) ?_
      rw [List.length_append, List.length_cons, List.length_singleton]
      omega

theorem generateRREPUsingRouteCache_path {node : Node} {x : Nat}
    (h : RreqPath T x rreq) (hlink : T.link x node.address = true)
    (hlen : rreq.address.length ≤ 62) {cache : RouteCache} (hc : CachePath T node.address cache)
    (hmem : rreq.targetAddress ∈ cache.address)
    (hok : validateRouteCache cache rreq.address = true →
      rreq.initiator ∉ cache.address.takeWhile (· ≠ rreq.targetAddress) ∧
        rreq.address.length + (cache.address.takeWhile (· ≠ rreq.targetAddress)).length + 2 ≤ 64)
    {rrep : Rrep} (hr : node.generateRREPUsingRouteCache rreq cache = some rrep) :
    RrepPath T rrep := by
  unfold Node.generateRREPUsingRouteCache at hr
  rw [Rreq.take_eq h.length hlen] at hr
  dsimp only at hr
  split at hr
  · next hvalid =>
    obtain ⟨pre, suf, hcache, hpre⟩ := List.eq_append_cons_of_mem hmem
    have htake : cache.address.takeWhile (· ≠ rreq.targetAddress) = pre := by
      rw [hcache, List.takeWhile_append_of_pos]
      · simp
      · intro a ha
        exact decide_eq_true fun heq => hpre (heq ▸ ha)
    rw [htake] at hok
    obtain ⟨hinit, hsize⟩ := hok hvalid
    have hti : rreq.targetAddress ≠ rreq.initiator := fun heq =>
      h.target (heq ▸ List.mem_cons_self)
    rw [hcache, determinePosition_append hinit hpre hti] at hr
    dsimp only at hr
    have hsplice : ((pre ++ rreq.targetAddress :: suf).take (0 + pre.length + 1)).drop
        ((none : Option Nat).getD 0) = pre ++ [rreq.targetAddress] := by
      rw [Option.getD_none, List.drop_zero, Nat.zero_add, List.take_length_add_append]
      rfl
    rw [hsplice] at hr
    cases hr
    -- the part of the route up to the target starts at the node
    have hhead : (pre ++ [rreq.targetAddress]).head? = some node.address := by
      have hhead := hc.head
      rw [hcache] at hhead
      cases pre with
      | nil => exact hhead
      | cons a pre => exact hhead
    have hnode : node.address ∈ pre ++ [rreq.targetAddress] := List.mem_of_head? hhead
    have hroute : IsPath T (pre ++ [rreq.targetAddress]) := by
      have h := hc.path.take (pre.length + 1)
      rw [hcache, List.take_length_add_append] at h
      exact h
    refine ⟨?_, ?_, rfl, ?_, ?_, ?_⟩
    · refine makeRREP_len ?_ ?_
      · simp
      · simp only [List.cons_append, List.length_cons, List.length_append, List.length_nil]
        omega
    · refine h.extend hroute (fun a ha hmem => ?_) fun b hb => ?_
      · rcases List.mem_append.1 hmem with hmem | hmem
        · rcases List.mem_cons.1 ha with rfl | ha
          · exact hinit hmem
          · have hval := List.all_eq_true.1 hvalid a (hcache ▸ List.mem_append_left _ hmem)
            rw [List.contains_iff_mem.2 ha] at hval
            exact Bool.false_ne_true hval
        · rw [List.mem_singleton] at hmem
          exact h.target (hmem ▸ ha)
      · rw [hhead] at hb
        cases hb
        exact hlink
    · show (rreq.initiator :: rreq.address ++ (pre ++ [rreq.targetAddress])).getLast? = _
      rw [← List.append_assoc, List.getLast?_append]
      rfl
    · exact List.mem_append_right _ hnode
    · refine List.mem_append_left _ ?_
      rw [List.getLastD_cons]
      exact List.getLastD_mem_cons
  · cases hr

end

namespace Net

/-! ## The invariant -/

structure PathInv (T : Topology) (s : Net) : Prop where
  address : ∀ i, (s.node i).address = i
  rreq : ∀ x ∈ s.rreqs, RreqPath T x.1 x.2
  rrep : ∀ rrep ∈ s.rreps, RrepPath T rrep
  cache : ∀ i, ∀ cache ∈ (s.node i).pstruRouteCache, CachePath T i cache
  event : ∀ i, ∀ event ∈ (s.node i).events, event.target ≠ i

structure KeepsPaths (T : Topology) (i : Nat) (outputs : List Output) (node : Node) : Prop where
  address : node.address = i
  rreq : ∀ rreq, .rreq rreq ∈ outputs → RreqPath T i rreq
  rrep : ∀ rrep, .rrep rrep ∈ outputs → RrepPath T rrep
  cache : ∀ cache ∈ node.pstruRouteCache, CachePath T i cache
  event : ∀ event ∈ node.events, event.target ≠ i

section

variable {T : Topology} {s : Net} {i : Nat}

variable {node : Node}

theorem PathInv.keeps (h : PathInv T s) {outputs : List Output}
    (hk : KeepsPaths T i outputs node) (answered : List (Nat × Output)) :
    PathInv T { s with
      node := update s.node i node
      rreqs := rreqsOf i outputs ++ s.rreqs
      rreps := rrepsOf outputs ++ s.rreps
      answered := answered } := by
  refine ⟨fun j => ?_, fun x hx => ?_, fun rrep hrrep => ?_, fun j c hc => ?_, fun j e he => ?_⟩
  all_goals dsimp only at *
  · by_cases hj : j = i
    · subst hj
      rw [update_self]
      exact hk.address
    · rw [update_of_ne hj]
      exact h.address j
  · rcases List.mem_append.1 hx with hx | hx
    · obtain ⟨hi, hx⟩ := mem_rreqsOf.1 hx
      rw [hi]
      exact hk.rreq _ hx
    · exact h.rreq x hx
  · rcases List.mem_append.1 hrrep with hrrep | hrrep
    · exact hk.rrep _ (mem_rrepsOf.1 hrrep)
    · exact h.rrep rrep hrrep
  · by_cases hj : j = i
    · subst hj
      rw [update_self] at hc
      exact hk.cache c hc
    · rw [update_of_ne hj] at hc
      exact h.cache j c hc
  · by_cases hj : j = i
    · subst hj
      rw [update_self] at he
      exact hk.event e he
    · rw [update_of_ne hj] at he
      exact h.event j e he

theorem PathInv.keepsCache (h : PathInv T s)
    (hc : ∀ c ∈ node.pstruRouteCache, ∃ c' ∈ (s.node i).pstruRouteCache, c'.address = c.address) :
    ∀ cache ∈ node.pstruRouteCache, CachePath T i cache := by
  intro c hmem
  obtain ⟨c', hc', heq⟩ := hc c hmem
  exact ⟨heq ▸ (h.cache i c' hc').path, heq ▸ (h.cache i c' hc').head⟩

theorem PathInv.quiet (h : PathInv T s) (hq : (s.node i).Quiet node)
    {outputs : List Output} (hrreq : ∀ rreq, .rreq rreq ∉ outputs)
    (hrrep : ∀ rrep, .rrep rrep ∉ outputs) : KeepsPaths T i outputs node :=
  ⟨hq.address.trans (h.address i), fun r hr => absurd hr (hrreq r), fun r hr => absurd hr (hrrep r),
    h.keepsCache hq.cache, fun e he => h.event i e (hq.events e he)⟩

theorem PathInv.starts (h : PathInv T s) {target : Nat} {rreq : Rreq}
    (hs : (s.node i).Starts node target rreq) (hne : target ≠ i) :
    KeepsPaths T i [.rreq rreq] node := by
  have hinit : rreq.initiator = i := hs.initiator.trans (h.address i)
  refine ⟨hs.address.trans (h.address i), fun r hr => ?_, fun r hr => ?_, h.keepsCache hs.cache,
    fun e he => ?_⟩
  · cases List.mem_singleton.1 hr
    refine ⟨?_, ?_, ?_, ?_⟩
    · rw [hs.list.1]
      exact .singleton _
    · rw [hs.list.1, hinit]
      rfl
    · rw [hs.list.1, hinit, hs.targetAddress, List.mem_singleton]
      exact hne
    · rw [hs.list.1, hs.list.2]
      rfl
  · cases List.mem_singleton.1 hr
  · rcases hs.events e he with he | he
    · exact h.event i e he
    · exact he.symm ▸ hne

theorem PathInv.learns (h : PathInv T s) {rrep : Rrep} {dEventTime : ℚ} (hr : RrepPath T rrep)
    (hreceiver : rrep.nReceiverId = i) {r : List Output × Node}
    (hl : (s.node i).Learns rrep dEventTime r) : KeepsPaths T i r.1 r.2 := by
  have htake : rrep.address.take rrep.len.toNat = rrep.address := by
    rw [hr.length, List.take_length]
  refine ⟨hl.address.trans (h.address i), fun rreq hmem => absurd hmem (hl.rreqs rreq),
    fun rrep' hmem => ?_, fun c hc => ?_, fun e he => h.event i e (hl.events e he)⟩
  · obtain ⟨n, hn, rfl⟩ := hl.rreps rrep' hmem
    rw [htake] at hn ⊢
    have hlt : n < rrep.address.length := by
      obtain ⟨hlt, -⟩ := List.findIdx?_eq_some_iff_getElem.1 hn
      exact hlt
    exact ⟨hr.length, hr.path, hr.head, hr.last, hr.replier,
      getD_mem_of_lt (l := rrep.address) (by omega)⟩
  · rw [hl.cache] at hc
    rcases List.mem_append.1 hc with hc | hc
    · exact h.cache i c hc
    · rw [List.mem_singleton.1 hc]
      rw [htake, h.address i]
      refine ⟨hr.path.suffix (List.dropWhile_suffix _), ?_⟩
      obtain ⟨pre, suf, heq, hpre⟩ := List.eq_append_cons_of_mem (hreceiver ▸ hr.receiver)
      rw [heq, List.dropWhile_append_of_pos]
      · simp
      · intro a ha
        exact decide_eq_true fun hai => hpre (hai ▸ ha)

theorem PathInv.answers (h : PathInv T s) {rreq : Rreq} {dEventTime : ℚ} {x : Nat}
    (hx : (x, rreq) ∈ s.rreqs) (hlink : T.link x i = true)
    (hok : s.PathOk (i, .rreq rreq dEventTime))
    (hnew : checkEntryInRREQTable rreq (s.node i).pstruRREQTable = false)
    {r : List Output × Node} (ha : (s.node i).Answers rreq dEventTime r) :
    KeepsPaths T i r.1 r.2 := by
  obtain ⟨hown, hroute, hlen⟩ := hok
  have hpath := h.rreq _ hx
  have htake := Rreq.take_eq hpath.length hlen
  have haddress := h.address i
  have hinit : rreq.initiator ≠ i := fun heq =>
    Bool.false_ne_true (hnew.symm.trans (hown heq))
  have hlink' : T.link x (s.node i).address = true := haddress.symm ▸ hlink
  refine ⟨ha.address.trans haddress, fun rreq' hmem => ?_, fun rrep hmem => ?_,
    h.keepsCache ha.cache, fun e he => h.event i e (ha.events e he)⟩
  · have hans := ha.answer
    generalize r.1 = outputs at hmem hans
    cases hans with
    | target rrep => cases List.mem_singleton.1 hmem
    | listed => cases hmem
    | cached cache =>
      obtain ⟨rrep, -, hcontra⟩ := List.mem_map.1 hmem
      cases hcontra
    | forward htarget hlisted =>
      cases List.mem_singleton.1 hmem
      rw [haddress, htake] at hlisted
      rw [haddress] at htarget
      have hnot : ∀ a ∈ rreq.initiator :: rreq.address, a ∉ [i] := by
        intro b hb hmem
        rw [List.mem_singleton.1 hmem] at hb
        rcases List.mem_cons.1 hb with heq | hb
        · exact hinit heq.symm
        · exact hlisted hb
      rw [htake, haddress]
      refine ⟨hpath.extend (.singleton i) hnot fun b hb => ?_, ?_, fun hmem => ?_, ?_⟩
      · cases hb
        exact hlink
      · show (rreq.initiator :: rreq.address ++ [i]).getLast? = some i
        rw [List.getLast?_append]
        rfl
      · rcases List.mem_append.1 (show rreq.targetAddress ∈ rreq.initiator :: rreq.address ++ [i] from
          hmem) with hmem | hmem
        · exact hpath.target hmem
        · exact htarget (List.mem_singleton.1 hmem)
      · show (rreq.nOptDataLen + 4) % 2 ^ 8 = _
        rw [List.length_append, List.length_singleton, hpath.length]
        omega
  · have hans := ha.answer
    generalize r.1 = outputs at hmem hans
    cases hans with
    | target rrep' htarget hrrep =>
      cases List.mem_singleton.1 hmem
      exact generateRREP_path hpath hlink' htarget hlen hrrep
    | listed => cases hmem
    | cached cache htarget hlisted hcache =>
      rw [haddress, htake] at hlisted
      rw [haddress] at htarget
      obtain ⟨rrep', hrrep, heq⟩ := List.mem_map.1 hmem
      cases heq
      obtain ⟨hfound, c', hc', heq⟩ := findCache_some hcache
      have hc : CachePath T (s.node i).address cache := by
        rw [haddress]
        exact ⟨heq ▸ (h.cache i c' hc').path, heq ▸ (h.cache i c' hc').head⟩
      exact generateRREPUsingRouteCache_path hpath hlink' hlen hc hfound
        (hroute hnew htarget hlisted cache hcache) (Option.mem_toList.1 hrrep)
    | forward => cases List.mem_singleton.1 hmem

theorem PathInv.step {a : NodeStep} {s' : Net} (h : PathInv T s) (hok : s.PathOk (i, a))
    (hstep : s.step T (i, a) = some s') : PathInv T s' := by
  obtain ⟨hcan, ⟨-, rfl⟩ | ⟨outputs, node, hr, rfl⟩⟩ := step_cases hstep
  · exact ⟨h.1, h.2, h.3, h.4, h.5⟩
  · cases a with
    | send packet dEventTime =>
      have hcases := (s.node i).send_cases packet dEventTime
      rw [Option.some.inj hr] at hcases
      rcases hcases with ⟨hout, hq⟩ | ⟨rreq, hout, hs⟩
      · dsimp only at hout
        have hnone : ∀ o ∈ outputs, ∃ nextHop, o = .data packet nextHop := by
          intro o ho
          rcases hout with hout | ⟨nextHop, hout⟩
          · rw [hout] at ho
            cases ho
          · rw [hout] at ho
            exact ⟨nextHop, List.mem_singleton.1 ho⟩
        refine h.keeps (h.quiet hq (fun rreq hmem => ?_) fun rrep hmem => ?_) _
        · obtain ⟨nextHop, heq⟩ := hnone _ hmem
          cases heq
        · obtain ⟨nextHop, heq⟩ := hnone _ hmem
          cases heq
      · subst hout
        exact h.keeps (h.starts hs (of_decide_eq_true hcan)) _
    | timeout event dEventTime =>
      have hevent : event ∈ (s.node i).events := of_decide_eq_true hcan
      rcases Node.timeout_cases hr with ⟨hout, hq⟩ | ⟨rreq, hout, hs⟩
      · subst hout
        exact h.keeps (h.quiet hq (fun _ => List.not_mem_nil) fun _ => List.not_mem_nil) _
      · subst hout
        exact h.keeps (h.starts hs (h.event i event hevent)) _
    | rrep rrep dEventTime =>
      obtain ⟨hrrep, hreceiver⟩ := (Bool.and_eq_true _ _).mp hcan
      have hl := (s.node i).processRREP_learns rrep dEventTime
      rw [Option.some.inj hr] at hl
      exact h.keeps (h.learns (h.rrep rrep (of_decide_eq_true hrrep)) (of_decide_eq_true hreceiver) hl) _
    | rreq rreq dEventTime =>
      obtain ⟨x, hx, hlink⟩ := canHappen_rreq hcan
      rcases Node.processRREQ_cases hr with ⟨-, heq⟩ | ⟨hnew, ha⟩
      · cases heq
        exact h.keeps (h.quiet (.refl _) (fun _ => List.not_mem_nil) fun _ => List.not_mem_nil) _
      · exact h.keeps (h.answers hx hlink hok hnew ha) _

theorem PathInv.toRealPaths (h : PathInv T s) : RealPaths T s := by
  refine ⟨fun rrep hrrep l hl => ?_, fun i c hc => ?_, fun i dest dTime c hne hfound => ?_⟩
  · have hr := h.rrep rrep hrrep
    rw [hr.length, List.take_length] at hl
    subst hl
    exact ⟨hr.path, hr.head, hr.last, hr.replier⟩
  · have hc := h.cache i c hc
    refine ⟨hc.path, fun hnil => ?_, hc.head⟩
    have hhead := hc.head
    rw [hnil] at hhead
    cases hhead
  · obtain ⟨hmem, c', hc', heq⟩ := findCache_some hfound
    have hpath := (h.cache i c' hc').path
    have hhead := (h.cache i c' hc').head
    rw [heq] at hpath hhead
    revert hmem hpath hhead hne
    cases c.address with
    | nil =>
      intro _ hmem
      cases hmem
    | cons a l =>
      intro hne hmem hpath hhead
      cases hhead
      have hmem := (List.mem_cons.1 hmem).resolve_left hne
      cases l with
      | nil => cases hmem
      | cons b rest =>
        exact ⟨b, rest, rfl, rfl, (List.isChain_cons_cons.1 hpath.links).1, hmem⟩

end

theorem pathInv_start (T : Topology) : PathInv T start :=
  ⟨fun _ => rfl, nofun, nofun, fun _ => nofun, fun _ => nofun⟩

/-! ## Runs -/

/-- Replies and routes are paths in every run whose steps all meet the condition. -/
theorem realPaths {T : Topology} {s : Net} {tr : List (Net × (Nat × NodeStep))}
    (run : Run (step T) start tr s) (hok : ∀ x ∈ tr, x.1.PathOk x.2) : RealPaths T s := by
  refine (run.induction (P := fun _ s => PathInv T s) (pathInv_start T) ?_ hok).toRealPaths
  rintro tr s ⟨i, a⟩ s' - h ha hstep
  exact h.step ha hstep

/-- Node 3 answers the request of node 1 for node 4 from its cache. -/
theorem realPaths_row : ∃ tr s, Run (step row) start tr s ∧ RealPaths row s ∧
    (s.rreps.map Rrep.address).head? = some [1, 2, 3, 4] ∧ tr.length = 7 := by
  have hexec : (exec (step row) start
      [fun _ => some (3, .send ⟨1, 4⟩ 0),
       fun s => s.rreqs.head?.map fun x => (4, .rreq x.2 100),
       fun s => s.rreps.head?.map fun x => (3, .rrep x 200),
       fun _ => some (1, .send ⟨1, 9⟩ 300),
       fun _ => some (1, .send ⟨2, 4⟩ 400),
       fun s => s.rreqs.head?.map fun x => (2, .rreq x.2 500),
       fun s => s.rreqs.head?.map fun x => (3, .rreq x.2 600)]).any
      (fun x => decide ((∀ y ∈ x.1, y.1.PathOk y.2) ∧
        (x.2.rreps.map Rrep.address).head? = some [1, 2, 3, 4] ∧ x.1.length = 7)) = true := by
    decide +kernel
  obtain ⟨tr, s, run, h⟩ := run_of_exec hexec
  obtain ⟨hok, hreply, hlen⟩ := of_decide_eq_true h
  exact ⟨tr, s, run, realPaths run hok, hreply, hlen⟩

def ring : Topology where
  link a b := [(1, 2), (2, 3), (3, 4), (3, 5), (5, 1)].any fun x => x = (a, b) || x = (b, a)
  symm a b := by simp only [Bool.or_comm]
  irrefl a := by simp; omega

/-- Node 1 has the route 1-2-3-4, and answers a request of node 3 by node 5: the reply leaves out
what comes before node 3, and links node 5 to node 4. -/
theorem not_realPaths : ¬ ∀ T tr s, Run (step T) start tr s → RealPaths T s := by
  have hexec : (exec (step ring) start
      [fun _ => some (1, .send ⟨1, 4⟩ 0),
       fun s => s.rreqs.head?.map fun x => (2, .rreq x.2 100),
       fun s => s.rreqs.head?.map fun x => (3, .rreq x.2 200),
       fun s => s.rreqs.head?.map fun x => (4, .rreq x.2 300),
       fun s => s.rreps.head?.map fun x => (3, .rrep x 400),
       fun s => s.rreps.head?.map fun x => (2, .rrep x 500),
       fun s => s.rreps.head?.map fun x => (1, .rrep x 600),
       fun _ => some (1, .send ⟨2, 4⟩ 200000000),
       fun _ => some (3, .send ⟨1, 9⟩ 310000000),
       fun _ => some (3, .send ⟨2, 4⟩ 310000000),
       fun s => s.rreqs.head?.map fun x => (5, .rreq x.2 310000100),
       fun s => s.rreqs.head?.map fun x => (1, .rreq x.2 310000200)]).any
      (fun x => decide (∃ rrep ∈ x.2.rreps, rrep.address = [3, 5, 4] ∧ rrep.len.toNat = 3)) = true := by
    decide +kernel
  obtain ⟨tr, s, run, h⟩ := run_of_exec hexec
  obtain ⟨rrep, hmem, haddress, hlen⟩ := of_decide_eq_true h
  intro hall
  have hpath := ((hall ring tr s run).rrep rrep hmem _ rfl).1
  rw [haddress, hlen] at hpath
  have hlink := (List.isChain_cons_cons.1 (List.isChain_cons_cons.1 hpath.links).2).1
  exact absurd hlink (by decide)

end Net

end NetSim.Dsr
