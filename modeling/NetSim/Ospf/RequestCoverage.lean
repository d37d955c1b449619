import NetSim.Ospf.LsRequest
import NetSim.Ospf.Recency

/-!
# Which items of a request list are requested

A request takes the items whose number is the one that stands now, which moves with every request:
the items that did not fit stay behind. A number that wraps to `0` marks an item as not requested
yet.
-/

namespace NetSim.Ospf

open NetSim.Lib

/-! ## What a request takes -/

def LsReqItem.taken (seqNum : UInt32) (item : LsReqItem) : LsReqItem :=
  { item with seqNum := seqNum + 1 }

@[simp] theorem LsReqItem.taken_lsHdr (seqNum : UInt32) (item : LsReqItem) :
    (item.taken seqNum).lsHdr = item.lsHdr := rfl

@[simp] theorem LsReqItem.taken_obj (seqNum : UInt32) (item : LsReqItem) :
    (item.taken seqNum).obj = item.obj := rfl

@[simp] theorem LsReqItem.taken_seqNum (seqNum : UInt32) (item : LsReqItem) :
    (item.taken seqNum).seqNum = seqNum + 1 := rfl

variable {seqNum : UInt32} {retx : Bool}

theorem createLSReqObject_append {before : List LsReqItem}
    (hbefore : ∀ item ∈ before, item.isDue seqNum retx = false) {item : LsReqItem}
    (hitem : item.isDue seqNum retx = true) (rest : List LsReqItem) :
    createLSReqObject seqNum retx (before ++ item :: rest) =
      some (item, before ++ item.taken seqNum :: rest) := by
  induction before with
  | nil => simp [createLSReqObject, hitem, LsReqItem.taken]
  | cons b before ih =>
    have hb := hbefore b List.mem_cons_self
    rw [List.cons_append, createLSReqObject, hb,
      ih fun item hmem => hbefore item (List.mem_cons_of_mem b hmem)]
    rfl

theorem createLSReqObject_none {list : List LsReqItem}
    (hlist : ∀ item ∈ list, item.isDue seqNum retx = false) :
    createLSReqObject seqNum retx list = none := by
  induction list with
  | nil => rfl
  | cons item list ih =>
    rw [createLSReqObject, hlist item List.mem_cons_self,
      ih fun item hmem => hlist item (List.mem_cons_of_mem _ hmem)]
    rfl

theorem lsReqObjects_of_due (hnext : retx = true ∨ seqNum + 1 ≠ 0)
    (count : Nat) {before due : List LsReqItem}
    (hbefore : ∀ item ∈ before, item.isDue seqNum retx = false)
    (hdue : ∀ item ∈ due, item.isDue seqNum retx = true) :
    lsReqObjects seqNum retx count (before ++ due) =
      ((due.take count).map LsReqItem.obj,
        before ++ (due.take count).map (LsReqItem.taken seqNum) ++ due.drop count) := by
  induction count generalizing before due with
  | zero => simp [lsReqObjects]
  | succ count ih =>
    cases due with
    | nil => simp [lsReqObjects, createLSReqObject_none hbefore]
    | cons item due =>
      have htaken : (item.taken seqNum).isDue seqNum retx = false := by
        rcases hnext with rfl | hnext <;> simp [LsReqItem.isDue, *]
      have hbefore' : ∀ b ∈ before ++ [item.taken seqNum], b.isDue seqNum retx = false := by
        intro b hb
        rcases List.mem_append.1 hb with hb | hb
        · exact hbefore b hb
        · rw [List.mem_singleton.1 hb, htaken]
      rw [lsReqObjects, createLSReqObject_append hbefore (hdue item List.mem_cons_self),
        List.append_cons]
      simp only [ih hbefore' fun b hb => hdue b (List.mem_cons_of_mem item hb)]
      simp [LsReqItem.obj]

theorem lsReqObjects_of_all_due
    (hnext : retx = true ∨ seqNum + 1 ≠ 0) (count : Nat) {due : List LsReqItem}
    (hdue : ∀ item ∈ due, item.isDue seqNum retx = true) :
    lsReqObjects seqNum retx count due =
      ((due.take count).map LsReqItem.obj,
        (due.take count).map (LsReqItem.taken seqNum) ++ due.drop count) :=
  lsReqObjects_of_due hnext count (List.forall_mem_nil _) hdue

theorem lsReqObjects_of_wrap {item : LsReqItem} (hnext : seqNum + 1 = 0)
    (hitem : item.isDue seqNum false = true) (count : Nat) (rest : List LsReqItem) :
    lsReqObjects seqNum false (count + 1) (item :: rest) =
      (List.replicate (count + 1) item.obj, item.taken seqNum :: rest) := by
  induction count generalizing item with
  | zero => simp [lsReqObjects, createLSReqObject, hitem, LsReqItem.obj, LsReqItem.taken]
  | succ count ih =>
    have htaken : (item.taken seqNum).isDue seqNum false = true := by simp [LsReqItem.isDue, hnext]
    rw [lsReqObjects, createLSReqObject, hitem]
    simp only [if_true]
    rw [← LsReqItem.taken, ih htaken]
    simp [LsReqItem.obj, List.replicate_succ, LsReqItem.taken]

/-- A request takes the whole list: it fits, and where the number wraps around there is no second
item. -/
def Config.TakesAll (cfg : Config) (seqNum : UInt32) (list : List LsReqItem) : Prop :=
  list.length ≤ cfg.maxLSReqObject ∧ (seqNum + 1 = 0 → list.length ≤ 1)
deriving Decidable

theorem lsReqObjects_of_uniform (cfg : Config) {list : List LsReqItem}
    (hlist : ∀ item ∈ list, item.seqNum = seqNum) :
    ∃ objs part rest, list = part ++ rest ∧
      lsReqObjects seqNum false cfg.maxLSReqObject list =
        (objs, part.map (LsReqItem.taken seqNum) ++ rest) ∧
      (∀ item ∈ part, item.obj ∈ objs) ∧ (rest = [] ↔ cfg.TakesAll seqNum list) := by
  have hdue : ∀ item ∈ list, item.isDue seqNum false = true :=
    fun item hitem => by simp [LsReqItem.isDue, hlist item hitem]
  by_cases hnext : seqNum + 1 = 0
  · cases hmax : cfg.maxLSReqObject with
    | zero =>
      refine ⟨[], [], list, rfl, rfl, by simp, ?_⟩
      simp [Config.TakesAll, hmax]
      grind
    | succ count =>
      cases list with
      | nil =>
        exact ⟨[], [], [], rfl, rfl, by simp, by simp [Config.TakesAll]⟩
      | cons item rest =>
        refine ⟨_, [item], rest, rfl, lsReqObjects_of_wrap hnext (hdue item List.mem_cons_self) ..,
          by simp, ?_⟩
        simp [Config.TakesAll, hmax, hnext]
        grind
  · refine ⟨_, list.take cfg.maxLSReqObject, list.drop cfg.maxLSReqObject,
      (List.take_append_drop ..).symm, lsReqObjects_of_all_due (Or.inr hnext) _ hdue, fun item hitem => List.mem_map_of_mem hitem, ?_⟩
    simp [Config.TakesAll, hnext]

/-! ## The start -/

theorem insertToList_fold (lsHdrs : List Lsa) {neigh : Neighbor}
    (hlist : ∀ item ∈ neigh.neighLSReqList, item.seqNum = neigh.LSReqTimerSequenceNumber) :
    (lsHdrs.foldl Neighbor.insertToList neigh).state = neigh.state ∧
      (lsHdrs.foldl Neighbor.insertToList neigh).LSReqTimerSequenceNumber =
        neigh.LSReqTimerSequenceNumber ∧
      ∀ item ∈ (lsHdrs.foldl Neighbor.insertToList neigh).neighLSReqList,
        item.seqNum = neigh.LSReqTimerSequenceNumber := by
  induction lsHdrs generalizing neigh with
  | nil => exact ⟨rfl, rfl, hlist⟩
  | cons lsHdr lsHdrs ih =>
    rw [List.foldl_cons]
    by_cases hfound : (neigh.searchFromList lsHdr).isSome
    · have hkeep : neigh.insertToList lsHdr = neigh := if_pos hfound
      rw [hkeep]
      exact ih hlist
    · have hadd : neigh.insertToList lsHdr =
          { neigh with
            neighLSReqList :=
              neigh.neighLSReqList ++ [⟨neigh.LSReqTimerSequenceNumber, lsHdr.hdrCopy⟩] } :=
        if_neg hfound
      rw [hadd]
      refine ih fun item hitem => ?_
      rcases List.mem_append.1 hitem with hitem | hitem
      · exact hlist item hitem
      · rw [List.mem_singleton.1 hitem]

def Neighbor.filled (neigh : Neighbor) (lsHdrs : List Lsa) : List LsReqItem :=
  (lsHdrs.foldl Neighbor.insertToList
    { neigh with state := .exchange, neighLSReqList := [] }).neighLSReqList

namespace Requesting

variable {cfg : Config} {mem : Requesting → UInt32 → Bool} {s s' : Requesting}

def lastRequest (s : Requesting) : List LsReqObj := s.requests.head?.getD []

structure Asked (cfg : Config) (s : Requesting) : Prop where
  state : s.neigh.state ≠ .exchange
  fits : s.neigh.neighLSReqList.length ≤ cfg.maxLSReqObject
  marked : ∀ item ∈ s.neigh.neighLSReqList, item.seqNum = s.neigh.LSReqTimerSequenceNumber
  requested : ∀ item ∈ s.neigh.neighLSReqList, item.obj ∈ s.lastRequest
  pending : s.neigh.neighLSReqList ≠ [] → s.neigh.LSReqTimerSequenceNumber ∈ s.rxmtTimers

structure LeftOut (s : Requesting) (part rest : List LsReqItem) : Prop where
  state : s.neigh.state = .loading
  list : s.neigh.neighLSReqList = part ++ rest
  nonempty : rest ≠ []
  marked : ∀ item ∈ rest, item.seqNum ≠ s.neigh.LSReqTimerSequenceNumber

theorem start_cases (cfg : Config) (neigh : Neighbor) (rxmtTimers : List UInt32)
    (lsHdrs : List Lsa) :
    (cfg.TakesAll neigh.LSReqTimerSequenceNumber (neigh.filled lsHdrs) ∧
      (start cfg neigh rxmtTimers lsHdrs).Asked cfg) ∨
    (¬cfg.TakesAll neigh.LSReqTimerSequenceNumber (neigh.filled lsHdrs) ∧
      ∃ part rest, (start cfg neigh rxmtTimers lsHdrs).LeftOut part rest) := by
  have hempty : ∀ item ∈ ({ neigh with state := .exchange, neighLSReqList := [] } :
      Neighbor).neighLSReqList, item.seqNum = neigh.LSReqTimerSequenceNumber := by simp
  obtain ⟨hstate, hnumber, hmarked⟩ := insertToList_fold lsHdrs hempty
  rw [start, exchangeDone, Neighbor.filled]
  generalize lsHdrs.foldl Neighbor.insertToList
    { neigh with state := .exchange, neighLSReqList := [] } = filled at hstate hnumber hmarked ⊢
  simp only [hstate, ne_eq, not_true_eq_false, if_false]
  by_cases hlist : filled.neighLSReqList = []
  · left
    refine ⟨by simp [Config.TakesAll, hlist], ?_⟩
    rw [if_pos (by simp [hlist])]
    exact ⟨by simp, by simp [hlist], by simp [hlist], by simp [hlist], by simp [hlist]⟩
  · obtain ⟨objs, part, rest, hparts, hobjs, hcovered, hrest⟩ := lsReqObjects_of_uniform cfg hmarked
    rw [if_neg (by simpa using hlist), lsreqSend]
    rw [hnumber, hobjs, ← hrest]
    by_cases htakes : rest = []
    · subst htakes
      have hpart : part.length = filled.neighLSReqList.length := by rw [hparts, List.append_nil]
      refine Or.inl ⟨rfl, by simp, ?_, by simp, ?_, by simp⟩
      · simpa [hpart] using (hrest.1 rfl).1
      · simpa [lastRequest] using hcovered
    · refine Or.inr ⟨htakes, part.map (LsReqItem.taken _), rest, rfl, rfl, htakes,
        fun item hitem heq => ?_⟩
      have hmark := hmarked item (by rw [hparts]; exact List.mem_append_right part hitem)
      simp [hmark] at heq

/-! ## One step after a request for the whole list -/

structure Floods (neigh neigh' : Neighbor) : Prop where
  number : neigh'.LSReqTimerSequenceNumber = neigh.LSReqTimerSequenceNumber
  list : neigh'.neighLSReqList.Sublist neigh.neighLSReqList
  state : neigh.state ≠ .exchange → neigh'.state ≠ .exchange

theorem addFlooded_keeps (neigh : Neighbor) (lsa : Lsa) (srcAddr : IpPtr) (isLoadingDone : Bool) :
    (neigh.addFlooded lsa srcAddr isLoadingDone).neigh =
      { neigh with
        neighLSRxtList := (neigh.addFlooded lsa srcAddr isLoadingDone).neigh.neighLSRxtList } := by
  rw [Neighbor.addFlooded.eq_def]
  split
  · rfl
  · split <;> rfl

theorem floods_floodStep (cfg : Config) (lsa : Lsa) (srcAddr : IpPtr) (neigh : Neighbor) :
    Floods neigh (neigh.floodStep cfg lsa srcAddr).neigh := by
  have hrefl : Floods neigh neigh := ⟨rfl, .refl _, id⟩
  have hadd : ∀ neigh' isLoadingDone, Floods neigh neigh' →
      Floods neigh (neigh'.addFlooded lsa srcAddr isLoadingDone).neigh := by
    intro neigh' isLoadingDone h
    rw [addFlooded_keeps]
    exact ⟨h.number, h.list, h.state⟩
  rw [Neighbor.floodStep.eq_def]
  split
  · exact hrefl
  split
  · exact hadd _ _ hrefl
  split
  · exact hadd _ _ hrefl
  · next lsHdr _ =>
    dsimp only
    split
    · exact hrefl
    have hremove : Floods neigh (neigh.removeFromReqList lsHdr) := ⟨rfl, List.eraseP_sublist, id⟩
    split
    · have hfull : Floods neigh
          { neigh.removeFromReqList lsHdr with
            LSRxtSeqNum := (neigh.removeFromReqList lsHdr).LSRxtSeqNum + 1, state := .full } :=
        ⟨rfl, List.eraseP_sublist, fun _ => by simp⟩
      split
      · exact hfull
      · exact hadd _ _ hfull
    · exact hadd _ _ hremove

/-- The end of an LS update calls `ospf_lsreq_isRequestedLSAReceived`, which finds `word`. -/
structure Reads (mem : Requesting → UInt32 → Bool) (s : Requesting) (word : UInt32) : Prop where
  state : ¬s.neigh.state.toNat < NeighState.exchange.toNat
  nonempty : s.neigh.neighLSReqList ≠ []
  word : mem s word = true

theorem Asked.flood (h : s.Asked cfg) (lsa : Lsa) (srcAddr : IpPtr) :
    (s.flood cfg lsa srcAddr).Asked cfg := by
  obtain ⟨hnumber, hlist, hstate⟩ := floods_floodStep cfg lsa srcAddr s.neigh
  refine ⟨hstate h.state, Nat.le_trans hlist.length_le h.fits, fun item hitem => ?_, fun item hitem => ?_,
    fun hne => ?_⟩
  · exact (h.marked item (hlist.mem hitem)).trans hnumber.symm
  · exact h.requested item (hlist.mem hitem)
  · have hold : s.neigh.neighLSReqList ≠ [] := fun hnil => hne (List.sublist_nil.1 (hnil ▸ hlist))
    exact hnumber.symm ▸ h.pending hold

theorem Asked.lsreqSend (hstate : s.neigh.state ≠ .exchange)
    (hfits : s.neigh.neighLSReqList.length ≤ cfg.maxLSReqObject)
    (hmarked : ∀ item ∈ s.neigh.neighLSReqList, item.seqNum = s.neigh.LSReqTimerSequenceNumber) :
    (s.lsreqSend cfg true).Asked cfg := by
  have hdue : ∀ item ∈ s.neigh.neighLSReqList,
      item.isDue s.neigh.LSReqTimerSequenceNumber true = true :=
    fun item hitem => by simp [LsReqItem.isDue, hmarked item hitem]
  have hobjs := lsReqObjects_of_all_due (Or.inl rfl) cfg.maxLSReqObject hdue
  rw [List.take_of_length_le hfits, List.drop_eq_nil_of_le hfits, List.append_nil] at hobjs
  rw [Requesting.lsreqSend, hobjs]
  refine ⟨hstate, by simpa using hfits, by simp, ?_, by simp⟩
  simp only [lastRequest, List.head?_cons, Option.getD_some, List.mem_map]
  rintro _ ⟨item, hitem, rfl⟩
  exact ⟨item, hitem, rfl⟩

theorem Asked.rxmtTimer (h : s.Asked cfg) (seqNum : UInt32) :
    ({ s with rxmtTimers := s.rxmtTimers.erase seqNum }.rxmtTimer cfg seqNum).Asked cfg := by
  by_cases hnumber : s.neigh.LSReqTimerSequenceNumber = seqNum
  · by_cases hlist : s.neigh.neighLSReqList = []
    · rw [Requesting.rxmtTimer, if_neg (by simp [hnumber]), if_pos (by simp [hlist])]
      exact ⟨h.state, h.fits, h.marked, h.requested, fun hne => absurd hlist hne⟩
    · obtain ⟨item, rest, hcons⟩ := List.exists_cons_of_ne_nil hlist
      have hany : (s.neigh.neighLSReqList.any fun item => item.seqNum == seqNum) = true := by
        have hitem := h.marked item (by rw [hcons]; exact List.mem_cons_self)
        simp [hcons, hitem, hnumber]
      rw [Requesting.rxmtTimer, if_neg (by simp [hnumber]), if_neg (by simp [hlist]),
        lsreqRetransmit, if_pos hany]
      exact Asked.lsreqSend h.state h.fits h.marked
  · rw [Requesting.rxmtTimer, if_pos hnumber]
    refine ⟨h.state, h.fits, h.marked, h.requested, fun hne => ?_⟩
    exact (List.mem_erase_of_ne hnumber).2 (h.pending hne)

theorem Asked.updateEnd (h : s.Asked cfg) {word : UInt32}
    (hword : s.neigh.neighLSReqList ≠ [] → word = s.neigh.LSReqTimerSequenceNumber) :
    (s.updateEnd cfg word).Asked cfg := by
  rw [Requesting.updateEnd]
  by_cases hlist : s.neigh.neighLSReqList = []
  · rw [if_neg (by simp [hlist]), loadingDone]
    split
    · exact ⟨by simp, h.fits, by simp [hlist], by simp [hlist], by simp [hlist]⟩
    · exact ⟨h.state, h.fits, by simp [hlist], by simp [hlist], by simp [hlist]⟩
  · have hreceived : s.neigh.isRequestedLSAReceived word = false := if_pos (hword hlist)
    rw [if_pos (by simpa using hlist), hreceived, if_neg Bool.false_ne_true]
    exact h

theorem Asked.step (h : s.Asked cfg) {a : Act} (hstep : step cfg mem s a = some s')
    (hword : ∀ word, s.Reads mem word → word = s.neigh.LSReqTimerSequenceNumber) :
    s'.Asked cfg := by
  cases a with
  | exchangeDone =>
    cases hstep
    rw [exchangeDone, if_pos h.state]
    exact h
  | flood lsa srcAddr =>
    cases hstep
    exact h.flood lsa srcAddr
  | updateEnd word =>
    rw [Requesting.step] at hstep
    split at hstep
    · cases hstep
      exact h
    · next hexchange =>
      split at hstep
      · next hmem =>
        cases hstep
        exact h.updateEnd fun hne => hword word ⟨hexchange, hne, hmem⟩
      · cases hstep
  | rxmtTimer seqNum =>
    rw [Requesting.step] at hstep
    split at hstep
    · cases hstep
      exact h.rxmtTimer seqNum
    · cases hstep

theorem floodStep_head (cfg : Config) {neigh : Neighbor} (hstate : neigh.state = .loading)
    {item : LsReqItem} {list : List LsReqItem} (hlist : neigh.neighLSReqList = item :: list)
    (hne : list ≠ []) :
    (neigh.floodStep cfg item.lsHdr none).neigh = { neigh with neighLSReqList := list } := by
  have hfor : item.isFor item.lsHdr = true := by simp [LsReqItem.isFor, Lsa.sameLsa, Lsa.sameId]
  have hfound : neigh.searchFromList item.lsHdr = some item.lsHdr := by
    simp [Neighbor.searchFromList, hlist, hfor]
  have hremove : neigh.removeFromReqList item.lsHdr = { neigh with neighLSReqList := list } := by
    simp [Neighbor.removeFromReqList, hlist, hfor]
  simp [Neighbor.floodStep, hstate, NeighState.toNat, hfound, lsaCompare_self, hremove, hne,
    Neighbor.addFlooded]

variable {s₀ : Requesting} {tr : List (Requesting × Act)}

theorem LeftOut.exists_flooded {part rest : List LsReqItem} (run : Run (step cfg mem) s₀ tr s)
    (h : s.LeftOut part rest) : ∃ tr' s', Run (step cfg mem) s₀ tr' s' ∧ s'.LeftOut [] rest := by
  induction part generalizing tr s with
  | nil => exact ⟨tr, s, run, h⟩
  | cons item part ih =>
    have hne : part ++ rest ≠ [] := by simp [h.nonempty]
    have hflood : (s.flood cfg item.lsHdr none).neigh =
        { s.neigh with neighLSReqList := part ++ rest } := floodStep_head cfg h.state h.list hne
    refine ih (run.snoc (a := .flood item.lsHdr none) rfl) ?_
    exact ⟨by rw [hflood]; exact h.state, by rw [hflood], h.nonempty, by rw [hflood]; exact h.marked⟩

theorem LeftOut.exists_expired {rest : List LsReqItem} (run : Run (step cfg mem) s₀ tr s)
    (h : s.LeftOut [] rest) :
    ∃ tr' s', Run (step cfg mem) s₀ tr' s' ∧ s'.LeftOut [] rest ∧
      s'.neigh.LSReqTimerSequenceNumber ∉ s'.rxmtTimers := by
  generalize hcount : s.rxmtTimers.count s.neigh.LSReqTimerSequenceNumber = count
  induction count generalizing tr s with
  | zero => exact ⟨tr, s, run, h, List.count_eq_zero.1 hcount⟩
  | succ count ih =>
    have hmem : s.neigh.LSReqTimerSequenceNumber ∈ s.rxmtTimers := List.count_pos_iff.1 (by omega)
    have hlist : s.neigh.neighLSReqList = rest := h.list
    have hany : (s.neigh.neighLSReqList.any fun item =>
        item.seqNum == s.neigh.LSReqTimerSequenceNumber) = false := by
      simpa [hlist] using h.marked
    have hstep : step cfg mem s (.rxmtTimer s.neigh.LSReqTimerSequenceNumber) =
        some { s with
          rxmtTimers := s.rxmtTimers.erase s.neigh.LSReqTimerSequenceNumber } := by
      rw [step, if_pos hmem, rxmtTimer, if_neg (by simp), if_neg (by simp [hlist, h.nonempty]),
        lsreqRetransmit, if_neg (by simp [hany])]
    exact ih (run.snoc hstep) ⟨h.state, h.list, h.nonempty, h.marked⟩ (by
      simp [List.count_erase_self, hcount])

/-! ## All items are requested -/

/-- The answer of `ospf_lsreq_isRequestedLSAReceived` is right: no item of the last request is left.
-/
def AnswersRight (s : Requesting) (word : UInt32) : Prop :=
  s.neigh.isRequestedLSAReceived word = true ↔
    ∀ item ∈ s.neigh.neighLSReqList, item.obj ∉ s.lastRequest

instance (s : Requesting) (word : UInt32) : Decidable (s.AnswersRight word) :=
  inferInstanceAs (Decidable (_ ↔ _))

/-- After finitely many requests every item has been in one, the last request is answered rightly,
and a timer is pending while there are items. -/
structure Covers (cfg : Config) (mem : Requesting → UInt32 → Bool) (s₀ : Requesting) : Prop where
  requested : ∃ count, ∀ tr s, Run (step cfg mem) s₀ tr s → count ≤ s.requests.length →
    ∀ item ∈ s.neigh.neighLSReqList, ∃ request ∈ s.requests, item.obj ∈ request
  received : ∀ tr s, Run (step cfg mem) s₀ tr s → ∀ word, s.Reads mem word → s.AnswersRight word
  pending : ∀ tr s, Run (step cfg mem) s₀ tr s → s.neigh.neighLSReqList ≠ [] →
    s.neigh.LSReqTimerSequenceNumber ∈ s.rxmtTimers

theorem Asked.answersRight_iff (h : s.Asked cfg) {word : UInt32} (hread : s.Reads mem word) :
    s.AnswersRight word ↔ word = s.neigh.LSReqTimerSequenceNumber := by
  obtain ⟨item, rest, hcons⟩ := List.exists_cons_of_ne_nil hread.nonempty
  have hitem : item ∈ s.neigh.neighLSReqList := by rw [hcons]; exact List.mem_cons_self
  have hleft : ¬∀ item ∈ s.neigh.neighLSReqList, item.obj ∉ s.lastRequest :=
    fun hall => hall item hitem (h.requested item hitem)
  simp [AnswersRight, Neighbor.isRequestedLSAReceived, hleft]

theorem Asked.run (h : s₀.Asked cfg)
    (hword : ∀ tr s, Run (Requesting.step cfg mem) s₀ tr s → s.Asked cfg → ∀ word,
      s.Reads mem word → word = s.neigh.LSReqTimerSequenceNumber)
    (run : Run (Requesting.step cfg mem) s₀ tr s) : s.Asked cfg := by
  induction run with
  | nil => exact h
  | snoc run hstep ih => exact ih.step hstep (hword _ _ run ih)

/-- The requests cover a list just where the first takes all of it, and the word in memory is always
the number of the head. -/
theorem covers_start_iff (cfg : Config) (mem : Requesting → UInt32 → Bool) (neigh : Neighbor)
    (rxmtTimers : List UInt32) (lsHdrs : List Lsa) :
    Covers cfg mem (start cfg neigh rxmtTimers lsHdrs) ↔
      cfg.TakesAll neigh.LSReqTimerSequenceNumber (neigh.filled lsHdrs) ∧
      ∀ tr s, Run (step cfg mem) (start cfg neigh rxmtTimers lsHdrs) tr s →
        ∀ word, s.Reads mem word → word = s.neigh.LSReqTimerSequenceNumber := by
  rcases start_cases cfg neigh rxmtTimers lsHdrs with ⟨htakes, hasked⟩ | ⟨htakes, part, rest, hleft⟩
  · constructor
    · intro h
      have hright := fun tr s run (hs : Asked cfg s) word hread =>
        (hs.answersRight_iff hread).1 (h.received tr s run word hread)
      exact ⟨htakes, fun tr s run => hright tr s run (hasked.run hright run)⟩
    · rintro ⟨-, hword⟩
      have hinv : ∀ {tr s}, Run (step cfg mem) (start cfg neigh rxmtTimers lsHdrs) tr s →
          s.Asked cfg := fun run => hasked.run (fun tr s run _ => hword tr s run) run
      refine ⟨⟨1, fun tr s run hcount item hitem => ?_⟩, fun tr s run word hread => ?_,
        fun tr s run => (hinv run).pending⟩
      · obtain ⟨request, requests, hrequests⟩ := List.exists_cons_of_length_pos hcount
        have hmem := (hinv run).requested item hitem
        rw [lastRequest, hrequests] at hmem
        exact ⟨request, by rw [hrequests]; exact List.mem_cons_self, hmem⟩
      · exact ((hinv run).answersRight_iff hread).2 (hword tr s run word hread)
  · refine ⟨fun h => ?_, fun h => absurd h.1 htakes⟩
    have hnil : Run (step cfg mem) (start cfg neigh rxmtTimers lsHdrs) []
        (start cfg neigh rxmtTimers lsHdrs) := .nil
    obtain ⟨tr, s, run, hflooded⟩ := hleft.exists_flooded hnil
    obtain ⟨tr, s, run, hexpired, hgone⟩ := hflooded.exists_expired run
    exact absurd (h.pending tr s run (by simp [hexpired.list, hexpired.nonempty])) hgone

/-! ## A list of two requests -/

def manyHdrs : List Lsa :=
  (List.range 122).map fun id =>
    { LSAge := 0, Options := 0, LSType := .router, LinkStateID := ⟨id, id⟩,
      AdvertisingRouter := ⟨id, id⟩, LSSequenceNumber := initialSequenceNumber, length := 20,
      lsaInfo := none, time := 0 }

def rightWord (s : Requesting) (word : UInt32) : Bool := decide (s.AnswersRight word)

def manyActs : List (Requesting → Option Act) :=
  List.replicate 121 (fun s =>
    s.neigh.neighLSReqList.head?.map fun item => .flood item.lsHdr (some ⟨20, 20⟩)) ++
  [fun _ => some (.updateEnd 0), fun s => some (.rxmtTimer s.neigh.LSReqTimerSequenceNumber)]

def manyStart : Requesting :=
  start exampleConfig { exampleNeighbor with LSReqTimerSequenceNumber := 1 } [] manyHdrs

def isStuck (r : List (Requesting × Act) × Requesting) : Bool :=
  !r.2.neigh.neighLSReqList.isEmpty &&
    !r.2.rxmtTimers.contains r.2.neigh.LSReqTimerSequenceNumber

/-- One LSA is left, and no timer for it. -/
theorem not_covers_many : ¬Covers exampleConfig rightWord manyStart := by
  intro h
  have hstuck : (exec (step exampleConfig rightWord) manyStart manyActs).any isStuck = true := by
    decide +kernel
  obtain ⟨tr, s, run, htest⟩ := run_of_exec hstuck
  simp only [isStuck, Bool.and_eq_true, Bool.not_eq_true', List.isEmpty_eq_false_iff] at htest
  exact absurd (h.pending tr s run htest.1) (by simpa using htest.2)

end Requesting

end NetSim.Ospf
