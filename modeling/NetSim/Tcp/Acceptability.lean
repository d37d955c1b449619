import NetSim.Tcp.Incoming
import NetSim.Lib.CyclicWindow

/-!
# The acceptability test (`TCP_Incoming.c`)

`Validate_segment` compares `UINT32` values where RFC 793 means positions in the cyclic sequence
space: they differ for a receive window that runs over its end.
-/

namespace NetSim.Tcp

open NetSim.Lib

theorem sub32_eq_cyclicDist (n a : Nat) : sub32 n a = cyclicDist (2 ^ 32) a n := rfl

namespace Tcb

def segLast (t : Tcb) : Nat := u32 (t.SEG.SEQ + t.SEG.LEN - 1)

/-- `n` lies in the receive window, in the cyclic sequence space. -/
def InRcvWindow (t : Tcb) (n : Nat) : Prop := sub32 n t.RCV.NXT < t.RCV.WND

/-- The acceptability test of RFC 793 in the cyclic sequence space. -/
def Acceptable (t : Tcb) : Prop :=
  if t.SEG.LEN = 0 then sub32 t.SEG.SEQ t.RCV.NXT < max t.RCV.WND 1
  else 0 < t.RCV.WND ∧ (t.InRcvWindow t.SEG.SEQ ∨ t.InRcvWindow t.segLast)

def WindowInOnePiece (t : Tcb) : Prop := t.RCV.NXT + t.RCV.WND < 2 ^ 32

/-- `n` lies between the end of a window that runs over the end of the sequence space and the
start of that window. -/
def OutsideWrapped (t : Tcb) (n : Nat) : Prop :=
  t.RCV.NXT + t.RCV.WND ≤ n + 2 ^ 32 ∧ n < t.RCV.NXT

/-- The receive window is in one piece, or no edge of the segment lies in it. -/
def ComparesInOrder (t : Tcb) : Prop :=
  t.WindowInOnePiece ∨
    t.OutsideWrapped t.SEG.SEQ ∧ (0 < t.SEG.LEN → t.OutsideWrapped t.segLast)

/-- The sequence number of the segment and `RCV.NXT`, both moved on by `k`. -/
def shiftSeq (t : Tcb) (k : Nat) : Tcb :=
  { t with
    RCV := { t.RCV with NXT := u32 (t.RCV.NXT + k) }
    SEG := { t.SEG with SEQ := u32 (t.SEG.SEQ + k) } }

/-- The numbers that the test reads fit a `UINT32`, and its two lengths half of one. -/
structure TestedFits (t : Tcb) : Prop where
  nxt_lt : t.RCV.NXT < 2 ^ 32
  seq_lt : t.SEG.SEQ < 2 ^ 32
  wnd_lt : t.RCV.WND < 2 ^ 31
  len_lt : t.SEG.LEN < 2 ^ 31

instance (t : Tcb) : Decidable t.Acceptable := by
  unfold Acceptable InRcvWindow
  exact inferInstance

/-! ## The comparison of the source -/

/-- The test that `Validate_segment` makes of one number. -/
def comparesInWindow (t : Tcb) (n : Nat) : Bool :=
  t.RCV.NXT ≤ n && n < u32 (t.RCV.NXT + t.RCV.WND)

variable {t : Tcb}

theorem last_eq_segLast (hlen : 0 < t.SEG.LEN) :
    sub32 (u32 (t.SEG.SEQ + t.SEG.LEN)) 1 = t.segLast := by
  unfold sub32 u32 segLast u32
  omega

theorem TestedFits.comparesInWindow_iff (h : TestedFits t) {n : Nat} (hn : n < 2 ^ 32)
    (hone : t.WindowInOnePiece) : t.comparesInWindow n = true ↔ t.InRcvWindow n := by
  have hmem := inCyclicWindow_of_le hn h.nxt_lt (Nat.le_of_lt hone)
  unfold comparesInWindow InRcvWindow
  rw [u32_of_lt hone, sub32_eq_cyclicDist]
  simp only [Bool.and_eq_true, decide_eq_true_eq]
  exact hmem.symm

theorem TestedFits.comparesInWindow_wrapped (h : TestedFits t) (hone : ¬t.WindowInOnePiece)
    (n : Nat) : t.comparesInWindow n = false := by
  obtain ⟨hnxt, -, hwnd, -⟩ := h
  unfold WindowInOnePiece at hone
  have hlt : u32 (t.RCV.NXT + t.RCV.WND) < t.RCV.NXT := by
    unfold u32
    omega
  unfold comparesInWindow
  simp only [Bool.and_eq_false_iff, decide_eq_false_iff_not]
  omega

theorem TestedFits.inRcvWindow_wrapped_iff (h : TestedFits t) (hone : ¬t.WindowInOnePiece) {n : Nat}
    (hn : n < 2 ^ 32) : t.InRcvWindow n ↔ ¬t.OutsideWrapped n := by
  unfold WindowInOnePiece at hone
  unfold InRcvWindow OutsideWrapped
  rcases Nat.lt_or_ge (2 ^ 32) (t.RCV.NXT + t.RCV.WND) with hgt | hle
  · exact inCyclicWindow_of_gt hn h.nxt_lt hgt
  · have hmem := inCyclicWindow_of_le hn h.nxt_lt hle
    refine hmem.trans ?_
    omega

/-! ## The verdict -/

theorem validateSegment_eq (t : Tcb) : t.validateSegment =
    if t.SEG.LEN = 0 then
      if t.RCV.WND = 0 then decide (t.SEG.SEQ = t.RCV.NXT) else t.comparesInWindow t.SEG.SEQ
    else if t.RCV.WND = 0 then false
    else t.comparesInWindow t.SEG.SEQ ||
      t.comparesInWindow (sub32 (u32 (t.SEG.SEQ + t.SEG.LEN)) 1) := rfl

theorem segLast_lt (t : Tcb) : t.segLast < 2 ^ 32 := u32_lt _

theorem TestedFits.dist_zero_iff (h : TestedFits t) :
    sub32 t.SEG.SEQ t.RCV.NXT = 0 ↔ t.SEG.SEQ = t.RCV.NXT := by
  obtain ⟨hnxt, hseq, -, -⟩ := h
  unfold sub32
  omega

theorem TestedFits.validate_of_onePiece (h : TestedFits t) (hone : t.WindowInOnePiece) :
    t.validateSegment = true ↔ t.Acceptable := by
  have hfirst := h.comparesInWindow_iff h.seq_lt hone
  rw [validateSegment_eq]
  unfold Acceptable
  by_cases hlen : t.SEG.LEN = 0
  · rw [if_pos hlen, if_pos hlen]
    by_cases hwnd : t.RCV.WND = 0
    · rw [if_pos hwnd, hwnd, decide_eq_true_eq, ← h.dist_zero_iff]
      omega
    · have hmax : max t.RCV.WND 1 = t.RCV.WND := by omega
      rw [if_neg hwnd, hmax]
      exact hfirst
  · rw [if_neg hlen, if_neg hlen, last_eq_segLast (Nat.pos_of_ne_zero hlen)]
    by_cases hwnd : t.RCV.WND = 0
    · rw [if_pos hwnd, hwnd]
      simp
    · rw [if_neg hwnd, Bool.or_eq_true, hfirst, h.comparesInWindow_iff t.segLast_lt hone]
      exact (and_iff_right (Nat.pos_of_ne_zero hwnd)).symm

theorem TestedFits.validate_wrapped (h : TestedFits t) (hone : ¬t.WindowInOnePiece) :
    t.validateSegment = false := by
  have hwnd : t.RCV.WND ≠ 0 := by
    have hnxt := h.nxt_lt
    unfold WindowInOnePiece at hone
    omega
  rw [validateSegment_eq, if_neg hwnd, if_neg hwnd, h.comparesInWindow_wrapped hone,
    h.comparesInWindow_wrapped hone]
  simp

theorem TestedFits.acceptable_wrapped_iff (h : TestedFits t) (hone : ¬t.WindowInOnePiece) :
    t.Acceptable ↔
      ¬(t.OutsideWrapped t.SEG.SEQ ∧ (0 < t.SEG.LEN → t.OutsideWrapped t.segLast)) := by
  have hwnd : 0 < t.RCV.WND := by
    have hnxt := h.nxt_lt
    unfold WindowInOnePiece at hone
    omega
  have hfirst := h.inRcvWindow_wrapped_iff hone h.seq_lt
  have hlast := h.inRcvWindow_wrapped_iff hone t.segLast_lt
  unfold Acceptable
  by_cases hlen : t.SEG.LEN = 0
  · have hmax : max t.RCV.WND 1 = t.RCV.WND := by omega
    rw [if_pos hlen, hmax, hlen]
    simpa [InRcvWindow] using hfirst
  · have hpos := Nat.pos_of_ne_zero hlen
    rw [if_neg hlen, and_iff_right hwnd, hfirst, hlast]
    tauto

theorem TestedFits.validate_iff (h : TestedFits t) :
    (t.validateSegment = true ↔ t.Acceptable) ↔ t.ComparesInOrder := by
  unfold ComparesInOrder
  by_cases hone : t.WindowInOnePiece
  · exact iff_of_true (h.validate_of_onePiece hone) (Or.inl hone)
  · rw [h.validate_wrapped hone, h.acceptable_wrapped_iff hone]
    simp [hone]

/-! ## Moving both numbers on -/

theorem TestedFits.shiftSeq (h : TestedFits t) (k : Nat) : TestedFits (t.shiftSeq k) :=
  ⟨u32_lt _, u32_lt _, h.wnd_lt, h.len_lt⟩

theorem acceptable_shiftSeq (t : Tcb) (k : Nat) : (t.shiftSeq k).Acceptable ↔ t.Acceptable := by
  have hfirst : sub32 (t.shiftSeq k).SEG.SEQ (t.shiftSeq k).RCV.NXT = sub32 t.SEG.SEQ t.RCV.NXT := by
    exact (cyclicDist_mod _ _ _).trans (cyclicDist_shift (by decide) _ _ k)
  have hlast (hlen : t.SEG.LEN ≠ 0) :
      sub32 (t.shiftSeq k).segLast (t.shiftSeq k).RCV.NXT = sub32 t.segLast t.RCV.NXT := by
    have heq : (t.shiftSeq k).segLast = u32 (t.SEG.SEQ + t.SEG.LEN - 1 + k) := by
      unfold segLast shiftSeq u32
      dsimp only
      omega
    rw [sub32_eq_cyclicDist, sub32_eq_cyclicDist, heq]
    refine (cyclicDist_mod _ _ _).trans ((cyclicDist_shift (by decide) _ _ k).trans ?_)
    exact (cyclicDist_mod _ _ _).symm
  unfold Acceptable InRcvWindow
  rw [hfirst]
  by_cases hlen : t.SEG.LEN = 0
  · rw [if_pos hlen, if_pos (show (t.shiftSeq k).SEG.LEN = 0 from hlen)]
    rfl
  · rw [if_neg hlen, if_neg (show (t.shiftSeq k).SEG.LEN ≠ 0 from hlen), hlast hlen]
    rfl

theorem TestedFits.rejects_of_not (h : TestedFits t) (hnot : ¬t.ComparesInOrder) :
    t.validateSegment = false ∧ t.Acceptable := by
  unfold ComparesInOrder at hnot
  push Not at hnot
  obtain ⟨hone, hout⟩ := hnot
  refine ⟨h.validate_wrapped hone, (h.acceptable_wrapped_iff hone).2 ?_⟩
  rintro ⟨hfirst, hlast⟩
  obtain ⟨hpos, hin⟩ := hout hfirst
  exact hin (hlast hpos)

theorem TestedFits.validate_shiftSeq_iff (h : TestedFits t) (k : Nat) :
    ((t.shiftSeq k).validateSegment = t.validateSegment) ↔
      ((t.shiftSeq k).ComparesInOrder ↔ t.ComparesInOrder) := by
  have hk := h.shiftSeq k
  have hsame := acceptable_shiftSeq t k
  by_cases hc : t.ComparesInOrder <;> by_cases hck : (t.shiftSeq k).ComparesInOrder
  · refine iff_of_true ?_ (iff_of_true hck hc)
    rw [Bool.eq_iff_iff, hk.validate_iff.2 hck, h.validate_iff.2 hc]
    exact hsame
  · refine iff_of_false ?_ (by tauto)
    obtain ⟨hfalse, hacc⟩ := hk.rejects_of_not hck
    rw [hfalse, (h.validate_iff.2 hc).2 (hsame.1 hacc)]
    decide
  · refine iff_of_false ?_ (by tauto)
    obtain ⟨hfalse, hacc⟩ := h.rejects_of_not hc
    rw [hfalse, (hk.validate_iff.2 hck).2 (hsame.2 hacc)]
    decide
  · refine iff_of_true ?_ (iff_of_false hck hc)
    rw [(hk.rejects_of_not hck).1, (h.rejects_of_not hc).1]

/-- `Validate_segment` decides the test of RFC 793 exactly for a receive window that ends before the
sequence space, or when no edge of the segment lies in it. -/
theorem validateSegment_acceptable_iff (t : Tcb) (h : TestedFits t) :
    ((t.validateSegment = true ↔ t.Acceptable) ↔ t.ComparesInOrder) ∧
      ∀ k, ((t.shiftSeq k).validateSegment = t.validateSegment) ↔
        ((t.shiftSeq k).ComparesInOrder ↔ t.ComparesInOrder) :=
  ⟨h.validate_iff, h.validate_shiftSeq_iff⟩

/-- A receiver in the middle of the sequence space, and its segment of 100 bytes in order. -/
def receiving (rcvNxt : Nat) : Tcb :=
  { zeroTcb with RCV := ⟨rcvNxt, 4096⟩, SEG := ⟨rcvNxt, 1, 100, 4096⟩ }

/-- The condition holds of a window in one piece, and moving it over the end breaks it. -/
theorem validateSegment_acceptable_line :
    (receiving 5000).validateSegment = true ∧
      ((receiving 5000).validateSegment = true ↔ (receiving 5000).Acceptable) ∧
      ((receiving 5000).shiftSeq (2 ^ 32 - 6000)).validateSegment ≠
        (receiving 5000).validateSegment := by
  have h : TestedFits (receiving 5000) := ⟨by decide, by decide, by decide, by decide⟩
  obtain ⟨hlaw, hshift⟩ := validateSegment_acceptable_iff (receiving 5000) h
  refine ⟨by decide, hlaw.2 (Or.inl (by unfold WindowInOnePiece; decide)), ?_⟩
  rw [ne_eq, hshift]
  unfold ComparesInOrder WindowInOnePiece OutsideWrapped
  decide

def ValidatesModulo : Prop :=
  ∀ t : Tcb, TestedFits t →
    (t.validateSegment = true ↔ t.Acceptable) ∧
      ∀ k, (t.shiftSeq k).validateSegment = t.validateSegment

/-- A segment in order is turned down when the window runs over the end of the sequence space. -/
theorem not_validatesModulo : ¬ValidatesModulo := by
  intro h
  have hfits : TestedFits (receiving (2 ^ 32 - 1000)) :=
    ⟨by decide, by decide, by decide, by decide⟩
  have hlaw := (h _ hfits).1.2 (by decide)
  revert hlaw
  decide

end Tcb

end NetSim.Tcp
