import NetSim.Rlc.Pdu

/-!
# The segments of an SDU

An SDU is cut from the front: each segment gets the next offset, and only the last one can tell that
it is the last.
-/

namespace NetSim.Rlc

open NetSim.Tcp

/-- The segment `i` of an SDU whose segments so far have the payloads `cut`. More segments follow
if `more` is set. -/
def segmentAt (nPacketId sn : Nat) (cut : List Nat) (more : Bool) (i : Nat) : AmdPdu where
  P := false
  si :=
    if i + 1 = cut.length ∧ more = false then if i = 0 then .all else .last
    else if i = 0 then .first else .middle
  SN := sn
  SO := u16 i
  nPacketId := nPacketId
  dPayload := cut.getD i 0

def segmentsOf (nPacketId sn : Nat) (cut : List Nat) (more : Bool) : List AmdPdu :=
  (List.range cut.length).map (segmentAt nPacketId sn cut more)

theorem length_segmentsOf (nPacketId sn : Nat) (cut : List Nat) (more : Bool) :
    (segmentsOf nPacketId sn cut more).length = cut.length := by
  unfold segmentsOf
  rw [List.length_map, List.length_range]

theorem getD_append_length (cut : List Nat) (n : Nat) : (cut ++ [n]).getD cut.length 0 = n := by
  simp [List.getD_eq_getElem?_getD]

theorem segmentAt_cut (nPacketId sn : Nat) (cut : List Nat) (n : Nat) :
    segmentAt nPacketId sn (cut ++ [n]) true cut.length = {
      P := false
      si := if cut = [] then .first else .middle
      SN := sn
      SO := u16 cut.length
      nPacketId := nPacketId
      dPayload := n } := by
  have hmore : ¬ (cut.length + 1 = (cut ++ [n]).length ∧ true = false) := nofun
  unfold segmentAt
  rw [if_neg hmore, getD_append_length]
  cases cut <;> rfl

theorem segmentAt_last (nPacketId sn : Nat) (cut : List Nat) (n : Nat) :
    segmentAt nPacketId sn (cut ++ [n]) false cut.length = {
      P := false
      si := if cut = [] then .all else .last
      SN := sn
      SO := u16 cut.length
      nPacketId := nPacketId
      dPayload := n } := by
  have hlast : cut.length + 1 = (cut ++ [n]).length ∧ false = false := ⟨by simp, rfl⟩
  unfold segmentAt
  rw [if_pos hlast, getD_append_length]
  cases cut <;> rfl

theorem segmentsOf_append (nPacketId sn : Nat) (cut : List Nat) (more : Bool) (n : Nat) :
    segmentsOf nPacketId sn (cut ++ [n]) more = segmentsOf nPacketId sn cut true ++
      [segmentAt nPacketId sn (cut ++ [n]) more cut.length] := by
  unfold segmentsOf
  rw [List.length_append, List.length_singleton, List.range_succ, List.map_append,
    List.map_singleton]
  congr 1
  apply List.map_congr_left
  intro i hi
  rw [List.mem_range] at hi
  have hnot : ¬ (i + 1 = (cut ++ [n]).length ∧ more = false) := by
    rw [List.length_append, List.length_singleton]
    omega
  have hget : (cut ++ [n]).getD i 0 = cut.getD i 0 := by
    rw [List.getD_eq_getElem?_getD, List.getD_eq_getElem?_getD, List.getElem?_append_left hi]
  have hmore : ¬ (i + 1 = cut.length ∧ true = false) := nofun
  unfold segmentAt
  rw [if_neg hnot, if_neg hmore, hget]

def Sdu.pdus (sdu : Sdu) (sn : Nat) : List AmdPdu :=
  (List.range sdu.segments.length).map (sdu.pdu false sn)

theorem segmentsOf_eq_pdus (sdu : Sdu) (sn : Nat) :
    segmentsOf sdu.nPacketId sn sdu.segments false = sdu.pdus sn := by
  apply List.map_congr_left
  intro i hi
  rw [List.mem_range] at hi
  have hlt := sdu.length_lt
  have hso : u16 i = i := u16_of_lt (by omega)
  unfold segmentAt Sdu.pdu Sdu.si
  congr 1
  simp

end NetSim.Rlc
