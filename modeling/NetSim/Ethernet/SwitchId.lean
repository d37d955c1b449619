import Mathlib

/-!
# The ids of the switches (`SpanningTree.c`)

The id of a switch is the text of its priority and of its lowest MAC address. Texts compare as the
numbers do if the priorities have equally many digits.
-/

namespace NetSim.Ethernet

/-! ## The ids -/

def decimal (n : Nat) : List Nat := if n = 0 then [0] else (Nat.digits 10 n).reverse

def hexDigit : Nat → Char
  | 0 => '0' | 1 => '1' | 2 => '2' | 3 => '3' | 4 => '4' | 5 => '5' | 6 => '6' | 7 => '7'
  | 8 => '8' | 9 => '9' | 10 => 'A' | 11 => 'B' | 12 => 'C' | 13 => 'D' | 14 => 'E' | _ => 'F'

def value (b : Nat) (digits : List Nat) : Nat := Nat.ofDigits b digits.reverse

/-- `NETSIM_MACADDRESS`, a number of twelve hexadecimal digits. -/
structure Mac where
  digits : List Nat
  length_digits : digits.length = 12
  digits_lt : ∀ d ∈ digits, d < 16
deriving DecidableEq

def Mac.nmacaddress (mac : Mac) : Nat := value 16 mac.digits

def Mac.szmacaddress (mac : Mac) : List Char := mac.digits.map hexDigit

/-- `eth_get_lowest_mac`: the MAC address of an `ETH_LAN` with the addresses of its interfaces. -/
def ethGetLowestMac (macAddress : List Mac) : Option Mac :=
  macAddress.foldl (fun ret mac =>
    match ret with
    | none => some mac
    | some ret => if mac.nmacaddress < ret.nmacaddress then some mac else some ret) none

/-- The text that `%d` makes of a priority, which is a `UINT`. -/
def priorityText (priority : UInt32) : List Char :=
  if priority.toNat < 2 ^ 31 then (decimal priority.toNat).map hexDigit
  else '-' :: (decimal (2 ^ 32 - priority.toNat)).map hexDigit

/-- The priority of a switch and the MAC addresses of its interfaces. -/
structure SwitchVar where
  priority : UInt32
  macAddress : List Mac
deriving DecidableEq

/-- `configure_switch_id`. There is room for 20 characters with the terminating one. -/
def SwitchVar.configureSwitchId (s : SwitchVar) : Option (List Char) :=
  (ethGetLowestMac s.macAddress).bind fun mac =>
    let id := priorityText s.priority ++ mac.szmacaddress
    if id.length < 20 then some id else none

/-- `_stricmp`, whose result is the order of the two texts in lower case. -/
def stricmp : List Char → List Char → Ordering
  | [], [] => .eq
  | [], _ :: _ => .lt
  | _ :: _, [] => .gt
  | c :: s, c' :: s' => (compare c.toLower.toNat c'.toLower.toNat).then (stricmp s s')

def SwitchVar.IsLowest (s : SwitchVar) (mac : Mac) : Prop :=
  mac ∈ s.macAddress ∧ ∀ mac' ∈ s.macAddress, mac.nmacaddress ≤ mac'.nmacaddress
deriving Decidable

/-- The ids of two switches are in the order of the priorities and, if these are the same, of the
MAC addresses. -/
def IdsOrdered (s s' : SwitchVar) (mac mac' : Mac) : Prop :=
  ∃ id id', s.configureSwitchId = some id ∧ s'.configureSwitchId = some id' ∧
    stricmp id id' = (compare s.priority.toNat s'.priority.toNat).then
      (compare mac.nmacaddress mac'.nmacaddress) ∧
    ((s.priority, mac) ≠ (s'.priority, mac') → id ≠ id')

/-! ## When it holds -/

/-- The text of `x` and `mac` comes before that of `y`, which has more digits, and `mac'`. -/
def ComesBefore (x : Nat) (mac : Mac) (y : Nat) (mac' : Mac) : Prop :=
  let lead := y / 10 ^ ((decimal y).length - (decimal x).length)
  x < lead ∨
    (x = lead ∧ compare mac.digits ((decimal y).drop (decimal x).length ++ mac'.digits) = .lt)

instance (x : Nat) (mac : Mac) (y : Nat) (mac' : Mac) : Decidable (ComesBefore x mac y mac') :=
  inferInstanceAs (Decidable (_ ∨ _))

def Fits (priority : Nat) : Prop := priority < 10 ^ 7 ∨ 2 ^ 32 - 10 ^ 6 < priority

instance (p : Nat) : Decidable (Fits p) := inferInstanceAs (Decidable (_ ∨ _))

/-- The condition on two switches. Priorities from 2^31 on are printed as negative numbers. -/
def IdsOk (s s' : SwitchVar) (mac mac' : Mac) : Prop :=
  let p := s.priority.toNat
  let p' := s'.priority.toNat
  Fits p ∧ Fits p' ∧
    if p < 2 ^ 31 ∧ p' < 2 ^ 31 then
      ((decimal p).length < (decimal p').length → ComesBefore p mac p' mac') ∧
        ((decimal p').length < (decimal p).length → ComesBefore p' mac' p mac)
    else
      let a := 2 ^ 32 - p
      let a' := 2 ^ 32 - p'
      2 ^ 31 ≤ p ∧ 2 ^ 31 ≤ p' ∧
        ((decimal a).length = (decimal a').length → p = p') ∧
        ((decimal a).length < (decimal a').length → ¬ComesBefore a mac a' mac') ∧
        ((decimal a').length < (decimal a).length → ¬ComesBefore a' mac' a mac)
deriving Decidable

/-! ## Digits -/

theorem value_cons (b d : Nat) (l : List Nat) :
    value b (d :: l) = d * b ^ l.length + value b l := by
  rw [value, value, List.reverse_cons, Nat.ofDigits_append, Nat.ofDigits_singleton,
    List.length_reverse, Nat.mul_comm, Nat.add_comm]

theorem value_lt {b : Nat} (hb : 1 < b) {l : List Nat} (hl : ∀ d ∈ l, d < b) :
    value b l < b ^ l.length := by
  have h := Nat.ofDigits_lt_base_pow_length hb (l := l.reverse)
    fun d hd => hl d (List.mem_reverse.1 hd)
  rwa [List.length_reverse] at h

theorem compare_value {b : Nat} (hb : 1 < b) {l l' : List Nat} (hlen : l.length = l'.length)
    (hl : ∀ d ∈ l, d < b) (hl' : ∀ d ∈ l', d < b) :
    compare l l' = compare (value b l) (value b l') := by
  induction l generalizing l' with
  | nil =>
    rw [List.length_nil, eq_comm, List.length_eq_zero_iff] at hlen
    subst hlen
    exact (Nat.compare_eq_eq.2 rfl).symm
  | cons d l ih =>
    cases l' with
    | nil => cases hlen
    | cons d' l' =>
      rw [List.length_cons, List.length_cons, Nat.succ_inj] at hlen
      have hrest := ih hlen (fun x hx => hl x (List.mem_cons_of_mem _ hx))
        fun x hx => hl' x (List.mem_cons_of_mem _ hx)
      have hlt := value_lt hb fun x hx => hl x (List.mem_cons_of_mem d hx)
      have hlt' := value_lt hb fun x hx => hl' x (List.mem_cons_of_mem d' hx)
      rw [List.compare_cons_cons, hrest, value_cons, value_cons, hlen]
      rw [hlen] at hlt
      rcases Nat.lt_trichotomy d d' with hd | rfl | hd
      · have hmul : (d + 1) * b ^ l'.length ≤ d' * b ^ l'.length := Nat.mul_le_mul_right _ hd
        rw [Nat.succ_mul] at hmul
        have hv : d * b ^ l'.length + value b l < d' * b ^ l'.length + value b l' := by omega
        rw [Nat.compare_eq_lt.2 hd, Nat.compare_eq_lt.2 hv]
        rfl
      · rw [Nat.compare_eq_eq.2 rfl, Ordering.eq_then]
        rcases Nat.lt_trichotomy (value b l) (value b l') with hv | hv | hv
        · rw [Nat.compare_eq_lt.2 hv, Nat.compare_eq_lt.2 (Nat.add_lt_add_left hv _)]
        · rw [hv, Nat.compare_eq_eq.2 rfl, Nat.compare_eq_eq.2 rfl]
        · rw [Nat.compare_eq_gt.2 hv, Nat.compare_eq_gt.2 (Nat.add_lt_add_left hv _)]
      · have hmul : (d' + 1) * b ^ l'.length ≤ d * b ^ l'.length := Nat.mul_le_mul_right _ hd
        rw [Nat.succ_mul] at hmul
        have hv : d' * b ^ l'.length + value b l' < d * b ^ l'.length + value b l := by omega
        rw [Nat.compare_eq_gt.2 hd, Nat.compare_eq_gt.2 hv]
        rfl

theorem compare_append {l l' : List Nat} (hlen : l.length = l'.length) (r r' : List Nat) :
    compare (l ++ r) (l' ++ r') = (compare l l').then (compare r r') := by
  induction l generalizing l' with
  | nil =>
    rw [List.length_nil, eq_comm, List.length_eq_zero_iff] at hlen
    subst hlen
    rfl
  | cons d l ih =>
    cases l' with
    | nil => cases hlen
    | cons d' l' =>
      rw [List.length_cons, List.length_cons, Nat.succ_inj] at hlen
      rw [List.cons_append, List.cons_append, List.compare_cons_cons, List.compare_cons_cons,
        ih hlen]
      cases compare d d' <;> rfl

theorem decimal_lt {n d : Nat} (hd : d ∈ decimal n) : d < 10 := by
  unfold decimal at hd
  split at hd
  · rw [List.mem_singleton.1 hd]
    decide
  · exact Nat.digits_lt_base (by decide) (List.mem_reverse.1 hd)

theorem value_decimal (n : Nat) : value 10 (decimal n) = n := by
  unfold decimal value
  split
  · next hn => rw [hn]; rfl
  · rw [List.reverse_reverse, Nat.ofDigits_digits]

theorem length_decimal_pos (n : Nat) : 0 < (decimal n).length := by
  unfold decimal
  split
  · exact Nat.one_pos
  · next hn =>
    rw [List.length_reverse, Nat.length_digits _ _ (by decide) hn]
    exact Nat.succ_pos _

theorem length_decimal_le {n k : Nat} (hk : 0 < k) : (decimal n).length ≤ k ↔ n < 10 ^ k := by
  unfold decimal
  split
  · next hn =>
    rw [hn]
    exact iff_of_true hk (Nat.pow_pos (by decide))
  · rw [List.length_reverse, Nat.digits_length_le_iff (by decide)]

theorem lt_of_length_decimal_lt {x y : Nat} (h : (decimal x).length < (decimal y).length) :
    x < y := by
  have hx := (length_decimal_le (n := x) (length_decimal_pos x)).1 (Nat.le_refl _)
  by_contra hle
  exact absurd ((length_decimal_le (length_decimal_pos x)).2
    (Nat.lt_of_le_of_lt (Nat.not_lt.1 hle) hx)) (Nat.not_le.2 h)

theorem value_take_decimal {y k : Nat} (hk : k < (decimal y).length) :
    value 10 ((decimal y).take k) = y / 10 ^ ((decimal y).length - k) := by
  unfold decimal at hk ⊢
  split at hk
  · next hy =>
    obtain rfl : k = 0 := Nat.lt_one_iff.1 hk
    rw [if_pos hy, hy]
    rfl
  · next hy =>
    rw [if_neg hy, value, List.reverse_take, List.reverse_reverse, List.length_reverse,
      Nat.self_div_pow_eq_ofDigits_drop _ _ (by decide)]

/-! ## Texts -/

theorem compare_hexDigit {d d' : Nat} (hd : d < 16) (hd' : d' < 16) :
    compare (hexDigit d).toLower.toNat (hexDigit d').toLower.toNat = compare d d' := by
  have hall : ∀ d d' : Fin 16, compare (hexDigit d).toLower.toNat (hexDigit d').toLower.toNat =
      compare d.val d'.val := by decide
  exact hall ⟨d, hd⟩ ⟨d', hd'⟩

theorem stricmp_map {l l' : List Nat} (hl : ∀ d ∈ l, d < 16) (hl' : ∀ d ∈ l', d < 16) :
    stricmp (l.map hexDigit) (l'.map hexDigit) = compare l l' := by
  induction l generalizing l' with
  | nil => cases l' <;> rfl
  | cons d l ih =>
    cases l' with
    | nil => rfl
    | cons d' l' =>
      rw [List.map_cons, List.map_cons, stricmp, List.compare_cons_cons,
        compare_hexDigit (hl d List.mem_cons_self) (hl' d' List.mem_cons_self),
        ih (fun x hx => hl x (List.mem_cons_of_mem _ hx))
          fun x hx => hl' x (List.mem_cons_of_mem _ hx)]

variable {mac mac' : Mac} {s s' : SwitchVar}

theorem Mac.compare_digits (mac mac' : Mac) :
    compare mac.digits mac'.digits = compare mac.nmacaddress mac'.nmacaddress :=
  compare_value (by decide) (mac.length_digits.trans mac'.length_digits.symm) mac.digits_lt
    mac'.digits_lt

theorem Mac.nmacaddress_injective (h : mac.nmacaddress = mac'.nmacaddress) : mac = mac' := by
  have hdigits : mac.digits = mac'.digits :=
    Std.LawfulEqCmp.eq_of_compare ((mac.compare_digits mac').trans (Nat.compare_eq_eq.2 h))
  cases mac
  cases mac'
  cases hdigits
  rfl

def idDigits (n : Nat) (mac : Mac) : List Nat := decimal n ++ mac.digits

theorem idDigits_lt {n : Nat} {d : Nat} (hd : d ∈ idDigits n mac) : d < 16 := by
  rcases List.mem_append.1 hd with hd | hd
  · exact Nat.lt_trans (decimal_lt hd) (by decide)
  · exact mac.digits_lt d hd

theorem compare_idDigits {x y : Nat} (hlen : (decimal x).length = (decimal y).length) :
    compare (idDigits x mac) (idDigits y mac') =
      (compare x y).then (compare mac.nmacaddress mac'.nmacaddress) := by
  rw [idDigits, idDigits, compare_append hlen, mac.compare_digits,
    compare_value (b := 10) (by decide) hlen (fun _ => decimal_lt) fun _ => decimal_lt,
    value_decimal, value_decimal]

theorem compare_idDigits_swap (x y : Nat) :
    compare (idDigits x mac) (idDigits y mac') = (compare (idDigits y mac') (idDigits x mac)).swap :=
  Std.OrientedCmp.eq_swap

theorem compare_idDigits_of_lt {x y : Nat} (hlen : (decimal x).length < (decimal y).length) :
    compare (idDigits x mac) (idDigits y mac') =
      if ComesBefore x mac y mac' then .lt else .gt := by
  have htake : (decimal x).length = ((decimal y).take (decimal x).length).length := by
    rw [List.length_take, Nat.min_eq_left (Nat.le_of_lt hlen)]
  have hcut : idDigits y mac' = (decimal y).take (decimal x).length ++
      ((decimal y).drop (decimal x).length ++ mac'.digits) := by
    rw [← List.append_assoc, List.take_append_drop, idDigits]
  rw [hcut, idDigits, compare_append htake,
    compare_value (b := 10) (by decide) htake (fun _ => decimal_lt)
      fun _ hd => decimal_lt (List.mem_of_mem_take hd),
    value_decimal, value_take_decimal hlen]
  rcases Nat.lt_trichotomy x (y / 10 ^ ((decimal y).length - (decimal x).length)) with
    hx | hx | hx
  · have hbefore : ComesBefore x mac y mac' := Or.inl hx
    rw [if_pos hbefore, Nat.compare_eq_lt.2 hx]
    rfl
  · rw [← hx, Nat.compare_eq_eq.2 rfl, Ordering.eq_then]
    cases hcmp : compare mac.digits ((decimal y).drop (decimal x).length ++ mac'.digits) with
    | lt =>
      have hbefore : ComesBefore x mac y mac' := Or.inr ⟨hx, hcmp⟩
      rw [if_pos hbefore]
    | gt =>
      have hnot : ¬ComesBefore x mac y mac' := by
        rintro (h | ⟨-, h⟩)
        · exact absurd hx (Nat.ne_of_lt h)
        · rw [hcmp] at h
          cases h
      rw [if_neg hnot]
    | eq =>
      have hsame := congrArg List.length (Std.LawfulEqCmp.eq_of_compare hcmp)
      rw [List.length_append, List.length_drop, mac.length_digits, mac'.length_digits] at hsame
      omega
  · have hnot : ¬ComesBefore x mac y mac' := by
      rintro (h | ⟨h, -⟩)
      · exact absurd h (Nat.not_lt.2 (Nat.le_of_lt hx))
      · exact absurd h (Nat.ne_of_gt hx)
    rw [if_neg hnot, Nat.compare_eq_gt.2 hx]
    rfl

theorem SwitchVar.IsLowest.ethGetLowestMac (h : s.IsLowest mac) :
    ethGetLowestMac s.macAddress = some mac := by
  have hfold : ∀ (l : List Mac) (first : Mac), ∃ ret ∈ first :: l,
      l.foldl (fun ret mac =>
        match ret with
        | none => some mac
        | some ret => if mac.nmacaddress < ret.nmacaddress then some mac else some ret)
        (some first) = some ret ∧
      ∀ mac ∈ first :: l, ret.nmacaddress ≤ mac.nmacaddress := by
    intro l
    induction l with
    | nil =>
      intro first
      exact ⟨first, List.mem_cons_self, rfl, fun mac hmac => by rw [List.mem_singleton.1 hmac]⟩
    | cons mac l ih =>
      intro first
      rw [List.foldl_cons]
      dsimp only
      split
      · next hlt =>
        obtain ⟨ret, hret, hfold, hle⟩ := ih mac
        refine ⟨ret, List.mem_cons_of_mem _ hret, hfold, List.forall_mem_cons.2 ⟨?_, hle⟩⟩
        exact Nat.le_trans (hle mac List.mem_cons_self) (Nat.le_of_lt hlt)
      · next hlt =>
        obtain ⟨ret, hret, hfold, hle⟩ := ih first
        have hfirst := hle first List.mem_cons_self
        refine ⟨ret, ?_, hfold, List.forall_mem_cons.2 ⟨hfirst, List.forall_mem_cons.2
          ⟨Nat.le_trans hfirst (Nat.not_lt.1 hlt), fun x hx => hle x (List.mem_cons_of_mem _ hx)⟩⟩⟩
        rcases List.mem_cons.1 hret with rfl | hret
        · exact List.mem_cons_self
        · exact List.mem_cons_of_mem _ (List.mem_cons_of_mem _ hret)
  obtain ⟨hmem, hle⟩ := h
  unfold Ethernet.ethGetLowestMac
  cases hmacs : s.macAddress with
  | nil =>
    rw [hmacs] at hmem
    cases hmem
  | cons first l =>
    rw [hmacs] at hmem hle
    obtain ⟨ret, hret, hfold, hleast⟩ := hfold l first
    have hsame : ret = mac :=
      Mac.nmacaddress_injective (Nat.le_antisymm (hleast mac hmem) (hle ret hret))
    exact hfold.trans (congrArg some hsame)

theorem length_priorityText (priority : UInt32) :
    (priorityText priority).length + 12 < 20 ↔ Fits priority.toNat := by
  unfold priorityText Fits
  split
  · next hp =>
    have hlen := length_decimal_le (n := priority.toNat) (k := 7) (by decide)
    rw [List.length_map]
    omega
  · next hp =>
    have hlen := length_decimal_le (n := 2 ^ 32 - priority.toNat) (k := 6) (by decide)
    rw [List.length_cons, List.length_map]
    omega

theorem configureSwitchId_eq (h : s.IsLowest mac) :
    s.configureSwitchId =
      if Fits s.priority.toNat then some (priorityText s.priority ++ mac.szmacaddress) else none := by
  have hlen : (priorityText s.priority ++ mac.szmacaddress).length < 20 ↔ Fits s.priority.toNat := by
    rw [← length_priorityText, List.length_append, Mac.szmacaddress, List.length_map,
      mac.length_digits]
  rw [SwitchVar.configureSwitchId, h.ethGetLowestMac, Option.bind_some]
  exact if_congr hlen rfl rfl

/-! ## The order of the ids -/

theorem idsOrdered_iff_stricmp (h : s.IsLowest mac) (h' : s'.IsLowest mac') :
    IdsOrdered s s' mac mac' ↔ Fits s.priority.toNat ∧ Fits s'.priority.toNat ∧
      stricmp (priorityText s.priority ++ mac.szmacaddress)
          (priorityText s'.priority ++ mac'.szmacaddress) =
        (compare s.priority.toNat s'.priority.toNat).then
          (compare mac.nmacaddress mac'.nmacaddress) := by
  have hself : ∀ id, stricmp id id = .eq := by
    intro id
    induction id with
    | nil => rfl
    | cons c id ih => rw [stricmp, ih, Nat.compare_eq_eq.2 rfl]; rfl
  rw [IdsOrdered, configureSwitchId_eq h, configureSwitchId_eq h']
  constructor
  · rintro ⟨id, id', hid, hid', horder, -⟩
    obtain ⟨hfits, hid⟩ := Option.ite_none_right_eq_some.1 hid
    obtain ⟨hfits', hid'⟩ := Option.ite_none_right_eq_some.1 hid'
    cases hid
    cases hid'
    exact ⟨hfits, hfits', horder⟩
  · rintro ⟨hfits, hfits', horder⟩
    refine ⟨_, _, if_pos hfits, if_pos hfits', horder, fun hne hsame => hne ?_⟩
    rw [hsame, hself, eq_comm, Ordering.then_eq_eq, Nat.compare_eq_eq, Nat.compare_eq_eq] at horder
    rw [UInt32.toNat_inj.1 horder.1, Mac.nmacaddress_injective horder.2]

theorem stricmp_idDigits (x y : Nat) :
    stricmp ((decimal x).map hexDigit ++ mac.szmacaddress)
        ((decimal y).map hexDigit ++ mac'.szmacaddress) =
      compare (idDigits x mac) (idDigits y mac') := by
  rw [Mac.szmacaddress, Mac.szmacaddress, ← List.map_append, ← List.map_append]
  exact stricmp_map (fun _ => idDigits_lt) fun _ => idDigits_lt

theorem compare_idDigits_iff (x y : Nat) :
    compare (idDigits x mac) (idDigits y mac') =
        (compare x y).then (compare mac.nmacaddress mac'.nmacaddress) ↔
      ((decimal x).length < (decimal y).length → ComesBefore x mac y mac') ∧
        ((decimal y).length < (decimal x).length → ComesBefore y mac' x mac) := by
  rcases Nat.lt_trichotomy (decimal x).length (decimal y).length with hlen | hlen | hlen
  · have hxy : (compare x y).then (compare mac.nmacaddress mac'.nmacaddress) = .lt := by
      rw [Nat.compare_eq_lt.2 (lt_of_length_decimal_lt hlen)]
      rfl
    rw [hxy, compare_idDigits_of_lt hlen]
    refine ⟨fun h => ⟨fun _ => ?_, fun hlen' => absurd hlen' (by omega)⟩,
      fun h => if_pos (h.1 hlen)⟩
    by_contra hnot
    rw [if_neg hnot] at h
    cases h
  · exact iff_of_true (compare_idDigits hlen)
      ⟨fun hlen' => absurd hlen' (by omega), fun hlen' => absurd hlen' (by omega)⟩
  · have hxy : (compare x y).then (compare mac.nmacaddress mac'.nmacaddress) = .gt := by
      rw [Nat.compare_eq_gt.2 (lt_of_length_decimal_lt hlen)]
      rfl
    rw [hxy, compare_idDigits_swap, compare_idDigits_of_lt hlen]
    refine ⟨fun h => ⟨fun hlen' => absurd hlen' (by omega), fun _ => ?_⟩,
      fun h => by rw [if_pos (h.2 hlen)]; rfl⟩
    by_contra hnot
    rw [if_neg hnot] at h
    cases h

theorem compare_idDigits_neg_iff {p p' : Nat} (hp : p < 2 ^ 32) (hp' : p' < 2 ^ 32) :
    compare (idDigits (2 ^ 32 - p) mac) (idDigits (2 ^ 32 - p') mac') =
        (compare p p').then (compare mac.nmacaddress mac'.nmacaddress) ↔
      ((decimal (2 ^ 32 - p)).length = (decimal (2 ^ 32 - p')).length → p = p') ∧
        ((decimal (2 ^ 32 - p)).length < (decimal (2 ^ 32 - p')).length →
          ¬ComesBefore (2 ^ 32 - p) mac (2 ^ 32 - p') mac') ∧
        ((decimal (2 ^ 32 - p')).length < (decimal (2 ^ 32 - p)).length →
          ¬ComesBefore (2 ^ 32 - p') mac' (2 ^ 32 - p) mac) := by
  rcases Nat.lt_trichotomy (decimal (2 ^ 32 - p)).length (decimal (2 ^ 32 - p')).length with
    hlen | hlen | hlen
  · have hlt := lt_of_length_decimal_lt hlen
    have hxy : (compare p p').then (compare mac.nmacaddress mac'.nmacaddress) = .gt := by
      rw [Nat.compare_eq_gt.2 (by omega)]
      rfl
    rw [hxy, compare_idDigits_of_lt hlen]
    refine ⟨fun h => ⟨fun hlen' => absurd hlen' (by omega), fun _ hbefore => ?_,
      fun hlen' => absurd hlen' (by omega)⟩, fun h => if_neg (h.2.1 hlen)⟩
    rw [if_pos hbefore] at h
    cases h
  · rw [compare_idDigits hlen]
    refine ⟨fun h => ⟨fun _ => ?_, fun hlen' => absurd hlen' (by omega),
      fun hlen' => absurd hlen' (by omega)⟩, fun h => by
        rw [h.1 hlen, Nat.compare_eq_eq.2 rfl, Nat.compare_eq_eq.2 rfl]⟩
    rcases Nat.lt_trichotomy p p' with hlt | hsame | hlt
    · rw [Nat.compare_eq_gt.2 (by omega), Nat.compare_eq_lt.2 hlt] at h
      cases h
    · exact hsame
    · rw [Nat.compare_eq_lt.2 (by omega), Nat.compare_eq_gt.2 hlt] at h
      cases h
  · have hlt := lt_of_length_decimal_lt hlen
    have hxy : (compare p p').then (compare mac.nmacaddress mac'.nmacaddress) = .lt := by
      rw [Nat.compare_eq_lt.2 (by omega)]
      rfl
    rw [hxy, compare_idDigits_swap, compare_idDigits_of_lt hlen]
    refine ⟨fun h => ⟨fun hlen' => absurd hlen' (by omega), fun hlen' => absurd hlen' (by omega),
      fun _ hbefore => ?_⟩, fun h => by rw [if_neg (h.2.2 hlen)]; rfl⟩
    rw [if_pos hbefore] at h
    cases h

theorem stricmp_minus (l l' : List Char) : stricmp ('-' :: l) ('-' :: l') = stricmp l l' := by
  rw [stricmp, Nat.compare_eq_eq.2 rfl, Ordering.eq_then]

theorem exists_hexDigit (n : Nat) : ∃ d : Fin 16, ∃ rest, (decimal n).map hexDigit =
    hexDigit d :: rest := by
  cases hd : decimal n with
  | nil =>
    have hpos := length_decimal_pos n
    rw [hd] at hpos
    cases hpos
  | cons d rest =>
    have hlt : d < 16 := Nat.lt_trans (decimal_lt (hd ▸ List.mem_cons_self)) (by decide)
    exact ⟨⟨d, hlt⟩, _, rfl⟩

theorem stricmp_minus_hexDigit {n : Nat} (l l' : List Char) :
    stricmp ('-' :: l) ((decimal n).map hexDigit ++ l') = .lt := by
  obtain ⟨d, rest, hd⟩ := exists_hexDigit n
  have hall : ∀ d : Fin 16, compare '-'.toLower.toNat (hexDigit d).toLower.toNat = .lt := by decide
  rw [hd, List.cons_append, stricmp, hall d]
  rfl

theorem stricmp_hexDigit_minus {n : Nat} (l l' : List Char) :
    stricmp ((decimal n).map hexDigit ++ l') ('-' :: l) = .gt := by
  obtain ⟨d, rest, hd⟩ := exists_hexDigit n
  have hall : ∀ d : Fin 16, compare (hexDigit d).toLower.toNat '-'.toLower.toNat = .gt := by decide
  rw [hd, List.cons_append, stricmp, hall d]
  rfl

/-- The ids are in the right order exactly if both fit and, where the priorities have different
numbers of digits, the shorter one comes before with its MAC address. -/
theorem idsOrdered_iff (h : s.IsLowest mac) (h' : s'.IsLowest mac') :
    IdsOrdered s s' mac mac' ↔ IdsOk s s' mac mac' := by
  rw [idsOrdered_iff_stricmp h h', IdsOk]
  have hp := s.priority.toNat_lt
  have hp' := s'.priority.toNat_lt
  refine and_congr_right fun _ => and_congr_right fun _ => ?_
  rw [priorityText, priorityText]
  by_cases hsmall : s.priority.toNat < 2 ^ 31 <;> by_cases hsmall' : s'.priority.toNat < 2 ^ 31
  · rw [if_pos hsmall, if_pos hsmall', if_pos ⟨hsmall, hsmall'⟩, stricmp_idDigits,
      compare_idDigits_iff]
  · rw [if_pos hsmall, if_neg hsmall', if_neg fun hboth => hsmall' hboth.2, List.cons_append,
      stricmp_hexDigit_minus, Nat.compare_eq_lt.2 (by omega)]
    exact iff_of_false nofun fun hboth => absurd hsmall (Nat.not_lt.2 hboth.1)
  · rw [if_neg hsmall, if_pos hsmall', if_neg fun hboth => hsmall hboth.1, List.cons_append,
      stricmp_minus_hexDigit, Nat.compare_eq_gt.2 (by omega)]
    exact iff_of_false nofun fun hboth => absurd hsmall' (Nat.not_lt.2 hboth.2.1)
  · rw [if_neg hsmall, if_neg hsmall', if_neg fun hboth => hsmall hboth.1, List.cons_append,
      List.cons_append, stricmp_minus, stricmp_idDigits, compare_idDigits_neg_iff hp hp']
    exact ⟨fun hneg => ⟨Nat.not_lt.1 hsmall, Nat.not_lt.1 hsmall', hneg⟩, fun hneg => hneg.2.2⟩

/-- The MAC address with the last digit `d`. -/
def exampleMac (d : Nat) (hd : d < 16) : Mac where
  digits := [10, 15, 1, 2, 1, 2, 13, 13, 0, 1, 0, d]
  length_digits := rfl
  digits_lt := by
    intro x hx
    simp only [List.mem_cons, List.not_mem_nil, or_false] at hx
    omega

/-- The default priority and one with as many digits. -/
theorem idsOrdered_fiveDigits :
    IdsOrdered ⟨32768, [exampleMac 2 (by decide), exampleMac 1 (by decide)]⟩
      ⟨61440, [exampleMac 0 (by decide)]⟩ (exampleMac 1 (by decide)) (exampleMac 0 (by decide)) :=
  (idsOrdered_iff (by decide) (by decide)).2 (by decide)

/-- The claim fails: the text of priority 10 comes before that of priority 9. -/
theorem not_idsOrdered :
    ¬∀ (s s' : SwitchVar) (mac mac' : Mac), s.IsLowest mac → s'.IsLowest mac' →
      IdsOrdered s s' mac mac' := by
  intro hclaim
  have hordered := hclaim ⟨9, [exampleMac 1 (by decide)]⟩ ⟨10, [exampleMac 2 (by decide)]⟩
    (exampleMac 1 (by decide)) (exampleMac 2 (by decide)) (by decide) (by decide)
  rw [idsOrdered_iff_stricmp (by decide) (by decide)] at hordered
  exact absurd hordered.2.2 (by decide)

end NetSim.Ethernet
