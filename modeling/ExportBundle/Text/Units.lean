/-! The UTF-16 units of a text. A character beyond the first 65536 has two units, a high and a low
one. A document can also have one half of such a pair on its own; in a text it is held by a
character of the last private plane, which ends in the same four digits. Main statement: the units
of a text make up the text again. -/

namespace ExportBundle.Text

def isHigh (n : Nat) : Bool := 0xd800 ≤ n && n < 0xdc00

def isLow (n : Nat) : Bool := 0xdc00 ≤ n && n < 0xe000

/-- The character that holds half of a pair. -/
def half (n : Nat) : Char := Char.ofNat (0x100000 + n)

def half? (c : Char) : Option Nat :=
  if 0x10d800 ≤ c.toNat && c.toNat < 0x10e000 then some (c.toNat - 0x100000) else none

def highUnit (n : Nat) : Nat := 0xd800 + (n - 0x10000) / 0x400

def lowUnit (n : Nat) : Nat := 0xdc00 + (n - 0x10000) % 0x400

def charUnits (c : Char) : List Nat :=
  if c.toNat < 0x10000 then [c.toNat] else [highUnit c.toNat, lowUnit c.toNat]

def startsLow (cs : List Char) : Bool := (cs.head?.bind half?).any isLow

/-- The units of a text. A high half in front of a low one is written as the character that holds
it, or else the two would be taken for one character. -/
def units : List Char → List Nat
  | [] => []
  | c :: r =>
    match half? c with
    | some n => if isHigh n && startsLow r then charUnits c ++ units r else n :: units r
    | none => charUnits c ++ units r

def ofPair (high low : Nat) : Char :=
  Char.ofNat (0x10000 + (high - 0xd800) * 0x400 + (low - 0xdc00))

def ofUnit (n : Nat) : Char := if isHigh n || isLow n then half n else Char.ofNat n

def ofUnits : List Nat → List Char
  | [] => []
  | [n] => [ofUnit n]
  | n :: m :: r =>
    if isHigh n && isLow m then ofPair n m :: ofUnits r else ofUnit n :: ofUnits (m :: r)

/-- The code points of a text. A character that holds half of a pair counts as that half, except
where the units of the text are those of the character. -/
def codePoints : List Char → List Nat
  | [] => []
  | c :: r =>
    match half? c with
    | some n => (if isHigh n && startsLow r then c.toNat else n) :: codePoints r
    | none => c.toNat :: codePoints r

def compareTexts (s t : String) : Ordering := compare (codePoints s.toList) (codePoints t.toList)

def inOrder (s t : String) : Bool := (compareTexts s t).isLE

/-! Reading the units of a text back -/

theorem ofUnits_pair {n m : Nat} (hn : isHigh n = true) (hm : isLow m = true) (r : List Nat) :
    ofUnits (n :: m :: r) = ofPair n m :: ofUnits r := by
  simp [ofUnits, hn, hm]

theorem ofUnits_cons {n : Nat} {r : List Nat} (h : isHigh n = false ∨ r.head?.any isLow = false) :
    ofUnits (n :: r) = ofUnit n :: ofUnits r := by
  cases r with
  | nil => rfl
  | cons m r =>
    rcases h with h | h
    · simp [ofUnits, h]
    · simp only [List.head?_cons, Option.any_some] at h
      simp [ofUnits, h]

theorem isHigh_iff {n : Nat} : isHigh n = true ↔ 0xd800 ≤ n ∧ n < 0xdc00 := by
  simp [isHigh]

theorem isLow_iff {n : Nat} : isLow n = true ↔ 0xdc00 ≤ n ∧ n < 0xe000 := by
  simp [isLow]

theorem toNat_valid (c : Char) : c.toNat < 0xd800 ∨ 0xdfff < c.toNat ∧ c.toNat < 0x110000 :=
  c.valid

theorem toNat_of_half? {c : Char} {n : Nat} (h : half? c = some n) :
    c.toNat = 0x100000 + n ∧ 0xd800 ≤ n ∧ n < 0xe000 := by
  unfold half? at h
  split at h
  · rename_i hc
    simp only [Bool.and_eq_true, decide_eq_true_eq] at hc
    simp only [Option.some.injEq] at h
    omega
  · cases h

theorem ofUnit_of_half? {c : Char} {n : Nat} (h : half? c = some n) : ofUnit n = c := by
  obtain ⟨hc, low, high⟩ := toNat_of_half? h
  have : (isHigh n || isLow n) = true := by
    rw [Bool.or_eq_true, isHigh_iff, isLow_iff]
    omega
  rw [ofUnit, if_pos this, half, ← hc, Char.ofNat_toNat]

theorem ofUnit_toNat (c : Char) : ofUnit c.toNat = c := by
  have : (isHigh c.toNat || isLow c.toNat) = false := by
    have hv := toNat_valid c
    rw [Bool.eq_false_iff, ne_eq, Bool.or_eq_true, isHigh_iff, isLow_iff]
    omega
  rw [ofUnit, this]
  exact Char.ofNat_toNat c

theorem isHigh_highUnit {n : Nat} (h : n < 0x110000) : isHigh (highUnit n) = true := by
  rw [isHigh_iff, highUnit]
  omega

theorem isLow_lowUnit (n : Nat) : isLow (lowUnit n) = true := by
  rw [isLow_iff, lowUnit]
  omega

theorem ofPair_units {c : Char} (h : 0x10000 ≤ c.toNat) :
    ofPair (highUnit c.toNat) (lowUnit c.toNat) = c := by
  have hsum : 0x10000 + (highUnit c.toNat - 0xd800) * 0x400 + (lowUnit c.toNat - 0xdc00) =
      c.toNat := by
    simp only [highUnit, lowUnit]
    omega
  rw [ofPair, hsum, Char.ofNat_toNat]

theorem ofUnits_charUnits_append (c : Char) (r : List Nat) :
    ofUnits (charUnits c ++ r) = c :: ofUnits r := by
  have hv := toNat_valid c
  unfold charUnits
  split
  · rename_i h
    have : isHigh c.toNat = false := by
      simp [isHigh]
      omega
    rw [List.singleton_append, ofUnits_cons (.inl this), ofUnit_toNat]
  · rename_i h
    have hc : c.toNat < 0x110000 := by omega
    rw [List.cons_append, List.singleton_append, ofUnits_pair (isHigh_highUnit hc)
      (isLow_lowUnit c.toNat), ofPair_units (by omega)]

theorem isLow_eq_false_of_isHigh {n : Nat} (h : isHigh n = true) : isLow n = false := by
  rw [isHigh_iff] at h
  rw [Bool.eq_false_iff, ne_eq, isLow_iff]
  omega

theorem any_isLow_charUnits (c : Char) (r : List Nat) :
    (charUnits c ++ r).head?.any isLow = false := by
  have hv := toNat_valid c
  unfold charUnits
  split
  · rw [List.singleton_append, List.head?_cons, Option.any_some, Bool.eq_false_iff, ne_eq,
      isLow_iff]
    omega
  · rw [List.cons_append, List.head?_cons, Option.any_some]
    exact isLow_eq_false_of_isHigh (isHigh_highUnit (by omega))

theorem any_isLow_units (cs : List Char) : (units cs).head?.any isLow = startsLow cs := by
  cases cs with
  | nil => simp [units, startsLow]
  | cons c r =>
    unfold units startsLow
    split
    · rename_i n h
      split
      · rename_i hr
        rw [Bool.and_eq_true] at hr
        rw [any_isLow_charUnits, List.head?_cons, Option.bind_some, h, Option.any_some,
          isLow_eq_false_of_isHigh hr.1]
      · rw [List.head?_cons, List.head?_cons, Option.bind_some, h]
    · rename_i h
      rw [any_isLow_charUnits, List.head?_cons, Option.bind_some, h, Option.any_none]

theorem ofUnits_units (cs : List Char) : ofUnits (units cs) = cs := by
  induction cs with
  | nil => simp [units, ofUnits]
  | cons c r ih =>
    unfold units
    split
    · rename_i n h
      split
      · rw [ofUnits_charUnits_append, ih]
      · rename_i hr
        have : isHigh n = false ∨ (units r).head?.any isLow = false := by
          rw [any_isLow_units]
          simpa [Classical.or_iff_not_imp_left] using hr
        rw [ofUnits_cons this, ofUnit_of_half? h, ih]
    · rw [ofUnits_charUnits_append, ih]

/-! The order by code points -/

theorem map_ofUnit_codePoints (cs : List Char) : (codePoints cs).map ofUnit = cs := by
  induction cs with
  | nil => rfl
  | cons c r ih =>
    unfold codePoints
    split
    · rename_i n h
      rw [List.map_cons, ih]
      split
      · rw [ofUnit_toNat]
      · rw [ofUnit_of_half? h]
    · rw [List.map_cons, ih, ofUnit_toNat]

theorem compareTexts_swap (s t : String) : compareTexts s t = (compareTexts t s).swap :=
  Std.OrientedOrd.eq_swap (α := List Nat)

theorem eq_of_compareTexts {s t : String} (h : compareTexts s t = .eq) : s = t := by
  have hpoints : codePoints s.toList = codePoints t.toList := Std.LawfulEqCmp.eq_of_compare h
  have hchars := congrArg (List.map ofUnit) hpoints
  rw [map_ofUnit_codePoints, map_ofUnit_codePoints] at hchars
  exact String.toList_injective hchars

theorem inOrder_total (s t : String) : inOrder s t = true ∨ inOrder t s = true := by
  rw [inOrder, inOrder, compareTexts_swap t s]
  cases compareTexts s t <;> simp

theorem inOrder_trans {s t u : String} (h : inOrder s t = true) (h' : inOrder t u = true) :
    inOrder s u = true :=
  Std.TransOrd.isLE_trans (α := List Nat) h h'

theorem compareTexts_eq_lt {s t : String} (h : inOrder s t = true) (hne : s ≠ t) :
    compareTexts s t = .lt := by
  rw [inOrder] at h
  cases hc : compareTexts s t with
  | lt => rfl
  | eq => exact absurd (eq_of_compareTexts hc) hne
  | gt =>
    rw [hc] at h
    cases h

theorem eq_of_inOrder {s t : String} (h : inOrder s t = true) (h' : inOrder t s = true) :
    s = t := by
  refine Decidable.byContradiction fun hne => ?_
  have hlt := compareTexts_eq_lt h hne
  have hgt := compareTexts_eq_lt h' (Ne.symm hne)
  rw [compareTexts_swap, hlt] at hgt
  cases hgt

end ExportBundle.Text
