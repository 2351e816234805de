import ExportBundle.Text.Digit
import ExportBundle.Text.Numeral
import Mathlib.Data.List.Forall2

/-! Numbers in base ten and the values of their digits. Main statement: a row of digit values that
does not begin with a zero is printed as it is, each value by its ASCII digit. -/

namespace ExportBundle.Text

abbrev DigitsOf (digit? : Char → Option Nat) (cs : List Char) (values : List Nat) : Prop :=
  List.Forall₂ (fun c d => digit? c = some d) cs values

section Ascii

variable {c : Char} {d : Nat}

theorem asciiDigit?_eq_some_iff : asciiDigit? c = some d ↔ d < 10 ∧ c = d.digitChar := by
  constructor
  · intro h
    unfold asciiDigit? at h
    split at h
    · rename_i hdigit
      obtain rfl := Option.some.inj h
      simp only [Char.isDigit, Bool.and_eq_true, decide_eq_true_eq, UInt32.le_iff_toNat_le]
        at hdigit
      obtain ⟨hlow, hhigh⟩ := hdigit
      change 48 ≤ c.toNat at hlow
      change c.toNat ≤ 57 at hhigh
      have hall : ∀ n < 58, 48 ≤ n → Char.ofNat n = (n - 48).digitChar := by decide
      refine ⟨by omega, ?_⟩
      rw [← hall c.toNat (by omega) hlow, Char.ofNat_toNat]
    · cases h
  · rintro ⟨hd, rfl⟩
    have hall : ∀ d < 10, asciiDigit? d.digitChar = some d := by decide
    exact hall d hd

theorem asciiDigit?_lt (h : asciiDigit? c = some d) : d < 10 := (asciiDigit?_eq_some_iff.1 h).1

theorem digitValue?_of_asciiDigit? (h : asciiDigit? c = some d) : digitValue? c = some d := by
  obtain ⟨hd, rfl⟩ := asciiDigit?_eq_some_iff.1 h
  have hall : ∀ d < 10, digitValue? d.digitChar = some d := by decide
  exact hall d hd

theorem asciiDigit?_of_digitValue? (hc : c.toNat < 128) (h : digitValue? c = some d) :
    asciiDigit? c = some d := by
  obtain ⟨z, hz, rfl⟩ := Option.map_eq_some_iff.1 h
  have hrow := List.find?_some hz
  simp only [Bool.and_eq_true, decide_eq_true_eq] at hrow
  have hfirst : ∀ z ∈ digitZeros, z < 128 → z = 48 := by decide
  obtain rfl : z = 48 := hfirst z (List.mem_of_find?_eq_some hz) (by omega)
  have hall : ∀ n < 58, 48 ≤ n → Char.ofNat n = (n - 48).digitChar := by decide
  refine asciiDigit?_eq_some_iff.2 ⟨by omega, ?_⟩
  rw [← hall c.toNat (by omega) hrow.1, Char.ofNat_toNat]

end Ascii

section Rows

variable {digit? : Char → Option Nat} {cs : List Char} {ds : List Nat}

theorem DigitsOf.isSome_of_mem (h : DigitsOf digit? cs ds) : ∀ c ∈ cs, (digit? c).isSome := by
  induction h with
  | nil => simp
  | cons hd _ ih => exact List.forall_mem_cons.2 ⟨by simp [hd], ih⟩

theorem DigitsOf.filterMap_eq (h : DigitsOf digit? cs ds) : cs.filterMap digit? = ds := by
  induction h with
  | nil => rfl
  | cons hd _ ih => rw [List.filterMap_cons_some hd, ih]

theorem digitsOf_filterMap (h : ∀ c ∈ cs, (digit? c).isSome) :
    DigitsOf digit? cs (cs.filterMap digit?) := by
  induction cs with
  | nil => exact .nil
  | cons c r ih =>
    rw [List.forall_mem_cons] at h
    obtain ⟨d, hd⟩ := Option.isSome_iff_exists.1 h.1
    rw [List.filterMap_cons_some hd]
    exact .cons hd (ih h.2)

theorem DigitsOf.lt_of_mem (hlt : ∀ c d, digit? c = some d → d < 10)
    (h : DigitsOf digit? cs ds) : ∀ d ∈ ds, d < 10 := by
  induction h with
  | nil => simp
  | cons hd _ ih => exact List.forall_mem_cons.2 ⟨hlt _ _ hd, ih⟩

theorem digitsOf_ascii_iff :
    DigitsOf asciiDigit? cs ds ↔ (∀ d ∈ ds, d < 10) ∧ cs = ds.map Nat.digitChar := by
  constructor
  · intro h
    refine ⟨h.lt_of_mem fun _ _ => asciiDigit?_lt, ?_⟩
    induction h with
    | nil => rfl
    | cons hd _ ih => rw [List.map_cons, ← ih, (asciiDigit?_eq_some_iff.1 hd).2]
  · rintro ⟨hlt, rfl⟩
    induction ds with
    | nil => exact .nil
    | cons d ds ih =>
      rw [List.forall_mem_cons] at hlt
      exact .cons (asciiDigit?_eq_some_iff.2 ⟨hlt.1, rfl⟩) (ih hlt.2)

theorem toDigits_decimalFrom {high : Nat} (hhigh : 0 < high) (hds : ∀ d ∈ ds, d < 10) :
    Nat.toDigits 10 (decimalFrom high ds) = Nat.toDigits 10 high ++ ds.map Nat.digitChar := by
  induction ds generalizing high with
  | nil => simp [decimalFrom]
  | cons d ds ih =>
    rw [List.forall_mem_cons] at hds
    have hgrown : 0 < 10 * high + d := by omega
    have hnext := ih hgrown hds.2
    have hdigit := Nat.toDigits_append_toDigits (by decide : 1 < 10) hhigh hds.1
    rw [Nat.toDigits_of_lt_base hds.1] at hdigit
    calc Nat.toDigits 10 (decimalFrom high (d :: ds))
        = Nat.toDigits 10 (decimalFrom (10 * high + d) ds) := rfl
      _ = Nat.toDigits 10 (10 * high + d) ++ ds.map Nat.digitChar := hnext
      _ = Nat.toDigits 10 high ++ (d :: ds).map Nat.digitChar := by
        rw [← hdigit, List.append_assoc]
        rfl

theorem toDigits_ofDecimal {d : Nat} (hd : 0 < d) (hlt : ∀ e ∈ d :: ds, e < 10) :
    Nat.toDigits 10 (ofDecimal (d :: ds)) = (d :: ds).map Nat.digitChar := by
  rw [List.forall_mem_cons] at hlt
  have hfrom := toDigits_decimalFrom hd hlt.2
  have hfirst : ofDecimal (d :: ds) = decimalFrom d ds := by
    simp [ofDecimal, decimalFrom]
  rw [hfirst, hfrom, Nat.toDigits_of_lt_base hlt.1]
  rfl

end Rows

end ExportBundle.Text
