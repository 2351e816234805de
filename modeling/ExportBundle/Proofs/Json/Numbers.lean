import ExportBundle.Proofs.Json.Strings

/-! Reading a whole number back. Main statement: the base-ten text of a whole number reads as the
number, unless it goes on in what follows. -/

namespace ExportBundle.Json.Reader

def Ends (rest : List Char) : Prop :=
  ∀ c ∈ rest.head?, isSpace c = true ∨ c = ',' ∨ c = ']' ∨ c = '\x7d'

theorem ofDecimal_digitValues (cs : List Char) :
    Text.ofDecimal (digitValues cs) = Nat.ofDigitChars 10 cs 0 := by
  rw [Text.ofDecimal, Text.decimalFrom, digitValues, List.foldl_map]
  rfl

theorem isDigit_of_mem_toDigits {n : Nat} {c : Char} (h : c ∈ Nat.toDigits 10 n) :
    c.isDigit = true := Nat.isDigit_of_mem_toDigits (by decide) (by decide) h

theorem head?_toDigits_ne {n : Nat} (h : 0 < n) : (Nat.toDigits 10 n).head? ≠ some '0' := by
  induction n using Nat.strongRecOn with
  | ind n ih =>
    by_cases hsmall : n < 10
    · rw [Nat.toDigits_of_lt_base hsmall]
      have hall : ∀ n < 10, 0 < n → [n.digitChar].head? ≠ some '0' := by decide
      exact hall n hsmall h
    · rw [Nat.toDigits_of_base_le (by decide) (by omega), List.head?_append]
      have hrest := ih (n / 10) (by omega) (by omega)
      have hne : Nat.toDigits 10 (n / 10) ≠ [] := Nat.toDigits_ne_nil
      obtain ⟨c, r, hcons⟩ := List.exists_cons_of_ne_nil hne
      rw [hcons] at hrest ⊢
      exact hrest

section Ending

variable {rest : List Char}

theorem Ends.cases (h : Ends rest) :
    rest = [] ∨ ∃ c r, rest = c :: r ∧
      c ∈ [' ', '\t', '\n', '\r', ',', ']', '\x7d'] := by
  cases rest with
  | nil => exact .inl rfl
  | cons c r =>
    have hc := h c rfl
    simp only [isSpace, Bool.or_eq_true, beq_iff_eq] at hc
    exact .inr ⟨c, r, rfl, by simpa [or_assoc] using hc⟩

theorem fraction_of_ends (h : Ends rest) : fraction rest = ([], rest) := by
  rcases h.cases with rfl | ⟨c, r, rfl, hc⟩
  · rfl
  · have hpoint : c ≠ '.' := by
      rintro rfl
      revert hc
      decide
    rw [fraction]
    exact fun r' he => hpoint (List.cons.inj he).1

theorem exponent_of_ends (h : Ends rest) : exponent rest = (none, rest) := by
  rcases h.cases with rfl | ⟨c, r, rfl, hc⟩
  · rfl
  · have hletter : (c == 'e' || c == 'E') = false := by
      clear h
      revert c
      decide
    unfold exponent
    split <;> simp_all

theorem span_digits {ds : List Char} (hds : ∀ c ∈ ds, c.isDigit = true) (h : Ends rest) :
    (ds ++ rest).takeWhile Char.isDigit = ds ∧ (ds ++ rest).dropWhile Char.isDigit = rest := by
  rw [List.takeWhile_append_of_pos hds, List.dropWhile_append_of_pos hds]
  rcases h.cases with rfl | ⟨c, r, rfl, hc⟩
  · simp
  · have hdigit : c.isDigit = false := by
      clear h
      revert c
      decide
    rw [List.takeWhile_cons_of_neg (by simp [hdigit]), List.dropWhile_cons_of_neg (by simp [hdigit])]
    simp

theorem whole?_toDigits (n : Nat) (h : Ends rest) :
    whole? (Nat.toDigits 10 n ++ rest) = some (Nat.toDigits 10 n, rest) := by
  by_cases hzero : n = 0
  · subst hzero
    rfl
  · obtain ⟨htake, hdrop⟩ := span_digits (fun c hc => isDigit_of_mem_toDigits (n := n) hc) h
    have hhead := head?_toDigits_ne (Nat.pos_of_ne_zero hzero)
    obtain ⟨c, r, hcons⟩ := List.exists_cons_of_ne_nil (Nat.toDigits_ne_nil (n := n) (b := 10))
    rw [hcons] at htake hdrop hhead ⊢
    rw [whole?, htake]
    · dsimp only
      rw [hdrop]
    · intro r' he
      obtain ⟨rfl, _⟩ := List.cons.inj he
      exact hhead rfl

theorem number_toDigits {limited : Bool} {n : Nat}
    (hlimit : limited = true → (Nat.toDigits 10 n).length ≤ Text.digitLimit) (h : Ends rest) :
    number limited (Nat.toDigits 10 n ++ rest) = .ok (.int n, rest) ∧
      number limited ('-' :: (Nat.toDigits 10 n ++ rest)) = .ok (.int (-n), rest) := by
  have hnegative : ((Nat.toDigits 10 n ++ rest).head? == some '-') = false := by
    obtain ⟨c, r, hcons⟩ := List.exists_cons_of_ne_nil (Nat.toDigits_ne_nil (n := n) (b := 10))
    have hdigit : c.isDigit = true := isDigit_of_mem_toDigits (n := n) (by simp [hcons])
    rw [hcons, List.cons_append, List.head?_cons, Bool.eq_false_iff]
    intro he
    obtain rfl := Option.some.inj (eq_of_beq he)
    revert hdigit
    decide
  have hshort : (limited && Text.digitLimit < (Nat.toDigits 10 n).length) = false := by
    cases limited with
    | false => rfl
    | true =>
      have := hlimit rfl
      simpa using this
  constructor
  · rw [number, hnegative]
    simp only [Bool.false_eq_true, if_false]
    rw [whole?_toDigits n h]
    simp only [fraction_of_ends h, exponent_of_ends h]
    simp [hshort, ofDecimal_digitValues]
  · rw [number, List.head?_cons]
    simp only [beq_self_eq_true, if_true, List.tail_cons]
    rw [whole?_toDigits n h]
    simp only [fraction_of_ends h, exponent_of_ends h]
    simp [hshort, ofDecimal_digitValues]

end Ending

theorem digit_cases {c : Char} (h : c.isDigit = true) :
    c ∈ ['0', '1', '2', '3', '4', '5', '6', '7', '8', '9'] := by
  simp only [Char.isDigit, Bool.and_eq_true, decide_eq_true_eq, UInt32.le_iff_toNat_le] at h
  obtain ⟨hlow, hhigh⟩ := h
  change 48 ≤ c.toNat at hlow
  change c.toNat ≤ 57 at hhigh
  have hall : ∀ n < 58, 48 ≤ n →
      Char.ofNat n ∈ ['0', '1', '2', '3', '4', '5', '6', '7', '8', '9'] := by decide
  have hmem := hall c.toNat (by omega) hlow
  rwa [Char.ofNat_toNat] at hmem

theorem value_number (limited : Bool) (fuel : Nat) {c : Char} (h : c.isDigit = true)
    (r : List Char) :
    value limited (fuel + 1) (c :: r) = number limited (c :: r) ∧
      value limited (fuel + 1) ('-' :: c :: r) = number limited ('-' :: c :: r) := by
  have hcases := digit_cases h
  simp only [List.mem_cons, List.not_mem_nil, or_false] at hcases
  rcases hcases with rfl | rfl | rfl | rfl | rfl | rfl | rfl | rfl | rfl | rfl <;>
    exact ⟨rfl, rfl⟩

theorem value_toDigits {limited : Bool} {n : Nat} {rest : List Char}
    (hlimit : limited = true → (Nat.toDigits 10 n).length ≤ Text.digitLimit) (h : Ends rest)
    (fuel : Nat) :
    value limited (fuel + 1) (Nat.toDigits 10 n ++ rest) = .ok (.int n, rest) ∧
      value limited (fuel + 1) ('-' :: (Nat.toDigits 10 n ++ rest)) = .ok (.int (-n), rest) := by
  obtain ⟨hplus, hminus⟩ := number_toDigits hlimit h
  obtain ⟨c, r, hcons⟩ := List.exists_cons_of_ne_nil (Nat.toDigits_ne_nil (n := n) (b := 10))
  have hdigit : c.isDigit = true := isDigit_of_mem_toDigits (n := n) (by simp [hcons])
  obtain ⟨hplus', hminus'⟩ := value_number limited fuel hdigit (r ++ rest)
  rw [hcons, List.cons_append] at hplus hminus ⊢
  exact ⟨hplus'.trans hplus, hminus'.trans hminus⟩

end ExportBundle.Json.Reader
