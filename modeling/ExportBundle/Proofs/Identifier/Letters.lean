import ExportBundle.Identifier.Basic
import ExportBundle.Identifier.Letters
import Mathlib.Data.List.Induction
import Mathlib.Data.List.Shortlex
import Mathlib.Data.Set.Function

/-! The number that a row of letters stands for. A number is read back from its letters, and every
row of capital letters is what some number is written as. Main statement: writing is an isomorphism
between the positive numbers and these rows, which are ordered by length first and then by the
alphabet. -/

namespace ExportBundle.Identifier

section Orders

variable {α : Type*} {r : α → α → Prop}

theorem lex_append_singleton {a b : List α} (h : a.length = b.length) (c d : α) :
    List.Lex r (a ++ [c]) (b ++ [d]) ↔ List.Lex r a b ∨ a = b ∧ r c d := by
  induction a generalizing b with
  | nil =>
    obtain rfl := List.length_eq_zero_iff.1 h.symm
    simp
  | cons x a ih =>
    cases b with
    | nil => cases h
    | cons y b =>
      rw [List.cons_append, List.cons_append, List.cons_lex_cons_iff, List.cons_lex_cons_iff,
        ih (Nat.succ.inj h), List.cons.injEq, or_assoc, and_or_left, and_assoc]

theorem shortlex_append_singleton (a b : List α) (c d : α) :
    List.Shortlex r (a ++ [c]) (b ++ [d]) ↔ List.Shortlex r a b ∨ a = b ∧ r c d := by
  rw [List.shortlex_def, List.shortlex_def, List.length_append, List.length_append,
    List.length_singleton, List.length_singleton, Nat.add_lt_add_iff_right,
    Nat.add_right_cancel_iff]
  by_cases hlength : a.length = b.length
  · rw [lex_append_singleton hlength]
    simp [hlength]
  · have hne : a ≠ b := fun hab => hlength (congrArg List.length hab)
    simp [hlength, hne]

end Orders

def lettersValue (cs : List Char) : Nat :=
  cs.foldl (fun n c => n * 26 + (c.toNat - 'A'.toNat + 1)) 0

theorem lettersValue_append_singleton (cs : List Char) (c : Char) :
    lettersValue (cs ++ [c]) = lettersValue cs * 26 + (c.toNat - 'A'.toNat + 1) := by
  simp [lettersValue]

theorem toNat_letter {d : Nat} (h : d < 26) : (Char.ofNat ('A'.toNat + d)).toNat = 'A'.toNat + d := by
  have hall : ∀ d < 26, (Char.ofNat ('A'.toNat + d)).toNat = 'A'.toNat + d := by decide
  exact hall d h

theorem letter_lt_letter {d e : Nat} (hd : d < 26) (he : e < 26) :
    Char.ofNat ('A'.toNat + d) < Char.ofNat ('A'.toNat + e) ↔ d < e := by
  rw [Char.lt_def, UInt32.lt_iff_toNat_lt, Char.toNat_val, Char.toNat_val, toNat_letter hd,
    toNat_letter he, Nat.add_lt_add_iff_left]

theorem lettersValue_letters (n : Nat) : lettersValue (letters n) = n := by
  induction n using letters.induct with
  | case1 => simp [lettersValue]
  | case2 n ih =>
    have hdigit : n % 26 < 26 := Nat.mod_lt n (by decide)
    rw [letters_succ, lettersValue_append_singleton, ih, toNat_letter hdigit]
    omega

theorem letters_injective {m n : Nat} (h : letters m = letters n) : m = n := by
  rw [← lettersValue_letters m, h, lettersValue_letters]

theorem letters_inj {m n : Nat} : letters m = letters n ↔ m = n :=
  ⟨letters_injective, congrArg letters⟩

theorem isUpper_of_mem_letters {n : Nat} {c : Char} (h : c ∈ letters n) : c.isUpper = true := by
  induction n using letters.induct with
  | case1 => simp at h
  | case2 n ih =>
    rw [letters_succ, List.mem_append, List.mem_singleton] at h
    cases h with
    | inl hfront => exact ih hfront
    | inr hlast =>
      have hall : ∀ d < 26, (Char.ofNat ('A'.toNat + d)).isUpper = true := by decide
      rw [hlast]
      exact hall (n % 26) (Nat.mod_lt n (by decide))

theorem isLetter_of_mem_letters {n : Nat} {c : Char} (h : c ∈ letters n) : isLetter c = true := by
  change (c.isUpper || c.isLower) = true
  rw [isUpper_of_mem_letters h, Bool.true_or]

theorem isUpper_iff {c : Char} : c.isUpper = true ↔ 'A' ≤ c ∧ c ≤ 'Z' :=
  decide_eq_true_iff

theorem letters_lettersValue {cs : List Char} (h : ∀ c ∈ cs, 'A' ≤ c ∧ c ≤ 'Z') :
    letters (lettersValue cs) = cs := by
  induction cs using List.reverseRec with
  | nil => exact letters_zero
  | append_singleton cs c ih =>
    have hfront : letters (lettersValue cs) = cs := ih fun d hd => h d (List.mem_append_left _ hd)
    obtain ⟨hlow, hhigh⟩ := h c (by simp)
    rw [Char.le_def, UInt32.le_iff_toNat_le, Char.toNat_val, Char.toNat_val] at hlow hhigh
    change c.toNat ≤ 'A'.toNat + 25 at hhigh
    -- one less than the number has this digit as its remainder, so nothing goes into the front
    have hdigit : c.toNat - 'A'.toNat < 26 := by omega
    have hquotient : (lettersValue cs * 26 + (c.toNat - 'A'.toNat)) / 26 = lettersValue cs := by
      omega
    have hremainder :
        (lettersValue cs * 26 + (c.toNat - 'A'.toNat)) % 26 = c.toNat - 'A'.toNat := by
      omega
    rw [lettersValue_append_singleton, ← Nat.add_assoc, letters_succ, hquotient, hremainder, hfront,
      Nat.add_sub_cancel' hlow, Char.ofNat_toNat]

theorem lt_iff_shortlex_letters (m n : Nat) :
    m < n ↔ List.Shortlex (· < ·) (letters m) (letters n) := by
  induction m using letters.induct generalizing n with
  | case1 =>
    cases n with
    | zero => simp
    | succ n =>
      have hlength : 0 < (letters (n + 1)).length :=
        List.length_pos_iff.2 (letters_ne_nil n.succ_pos)
      rw [letters_zero]
      exact iff_of_true n.succ_pos (.of_length_lt hlength)
  | case2 m ih =>
    cases n with
    | zero => simp
    | succ n =>
      have hm : m % 26 < 26 := Nat.mod_lt m (by decide)
      have hn : n % 26 < 26 := Nat.mod_lt n (by decide)
      rw [letters_succ, letters_succ, shortlex_append_singleton, ← ih, letters_inj,
        letter_lt_letter hm hn]
      omega

/-- The positive numbers are one to one with the rows of one or more capital letters, and a number
is less than another exactly if its row is shorter, or as long and earlier in the alphabet. -/
theorem letters_order_isomorphism :
    Set.BijOn letters {n | 0 < n} {cs | cs ≠ [] ∧ ∀ c ∈ cs, 'A' ≤ c ∧ c ≤ 'Z'} ∧
      ∀ m n, m < n ↔ List.Shortlex (· < ·) (letters m) (letters n) := by
  refine ⟨⟨fun n hn => ?_, fun m _ n _ h => letters_injective h, ?_⟩, lt_iff_shortlex_letters⟩
  · exact ⟨letters_ne_nil hn, fun c hc => isUpper_iff.1 (isUpper_of_mem_letters hc)⟩
  · rintro cs ⟨hne, hcapital⟩
    have hback : letters (lettersValue cs) = cs := letters_lettersValue hcapital
    refine ⟨lettersValue cs, Nat.pos_of_ne_zero fun hzero => hne ?_, hback⟩
    rw [← hback, hzero, letters_zero]

example : letters 26 = ['Z'] ∧ letters 27 = ['A', 'A'] ∧ letters 702 = ['Z', 'Z'] ∧
    letters 703 = ['A', 'A', 'A'] := by decide +kernel

end ExportBundle.Identifier
