/-! The positive numbers written with the letters `A` to `Z`: `A` is one, `Z` is twenty-six, `AA`
comes next. There is no digit for zero, so each number has one spelling. -/

namespace ExportBundle.Identifier

def letters : Nat → List Char
  | 0 => []
  | n + 1 => letters (n / 26) ++ [Char.ofNat ('A'.toNat + n % 26)]
termination_by n => n
decreasing_by omega

@[simp] theorem letters_zero : letters 0 = [] := by simp [letters]

theorem letters_succ (n : Nat) :
    letters (n + 1) = letters (n / 26) ++ [Char.ofNat ('A'.toNat + n % 26)] := by
  rw [letters]

theorem letters_ne_nil {n : Nat} (h : 0 < n) : letters n ≠ [] := by
  obtain ⟨m, rfl⟩ := Nat.exists_eq_succ_of_ne_zero (Nat.ne_of_gt h)
  simp [letters_succ]

end ExportBundle.Identifier
