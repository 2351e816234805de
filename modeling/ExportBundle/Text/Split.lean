import ExportBundle.Text.Blank

/-! Cutting a text at a separator. There is always at least one piece, and the pieces with the
separator between them make up the text again. -/

namespace ExportBundle.Text

def split (separator : Char) : List Char → List (List Char)
  | [] => [[]]
  | c :: r =>
    if c = separator then [] :: split separator r
    else match split separator r with
      | [] => [[c]]
      | first :: rest => (c :: first) :: rest

def pieces (separator : Char) (s : String) : List String :=
  (split separator s.toList).map String.ofList

/-- The items between commas without the blanks around them; empty ones do not count. -/
def commaList (s : String) : List String :=
  (((split ',' s.toList).map trim).filter fun item => !item.isEmpty).map String.ofList

def words : List Char → List (List Char)
  | [] => []
  | c :: r =>
    if isBlank c then words r
    else match r with
      | [] => [[c]]
      | next :: _ =>
        if isBlank next then [c] :: words r
        else match words r with
          | [] => [[c]]
          | first :: rest => (c :: first) :: rest

theorem split_ne_nil (separator : Char) (cs : List Char) : split separator cs ≠ [] := by
  cases cs with
  | nil => simp [split]
  | cons c r =>
    simp only [split]
    split
    · simp
    · split <;> simp

theorem split_of_notMem {separator : Char} {cs : List Char} (h : separator ∉ cs) :
    split separator cs = [cs] := by
  induction cs with
  | nil => rfl
  | cons c r ih =>
    simp only [List.mem_cons, not_or] at h
    simp [split, Ne.symm h.1, ih h.2]

theorem split_append_separator (separator : Char) (a b : List Char) (h : separator ∉ a) :
    split separator (a ++ separator :: b) = a :: split separator b := by
  induction a with
  | nil => simp [split]
  | cons c r ih =>
    simp only [List.mem_cons, not_or] at h
    simp [split, Ne.symm h.1, ih h.2]

theorem split_intercalate {separator : Char} {ls : List (List Char)} (hne : ls ≠ [])
    (h : ∀ l ∈ ls, separator ∉ l) : split separator ([separator].intercalate ls) = ls := by
  induction ls with
  | nil => exact absurd rfl hne
  | cons a r ih =>
    cases r with
    | nil =>
      rw [List.intercalate_singleton]
      exact split_of_notMem (h a (by simp))
    | cons b r =>
      rw [List.intercalate_cons_cons, List.append_assoc, List.singleton_append,
        split_append_separator separator _ _ (h a (by simp)), ih (by simp)]
      intro l hl
      exact h l (List.mem_cons_of_mem a hl)

theorem mem_intercalate {separator : List Char} {ls : List (List Char)} {c : Char}
    (h : c ∈ separator.intercalate ls) : c ∈ separator ∨ ∃ l ∈ ls, c ∈ l := by
  induction ls with
  | nil => cases h
  | cons a r ih =>
    cases r with
    | nil =>
      rw [List.intercalate_singleton] at h
      exact .inr ⟨a, by simp, h⟩
    | cons b r =>
      rw [List.intercalate_cons_cons, List.append_assoc, List.mem_append, List.mem_append] at h
      rcases h with h | h | h
      · exact .inr ⟨a, by simp, h⟩
      · exact .inl h
      · rcases ih h with h | ⟨l, hl, h⟩
        · exact .inl h
        · exact .inr ⟨l, List.mem_cons_of_mem a hl, h⟩

end ExportBundle.Text
