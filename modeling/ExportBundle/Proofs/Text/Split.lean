import ExportBundle.Text.Split

/-! Pieces of a longer text. A separator cuts a text into what stands before and behind it, and there
is one piece more than there are separators. -/

namespace ExportBundle.Text

variable {separator : Char}

theorem split_append_cons (a b : List Char) :
    split separator (a ++ separator :: b) = split separator a ++ split separator b := by
  induction a with
  | nil => simp [split]
  | cons c r ih =>
    by_cases hc : c = separator
    · simp [split, hc, ih]
    · obtain ⟨first, rest, hr⟩ := List.exists_cons_of_ne_nil (split_ne_nil separator r)
      simp [split, hc, ih, hr]

theorem length_split (cs : List Char) :
    (split separator cs).length = cs.count separator + 1 := by
  induction cs with
  | nil => rfl
  | cons c r ih =>
    by_cases hc : c = separator
    · simp [split, hc, ih]
    · obtain ⟨first, rest, hr⟩ := List.exists_cons_of_ne_nil (split_ne_nil separator r)
      rw [hr] at ih
      simp [split, hc, hr, ← ih]

theorem intercalate_split (cs : List Char) : [separator].intercalate (split separator cs) = cs := by
  induction cs with
  | nil => simp [split]
  | cons c r ih =>
    obtain ⟨first, rest, hr⟩ := List.exists_cons_of_ne_nil (split_ne_nil separator r)
    rw [hr] at ih
    by_cases hc : c = separator
    · simp [split, hc, hr, List.intercalate_cons_cons, ih]
    · cases rest with
      | nil => simpa [split, hc, hr] using ih
      | cons next rest => simpa [split, hc, hr, List.intercalate_cons_cons] using ih

theorem exists_intercalate_append (separator : List Char) (texts : List (List Char)) :
    ∃ front, ∀ last, separator.intercalate (texts ++ [last]) = front ++ last := by
  induction texts with
  | nil => exact ⟨[], fun last => by simp⟩
  | cons t r ih =>
    obtain ⟨front, hfront⟩ := ih
    refine ⟨t ++ separator ++ front, fun last => ?_⟩
    obtain ⟨u, s, hu⟩ : ∃ u s, r ++ [last] = u :: s := List.exists_cons_of_ne_nil (by simp)
    rw [List.cons_append, hu, List.intercalate_cons_cons, ← hu, hfront]
    simp only [List.append_assoc]

end ExportBundle.Text
