/-! Sorting by insertion. Elements that may stand on either side of each other stay in the order in
which they came, and none is lost or doubled. -/

namespace ExportBundle.Sorting

variable {α : Type} (le : α → α → Bool)

/-- The row with `a` put in front of the first element that may follow it. -/
def place (a : α) : List α → List α
  | [] => [a]
  | b :: r => if le a b then a :: b :: r else b :: place a r

def sort : List α → List α
  | [] => []
  | a :: r => place le a (sort r)

theorem place_perm (a : α) (l : List α) : (place le a l).Perm (a :: l) := by
  induction l with
  | nil => exact List.Perm.refl _
  | cons b r ih =>
    unfold place
    split
    · exact List.Perm.refl _
    · exact (ih.cons b).trans (List.Perm.swap a b r)

theorem sort_perm (l : List α) : (sort le l).Perm l := by
  induction l with
  | nil => exact List.Perm.refl _
  | cons a r ih => exact (place_perm le a _).trans (ih.cons a)

@[simp] theorem mem_sort {a : α} {l : List α} : a ∈ sort le l ↔ a ∈ l :=
  (sort_perm le l).mem_iff

end ExportBundle.Sorting
