import ExportBundle.Sorting

/-! The order that sorting makes. Main statement: a row and its rearrangements are sorted into one
row, as long as elements that may stand on either side of each other are the same. -/

namespace ExportBundle.Sorting

variable {α β : Type} {le : α → α → Bool}

section Order

variable (total : ∀ a b, le a b = true ∨ le b a = true)
  (trans : ∀ a b c, le a b = true → le b c = true → le a c = true)

include total trans

theorem pairwise_place {a : α} {l : List α} (h : l.Pairwise (le · · = true)) :
    (place le a l).Pairwise (le · · = true) := by
  induction l with
  | nil => exact List.pairwise_singleton _ a
  | cons b r ih =>
    obtain ⟨hb, hr⟩ := List.pairwise_cons.1 h
    unfold place
    split
    · rename_i hab
      refine List.pairwise_cons.2 ⟨fun c hc => ?_, h⟩
      rcases List.mem_cons.1 hc with rfl | hc
      · exact hab
      · exact trans a b c hab (hb c hc)
    · rename_i hab
      refine List.pairwise_cons.2 ⟨fun c hc => ?_, ih hr⟩
      rcases List.mem_cons.1 ((place_perm le a r).mem_iff.1 hc) with rfl | hc
      · exact (total c b).resolve_left hab
      · exact hb c hc

theorem pairwise_sort (l : List α) : (sort le l).Pairwise (le · · = true) := by
  induction l with
  | nil => exact .nil
  | cons a r ih => exact pairwise_place total trans ih

theorem sort_eq_of_perm {l l' : List α} (h : l.Perm l')
    (antisymm : ∀ a ∈ l, ∀ b ∈ l, le a b = true → le b a = true → a = b) :
    sort le l = sort le l' := by
  refine List.Perm.eq_of_pairwise (fun a b ha hb => ?_) (pairwise_sort total trans l)
    (pairwise_sort total trans l') (((sort_perm le l).trans h).trans (sort_perm le l').symm)
  exact antisymm a ((mem_sort le).1 ha) b (h.mem_iff.2 ((mem_sort le).1 hb))

end Order

theorem sort_map {le' : β → β → Bool} {f : α → β} (h : ∀ a b, le' (f a) (f b) = le a b)
    (l : List α) : sort le' (l.map f) = (sort le l).map f := by
  have hplace (a : α) (l : List α) : place le' (f a) (l.map f) = (place le a l).map f := by
    induction l with
    | nil => rfl
    | cons b r ih =>
      rw [List.map_cons, place, place, h, ih]
      split <;> rfl
  induction l with
  | nil => rfl
  | cons a r ih => rw [List.map_cons, sort, sort, ih, hplace]

/-- An element is put in front of a place in the row, or it may not stand ahead of what is there and is
put in behind. -/
theorem place_split (le : α → α → Bool) (a z : α) (u v : List α) :
    (∃ u', place le a (u ++ z :: v) = u' ++ z :: v) ∨
      le a z = false ∧ place le a (u ++ z :: v) = u ++ z :: place le a v := by
  induction u with
  | nil =>
    by_cases h : le a z = true
    · exact .inl ⟨[a], by simp [place, h]⟩
    · exact .inr ⟨by simpa using h, by simp [place, h]⟩
  | cons b u ih =>
    by_cases h : le a b = true
    · exact .inl ⟨a :: b :: u, by simp [place, h]⟩
    · rcases ih with ⟨u', hu⟩ | ⟨hz, hv⟩
      · exact .inl ⟨b :: u', by simp [place, h, hu]⟩
      · exact .inr ⟨hz, by simp [place, h, hv]⟩

theorem exists_place_eq (le : α → α → Bool) (a : α) (l : List α) :
    ∃ u v, place le a l = u ++ a :: v ∧ l = u ++ v := by
  induction l with
  | nil => exact ⟨[], [], rfl, rfl⟩
  | cons b r ih =>
    obtain ⟨u, v, hplace, hr⟩ := ih
    by_cases h : le a b = true
    · exact ⟨[], b :: r, by simp [place, h], rfl⟩
    · exact ⟨b :: u, v, by simp [place, h, hplace], by rw [hr, List.cons_append]⟩

theorem exists_sort_middle (le : α → α → Bool) (front back : List α) (z : α) :
    ∃ u v, sort le (front ++ z :: back) = u ++ z :: v ∧ ∀ b ∈ v, le b z = false ∨ b ∈ back := by
  induction front with
  | nil =>
    obtain ⟨u, v, hplace, hback⟩ := exists_place_eq le z (sort le back)
    refine ⟨u, v, hplace, fun b hb => .inr ((mem_sort le).1 ?_)⟩
    rw [hback]
    exact List.mem_append_right u hb
  | cons a r ih =>
    obtain ⟨u, v, hsort, hv⟩ := ih
    rw [List.cons_append, sort, hsort]
    rcases place_split le a z u v with ⟨u', hu⟩ | ⟨ha, hplace⟩
    · exact ⟨u', v, hu, hv⟩
    · refine ⟨u, place le a v, hplace, fun b hb => ?_⟩
      rcases List.mem_cons.1 ((place_perm le a v).mem_iff.1 hb) with rfl | hb
      · exact .inl ha
      · exact hv b hb

end ExportBundle.Sorting
