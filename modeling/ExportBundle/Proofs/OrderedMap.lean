import ExportBundle.OrderedMap
import Mathlib.Data.List.Basic
import Mathlib.Data.List.Induction

/-! What is in a map built entry by entry. Main statement: of the entries with one key the last is
the one that is kept. -/

namespace ExportBundle.OrderedMap

variable {κ α : Type} [BEq κ]

theorem ofEntries_append_singleton (l : List (κ × α)) (e : κ × α) :
    ofEntries (l ++ [e]) = (ofEntries l).put e.1 e.2 := by
  simp [ofEntries]

variable [LawfulBEq κ]

theorem get?_filter (p : κ → Bool) {k : κ} (h : p k = true) (m : OrderedMap κ α) :
    OrderedMap.get? (m.filter fun e => p e.1) k = m.get? k := by
  rw [get?, get?, List.find?_filter]
  congr 2
  funext e
  by_cases he : e.1 = k
  · simp [he, h]
  · simp [he]

theorem get?_filter_eq_none (p : κ → Bool) {k : κ} (h : p k = false) (m : OrderedMap κ α) :
    OrderedMap.get? (m.filter fun e => p e.1) k = none := by
  rw [get?, Option.map_eq_none_iff, List.find?_eq_none]
  intro e he hkey
  have hkept := (List.mem_filter.1 he).2
  rw [eq_of_beq hkey, h] at hkept
  cases hkept

theorem contains_iff_mem_keys (m : OrderedMap κ α) (k : κ) :
    m.contains k = true ↔ k ∈ m.keys := by
  simp [contains, keys]

theorem mem_keys_iff {m : OrderedMap κ α} {k : κ} : k ∈ m.keys ↔ ∃ a, m.get? k = some a := by
  rw [← contains_iff_mem_keys, contains_eq_isSome, Option.isSome_iff_exists]

theorem mem_of_get? {m : OrderedMap κ α} {k : κ} {a : α} (h : m.get? k = some a) : (k, a) ∈ m := by
  obtain ⟨⟨k', a'⟩, hfind, rfl⟩ := Option.map_eq_some_iff.1 h
  have hkey := List.find?_some hfind
  obtain rfl : k' = k := eq_of_beq hkey
  exact List.mem_of_find?_eq_some hfind

theorem get?_eq_some_iff {m : OrderedMap κ α} (h : m.keys.Nodup) {k : κ} {a : α} :
    m.get? k = some a ↔ (k, a) ∈ m := by
  induction m with
  | nil => simp
  | cons e r ih =>
    obtain ⟨x, v⟩ := e
    obtain ⟨hx, hr⟩ := List.nodup_cons.1 (show (x :: r.map (·.1)).Nodup from h)
    by_cases hk : x = k
    · subst hk
      have hnone : (x, a) ∉ r := fun hm => hx (List.mem_map.2 ⟨(x, a), hm, rfl⟩)
      simp [get?, hnone, eq_comm]
    · have hrest : OrderedMap.get? ((x, v) :: r) k = OrderedMap.get? r k := by
        simp [get?, hk]
      simp [hrest, ih hr, Ne.symm hk]

theorem nodup_keys_put {m : OrderedMap κ α} (h : m.keys.Nodup) (k : κ) (a : α) :
    (m.put k a).keys.Nodup := by
  rw [keys_put]
  split
  · exact h
  · rename_i hk
    rw [contains_iff_mem_keys] at hk
    rw [List.nodup_append]
    refine ⟨h, by simp, ?_⟩
    intro x hx y hy
    obtain rfl := List.mem_singleton.1 hy
    exact fun he => hk (he ▸ hx)

omit [LawfulBEq κ] in
theorem of_mem_put {m : OrderedMap κ α} {k : κ} {a : α} {e : κ × α} (h : e ∈ m.put k a) :
    e.2 = a ∨ e ∈ m := by
  induction m with
  | nil => exact .inl (congrArg Prod.snd (List.mem_singleton.1 h))
  | cons x r ih =>
    rw [put] at h
    split at h
    · rcases List.mem_cons.1 h with rfl | h
      · exact .inl rfl
      · exact .inr (List.mem_cons_of_mem x h)
    · rcases List.mem_cons.1 h with rfl | h
      · exact .inr List.mem_cons_self
      · exact (ih h).imp_right (List.mem_cons_of_mem x)

theorem mem_put {m : OrderedMap κ α} (h : m.keys.Nodup) {k k' : κ} {a a' : α} :
    (k', a') ∈ m.put k a ↔ k' = k ∧ a' = a ∨ k' ≠ k ∧ (k', a') ∈ m := by
  induction m with
  | nil => simp +contextual [put]
  | cons e r ih =>
    obtain ⟨x, v⟩ := e
    obtain ⟨hx, hr⟩ := List.nodup_cons.1 (show (x :: r.map (·.1)).Nodup from h)
    by_cases hk : x == k
    · obtain rfl := eq_of_beq hk
      rw [put, if_pos hk]
      simp only [List.mem_cons, Prod.mk.injEq]
      constructor
      · rintro (he | hm)
        · exact .inl he
        · have hne : k' ≠ x := fun he => hx (List.mem_map.2 ⟨(k', a'), hm, he⟩)
          exact .inr ⟨hne, .inr hm⟩
      · rintro (he | ⟨hne, he | hm⟩)
        · exact .inl he
        · exact absurd he.1 hne
        · exact .inr hm
    · have hne : x ≠ k := fun he => hk (by simp [he])
      rw [put, if_neg hk]
      simp only [List.mem_cons, Prod.mk.injEq, ih hr]
      constructor
      · rintro (⟨rfl, rfl⟩ | he | ⟨hne', hm⟩)
        · exact .inr ⟨hne, .inl ⟨rfl, rfl⟩⟩
        · exact .inl he
        · exact .inr ⟨hne', .inr hm⟩
      · rintro (he | ⟨hne', he | hm⟩)
        · exact .inr (.inl he)
        · exact .inl he
        · exact .inr (.inr ⟨hne', hm⟩)

theorem nodup_keys_ofEntries (l : List (κ × α)) : (ofEntries l).keys.Nodup := by
  induction l using List.reverseRecOn with
  | nil => exact List.nodup_nil
  | append_singleton l e ih =>
    rw [ofEntries_append_singleton]
    exact nodup_keys_put ih e.1 e.2

theorem eq_filterMap_keys {m : OrderedMap κ α} (h : m.keys.Nodup) :
    m = m.keys.filterMap fun k => (m.get? k).map fun a => (k, a) := by
  conv_lhs => rw [← List.filterMap_some (l := m)]
  rw [keys, List.filterMap_map]
  refine List.filterMap_congr fun e he => ?_
  rw [Function.comp_apply, (get?_eq_some_iff h).2 he, Option.map_some]

theorem eq_of_get?_eq {m m' : OrderedMap κ α} (h : m.keys.Nodup) (hkeys : m.keys = m'.keys)
    (hget : ∀ k, m.get? k = m'.get? k) : m = m' := by
  have hm := eq_filterMap_keys h
  have hm' := eq_filterMap_keys (m := m') (hkeys ▸ h)
  rw [hm, hm', hkeys]
  simp only [hget]

theorem put_of_notMem {m : OrderedMap κ α} {k : κ} (h : k ∉ m.keys) (a : α) :
    m.put k a = m ++ [(k, a)] := by
  induction m with
  | nil => rfl
  | cons e r ih =>
    simp only [keys, List.map_cons, List.mem_cons, not_or] at h
    have hne : (e.1 == k) = false := by simpa using Ne.symm h.1
    have hrest : OrderedMap.put r k a = r ++ [(k, a)] := ih h.2
    rw [put, hne, hrest]
    rfl

theorem ofEntries_of_nodup {l : List (κ × α)} (h : (keys l).Nodup) : ofEntries l = l := by
  induction l using List.reverseRecOn with
  | nil => rfl
  | append_singleton l e ih =>
    rw [keys, List.map_append, List.nodup_append] at h
    have hk : e.1 ∉ keys l := fun hmem => h.2.2 e.1 hmem e.1 (by simp) rfl
    rw [ofEntries_append_singleton, ih h.1, put_of_notMem hk]

theorem mem_ofEntries {l : List (κ × α)} {k : κ} {a : α} :
    (k, a) ∈ ofEntries l ↔ ∃ u v, l = u ++ (k, a) :: v ∧ ∀ e ∈ v, e.1 ≠ k := by
  induction l using List.reverseRecOn with
  | nil => simp [ofEntries]
  | append_singleton l e ih =>
    rw [ofEntries_append_singleton, mem_put (nodup_keys_ofEntries l), ih]
    constructor
    · rintro (⟨rfl, rfl⟩ | ⟨hne, u, v, rfl, hv⟩)
      · exact ⟨l, [], rfl, by simp⟩
      · refine ⟨u, v ++ [e], by simp, ?_⟩
        intro x hx
        rcases List.mem_append.1 hx with hx | hx
        · exact hv x hx
        · obtain rfl := List.mem_singleton.1 hx
          exact hne.symm
    · rintro ⟨u, v, hl, hv⟩
      rcases List.eq_nil_or_concat v with rfl | ⟨v', x, rfl⟩
      · obtain ⟨rfl, he⟩ := List.append_inj' hl rfl
        obtain rfl := List.singleton_inj.1 he
        exact .inl ⟨rfl, rfl⟩
      · have hl' : l ++ [e] = (u ++ (k, a) :: v') ++ [x] := by simpa using hl
        obtain ⟨rfl, he⟩ := List.append_inj' hl' rfl
        obtain rfl := List.singleton_inj.1 he
        refine .inr ⟨(hv e (by simp)).symm, u, v', rfl, ?_⟩
        exact fun y hy => hv y (by simp [hy])

end ExportBundle.OrderedMap
