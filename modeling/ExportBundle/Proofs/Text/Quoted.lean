import ExportBundle.Text.Blank
import ExportBundle.Text.Quoted

/-! What stands inside a quoted text. Main statement: a text in JSON quotes consists of printable
ASCII characters, and a space comes only from a space of the text itself. -/

namespace ExportBundle.Text

def isVisible (c : Char) : Bool := 33 ≤ c.toNat && c.toNat < 127

theorem isVisible_digitChar {n : Nat} (h : n < 16) : isVisible n.digitChar = true := by
  have hall : ∀ n < 16, isVisible n.digitChar = true := by decide
  exact hall n h

theorem isVisible_of_mem_toDigitsCore {fuel n : Nat} {ds : List Char}
    (hds : ∀ c ∈ ds, isVisible c = true) :
    ∀ c ∈ Nat.toDigitsCore 16 fuel n ds, isVisible c = true := by
  induction fuel generalizing n ds with
  | zero => exact hds
  | succ fuel ih =>
    have hcons : ∀ c ∈ (n % 16).digitChar :: ds, isVisible c = true := by
      intro c hc
      rcases List.mem_cons.1 hc with rfl | hc
      · exact isVisible_digitChar (by omega)
      · exact hds c hc
    rw [Nat.toDigitsCore]
    split
    · exact hcons
    · exact ih hcons

theorem isVisible_of_mem_hex {width n : Nat} {c : Char} (h : c ∈ (hex width n).toList) :
    isVisible c = true := by
  rw [hex, String.toList_ofList, List.mem_append] at h
  rcases h with h | h
  · obtain rfl := List.eq_of_mem_replicate h
    decide
  · exact isVisible_of_mem_toDigitsCore (by simp) c h

theorem isVisible_of_mem_unitEscape {n : Nat} {c : Char} (h : c ∈ (unitEscape n).toList) :
    isVisible c = true := by
  rw [unitEscape, String.toList_append, List.mem_append] at h
  rcases h with h | h
  · revert c
    decide
  · exact isVisible_of_mem_hex h

theorem mem_jsonEscape {n : Nat} {c : Char} (h : c ∈ (jsonEscape n).toList) :
    isVisible c = true ∨ c = ' ' ∧ n = 32 := by
  unfold jsonEscape at h
  split at h
  all_goals try (left; revert c; decide)
  split at h
  · rename_i hn
    rw [String.toList_singleton, List.mem_singleton] at h
    have hall : ∀ n < 127, 32 ≤ n →
        isVisible (Char.ofNat n) = true ∨ Char.ofNat n = ' ' ∧ n = 32 := by decide
    subst h
    exact hall n hn.2 hn.1
  · exact .inl (isVisible_of_mem_unitEscape h)

theorem space_mem_of_units {cs : List Char} (h : 32 ∈ units cs) : ' ' ∈ cs := by
  have own {c : Char} (hc : 32 ∈ charUnits c) : c = ' ' := by
    unfold charUnits at hc
    split at hc
    · exact Char.toNat_inj.1 (List.mem_singleton.1 hc).symm
    · simp only [List.mem_cons, List.not_mem_nil, or_false, highUnit, lowUnit] at hc
      omega
  induction cs with
  | nil => simp [units] at h
  | cons c r ih =>
    unfold units at h
    split at h
    · rename_i n hn
      have hlow := (toNat_of_half? hn).2.1
      split at h
      · rcases List.mem_append.1 h with hc | hr
        · simp [own hc]
        · exact List.mem_cons_of_mem c (ih hr)
      · rcases List.mem_cons.1 h with hc | hr
        · omega
        · exact List.mem_cons_of_mem c (ih hr)
    · rcases List.mem_append.1 h with hc | hr
      · simp [own hc]
      · exact List.mem_cons_of_mem c (ih hr)

theorem mem_jsonQuoted {s : String} {c : Char} (h : c ∈ (jsonQuoted s).toList) :
    isVisible c = true ∨ c = ' ' ∧ ' ' ∈ s.toList := by
  rw [jsonQuoted, String.toList_append, String.toList_append, List.mem_append, List.mem_append,
    String.toList_join] at h
  rcases h with (h | h) | h
  · left
    revert c
    decide
  · obtain ⟨text, htext, hc⟩ := List.mem_flatMap.1 h
    obtain ⟨n, hn, rfl⟩ := List.mem_map.1 htext
    rcases mem_jsonEscape hc with hv | ⟨rfl, rfl⟩
    · exact .inl hv
    · exact .inr ⟨rfl, space_mem_of_units hn⟩
  · left
    revert c
    decide

theorem newline_notMem_jsonQuoted (s : String) : '\n' ∉ (jsonQuoted s).toList := by
  intro h
  rcases mem_jsonQuoted h with hv | ⟨hc, _⟩
  · revert hv
    decide
  · revert hc
    decide

theorem isBlank_eq_false_of_isVisible {c : Char} (h : isVisible c = true) : isBlank c = false := by
  simp only [isVisible, Bool.and_eq_true, decide_eq_true_eq] at h
  rw [Bool.eq_false_iff, ne_eq, isBlank, inRanges_iff]
  simp only [blankRanges, List.mem_cons, List.not_mem_nil, or_false, exists_eq_or_imp,
    exists_eq_left]
  omega

theorem isBlank_eq_false_of_mem_jsonQuoted {s : String} (hs : ' ' ∉ s.toList) {c : Char}
    (h : c ∈ (jsonQuoted s).toList) : isBlank c = false := by
  rcases mem_jsonQuoted h with hv | ⟨_, hspace⟩
  · exact isBlank_eq_false_of_isVisible hv
  · exact absurd hspace hs

end ExportBundle.Text
