import ExportBundle.Proofs.Export.Reading
import ExportBundle.Proofs.Export.Statements
import ExportBundle.Proofs.Identifier.Letters
import ExportBundle.Identifier.Counter
import Mathlib.Data.List.TakeWhile

/-! What a counter hands out. Its names are never reserved and never the same, whatever its stem is.
Main statement: they are safe exactly if the stem is made of letters, which an accepted stem need not
be, since a line feed may stand at its end. -/

namespace ExportBundle.Identifier

open Export (supplyAfter nameAt NeverRepeats)

theorem isLetters_iff {cs : List Char} : isLetters cs = true ↔
    ∃ ls, ls ≠ [] ∧ (∀ c ∈ ls, isLetter c = true) ∧ (cs = ls ∨ cs = ls ++ ['\n']) := by
  constructor
  · intro h
    have hfront : ∀ c ∈ cs.takeWhile isLetter, isLetter c = true :=
      fun c hc => List.mem_takeWhile_imp hc
    have hparts := List.takeWhile_append_dropWhile (p := isLetter) (l := cs)
    unfold isLetters at h
    split at h
    · rename_i hrest
      rw [hrest, List.append_nil] at hparts
      rw [hparts] at hfront
      exact ⟨cs, by simpa using h, hfront, .inl rfl⟩
    · simp only [Bool.and_eq_true, beq_iff_eq, bne_iff_ne] at h
      rw [h.1] at hparts
      refine ⟨cs.takeWhile isLetter, ?_, hfront, .inr hparts.symm⟩
      intro hempty
      rw [hempty] at hparts
      exact h.2 (by rw [← hparts]; rfl)
  · rintro ⟨ls, hne, hletters, rfl | rfl⟩
    · rw [isLetters, List.dropWhile_eq_nil_iff.2 hletters]
      simpa using hne
    · have hline : (['\n'] : List Char).dropWhile isLetter = ['\n'] := by decide
      obtain ⟨c, r, rfl⟩ := List.exists_cons_of_ne_nil hne
      have hc : c ≠ '\n' := by
        rintro rfl
        exact absurd (hletters '\n' (by simp)) (by decide)
      rw [isLetters, List.dropWhile_append_of_pos hletters, hline]
      simpa using hc

namespace Counter

theorem supplyAfter_eq (c : Counter) (n : Nat) :
    supplyAfter c n = { c with issued := c.issued + n } := by
  induction n generalizing c with
  | zero => rfl
  | succ n ih =>
    rw [supplyAfter, ih]
    simp only [Supply.draw, Counter.mk.injEq, true_and]
    omega

theorem nameAt_eq (c : Counter) (n : Nat) : nameAt c n = some (name c.stem (c.issued + n + 1)) := by
  rw [nameAt, supplyAfter_eq]
  rfl

theorem name_injective {stem : String} {m n : Nat} (h : name stem m = name stem n) : m = n := by
  have hletters := congrArg String.toList h
  rw [name, name, String.toList_append, String.toList_append, List.append_cancel_left_eq,
    String.toList_ofList, String.toList_ofList] at hletters
  exact letters_injective hletters

theorem neverRepeats (c : Counter) : NeverRepeats c := by
  intro m n name hm hn
  rw [nameAt_eq] at hm hn
  have hsame := name_injective (Option.some.inj (hm.trans hn.symm))
  omega

theorem name_notMem_reserved (stem : String) {n : Nat} (h : 0 < n) : name stem n ∉ reserved := by
  intro hreserved
  have hlower : ∀ w ∈ reserved, ∀ c ∈ w.toList, c.isUpper = false := by decide
  obtain ⟨c, r, hletters⟩ := List.exists_cons_of_ne_nil (letters_ne_nil h)
  have hupper : c.isUpper = true := isUpper_of_mem_letters (n := n) (by simp [hletters])
  have hc : c ∈ (name stem n).toList := by
    rw [name, String.toList_append, String.toList_ofList, hletters]
    simp
  rw [hlower _ hreserved c hc] at hupper
  cases hupper

theorem isSafeName_name_iff {stem : String} {n : Nat} (h : 0 < n) :
    IsSafeName (name stem n) ↔ ∀ c ∈ stem.toList, isLetter c = true := by
  have hchars : (name stem n).toList = stem.toList ++ letters n := by
    rw [name, String.toList_append, String.toList_ofList]
  constructor
  · intro hsafe c hc
    refine hsafe.letters c ?_
    rw [hchars]
    exact List.mem_append_left _ hc
  · intro hstem
    refine ⟨fun hempty => ?_, fun c hc => ?_, name_notMem_reserved stem h⟩
    · rw [hempty] at hchars
      exact letters_ne_nil h (List.append_eq_nil_iff.1 hchars.symm).2
    · rw [hchars] at hc
      rcases List.mem_append.1 hc with hc | hc
      · exact hstem c hc
      · exact isLetter_of_mem_letters hc

theorem ofStem_eq_ok {stem : String} {c : Counter} :
    ofStem stem = .ok c ↔ isLetters stem.toList = true ∧ c = ⟨stem, 0⟩ := by
  unfold ofStem
  split
  · rename_i h
    simp [h, eq_comm]
  · rename_i h
    simp [h]

/-- Of an accepted stem all names are handed out, each once and none of them reserved. Either the
stem is made of letters and the names are safe, or a line feed ends the stem and none of them is. -/
theorem names_of_stem {stem : String} {c : Counter} (h : ofStem stem = .ok c) :
    (∀ n, nameAt c n = some (name stem (n + 1))) ∧ NeverRepeats c ∧
    (∀ n, name stem (n + 1) ∉ reserved) ∧
    ((∀ ch ∈ stem.toList, isLetter ch = true) ∧ (∀ n, IsSafeName (name stem (n + 1))) ∨
      stem.toList.getLast? = some '\n' ∧ ∀ n, ¬ IsSafeName (name stem (n + 1))) := by
  obtain ⟨hstem, rfl⟩ := ofStem_eq_ok.1 h
  refine ⟨fun n => ?_, neverRepeats _, fun n => name_notMem_reserved stem n.succ_pos, ?_⟩
  · rw [nameAt_eq, Nat.zero_add]
  · obtain ⟨ls, _, hletters, hls | hls⟩ := isLetters_iff.1 hstem
    · rw [← hls] at hletters
      exact .inl ⟨hletters, fun n => (isSafeName_name_iff n.succ_pos).2 hletters⟩
    · refine .inr ⟨by simp [hls], fun n hsafe => ?_⟩
      have hline := (isSafeName_name_iff n.succ_pos).1 hsafe '\n' (by simp [hls])
      exact absurd hline (by decide)

example : ofStem "ab\n" = .ok ⟨"ab\n", 0⟩ := by decide

end Counter

end ExportBundle.Identifier
