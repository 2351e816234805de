import ExportBundle.Json.Reader
import ExportBundle.Text.Quoted

/-! Reading a quoted string back. Main statement: whatever text is put between JSON quotes, the
reader finds it again and stops right behind the closing quote. -/

namespace ExportBundle

namespace Text

theorem toDigits_two {n : Nat} (hlow : 16 ≤ n) (hhigh : n < 256) :
    Nat.toDigits 16 n = [(n / 16).digitChar, (n % 16).digitChar] := by
  rw [Nat.toDigits_of_base_le (by decide) hlow, Nat.toDigits_of_lt_base (by omega)]
  rfl

theorem toDigits_three {n : Nat} (hlow : 256 ≤ n) (hhigh : n < 4096) :
    Nat.toDigits 16 n = [(n / 256).digitChar, (n / 16 % 16).digitChar, (n % 16).digitChar] := by
  rw [Nat.toDigits_of_base_le (by decide) (by omega), toDigits_two (by omega) (by omega),
    Nat.div_div_eq_div_mul]
  rfl

theorem toDigits_four {n : Nat} (hlow : 4096 ≤ n) (hhigh : n < 65536) :
    Nat.toDigits 16 n = [(n / 4096).digitChar, (n / 256 % 16).digitChar,
      (n / 16 % 16).digitChar, (n % 16).digitChar] := by
  rw [Nat.toDigits_of_base_le (by decide) (by omega), toDigits_three (by omega) (by omega),
    Nat.div_div_eq_div_mul, Nat.div_div_eq_div_mul]
  rfl

theorem toList_hex_four {n : Nat} (h : n < 65536) :
    (hex 4 n).toList = [(n / 4096).digitChar, (n / 256 % 16).digitChar,
      (n / 16 % 16).digitChar, (n % 16).digitChar] := by
  have hzero : Nat.digitChar 0 = '0' := rfl
  rw [hex, String.toList_ofList]
  by_cases hone : n < 16
  · have h3 : n / 4096 = 0 := by omega
    have h2 : n / 256 % 16 = 0 := by omega
    have h1 : n / 16 % 16 = 0 := by omega
    have h0 : n % 16 = n := by omega
    rw [Nat.toDigits_of_lt_base hone, h3, h2, h1, h0, hzero]
    rfl
  · by_cases htwo : n < 256
    · have h3 : n / 4096 = 0 := by omega
      have h2 : n / 256 % 16 = 0 := by omega
      have h1 : n / 16 % 16 = n / 16 := by omega
      rw [toDigits_two (by omega) htwo, h3, h2, h1, hzero]
      rfl
    · by_cases hthree : n < 4096
      · have h3 : n / 4096 = 0 := by omega
        have h2 : n / 256 % 16 = n / 256 := by omega
        rw [toDigits_three (by omega) hthree, h3, h2, hzero]
        rfl
      · rw [toDigits_four (by omega) h]
        rfl

theorem toNat_ofNat {n : Nat} (h : n.isValidChar) : (Char.ofNat n).toNat = n := by
  rw [Char.ofNat, dif_pos h]
  rfl

theorem eq_toNat_of_ofNat {n : Nat} {c : Char} (h : Char.ofNat n = c) (hc : c ≠ '\x00') :
    n = c.toNat := by
  subst h
  by_cases hn : n.isValidChar
  · rw [toNat_ofNat hn]
  · refine absurd ?_ hc
    rw [Char.ofNat, dif_neg hn]
    rfl

theorem lt_of_mem_charUnits {c : Char} {n : Nat} (h : n ∈ charUnits c) : n < 65536 := by
  have hv := toNat_valid c
  unfold charUnits at h
  split at h
  · obtain rfl := List.mem_singleton.1 h
    assumption
  · simp only [List.mem_cons, List.not_mem_nil, or_false, highUnit, lowUnit] at h
    omega

theorem lt_of_mem_units {cs : List Char} {n : Nat} (h : n ∈ units cs) : n < 65536 := by
  induction cs with
  | nil => simp [units] at h
  | cons c r ih =>
    unfold units at h
    split at h
    · rename_i m hm
      have hhigh := (toNat_of_half? hm).2.2
      split at h
      · rcases List.mem_append.1 h with hc | hr
        · exact lt_of_mem_charUnits hc
        · exact ih hr
      · rcases List.mem_cons.1 h with hc | hr
        · omega
        · exact ih hr
    · rcases List.mem_append.1 h with hc | hr
      · exact lt_of_mem_charUnits hc
      · exact ih hr

end Text

namespace Json.Reader

open Text

theorem hexValue?_digitChar {d : Nat} (h : d < 16) : hexValue? d.digitChar = some d := by
  have hall : ∀ d < 16, hexValue? d.digitChar = some d := by decide
  exact hall d h

theorem unit?_digits {n : Nat} (h : n < 65536) :
    unit? (n / 4096).digitChar (n / 256 % 16).digitChar (n / 16 % 16).digitChar
      (n % 16).digitChar = some n := by
  rw [unit?, hexValue?_digitChar (by omega), hexValue?_digitChar (by omega),
    hexValue?_digitChar (by omega), hexValue?_digitChar (by omega)]
  simp only [Option.bind_eq_bind, Option.bind_some, Option.pure_def, Option.some.injEq]
  omega

theorem units_unitEscape {n : Nat} (h : n < 65536) (start : List Char) (e : Char) (r : List Char) :
    units start ((unitEscape n).toList ++ e :: r) =
      (units start (e :: r)).map fun (l, rest) => (n :: l, rest) := by
  have hlist : (unitEscape n).toList ++ e :: r = '\\' :: 'u' :: (n / 4096).digitChar ::
      (n / 256 % 16).digitChar :: (n / 16 % 16).digitChar :: (n % 16).digitChar :: e :: r := by
    rw [unitEscape, String.toList_append, toList_hex_four h]
    rfl
  rw [hlist, units, unit?_digits h]

theorem units_plain {c : Char} (hquote : c ≠ '"') (hbackslash : c ≠ '\\') (hc : 32 ≤ c.toNat)
    (start r : List Char) :
    units start (c :: r) = (units start r).map fun (l, rest) => (c.toNat :: l, rest) := by
  rw [units, if_neg (by omega)]
  · exact hquote
  · exact fun h _ => hbackslash h
  · exact fun _ h _ => hbackslash h
  · exact fun _ _ h _ => hbackslash h

theorem units_jsonEscape {n : Nat} (h : n < 65536) (start : List Char) (e : Char) (r : List Char) :
    units start ((jsonEscape n).toList ++ e :: r) =
      (units start (e :: r)).map fun (l, rest) => (n :: l, rest) := by
  unfold jsonEscape
  split
  case h_8 hquote hbackslash _ _ _ _ _ =>
    split
    · rename_i hn
      rw [String.toList_singleton, List.singleton_append, units_plain hquote hbackslash,
        toNat_ofNat (Or.inl (by omega))]
      rw [toNat_ofNat (Or.inl (by omega))]
      exact hn.1
    · exact units_unitEscape h start e r
  -- the units with an escape of their own
  all_goals
    rename_i hc
    obtain rfl := eq_toNat_of_ofNat hc (by decide)
    rfl

theorem units_escaped {us : List Nat} (h : ∀ n ∈ us, n < 65536) (start rest : List Char) :
    units start (us.flatMap (fun n => (jsonEscape n).toList) ++ '"' :: rest) = .ok (us, rest) := by
  induction us with
  | nil => rfl
  | cons n us ih =>
    have hnext := ih fun m hm => h m (List.mem_cons_of_mem n hm)
    obtain ⟨e, r, htail⟩ : ∃ e r,
        us.flatMap (fun n => (jsonEscape n).toList) ++ '"' :: rest = e :: r :=
      List.exists_cons_of_ne_nil (by simp)
    rw [htail] at hnext
    rw [List.flatMap_cons, List.append_assoc, htail, units_jsonEscape (h n (by simp)), hnext]
    rfl

theorem toList_jsonQuoted (s : String) :
    (jsonQuoted s).toList =
      '"' :: (Text.units s.toList).flatMap (fun n => (jsonEscape n).toList) ++ ['"'] := by
  rw [jsonQuoted, String.toList_append, String.toList_append, String.toList_join, List.flatMap_map]
  rfl

/-- A quoted text reads as the text, whatever stands before and behind it. -/
theorem string_jsonQuoted (s : String) (start rest : List Char) :
    string start ((Text.units s.toList).flatMap (fun n => (jsonEscape n).toList) ++ '"' :: rest) =
      .ok (s, rest) := by
  have hunits : ∀ n ∈ Text.units s.toList, n < 65536 := fun n => lt_of_mem_units
  rw [string, units_escaped hunits, Except.map]
  dsimp only
  rw [ofUnits_units, String.ofList_toList]

end Json.Reader

end ExportBundle
