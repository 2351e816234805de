import ExportBundle.Proofs.Version.Grammar

/-! Versions as text. Main statement: the text of a version that was read is read as the same
version, and it is what was read, if that was an ASCII text with nothing around the version. -/

namespace ExportBundle.Version

open Text (digitValue? asciiDigit?)

section Texts

variable {cs : List Char} {ds : List Nat} {identifiers : List String} {p : Parts} {mark : Char}

theorem firstDigit {c : Char} (h : '1' ≤ c ∧ c ≤ '9') :
    0 < c.toNat - '0'.toNat ∧ c.toNat - '0'.toNat < 10 ∧
      (c.toNat - '0'.toNat).digitChar = c := by
  obtain ⟨hlow, hhigh⟩ := h
  rw [Char.le_def, UInt32.le_iff_toNat_le] at hlow hhigh
  change 49 ≤ c.toNat at hlow
  change c.toNat ≤ 57 at hhigh
  change 0 < c.toNat - 48 ∧ c.toNat - 48 < 10 ∧ (c.toNat - 48).digitChar = c
  have hall : ∀ n < 58, 49 ≤ n → (n - 48).digitChar = Char.ofNat n := by decide
  refine ⟨by omega, by omega, ?_⟩
  rw [hall c.toNat (by omega) hlow, Char.ofNat_toNat]

theorem Numeral.printed (h : Numeral digitValue? cs ds) :
    Numeral asciiDigit? (Nat.toDigits 10 (Text.ofDecimal ds)) ds := by
  cases h with
  | zero => exact .zero
  | positive first more =>
    obtain ⟨hpos, hlt, hchar⟩ := firstDigit first
    have hmore := more.lt_of_mem fun _ _ => Text.digitValue?_lt
    rw [Text.toDigits_ofDecimal hpos (List.forall_mem_cons.2 ⟨hlt, hmore⟩), List.map_cons, hchar]
    exact .positive first (Text.digitsOf_ascii_iff.2 ⟨hmore, rfl⟩)

theorem Numeral.eq_toDigits (h : Numeral asciiDigit? cs ds) :
    cs = Nat.toDigits 10 (Text.ofDecimal ds) := by
  cases h with
  | zero => rfl
  | positive first more =>
    obtain ⟨hpos, hlt, hchar⟩ := firstDigit first
    obtain ⟨hmore, rfl⟩ := Text.digitsOf_ascii_iff.1 more
    rw [Text.toDigits_ofDecimal hpos (List.forall_mem_cons.2 ⟨hlt, hmore⟩), List.map_cons, hchar]

theorem Suffix.eq_suffix (h : Suffix mark cs identifiers) :
    cs = (suffix (String.singleton mark) identifiers).toList := by
  cases h with
  | absent => rfl
  | present hdotted =>
    have hsome : ¬ identifiers.isEmpty = true := by simpa using hdotted.ne_nil
    rw [suffix, if_neg hsome, String.toList_append, String.toList_intercalate, hdotted.text]
    simp

theorem Spelled.toList_text (h : Spelled asciiDigit? cs p) : p.version.text.toList = cs := by
  obtain ⟨hmajor, hminor, hpatch, hpre, hbuild⟩ := h
  rw [hmajor.eq_toDigits, hminor.eq_toDigits, hpatch.eq_toDigits, hpre.eq_suffix, hbuild.eq_suffix]
  simp [text, coreText, Parts.version, Text.decimal]

theorem Spelled.printed (h : Spelled digitValue? cs p) :
    Spelled asciiDigit? p.version.text.toList p := by
  obtain ⟨hmajor, hminor, hpatch, hpre, hbuild⟩ := h
  have hspelled := Spelled.intro hmajor.printed hminor.printed hpatch.printed hpre hbuild
  rw [hspelled.toList_text]
  exact hspelled

theorem Spelled.written (h : Spelled asciiDigit? cs p) : Written digitValue? (String.ofList cs) p := by
  have htrim : Text.trim cs = cs := Text.trim_of_forall fun c hc =>
    Text.isBlank_eq_false_of_isVisible (h.isVisible c hc)
  refine ⟨[], cs, by simp, ?_, h.mono fun _ _ _ => Text.digitValue?_of_asciiDigit?⟩
  rw [String.toList_ofList, htrim, List.nil_append]

theorem dropMark_of_head? (h : ∀ c ∈ cs.head?, c ≠ 'v' ∧ c ≠ '=') : dropMark cs = cs := by
  unfold dropMark
  split
  · exact absurd rfl (h 'v' rfl).1
  · exact absurd rfl (h '=' rfl).2
  · rfl

end Texts

/-- What was read is read again from its text, and its text is what it was read from, if that was an
ASCII text with no blanks around it and no mark in front. -/
theorem parse_text {s : String} {v : Version} (h : parse s = .ok v) :
    parse v.text = .ok v ∧
      (Text.trim s.toList = s.toList → (∀ c ∈ s.toList.head?, c ≠ 'v' ∧ c ≠ '=') →
        (∀ c ∈ s.toList, c.toNat < 128) → v.text = s) := by
  obtain ⟨p, hwritten, hshort, rfl⟩ := parse_eq_ok_iff.1 h
  have hspelled := written_iff.1 hwritten
  have hagain := hspelled.printed.written
  rw [String.ofList_toList] at hagain
  refine ⟨parse_eq_ok_iff.2 ⟨p, hagain, hshort, rfl⟩, fun htrim hhead hascii => ?_⟩
  rw [htrim, dropMark_of_head? hhead] at hspelled
  have hplain : Spelled asciiDigit? s.toList p := hspelled.mono fun c hc _ =>
    Text.asciiDigit?_of_digitValue? (hascii c hc)
  exact String.toList_inj.1 hplain.toList_text

/-- Hyphens and zeros in the identifiers of both rows. -/
theorem parse_text_hyphens :
    parse "10.0.203--.0x.-1.00+01.-" = .ok ⟨10, 0, 203, ["-", "0x", "-1", "00"], ["01", "-"]⟩ ∧
      parse (text ⟨10, 0, 203, ["-", "0x", "-1", "00"], ["01", "-"]⟩) =
        .ok ⟨10, 0, 203, ["-", "0x", "-1", "00"], ["01", "-"]⟩ ∧
      text ⟨10, 0, 203, ["-", "0x", "-1", "00"], ["01", "-"]⟩ = "10.0.203--.0x.-1.00+01.-" := by
  have hparse : parse "10.0.203--.0x.-1.00+01.-" =
      .ok ⟨10, 0, 203, ["-", "0x", "-1", "00"], ["01", "-"]⟩ := by decide +kernel
  obtain ⟨hagain, htext⟩ := parse_text hparse
  exact ⟨hparse, hagain, htext (by decide +kernel) (by simp) (by decide +kernel)⟩

end ExportBundle.Version
