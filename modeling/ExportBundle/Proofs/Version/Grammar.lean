import ExportBundle.Proofs.Text.Decimal
import ExportBundle.Proofs.Text.Quoted
import ExportBundle.Proofs.Text.Split
import ExportBundle.Version.Parse
import Mathlib.Data.List.TakeWhile

/-! The grammar of versions. Which characters are digits is left open: reading takes the digits of
every script, and the ASCII digits alone make up the semantic versions. Main statements: exactly the
texts of the grammar are read, unless a number in them has too many digits, and of ASCII texts these
are the semantic versions. -/

namespace ExportBundle.Version

open Text (DigitsOf digitValue? asciiDigit?)

/-- A zero, or a digit `1` to `9` with digits behind it; and the values of the digits. -/
inductive Numeral (digit? : Char → Option Nat) : List Char → List Nat → Prop
  | zero : Numeral digit? ['0'] [0]
  | positive {c : Char} {r : List Char} {ds : List Nat} (first : '1' ≤ c ∧ c ≤ '9')
      (more : DigitsOf digit? r ds) : Numeral digit? (c :: r) ((c.toNat - '0'.toNat) :: ds)

def IsIdentifier (s : String) : Prop :=
  s ≠ "" ∧ ∀ c ∈ s.toList, '0' ≤ c ∧ c ≤ '9' ∨ 'A' ≤ c ∧ c ≤ 'Z' ∨ 'a' ≤ c ∧ c ≤ 'z' ∨ c = '-'

/-- Identifiers, at least one, with dots between them. -/
structure Dotted (cs : List Char) (identifiers : List String) : Prop where
  ne_nil : identifiers ≠ []
  valid : ∀ s ∈ identifiers, IsIdentifier s
  text : cs = ['.'].intercalate (identifiers.map String.toList)

/-- Nothing at all, or identifiers behind their mark. -/
inductive Suffix (mark : Char) : List Char → List String → Prop
  | absent : Suffix mark [] []
  | present {cs : List Char} {identifiers : List String} (h : Dotted cs identifiers) :
      Suffix mark (mark :: cs) identifiers

/-- The text of a version and nothing else. -/
inductive Spelled (digit? : Char → Option Nat) : List Char → Parts → Prop
  | intro {a b c d e : List Char} {p : Parts} (major : Numeral digit? a p.major)
      (minor : Numeral digit? b p.minor) (patch : Numeral digit? c p.patch)
      (prerelease : Suffix '-' d p.prerelease) (build : Suffix '+' e p.build) :
      Spelled digit? (a ++ '.' :: (b ++ '.' :: (c ++ (d ++ e)))) p

/-- The text of a version with a `v` or `=` in front, if anything, and with blanks around it. -/
def Written (digit? : Char → Option Nat) (s : String) (p : Parts) : Prop :=
  ∃ mark rest, mark ∈ [[], ['v'], ['=']] ∧ Text.trim s.toList = mark ++ rest ∧
    Spelled digit? rest p

def Parts.Short (p : Parts) : Prop :=
  ∀ ds ∈ [p.major, p.minor, p.patch], ds.length ≤ Text.digitLimit

def Parts.version (p : Parts) : Version :=
  ⟨Text.ofDecimal p.major, Text.ofDecimal p.minor, Text.ofDecimal p.patch, p.prerelease, p.build⟩

section Numbers

variable {cs rest : List Char} {ds : List Nat} {digit? : Char → Option Nat}

theorem Numeral.eq_cons (h : Numeral digit? cs ds) :
    ∃ c r, cs = c :: r ∧ '0' ≤ c ∧ c ≤ '9' := by
  cases h with
  | zero => exact ⟨'0', [], rfl, by decide, by decide⟩
  | positive first _ => exact ⟨_, _, rfl, Char.le_trans (by decide) first.1, first.2⟩

theorem Numeral.number?_append (h : Numeral digitValue? cs ds)
    (hrest : ∀ c ∈ rest.head?, digitValue? c = none) :
    number? (cs ++ rest) = some (ds, rest) := by
  cases h with
  | zero => rfl
  | @positive c r ds first more =>
    have hc : c ≠ '0' := by
      rintro rfl
      exact absurd first.1 (by decide)
    have hstop : rest.takeWhile (fun c => (digitValue? c).isSome) = [] := by
      cases rest with
      | nil => rfl
      | cons x _ => exact List.takeWhile_cons_of_neg (by simp [hrest x rfl])
    have hmore : (r ++ rest).takeWhile (fun c => (digitValue? c).isSome) = r := by
      rw [List.takeWhile_append_of_pos more.isSome_of_mem, hstop, List.append_nil]
    rw [List.cons_append, number?, if_pos first]
    · simp only [hmore, more.filterMap_eq, List.drop_left]
      rfl
    · exact fun hzero => hc hzero

theorem number?_eq_some (h : number? cs = some (ds, rest)) :
    ∃ front, Numeral digitValue? front ds ∧ cs = front ++ rest := by
  unfold number? at h
  split at h
  · cases h
    exact ⟨['0'], .zero, rfl⟩
  · rename_i c r _
    split at h
    · rename_i first
      obtain ⟨rfl, rfl⟩ := Prod.mk.inj (Option.some.inj h)
      refine ⟨c :: r.takeWhile fun c => (digitValue? c).isSome, .positive first
        (Text.digitsOf_filterMap fun _ hc =>
          List.mem_takeWhile_imp (p := fun c => (digitValue? c).isSome) hc), ?_⟩
      rw [List.cons_append]
      congr 1
      exact (List.prefix_iff_eq_append.1 (List.takeWhile_prefix _)).symm
    · cases h
  · cases h

end Numbers

section Identifiers

variable {cs : List Char} {identifiers pre build : List String}

theorem isIdentifierChar_iff {c : Char} : isIdentifierChar c = true ↔
    '0' ≤ c ∧ c ≤ '9' ∨ 'A' ≤ c ∧ c ≤ 'Z' ∨ 'a' ≤ c ∧ c ≤ 'z' ∨ c = '-' := by
  have hrange (low high : Char) :
      (decide (low.val ≤ c.val) && decide (c.val ≤ high.val)) = true ↔ low ≤ c ∧ c ≤ high := by
    rw [Bool.and_eq_true, decide_eq_true_eq, decide_eq_true_eq]
    rfl
  have hupper : c.isUpper = true ↔ 'A' ≤ c ∧ c ≤ 'Z' := decide_eq_true_iff
  have hlower : c.isLower = true ↔ 'a' ≤ c ∧ c ≤ 'z' := hrange 'a' 'z'
  have hdigit : c.isDigit = true ↔ '0' ≤ c ∧ c ≤ '9' := hrange '0' '9'
  change (((c.isUpper || c.isLower) || c.isDigit) || c == '-') = true ↔ _
  rw [Bool.or_eq_true, Bool.or_eq_true, Bool.or_eq_true, hupper, hlower, hdigit, beq_iff_eq,
    or_comm (b := '0' ≤ c ∧ c ≤ '9'), or_assoc, or_assoc]

theorem isIdentifier_iff {s : String} :
    IsIdentifier s ↔ s ≠ "" ∧ s.toList.all isIdentifierChar = true := by
  rw [IsIdentifier, List.all_eq_true]
  exact and_congr_right fun _ => forall₂_congr fun c _ => isIdentifierChar_iff.symm

theorem identifiers?_eq_some_iff : identifiers? cs = some identifiers ↔ Dotted cs identifiers := by
  constructor
  · intro h
    unfold identifiers? at h
    dsimp only at h
    split at h
    · rename_i hall
      obtain rfl := Option.some.inj h
      rw [List.all_eq_true] at hall
      refine ⟨by simpa using Text.split_ne_nil '.' cs, fun s hs => ?_, ?_⟩
      · obtain ⟨part, hpart, rfl⟩ := List.mem_map.1 hs
        have hvalid := hall part hpart
        rw [Bool.and_eq_true] at hvalid
        rw [isIdentifier_iff, String.toList_ofList]
        refine ⟨fun hempty => ?_, hvalid.2⟩
        have hnil : part = [] := by simpa using congrArg String.toList hempty
        simp [hnil] at hvalid
      · simp [Function.comp_def, Text.intercalate_split]
    · cases h
  · rintro ⟨hne, hvalid, rfl⟩
    have hparts : Text.split '.' (['.'].intercalate (identifiers.map String.toList)) =
        identifiers.map String.toList := by
      refine Text.split_intercalate (by simpa using hne) fun l hl hdot => ?_
      obtain ⟨s, hs, rfl⟩ := List.mem_map.1 hl
      exact absurd ((hvalid s hs).2 '.' hdot) (by decide)
    unfold identifiers?
    rw [hparts, if_pos]
    · simp [Function.comp_def]
    · rw [List.all_eq_true]
      intro l hl
      obtain ⟨s, hs, rfl⟩ := List.mem_map.1 hl
      obtain ⟨hs, hall⟩ := isIdentifier_iff.1 (hvalid s hs)
      rw [hall]
      simpa using hs

theorem build?_eq_some_iff : build? cs = some build ↔ Suffix '+' cs build := by
  constructor
  · intro h
    unfold build? at h
    split at h
    · cases h
      exact .absent
    · exact .present (identifiers?_eq_some_iff.1 h)
    · cases h
  · rintro (_ | h)
    · rfl
    · exact identifiers?_eq_some_iff.2 h

theorem Dotted.ne_plus (h : Dotted cs identifiers) : ∀ c ∈ cs, (c != '+') = true := by
  intro c hc
  rw [h.text] at hc
  rw [bne_iff_ne]
  rintro rfl
  rcases Text.mem_intercalate hc with hdot | ⟨l, hl, hplus⟩
  · exact absurd (List.mem_singleton.1 hdot) (by decide)
  · obtain ⟨s, hs, rfl⟩ := List.mem_map.1 hl
    exact absurd ((h.valid s hs).2 '+' hplus) (by decide)

theorem suffixes?_eq_some_iff : suffixes? cs = some (pre, build) ↔
    ∃ a b, cs = a ++ b ∧ Suffix '-' a pre ∧ Suffix '+' b build := by
  constructor
  · intro h
    unfold suffixes? at h
    split at h
    · rename_i r
      simp only [Option.bind_eq_bind, Option.bind_eq_some_iff, Option.pure_def, Option.some.injEq,
        Prod.mk.injEq] at h
      obtain ⟨pre', hpre, build', hbuild, rfl, rfl⟩ := h
      refine ⟨'-' :: r.takeWhile (· != '+'), r.dropWhile (· != '+'), ?_,
        .present (identifiers?_eq_some_iff.1 hpre), build?_eq_some_iff.1 hbuild⟩
      rw [List.cons_append, List.takeWhile_append_dropWhile]
    · simp only [Option.bind_eq_bind, Option.bind_eq_some_iff, Option.pure_def, Option.some.injEq,
        Prod.mk.injEq] at h
      obtain ⟨build', hbuild, rfl, rfl⟩ := h
      exact ⟨[], cs, rfl, .absent, build?_eq_some_iff.1 hbuild⟩
  · rintro ⟨a, b, rfl, hpre, hbuild⟩
    have hread := build?_eq_some_iff.2 hbuild
    cases hpre with
    | absent =>
      unfold suffixes?
      split
      · rename_i hcs
        rw [List.nil_append] at hcs
        rw [hcs] at hbuild
        nomatch hbuild
      · simp [hread]
    | @present a _ hdotted =>
      have hstop : b.takeWhile (· != '+') = [] ∧ b.dropWhile (· != '+') = b := by
        cases hbuild <;> simp
      rw [List.cons_append, suffixes?, List.takeWhile_append_of_pos hdotted.ne_plus,
        List.dropWhile_append_of_pos hdotted.ne_plus, hstop.1, hstop.2, List.append_nil,
        identifiers?_eq_some_iff.2 hdotted, hread]
      rfl

theorem digitValue?_head_suffixes {a b : List Char} (hpre : Suffix '-' a pre)
    (hbuild : Suffix '+' b build) : ∀ c ∈ (a ++ b).head?, digitValue? c = none := by
  cases hpre <;> cases hbuild <;> simp <;> decide

end Identifiers

section Texts

variable {cs : List Char} {p : Parts} {digit? : Char → Option Nat}

theorem dot?_eq_some_iff {r : List Char} : dot? cs = some r ↔ cs = '.' :: r := by
  constructor
  · intro h
    unfold dot? at h
    split at h
    · rw [Option.some.inj h]
    · cases h
  · rintro rfl
    rfl

theorem parts?_eq_some_iff : parts? cs = some p ↔ Spelled digitValue? cs p := by
  constructor
  · intro h
    simp only [parts?, Option.bind_eq_bind, Option.bind_eq_some_iff, Prod.exists, Option.pure_def,
      Option.some.injEq, dot?_eq_some_iff] at h
    obtain ⟨major, _, hfirst, _, rfl, minor, _, hsecond, _, rfl, patch, _, hthird, pre, build,
      hsuffixes, rfl⟩ := h
    obtain ⟨a, hmajor, rfl⟩ := number?_eq_some hfirst
    obtain ⟨b, hminor, rfl⟩ := number?_eq_some hsecond
    obtain ⟨c, hpatch, rfl⟩ := number?_eq_some hthird
    obtain ⟨d, e, rfl, hpre, hbuild⟩ := suffixes?_eq_some_iff.1 hsuffixes
    exact .intro hmajor hminor hpatch hpre hbuild
  · rintro ⟨hmajor, hminor, hpatch, hpre, hbuild⟩
    have hdot : ∀ r : List Char, ∀ c ∈ ('.' :: r).head?, digitValue? c = none := by
      intro r c hc
      obtain rfl := Option.some.inj hc
      decide
    simp only [parts?, hmajor.number?_append (hdot _), hminor.number?_append (hdot _),
      hpatch.number?_append (digitValue?_head_suffixes hpre hbuild),
      suffixes?_eq_some_iff.2 ⟨_, _, rfl, hpre, hbuild⟩, dot?, Option.bind_eq_bind,
      Option.bind_some, Option.pure_def]

theorem exists_mark (cs : List Char) :
    ∃ mark, mark ∈ [[], ['v'], ['=']] ∧ cs = mark ++ dropMark cs := by
  unfold dropMark
  split
  · exact ⟨['v'], by simp, rfl⟩
  · exact ⟨['='], by simp, rfl⟩
  · exact ⟨[], by simp, rfl⟩

theorem Spelled.dropMark_eq (h : Spelled digit? cs p) : dropMark cs = cs := by
  obtain ⟨hmajor, -, -, -, -⟩ := h
  obtain ⟨c, r, rfl, hlow, hhigh⟩ := hmajor.eq_cons
  rw [List.cons_append]
  unfold dropMark
  split
  · rename_i heq
    obtain ⟨rfl, -⟩ := List.cons.inj heq
    exact absurd hhigh (by decide)
  · rename_i heq
    obtain ⟨rfl, -⟩ := List.cons.inj heq
    exact absurd hhigh (by decide)
  · rfl

theorem written_iff {s : String} :
    Written digit? s p ↔ Spelled digit? (dropMark (Text.trim s.toList)) p := by
  constructor
  · rintro ⟨mark, rest, hmark, htrim, h⟩
    rw [htrim]
    simp only [List.mem_cons, List.not_mem_nil, or_false] at hmark
    rcases hmark with rfl | rfl | rfl
    · rw [List.nil_append, h.dropMark_eq]
      exact h
    · exact h
    · exact h
  · intro h
    obtain ⟨mark, hmark, htrim⟩ := exists_mark (Text.trim s.toList)
    exact ⟨mark, _, hmark, htrim, h⟩

theorem ofParts_of_short (h : p.Short) : ofParts p = .ok p.version := by
  rw [ofParts, if_pos]
  · rfl
  · rw [List.all_eq_true]
    exact fun ds hds => decide_eq_true (h ds hds)

theorem ofParts_of_not_short (h : ¬ p.Short) : ofParts p = .error .numberTooLong := by
  rw [ofParts, if_neg]
  rw [List.all_eq_true]
  exact fun hall => h fun ds hds => of_decide_eq_true (hall ds hds)

end Texts

section Parsing

variable {s : String} {v : Version} {p : Parts}

theorem parse_of_written (h : Written digitValue? s p) : parse s = ofParts p := by
  rw [parse, parts?_eq_some_iff.2 (written_iff.1 h)]

theorem parse_of_not_written (h : ∀ p, ¬ Written digitValue? s p) :
    parse s = .error (.invalid (Text.literal s)) := by
  have hparts : parts? (dropMark (Text.trim s.toList)) = none := by
    rw [Option.eq_none_iff_forall_ne_some]
    exact fun p hp => h p (written_iff.2 (parts?_eq_some_iff.1 hp))
  rw [parse, hparts]

theorem parse_eq_ok_iff :
    parse s = .ok v ↔ ∃ p, Written digitValue? s p ∧ p.Short ∧ v = p.version := by
  constructor
  · intro h
    rcases exists_or_forall_not (Written digitValue? s) with ⟨p, hp⟩ | hnone
    · rw [parse_of_written hp] at h
      by_cases hshort : p.Short
      · rw [ofParts_of_short hshort] at h
        exact ⟨p, hp, hshort, (Except.ok.inj h).symm⟩
      · rw [ofParts_of_not_short hshort] at h
        cases h
    · rw [parse_of_not_written hnone] at h
      cases h
  · rintro ⟨p, hp, hshort, rfl⟩
    rw [parse_of_written hp, ofParts_of_short hshort]

theorem parse_eq_numberTooLong_iff :
    parse s = .error .numberTooLong ↔ ∃ p, Written digitValue? s p ∧ ¬ p.Short := by
  constructor
  · intro h
    rcases exists_or_forall_not (Written digitValue? s) with ⟨p, hp⟩ | hnone
    · refine ⟨p, hp, fun hshort => ?_⟩
      rw [parse_of_written hp, ofParts_of_short hshort] at h
      cases h
    · rw [parse_of_not_written hnone] at h
      cases h
  · rintro ⟨p, hp, hshort⟩
    rw [parse_of_written hp, ofParts_of_not_short hshort]

theorem parse_eq_invalid_iff :
    parse s = .error (.invalid (Text.literal s)) ↔ ∀ p, ¬ Written digitValue? s p := by
  refine ⟨fun h p hp => ?_, parse_of_not_written⟩
  rw [parse_of_written hp] at h
  by_cases hshort : p.Short
  · rw [ofParts_of_short hshort] at h
    cases h
  · rw [ofParts_of_not_short hshort] at h
    cases h

end Parsing

/-! ASCII texts -/

section Ascii

variable {cs : List Char} {ds : List Nat} {identifiers : List String} {p : Parts}
  {digit? digit?' : Char → Option Nat}

theorem Numeral.mono (h : Numeral digit? cs ds)
    (hdigit : ∀ c ∈ cs, ∀ d, digit? c = some d → digit?' c = some d) :
    Numeral digit?' cs ds := by
  cases h with
  | zero => exact .zero
  | positive first more =>
    refine .positive first ?_
    induction more with
    | nil => exact .nil
    | cons hd _ ih =>
      refine .cons (hdigit _ (by simp) _ hd) (ih fun c hc => hdigit c ?_)
      rcases List.mem_cons.1 hc with rfl | hc
      · exact List.mem_cons_self
      · exact List.mem_cons_of_mem _ (List.mem_cons_of_mem _ hc)

theorem Spelled.mono (h : Spelled digit? cs p)
    (hdigit : ∀ c ∈ cs, ∀ d, digit? c = some d → digit?' c = some d) :
    Spelled digit?' cs p := by
  obtain ⟨hmajor, hminor, hpatch, hpre, hbuild⟩ := h
  exact .intro (hmajor.mono fun c hc => hdigit c (by simp [hc]))
    (hminor.mono fun c hc => hdigit c (by simp [hc]))
    (hpatch.mono fun c hc => hdigit c (by simp [hc])) hpre hbuild

theorem isVisible_of_le {c : Char} (hlow : '!' ≤ c) (hhigh : c ≤ '~') :
    Text.isVisible c = true := by
  rw [Char.le_def, UInt32.le_iff_toNat_le] at hlow hhigh
  change 33 ≤ c.toNat at hlow
  change c.toNat ≤ 126 at hhigh
  simp only [Text.isVisible, Bool.and_eq_true, decide_eq_true_eq]
  omega

theorem Numeral.isVisible (h : Numeral asciiDigit? cs ds) :
    ∀ c ∈ cs, Text.isVisible c = true := by
  cases h with
  | zero => decide
  | positive first more =>
    refine List.forall_mem_cons.2 ⟨?_, fun c hc => ?_⟩
    · exact isVisible_of_le (Char.le_trans (by decide) first.1) (Char.le_trans first.2 (by decide))
    · obtain ⟨d, hd⟩ := Option.isSome_iff_exists.1 (more.isSome_of_mem c hc)
      obtain ⟨hlt, rfl⟩ := Text.asciiDigit?_eq_some_iff.1 hd
      exact Text.isVisible_digitChar (by omega)

theorem IsIdentifier.isVisible {s : String} (h : IsIdentifier s) :
    ∀ c ∈ s.toList, Text.isVisible c = true := by
  intro c hc
  rcases h.2 c hc with ⟨hlow, hhigh⟩ | ⟨hlow, hhigh⟩ | ⟨hlow, hhigh⟩ | rfl
  · exact isVisible_of_le (Char.le_trans (by decide) hlow) (Char.le_trans hhigh (by decide))
  · exact isVisible_of_le (Char.le_trans (by decide) hlow) (Char.le_trans hhigh (by decide))
  · exact isVisible_of_le (Char.le_trans (by decide) hlow) (Char.le_trans hhigh (by decide))
  · decide

theorem Suffix.isVisible {mark : Char} (hmark : Text.isVisible mark = true)
    (h : Suffix mark cs identifiers) : ∀ c ∈ cs, Text.isVisible c = true := by
  cases h with
  | absent => simp
  | present hdotted =>
    refine List.forall_mem_cons.2 ⟨hmark, fun c hc => ?_⟩
    rw [hdotted.text] at hc
    rcases Text.mem_intercalate hc with hdot | ⟨l, hl, hc⟩
    · rw [List.mem_singleton.1 hdot]
      decide
    · obtain ⟨s, hs, rfl⟩ := List.mem_map.1 hl
      exact (hdotted.valid s hs).isVisible c hc

theorem Spelled.isVisible (h : Spelled asciiDigit? cs p) : ∀ c ∈ cs, Text.isVisible c = true := by
  obtain ⟨hmajor, hminor, hpatch, hpre, hbuild⟩ := h
  have hdot : Text.isVisible '.' = true := by decide
  simp only [List.forall_mem_append, List.forall_mem_cons]
  exact ⟨hmajor.isVisible, hdot, hminor.isVisible, hdot, hpatch.isVisible,
    hpre.isVisible (by decide), hbuild.isVisible (by decide)⟩

theorem Written.mono {s : String} (h : Written digit? s p)
    (hdigit : ∀ c ∈ s.toList, ∀ d, digit? c = some d → digit?' c = some d) :
    Written digit?' s p := by
  obtain ⟨mark, rest, hmark, htrim, hspelled⟩ := h
  refine ⟨mark, rest, hmark, htrim, hspelled.mono fun c hc => hdigit c (Text.mem_of_mem_trim ?_)⟩
  rw [htrim]
  exact List.mem_append_right _ hc

theorem written_ascii_iff {s : String} (hascii : ∀ c ∈ s.toList, c.toNat < 128) :
    Written digitValue? s p ↔ Written asciiDigit? s p :=
  ⟨fun h => h.mono fun c hc _ => Text.asciiDigit?_of_digitValue? (hascii c hc),
    fun h => h.mono fun _ _ _ => Text.digitValue?_of_asciiDigit?⟩

/-- Of the ASCII texts exactly the semantic versions are read. -/
theorem parse_ascii_eq_ok_iff {s : String} {v : Version} (hascii : ∀ c ∈ s.toList, c.toNat < 128) :
    parse s = .ok v ↔ ∃ p, Written asciiDigit? s p ∧ p.Short ∧ v = p.version := by
  simp only [parse_eq_ok_iff, written_ascii_iff hascii]

theorem parse_other_digit : parse "1٣.0.0" = .ok ⟨13, 0, 0, [], []⟩ ∧
    ∀ p, ¬ Written asciiDigit? "1٣.0.0" p := by
  refine ⟨by decide +kernel, fun p h => ?_⟩
  have hvisible := (written_iff.1 h).isVisible '٣' (by decide +kernel)
  revert hvisible
  decide

end Ascii

end ExportBundle.Version
