import ExportBundle.Dependency.Decision
import ExportBundle.Proofs.Version.Precedence

/-! When the host's copy of a package stands in for the bundled one. Main statement: both have to be
versions, of equal precedence or else releases of one major version of which the host's is newer.
There is an answer unless a number among the prerelease identifiers is too long to be read, or what
stands there for a version is too deep to be shown. -/

namespace ExportBundle

open Json (Value)

namespace Version

/-- Both are releases of one major version, and the minor version and the patch of `v` come after
those of `w`. -/
structure Upgrades (v w : Version) : Prop where
  released : v.prerelease = [] ∧ w.prerelease = []
  major : v.major = w.major
  later : w.minor < v.minor ∨ w.minor = v.minor ∧ w.patch < v.patch

/-- The numbers among the prerelease identifiers are short enough to be read. -/
def Legible (v : Version) : Prop :=
  ∀ identifier ∈ v.prerelease, IsNumber identifier → identifier.length ≤ Text.digitLimit

section Versions

variable {v w : Version}

theorem Legible.tooLong?_eq_none (h : v.Legible) : v.tooLong? = none := by
  rw [tooLong?, Option.map_eq_none_iff, List.find?_eq_none]
  intro identifier hmem hlong
  rw [Bool.and_eq_true, isNumeric_iff, decide_eq_true_eq] at hlong
  exact absurd (h identifier hmem hlong.1) (Nat.not_le.2 hlong.2)

theorem legible_iff : v.Legible ↔ v.tooLong? = none := by
  refine ⟨Legible.tooLong?_eq_none, fun h identifier hmem hnumber => ?_⟩
  rw [tooLong?, Option.map_eq_none_iff, List.find?_eq_none] at h
  have hshort := h identifier hmem
  rw [Bool.and_eq_true, isNumeric_iff, decide_eq_true_eq] at hshort
  exact Nat.not_lt.1 fun hlong => hshort ⟨hnumber, hlong⟩

instance (v : Version) : Decidable v.Legible := decidable_of_iff _ legible_iff.symm

theorem SamePrecedence.symm (h : SamePrecedence v w) : SamePrecedence w v :=
  equivalent_iff.1 (equivalent_equivalence.symm (equivalent_iff.2 h))

theorem SamePrecedence.not_below (h : SamePrecedence v w) : ¬ Below v w := by
  rw [← compare_eq_lt, compare_eq_eq.2 h]
  nofun

theorem Below.not_below (h : Below v w) : ¬ Below w v := by
  rw [← compare_eq_lt, compare_swap v w, compare_eq_lt.2 h]
  nofun

theorem SamePrecedence.isPrerelease_eq (h : SamePrecedence v w) :
    v.isPrerelease = w.isPrerelease := by
  have hlength := h.prerelease.length_eq
  rw [Bool.eq_iff_iff, isPrerelease_eq_true, isPrerelease_eq_true, ← List.length_pos_iff,
    ← List.length_pos_iff, hlength]

theorem Upgrades.below (h : Upgrades v w) : Below w v := by
  rcases h.later with hminor | ⟨hminor, hpatch⟩
  · exact .minor h.major.symm hminor
  · exact .patch h.major.symm hminor hpatch

theorem Upgrades.isPrerelease_eq (h : Upgrades v w) : v.isPrerelease = w.isPrerelease := by
  rw [isPrerelease_eq_false.2 h.released.1, isPrerelease_eq_false.2 h.released.2]

/-- The numbers of a version are not below those of a version below it. -/
theorem Below.core_le (h : Below w v) : w.major < v.major ∨ w.major = v.major ∧
    (w.minor < v.minor ∨ w.minor = v.minor ∧ w.patch ≤ v.patch) := by
  rcases h with h | ⟨hmajor, h⟩ | ⟨hmajor, hminor, h⟩ | ⟨core, -, -⟩ | ⟨core, -, -⟩
  · exact .inl h
  · exact .inr ⟨hmajor, .inl h⟩
  · exact .inr ⟨hmajor, .inr ⟨hminor, Nat.le_of_lt h⟩⟩
  · exact .inr ⟨core.major, .inr ⟨core.minor, core.patch.le⟩⟩
  · exact .inr ⟨core.major, .inr ⟨core.minor, core.patch.le⟩⟩

theorem distance?_eq_none : v.distance? w = none ↔ SamePrecedence v w := by
  rw [← equivalent_iff, distance?]
  split
  · rename_i h
    exact ⟨fun _ => h, fun _ => rfl⟩
  · rename_i h
    refine ⟨fun hnone => ?_, fun hsame => absurd hsame h⟩
    split at hnone <;> cases hnone

theorem distance?_of_below (h : Below w v) {d : Distance} (hd : w.distance? v = some d) :
    (d == .core false .patch || d == .core false .minor) = true ↔ Upgrades v w := by
  have hdiffer : ¬ w.equivalent v = true := fun hsame => (equivalent_iff.1 hsame).not_below h
  have hflag : (w.isPrerelease || v.isPrerelease) = false ↔
      v.prerelease = [] ∧ w.prerelease = [] := by
    rw [Bool.or_eq_false_iff, isPrerelease_eq_false, isPrerelease_eq_false, and_comm]
  have hcore := h.core_le
  rw [Bool.or_eq_true, beq_iff_eq, beq_iff_eq]
  rw [distance?, if_neg hdiffer, differingField?] at hd
  by_cases hmajor : w.major = v.major
  · rw [if_neg (not_not.2 hmajor)] at hd
    by_cases hminor : w.minor = v.minor
    · rw [if_neg (not_not.2 hminor)] at hd
      by_cases hpatch : w.patch = v.patch
      · rw [if_neg (not_not.2 hpatch)] at hd
        cases hd
        refine ⟨by simp, fun hup => ?_⟩
        have hlater := hup.later
        omega
      · rw [if_pos hpatch] at hd
        cases hd
        rw [or_iff_left (by simp), Distance.core.injEq, and_iff_left rfl, hflag]
        exact ⟨fun hr => ⟨hr, hmajor.symm, .inr ⟨hminor, by omega⟩⟩, Upgrades.released⟩
    · rw [if_pos hminor] at hd
      cases hd
      rw [or_iff_right (by simp), Distance.core.injEq, and_iff_left rfl, hflag]
      exact ⟨fun hr => ⟨hr, hmajor.symm, .inl (by omega)⟩, Upgrades.released⟩
  · rw [if_pos hmajor] at hd
    cases hd
    refine ⟨by simp, fun hup => absurd hup.major.symm hmajor⟩

theorem mayReplace_iff : v.mayReplace w = true ↔ SamePrecedence v w ∨ Upgrades v w := by
  unfold mayReplace
  cases hcompare : v.compare w with
  | lt =>
    have hbelow := compare_eq_lt.1 hcompare
    have hnewer : v.atLeast w = false := by
      rw [atLeast, precedes_iff.2 hbelow]
      rfl
    have hnone : v.distance? w ≠ none := fun hn => (distance?_eq_none.1 hn).not_below hbelow
    obtain ⟨d, hd⟩ := Option.ne_none_iff_exists'.1 hnone
    simp only [hnewer, hd, Bool.false_eq_true, if_false, Bool.false_and, false_iff, not_or]
    exact ⟨fun hsame => hsame.not_below hbelow, fun hup => hbelow.not_below hup.below⟩
  | eq =>
    have hsame := compare_eq_eq.1 hcompare
    simp only [distance?_eq_none.2 hsame, distance?_eq_none.2 hsame.symm, ite_self, true_iff]
    exact .inl hsame
  | gt =>
    have hbelow : Below w v := compare_eq_lt.1 (Std.OrientedCmp.gt_iff_lt.1 hcompare)
    have hnewer : v.atLeast w = true := by
      rw [atLeast, precedes, hcompare]
      rfl
    have hnone : w.distance? v ≠ none := fun hn => (distance?_eq_none.1 hn).not_below hbelow
    obtain ⟨d, hd⟩ := Option.ne_none_iff_exists'.1 hnone
    have hdiffer : ¬ SamePrecedence v w := fun hsame => hsame.symm.not_below hbelow
    simp only [hnewer, if_true, hd, Bool.true_and]
    rw [distance?_of_below hbelow hd, or_iff_right hdiffer]

end Versions

end Version

section Values

variable {depths : Depths} {host bundled : Value}

theorem not_ofValue_of_isVoid {v : Value} (h : v.isVoid = true) (u : Version) :
    Version.ofValue v ≠ .ok u := by
  cases v with
  | str s =>
    obtain rfl := String.isEmpty_iff.1 h
    exact nofun
  | _ =>
    rw [Version.ofValue]
    · split <;> exact nofun
    · exact nofun

/-- Of two values that are there, the first that is no version is too deep to be shown. -/
structure NotShown [Depths] (host bundled : Value) : Prop where
  full : (host.isVoid || bundled.isVoid) = false
  first : Version.ofValue host = .error .tooDeep ∨
    ∃ v, Version.ofValue host = .ok v ∧ Version.ofValue bundled = .error .tooDeep

theorem not_notShown (hhost : Version.ofValue host ≠ .error .tooDeep)
    (hbundled : Version.ofValue bundled ≠ .error .tooDeep) : ¬ NotShown host bundled := by
  rintro ⟨-, hdeep | ⟨_, -, hdeep⟩⟩
  · exact hhost hdeep
  · exact hbundled hdeep

theorem isProvided_of_notShown (h : NotShown host bundled) :
    isProvided host bundled = .error .tooDeep := by
  rw [isProvided, h.full, if_neg Bool.false_ne_true]
  rcases h.first with hdeep | ⟨v, hv, hdeep⟩
  · rw [hdeep]
  · rw [hv, hdeep]

theorem isProvided_eq_false (h : ∀ v w : Version,
    Version.ofValue host = .ok v → Version.ofValue bundled ≠ .ok w)
    (hshown : ¬ NotShown host bundled) : isProvided host bundled = .ok false := by
  unfold isProvided
  split
  · rfl
  · rename_i hfull
    rw [Bool.not_eq_true] at hfull
    split
    · rename_i hv hw
      exact absurd hw (h _ _ hv)
    · rename_i hdeep
      exact absurd ⟨hfull, .inl hdeep⟩ hshown
    · rename_i hv hdeep
      exact absurd ⟨hfull, .inr ⟨_, hv, hdeep⟩⟩ hshown
    · rfl

theorem isProvided_of_versions {v w : Version} (hhost : Version.ofValue host = .ok v)
    (hbundled : Version.ofValue bundled = .ok w) : isProvided host bundled =
      match v.tooLong?.or w.tooLong? with
      | some digits => .error (.numberTooLong digits)
      | none => .ok (v.mayReplace w) := by
  have hfull : ¬ (host.isVoid || bundled.isVoid) = true := by
    rw [Bool.or_eq_true]
    rintro (h | h)
    · exact not_ofValue_of_isVoid h v hhost
    · exact not_ofValue_of_isVoid h w hbundled
  cases hlong : v.tooLong?.or w.tooLong? with
  | none => simp only [isProvided, if_neg hfull, hhost, hbundled, hlong]
  | some digits => simp only [isProvided, if_neg hfull, hhost, hbundled, hlong]

theorem isProvided_eq_mayReplace {v w : Version} (hhost : Version.ofValue host = .ok v)
    (hbundled : Version.ofValue bundled = .ok w) (hv : v.Legible) (hw : w.Legible) :
    isProvided host bundled = .ok (v.mayReplace w) := by
  rw [isProvided_of_versions hhost hbundled, hv.tooLong?_eq_none, hw.tooLong?_eq_none]
  rfl

/-- The comparison fails exactly when both sides are versions and one of them, the host's first, has a
number that is too long to be read among its prerelease identifiers, or when the first side that is
no version is too deep to be shown. -/
theorem isProvided_eq_error_iff {e : NotComparable} : isProvided host bundled = .error e ↔
    (∃ v w digits, Version.ofValue host = .ok v ∧ Version.ofValue bundled = .ok w ∧
      v.tooLong?.or w.tooLong? = some digits ∧ e = .numberTooLong digits) ∨
    NotShown host bundled ∧ e = .tooDeep := by
  constructor
  · intro h
    by_cases hread : ∃ v w, Version.ofValue host = .ok v ∧ Version.ofValue bundled = .ok w
    · obtain ⟨v, w, hv, hw⟩ := hread
      rw [isProvided_of_versions hv hw] at h
      split at h
      · rename_i digits hlong
        cases h
        exact .inl ⟨v, w, digits, hv, hw, hlong, rfl⟩
      · cases h
    · by_cases hdeep : NotShown host bundled
      · rw [isProvided_of_notShown hdeep] at h
        cases h
        exact .inr ⟨hdeep, rfl⟩
      · rw [isProvided_eq_false (fun v w hv hw => hread ⟨v, w, hv, hw⟩) hdeep] at h
        cases h
  · rintro (⟨v, w, digits, hv, hw, hlong, rfl⟩ | ⟨hdeep, rfl⟩)
    · rw [isProvided_of_versions hv hw, hlong]
    · exact isProvided_of_notShown hdeep

/-- So there is an answer exactly when two versions, if that is what both values are, can be
compared, and otherwise what is no version can be shown. -/
theorem exists_isProvided_iff : (∃ answer, isProvided host bundled = .ok answer) ↔
    ¬ NotShown host bundled ∧ ∀ v w, Version.ofValue host = .ok v →
      Version.ofValue bundled = .ok w → v.Legible ∧ w.Legible := by
  constructor
  · rintro ⟨answer, hanswer⟩
    refine ⟨fun hdeep => ?_, fun v w hv hw => ?_⟩
    · cases hanswer.symm.trans (isProvided_of_notShown hdeep)
    · rw [Version.legible_iff, Version.legible_iff, ← Option.or_eq_none_iff]
      cases hlong : v.tooLong?.or w.tooLong? with
      | none => rfl
      | some digits =>
        have herror := isProvided_eq_error_iff.2 (.inl ⟨v, w, digits, hv, hw, hlong, rfl⟩)
        cases hanswer.symm.trans herror
  · rintro ⟨hshown, hlegible⟩
    cases hanswer : isProvided host bundled with
    | ok answer => exact ⟨answer, rfl⟩
    | error e =>
      rcases isProvided_eq_error_iff.1 hanswer with ⟨v, w, digits, hv, hw, hlong, -⟩ | ⟨hdeep, -⟩
      · obtain ⟨hv', hw'⟩ := hlegible v w hv hw
        rw [hv'.tooLong?_eq_none, hw'.tooLong?_eq_none] at hlong
        cases hlong
      · exact absurd hdeep hshown

/-- The host's package is used exactly when both sides are versions and the host's has the
precedence of the bundled one or upgrades it; so never an older one, never one of another major
version, and never a release for a prerelease or the other way round. Where it is not used the answer
is no, unless something that is no version is too deep for the message about it. -/
theorem isProvided_iff_upgrades
    (hhost : ∀ v, Version.ofValue host = .ok v → v.Legible)
    (hbundled : ∀ w, Version.ofValue bundled = .ok w → w.Legible) :
    (isProvided host bundled = .ok true ↔
      ∃ v w, Version.ofValue host = .ok v ∧ Version.ofValue bundled = .ok w ∧
        (v.SamePrecedence w ∨ v.Upgrades w)) ∧
      (∀ v w, Version.ofValue host = .ok v → Version.ofValue bundled = .ok w →
        v.Below w ∨ v.major ≠ w.major ∨ v.isPrerelease ≠ w.isPrerelease →
        isProvided host bundled = .ok false) ∧
      (Version.ofValue host ≠ .error .tooDeep → Version.ofValue bundled ≠ .error .tooDeep →
        ∃ answer, isProvided host bundled = .ok answer) := by
  have hanswer {v w : Version} (hv : Version.ofValue host = .ok v)
      (hw : Version.ofValue bundled = .ok w) : isProvided host bundled = .ok (v.mayReplace w) :=
    isProvided_eq_mayReplace hv hw (hhost v hv) (hbundled w hw)
  refine ⟨⟨fun h => ?_, ?_⟩, fun v w hv hw hapart => ?_, fun hshown hshown' => ?_⟩
  · by_cases hread : ∃ v w, Version.ofValue host = .ok v ∧ Version.ofValue bundled = .ok w
    · obtain ⟨v, w, hv, hw⟩ := hread
      rw [hanswer hv hw] at h
      exact ⟨v, w, hv, hw, Version.mayReplace_iff.1 (Except.ok.inj h)⟩
    · by_cases hdeep : NotShown host bundled
      · cases h.symm.trans (isProvided_of_notShown hdeep)
      · cases h.symm.trans (isProvided_eq_false (fun v w hv hw => hread ⟨v, w, hv, hw⟩) hdeep)
  · rintro ⟨v, w, hv, hw, h⟩
    rw [hanswer hv hw, Version.mayReplace_iff.2 h]
  · rw [hanswer hv hw, Except.ok.injEq, ← Bool.not_eq_true, Version.mayReplace_iff]
    rintro (hsame | hup)
    · rcases hapart with hbelow | hmajor | hkind
      · exact hsame.not_below hbelow
      · exact hmajor hsame.core.major
      · exact hkind hsame.isPrerelease_eq
    · rcases hapart with hbelow | hmajor | hkind
      · exact hbelow.not_below hup.below
      · exact hmajor hup.major
      · exact hkind hup.isPrerelease_eq
  · exact exists_isProvided_iff.2
      ⟨not_notShown hshown hshown', fun v w hv hw => ⟨hhost v hv, hbundled w hw⟩⟩

/-- Prereleases of one version whose numbers are written with and without a zero in front. -/
theorem isProvided_iff_upgrades_prerelease :
    let _ : Depths := .ofCalls 900
    Version.ofValue (.str "v1.2.0-rc.02+host") = .ok ⟨1, 2, 0, ["rc", "02"], ["host"]⟩ ∧
      Version.ofValue (.str "1.2.0-rc.2") = .ok ⟨1, 2, 0, ["rc", "2"], []⟩ ∧
      isProvided (.str "v1.2.0-rc.02+host") (.str "1.2.0-rc.2") = .ok true := by
  intro _
  have hhost : Version.ofValue (.str "v1.2.0-rc.02+host") =
      .ok ⟨1, 2, 0, ["rc", "02"], ["host"]⟩ := by decide +kernel
  have hbundled : Version.ofValue (.str "1.2.0-rc.2") = .ok ⟨1, 2, 0, ["rc", "2"], []⟩ := by
    decide +kernel
  have short (v : Version) (h : ∀ i ∈ v.prerelease, i.length ≤ 2) : v.Legible :=
    fun i hi _ => (h i hi).trans (by decide)
  obtain ⟨hiff, -, -⟩ := isProvided_iff_upgrades
    (fun v hv => short v (Except.ok.inj (hhost.symm.trans hv) ▸ by decide))
    (fun w hw => short w (Except.ok.inj (hbundled.symm.trans hw) ▸ by decide))
  have hsame : Version.SamePrecedence ⟨1, 2, 0, ["rc", "02"], ["host"]⟩ ⟨1, 2, 0, ["rc", "2"], []⟩ :=
    Version.equivalent_iff.1 (by decide +kernel)
  exact ⟨hhost, hbundled, hiff.2 ⟨_, _, hhost, hbundled, .inl hsame⟩⟩

end Values

end ExportBundle
