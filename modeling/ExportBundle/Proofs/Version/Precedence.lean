import ExportBundle.Version.Order
import Mathlib.Data.List.Forall2
import Mathlib.Data.Nat.Digits.Defs
import Mathlib.Logic.Basic

/-! Precedence of versions as semantic versioning has it: the three numbers from the left, a release
above its prereleases, and the identifiers of prereleases from the left, numbers by value and below
words, words by code points, a row that ends below one that goes on. Main statement: the comparison
of versions is this order, of any two versions exactly one is below or neither is, and everything
that is derived from the comparison agrees with it. -/

namespace ExportBundle.Version

def IsNumber (identifier : String) : Prop :=
  identifier ≠ "" ∧ ∀ c ∈ identifier.toList, '0' ≤ c ∧ c ≤ '9'

def value (identifier : String) : Nat :=
  Nat.ofDigits 10 (identifier.toList.reverse.map fun c => c.toNat - '0'.toNat)

/-- Identifiers that do not make a difference: zeros in front of a number do not count. -/
inductive SameIdentifier : String → String → Prop
  | number {s t : String} (hs : IsNumber s) (ht : IsNumber t) (h : value s = value t) :
      SameIdentifier s t
  | word {s : String} (hs : ¬ IsNumber s) : SameIdentifier s s

inductive IdentifierBelow : String → String → Prop
  | number {s t : String} (hs : IsNumber s) (ht : IsNumber t) (h : value s < value t) :
      IdentifierBelow s t
  | numberWord {s t : String} (hs : IsNumber s) (ht : ¬ IsNumber t) : IdentifierBelow s t
  | word {s t : String} (hs : ¬ IsNumber s) (ht : ¬ IsNumber t) (h : s.toList < t.toList) :
      IdentifierBelow s t

inductive RowBelow : List String → List String → Prop
  | ends {t : String} {b : List String} : RowBelow [] (t :: b)
  | here {s t : String} {a b : List String} (h : IdentifierBelow s t) : RowBelow (s :: a) (t :: b)
  | later {s t : String} {a b : List String} (same : SameIdentifier s t) (h : RowBelow a b) :
      RowBelow (s :: a) (t :: b)

structure SameCore (v w : Version) : Prop where
  major : v.major = w.major
  minor : v.minor = w.minor
  patch : v.patch = w.patch

/-- The version `v` has lower precedence than `w`. -/
inductive Below (v w : Version) : Prop
  | major (h : v.major < w.major)
  | minor (major : v.major = w.major) (h : v.minor < w.minor)
  | patch (major : v.major = w.major) (minor : v.minor = w.minor) (h : v.patch < w.patch)
  | release (core : SameCore v w) (before : v.prerelease ≠ []) (released : w.prerelease = [])
  | prerelease (core : SameCore v w) (before : v.prerelease ≠ [])
      (h : RowBelow v.prerelease w.prerelease)

/-- The versions differ in their builds at most, and in zeros in front of numbers. -/
structure SamePrecedence (v w : Version) : Prop where
  core : SameCore v w
  prerelease : List.Forall₂ SameIdentifier v.prerelease w.prerelease

section Identifiers

theorem isNumeric_iff {s : String} : isNumeric s = true ↔ IsNumber s := by
  rw [isNumeric, IsNumber, Bool.and_eq_true, Bool.not_eq_true', String.isEmpty_eq_false_iff,
    List.all_eq_true]
  refine and_congr_right fun _ => forall₂_congr fun c _ => ?_
  rw [Char.isDigit, Bool.and_eq_true, decide_eq_true_eq, decide_eq_true_eq]
  rfl

theorem numericValue_eq (s : String) : numericValue s = value s := by
  rw [numericValue, value, Nat.ofDigits_eq_foldr, List.foldr_map, List.foldr_reverse]
  congr 1
  funext n c
  exact Nat.add_comm _ _

theorem rank_number {s : String} (h : IsNumber s) : rank s = .number (value s) := by
  rw [rank, if_pos (isNumeric_iff.2 h), numericValue_eq]

theorem rank_word {s : String} (h : ¬ IsNumber s) : rank s = .word s := by
  rw [rank, if_neg fun hs => h (isNumeric_iff.1 hs)]

theorem rank_eq_iff {s t : String} : rank s = rank t ↔ SameIdentifier s t := by
  constructor
  · intro h
    by_cases hs : IsNumber s <;> by_cases ht : IsNumber t
    · rw [rank_number hs, rank_number ht] at h
      exact .number hs ht (Rank.number.inj h)
    · rw [rank_number hs, rank_word ht] at h
      cases h
    · rw [rank_word hs, rank_number ht] at h
      cases h
    · rw [rank_word hs, rank_word ht] at h
      obtain rfl := Rank.word.inj h
      exact .word hs
  · rintro (⟨hs, ht, h⟩ | hs)
    · rw [rank_number hs, rank_number ht, h]
    · rfl

theorem compare_rank_eq_lt {s t : String} :
    (rank s).compare (rank t) = .lt ↔ IdentifierBelow s t := by
  constructor
  · intro h
    by_cases hs : IsNumber s <;> by_cases ht : IsNumber t
    · rw [rank_number hs, rank_number ht] at h
      exact .number hs ht (Nat.compare_eq_lt.1 h)
    · exact .numberWord hs ht
    · rw [rank_word hs, rank_number ht] at h
      cases h
    · rw [rank_word hs, rank_word ht] at h
      have hlt : s < t := compareOfLessAndEq_eq_lt.1 h
      exact .word hs ht hlt
  · rintro (⟨hs, ht, h⟩ | ⟨hs, ht⟩ | ⟨hs, ht, h⟩)
    · rw [rank_number hs, rank_number ht]
      exact Nat.compare_eq_lt.2 h
    · rw [rank_number hs, rank_word ht]
      rfl
    · rw [rank_word hs, rank_word ht]
      have hlt : s < t := h
      exact compareOfLessAndEq_eq_lt.2 hlt

instance : Std.OrientedCmp Rank.compare where
  eq_swap {a b} := by
    cases a <;> cases b
    · exact Std.OrientedOrd.eq_swap
    · rfl
    · rfl
    · exact Std.OrientedOrd.eq_swap

instance : Std.TransCmp Rank.compare where
  isLE_trans {a b c} hab hbc := by
    cases a <;> cases b <;> cases c
    · exact Std.TransOrd.isLE_trans hab hbc
    · rfl
    · cases hbc
    · rfl
    · cases hab
    · cases hab
    · cases hbc
    · exact Std.TransOrd.isLE_trans hab hbc

instance : Std.LawfulEqCmp Rank.compare where
  compare_self {a} := by
    cases a <;> exact Std.ReflOrd.compare_self
  eq_of_compare {a b} h := by
    cases a <;> cases b
    · exact congrArg _ (Std.LawfulEqOrd.eq_of_compare h)
    · cases h
    · cases h
    · exact congrArg _ (Std.LawfulEqOrd.eq_of_compare h)

end Identifiers

section Rows

theorem compareRanks_eq (a b : List Rank) : compareRanks a b = List.compareLex Rank.compare a b := by
  induction a generalizing b with
  | nil => cases b <;> rfl
  | cons x a ih =>
    cases b with
    | nil => rfl
    | cons y b => rw [compareRanks, List.compareLex_cons_cons, ih]

theorem compareRanks_eq_eq {a b : List Rank} : compareRanks a b = .eq ↔ a = b := by
  rw [compareRanks_eq]
  exact Std.LawfulEqCmp.compare_eq_iff_eq

instance : Std.TransCmp compareRanks := by
  rw [funext fun a => funext (compareRanks_eq a)]
  infer_instance

theorem map_rank_eq_iff {a b : List String} :
    a.map rank = b.map rank ↔ List.Forall₂ SameIdentifier a b := by
  induction a generalizing b with
  | nil => cases b <;> simp
  | cons s a ih => cases b <;> simp [rank_eq_iff, ih]

theorem compareRanks_eq_lt {a b : List String} :
    compareRanks (a.map rank) (b.map rank) = .lt ↔ RowBelow a b := by
  induction a generalizing b with
  | nil =>
    cases b with
    | nil => exact ⟨nofun, nofun⟩
    | cons t b => exact ⟨fun _ => .ends, fun _ => rfl⟩
  | cons s a ih =>
    cases b with
    | nil => exact ⟨nofun, nofun⟩
    | cons t b =>
      rw [List.map_cons, List.map_cons, compareRanks, Ordering.then_eq_lt, compare_rank_eq_lt, ih,
        Std.LawfulEqCmp.compare_eq_iff_eq, rank_eq_iff]
      constructor
      · rintro (h | ⟨hsame, h⟩)
        · exact .here h
        · exact .later hsame h
      · rintro (_ | h | ⟨hsame, h⟩)
        · exact .inl h
        · exact .inr ⟨hsame, h⟩

end Rows

section Versions

variable {v w : Version}

theorem comparePrerelease_eq (v w : Version) : v.comparePrerelease w =
    (Ord.compare (!v.isPrerelease) (!w.isPrerelease)).then (compareRanks v.ranks w.ranks) := by
  have released {v : Version} (h : v.isPrerelease = false) : v.ranks = [] := by
    rw [isPrerelease, Bool.not_eq_false', List.isEmpty_iff] at h
    rw [ranks, h, List.map_nil]
  unfold comparePrerelease
  cases hv : v.isPrerelease <;> cases hw : w.isPrerelease
  · rw [released hv, released hw]
    rfl
  · rfl
  · rfl
  · rfl

instance : Std.TransCmp fun v w : Version => compareRanks v.ranks w.ranks where
  eq_swap {v w} := @Std.OrientedCmp.eq_swap _ compareRanks _ v.ranks w.ranks
  isLE_trans {u v w} := @Std.TransCmp.isLE_trans _ compareRanks _ u.ranks v.ranks w.ranks

theorem compare_eq : compare = compareLex (compareOn Version.major)
    (compareLex (compareOn Version.minor) (compareLex (compareOn Version.patch)
      (compareLex (compareOn fun v => !v.isPrerelease)
        fun v w : Version => compareRanks v.ranks w.ranks))) := by
  funext v w
  rw [compare, comparePrerelease_eq]
  rfl

instance : Std.TransCmp compare := by
  rw [compare_eq]
  infer_instance

theorem isPrerelease_eq_true : v.isPrerelease = true ↔ v.prerelease ≠ [] := by
  rw [isPrerelease, Bool.not_eq_true', List.isEmpty_eq_false_iff]

theorem isPrerelease_eq_false : v.isPrerelease = false ↔ v.prerelease = [] := by
  rw [isPrerelease, Bool.not_eq_false', List.isEmpty_iff]

theorem comparePrerelease_eq_lt : v.comparePrerelease w = .lt ↔
    v.prerelease ≠ [] ∧ (w.prerelease = [] ∨ RowBelow v.prerelease w.prerelease) := by
  unfold comparePrerelease
  cases hv : v.isPrerelease with
  | false =>
    have hnot : ¬ v.prerelease ≠ [] := not_not.2 (isPrerelease_eq_false.1 hv)
    cases w.isPrerelease <;> exact ⟨nofun, fun h => absurd h.1 hnot⟩
  | true =>
    have hbefore := isPrerelease_eq_true.1 hv
    cases hw : w.isPrerelease with
    | false => exact ⟨fun _ => ⟨hbefore, .inl (isPrerelease_eq_false.1 hw)⟩, fun _ => rfl⟩
    | true =>
      dsimp only
      rw [ranks, ranks, compareRanks_eq_lt, and_iff_right hbefore,
        or_iff_right (isPrerelease_eq_true.1 hw)]

theorem comparePrerelease_eq_eq : v.comparePrerelease w = .eq ↔
    List.Forall₂ SameIdentifier v.prerelease w.prerelease := by
  have empty {l : List String} (h : List.Forall₂ SameIdentifier [] l) : l = [] := by
    cases h
    rfl
  have empty' {l : List String} (h : List.Forall₂ SameIdentifier l []) : l = [] := by
    cases h
    rfl
  unfold comparePrerelease
  cases hv : v.isPrerelease <;> cases hw : w.isPrerelease
  · rw [isPrerelease_eq_false.1 hv, isPrerelease_eq_false.1 hw]
    exact ⟨fun _ => .nil, fun _ => rfl⟩
  · rw [isPrerelease_eq_false.1 hv]
    exact ⟨nofun, fun h => absurd (empty h) (isPrerelease_eq_true.1 hw)⟩
  · rw [isPrerelease_eq_false.1 hw]
    exact ⟨nofun, fun h => absurd (empty' h) (isPrerelease_eq_true.1 hv)⟩
  · exact compareRanks_eq_eq.trans map_rank_eq_iff

theorem compare_eq_lt : v.compare w = .lt ↔ Below v w := by
  rw [compare, Ordering.then_eq_lt, Ordering.then_eq_lt, Ordering.then_eq_lt, Nat.compare_eq_lt,
    Nat.compare_eq_lt, Nat.compare_eq_lt, Nat.compare_eq_eq, Nat.compare_eq_eq, Nat.compare_eq_eq,
    comparePrerelease_eq_lt]
  constructor
  · rintro (h | ⟨hmajor, h | ⟨hminor, h | ⟨hpatch, hbefore, h | h⟩⟩⟩)
    · exact .major h
    · exact .minor hmajor h
    · exact .patch hmajor hminor h
    · exact .release ⟨hmajor, hminor, hpatch⟩ hbefore h
    · exact .prerelease ⟨hmajor, hminor, hpatch⟩ hbefore h
  · rintro (h | ⟨hmajor, h⟩ | ⟨hmajor, hminor, h⟩ | ⟨hcore, hbefore, h⟩ | ⟨hcore, hbefore, h⟩)
    · exact .inl h
    · exact .inr ⟨hmajor, .inl h⟩
    · exact .inr ⟨hmajor, .inr ⟨hminor, .inl h⟩⟩
    · exact .inr ⟨hcore.major, .inr ⟨hcore.minor, .inr ⟨hcore.patch, hbefore, .inl h⟩⟩⟩
    · exact .inr ⟨hcore.major, .inr ⟨hcore.minor, .inr ⟨hcore.patch, hbefore, .inr h⟩⟩⟩

theorem compare_eq_eq : v.compare w = .eq ↔ SamePrecedence v w := by
  rw [compare, Ordering.then_eq_eq, Ordering.then_eq_eq, Ordering.then_eq_eq, Nat.compare_eq_eq,
    Nat.compare_eq_eq, Nat.compare_eq_eq, comparePrerelease_eq_eq]
  constructor
  · rintro ⟨hmajor, hminor, hpatch, h⟩
    exact ⟨⟨hmajor, hminor, hpatch⟩, h⟩
  · rintro ⟨hcore, h⟩
    exact ⟨hcore.major, hcore.minor, hcore.patch, h⟩

theorem precedes_iff : v.precedes w = true ↔ Below v w := by
  rw [precedes, beq_iff_eq, compare_eq_lt]

theorem equivalent_iff : v.equivalent w = true ↔ SamePrecedence v w := by
  rw [equivalent, beq_iff_eq, compare_eq_eq]

theorem SamePrecedence.hashKey_eq (h : SamePrecedence v w) : v.hashKey = w.hashKey := by
  have hranks : v.ranks = w.ranks := map_rank_eq_iff.2 h.prerelease
  have flag (x : Version) : x.isPrerelease = !x.ranks.isEmpty := by
    rw [isPrerelease, ranks, List.isEmpty_map]
  rw [hashKey, hashKey, flag v, flag w, h.core.major, h.core.minor, h.core.patch, hranks]

theorem equivalent_equivalence : Equivalence fun v w : Version => v.equivalent w = true where
  refl v := beq_iff_eq.2 Std.ReflCmp.compare_self
  symm {v w} h := by
    rw [equivalent, beq_iff_eq] at h ⊢
    exact Std.OrientedCmp.eq_symm h
  trans {u v w} huv hvw := by
    rw [equivalent, beq_iff_eq] at huv hvw ⊢
    exact Std.TransCmp.eq_trans huv hvw

theorem precedes_trans {u : Version} (huv : u.precedes v = true) (hvw : v.precedes w = true) :
    u.precedes w = true := by
  rw [precedes, beq_iff_eq] at huv hvw ⊢
  exact Std.TransCmp.lt_trans huv hvw

theorem compare_swap (v w : Version) : w.compare v = (v.compare w).swap :=
  Std.OrientedCmp.eq_swap

/-- Precedence is the order of semantic versioning; it is strict and total up to equal precedence,
which equal hashes go with, and the other comparisons come down to it. -/
theorem precedence_strict_total :
    (∀ v w : Version, v.precedes w = true ↔ Below v w) ∧
      (∀ v : Version, v.precedes v = false) ∧
      (∀ u v w : Version, u.precedes v = true → v.precedes w = true → u.precedes w = true) ∧
      (∀ v w : Version, [v.precedes w, v.equivalent w, w.precedes v].count true = 1) ∧
      (Equivalence fun v w : Version => v.equivalent w = true) ∧
      (∀ v w : Version, v.equivalent w = true → v.hashKey = w.hashKey) ∧
      ∀ v w : Version, v.atMost w = (v.precedes w || v.equivalent w) ∧
        v.follows w = w.precedes v ∧ v.atLeast w = (w.precedes v || v.equivalent w) := by
  refine ⟨fun v w => precedes_iff, fun v => ?_, fun u v w => precedes_trans, fun v w => ?_,
    equivalent_equivalence, fun v w h => (equivalent_iff.1 h).hashKey_eq, fun v w => ⟨rfl, ?_⟩⟩
  · have hself : v.compare v = .eq := Std.ReflCmp.compare_self
    rw [precedes, hself]
    rfl
  · rw [precedes, equivalent, precedes, compare_swap v w]
    cases v.compare w <;> rfl
  · rw [follows, atLeast, precedes, precedes, equivalent, compare_swap v w]
    cases v.compare w <;> exact ⟨rfl, rfl⟩

end Versions

end ExportBundle.Version
