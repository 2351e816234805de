import ExportBundle.Proofs.Dependency.Replacement
import ExportBundle.Version.Distance

/-! The distance as a metric. Distances are ordered by what differs: nothing, the prereleases, the
patches, the minor versions, the major versions. Main statement: the distance depends on precedence
alone, is the same both ways, and by a detour no version comes nearer, not even in two steps that
are each as far as the whole way. -/

namespace ExportBundle.Version

/-- The versions agree in all that counts for more than the severity. -/
def Agree : Nat → Version → Version → Prop
  | 0, v, w => SamePrecedence v w
  | 1, v, w => SameCore v w
  | 2, v, w => v.major = w.major ∧ v.minor = w.minor
  | 3, v, w => v.major = w.major
  | _ + 4, _, _ => True

section Fields

variable {u v v' w : Version}

theorem SameCore.trans (h : SameCore u v) (h' : SameCore v w) : SameCore u w :=
  ⟨h.major.trans h'.major, h.minor.trans h'.minor, h.patch.trans h'.patch⟩

theorem SamePrecedence.trans (h : SamePrecedence u v) (h' : SamePrecedence v w) :
    SamePrecedence u w :=
  equivalent_iff.1 (equivalent_equivalence.trans (equivalent_iff.2 h) (equivalent_iff.2 h'))

theorem Agree.trans {k : Nat} (h : Agree k u v) (h' : Agree k v w) : Agree k u w := by
  match k with
  | 0 => exact SamePrecedence.trans h h'
  | 1 => exact SameCore.trans h h'
  | 2 => exact ⟨h.1.trans h'.1, h.2.trans h'.2⟩
  | 3 => exact Eq.trans h h'
  | _ + 4 => trivial

theorem Agree.succ {k : Nat} (h : Agree k v w) : Agree (k + 1) v w := by
  match k with
  | 0 => exact SamePrecedence.core h
  | 1 => exact ⟨SameCore.major h, SameCore.minor h⟩
  | 2 => exact h.1
  | 3 => trivial
  | _ + 4 => trivial

theorem Agree.mono {k l : Nat} (h : Agree k v w) (hle : k ≤ l) : Agree l v w :=
  Nat.le_induction h (fun _ _ => Agree.succ) l hle

end Fields

end ExportBundle.Version
