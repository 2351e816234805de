import ExportBundle.Version.Order

/-! The distance of two versions: the first of the three numbers in which they differ, marked when
one of them is a prerelease, or a difference in the prerelease alone. -/

namespace ExportBundle.Version

inductive CoreField where
  | major
  | minor
  | patch
  deriving DecidableEq, Repr

inductive Distance where
  | core (pre : Bool) (field : CoreField)
  | prerelease
  deriving DecidableEq, Repr

def CoreField.text : CoreField → String
  | .major => "major"
  | .minor => "minor"
  | .patch => "patch"

def Distance.text : Distance → String
  | .core pre field => (if pre then "pre" else "") ++ field.text
  | .prerelease => "prerelease"

def differingField? (v w : Version) : Option CoreField :=
  if v.major ≠ w.major then some .major
  else if v.minor ≠ w.minor then some .minor
  else if v.patch ≠ w.patch then some .patch
  else none

/-- There is no distance between versions of equal precedence. -/
def distance? (v w : Version) : Option Distance :=
  if v.equivalent w then none
  else match differingField? v w with
    | some field => some (.core (v.isPrerelease || w.isPrerelease) field)
    | none => some .prerelease

end ExportBundle.Version
