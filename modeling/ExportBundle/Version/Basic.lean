import ExportBundle.Text.Numeral

/-! Semantic versions: three numbers, the identifiers of a prerelease and those of a build. -/

namespace ExportBundle

structure Version where
  major : Nat
  minor : Nat
  patch : Nat
  prerelease : List String
  build : List String
  deriving DecidableEq, Repr, Inhabited

namespace Version

def isPrerelease (v : Version) : Bool := !v.prerelease.isEmpty

def suffix (mark : String) (identifiers : List String) : String :=
  if identifiers.isEmpty then "" else mark ++ ".".intercalate identifiers

def coreText (v : Version) : String :=
  Text.decimal v.major ++ "." ++ Text.decimal v.minor ++ "." ++ Text.decimal v.patch

def text (v : Version) : String :=
  v.coreText ++ suffix "-" v.prerelease ++ suffix "+" v.build

end Version

end ExportBundle
