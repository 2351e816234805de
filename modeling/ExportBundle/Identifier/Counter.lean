import ExportBundle.Identifier.Basic
import ExportBundle.Identifier.Letters

/-! A supply that counts: a fixed stem followed by the number of the draw in letters. -/

namespace ExportBundle.Identifier

structure Counter where
  stem : String
  issued : Nat
  deriving DecidableEq, Repr

/-- A stem that is not made of letters. -/
structure BadStem where
  stem : String
  deriving DecidableEq, Repr

def BadStem.message (e : BadStem) : String :=
  "Identifier prefix must be letters only, got " ++ Text.literal e.stem

namespace Counter

def defaultStem : String := "anywhere"

def ofStem (stem : String) : Except BadStem Counter :=
  if isLetters stem.toList then .ok ⟨stem, 0⟩ else .error ⟨stem⟩

def fresh : Counter := ⟨defaultStem, 0⟩

def name (stem : String) (n : Nat) : String := stem ++ String.ofList (letters n)

instance : Supply Counter where
  draw c := (some (name c.stem (c.issued + 1)), { c with issued := c.issued + 1 })

end Counter

end ExportBundle.Identifier
