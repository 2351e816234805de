import ExportBundle.Identifier.Basic

/-! A supply that takes its names from a stream of random tokens. Only the letters of a token are
used; a token is passed over when they are too few, reserved, or a name given out before. Several
supplies may share one stream. -/

namespace ExportBundle.Identifier

structure Random where
  minLength : Int
  issued : List String
  deriving DecidableEq, Repr

namespace Random

def defaultMinLength : Int := 8

def fresh : Random := ⟨defaultMinLength, []⟩

/-- What is left of a token: its letters. -/
def candidate (token : String) : String := String.ofList (token.toList.filter isLetter)

def accepts (r : Random) (name : String) : Bool :=
  r.minLength ≤ name.length && isSafe name && !r.issued.contains name

def draw (r : Random) : List String → Option String × Random × List String
  | [] => (none, r, [])
  | token :: rest =>
    let name := candidate token
    if r.accepts name then (some name, { r with issued := name :: r.issued }, rest)
    else draw r rest

instance : Supply (Random × List String) where
  draw s := s.1.draw s.2

end Random

end ExportBundle.Identifier
