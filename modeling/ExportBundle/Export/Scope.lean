import ExportBundle.Sorting
import ExportBundle.Text.Blank
import ExportBundle.Text.Word

/-! Freeing bindings from the scope of a bundle. A scoped declaration is a keyword, blanks, a known
name and an equals sign; it is turned into a plain assignment by dropping the keyword and the
blanks. Of several declarations of one name only the first is freed. The source is first cut into
single characters and declarations, and then the leads of the first ones are left out. -/

namespace ExportBundle.Export.Scope

open Text (isBlank isWord dropBlanks)

/-- A character that continues a name: directly after it no name ends. -/
def continuesName (c : Char) : Bool := isWord c || c == '$'

/-- Directly after such a character no declaration starts. -/
def hidesKeyword (c : Char) : Bool := continuesName c || c == '.'

/-- A declaration as it stands in the source: the keyword with the blanks after it, and the name. -/
structure Declaration where
  lead : List Char
  name : List Char
  deriving DecidableEq, Repr

namespace Declaration

def text (d : Declaration) : List Char := d.lead ++ d.name

end Declaration

inductive Piece where
  | char (c : Char)
  | declaration (d : Declaration)
  deriving DecidableEq, Repr

namespace Piece

def text : Piece → List Char
  | .char c => [c]
  | .declaration d => d.text

end Piece

def keywords : List (List Char) := ["var".toList, "let".toList, "const".toList]

def after? (lead text : List Char) : Option (List Char) :=
  if lead.isPrefixOf text then some (text.drop lead.length) else none

def assigns (text : List Char) : Bool :=
  match dropBlanks text with
  | '=' :: '=' :: _ => false
  | '=' :: _ => true
  | _ => false

def endsName (text : List Char) : Bool :=
  !(text.head?.any continuesName) && assigns text

def declared? (names : List (List Char)) (text : List Char) : Option (List Char) :=
  names.find? fun name => (after? name text).any endsName

/-- The declaration made of `keyword`, some of the blanks that follow it and one of the names. As
many blanks as possible are taken. -/
def withKeyword? (names : List (List Char)) (keyword text : List Char) : Option Declaration := do
  let rest ← after? keyword text
  let blanks := rest.takeWhile isBlank
  (List.range blanks.length).findSome? fun fewer =>
    let count := blanks.length - fewer
    (declared? names (rest.drop count)).map fun name => ⟨keyword ++ blanks.take count, name⟩

def declarationAt? (names : List (List Char)) (before : Option Char) (text : List Char) :
    Option Declaration :=
  if before.any hidesKeyword then none
  else keywords.findSome? fun keyword => withKeyword? names keyword text

/-- The pieces of a text of which the first `skip` characters belong to a piece already cut. -/
def cut (names : List (List Char)) : Option Char → Nat → List Char → List Piece
  | _, _, [] => []
  | _, skip + 1, c :: r => cut names (some c) skip r
  | before, 0, c :: r =>
    match declarationAt? names before (c :: r) with
    | some d => .declaration d :: cut names (some c) (d.text.length - 1) r
    | none => .char c :: cut names (some c) 0 r

def release (freed : List (List Char)) : List Piece → List Char
  | [] => []
  | .char c :: r => c :: release freed r
  | .declaration d :: r =>
    if freed.contains d.name then d.text ++ release freed r
    else d.name ++ release (d.name :: freed) r

def longestFirst (names : List (List Char)) : List (List Char) :=
  Sorting.sort (fun a b => b.length ≤ a.length) names.eraseDups

/-- The source with the first scoped declaration of each name turned into an assignment. -/
def free (names : List String) (source : String) : String :=
  match names with
  | [] => source
  | names =>
    String.ofList (release [] (cut (longestFirst (names.map String.toList)) none 0 source.toList))

end ExportBundle.Export.Scope
