import ExportBundle.Console.Emoji.Names
import ExportBundle.Text.Lowercase
import ExportBundle.Text.Split

/-! Emoji by name: a name between two colons stands for a character or a row of them. A name may
say at its end whether the plain or the colored form is meant. -/

namespace ExportBundle.Console.Emoji

def hexDigit (c : Char) : Nat := if c.isDigit then c.toNat - 48 else c.toNat - 87

def ofCodes (codes : List Char) : List Char :=
  (Text.split '-' codes).map fun digits =>
    Char.ofNat (digits.foldl (fun n d => 16 * n + hexDigit d) 0)

def find? (name : List Char) : Option (List Char) :=
  rows.findSome? fun row => (Text.split ' ' row.toList).findSome? fun entry =>
    if (name ++ ['=']).isPrefixOf entry then some (ofCodes (entry.drop (name.length + 1))) else none

/-- The endings of a name that choose a form, with the characters that stand for the form. -/
def forms : List (String × Char) := [("-emoji", '\ufe0f'), ("-text", '\ufe0e')]

def meaning? (inside : List Char) : Option (List Char) :=
  match forms.find? fun form => form.1.toList.isSuffixOf inside with
  | some (ending, form) =>
    (find? (Text.lowercase (inside.take (inside.length - ending.length)))).map (· ++ [form])
  | none => find? (Text.lowercase inside)

def name? (cs : List Char) : Option (List Char) :=
  let name := cs.takeWhile fun c => c != ':' && !Text.isBlank c
  if (cs.drop name.length).head? == some ':' then some name else none

/-- The text with what its names stand for, of which the first `skip` characters are done with. An
unknown name stays with both of its colons. -/
def replaceFrom : Nat → List Char → List Char
  | _, [] => []
  | skip + 1, _ :: r => replaceFrom skip r
  | 0, c :: r =>
    match if c == ':' then name? r else none with
    | some name => (meaning? name).getD (':' :: name ++ [':']) ++ replaceFrom (name.length + 1) r
    | none => c :: replaceFrom 0 r

def replace (cs : List Char) : List Char := replaceFrom 0 cs

end ExportBundle.Console.Emoji
