import ExportBundle.Text.Quoted

/-! Names for bindings. A name is safe when it is made of ASCII letters and is not a word that the
emitted language keeps for itself. Names come from a supply, which hands out one at a time. -/

namespace ExportBundle.Identifier

def reserved : List String :=
  ["await", "break", "case", "catch", "class", "const", "continue", "debugger", "default",
   "delete", "do", "else", "enum", "export", "extends", "false", "finally", "for", "function",
   "if", "implements", "import", "in", "instanceof", "interface", "let", "new", "null", "package",
   "private", "protected", "public", "return", "static", "super", "switch", "this", "throw",
   "true", "try", "typeof", "var", "void", "while", "with", "yield", "arguments", "eval",
   "undefined", "require", "module", "exports"]

def isLetter (c : Char) : Bool := c.isAlpha

/-- One or more letters, which one line feed may follow. -/
def isLetters (cs : List Char) : Bool :=
  match cs.dropWhile isLetter with
  | [] => !cs.isEmpty
  | rest => rest == ['\n'] && cs.head? != some '\n'

def isSafe (name : String) : Bool := isLetters name.toList && !reserved.contains name

/-- A source of names with the state `σ`; it may run out. -/
class Supply (σ : Type) where
  draw : σ → Option String × σ

end ExportBundle.Identifier
