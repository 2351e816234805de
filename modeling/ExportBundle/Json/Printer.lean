import ExportBundle.Depths
import ExportBundle.Json.Value
import ExportBundle.Text.Quoted

/-! The text of a document. One printer serves three styles: JSON with spaces after the
separators, JSON without any, and the literal style of error messages. -/

namespace ExportBundle.Json

/-- How the parts of a document are written. -/
structure Style where
  null : String
  yes : String
  no : String
  infinity : String
  notANumber : String
  quoted : String → String
  itemSeparator : String
  memberSeparator : String

namespace Style

def spaced : Style where
  null := "null"
  yes := "true"
  no := "false"
  infinity := "Infinity"
  notANumber := "NaN"
  quoted := Text.jsonQuoted
  itemSeparator := ", "
  memberSeparator := ": "

def compact : Style := { spaced with itemSeparator := ",", memberSeparator := ":" }

def literal : Style where
  null := "None"
  yes := "True"
  no := "False"
  infinity := "inf"
  notANumber := "nan"
  quoted := Text.literal
  itemSeparator := ", "
  memberSeparator := ": "

end Style

namespace Value

mutual

def print (f : Style) : Value → String
  | .null => f.null
  | .bool b => if b then f.yes else f.no
  | .int n => Text.decimalInt n
  | .float x => x.text f.infinity f.notANumber
  | .str s => f.quoted s
  | .arr items => "[" ++ f.itemSeparator.intercalate (printItems f items) ++ "]"
  | .obj members => "\x7b" ++ f.itemSeparator.intercalate (printMembers f members) ++ "\x7d"

def printItems (f : Style) : List Value → List String
  | [] => []
  | v :: r => v.print f :: printItems f r

def printMembers (f : Style) : List (String × Value) → List String
  | [] => []
  | (k, v) :: r => (f.quoted k ++ f.memberSeparator ++ v.print f) :: printMembers f r

end

def shown [Depths] (f : Style) (v : Value) : Except Obstacle String :=
  match v.obstacle? Depths.showing with
  | none => .ok (v.print f)
  | some o => .error o

def block (opening closing : String) (depth : Nat) (items : List String) : String :=
  let newline (n : Nat) := "\n" ++ String.ofList (List.replicate (2 * n) ' ')
  if items.isEmpty then opening ++ closing
  else opening ++ newline (depth + 1) ++ ("," ++ newline (depth + 1)).intercalate items ++
    newline depth ++ closing

mutual

/-- JSON over several lines, two spaces to a level. -/
def printIndented (depth : Nat) : Value → String
  | .arr items => block "[" "]" depth (printItemsIndented (depth + 1) items)
  | .obj members => block "\x7b" "\x7d" depth (printMembersIndented (depth + 1) members)
  | v => v.print .spaced

def printItemsIndented (depth : Nat) : List Value → List String
  | [] => []
  | v :: r => v.printIndented depth :: printItemsIndented depth r

def printMembersIndented (depth : Nat) : List (String × Value) → List String
  | [] => []
  | (k, v) :: r =>
    (Text.jsonQuoted k ++ ": " ++ v.printIndented depth) :: printMembersIndented depth r

end

end Value

end ExportBundle.Json
