import ExportBundle.Export.Node
import ExportBundle.Export.ModulePath
import ExportBundle.Export.Error

/-! The fragments of source that belong to a node, and the statements that a tree makes of them. -/

namespace ExportBundle.Export

def requireCall (path : String) : String := "require(" ++ Text.jsonQuoted path ++ ")"

def bindingStatement (id path : String) : String := "var " ++ id ++ " = " ++ requireCall path

namespace Node

/-- The fragment that loads a node. A node without a public name is loaded bare, one with a binding
is assigned to it, and a package with children leaves loading to them. -/
def loadFragment (n : Node) (parent : Option Node) (depth : Int) :
    Except SpecError (Option String) :=
  if n.publicName?.isNone then .ok (some (requireCall n.name))
  else if n.bindsAt depth then
    if depth = 0 then .ok (some (bindingStatement n.id n.name))
    else match parent with
      | none => .error (.badParent "None")
      | some p =>
        if p.name.isEmpty then .error (.badParent p.text)
        else .ok (some (bindingStatement n.id (ModulePath.join p.name n.name)))
  else if depth = 0 ∧ !n.children.isEmpty then .ok none
  else .error (.unrepresentable n.text depth)

def hoistFragment (n : Node) (depth : Int) : Option String :=
  if n.bindsAt depth then some ("var " ++ n.id) else none

end Node

def statements (fragments : List String) : String :=
  if fragments.isEmpty then "" else ";\n".intercalate fragments ++ ";"

def loadSource (nodes : List Node) : String :=
  statements ((Node.forest nodes).filterMap fun e => nonEmpty? e.1.load)

def hoistSource (nodes : List Node) : String :=
  statements ((Node.forest nodes).filterMap fun e => nonEmpty? e.1.hoist)

end ExportBundle.Export
