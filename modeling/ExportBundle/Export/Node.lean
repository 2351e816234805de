import ExportBundle.Text.Quoted

/-! The tree of exports. A top-level node is a package, its children are paths inside the package.
Each node has the name of its binding, and the fragments of source that load and hoist it. -/

namespace ExportBundle.Export

structure Node where
  id : String
  name : String
  aliasName : Option String
  children : List Node
  load : Option String
  hoist : Option String
  deriving Inhabited, Repr

def nonEmpty? : Option String → Option String
  | some s => if s.isEmpty then none else some s
  | none => none

namespace Node

def publicName? (n : Node) : Option String := nonEmpty? n.aliasName

/-- Whether a node at this depth gets a binding: it has a public name, and it is a package without
children or a path inside one. -/
def bindsAt (n : Node) (depth : Int) : Bool :=
  n.publicName?.isSome && ((depth == 0 && n.children.isEmpty) || depth == 1)

mutual

def walk (depth : Nat) : Node → List (Node × Nat)
  | ⟨id, name, aliasName, children, load, hoist⟩ =>
    (⟨id, name, aliasName, children, load, hoist⟩, depth) :: walkAll (depth + 1) children

def walkAll (depth : Nat) : List Node → List (Node × Nat)
  | [] => []
  | n :: r => n.walk depth ++ walkAll depth r

end

def forest (nodes : List Node) : List (Node × Nat) := walkAll 0 nodes

def ids (nodes : List Node) : List String := (forest nodes).map (·.1.id)

def packages (nodes : List Node) : List String := nodes.map (·.name)

def optionalText : Option String → String
  | none => "None"
  | some s => Text.literal s

/-- A row in parentheses; a single item is followed by a comma. -/
def rowText : List String → String
  | [s] => "(" ++ s ++ ",)"
  | l => "(" ++ ", ".intercalate l ++ ")"

mutual

def text : Node → String
  | ⟨id, name, aliasName, children, load, hoist⟩ =>
    "ExportNode(id=" ++ Text.literal id ++ ", name=" ++ Text.literal name ++
      ", alias=" ++ optionalText aliasName ++ ", children=" ++ rowText (texts children) ++
      ", declaration=" ++ optionalText load ++ ", global_declaration=" ++ optionalText hoist ++ ")"

def texts : List Node → List String
  | [] => []
  | n :: r => n.text :: texts r

end

theorem walkAll_append (depth : Nat) (a b : List Node) :
    walkAll depth (a ++ b) = walkAll depth a ++ walkAll depth b := by
  induction a with
  | nil => rfl
  | cons n r ih => simp [walkAll, ih]

theorem ids_append (a b : List Node) : ids (a ++ b) = ids a ++ ids b := by
  simp [ids, forest, walkAll_append]

end Node

end ExportBundle.Export
