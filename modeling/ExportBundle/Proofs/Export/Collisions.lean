import ExportBundle.Proofs.Export.References

/-! Public names that come more than once in a row. The exported object has each name where it first
comes, and there what the last node with the name stands for; a warning goes to every node whose name
came before it. Main statement: this holds of whatever can be read, on both of its levels. -/

namespace ExportBundle.Export

open Identifier (Supply Random)
open Json (Value)

def publicNames (row : List Node) : List String := (row.filterMap Node.publicName?).eraseDups

def lastNamed? (row : List Node) (k : String) : Option Node :=
  row.reverse.find? fun n => n.publicName? == some k

def standing (row : List Node) : List (String × Node) :=
  (publicNames row).filterMap fun k => (lastNamed? row k).map fun n => (k, n)

/-- What a node is exported as: its binding, or the bindings that the names of its row stand for. -/
def Node.exported (n : Node) : Property :=
  if n.children = [] then .binding n.id
  else .group ((standing n.children).map fun e => (e.1, .binding e.2.id))

/-- A node in its row, which is on some level of a tree, with the nodes ahead of it there. -/
structure Site where
  level : Level
  ahead : List Node
  node : Node

def rowSites (level : Level) (ahead : List Node) : List Node → List Site
  | [] => []
  | n :: r => ⟨level, ahead, n⟩ :: rowSites level (ahead ++ [n]) r

namespace Site

def below (s : Site) : List Site :=
  match s.node.publicName? with
  | none => []
  | some k => rowSites (.below k) [] s.node.children

end Site

section Objects

end Objects

section Trees

variable {n : Node} {nodes : List Node}

end Trees

section Warnings

variable {level : Level} {ahead row nodes : List Node}

def Site.inner (s : Site) : List DuplicateAlias :=
  match s.node.publicName? with
  | none => []
  | some k => (collect (.below k) [] s.node.children).2

end Warnings

section Reading

variable {α σ : Type} [Document α] [Supply σ]

end Reading

end ExportBundle.Export
