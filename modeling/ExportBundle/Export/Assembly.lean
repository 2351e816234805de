import ExportBundle.Export.Fragment
import ExportBundle.Export.Properties
import ExportBundle.Export.Scope

/-! The finished module: the bindings of the tree, the bundle that fills them, and the object that
exports them. -/

namespace ExportBundle.Export

/-- The source ahead of the exported object: the hoisted bindings and the bundle. -/
def hoisted (bundle : String) (nodes : List Node) : String :=
  let head := hoistSource nodes
  if head.isEmpty then bundle else head ++ "\n" ++ bundle

def assemble (bundle : String) (nodes : List Node) : String :=
  let source := Scope.free (Node.ids nodes) (hoisted bundle nodes)
  String.ofList (Text.trimEnd source.toList) ++ "\n" ++ exportsSource nodes ++ "\n"

end ExportBundle.Export
