import ExportBundle.Canonical
import ExportBundle.Config.Basic
import ExportBundle.Dependency.Decision
import ExportBundle.Display
import ExportBundle.Json.Reader
import ExportBundle.Tool.Command

/-! All that can go wrong on the way from a configuration to a bundle. -/

namespace ExportBundle

inductive Failure where
  | spec (e : Export.SpecError)
  | config (e : ConfigError)
  | tool (e : ToolError)
  | disk (f : Disk.Fault)
  | encoding (m : Text.Utf8.Malformed)
  | document (e : Json.ReadError)
  | misuse (m : Json.Misuse)
  | notComparable (e : NotComparable)
  | canonical (e : Canonical.Error)
  | noManifest (directory : Path)
  | noConfig (start : Path)
  | configNotFound (path : Path)
  | markup (e : Display.Refusal)
  deriving DecidableEq, Repr

namespace Failure

def message : Failure → String
  | .spec e => e.message
  | .config e => e.message
  | .tool e => e.message
  | .disk f => f.message
  | .encoding m => m.message
  | .document e => e.message
  | .misuse m => m.message
  | .notComparable e => e.message
  | .canonical e => e.message
  | .noManifest directory => "No package.json found in " ++ directory.text
  | .noConfig start =>
    "It looks like you have forgotten to define your " ++ Config.fileName ++ " (searched " ++
      start.text ++ " and its parents)."
  | .configNotFound path => "Config file not found: " ++ path.text
  | .markup e => e.message

end Failure

end ExportBundle
