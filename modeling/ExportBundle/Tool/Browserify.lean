import ExportBundle.World

/-! The bundler: entry files go in, one file comes out, and requires of the external packages are
left for the host. -/

namespace ExportBundle

structure Browserify where
  runner : String
  timeout : Seconds
  /-- Where to run, when not next to the output. -/
  directory : Option Path
  deriving DecidableEq, Repr

namespace Browserify

def standardRunner : String := "npx"

def standard : Browserify := ⟨standardRunner, .standard, none⟩

def words (runner : String) (entries : List Path) (externals : List String) (out : Path) :
    List String :=
  [runner, "--yes", "browserify"] ++ entries.map Path.text ++
    externals.flatMap (fun name => ["-x", name]) ++ ["-o", out.text]

variable {τ σ : Type}

def bundle (b : Browserify) (tools : Tools τ) (entries : List Path) (externals : List String)
    (out : Path) : Act τ σ String := do
  let _ ← Act.runChecked tools
    ⟨words b.runner entries externals out, some (b.directory.getD out.parent), b.timeout⟩
  return String.ofList (← Act.readText out)

end Browserify

end ExportBundle
