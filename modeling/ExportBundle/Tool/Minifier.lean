import ExportBundle.World

/-! The minifier. It works in a directory of its own, which is removed afterwards, and keeps all
names as they are. -/

namespace ExportBundle

structure Minifier where
  runner : String
  timeout : Seconds
  deriving DecidableEq, Repr

namespace Minifier

def standard : Minifier := ⟨"npx", .standard⟩

def words (runner : String) (input output : Path) : List String :=
  [runner, "--yes", "babel-minify", input.text, "--out-file", output.text, "--mangle=false",
    "--regexpConstructors=false"]

variable {τ σ : Type}

def minifyIn (m : Minifier) (tools : Tools τ) (source : String) (directory : Path) :
    Act τ σ String := do
  let input := directory.child "input.js"
  let output := directory.child "output.js"
  Act.writeText input source
  match ← Act.attempt (Act.runChecked tools
      ⟨words m.runner input output, some directory, m.timeout⟩) with
  | .ok _ => return String.ofList (← Act.readText output)
  | .error (.tool e) => Act.fail (.tool (.minify e))
  | .error e => Act.fail e

def minify (m : Minifier) (tools : Tools τ) (source : String) : Act τ σ String := do
  let directory ← Act.makeTemporary "anywhereify-minify-"
  Act.ensuring (m.minifyIn tools source directory) (Act.remove directory)

end Minifier

end ExportBundle
