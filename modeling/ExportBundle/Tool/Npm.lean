import ExportBundle.World

/-! The package manager: installing packages into a directory, and listing those installed in
one. -/

namespace ExportBundle

/-- What a build asks of a package manager. -/
structure Installer (τ σ : Type) where
  install : List String → Path → Act τ σ Unit
  list : Path → Act τ σ (List String)

structure Npm where
  program : String
  timeout : Seconds
  deriving DecidableEq, Repr

namespace Npm

def standard : Npm := ⟨"npm", .standard⟩

def installCommand (n : Npm) (packages : List String) (directory : Path) : Command :=
  ⟨[n.program, "install", "--save", "--no-audit", "--no-fund"] ++ packages, some directory,
    n.timeout⟩

def listCommand (n : Npm) (directory : Path) : Command :=
  ⟨[n.program, "ls", "--json", "--depth=0"], some directory, n.timeout⟩

def listed (listing : Json.Value) : Except Json.Misuse (List String) := do
  let members ← listing.requireMembers
  let dependencies := (members.get? "dependencies").getD .null
  if dependencies.isVoid then return []
  else return (← dependencies.requireMembers).keys

variable {τ σ : Type} [Depths]

/-- There is nothing to run when there is nothing to install. -/
def install (n : Npm) (tools : Tools τ) (packages : List String) (directory : Path) :
    Act τ σ Unit := do
  if packages.isEmpty then return
  let _ ← Act.runChecked tools (n.installCommand packages directory)

/-- The exit code does not count, since a listing with problems is a listing too. -/
def list (n : Npm) (tools : Tools τ) (directory : Path) : Act τ σ (List String) := do
  let command := n.listCommand directory
  let output ← Act.run tools command
  let text := if output.stdout.isEmpty then "\x7b\x7d" else output.stdout
  match Json.load text.toList with
  | .error (.malformed ..) => Act.fail (.tool (.unreadableListing command directory output))
  | .error e => Act.fail (.document e)
  | .ok listing =>
    match listed listing with
    | .ok names => return names
    | .error m => Act.fail (.misuse m)

def installer (n : Npm) (tools : Tools τ) : Installer τ σ := ⟨n.install tools, n.list tools⟩

end Npm

end ExportBundle
