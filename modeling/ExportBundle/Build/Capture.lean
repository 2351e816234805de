import ExportBundle.Build.Cache
import ExportBundle.Tool.Npm

/-! Capturing what two projects have installed. The top-level dependencies of each side are
installed once more into a directory of that side alone, and the lockfile that this leaves is the
snapshot. The project's own name is not among its dependencies. -/

namespace ExportBundle.Build

open Json (Value)

variable {τ σ : Type} [Depths]

def packageName (directory : Path) : Act τ σ (Option String) := do
  match ← Act.readJson? (directory.child manifestName) with
  | none => return none
  | some manifest =>
    let members ← lift .misuse manifest.requireMembers
    return (members.get? "name").bind Value.nonEmptyText?

/-- The snapshot that a lockfile describes; for a directory, the lockfile in it. -/
def readLock (label : String) (path : Path) : Act τ σ Snapshot := do
  let lock ← Act.readJson (if ← Act.isDirectory path then path.child lockName else path)
  lift .misuse (Snapshot.ofLock label lock)

def captureSide (installer : Installer τ σ) (label : String) (dependencies : List String)
    (work : Path) : Act τ σ Snapshot := do
  let target := work.child label
  Act.makeDirectories target
  Act.writeText (target.child manifestName) ((Value.obj [("name", .str label)]).print .spaced)
  installer.install dependencies target
  let lock := target.child lockName
  if ← Act.isFile lock then readLock label lock else return Snapshot.empty label

def hostLabel : String := "super"

def bundleLabel : String := "sub"

def capture (installer : Installer τ σ) (host project work : Path) :
    Act τ σ (Snapshot × Snapshot) := do
  let own ← packageName project
  let others (l : List String) := l.filter fun name => some name ≠ own
  let hostNames := others (← installer.list host)
  let projectNames := others (← installer.list project)
  let hostSide ← captureSide installer hostLabel hostNames work
  let projectSide ← captureSide installer bundleLabel projectNames work
  return (hostSide, projectSide)

def externals (host bundled : Snapshot) : Except NotComparable (List String) :=
  providedNames <$> decisions host.values bundled.values

end ExportBundle.Build
