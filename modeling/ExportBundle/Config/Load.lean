import ExportBundle.World

/-! Finding and loading the configuration of a project: the file in the directory itself or in the
nearest one above it, and the local one beside it. -/

namespace ExportBundle.Config

variable {τ σ : Type} [Depths]

def upwards : List String → List Path
  | segments => (List.range (segments.length + 1)).map fun n =>
    ⟨1, segments.take (segments.length - n)⟩

def hereAsPath (here : Location) : Path := ⟨1, here⟩

def firstFile : List Path → Act τ σ (Option Path)
  | [] => return none
  | p :: r => do if ← Act.isFile p then return some p else firstFile r

def find (start : Path) : Act τ σ (Option Path) := do
  firstFile ((upwards (← Act.resolve start).segments).map (·.child fileName))

def choose (start file : Option Path) : Act τ σ Path := do
  match file with
  | some p =>
    if ← Act.isFile p then return p else Act.fail (.configNotFound p)
  | none =>
    let start := start.getD (hereAsPath (← get).here)
    match ← find start with
    | some p => return p
    | none => Act.fail (.noConfig start)

def load (start file : Option Path) : Act τ σ Config := do
  let path ← Act.resolve (← choose start file)
  let document ← Act.readJson path
  let root := path.parent
  let overrides := (← Act.readJson? (root.child localFileName)).getD .null
  match ofDocuments document overrides root with
  | .ok config => return config
  | .error e => Act.fail (.config e)

end ExportBundle.Config
