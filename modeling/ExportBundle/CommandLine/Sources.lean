import ExportBundle.CommandLine

/-! The files that a request may look at, as absolute paths. Those of a build are known only when
its configuration is. -/

namespace ExportBundle.CommandLine

variable [Depths]

def configSources (here : Path) : Option String → List Path
  | some file =>
    let path := Path.resolve here (Path.ofString file)
    [path, path.parent.child Config.localFileName]
  | none => (Config.upwards here.segments).flatMap fun directory =>
    [directory.child Config.fileName, directory.child Config.localFileName]

def lockSources (here : Path) (lock : String) : List Path :=
  let path := Path.resolve here (Path.ofString lock)
  [path, path.child Build.lockName]

def Request.sources (here : Path) : Request → List Path
  | .build options => configSources here options.config
  | .compile config _ => configSources here config
  | .externals host bundled _ => lockSources here host ++ lockSources here bundled
  | .nothing => []

def projectSources (directory : Path) : List Path :=
  [directory.child Build.manifestName, directory.child Build.lockName]

/-- The files that a build depends on, and those that it left when it last ran. -/
def buildSources (config : Config) : List Path :=
  projectSources config.root ++ (config.host.map projectSources).getD [] ++
    [config.out.child Build.recordName, config.out.child Build.outputName]

def Request.moreSources {τ σ : Type} (request : Request) (w : World τ σ) : List Path :=
  match request with
  | .build options =>
    let read := do configure options (← Config.load none (options.config.map Path.ofString))
    match (Act.perform read w).1 with
    | .ok config => (buildSources config).map (Path.resolve (Config.hereAsPath w.here))
    | .error _ => []
  | _ => []

end ExportBundle.CommandLine
