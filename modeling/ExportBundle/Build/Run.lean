import ExportBundle.Build.Capture
import ExportBundle.Export.Assembly
import ExportBundle.Export.Spec
import ExportBundle.Tool.Browserify
import ExportBundle.Tool.Minifier

/-! A build: from a configuration to one file. The exports are compiled first. If the record says
that nothing changed the build is over; otherwise a temporary project is set up, installed, bundled
and finished, and the output is written with a new record. The temporary project is removed whatever
happens, unless it is to be kept. -/

namespace ExportBundle.Build

open Identifier (Supply)

structure Result where
  outFile : Path
  packages : List String
  externals : List Json.Value
  cached : Bool

/-- The tools of a build, and who is told of its steps. -/
structure Kit (τ : Type) where
  tools : Tools τ
  npm : Npm
  browserify : Browserify
  minifier : Minifier
  /-- Hears of each step as it starts; what goes wrong in that ends the build. -/
  listener : Step → Except Failure Unit

variable {τ σ : Type} [Depths]

namespace Kit

def standard (tools : Tools τ) : Kit τ :=
  ⟨tools, .standard, .standard, .standard, fun _ => .ok ()⟩

def announce (kit : Kit τ) (step : Step) : Act τ σ Unit := do
  Act.report step
  lift id (kit.listener step)

end Kit

def compile [Supply σ] (entries : List Json.Value) : Act τ σ (List Export.Node) := do
  let w ← get
  let (result, names) := Export.compile (Json.Value.arr entries) w.names
  set { w with names }
  lift .spec result

/-- The temporary project: the manifest of the real one, and a stub that loads every export. -/
def scaffold (project directory : Path) (nodes : List Export.Node) : Act τ σ Path := do
  Act.makeDirectories directory
  let manifest := project.child manifestName
  if !(← Act.isFile manifest) then Act.fail (.noManifest project)
  Act.writeBytes (directory.child manifestName) (← Act.readBytes manifest)
  let stub := directory.child "stub.js"
  Act.writeText stub (Export.loadSource nodes ++ "\n")
  return stub

def resolveExternals (kit : Kit τ) (host : Option Path) (directory : Path) :
    Act τ σ (List String) := do
  match host with
  | none => return []
  | some host =>
    let (hostSide, projectSide) ← capture (kit.npm.installer kit.tools) host directory directory
    lift .notComparable (externals hostSide projectSide)

def assemble (bundle : String) (nodes : List Export.Node) : Act τ σ String := do
  Act.warnAll ((Export.duplicates nodes).map .duplicateAlias)
  return Export.assemble bundle nodes

def produce (kit : Kit τ) (config : Config) (project : Path) (nodes : List Export.Node)
    (directory : Path) : Act τ σ (List String × String) := do
  kit.announce .scaffolding
  let stub ← scaffold project directory nodes
  let packages := Export.Node.packages nodes
  kit.announce (.installing packages.length)
  kit.npm.install kit.tools packages directory
  kit.announce .resolving
  let externals ← resolveExternals kit config.host directory
  kit.announce .bundling
  let bundle ← kit.browserify.bundle kit.tools [stub] externals (directory.child "bundle.js")
  let source ← assemble bundle nodes
  if config.minify then
    kit.announce .minifying
    return (externals, ← kit.minifier.minify kit.tools source)
  else return (externals, source)

def deliver (kit : Kit τ) (config : Config) (inputs : Json.Value) (externals : List String)
    (source : String) : Act τ σ Unit := do
  let outFile := config.out.child outputName
  kit.announce (.writing outFile)
  Act.makeDirectories outFile.parent
  Act.writeText outFile source
  let _ ← saveRecord config.out inputs externals

def buildIn (kit : Kit τ) (config : Config) (project : Path) (inputs : Json.Value)
    (nodes : List Export.Node) (directory : Path) : Act τ σ (List String) := do
  let (externals, source) ← produce kit config project nodes directory
  deliver kit config inputs externals source
  return externals

/-- Build in a temporary project, which is removed at the end unless it is to be kept. -/
def rebuild (kit : Kit τ) (config : Config) (project : Path) (inputs : Json.Value)
    (nodes : List Export.Node) : Act τ σ (List String) := do
  let directory ← Act.makeTemporary "anywhereify-"
  let finish := if config.keepTemp then pure () else Act.remove directory
  Act.ensuring (buildIn kit config project inputs nodes directory) finish

def conclude (kit : Kit τ) (config : Config) (project : Path) (inputs : Json.Value)
    (nodes : List Export.Node) (known : Option Record) : Act τ σ Result := do
  let outFile := config.out.child outputName
  let packages := Export.Node.packages nodes
  match known with
  | some record =>
    kit.announce .upToDate
    return ⟨outFile, packages, record.externals, true⟩
  | none =>
    let externals ← rebuild kit config project inputs nodes
    return ⟨outFile, packages, externals.map .str, false⟩

def build [Supply σ] (kit : Kit τ) (config : Config) (project : Path) (force : Bool) :
    Act τ σ Result := do
  kit.announce .compiling
  let nodes ← compile config.entries
  let inputs ← inputDocument ⟨config.entries, config.minify, config.host, project, toolVersion⟩
  let known ← if force then pure none else lookup config.out inputs
  conclude kit config project inputs nodes known

end ExportBundle.Build
