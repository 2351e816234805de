import ExportBundle.Build.Run
import ExportBundle.Config.Load
import ExportBundle.Console.Arguments
import ExportBundle.Display
import ExportBundle.Identifier.Random

/-! The commands of the program. `build` bundles what the configuration exports, `compile` shows the
source that this would give, and `externals` compares two lockfiles. A command ends in a report: an
exit code, what is printed, and the error if there is one. -/

namespace ExportBundle.CommandLine

open Console (Arguments Choice Grammar Stop)
open Identifier (Supply)

inductive Flag where
  | help
  | verbose
  | config
  | out
  | host
  | polyfills
  | noMinify
  | force
  | keepTemp
  | json
  deriving DecidableEq, Repr

structure BuildOptions where
  config : Option String
  out : Option String
  host : Option String
  polyfills : Option String
  noMinify : Bool
  force : Bool
  keepTemp : Bool
  deriving DecidableEq, Repr

inductive Request where
  | build (options : BuildOptions)
  | compile (config : Option String) (json : Bool)
  | externals (host bundled : String) (json : Bool)
  | nothing
  deriving DecidableEq, Repr

def helpChoice : Choice Flag := ⟨["-h", "--help"], false, true, .help⟩

def switch (names : List String) (flag : Flag) : Choice Flag := ⟨names, false, false, flag⟩

def valued (names : List String) (flag : Flag) : Choice Flag := ⟨names, true, false, flag⟩

def mainGrammar : Grammar Flag :=
  ⟨[helpChoice, switch ["-v", "--verbose"] .verbose], [.command]⟩

def buildGrammar : Grammar Flag :=
  ⟨[helpChoice, valued ["--config", "-c"] .config, valued ["--out", "-o"] .out,
    valued ["--host"] .host, valued ["--polyfills"] .polyfills, switch ["--no-minify"] .noMinify,
    switch ["--force"] .force, switch ["--keep-temp"] .keepTemp], []⟩

def compileGrammar : Grammar Flag :=
  ⟨[helpChoice, valued ["--config", "-c"] .config, switch ["--json"] .json], []⟩

def externalsGrammar : Grammar Flag := ⟨[helpChoice, switch ["--json"] .json], [.single, .single]⟩

def valueOf (a : Arguments Flag) (flag : Flag) : Option String :=
  match (a.options.reverse.find? fun o => o.1 == flag).bind (·.2) with
  | some s => if s.isEmpty then none else some s
  | none => none

def isSet (a : Arguments Flag) (flag : Flag) : Bool := a.options.any fun o => o.1 == flag

def usage : String :=
  "\n".intercalate
    ["usage: anywhereify [-h] [-v] \x7bbuild,compile,externals\x7d ...",
     "  build      bundle the configured exports into one file",
     "  compile    show the source that a build would add",
     "  externals  compare two lockfiles"]

def readCommand (words : List String) : Except Stop (Request × List String) := do
  let read (g : Grammar Flag) (args : List String) := g.read (fun _ => .ok ()) args
  match words with
  | "build" :: args =>
    let a ← read buildGrammar args
    return (.build ⟨valueOf a .config, valueOf a .out, valueOf a .host, valueOf a .polyfills,
      isSet a .noMinify, isSet a .force, isSet a .keepTemp⟩, a.unknown)
  | "compile" :: args =>
    let a ← read compileGrammar args
    return (.compile (valueOf a .config) (isSet a .json), a.unknown)
  | "externals" :: args =>
    let a ← read externalsGrammar args
    match a.operands with
    | [[host], [bundled]] => return (.externals host bundled (isSet a .json), a.unknown)
    | _ => throw .misuse
  | _ => throw .misuse

def Request.read (args : List String) : Except Stop Request := do
  let a ← mainGrammar.read (fun words => (readCommand words).map fun _ => ()) args
  let (request, unknown) ← match a.operands with
    | words :: _ => readCommand words
    | [] => pure (.nothing, [])
  if a.unknown.isEmpty && unknown.isEmpty then return request else throw .misuse

inductive Printed where
  | lines (l : List String)
  | document (v : Json.Value)
  deriving Inhabited

structure Report where
  exit : Nat
  printed : Printed
  error : Option String

def Report.nothing (exit : Nat) : Report := ⟨exit, .lines [], none⟩

variable [Display] [Depths]

def drawn (message : String) : Except Failure (List String) :=
  (Display.draw message).mapError .markup

def printed (messages : List String) : Except Failure Report := do
  return ⟨0, .lines (← messages.mapM drawn).flatten, none⟩

def failed (f : Failure) : Except Failure Report := do
  return ⟨1, .lines [], some ("\n".intercalate (← drawn ("[red]Error:[/red] " ++ f.message)))⟩

def isReported : Failure → Bool
  | .spec .noMoreNames | .spec (.unshown .tooDeep) => false
  | .config (.obstacle .tooDeep) | .notComparable .tooDeep => false
  | .disk ⟨.missing, _⟩ | .disk ⟨.nullCharacter, _⟩ | .disk ⟨.unencodable _, _⟩ => true
  | .disk _ => false
  | .document .tooDeep => false
  | .misuse _ => false
  | .canonical e => e == .numberTooLong
  | .markup (.badTag _) => false
  | _ => true

def isReportedLock : Failure → Bool
  | .disk f => f.cause == .missing
  | .document (.malformed ..) => true
  | _ => false

variable {τ σ : Type}

/-- The outcome of `act` as `report` tells it; a failure of a kind that is reported is told too. -/
def reporting {α : Type} (reported : Failure → Bool) (act : Act τ σ α)
    (report : α → Except Failure Report) : Act τ σ Report := do
  match ← Act.attempt act with
  | .ok a => Build.lift id (report a)
  | .error f => if reported f then Build.lift id (failed f) else Act.fail f

def resolved (s : String) : Act τ σ Path := Act.resolve (Path.ofString s)

def configure (o : BuildOptions) (c : Config) : Act τ σ Config := do
  let out ← match o.out with
    | some s => resolved s
    | none => pure c.out
  let host ← match o.host with
    | some s => some <$> resolved s
    | none => pure c.host
  return { c with out, host, polyfills := c.polyfills ++ Text.commaList (o.polyfills.getD ""),
                  minify := c.minify && !o.noMinify, keepTemp := c.keepTemp || o.keepTemp }

/-- The text of a step is not drawn as soon as it is known, but it has to be sound. -/
def listen (step : Step) : Except Failure Unit := do
  let _ ← (Display.read (step.text ++ "...")).mapError .markup

def build [Supply σ] (tools : Tools τ) (o : BuildOptions) : Act τ σ Report :=
  reporting isReported
    (do
      let config ← configure o (← Config.load none (o.config.map Path.ofString))
      Build.build { Build.Kit.standard tools with listener := listen } config config.root o.force)
    fun r =>
      if r.cached then printed ["[dim]Up to date:[/dim] " ++ r.outFile.text]
      else
        let names := r.externals.filterMap Json.Value.text?
        printed ((if names.isEmpty then [] else ["Externals: " ++ ", ".intercalate names]) ++
          ["Output: " ++ r.outFile.text])

def compileReport (json : Bool) (nodes : List Export.Node) : Except Failure Report :=
  let packages := Export.Node.packages nodes
  let parts := [("declarations", "Declarations", Export.loadSource nodes),
    ("global_declarations", "Global declarations", Export.hoistSource nodes),
    ("module_exports", "Module exports", Export.exportsSource nodes)]
  if json then
    .ok ⟨0, .document (.obj (("packages", Json.Value.ofStrings packages) ::
      parts.map fun (key, _, source) => (key, .str source))), none⟩
  else
    printed (("[bold]Packages:[/bold] " ++ ", ".intercalate packages) ::
      parts.flatMap fun (_, title, source) =>
        [title, if source.isEmpty then "[dim](none)[/dim]" else source])

def compile [Supply σ] (config : Option String) (json : Bool) : Act τ σ Report :=
  reporting isReported
    (do
      let config ← Config.load none (config.map Path.ofString)
      let nodes ← Build.compile config.entries
      Act.warnAll ((Export.duplicates nodes).map .duplicateAlias)
      return nodes)
    (compileReport json)

def decisionValue (d : Decision) : Json.Value :=
  .obj [("name", .str d.name), ("super_version", d.host), ("sub_version", d.bundled),
    ("should_externalize", .bool d.provided)]

/-- A table of the decisions, column by column; each cell has markup of its own. -/
def decisionColumns (decisions : List Decision) : List (List String) :=
  let text (v : Json.Value) := v.text?.getD ""
  [decisions.map (·.name), decisions.map (text ·.host), decisions.map (text ·.bundled),
   decisions.map fun d => if d.provided then "[green]yes[/green]" else "[red]no[/red]"]

def rowsOf {α : Type} : List (List α) → List (List α)
  | [] => []
  | [column] => column.map ([·])
  | column :: rest => List.zipWith (· :: ·) column (rowsOf rest)

/-- All cells are read, column by column, before the first row is drawn. -/
def drawnTable (columns : List (List String)) : Except Failure (List String) := do
  let cells ← columns.mapM fun column =>
    column.mapM fun cell => (Display.read cell).mapError Failure.markup
  (rowsOf cells).mapM fun row => do
    let texts ← row.mapM fun cell => (Display.lines cell).mapError Failure.markup
    return "  ".intercalate (texts.map fun lines => "\n".intercalate lines)

def externalsReport (json : Bool) (decisions : List Decision) : Except Failure Report :=
  if json then .ok ⟨0, .document (.arr (decisions.map decisionValue)), none⟩
  else if decisions.isEmpty then printed ["No packages shared between the two lockfiles"]
  else do return ⟨0, .lines (← drawnTable (decisionColumns decisions)), none⟩

def externals (host bundled : String) (json : Bool) : Act τ σ Report :=
  reporting isReportedLock
    (do
      let hostSide ← Build.readLock Build.hostLabel (Path.ofString host)
      let bundledSide ← Build.readLock Build.bundleLabel (Path.ofString bundled)
      return (hostSide, bundledSide))
    fun (hostSide, bundledSide) =>
      match decisions hostSide.values bundledSide.values with
      | .ok ds => externalsReport json ds
      | .error e => .error (.notComparable e)

def handle [Supply σ] (tools : Tools τ) : Request → Act τ σ Report
  | .build o => build tools o
  | .compile config json => compile config json
  | .externals host bundled json => externals host bundled json
  | .nothing => return .nothing 0

def run [Supply σ] (tools : Tools τ) (args : List String) : Act τ σ Report :=
  match Request.read args with
  | .error .help => return .nothing 0
  | .error .misuse => return .nothing 2
  | .ok request => handle tools request

end ExportBundle.CommandLine
