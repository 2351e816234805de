import ExportBundle.Failure
import ExportBundle.Export.Properties
import ExportBundle.Text.Utf8

/-! What a build works on: a disk seen from a directory, the tools outside, a supply of names, and
the record of what was done. Actions change it step by step; a failing action keeps the changes made
before it. -/

namespace ExportBundle

inductive Warning where
  | duplicateAlias (d : Export.DuplicateAlias)
  | unreadableRecord (path : Path)
  deriving DecidableEq, Repr

def Warning.message : Warning → String
  | .duplicateAlias d => d.message
  | .unreadableRecord path => "Ignoring unreadable build cache at " ++ path.text

/-- The steps of a build as they are reported. -/
inductive Step where
  | compiling
  | upToDate
  | scaffolding
  | installing (count : Nat)
  | resolving
  | bundling
  | minifying
  | writing (path : Path)
  deriving DecidableEq, Repr

def Step.text : Step → String
  | .compiling => "Compiling exports"
  | .upToDate => "Output is up to date"
  | .scaffolding => "Scaffolding temporary project"
  | .installing count => "Installing " ++ Text.decimal count ++ " package(s)"
  | .resolving => "Resolving externals"
  | .bundling => "Bundling"
  | .minifying => "Minifying"
  | .writing path => "Writing " ++ path.text

structure World (τ σ : Type) where
  disk : Disk
  here : Location
  tools : τ
  names : σ
  /-- How many names of temporary directories were tried. -/
  temporaries : Nat
  time : String
  commands : List Command
  warnings : List Warning
  steps : List Step

abbrev Act (τ σ : Type) := ExceptT Failure (StateM (World τ σ))

namespace Act

variable {τ σ α : Type} [Depths]

def perform (act : Act τ σ α) (w : World τ σ) : Except Failure α × World τ σ := act.run.run w

def fail (e : Failure) : Act τ σ α := throw e

def ask (question : Disk → Location → α) : Act τ σ α := do
  let w ← get
  return question w.disk w.here

def inquire (question : Disk → Location → Except Disk.Fault α) : Act τ σ α := do
  match ← ask question with
  | .ok a => return a
  | .error f => fail (.disk f)

def change (update : Disk → Location → Except Disk.Fault Disk) : Act τ σ Unit := do
  let w ← get
  match update w.disk w.here with
  | .ok disk => set { w with disk }
  | .error f => fail (.disk f)

def warnAll (warnings : List Warning) : Act τ σ Unit :=
  modify fun w => { w with warnings := w.warnings ++ warnings }

def warn (warning : Warning) : Act τ σ Unit := warnAll [warning]

def report (step : Step) : Act τ σ Unit :=
  modify fun w => { w with steps := w.steps ++ [step] }

def isFile (p : Path) : Act τ σ Bool := inquire fun d here => d.isFile here p

def isDirectory (p : Path) : Act τ σ Bool := inquire fun d here => d.isDirectory here p

def readBytes (p : Path) : Act τ σ (List UInt8) := inquire fun d here => d.read here p

def resolve (p : Path) : Act τ σ Path := do
  if p.hasNull then fail (.disk ⟨.nullCharacter, p⟩)
  return Path.resolve ⟨1, (← get).here⟩ p

def readText (p : Path) : Act τ σ (List Char) := do
  match Text.Utf8.decode (← readBytes p) with
  | .ok cs => return Text.Utf8.unifyLineEnds cs
  | .error m => fail (.encoding m)

def readJson (p : Path) : Act τ σ Json.Value := do
  match Json.load (← readText p) with
  | .ok v => return v
  | .error e => fail (.document e)

def readJson? (p : Path) : Act τ σ (Option Json.Value) := do
  if ← isFile p then some <$> readJson p else return none

def writeBytes (p : Path) (bytes : List UInt8) : Act τ σ Unit :=
  change fun d here => d.write here p bytes

def writeText (p : Path) (text : String) : Act τ σ Unit :=
  writeBytes p (Text.Utf8.encode text.toList)

def remove (p : Path) : Act τ σ Unit := do
  change fun d here => .ok (d.remove here p)

/-- The action, and after it `last` whether it failed or not. -/
def ensuring (act : Act τ σ α) (last : Act τ σ Unit) : Act τ σ α :=
  ExceptT.mk fun w =>
    let (result, w) := act.perform w
    (result, (last.perform w).2)

def attempt (act : Act τ σ α) : Act τ σ (Except Failure α) :=
  ExceptT.mk fun w =>
    let (result, w) := act.perform w
    (.ok result, w)

/-- A directory at `p`; one that is there already is as good as a new one. -/
def acceptDirectory (p : Path) : Act τ σ Unit := do
  match ← attempt (change fun d here => d.makeDirectory here p) with
  | .ok () => return
  | .error (.disk ⟨.missing, q⟩) => fail (.disk ⟨.missing, q⟩)
  | .error e => if !(← isDirectory p) then fail e

def makeDirectoriesUpTo : Nat → Path → Act τ σ Unit
  | 0, p => acceptDirectory p
  | above + 1, p => do
    match ← attempt (acceptDirectory p) with
    | .ok () => return
    | .error (.disk ⟨.missing, q⟩) =>
      if p.parent = p then fail (.disk ⟨.missing, q⟩)
      makeDirectoriesUpTo above p.parent
      acceptDirectory p
    | .error e => fail e

def makeDirectories (p : Path) : Act τ σ Unit := makeDirectoriesUpTo p.segments.length p

/-- A new directory, named by `stem` and the next count whose name is not taken; only so many names
are tried. -/
def makeTemporaryWithin : Nat → String → Act τ σ Path
  | 0, stem => fail (.disk ⟨.alreadyThere, Path.ofString stem⟩)
  | tries + 1, stem => do
    let w ← get
    let count := w.temporaries + 1
    set { w with temporaries := count }
    let p := Path.ofString (stem ++ Text.decimal count)
    match ← attempt (change fun d here => d.makeDirectory here p) with
    | .ok () => return p
    | .error (.disk ⟨.alreadyThere, _⟩) => makeTemporaryWithin tries stem
    | .error e => fail e

@[irreducible]
def temporaryTries : Nat := 10000

def makeTemporary (stem : String) : Act τ σ Path := makeTemporaryWithin temporaryTries stem

def run (tools : Tools τ) (c : Command) : Act τ σ Output := do
  let w ← get
  let (reply, state, disk) := tools c w.here w.tools w.disk
  set { w with tools := state, disk, commands := w.commands ++ [c] }
  match reply with
  | .absent => fail (.tool (.absent c))
  | .timedOut => fail (.tool (.timedOut c))
  | .broken f => fail (.disk f)
  | .finished output => return output

def runChecked (tools : Tools τ) (c : Command) : Act τ σ Output := do
  let output ← run tools c
  if output.code ≠ 0 then fail (.tool (.failed c output))
  return output

end Act

end ExportBundle
