import ExportBundle.World

/-! The record of a build. It lies next to the output and holds the fingerprint of what the build
depended on; while the fingerprint is the same and the output is there, no new build is needed. -/

namespace ExportBundle.Build

open Json (Value)

def recordName : String := ".anywhereify-cache.json"

def outputName : String := "index.js"

def manifestName : String := "package.json"

def lockName : String := "package-lock.json"

def toolVersion : String := "0.1.0"

/-- A record as it was read. -/
structure Record where
  fingerprint : Value
  createdAt : Value
  externals : List Value

namespace Record

def itemsOf : Value → Except Json.Misuse (List Value)
  | .arr items => .ok items
  | .str s => .ok (s.toList.map fun c => .str (String.singleton c))
  | .obj members => .ok (members.map fun m => .str m.1)
  | _ => .error .noItems

def ofValue (v : Value) : Except Json.Misuse Record := do
  let members ← v.requireMembers
  let field (name : String) := (members.get? name).getD (.str "")
  let externals := (members.get? "externals").getD .null
  return ⟨field "fingerprint", field "created_at",
    ← if externals.isVoid then pure [] else itemsOf externals⟩

def toValue (r : Record) : Value :=
  .obj [("fingerprint", r.fingerprint), ("created_at", r.createdAt),
    ("externals", .arr r.externals)]

end Record

/-- What is built, apart from the files it depends on. -/
structure Inputs where
  exports : List Value
  minify : Bool
  host : Option Path
  project : Path
  toolVersion : String

variable {τ σ : Type} [Depths]

def lift {ε α : Type} (f : ε → Failure) : Except ε α → Act τ σ α
  | .ok a => return a
  | .error e => Act.fail (f e)

def fingerprint (v : Value) : Act τ σ String :=
  lift .canonical (Canonical.fingerprint (.ofJson v))

def declared (manifest : Value) : Except Json.Misuse Value := do
  let members : OrderedMap String Value ←
    if manifest.isVoid then pure [] else manifest.requireMembers
  return (members.get? "dependencies").getD (.obj [])

def projectState (directory : Path) : Act τ σ (Value × Value) := do
  let manifest := (← Act.readJson? (directory.child manifestName)).getD .null
  let lock := (← Act.readJson? (directory.child lockName)).getD .null
  let dependencies ← lift .misuse (declared manifest)
  let digest ← match lock with
    | .null => pure .null
    | lock => .str <$> fingerprint lock
  return (dependencies, digest)

def inputDocument (i : Inputs) : Act τ σ Value := do
  let (dependencies, lock) ← projectState i.project
  let hostState ← match i.host with
    | none => pure .null
    | some host => do
      let (dependencies, lock) ← projectState host
      pure (.obj [("dependencies", dependencies), ("lockfile", lock)])
  return .obj [("exports", .arr i.exports), ("minify", .bool i.minify),
    ("host", (i.host.map fun p => .str p.text).getD .null), ("dependencies", dependencies),
    ("lockfile", lock), ("host_state", hostState), ("tool_version", .str i.toolVersion)]

/-- The record in an output directory. One that cannot be read counts as none, with a warning. -/
def loadRecord (out : Path) : Act τ σ (Option Record) := do
  let path := out.child recordName
  if !(← Act.isFile path) then return none
  match Json.load (← Act.readText path) with
  | .error (.malformed ..) => Act.warn (.unreadableRecord path); return none
  | .error e => Act.fail (.document e)
  | .ok v =>
    match Record.ofValue v with
    | .error _ => Act.warn (.unreadableRecord path); return none
    | .ok record => return some record

/-- The record of a build from the same inputs whose output is still there. -/
def lookup (out : Path) (inputs : Value) : Act τ σ (Option Record) := do
  match ← loadRecord out with
  | none => return none
  | some record =>
    if !(← Act.isFile (out.child outputName)) then return none
    let digest ← fingerprint inputs
    return if record.fingerprint.text? = some digest then some record else none

def saveRecord (out : Path) (inputs : Value) (externals : List String) : Act τ σ Record := do
  let digest ← fingerprint inputs
  let record : Record := ⟨.str digest, .str (← get).time, externals.map .str⟩
  Act.makeDirectories out
  Act.writeText (out.child recordName) (record.toValue.printIndented 0)
  return record

end ExportBundle.Build
