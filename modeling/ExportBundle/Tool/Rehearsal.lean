import ExportBundle.Json.Printer
import ExportBundle.Text.Utf8
import ExportBundle.Tool.Command

/-! Tools for a rehearsal: they act on the disk alone, by a script. Installed packages are
remembered by the name of the directory they were installed in; bundling puts the entry files
together; and the script can make any tool fail. -/

namespace ExportBundle.Rehearsal

open Json (Value)

/-- What the script lets a tool end in. -/
inductive Ending where
  | absent
  | timedOut
  | output (o : Output)

structure Script where
  endings : OrderedMap String Ending
  /-- The versions that a lockfile states, by the name of its directory. -/
  versions : OrderedMap String (OrderedMap String Value)
  listings : OrderedMap String (List String)
  wrapping : String × String

def Script.standard : Script := ⟨[], [], [], "(function()\x7b\n", "\x7d)();\n"⟩

structure State where
  script : Script
  installed : OrderedMap String (List String)

def State.ofScript (script : Script) : State := ⟨script, []⟩

def toolName (words : List String) : String :=
  match words with
  | [] => ""
  | [program] => program
  | program :: action :: rest =>
    if action == "install" || action == "ls" then action
    else rest.headD program

def directoryName (c : Command) : String := (c.directory.map Path.name).getD ""

def State.installedIn (s : State) (directory : String) : List String :=
  (s.installed.get? directory).getD []

def addNames (known new : List String) : List String :=
  new.foldl (fun l n => if l.contains n then l else l ++ [n]) known

def success : Reply := .finished ⟨0, "", ""⟩

def wrote (disk : Disk) : Except Disk.Fault Disk → Reply × Disk
  | .ok disk => (success, disk)
  | .error f => (if f.cause = .missing then .absent else .broken f, disk)

def lockfile (versions : OrderedMap String Value) (packages : List String) : Value :=
  .obj [("packages", .obj (packages.filterMap fun p =>
    (versions.get? p).map fun v => ("node_modules/" ++ p, .obj [("version", v)])))]

def install : Tools State := fun c here s disk =>
  let directory := directoryName c
  let packages := addNames (s.installedIn directory) (c.words.drop 5)
  let s := { s with installed := s.installed.put directory packages }
  match s.script.versions.get? directory with
  | none => (success, s, disk)
  | some versions =>
    let path := (c.directory.getD (Path.ofString "")).child "package-lock.json"
    let text := (lockfile versions packages).print .spaced
    let (reply, disk) := wrote disk (disk.write here path (Text.Utf8.encode text.toList))
    (reply, s, disk)

def list : Tools State := fun c _ s disk =>
  let directory := directoryName c
  let names := (s.script.listings.get? directory).getD (s.installedIn directory)
  let listing := Value.obj [("dependencies", .obj (OrderedMap.ofEntries (names.map (·, .obj []))))]
  (.finished ⟨0, listing.print .spaced, ""⟩, s, disk)

def contents (disk : Disk) (here : Location) (paths : List Path) :
    Except Disk.Fault (List UInt8) := do
  return (← paths.mapM fun p => disk.read here p).flatten

def bundle : Tools State := fun c here s disk =>
  let entries := (c.words.drop 3).takeWhile fun w => w != "-x" && w != "-o"
  let encode (text : String) := Text.Utf8.encode text.toList
  let (reply, disk) := wrote disk do
    let inside ← contents disk here (entries.map Path.ofString)
    disk.write here (Path.ofString (c.words.getLastD ""))
      (encode s.script.wrapping.1 ++ inside ++ encode s.script.wrapping.2)
  (reply, s, disk)

def minify : Tools State := fun c here s disk =>
  let word (n : Nat) := Path.ofString (c.words.getD n "")
  let (reply, disk) := wrote disk do
    let input ← disk.read here (word 3)
    disk.write here (word 5) (Text.Utf8.encode "/*min*/".toList ++ input)
  (reply, s, disk)

def tools : Tools State := fun c here s disk =>
  let tool := toolName c.words
  match s.script.endings.get? tool with
  | some .absent => (.absent, s, disk)
  | some .timedOut => (.timedOut, s, disk)
  | some (.output o) => (.finished o, s, disk)
  | none =>
    match tool with
    | "install" => install c here s disk
    | "ls" => list c here s disk
    | "browserify" => bundle c here s disk
    | "babel-minify" => minify c here s disk
    | _ => (success, s, disk)

end ExportBundle.Rehearsal
