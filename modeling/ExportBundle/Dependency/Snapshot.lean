import ExportBundle.Json.Value
import ExportBundle.Text.Quoted
import ExportBundle.Text.Split

/-! Snapshots: the versions of the packages that one project has installed. They are read from
lockfiles. A lockfile with a table of installed paths gives the packages at the top level, since a
copy inside another package is that package's own affair; an older one has a table of names. -/

namespace ExportBundle

structure Snapshot where
  label : String
  versions : OrderedMap String String
  deriving DecidableEq, Repr, Inhabited

namespace Snapshot

def installDirectory : String := "node_modules"

/-- Whether a name, as the path of a package, is at the top level: one segment, or a scope and one
more. -/
def isTopLevel (name : String) : Bool :=
  let parts := Text.pieces '/' name
  !parts.contains installDirectory &&
    parts.length == (if name.toList.head? == some '@' then 2 else 1)

/-- The name of the package installed at `path`, when that is at the top level. -/
def topLevelName? (path : String) : Option String :=
  let root := (installDirectory ++ "/").toList
  if root.isPrefixOf path.toList then
    let name := String.ofList (path.toList.drop root.length)
    if isTopLevel name then some name else none
  else none

def version? (entry : Json.Value) : Option String := do
  let members ← entry.members?
  let version ← members.get? "version"
  version.text?

def ofInstalled (table : OrderedMap String Json.Value) : OrderedMap String String :=
  OrderedMap.ofEntries <| table.filterMap fun (path, entry) => do
    let name ← topLevelName? path
    if name.isEmpty then none
    let version ← version? entry
    return (name, version)

def ofNamed (table : OrderedMap String Json.Value) : OrderedMap String String :=
  OrderedMap.ofEntries <| table.filterMap fun (name, entry) => do
    let version ← version? entry
    return (name, version)

/-- The table of names of a lockfile; a void one is an empty table. -/
def namedTable (lock : OrderedMap String Json.Value) :
    Except Json.Misuse (OrderedMap String Json.Value) :=
  match lock.get? "dependencies" with
  | none => .ok []
  | some table => if table.isVoid then .ok [] else table.requireMembers

def ofLock (label : String) (lock : Json.Value) : Except Json.Misuse Snapshot := do
  let lock ← lock.requireMembers
  match lock.get? "packages" with
  | some (.obj (e :: r)) => return ⟨label, ofInstalled (e :: r)⟩
  | _ => return ⟨label, ofNamed (← namedTable lock)⟩

def empty (label : String) : Snapshot := ⟨label, []⟩

def values (s : Snapshot) : OrderedMap String Json.Value := s.versions.map fun e => (e.1, .str e.2)

def text (s : Snapshot) : String :=
  "DependencySnapshot(" ++ Text.literal s.label ++ ", " ++ Text.decimal s.versions.length ++
    " packages)"

end Snapshot

end ExportBundle
