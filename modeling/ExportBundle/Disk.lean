import ExportBundle.OrderedMap
import ExportBundle.Path
import ExportBundle.Text.Quoted

/-! A tree of directories and regular files as a value. Entries are kept under their absolute
locations. Looking a path up walks over its segments: each directory on the way has to be there, no
name may be too long, and a double dot goes back up. Every operation says what stands in its way, and
a failing one leaves the disk as it was. There are no links and no permissions: what is there can be
read, written over and removed. -/

namespace ExportBundle

abbrev Location := List String

namespace Disk

inductive Entry where
  | directory
  | file (bytes : List UInt8)
  deriving DecidableEq, Repr

end Disk

structure Disk where
  entries : OrderedMap Location Disk.Entry
  deriving Inhabited

namespace Disk

inductive Cause where
  | missing
  | alreadyThere
  | notADirectory
  | isADirectory
  | nameTooLong
  | nullCharacter
  | unencodable (u : Text.Utf8.Unencodable)
  deriving DecidableEq, Repr

structure Fault where
  cause : Cause
  path : Path
  deriving DecidableEq, Repr

def Cause.message : Cause → String
  | .missing => "[Errno 2] No such file or directory"
  | .alreadyThere => "[Errno 17] File exists"
  | .notADirectory => "[Errno 20] Not a directory"
  | .isADirectory => "[Errno 21] Is a directory"
  | .nameTooLong => "[Errno 36] File name too long"
  | .nullCharacter => "embedded null byte"
  | .unencodable u => u.message

def Fault.message (f : Fault) : String :=
  match f.cause with
  | .nullCharacter | .unencodable _ => f.cause.message
  | _ => f.cause.message ++ ": " ++ Text.literal f.path.text

def empty : Disk := ⟨[]⟩

/-- What is at a location; the root is always a directory. -/
def lookup (d : Disk) (l : Location) : Option Entry :=
  if l.isEmpty then some .directory else d.entries.get? l

def put (d : Disk) (l : Location) (e : Entry) : Disk := ⟨d.entries.put l e⟩

def plant (d : Disk) (l : Location) (e : Entry) : Disk :=
  ((List.range (l.length - 1)).foldl (fun d n => d.put (l.take (n + 1)) .directory) d).put l e

def erase (d : Disk) (l : Location) : Disk :=
  ⟨d.entries.filter fun e => !l.isPrefixOf e.1⟩

def nameLimit : Nat := 255

def pathLimit : Nat := 4095

/-- The location that the segments lead to. Only the last of them may be absent. A name is looked at
only where there is a directory that could have it. -/
def walk (d : Disk) (base : Location) : List String → Except Cause Location
  | [] => .ok base
  | s :: r =>
    match d.lookup base with
    | none => .error .missing
    | some (.file _) => .error .notADirectory
    | some .directory =>
      if s = ".." then walk d base.dropLast r
      else if s.utf8ByteSize > nameLimit then .error .nameTooLong
      else walk d (base ++ [s]) r

def locate (d : Disk) (here : Location) (p : Path) : Except Cause Location :=
  if let some u := p.unencodable? then .error (.unencodable u)
  else if p.hasNull then .error .nullCharacter
  else if p.text.utf8ByteSize > pathLimit then .error .nameTooLong
  else d.walk (if p.isAbsolute then [] else here) p.segments

/-- What is at a path, if anything; names that are too long cannot be asked for. -/
def find? (d : Disk) (here : Location) (p : Path) : Except Fault (Option Entry) :=
  match d.locate here p with
  | .ok l => .ok (d.lookup l)
  | .error .nameTooLong => .error ⟨.nameTooLong, p⟩
  | .error _ => .ok none

def isFile (d : Disk) (here : Location) (p : Path) : Except Fault Bool := do
  match ← d.find? here p with
  | some (.file _) => return true
  | _ => return false

def isDirectory (d : Disk) (here : Location) (p : Path) : Except Fault Bool :=
  return (← d.find? here p) == some .directory

def read (d : Disk) (here : Location) (p : Path) : Except Fault (List UInt8) :=
  match d.locate here p with
  | .error cause => .error ⟨cause, p⟩
  | .ok l =>
    match d.lookup l with
    | none => .error ⟨.missing, p⟩
    | some .directory => .error ⟨.isADirectory, p⟩
    | some (.file bytes) => .ok bytes

def write (d : Disk) (here : Location) (p : Path) (bytes : List UInt8) : Except Fault Disk :=
  match d.locate here p with
  | .error cause => .error ⟨cause, p⟩
  | .ok l =>
    match d.lookup l with
    | some .directory => .error ⟨.isADirectory, p⟩
    | some (.file _) => .ok (d.put l (.file bytes))
    | none =>
      match d.lookup l.dropLast with
      | some .directory => .ok (d.put l (.file bytes))
      | some (.file _) => .error ⟨.notADirectory, p⟩
      | none => .error ⟨.missing, p⟩

def makeDirectory (d : Disk) (here : Location) (p : Path) : Except Fault Disk :=
  match d.locate here p with
  | .error cause => .error ⟨cause, p⟩
  | .ok l =>
    match d.lookup l with
    | some _ => .error ⟨.alreadyThere, p⟩
    | none =>
      match d.lookup l.dropLast with
      | some .directory => .ok (d.put l .directory)
      | some (.file _) => .error ⟨.notADirectory, p⟩
      | none => .error ⟨.missing, p⟩

/-- The disk without the file or the tree at a path; nothing happens when nothing is there. -/
def remove (d : Disk) (here : Location) (p : Path) : Disk :=
  match d.locate here p with
  | .ok l => d.erase l
  | .error _ => d

def changes (d d' : Disk) : List (Location × List UInt8) :=
  d'.entries.filterMap fun e =>
    match e.2 with
    | .file bytes => if d.lookup e.1 = some (.file bytes) then none else some (e.1, bytes)
    | .directory => none

def files (d : Disk) : List Location :=
  d.entries.filterMap fun e =>
    match e.2 with
    | .file _ => some e.1
    | .directory => none

end Disk

end ExportBundle
