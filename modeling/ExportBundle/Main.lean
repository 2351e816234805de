import ExportBundle.CommandLine.Sources
import ExportBundle.Console.Screen
import ExportBundle.Identifier.Token

/-! The program. It brings the files that a request may look at onto a disk, lets the request work
there, and then prints the report and keeps the files that came out of it. No tool can be called
from here, so every tool counts as absent. -/

namespace ExportBundle.CommandLine

def nameCount : Nat := 4096

/-- The calls that the stack has room for. -/
instance depths : Depths := .ofCalls 1000

def fetch (disk : Disk) (p : Path) : IO Disk := do
  try
    if ← (← IO.FS.realPath p.text).isDir then return disk.plant p.segments .directory
    return disk.plant p.segments (.file (← IO.FS.readBinFile p.text).toList)
  catch _ => return disk

def keep (change : Location × List UInt8) : IO Unit := do
  let p : Path := ⟨1, change.1⟩
  IO.FS.createDirAll p.parent.text
  IO.FS.writeBinFile p.text (ByteArray.mk change.2.toArray)

def absentTools : Tools Unit := fun _ _ tools disk => (.absent, tools, disk)

def drawTokens : IO (List String) :=
  (List.replicate nameCount ()).mapM fun _ => do
    return Identifier.token (← IO.getRandomBytes Identifier.tokenSize.toUSize).toList

def printReport (report : Report) : IO Unit := do
  match report.printed with
  | .lines lines => lines.forM IO.println
  | .document v => IO.println (v.printIndented 0)
  match report.error with
  | some message => IO.eprintln message
  | none => return

def handleRequest (request : Request) : IO UInt32 := do
  let here := Path.ofString (← IO.currentDir).toString
  let first ← (request.sources here).foldlM fetch (Disk.empty.plant here.segments .directory)
  let names := (Identifier.Random.fresh, ← drawTokens)
  let start : World Unit (Identifier.Random × List String) :=
    ⟨first, here.segments, (), names, 0, "", [], [], []⟩
  let disk ← (request.moreSources start).foldlM fetch first
  let (result, w) := Act.perform (handle absentTools request) { start with disk }
  w.warnings.forM fun warning => IO.eprintln warning.message
  (disk.changes w.disk).forM keep
  match result with
  | .ok report =>
    printReport report
    return report.exit.toUInt32
  | .error failure => IO.eprintln failure.message; return 1

end ExportBundle.CommandLine

open ExportBundle CommandLine in
def main (args : List String) : IO UInt32 := do
  match Request.read args with
  | .error .help => IO.println usage; return 0
  | .error .misuse => IO.eprintln usage; return 2
  | .ok .nothing => IO.println usage; return 0
  | .ok request => handleRequest request
