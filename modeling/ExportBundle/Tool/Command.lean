import ExportBundle.Binary64
import ExportBundle.Disk

/-! Commands to the tools outside, and what may come of them. A set of tools is a function: it sees
the command and the disk, keeps a state of its own, and may change the disk. -/

namespace ExportBundle

/-- How long a tool may take, in seconds. -/
inductive Seconds where
  | unlimited
  | whole (n : Int)
  | fraction (x : Binary64)
  /-- True and false count as one and zero, but are written as they are. -/
  | flag (b : Bool)
  /-- No number at all, with its text and its literal. -/
  | other (text literal : String)
  deriving DecidableEq, Repr

def Seconds.text : Seconds → String
  | .unlimited => "None"
  | .whole n => Text.decimalInt n
  | .fraction x => x.text "inf" "nan"
  | .flag b => if b then "True" else "False"
  | .other text _ => text

def Seconds.literal : Seconds → String
  | .other _ literal => literal
  | s => s.text

def Seconds.standard : Seconds := .fraction (.ofDecimal false 600 0)

structure Command where
  words : List String
  directory : Option Path
  timeout : Seconds
  deriving DecidableEq, Repr

def Command.text (c : Command) : String := " ".intercalate c.words

def Command.program (c : Command) : String := c.words.headD ""

/-- What a tool printed, and its exit code. -/
structure Output where
  code : Int
  stdout : String
  stderr : String
  deriving DecidableEq, Repr

inductive Reply where
  | absent
  | timedOut
  | finished (output : Output)
  /-- The command could not be started for a reason on the disk. -/
  | broken (fault : Disk.Fault)
  deriving DecidableEq, Repr

/-- Tools with a state `τ`, called from a place on a disk. -/
abbrev Tools (τ : Type) := Command → Location → τ → Disk → Reply × τ × Disk

/-- Why a tool did not do its work. -/
inductive ToolError where
  | absent (command : Command)
  | timedOut (command : Command)
  | failed (command : Command) (output : Output)
  | unreadableListing (command : Command) (directory : Path) (output : Output)
  | minify (cause : ToolError)
  deriving DecidableEq, Repr

namespace ToolError

def message : ToolError → String
  | .absent c => "Executable not found: " ++ c.program
  | .timedOut c => "Command timed out after " ++ c.timeout.text ++ "s: " ++ c.text
  | .failed c o =>
    "Command failed: " ++ c.text ++ "\nstdout: " ++ o.stdout ++ "\nstderr: " ++ o.stderr
  | .unreadableListing _ directory _ => "Could not parse `npm ls` output in " ++ directory.text
  | .minify cause => "Minification failed: " ++ cause.message

def command : ToolError → List String
  | .absent c | .timedOut c | .failed c _ | .unreadableListing c _ _ => c.words
  | .minify cause => cause.command

def stdout : ToolError → String
  | .absent _ | .timedOut _ => ""
  | .failed _ o | .unreadableListing _ _ o => o.stdout
  | .minify cause => cause.stdout

def stderr : ToolError → String
  | .absent _ | .timedOut _ => ""
  | .failed _ o | .unreadableListing _ _ o => o.stderr
  | .minify cause => cause.stderr

end ToolError

end ExportBundle
