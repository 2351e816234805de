import ExportBundle.Version.Basic
import ExportBundle.Json.Printer
import ExportBundle.Text.Blank
import ExportBundle.Text.Digit
import ExportBundle.Text.Split

/-! Reading a version. Blanks around it are dropped and one `v` or `=` may stand in front. A number
is a zero, or begins with `1` to `9` and goes on with decimal digits of any script; identifiers are
made of ASCII letters, digits and hyphens. -/

namespace ExportBundle.Version

inductive ParseError where
  | invalid (shown : String)
  | numberTooLong
  | tooDeep
  deriving DecidableEq, Repr

def ParseError.message : ParseError → String
  | .invalid shown => "Invalid semantic version: " ++ shown
  | .numberTooLong => "A number has too many digits."
  | .tooDeep => Json.Obstacle.tooDeep.message

def isIdentifierChar (c : Char) : Bool := c.isAlphanum || c == '-'

def number? : List Char → Option (List Nat × List Char)
  | '0' :: r => some ([0], r)
  | c :: r =>
    if '1' ≤ c ∧ c ≤ '9' then
      let more := r.takeWhile fun c => (Text.digitValue? c).isSome
      some ((c.toNat - 48) :: more.filterMap Text.digitValue?, r.drop more.length)
    else none
  | [] => none

def dot? : List Char → Option (List Char)
  | '.' :: r => some r
  | _ => none

def identifiers? (cs : List Char) : Option (List String) :=
  let parts := Text.split '.' cs
  if parts.all fun p => !p.isEmpty && p.all isIdentifierChar then some (parts.map String.ofList)
  else none

def build? : List Char → Option (List String)
  | [] => some []
  | '+' :: r => identifiers? r
  | _ => none

def suffixes? : List Char → Option (List String × List String)
  | '-' :: r => do
    let pre ← identifiers? (r.takeWhile (· != '+'))
    let build ← build? (r.dropWhile (· != '+'))
    return (pre, build)
  | cs => do
    let build ← build? cs
    return ([], build)

/-- The parts of a version, its numbers still in digits. -/
structure Parts where
  major : List Nat
  minor : List Nat
  patch : List Nat
  prerelease : List String
  build : List String

def parts? (cs : List Char) : Option Parts := do
  let (major, r) ← number? cs
  let r ← dot? r
  let (minor, r) ← number? r
  let r ← dot? r
  let (patch, r) ← number? r
  let (prerelease, build) ← suffixes? r
  return ⟨major, minor, patch, prerelease, build⟩

def dropMark : List Char → List Char
  | 'v' :: r => r
  | '=' :: r => r
  | cs => cs

def ofParts (p : Parts) : Except ParseError Version :=
  if [p.major, p.minor, p.patch].all fun ds => ds.length ≤ Text.digitLimit then
    .ok ⟨Text.ofDecimal p.major, Text.ofDecimal p.minor, Text.ofDecimal p.patch,
      p.prerelease, p.build⟩
  else .error .numberTooLong

def parse (s : String) : Except ParseError Version :=
  match parts? (dropMark (Text.trim s.toList)) with
  | some p => ofParts p
  | none => .error (.invalid (Text.literal s))

/-- The version that a value of a document is; only texts are versions. -/
def ofValue [Depths] (v : Json.Value) : Except ParseError Version :=
  match v with
  | .str s => parse s
  | v =>
    match v.shown .literal with
    | .ok s => .error (.invalid s)
    | .error .numberTooLong => .error .numberTooLong
    | .error .tooDeep => .error .tooDeep

end ExportBundle.Version
