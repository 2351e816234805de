import ExportBundle.Dependency.Snapshot
import ExportBundle.Json.Reader
import ExportBundle.Sorting
import ExportBundle.Version.Parse
import ExportBundle.Version.Distance

/-! Which packages may be left to the host. The host's copy of a package stands in for the bundled
one when both have equal precedence, or when the host's is newer by a minor version or a patch. -/

namespace ExportBundle

/-- Why nothing can be decided about two values. -/
inductive NotComparable where
  | numberTooLong (digits : Nat)
  | tooDeep
  deriving DecidableEq, Repr

def NotComparable.message : NotComparable → String
  | .numberTooLong digits => (Json.ReadError.numberTooLong digits).message
  | .tooDeep => Json.Obstacle.tooDeep.message

namespace Version

def mayReplace (host required : Version) : Bool :=
  let newer := host.atLeast required
  match (if newer then required.distance? host else host.distance? required) with
  | none => true
  | some d => newer && (d == .core false .patch || d == .core false .minor)

end Version

variable [Depths]

/-- Whether the host's version, when both are versions at all, may replace the bundled one. -/
def isProvided (host bundled : Json.Value) : Except NotComparable Bool :=
  if host.isVoid || bundled.isVoid then .ok false
  else match Version.ofValue host, Version.ofValue bundled with
    | .ok h, .ok b =>
      match h.tooLong?.or b.tooLong? with
      | some digits => .error (.numberTooLong digits)
      | none => .ok (h.mayReplace b)
    | .error .tooDeep, _ | .ok _, .error .tooDeep => .error .tooDeep
    | _, _ => .ok false

structure Decision where
  name : String
  host : Json.Value
  bundled : Json.Value
  provided : Bool
  deriving Inhabited

def shared (host bundled : OrderedMap String Json.Value) :
    List (String × Json.Value × Json.Value) :=
  bundled.filterMap fun (name, version) => (host.get? name).map fun v => (name, v, version)

def decideOne (pair : String × Json.Value × Json.Value) : Except NotComparable Decision := do
  return ⟨pair.1, pair.2.1, pair.2.2, ← isProvided pair.2.1 pair.2.2⟩

def decisions (host bundled : OrderedMap String Json.Value) :
    Except NotComparable (List Decision) :=
  (Sorting.sort (fun a b => Text.inOrder a.1 b.1) (shared host bundled)).mapM decideOne

def providedNames (decisions : List Decision) : List String :=
  decisions.filterMap fun d => if d.provided then some d.name else none

end ExportBundle
