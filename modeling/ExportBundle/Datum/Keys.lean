import ExportBundle.Datum.Hash
import ExportBundle.Dependency.Decision
import ExportBundle.Export.Node

/-! Putting values together. Only values that never change can be keys of a map or items of a set,
and of equal ones the first stays. Nodes and decisions are records of their fields. -/

namespace ExportBundle.Datum

/-- Why a value cannot be a key. -/
inductive KeyFault where
  | changeable
  | numberTooLong
  deriving DecidableEq, Repr

mutual

def keyFault? : Datum → Option KeyFault
  | .list _ | .dict _ | .snapshot _ => some .changeable
  | .set frozen _ => if frozen then none else some .changeable
  | .version v => if v.isComparable then none else some .numberTooLong
  | .tuple items => firstFault? items
  | .record _ fields => firstFieldFault? fields
  | _ => none

def firstFault? : List Datum → Option KeyFault
  | [] => none
  | d :: r => d.keyFault? <|> firstFault? r

def firstFieldFault? : List (String × Datum) → Option KeyFault
  | [] => none
  | (_, d) :: r => d.keyFault? <|> firstFieldFault? r

end

def setOf (frozen : Bool) (items : List Datum) : Except KeyFault Datum :=
  match firstFault? items with
  | some fault => .error fault
  | none =>
    .ok (.set frozen (inSetOrder (OrderedMap.ofEntries (items.map fun d => (d, ()))).keys))

def dictOf (entries : List (Datum × Datum)) : Except KeyFault Datum :=
  match firstFault? (entries.map (·.1)) with
  | some fault => .error fault
  | none => .ok (.dict (OrderedMap.ofEntries entries))

def ofOption : Option String → Datum
  | none => .null
  | some s => .str s

mutual

def ofNode : Export.Node → Datum
  | ⟨id, name, aliasName, children, load, hoist⟩ =>
    .record "ExportNode" [("id", .str id), ("name", .str name), ("alias", ofOption aliasName),
      ("children", .tuple (ofNodes children)), ("declaration", ofOption load),
      ("global_declaration", ofOption hoist)]

def ofNodes : List Export.Node → List Datum
  | [] => []
  | n :: r => ofNode n :: ofNodes r

end

def ofDecision (d : Decision) : Datum :=
  .record "VersionDecision" [("name", .str d.name), ("super_version", .ofJson d.host),
    ("sub_version", .ofJson d.bundled), ("should_externalize", .bool d.provided)]

end ExportBundle.Datum
