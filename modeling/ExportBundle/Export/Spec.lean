import ExportBundle.Depths
import ExportBundle.Export.Fragment
import ExportBundle.Identifier.Basic
import ExportBundle.Json.Printer

/-! Reading a list of exports. The list has at most two levels, and the first fault met from left to
right, parents before children, is the one reported. Whatever can be looked at as a list, an object
or a text may serve as the document. -/

namespace ExportBundle.Export

open Identifier (Supply)

/-- A document that was read, or one that was turned down. -/
inductive Verdict where
  | parsed (nodes : List Node)
  | rejected (reason : SpecError)
  deriving Repr

/-- What reading asks of a document. `shown` is the text of a value in messages. -/
class Document (α : Type) where
  items? : α → Option (List α)
  members? : α → Option (OrderedMap String α)
  text? : α → Option String
  shown : α → Except Json.Obstacle String

instance [Depths] : Document Json.Value where
  items? := Json.Value.items?
  members? := Json.Value.members?
  text? := Json.Value.text?
  shown v := v.shown .spaced

/-- A computation that draws names and may fail; the names drawn before a failure stay drawn. -/
abbrev Reading (σ : Type) := ExceptT SpecError (StateM σ)

section

variable {α σ : Type} [Document α] [Supply σ]

def complain (error : String → SpecError) (shown : Except Json.Obstacle String) : SpecError :=
  match shown with
  | .ok s => error s
  | .error o => .unshown o

def drawName : Reading σ String :=
  ExceptT.mk fun s =>
    match Supply.draw s with
    | (some name, s) => (.ok name, s)
    | (none, s) => (.error .noMoreNames, s)

def requiredText (value : α) (error : String → SpecError) : Except SpecError String :=
  match Document.text? value with
  | some s => if s.isEmpty then .error (complain error (Document.shown value)) else .ok s
  | none => .error (complain error (Document.shown value))

def readName (members : OrderedMap String α) : Except SpecError String :=
  match members.get? "name" with
  | none => .error (.badName "null")
  | some value => requiredText value .badName

def readAlias (members : OrderedMap String α) : Except SpecError (Option String) :=
  match members.get? "alias" with
  | none => .ok none
  | some value => some <$> requiredText value .badAlias

def finish (head : Node) (parent : Option Node) (depth : Int) : Except SpecError Node := do
  let load ← head.loadFragment parent depth
  return { head with load, hoist := head.hoistFragment depth }

def readExport (nested : Node → α → Reading σ (List Node)) (parent : Option Node) (depth : Int)
    (raw : α) : Reading σ Node := do
  match Document.members? raw with
  | none => throw (complain .notAnObject (Document.shown raw))
  | some members =>
    let name ← readName members
    let aliasName ← readAlias members
    let id ← drawName
    let head : Node := ⟨id, name, aliasName, [], none, none⟩
    match members.get? "exports" with
    | none => finish head parent depth
    | some raw =>
      let children ← nested head raw
      if !children.isEmpty && aliasName.isNone then throw (.aliasRequired name)
      finish { head with children } parent depth

/-- A list of exports with `levels` levels to go. -/
def readLevels : Nat → Option Node → Int → α → Reading σ (List Node)
  | levels, parent, depth, raw =>
    match Document.items? raw, levels with
    | none, _ => throw (complain .notAList (Document.shown raw))
    | some [], _ => throw .emptyList
    | some (_ :: _), 0 => throw (.tooDeep depth)
    | some (item :: items), levels + 1 =>
      (item :: items).mapM
        (readExport (fun head raw => readLevels levels (some head) (depth + 1) raw) parent depth)

def readExportsAt (parent : Option Node) (depth : Int) (raw : α) : Reading σ (List Node) :=
  readLevels (maxDepth + 1 - depth).toNat parent depth raw

def readExports (raw : α) : Reading σ (List Node) := readExportsAt none 0 raw

def compile (raw : α) (supply : σ) : Except SpecError (List Node) × σ :=
  (readExports raw).run.run supply

/-- The tree of a document or what is wrong with it; an error that is no fault of the document stays
one. -/
def parse (raw : α) (supply : σ) : Except SpecError Verdict × σ :=
  match compile raw supply with
  | (.ok nodes, supply) => (.ok (.parsed nodes), supply)
  | (.error e, supply) => (if e.kind?.isSome then .ok (.rejected e) else .error e, supply)

end

end ExportBundle.Export
