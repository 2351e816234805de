import ExportBundle.Json.Value
import ExportBundle.Text.Quoted

/-! What can be wrong with a list of exports. Values that a message shows are kept as text. -/

namespace ExportBundle.Export

inductive SpecError where
  | notAList (shown : String)
  | emptyList
  | notAnObject (shown : String)
  | badName (shown : String)
  | badAlias (shown : String)
  | tooDeep (depth : Int)
  | aliasRequired (name : String)
  | badParent (shown : String)
  | unrepresentable (shown : String) (depth : Int)
  | noMoreNames
  | unshown (o : Json.Obstacle)
  deriving DecidableEq, Repr

def maxDepth : Int := 1

namespace SpecError

/-- What an error finds fault with. -/
inductive Kind where
  | shape
  | aliasName
  | depth
  | aliasRequired
  | parentShape
  | unrepresentable
  deriving DecidableEq, Repr

/-- The kind of an error about a document; running out of names or of room is no fault of one. -/
def kind? : SpecError → Option Kind
  | .notAList _ | .emptyList | .notAnObject _ | .badName _ => some .shape
  | .badAlias _ => some .aliasName
  | .tooDeep _ => some .depth
  | .aliasRequired _ => some .aliasRequired
  | .badParent _ => some .parentShape
  | .unrepresentable _ _ => some .unrepresentable
  | .noMoreNames | .unshown _ => none

end SpecError

def SpecError.message : SpecError → String
  | .notAList shown => "Expected Array exports, encountered " ++ shown ++ "."
  | .emptyList =>
    "Defined exports must contain at least a single export child, but the array was empty."
  | .notAnObject shown => "Expected Object export, encountered " ++ shown ++ "."
  | .badName shown =>
    "An export must define a name prop. Expected non-empty String name, encountered " ++
      shown ++ "."
  | .badAlias shown => "Expected non-empty String alias, encountered " ++ shown ++ "."
  | .tooDeep depth =>
    "It is not possible to define exports at a depth higher than " ++ Text.decimalInt maxDepth ++
      ". Expected depth <= " ++ Text.decimalInt maxDepth ++ ", encountered " ++
      Text.decimalInt depth ++ "."
  | .aliasRequired name =>
    "In order to define nested exports for " ++ Text.jsonQuoted name ++
      ", you must specify an alias for the parent export."
  | .badParent shown =>
    "Expected a parent export with a non-empty String name, encountered " ++ shown ++ "."
  | .unrepresentable shown depth =>
    "Unable to generate a declaration for " ++ shown ++ " at depth " ++ Text.decimalInt depth ++ "."
  | .noMoreNames => "The supply of identifiers ran out."
  | .unshown o => o.message

end ExportBundle.Export
