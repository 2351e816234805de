import ExportBundle.Export.Node
import ExportBundle.OrderedMap

/-! The object that a bundle exports. Each public name is a property; a package with children is an
object of theirs. Where a name comes twice on one level the later node takes the earlier place, and
a warning says so. -/

namespace ExportBundle.Export

inductive Property where
  | binding (id : String)
  | group (members : List (String × Property))
  deriving Inhabited, Repr

/-- Where a name was met: among the top-level exports, or among those of one package. -/
inductive Level where
  | top
  | below (aliasName : String)
  deriving DecidableEq, Repr

def Level.text : Level → String
  | .top => "module exports"
  | .below aliasName => "exports of " ++ Text.literal aliasName

structure DuplicateAlias where
  aliasName : String
  level : Level
  name : String
  deriving DecidableEq, Repr

def DuplicateAlias.message (d : DuplicateAlias) : String :=
  "Duplicate alias " ++ Text.literal d.aliasName ++ " in " ++ d.level.text ++ "; " ++ d.name ++
    " replaces the earlier binding"

mutual

def Node.property (aliasName : String) : Node → Property × List DuplicateAlias
  | ⟨id, _, _, [], _, _⟩ => (.binding id, [])
  | ⟨_, _, _, c :: r, _, _⟩ =>
    let (members, duplicates) := collect (.below aliasName) [] (c :: r)
    (.group members, duplicates)

def collect (level : Level) (before : OrderedMap String Property) :
    List Node → OrderedMap String Property × List DuplicateAlias
  | [] => (before, [])
  | n :: r =>
    match n.publicName? with
    | none => collect level before r
    | some aliasName =>
      let again := if before.contains aliasName then [⟨aliasName, level, n.name⟩] else []
      let (property, below) := n.property aliasName
      let (members, after) := collect level (before.put aliasName property) r
      (members, again ++ below ++ after)

end

def properties (nodes : List Node) : OrderedMap String Property × List DuplicateAlias :=
  collect .top [] nodes

mutual

/-- A property inside a group inside a group. -/
def Property.text : Property → String
  | .binding id => Text.literal id
  | .group members => "\x7b" ++ ", ".intercalate (memberTexts members) ++ "\x7d"

def memberTexts : List (String × Property) → List String
  | [] => []
  | (k, p) :: r => (Text.literal k ++ ": " ++ p.text) :: memberTexts r

end

def Property.value : Property → String
  | .binding id => id
  | .group members => (Property.group members).text

def memberLine (member : String × Property) : String :=
  "    " ++ Text.jsonQuoted member.1 ++ ": " ++ member.2.value ++ ","

def propertyLines (property : String × Property) : List String :=
  match property.2 with
  | .binding id => ["  " ++ Text.jsonQuoted property.1 ++ ": " ++ id ++ ","]
  | .group members =>
    ("  " ++ Text.jsonQuoted property.1 ++ ": \x7b") :: members.map memberLine ++ ["  \x7d,"]

def exportsSource (nodes : List Node) : String :=
  "\n".intercalate
    ("module.exports = \x7b" :: (properties nodes).1.flatMap propertyLines ++ ["\x7d;"])

/-- The duplicates in a tree, in the order in which they are met. -/
def duplicates (nodes : List Node) : List DuplicateAlias := (properties nodes).2

end ExportBundle.Export
