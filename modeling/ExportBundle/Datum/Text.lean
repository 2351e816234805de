import ExportBundle.Datum.Basic
import ExportBundle.Export.Spec

/-! The text of a value in messages. A value that JSON can express is shown as JSON, and any other
in the literal style. -/

namespace ExportBundle.Datum

def floatText (x : Binary64) : String := x.text "inf" "nan"

def boolText (b : Bool) : String := if b then "True" else "False"

def setText (frozen : Bool) (items : List String) : String :=
  let inside := if items.isEmpty then "" else "\x7b" ++ ", ".intercalate items ++ "\x7d"
  if frozen then "frozenset(" ++ inside ++ ")"
  else if items.isEmpty then "set()"
  else inside

def recordText (name : String) (fields : List String) : String :=
  name ++ "(" ++ ", ".intercalate fields ++ ")"

def versionText (v : Version) : String :=
  recordText "SemVer"
    ["major=" ++ Text.decimal v.major, "minor=" ++ Text.decimal v.minor,
     "patch=" ++ Text.decimal v.patch,
     "prerelease=" ++ Export.Node.rowText (v.prerelease.map Text.literal),
     "build=" ++ Export.Node.rowText (v.build.map Text.literal)]

mutual

def text : Datum → String
  | .null => "None"
  | .bool b => boolText b
  | .int n => Text.decimalInt n
  | .float x => floatText x
  | .str s => Text.literal s
  | .path p => "PurePosixPath(" ++ Text.literal p ++ ")"
  | .list items => "[" ++ ", ".intercalate (texts items) ++ "]"
  | .tuple items => Export.Node.rowText (texts items)
  | .set frozen items => setText frozen (texts items)
  | .dict entries => "\x7b" ++ ", ".intercalate (entryTexts entries) ++ "\x7d"
  | .version v => versionText v
  | .record name fields => recordText name (fieldTexts fields)
  | .snapshot s => s.text
  | .other _ shown => shown

def texts : List Datum → List String
  | [] => []
  | d :: r => d.text :: texts r

def entryTexts : List (Datum × Datum) → List String
  | [] => []
  | (k, v) :: r => (k.text ++ ": " ++ v.text) :: entryTexts r

def fieldTexts : List (String × Datum) → List String
  | [] => []
  | (k, v) :: r => (k ++ "=" ++ v.text) :: fieldTexts r

end

/-- The text of a value that stands for itself: that of a string, a path or a version is bare. -/
def plainText : Datum → String
  | .str s => s
  | .path p => p
  | .version v => v.text
  | d => d.text

def jsonKey? : Datum → Option String
  | .null => some "null"
  | .bool b => some (if b then "true" else "false")
  | .int n => some (Text.decimalInt n)
  | .float x => some (x.text "Infinity" "NaN")
  | .str s => some s
  | _ => none

mutual

def toJson? : Datum → Option Json.Value
  | .null => some .null
  | .bool b => some (.bool b)
  | .int n => some (.int n)
  | .float x => some (.float x)
  | .str s => some (.str s)
  | .list items => .arr <$> toItems? items
  | .tuple items => .arr <$> toItems? items
  | .dict entries => .obj <$> toMembers? entries
  | _ => none

def toItems? : List Datum → Option (List Json.Value)
  | [] => some []
  | d :: r => do return (← d.toJson?) :: (← toItems? r)

def toMembers? : List (Datum × Datum) → Option (List (String × Json.Value))
  | [] => some []
  | (k, d) :: r => do return (← k.jsonKey?, ← d.toJson?) :: (← toMembers? r)

end

mutual

def fitsDigitLimit : Datum → Bool
  | .int n => Text.fitsDigitLimit n
  | .list items => allFit items
  | .tuple items => allFit items
  | .set _ items => allFit items
  | .dict entries => allEntriesFit entries
  | .record _ fields => allFieldsFit fields
  | _ => true

def allFit : List Datum → Bool
  | [] => true
  | d :: r => d.fitsDigitLimit && allFit r

def allEntriesFit : List (Datum × Datum) → Bool
  | [] => true
  | (k, d) :: r => k.fitsDigitLimit && d.fitsDigitLimit && allEntriesFit r

def allFieldsFit : List (String × Datum) → Bool
  | [] => true
  | (_, d) :: r => d.fitsDigitLimit && allFieldsFit r

end

mutual

def obstacle? : Datum → Nat → Option Json.Obstacle
  | .int n, _ => if Text.fitsDigitLimit n then none else some .numberTooLong
  | .list _, 0 | .tuple _, 0 | .set _ _, 0 | .dict _, 0 | .record _ _, 0 => some .tooDeep
  | .list items, room + 1 => obstacleOfItems? items room
  | .tuple items, room + 1 => obstacleOfItems? items room
  | .set _ items, room + 1 => obstacleOfItems? items room
  | .dict entries, room + 1 => obstacleOfEntries? entries room
  | .record _ fields, room + 1 => obstacleOfFields? fields room
  | _, _ => none

def obstacleOfItems? : List Datum → Nat → Option Json.Obstacle
  | [], _ => none
  | d :: r, room => (d.obstacle? room).or (obstacleOfItems? r room)

def obstacleOfEntries? : List (Datum × Datum) → Nat → Option Json.Obstacle
  | [], _ => none
  | (k, d) :: r, room =>
    ((k.obstacle? room).or (d.obstacle? room)).or (obstacleOfEntries? r room)

def obstacleOfFields? : List (String × Datum) → Nat → Option Json.Obstacle
  | [], _ => none
  | (_, d) :: r, room => (d.obstacle? room).or (obstacleOfFields? r room)

end

def shown [Depths] (d : Datum) : Except Json.Obstacle String :=
  match d.obstacle? Depths.showing with
  | none => .ok (match d.toJson? with
      | some v => v.print .spaced
      | none => d.text)
  | some o => .error o

def textMembers (entries : List (Datum × Datum)) : OrderedMap String Datum :=
  entries.filterMap fun
    | (.str k, v) => some (k, v)
    | _ => none

instance [Depths] : Export.Document Datum where
  items?
    | .list items => some items
    | _ => none
  members?
    | .dict entries => some (textMembers entries)
    | .snapshot s => some (s.versions.map fun e => (e.1, .str e.2))
    | _ => none
  text?
    | .str s => some s
    | _ => none
  shown := shown

end ExportBundle.Datum
