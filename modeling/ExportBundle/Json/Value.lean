import ExportBundle.Binary64
import ExportBundle.OrderedMap

/-! Documents: the values a JSON text can hold. Whole numbers and numbers with a fraction or an
exponent are different values, and the members of an object keep their order. -/

namespace ExportBundle.Json

inductive Value where
  | null
  | bool (b : Bool)
  | int (n : Int)
  | float (x : Binary64)
  | str (s : String)
  | arr (items : List Value)
  | obj (members : List (String × Value))
  deriving Inhabited

/-- A value was used as something it is not: asked for members without being an object, or gone
through item by item without being a row. -/
inductive Misuse where
  | noMembers
  | noItems
  deriving DecidableEq, Repr

def Misuse.message : Misuse → String
  | .noMembers => "A value without members was used as an object."
  | .noItems => "A value without items was used as a row."

/-- What keeps a value from being written as text. -/
inductive Obstacle where
  | tooDeep
  | numberTooLong
  deriving DecidableEq, Repr

def Obstacle.message : Obstacle → String
  | .tooDeep => "The values stand too deep in each other."
  | .numberTooLong => "A number has too many digits to be shown."

namespace Value

/-- The values that count as absent in a condition: nothing, false, zero and whatever is empty. -/
def isVoid : Value → Bool
  | .null => true
  | .bool b => !b
  | .int n => n == 0
  | .float x => x.equalsInt 0
  | .str s => s.isEmpty
  | .arr items => items.isEmpty
  | .obj members => members.isEmpty

def members? : Value → Option (OrderedMap String Value)
  | .obj members => some members
  | _ => none

def requireMembers : Value → Except Misuse (OrderedMap String Value)
  | .obj members => .ok members
  | _ => .error .noMembers

def items? : Value → Option (List Value)
  | .arr items => some items
  | _ => none

def text? : Value → Option String
  | .str s => some s
  | _ => none

def nonEmptyText? : Value → Option String
  | .str s => if s.isEmpty then none else some s
  | _ => none

def bool? : Value → Option Bool
  | .bool b => some b
  | _ => none

def ofStrings (l : List String) : Value := .arr (l.map .str)

mutual

def fitsDigitLimit : Value → Bool
  | .int n => Text.fitsDigitLimit n
  | .arr items => allFit items
  | .obj members => allMembersFit members
  | _ => true

def allFit : List Value → Bool
  | [] => true
  | v :: r => v.fitsDigitLimit && allFit r

def allMembersFit : List (String × Value) → Bool
  | [] => true
  | (_, v) :: r => v.fitsDigitLimit && allMembersFit r

end

mutual

/-- What is met first when the value is written with room for `room` arrays and objects in each
other. -/
def obstacle? : Value → Nat → Option Obstacle
  | .int n, _ => if Text.fitsDigitLimit n then none else some .numberTooLong
  | .arr _, 0 | .obj _, 0 => some .tooDeep
  | .arr items, room + 1 => obstacleOfItems? items room
  | .obj members, room + 1 => obstacleOfMembers? members room
  | _, _ => none

def obstacleOfItems? : List Value → Nat → Option Obstacle
  | [], _ => none
  | v :: r, room => (v.obstacle? room).or (obstacleOfItems? r room)

def obstacleOfMembers? : List (String × Value) → Nat → Option Obstacle
  | [], _ => none
  | (_, v) :: r, room => (v.obstacle? room).or (obstacleOfMembers? r room)

end

mutual

def depth : Value → Nat
  | .arr items => depthOfItems items + 1
  | .obj members => depthOfMembers members + 1
  | _ => 0

def depthOfItems : List Value → Nat
  | [] => 0
  | v :: r => max v.depth (depthOfItems r)

def depthOfMembers : List (String × Value) → Nat
  | [] => 0
  | (_, v) :: r => max v.depth (depthOfMembers r)

end

end Value

end ExportBundle.Json
