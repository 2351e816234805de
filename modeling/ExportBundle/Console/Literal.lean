import ExportBundle.Console.Literal.Token
import ExportBundle.Text.Units
import ExportBundle.Text.Utf8

/-! Literals: numbers, texts, constants, and rows, maps and sets of literals. A handler in a tag may
be given some. Only whether a text is a literal is told here, not which one. -/

namespace ExportBundle.Console.Literal

inductive Shape where
  | number (kind : Numeral)
  | signed (kind : Numeral)
  | fixed
  | changeable
  | setName
  deriving DecidableEq, Repr

namespace Shape

def isValue (s : Shape) : Bool := s != .setName

def isKey (s : Shape) : Bool := s.isValue && s != .changeable

def sum? : Shape → Shape → Option Shape
  | .number .real, .number .imaginary | .signed .real, .number .imaginary => some .fixed
  | _, _ => none

def row? (shapes : List Shape) (comma : Bool) : Option Shape :=
  match shapes, comma with
  | [s], false => some s
  | shapes, _ =>
    if !shapes.all isValue then none
    else if shapes.all isKey then some .fixed
    else some .changeable

end Shape

/-! How deep a literal goes. Reading takes steps, each within the one before it, and there is a
limit on how many of them are not done with. -/

def plainDepth : Nat := 23

def textDepth : Nat := plainDepth + 2

def callDepth : Nat := 22 + 2 + plainDepth

/-- The steps within which all steps of a value stand, by the number of values before it. -/
structure Frame where
  first : Nat
  second : Nat
  later : Nat

namespace Frame

def outermost : Frame := ⟨2, 4, 4⟩

def ofRow : Frame := ⟨28, 30, 31⟩

def ofSet : Frame := ⟨29, 30, 30⟩

def ofMap : Frame := ⟨29, 30, 30⟩

def above (f : Frame) : Nat → Nat
  | 0 => f.first
  | 1 => f.second
  | _ => f.later

/-- The steps of values and of the search for another one, which only a comma starts. -/
def depth (f : Frame) (values : List Nat) (comma : Bool) : Nat :=
  let inside := values.zipIdx.map fun (value, i) => f.above i + value
  let search := if comma || values.isEmpty then f.above values.length + plainDepth else 0
  inside.foldl max search

end Frame

def stepLimit : Nat := 6000

/-! Reading -/

/-- A literal that tokens begin with. -/
structure Found where
  shape : Shape
  depth : Nat
  rest : List Token

/-- A name with parentheses behind it is a set. -/
def Found.called (f : Found) : Found :=
  match f.shape, f.rest with
  | .setName, .mark '(' :: .mark ')' :: rest => ⟨.changeable, max f.depth callDepth, rest⟩
  | _, _ => f

/-- Values with commas between them. -/
structure Items where
  shapes : List Shape
  depths : List Nat
  comma : Bool
  rest : List Token

def Items.none (rest : List Token) : Items := ⟨[], [], false, rest⟩

def Items.after (first : Found) (more : Items) : Items :=
  ⟨first.shape :: more.shapes, first.depth :: more.depths, more.shapes.isEmpty || more.comma,
    more.rest⟩

mutual

def value : Nat → List Token → Option Found
  | 0, _ => none
  | fuel + 1, ts => do
    let left ← match ts with
      | .sign :: ts => do
        let operand ← primary fuel ts
        match operand.shape with
        | .number kind => some ⟨.signed kind, operand.depth + 1, operand.rest⟩
        | _ => none
      | ts => primary fuel ts
    match left.rest with
    | .sign :: rest => do
      let right ← primary fuel rest
      some ⟨← left.shape.sum? right.shape, max left.depth right.depth, right.rest⟩
    | _ => some left

def primary : Nat → List Token → Option Found
  | 0, _ => none
  | fuel + 1, ts =>
    match ts with
    | .number kind :: rest => some ⟨.number kind, plainDepth, rest⟩
    | .text ofBytes :: rest =>
      match rest.dropWhile (· == .text ofBytes) with
      | .text _ :: _ => none
      | rest => some ⟨.fixed, textDepth, rest⟩
    | .constant :: rest => some ⟨.fixed, plainDepth, rest⟩
    | .setName :: rest => some (Found.called ⟨.setName, plainDepth, rest⟩)
    | .mark '(' :: rest => do
      let row ← items fuel rest
      match row.rest with
      | .mark ')' :: rest =>
        some (Found.called ⟨← Shape.row? row.shapes row.comma,
          Frame.ofRow.depth row.depths row.comma, rest⟩)
      | _ => none
    | .mark '\x7b' :: .mark '\x7d' :: rest =>
      some ⟨.changeable, Frame.ofMap.depth [] false, rest⟩
    | .mark '\x7b' :: rest => do
      let first ← value fuel rest
      if !first.shape.isKey then none
      match first.rest with
      | .mark ':' :: rest => do
        let held ← value fuel rest
        if !held.shape.isValue then none
        let more ← entries fuel held.rest
        some ⟨.changeable,
          Frame.ofMap.depth (max first.depth held.depth :: more.depths) more.comma, more.rest⟩
      | rest => do
        let more ← members fuel rest
        some ⟨.changeable, Frame.ofSet.depth (first.depth :: more.depths) more.comma, more.rest⟩
    | _ => none

def items : Nat → List Token → Option Items
  | 0, _ => none
  | fuel + 1, ts =>
    match ts with
    | [] => some (.none [])
    | .mark ')' :: _ => some (.none ts)
    | ts => do
      let first ← value fuel ts
      match first.rest with
      | .mark ',' :: rest => return .after first (← items fuel rest)
      | rest => some ⟨[first.shape], [first.depth], false, rest⟩

def entries : Nat → List Token → Option Items
  | 0, _ => none
  | fuel + 1, ts =>
    match ts with
    | .mark '\x7d' :: rest => some (.none rest)
    | .mark ',' :: .mark '\x7d' :: rest => some { Items.none rest with comma := true }
    | .mark ',' :: rest => do
      let key ← value fuel rest
      match key.rest with
      | .mark ':' :: rest => do
        let held ← value fuel rest
        if key.shape.isKey && held.shape.isValue then
          let more ← entries fuel held.rest
          some { more with depths := max key.depth held.depth :: more.depths }
        else none
      | _ => none
    | _ => none

def members : Nat → List Token → Option Items
  | 0, _ => none
  | fuel + 1, ts =>
    match ts with
    | .mark '\x7d' :: rest => some (.none rest)
    | .mark ',' :: .mark '\x7d' :: rest => some { Items.none rest with comma := true }
    | .mark ',' :: rest => do
      let item ← value fuel rest
      if item.shape.isKey then
        let more ← members fuel item.rest
        some { more with depths := item.depth :: more.depths }
      else none
    | _ => none

end

def isLiteral (cs : List Char) : Bool :=
  let source := Text.Utf8.unifyLineEnds (cs.dropWhile fun c => c == ' ' || c == '\t')
  source.all (fun c => c != '\x00' && Text.half? c == none) &&
    match tokens source with
    | none => false
    | some ts =>
      match items (4 * ts.length + 8) ts with
      | some ⟨shapes, depths, comma, []⟩ =>
        !shapes.isEmpty && shapes.all Shape.isValue &&
          Frame.outermost.depth depths comma ≤ stepLimit
      | _ => false

end ExportBundle.Console.Literal
