import ExportBundle.Console.Emoji
import ExportBundle.Console.Literal
import ExportBundle.Console.Style
import ExportBundle.Sorting
import ExportBundle.Text.Quoted
import ExportBundle.Text.Word

/-! Messages with markup. A tag in brackets changes the look of what follows and leaves no trace in
the text; a backslash in front of it keeps it as text. A closing tag needs an open one of the same
style, and closing a handler needs parameters that can be read. Between the tags, names of emoji
stand for their characters. -/

namespace ExportBundle.Console

/-- What is wrong with the markup of a message. -/
inductive MarkupError where
  | unmatched (name : String)
  | nothingToClose
  | badParameters (parameters : String)
  | badStyle (e : StyleError)
  deriving DecidableEq, Repr

def MarkupError.message : MarkupError → String
  | .unmatched name => "closing tag '[/" ++ name ++ "]' doesn't match any open tag"
  | .nothingToClose => "closing tag '[/]' has nothing to close"
  | .badParameters parameters => "error parsing " ++ Text.literal parameters
  | .badStyle e => e.message

/-- A stretch of a message. -/
inductive Piece where
  | text (cs : List Char)
  | opening (name : List Char) (parameters : List Char)
  | closing (name : List Char)
  deriving DecidableEq, Repr

/-- A tag with the backslashes in front of it, and how many characters both take. -/
structure Tag where
  backslashes : Nat
  inside : List Char
  deriving DecidableEq, Repr

def Tag.length (t : Tag) : Nat := t.backslashes + t.inside.length + 2

def startsTag (c : Char) : Bool := c.isLower || c == '#' || c == '/' || c == '@'

/-- The tag that the text begins with: brackets around at least one character, without another
opening bracket inside. -/
def tagAt? (text : List Char) : Option Tag :=
  let backslashes := text.takeWhile (· == '\\')
  match text.drop backslashes.length with
  | '[' :: c :: r =>
    let inside := r.takeWhile fun c => c != ']' && c != '['
    if startsTag c && (r.drop inside.length).head? == some ']' then
      some ⟨backslashes.length, c :: inside⟩
    else none
  | _ => none

def Piece.ofTag (inside : List Char) : Piece :=
  let name := inside.takeWhile (· != '=')
  match name with
  | '/' :: name => .closing name
  | name => .opening name (inside.drop (name.length + 1))

/-- What a tag stands for. Two backslashes are one, and a single one keeps the tag as text. -/
def Tag.pieces (t : Tag) : List Piece :=
  let kept := t.backslashes / 2
  (if kept = 0 then [] else [.text (List.replicate kept '\\')]) ++
    [if t.backslashes % 2 = 1 then .text ('[' :: t.inside ++ [']']) else .ofTag t.inside]

def unescape : List Char → List Char
  | [] => []
  | '\\' :: '[' :: r => '[' :: unescape r
  | c :: r => c :: unescape r

def Piece.between (pending : List Char) : List Piece :=
  if pending.isEmpty then [] else [.text (unescape pending.reverse)]

def piecesFrom : Nat → List Char → List Char → List Piece
  | _, pending, [] => Piece.between pending
  | skip + 1, pending, _ :: r => piecesFrom skip pending r
  | 0, pending, c :: r =>
    match tagAt? (c :: r) with
    | some t => Piece.between pending ++ t.pieces ++ piecesFrom (t.length - 1) [] r
    | none => piecesFrom 0 (c :: pending) r

def pieces (message : List Char) : List Piece := piecesFrom 0 [] message

structure OpenTag where
  name : String
  parameters : List Char
  start : Nat
  deriving DecidableEq, Repr

def OpenTag.isHandler (t : OpenTag) : Bool := t.name.toList.head? == some '@'

/-- Parameters are a name, literals in parentheses, both of them, or a literal of another kind. -/
def areParameters (cs : List Char) : Bool :=
  let cs := Text.trim cs
  let rest := cs.dropWhile fun c => Text.isWord c || c == '.'
  if rest.isEmpty then true
  else if rest.head? == some '(' && rest.getLast? == some ')' && !rest.contains '\n' then
    Literal.isLiteral rest
  else Literal.isLiteral cs

/-- The parameters of a handler count when it is closed. -/
def OpenTag.close (t : OpenTag) : Except MarkupError Unit :=
  if t.isHandler && !t.parameters.isEmpty && !areParameters t.parameters then
    .error (.badParameters (String.ofList t.parameters))
  else .ok ()

/-- The open tag that a closing one is for, the latest of its style, and those that stay open. -/
def closeTag (stack : List OpenTag) (name : List Char) :
    Except MarkupError (OpenTag × List OpenTag) := do
  let name := Text.trim name
  if name.isEmpty then
    match stack with
    | [] => throw .nothingToClose
    | t :: stack => return (t, stack)
  else
    let style ← (Style.normal name).mapError .badStyle
    match stack.find? (·.name == style) with
    | some t => return (t, stack.eraseP (·.name == style))
    | none => throw (.unmatched (String.ofList name))

def isShown (c : Char) : Bool := !([7, 8, 11, 12, 13].contains c.toNat)

/-- A stretch of a text with a look of its own. -/
structure Span where
  start : Nat
  stop : Nat
  style : List Char
  deriving DecidableEq, Repr

/-- Parameters count as further words of the style. -/
def OpenTag.span (t : OpenTag) (stop : Nat) : Span :=
  ⟨t.start, stop, t.name.toList ++ ' ' :: t.parameters⟩

/-- A text with its looks in the order in which they begin. -/
structure StyledText where
  chars : List Char
  spans : List Span
  deriving DecidableEq, Repr

/-- What has been read of a message; of texts, tags and spans, the latest comes first. -/
structure Reading where
  texts : List (List Char)
  length : Nat
  stack : List OpenTag
  spans : List Span

namespace Reading

def start : Reading := ⟨[], 0, [], []⟩

def read (m : Reading) : Piece → Except MarkupError Reading
  | .text cs =>
    let cs := (Emoji.replace cs).filter isShown
    .ok { m with texts := cs :: m.texts, length := m.length + cs.length }
  | .opening name parameters => do
    let style ← (Style.normal name).mapError .badStyle
    return { m with stack := ⟨style, parameters, m.length⟩ :: m.stack }
  | .closing name => do
    let (t, stack) ← closeTag m.stack name
    t.close
    return { m with stack, spans := if t.isHandler then m.spans else t.span m.length :: m.spans }

/-- The whole text; tags that are still open last to its end. -/
def finish (m : Reading) : StyledText :=
  let spans := m.stack.foldl (fun spans t => t.span m.length :: spans) m.spans
  ⟨m.texts.reverse.flatten, Sorting.sort (fun a b => a.start ≤ b.start) spans⟩

end Reading

def StyledText.ofMessage (message : String) : Except MarkupError StyledText := do
  return ((← (pieces message.toList).foldlM Reading.read .start)).finish

end ExportBundle.Console
