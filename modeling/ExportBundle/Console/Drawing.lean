import ExportBundle.Console.Markup
import ExportBundle.Text.Wrap

/-! Drawing a text with looks. The looks are read only now: one that names no style has no effect,
and a color with shares that are no numbers is an error. The lines are cut to the page. -/

namespace ExportBundle.Console

def pageWidth : Nat := 100000

namespace StyledText

def lines (t : StyledText) : List (List Char) :=
  (Text.split '\n' t.chars).flatMap fun line => Text.wrap pageWidth (Text.expandTabs line)

def isWhole (t : StyledText) : Bool :=
  !t.chars.contains '\n' && !t.chars.contains '\t' && t.lines.length == 1

def isVisible (t : StyledText) (s : Span) : Bool :=
  ((t.chars.take s.stop).drop s.start).any (· != '\n')

/-- The looks that are read: where the text is cut, those without characters get lost. -/
def looks (t : StyledText) : List Span :=
  if t.isWhole then t.spans else t.spans.filter t.isVisible

def checkLook (s : Span) : Except MarkupError Unit :=
  match Style.parse s.style with
  | .error .unknown => .ok ()
  | .error e => .error (.badStyle e)
  | .ok _ => .ok ()

def checkLooks (t : StyledText) : Except MarkupError Unit :=
  t.looks.forM checkLook

def draw (t : StyledText) : Except MarkupError (List String) := do
  t.checkLooks
  return t.lines.map String.ofList

end StyledText

end ExportBundle.Console
