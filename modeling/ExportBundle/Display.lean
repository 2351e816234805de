/-! What shows messages. Tags in brackets give parts of a message a look and leave no trace in its
text. How tags are read and how a text is drawn is up to the display. -/

namespace ExportBundle

/-- Why a message cannot be shown. -/
inductive Display.Refusal where
  | badTag (message : String)
  | badValue (message : String)
  | numberTooLong (message : String)
  deriving DecidableEq, Repr

def Display.Refusal.message : Display.Refusal → String
  | .badTag message | .badValue message | .numberTooLong message => message

class Display where
  Styled : Type
  read : String → Except Display.Refusal Styled
  lines : Styled → Except Display.Refusal (List String)

namespace Display

def draw [Display] (message : String) : Except Refusal (List String) := read message >>= lines

/-- No bracket in the message begins a tag, a word in small letters or one with a sign of its own. -/
def Untagged (message : String) : Prop :=
  ∀ c r, '[' :: c :: r <:+ message.toList →
    ¬(c.isLower ∨ c = '#' ∨ c = '/' ∨ c = '@')

/-- Only tags can go wrong: an error is shown if its message has none. -/
class Lenient [Display] : Prop where
  shows : ∀ message, Untagged message → ∃ lines, draw ("[red]Error:[/red] " ++ message) = .ok lines

end Display

end ExportBundle
