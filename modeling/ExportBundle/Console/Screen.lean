import ExportBundle.Console.Drawing
import ExportBundle.Display

/-! The console as a display. -/

namespace ExportBundle.Console

def MarkupError.refusal : MarkupError → Display.Refusal
  | .badStyle (.shareTooLong digits) => .numberTooLong (StyleError.shareTooLong digits).message
  | .badStyle e => .badValue e.message
  | e => .badTag e.message

instance screen : Display where
  Styled := StyledText
  read message := (StyledText.ofMessage message).mapError MarkupError.refusal
  lines t := t.draw.mapError MarkupError.refusal

end ExportBundle.Console
