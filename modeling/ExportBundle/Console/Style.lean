import ExportBundle.Console.Color
import ExportBundle.OrderedMap

/-! Styles as tags name them: looks that are switched on or off, a color, a background and a link,
in any order. Two spellings of one style have the same normal form. -/

namespace ExportBundle.Console

inductive Look where
  | bold
  | dim
  | italic
  | underline
  | blink
  | fastBlink
  | reverse
  | conceal
  | strike
  | doubleUnderline
  | frame
  | encircle
  | overline
  deriving DecidableEq, Repr

namespace Look

def all : List Look :=
  [bold, dim, italic, underline, blink, fastBlink, reverse, conceal, strike, doubleUnderline, frame,
   encircle, overline]

def name : Look → String
  | bold => "bold"
  | dim => "dim"
  | italic => "italic"
  | underline => "underline"
  | blink => "blink"
  | fastBlink => "blink2"
  | reverse => "reverse"
  | conceal => "conceal"
  | strike => "strike"
  | doubleUnderline => "underline2"
  | frame => "frame"
  | encircle => "encircle"
  | overline => "overline"

def short? : Look → Option String
  | bold => some "b"
  | dim => some "d"
  | italic => some "i"
  | underline => some "u"
  | reverse => some "r"
  | conceal => some "c"
  | strike => some "s"
  | doubleUnderline => some "uu"
  | overline => some "o"
  | _ => none

def ofName? (word : String) : Option Look :=
  all.find? fun look => look.name == word || look.short? == some word

end Look

structure Style where
  looks : OrderedMap Look Bool
  color : Option String
  background : Option String
  link : Option String
  deriving DecidableEq, Repr

namespace Style

def plain : Style := ⟨[], none, none, none⟩

/-- The style with further words laid over it; what comes later wins. -/
def withWords (s : Style) : List (List Char) → Except StyleError Style
  | [] => .ok s
  | word :: r =>
    let lower := Text.lowercase word
    if lower == "on".toList then
      match r with
      | [] => .error .unknown
      | color :: r => do withWords { s with background := some (← Color.normal color) } r
    else if lower == "not".toList then
      match r with
      | [] => .error .unknown
      | name :: r =>
        match Look.ofName? (String.ofList name) with
        | some look => withWords { s with looks := s.looks.put look false } r
        | none => .error .unknown
    else if lower == "link".toList then
      match r with
      | [] => .error .unknown
      | target :: r => withWords { s with link := some (String.ofList target) } r
    else
      match Look.ofName? (String.ofList lower) with
      | some look => withWords { s with looks := s.looks.put look true } r
      | none => do withWords { s with color := some (← Color.normal lower) } r

def parse (definition : List Char) : Except StyleError Style :=
  if Text.trim definition == "none".toList then .ok plain
  else withWords plain (Text.words definition)

def lookText (s : Style) (look : Look) : Option String :=
  (s.looks.get? look).map fun on => if on then look.name else "not " ++ look.name

def text (s : Style) : String :=
  let parts := Look.all.filterMap s.lookText ++ s.color.toList ++
    (s.background.map ("on " ++ ·)).toList ++ (s.link.map ("link " ++ ·)).toList
  if parts.isEmpty then "none" else " ".intercalate parts

def normal (definition : List Char) : Except StyleError String :=
  match parse definition with
  | .ok s => .ok s.text
  | .error .unknown => .ok (String.ofList (Text.lowercase (Text.trim definition)))
  | .error e => .error e

end Style

end ExportBundle.Console
