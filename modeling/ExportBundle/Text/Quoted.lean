import ExportBundle.Text.Numeral
import ExportBundle.Text.Printable
import ExportBundle.Text.Units

/-! Two ways of writing a string between quotes. The JSON way uses double quotes and keeps only the
printable ASCII characters; others become escapes of their UTF-16 units. The literal way uses single
quotes, or double ones when that saves escapes, and keeps every printable character. -/

namespace ExportBundle.Text

def unitEscape (n : Nat) : String := "\\u" ++ hex 4 n

def jsonEscape (n : Nat) : String :=
  match Char.ofNat n with
  | '"' => "\\\""
  | '\\' => "\\\\"
  | '\n' => "\\n"
  | '\r' => "\\r"
  | '\t' => "\\t"
  | '\x08' => "\\b"
  | '\x0c' => "\\f"
  | c => if 32 ≤ n ∧ n < 127 then String.singleton c else unitEscape n

def jsonQuoted (s : String) : String :=
  "\"" ++ String.join ((units s.toList).map jsonEscape) ++ "\""

def literalEscape (quote c : Char) : String :=
  if c = quote ∨ c = '\\' then String.ofList ['\\', c]
  else match c with
  | '\n' => "\\n"
  | '\r' => "\\r"
  | '\t' => "\\t"
  | c =>
    let n := c.toNat
    if isPrintable c then String.singleton c
    else if n < 0x100 then "\\x" ++ hex 2 n
    else if n < 0x10000 then unitEscape n
    else match half? c with
      | some unit => unitEscape unit
      | none => "\\U" ++ hex 8 n

/-- Double quotes are used when the string has single quotes and no double ones. -/
def literalQuote (s : String) : Char :=
  if s.toList.contains '\'' && !s.toList.contains '"' then '"' else '\''

def literal (s : String) : String :=
  let quote := literalQuote s
  String.singleton quote ++ String.join (s.toList.map (literalEscape quote)) ++
    String.singleton quote

/-- The literal of a row of bytes: printable ASCII characters as they are, all else as escapes. -/
def byteLiteral (bytes : List UInt8) : String :=
  let cs := bytes.map fun b => Char.ofNat b.toNat
  let quote := literalQuote (String.ofList cs)
  let escape (c : Char) :=
    if c.toNat < 127 then literalEscape quote c else "\\x" ++ hex 2 c.toNat
  "b" ++ String.singleton quote ++ String.join (cs.map escape) ++ String.singleton quote

end ExportBundle.Text
