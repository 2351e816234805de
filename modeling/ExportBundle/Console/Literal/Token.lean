import ExportBundle.Text.CharacterName
import ExportBundle.Text.Numeral
import ExportBundle.Text.Width

/-! The tokens of literals: numbers, texts, names and marks. What a token stands for is told only as
far as it decides whether the whole is a literal. -/

namespace ExportBundle.Console.Literal

/-- The kinds of numbers, as far as they may be added to each other. -/
inductive Numeral where
  | real
  | imaginary
  /-- A whole number that no double is near to. -/
  | huge
  deriving DecidableEq, Repr

inductive Token where
  | number (kind : Numeral)
  | text (ofBytes : Bool)
  | constant
  | setName
  | sign
  | mark (c : Char)
  deriving DecidableEq, Repr

def isNameChar (c : Char) : Bool := c.isAlphanum || c == '_' || c.toNat ≥ 128

def isHex (c : Char) : Bool := c.isDigit || 'a' ≤ c && c ≤ 'f' || 'A' ≤ c && c ≤ 'F'

/-! Numbers -/

def moreDigits (isDigit : Char → Bool) : List Char → Option (List Char × List Char)
  | [] => some ([], [])
  | '_' :: c :: r =>
    if isDigit c then (moreDigits isDigit r).map fun (digits, rest) => (c :: digits, rest) else none
  | c :: r =>
    if c == '_' then none
    else if isDigit c then
      (moreDigits isDigit r).map fun (digits, rest) => (c :: digits, rest)
    else some ([], c :: r)

def digits (isDigit : Char → Bool) : List Char → Option (List Char × List Char)
  | [] => none
  | c :: r =>
    if isDigit c then (moreDigits isDigit r).map fun (digits, rest) => (c :: digits, rest) else none

def digitValue (c : Char) : Nat := if c.isDigit then c.toNat - 48 else c.toLower.toNat - 87

def doubleBound : Nat := (1 <<< 1024) - (1 <<< 970)

/-- More digits than this, the first of which is not zero, are beyond the bound in any base. -/
def boundDigits : Nat := 1024

def Numeral.ofDigits (base : Nat) (digits : List Char) : Numeral :=
  let digits := digits.dropWhile (· == '0')
  if digits.length > boundDigits ||
      digits.foldl (fun n c => base * n + digitValue c) 0 ≥ doubleBound then .huge
  else .real

def radix? : List Char → Option (Nat × (Char → Bool))
  | '0' :: c :: _ =>
    if c == 'x' || c == 'X' then some (16, isHex)
    else if c == 'o' || c == 'O' then some (8, fun d => '0' ≤ d && d ≤ '7')
    else if c == 'b' || c == 'B' then some (2, fun d => d == '0' || d == '1')
    else none
  | _ => none

/-- A whole number in base ten has no zeros in front, unless it is zero, and not too many digits. -/
def isWhole (digits : List Char) : Bool :=
  digits.all (· == '0') || digits.head? != some '0' && digits.length ≤ Text.digitLimit

def optionalDigits (cs : List Char) : Option (List Char × List Char) :=
  if cs.head?.any Char.isDigit then digits Char.isDigit cs else some ([], cs)

def dropFraction (cs : List Char) : Option (List Char) :=
  match cs with
  | '.' :: r => (optionalDigits r).map (·.2)
  | _ => some cs

def dropExponent (cs : List Char) : Option (List Char) :=
  match cs with
  | c :: r =>
    if c == 'e' || c == 'E' then
      let r := if r.head? == some '+' || r.head? == some '-' then r.drop 1 else r
      (digits Char.isDigit r).map (·.2)
    else some cs
  | [] => some []

def decimalNumber (cs : List Char) : Option (Numeral × List Char) := do
  let (whole, r) ← optionalDigits cs
  let rest ← dropExponent (← dropFraction r)
  if rest.head?.any fun c => c == 'j' || c == 'J' then return (.imaginary, rest.drop 1)
  else if rest.length < r.length then return (.real, rest)
  else if isWhole whole then return (.ofDigits 10 whole, rest)
  else none

def number (cs : List Char) : Option (Token × List Char) := do
  let (kind, rest) ← match radix? cs with
    | some (base, isDigit) => do
      let r := cs.drop 2
      let (written, rest) ← digits isDigit (if r.head? == some '_' then r.drop 1 else r)
      pure (Numeral.ofDigits base written, rest)
    | none => decimalNumber cs
  if rest.head?.any isNameChar then none else return (.number kind, rest)

/-! Texts -/

def inside (quote : Char) : List Char → Option (List Char × List Char)
  | [] => none
  | '\\' :: c :: r => (inside quote r).map fun (body, rest) => ('\\' :: c :: body, rest)
  | c :: r =>
    if c == quote then some ([], r)
    else if c == '\n' || c == '\\' then none
    else (inside quote r).map fun (body, rest) => (c :: body, rest)

def longInside (quote : Char) : List Char → Option (List Char × List Char)
  | [] => none
  | '\\' :: c :: r => (longInside quote r).map fun (body, rest) => ('\\' :: c :: body, rest)
  | c :: r =>
    if c == quote && [quote, quote].isPrefixOf r then some ([], r.drop 2)
    else (longInside quote r).map fun (body, rest) => (c :: body, rest)

def startsWithHex (count : Nat) (cs : List Char) : Bool :=
  (cs.take count).length == count && (cs.take count).all isHex

def startsWithCode (cs : List Char) : Bool :=
  startsWithHex 8 cs && ["000", "0010"].any fun lead => lead.toList.isPrefixOf cs

def startsWithName : List Char → Bool
  | '\x7b' :: r =>
    let name := r.takeWhile (· != '\x7d')
    name.length < r.length && Text.CharacterName.isName name
  | _ => false

def escapesFit (ofBytes : Bool) : List Char → Bool
  | [] => true
  | '\\' :: c :: r =>
    (if c == 'x' then startsWithHex 2 r
      else if ofBytes then true
      else if c == 'u' then startsWithHex 4 r
      else if c == 'U' then startsWithCode r
      else if c == 'N' then startsWithName r
      else true) && escapesFit ofBytes r
  | _ :: r => escapesFit ofBytes r

def text (letters : List Char) (cs : List Char) : Option (Token × List Char) := do
  let letters := letters.map Char.toLower
  if !(["", "r", "u", "b", "br", "rb"].contains (String.ofList letters)) then none
  let quote ← cs.head?
  let (body, rest) ← if [quote, quote, quote].isPrefixOf cs then longInside quote (cs.drop 3)
    else inside quote (cs.drop 1)
  let ofBytes := letters.contains 'b'
  if ofBytes && body.any (fun c => c.toNat ≥ 128) then none
  if letters.contains 'r' || escapesFit ofBytes body then return (.text ofBytes, rest) else none

/-! Tokens -/

def isQuote (c : Char) : Bool := c == '\'' || c == '"'

/-- The letters of the name `set`, each with its long, raised, lowered, slanted and wide forms. -/
def setLetters : List (Char × List Nat) :=
  [('s', [0x17f, 0x2e2, 0x209b, 0xff53]), ('e', [0x1d49, 0x2091, 0x212f, 0x2147, 0xff45]),
   ('t', [0x1d57, 0x209c, 0xff54])]

def isMathematical (letter c : Char) : Bool :=
  0x1d400 ≤ c.toNat && c.toNat ≤ 0x1d6a3 && c.toNat != 0x1d4ba &&
    (c.toNat - 0x1d400) % 52 == 26 + (letter.toNat - 'a'.toNat)

def isFormOf (c : Char) (letter : Char × List Nat) : Bool :=
  c == letter.1 || letter.2.contains c.toNat || isMathematical letter.1 c

def isSetName (name : List Char) : Bool :=
  name.length == setLetters.length && (List.zipWith isFormOf name setLetters).all id

def word (cs : List Char) : Option (Token × List Char) :=
  let name := cs.takeWhile isNameChar
  let rest := cs.drop name.length
  if rest.head?.any isQuote then text name rest
  else if ["None", "True", "False"].contains (String.ofList name) then some (.constant, rest)
  else if isSetName name then some (.setName, rest)
  else none

def depthLimit : Nat := 200

def token (c : Char) (r : List Char) : Option (Token × List Char) :=
  if c.isDigit || c == '.' && r.head?.any Char.isDigit then number (c :: r)
  else if c == '.' then if ['.', '.'].isPrefixOf r then some (.constant, r.drop 2) else none
  else if isQuote c then text [] (c :: r)
  else if isNameChar c then word (c :: r)
  else if c == '+' || c == '-' then some (.sign, r)
  else if ['(', ')', '\x7b', '\x7d', ',', ':'].contains c then some (.mark c, r)
  else none

def depthAfter (depth : Nat) : Token → Option Nat
  | .mark c =>
    if c == '(' || c == '\x7b' then if depth < depthLimit then some (depth + 1) else none
    else if c == ')' || c == '\x7d' then if depth = 0 then none else some (depth - 1)
    else some depth
  | _ => some depth

/-- Tokens of a text, in which a line may end only inside brackets or after a backslash. Comments
reach to the end of their line, and nothing else may follow the last line. -/
def tokensFrom : Nat → Nat → List Char → Option (List Token)
  | 0, _, _ => none
  | _ + 1, _, [] => some []
  | fuel + 1, depth, c :: r =>
    if c == ' ' || c == '\t' || c == '\x0c' then tokensFrom fuel depth r
    else if c == '#' then tokensFrom fuel depth (r.dropWhile (· != '\n'))
    else if c == '\n' then
      if depth > 0 then tokensFrom fuel depth r
      else match tokensFrom fuel depth r with
        | some [] => some []
        | _ => none
    else if c == '\\' then
      match r with
      | '\n' :: next :: r => tokensFrom fuel depth (next :: r)
      | _ => none
    else do
      let (t, rest) ← token c r
      return t :: (← tokensFrom fuel (← depthAfter depth t) rest)

/-- The text from its first token on, in front of which there may be empty lines and comments. Its
line must not be indented by `column`, or by `first` in front of the first of its backslashes. -/
def firstLine (inComment : Bool) (column first : Nat) : List Char → Option (List Char)
  | [] => some []
  | c :: r =>
    if c == '\n' then firstLine false 0 0 r
    else if inComment then firstLine true 0 0 r
    else if c == '#' then firstLine true 0 0 r
    else if c == ' ' then firstLine false (column + 1) first r
    else if c == '\t' then firstLine false ((column / Text.tabStop + 1) * Text.tabStop) first r
    else if c == '\x0c' then firstLine false 0 first r
    else
      let indent := if first = 0 then column else first
      if c == '\\' then
        match r with
        | '\n' :: r => if r.isEmpty then none else firstLine false column indent r
        | _ => none
      else if indent = 0 then some (c :: r)
      else none

def tokens (source : List Char) : Option (List Token) := do
  let source ← firstLine false 0 0 source
  tokensFrom (source.length + 1) 0 source

end ExportBundle.Console.Literal
