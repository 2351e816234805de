import ExportBundle.Depths
import ExportBundle.Json.Value
import ExportBundle.Text.Digit
import ExportBundle.Text.Units

/-! Reading a document. The reader takes the text from the left and stops at the first place where
no document can go on; a fault names what was missing and where. Besides standard JSON it takes the
words `NaN`, `Infinity` and `-Infinity`. A member name that comes again replaces the earlier value
in the earlier place. -/

namespace ExportBundle.Json

inductive Fault where
  | value
  | name
  | colon
  | comma
  | unterminated
  | controlCharacter
  | escape
  | unitEscape
  | extraData
  | byteOrderMark
  deriving DecidableEq, Repr

/-- Why a text is no document: a fault at an offset, a whole number with too many digits, or values
that stand too deep in each other. -/
inductive ReadError where
  | malformed (fault : Fault) (line column offset : Nat)
  | numberTooLong (digits : Nat)
  | tooDeep
  deriving DecidableEq, Repr

def Fault.message : Fault → String
  | .value => "Expecting value"
  | .name => "Expecting property name enclosed in double quotes"
  | .colon => "Expecting ':' delimiter"
  | .comma => "Expecting ',' delimiter"
  | .unterminated => "Unterminated string starting at"
  | .controlCharacter => "Invalid control character at"
  | .escape => "Invalid \\escape"
  | .unitEscape => "Invalid \\uXXXX escape"
  | .extraData => "Extra data"
  | .byteOrderMark => "Unexpected UTF-8 BOM (decode using utf-8-sig)"

def ReadError.message : ReadError → String
  | .malformed fault line column offset =>
    fault.message ++ ": line " ++ Text.decimal line ++ " column " ++ Text.decimal column ++
      " (char " ++ Text.decimal offset ++ ")"
  | .numberTooLong digits => Text.digitLimitMessage digits
  | .tooDeep => "The values stand too deep in each other."

namespace Reader

/-- Where reading stopped: the text from the fault or the number on. -/
inductive Stop where
  | fault (fault : Fault) (rest : List Char)
  | tooLong (digits : Nat) (rest : List Char)

def isSpace (c : Char) : Bool := c == ' ' || c == '\t' || c == '\n' || c == '\r'

def dropSpace (cs : List Char) : List Char := cs.dropWhile isSpace

def hexValue? (c : Char) : Option Nat :=
  if c.isDigit then some (c.toNat - 48)
  else if 'a' ≤ c ∧ c ≤ 'f' then some (c.toNat - 87)
  else if 'A' ≤ c ∧ c ≤ 'F' then some (c.toNat - 55)
  else none

def unit? (a b c d : Char) : Option Nat := do
  let w ← hexValue? a
  let x ← hexValue? b
  let y ← hexValue? c
  let z ← hexValue? d
  return ((w * 16 + x) * 16 + y) * 16 + z

def simpleEscape? : Char → Option Char
  | '"' => some '"'
  | '\\' => some '\\'
  | '/' => some '/'
  | 'b' => some '\x08'
  | 'f' => some '\x0c'
  | 'n' => some '\n'
  | 'r' => some '\r'
  | 't' => some '\t'
  | _ => none

/-- The code points and escaped units of a string up to its closing quote. The digits of a unit are
never the end of the text, since the quote has to follow. -/
def units (start : List Char) : List Char → Except Stop (List Nat × List Char)
  | [] => .error (.fault .unterminated start)
  | '"' :: r => .ok ([], r)
  | ['\\'] => .error (.fault .unterminated start)
  | '\\' :: 'u' :: r =>
    match r with
    | a :: b :: c :: d :: e :: r' =>
      match unit? a b c d with
      | some n => (units start (e :: r')).map fun (l, rest) => (n :: l, rest)
      | none => .error (.fault .unitEscape ('u' :: r))
    | _ => .error (.fault .unitEscape ('u' :: r))
  | '\\' :: c :: r =>
    match simpleEscape? c with
    | some x => (units start r).map fun (l, rest) => (x.toNat :: l, rest)
    | none => .error (.fault .escape ('\\' :: c :: r))
  | c :: r =>
    if c.toNat < 32 then .error (.fault .controlCharacter (c :: r))
    else (units start r).map fun (l, rest) => (c.toNat :: l, rest)

def string (start rest : List Char) : Except Stop (String × List Char) :=
  (units start rest).map fun (l, r) => (String.ofList (Text.ofUnits l), r)

def digitValues (cs : List Char) : List Nat := cs.map fun c => c.toNat - 48

def fraction (cs : List Char) : List Char × List Char :=
  match cs with
  | '.' :: r =>
    match r.takeWhile Char.isDigit with
    | [] => ([], cs)
    | ds => (ds, r.dropWhile Char.isDigit)
  | _ => ([], cs)

def exponent (cs : List Char) : Option Int × List Char :=
  let signed (negative : Bool) (r : List Char) : Option Int × List Char :=
    match r.takeWhile Char.isDigit with
    | [] => (none, cs)
    | ds =>
      let n : Int := Text.ofDecimal (digitValues ds)
      (some (if negative then -n else n), r.dropWhile Char.isDigit)
  match cs with
  | e :: '-' :: r => if e == 'e' || e == 'E' then signed true r else (none, cs)
  | e :: '+' :: r => if e == 'e' || e == 'E' then signed false r else (none, cs)
  | e :: r => if e == 'e' || e == 'E' then signed false r else (none, cs)
  | [] => (none, cs)

def whole? : List Char → Option (List Char × List Char)
  | '0' :: r => some (['0'], r)
  | cs =>
    match cs.takeWhile Char.isDigit with
    | [] => none
    | ds => some (ds, cs.dropWhile Char.isDigit)

def number (limited : Bool) (cs : List Char) : Except Stop (Value × List Char) :=
  let negative := cs.head? == some '-'
  match whole? (if negative then cs.tail else cs) with
  | none => .error (.fault .value cs)
  | some (ds, r) =>
    let (fs, r) := fraction r
    let (e, r) := exponent r
    if fs.isEmpty && e.isNone then
      if limited && Text.digitLimit < ds.length then .error (.tooLong ds.length cs)
      else
        let n : Int := Text.ofDecimal (digitValues ds)
        .ok (.int (if negative then -n else n), r)
    else
      .ok (.float (Binary64.ofDecimal negative (Text.ofDecimal (digitValues (ds ++ fs)))
        (e.getD 0 - fs.length)), r)

mutual

/-- One value. Each level of nesting and each item uses up a unit of `fuel` and at least one
character, so the length of the text is fuel enough. -/
def value (limited : Bool) : Nat → List Char → Except Stop (Value × List Char)
  | 0, cs => .error (.fault .value cs)
  | fuel + 1, cs =>
    match cs with
    | '"' :: r => (string cs r).map fun (s, r) => (.str s, r)
    | '\x7b' :: r =>
      match dropSpace r with
      | '\x7d' :: r => .ok (.obj [], r)
      | r => members limited fuel [] r
    | '[' :: r =>
      match dropSpace r with
      | ']' :: r => .ok (.arr [], r)
      | r => items limited fuel [] r
    | 'n' :: 'u' :: 'l' :: 'l' :: r => .ok (.null, r)
    | 't' :: 'r' :: 'u' :: 'e' :: r => .ok (.bool true, r)
    | 'f' :: 'a' :: 'l' :: 's' :: 'e' :: r => .ok (.bool false, r)
    | 'N' :: 'a' :: 'N' :: r => .ok (.float .nan, r)
    | 'I' :: 'n' :: 'f' :: 'i' :: 'n' :: 'i' :: 't' :: 'y' :: r =>
      .ok (.float (.infinite false), r)
    | '-' :: 'I' :: 'n' :: 'f' :: 'i' :: 'n' :: 'i' :: 't' :: 'y' :: r =>
      .ok (.float (.infinite true), r)
    | cs => number limited cs

def items (limited : Bool) : Nat → List Value → List Char → Except Stop (Value × List Char)
  | 0, _, cs => .error (.fault .value cs)
  | fuel + 1, before, cs => do
    let (v, r) ← value limited fuel cs
    match dropSpace r with
    | ']' :: r => .ok (.arr (v :: before).reverse, r)
    | ',' :: r => items limited fuel (v :: before) (dropSpace r)
    | r => .error (.fault .comma r)

def members (limited : Bool) :
    Nat → OrderedMap String Value → List Char → Except Stop (Value × List Char)
  | 0, _, cs => .error (.fault .value cs)
  | fuel + 1, before, cs =>
    match cs with
    | '"' :: r => do
      let (k, r) ← string cs r
      match dropSpace r with
      | ':' :: r => do
        let (v, r) ← value limited fuel (dropSpace r)
        match dropSpace r with
        | '\x7d' :: r => .ok (.obj (before.put k v), r)
        | ',' :: r => members limited fuel (before.put k v) (dropSpace r)
        | r => .error (.fault .comma r)
      | r => .error (.fault .colon r)
    | _ => .error (.fault .name cs)

end

def lineAndColumn (before : List Char) : Nat × Nat :=
  (before.count '\n' + 1, (before.reverse.takeWhile (· != '\n')).length + 1)

def locate (text : List Char) : Stop → ReadError
  | .tooLong digits _ => .numberTooLong digits
  | .fault fault rest =>
    let offset := text.length - rest.length
    let (line, column) := lineAndColumn (text.take offset)
    .malformed fault line column offset

def document (limited : Bool) (text : List Char) : Except Stop Value := do
  if text.head? == some '\ufeff' then .error (.fault .byteOrderMark text)
  let (v, r) ← value limited (text.length + 1) (dropSpace text)
  match dropSpace r with
  | [] => .ok v
  | r => .error (.fault .extraData r)

/-- How a scan stands: the brackets that are open and the most that were, and whether it is within a
string and behind a backslash there. -/
structure Scan where
  current : Nat
  deepest : Nat
  quoted : Bool
  escaped : Bool

def Scan.next (s : Scan) (c : Char) : Scan :=
  if s.escaped then { s with escaped := false }
  else if s.quoted then { s with quoted := c != '"', escaped := c == '\\' }
  else if c == '"' then { s with quoted := true }
  else if c == '[' || c == '\x7b' then
    { s with current := s.current + 1, deepest := max s.deepest (s.current + 1) }
  else if c == ']' || c == '\x7d' then { s with current := s.current - 1 }
  else s

def depth (cs : List Char) : Nat := (cs.foldl Scan.next ⟨0, 0, false, false⟩).deepest

/-- The part of a text that was read before reading stopped. -/
def reached (text : List Char) : Except Stop Value → List Char
  | .ok _ => text
  | .error (.fault _ rest) | .error (.tooLong _ rest) => text.take (text.length - rest.length)

end Reader

def read (text : List Char) : Except ReadError Value :=
  (Reader.document true text).mapError (Reader.locate text)

/-- As `read`, for documents that are not too deep; brackets count only up to where reading
stops. -/
def load [Depths] (text : List Char) : Except ReadError Value :=
  let reached := Reader.reached text (Reader.document true text)
  if Depths.reading < Reader.depth reached then .error .tooDeep else read text

def readUnlimited (text : List Char) : Except ReadError Value :=
  (Reader.document false text).mapError (Reader.locate text)

end ExportBundle.Json
