import ExportBundle.Text.Numeral
import ExportBundle.Text.Units

/-! UTF-8. Decoding walks over the bytes with at most one unfinished character in hand, and the
first byte that cannot go on ends it. Halves of UTF-16 pairs have no encoding. -/

namespace ExportBundle.Text.Utf8

def encodeChar (c : Char) : List UInt8 :=
  let n := c.toNat
  let tail (k : Nat) : UInt8 := UInt8.ofNat (0x80 + n / Nat.pow 64 k % 64)
  if n < 0x80 then [UInt8.ofNat n]
  else if n < 0x800 then [UInt8.ofNat (0xc0 + n / 64), tail 0]
  else if n < 0x10000 then [UInt8.ofNat (0xe0 + n / 0x1000), tail 1, tail 0]
  else [UInt8.ofNat (0xf0 + n / 0x40000), tail 2, tail 1, tail 0]

def encode (cs : List Char) : List UInt8 := cs.flatMap encodeChar

inductive Fault where
  | invalidStart
  | invalidContinuation
  | unexpectedEnd
  deriving DecidableEq, Repr

def Fault.reason : Fault → String
  | .invalidStart => "invalid start byte"
  | .invalidContinuation => "invalid continuation byte"
  | .unexpectedEnd => "unexpected end of data"

/-- The bytes from `start` up to `stop` belong to no character; `byte` is the first of them. -/
structure Malformed where
  byte : UInt8
  start : Nat
  stop : Nat
  fault : Fault
  deriving DecidableEq, Repr

def Malformed.message (m : Malformed) : String :=
  "'utf-8' codec can't decode " ++
    (if m.stop = m.start + 1 then
      "byte 0x" ++ hex 2 m.byte.toNat ++ " in position " ++ decimal m.start
    else "bytes in position " ++ decimal m.start ++ "-" ++ decimal (m.stop - 1)) ++
    ": " ++ m.fault.reason

/-- A character of which `missing` bytes are still to come; the next one is at least `low` and at
most `high`. -/
structure Unfinished where
  first : UInt8
  start : Nat
  value : Nat
  missing : Nat
  low : Nat
  high : Nat

def lead? (byte : UInt8) (start : Nat) : Option Unfinished :=
  let n := byte.toNat
  if 0xc2 ≤ n ∧ n < 0xe0 then some ⟨byte, start, n - 0xc0, 1, 0x80, 0xbf⟩
  else if n = 0xe0 then some ⟨byte, start, 0, 2, 0xa0, 0xbf⟩
  else if n = 0xed then some ⟨byte, start, 0xd, 2, 0x80, 0x9f⟩
  else if 0xe1 ≤ n ∧ n < 0xf0 then some ⟨byte, start, n - 0xe0, 2, 0x80, 0xbf⟩
  else if n = 0xf0 then some ⟨byte, start, 0, 3, 0x90, 0xbf⟩
  else if 0xf1 ≤ n ∧ n < 0xf4 then some ⟨byte, start, n - 0xf0, 3, 0x80, 0xbf⟩
  else if n = 0xf4 then some ⟨byte, start, 4, 3, 0x80, 0x8f⟩
  else none

def decodeFrom (position : Nat) : Option Unfinished → List UInt8 → Except Malformed (List Char)
  | none, [] => .ok []
  | some u, [] => .error ⟨u.first, u.start, position, .unexpectedEnd⟩
  | none, b :: r =>
    if b.toNat < 0x80 then
      (decodeFrom (position + 1) none r).map (Char.ofNat b.toNat :: ·)
    else match lead? b position with
      | some u => decodeFrom (position + 1) (some u) r
      | none => .error ⟨b, position, position + 1, .invalidStart⟩
  | some u, b :: r =>
    let n := b.toNat
    if u.low ≤ n ∧ n ≤ u.high then
      let value := u.value * 64 + (n - 0x80)
      if u.missing ≤ 1 then
        (decodeFrom (position + 1) none r).map (Char.ofNat value :: ·)
      else
        decodeFrom (position + 1) (some ⟨u.first, u.start, value, u.missing - 1, 0x80, 0xbf⟩) r
    else .error ⟨u.first, u.start, position, .invalidContinuation⟩

def decode (bytes : List UInt8) : Except Malformed (List Char) := decodeFrom 0 none bytes

/-- Halves from `start` up to `stop`, the first of which is `unit`. -/
structure Unencodable where
  unit : Nat
  start : Nat
  stop : Nat
  deriving DecidableEq, Repr

def Unencodable.message (u : Unencodable) : String :=
  "'utf-8' codec can't encode " ++
    (if u.stop = u.start + 1 then
      "character '\\u" ++ hex 4 u.unit ++ "' in position " ++ decimal u.start
    else "characters in position " ++ decimal u.start ++ "-" ++ decimal (u.stop - 1)) ++
    ": surrogates not allowed"

def isByteHalf (unit : Nat) : Bool := 0xdc80 ≤ unit && unit ≤ 0xdcff

/-- What of the name of a file has no encoding; `position` is where the text starts. -/
def unencodableFrom (position : Nat) : List Char → Option Unencodable
  | [] => none
  | c :: r =>
    match half? c with
    | some unit =>
      if isByteHalf unit then unencodableFrom (position + 1) r
      else some ⟨unit, position, position + 1 + (r.takeWhile fun c => half? c != none).length⟩
    | none => unencodableFrom (position + 1) r

def unifyLineEnds : List Char → List Char
  | '\r' :: '\n' :: r => '\n' :: unifyLineEnds r
  | '\r' :: r => '\n' :: unifyLineEnds r
  | c :: r => c :: unifyLineEnds r
  | [] => []

end ExportBundle.Text.Utf8
