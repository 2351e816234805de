import ExportBundle.Text.CharacterName.AToC
import ExportBundle.Text.CharacterName.DToL
import ExportBundle.Text.CharacterName.MToZ
import ExportBundle.Text.CodeRanges

/-! The names of characters. Most of them are listed, the names of the Korean syllables are put
together from the names of their letters, and ideographs are named by code point. -/

namespace ExportBundle.Text.CharacterName

/-! Listed names. The lists are written with commas between names, and what follows on the same
words stands in parentheses behind them. -/

/-- How far a name agrees with the list that is being read. -/
structure Search where
  rest : Option (List Char)
  outer : List (Option (List Char))
  found : Bool

def dropFirst (c : Char) : Option (List Char) → Option (List Char)
  | some (d :: r) => if c = d then some r else none
  | _ => none

def Search.read (s : Search) (c : Char) : Search :=
  if c == '(' then { s with outer := s.rest :: s.outer }
  else if c == ',' then ⟨s.outer.head?.join, s.outer, s.found || s.rest == some []⟩
  else if c == ')' then ⟨none, s.outer.drop 1, s.found || s.rest == some []⟩
  else { s with rest := dropFirst c s.rest }

def isListed (rows : List String) (name : List Char) : Bool :=
  let s := rows.foldl (fun s row => row.toList.foldl Search.read s)
    ⟨some name, [some name], false⟩
  s.found || s.rest == some []

/-! Ideographs -/

def hexValue? (c : Char) : Option Nat :=
  if c.isDigit then some (c.toNat - 48)
  else if 'A' ≤ c && c ≤ 'F' then some (c.toNat - 55)
  else none

def code? (digits : List Char) : Option Nat :=
  let values := digits.filterMap hexValue?
  if (digits.length == 4 || digits.length == 5) && values.length == digits.length then
    some (values.foldl (fun n d => 16 * n + d) 0)
  else none

def behind? (beginning : String) (name : List Char) : Option (List Char) :=
  if beginning.toList.isPrefixOf name then some (name.drop beginning.length) else none

def unifiedIdeographs : List (Nat × Nat) :=
  [(0x3400, 0x4dbf), (0x4e00, 0x9fff), (0x20000, 0x2a6df), (0x2a700, 0x2b738), (0x2b740, 0x2b81d),
   (0x2b820, 0x2cea1), (0x2ceb0, 0x2ebe0), (0x30000, 0x3134a)]

def numbered : List (String × List (Nat × Nat)) :=
  [("CJK COMPATIBILITY IDEOGRAPH-", [(0xf900, 0xfa6d), (0xfa70, 0xfad9), (0x2f800, 0x2fa1d)]),
   ("KHITAN SMALL SCRIPT CHARACTER-", [(0x18b00, 0x18cd5)]),
   ("NUSHU CHARACTER-", [(0x1b170, 0x1b2fb)])]

/-- A code point of five digits has no zero in front. -/
def isNumbered (name : List Char) : Bool :=
  numbered.any fun (beginning, ranges) =>
    match behind? beginning name with
    | some digits =>
      (code? digits).any fun n =>
        inRanges ranges n && (digits.length == 4 || n ≥ 0x10000)
    | none => false

/-! Korean syllables -/

def leadingLetters : List String :=
  ["G", "GG", "N", "D", "DD", "R", "M", "B", "BB", "S", "SS", "", "J", "JJ", "C", "K", "T", "P",
   "H"]

def vowels : List String :=
  ["A", "AE", "YA", "YAE", "EO", "E", "YEO", "YE", "O", "WA", "WAE", "OE", "YO", "U", "WEO", "WE",
   "WI", "YU", "EU", "YI", "I"]

def trailingLetters : List String :=
  ["", "G", "GG", "GS", "N", "NJ", "NH", "D", "L", "LG", "LM", "LB", "LS", "LT", "LP", "LH", "M",
   "B", "BS", "S", "SS", "NG", "J", "C", "K", "T", "P", "H"]

def dropLongest? (letters : List String) (cs : List Char) : Option (List Char) :=
  let fitting := letters.filter fun l => l.toList.isPrefixOf cs
  if fitting.isEmpty then none
  else some (cs.drop (fitting.foldl (fun n l => max n l.length) 0))

def isSyllable (cs : List Char) : Bool :=
  (dropLongest? leadingLetters cs >>= dropLongest? vowels >>= dropLongest? trailingLetters) ==
    some []

/-- Whether a character has this name, or has it besides another one. Only a syllable and a unified
ideograph have to be named in capital letters. -/
def isName (name : List Char) : Bool :=
  match behind? "HANGUL SYLLABLE " name, behind? "CJK UNIFIED IDEOGRAPH-" name with
  | some letters, _ => isSyllable letters
  | none, some digits => (code? digits).any (inRanges unifiedIdeographs)
  | none, none =>
    let name := name.map Char.toUpper
    !name.isEmpty &&
      (isNumbered name || [namesAToC, namesDToL, namesMToZ].any fun rows => isListed rows name)

end ExportBundle.Text.CharacterName
