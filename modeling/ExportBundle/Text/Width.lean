import ExportBundle.Text.CodeRanges
import ExportBundle.Text.Split
import ExportBundle.Text.Width.Ranges

/-! How many columns a text takes up. A character takes one column, with two exceptions: control
characters and marks take none, and wide characters take two. In a row of characters a joiner takes
up the character behind it, and a selector makes the one before it as wide as its emoji. -/

namespace ExportBundle.Text

def charWidth (c : Char) : Nat :=
  if ' ' ≤ c && c ≤ '~' then 1
  else if inRanges zeroWidthRanges c.toNat then 0
  else if inRanges wideRanges c.toNat then 2
  else 1

def joiner : Char := '\u200d'

def emojiSelector : Char := '\ufe0f'

def widening : Option Char → Nat
  | some c => if inRanges widenedRanges c.toNat then 1 else 0
  | none => 0

/-- The columns of a text; `last` is the last character before it that takes up any. -/
def columnsAfter (last : Option Char) : List Char → Nat
  | [] => 0
  | c :: r =>
    if c == joiner then
      match r with
      | [] => 0
      | _ :: r => columnsAfter last r
    else if c == emojiSelector then widening last + columnsAfter none r
    else
      let width := charWidth c
      width + columnsAfter (if width = 0 then last else some c) r

def columns (cs : List Char) : Nat := columnsAfter none cs

def tabStop : Nat := 8

/-- The parts of a line with its tabs as spaces; `column` is where they start. A tab is one space,
and as many more as it takes to the next stop. -/
def joinAtStops (column : Nat) : List (List Char) → List Char
  | [] => []
  | [part] => part
  | part :: rest =>
    let part := part ++ [' ']
    let reached := column + columns part
    let more := (tabStop - reached % tabStop) % tabStop
    part ++ List.replicate more ' ' ++ joinAtStops (reached + more) rest

def expandTabs (line : List Char) : List Char := joinAtStops 0 (split '\t' line)

theorem charWidth_le_two (c : Char) : charWidth c ≤ 2 := by
  unfold charWidth
  split
  · decide
  · split
    · decide
    · split <;> decide

theorem expandTabs_of_notMem {line : List Char} (h : '\t' ∉ line) : expandTabs line = line := by
  simp [expandTabs, split_of_notMem h, joinAtStops]

end ExportBundle.Text
