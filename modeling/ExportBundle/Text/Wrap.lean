import ExportBundle.Text.Blank
import ExportBundle.Text.Width

/-! Lines that fit a number of columns. A line is cut in front of the first word that does not fit.
A word that is too long for a whole line is cut as well, but never within a cluster: a character
with the marks and joined characters that belong to it. Blanks beyond the last column are
dropped. -/

namespace ExportBundle.Text

structure Cluster where
  chars : List Char
  columns : Nat
  deriving DecidableEq, Repr

/-- The clusters of the text so far, the latest first. -/
structure ClusterScan where
  clusters : List Cluster
  joined : Bool
  last : Option Char

namespace ClusterScan

def start : ClusterScan := ⟨[], false, none⟩

def attach (c : Char) (more : Nat) : List Cluster → List Cluster
  | [] => [⟨[c], 0⟩]
  | latest :: r => ⟨latest.chars ++ [c], latest.columns + more⟩ :: r

def step (s : ClusterScan) (c : Char) : ClusterScan :=
  if s.joined then { s with clusters := attach c 0 s.clusters, joined := false }
  else if c == joiner then
    { s with clusters := attach c 0 s.clusters, joined := !s.clusters.isEmpty }
  else if c == emojiSelector then
    { s with clusters := attach c (widening s.last) s.clusters, last := none }
  else
    match charWidth c with
    | 0 => { s with clusters := attach c 0 s.clusters }
    | width => { s with clusters := ⟨[c], width⟩ :: s.clusters, last := some c }

end ClusterScan

def clusters (cs : List Char) : List Cluster :=
  (cs.foldl ClusterScan.step .start).clusters.reverse

def fitting (width : Nat) : List Cluster → List Cluster × List Cluster
  | [] => ([], [])
  | c :: r =>
    if c.columns ≤ width then
      let (line, rest) := fitting (width - c.columns) r
      (c :: line, rest)
    else ([], c :: r)

def charsOf (cs : List Cluster) : List Char := cs.flatMap (·.chars)

def fold (width : Nat) : Nat → List Cluster → List (List Char)
  | 0, cs => [charsOf cs]
  | fuel + 1, cs =>
    match fitting width cs with
    | (line, []) => [charsOf line]
    | (line, rest) => charsOf line :: fold width fuel rest

/-- A text cut in front of each character that is no blank and follows one. -/
def cutAfterBlanks : List Char → List (List Char)
  | [] => []
  | c :: r =>
    match cutAfterBlanks r with
    | [] => [[c]]
    | part :: rest =>
      if isBlank c && !part.head?.any isBlank then [c] :: part :: rest
      else (c :: part) :: rest

def wordsWithBlanks (cs : List Char) : List (List Char) :=
  match cutAfterBlanks cs with
  | first :: word :: rest =>
    if first.all isBlank then (first ++ word) :: rest else first :: word :: rest
  | parts => parts

/-- The lines of words; `line` holds the words of the current one, the latest first, and `used` is
how many columns they take up. -/
def linesOfWords (width used : Nat) (line : List (List Char)) :
    List (List Char) → List (List Char)
  | [] => [line.reverse.flatten]
  | word :: r =>
    let needed := columns (trimEnd word)
    if used + needed ≤ width then linesOfWords width (used + columns word) (word :: line) r
    else
      let before := if line.isEmpty then [] else [line.reverse.flatten]
      if needed ≤ width then before ++ linesOfWords width (columns word) [word] r
      else
        let parts := fold width word.length (clusters word)
        let last := parts.getLastD []
        before ++ parts.dropLast ++ linesOfWords width (columns last) [last] r

def dropBlanksBeyond (width : Nat) (cs : List Char) : List Char :=
  cs.take (max (trimEnd cs).length (min width cs.length))

/-- The text cut to the columns of a line; a space stands for the half of a wide cluster. -/
def crop (width : Nat) (cs : List Char) : List Char :=
  if columns cs ≤ width then cs
  else
    let line := (fitting width (clusters cs)).1
    let used := line.foldl (fun n cluster => n + cluster.columns) 0
    charsOf line ++ List.replicate (width - used) ' '

def wrap (width : Nat) (line : List Char) : List (List Char) :=
  let lines :=
    if columns line ≤ width then [line] else linesOfWords width 0 [] (wordsWithBlanks line)
  lines.map fun line => crop width (dropBlanksBeyond width line)

theorem flatten_cutAfterBlanks (cs : List Char) : (cutAfterBlanks cs).flatten = cs := by
  induction cs with
  | nil => rfl
  | cons c r ih =>
    unfold cutAfterBlanks
    split
    · simp_all
    · rename_i h
      rw [h] at ih
      split <;> simp_all

theorem flatten_wordsWithBlanks (cs : List Char) : (wordsWithBlanks cs).flatten = cs := by
  unfold wordsWithBlanks
  split
  · rename_i h
    rw [← flatten_cutAfterBlanks cs, h]
    split <;> simp
  · exact flatten_cutAfterBlanks cs

end ExportBundle.Text
