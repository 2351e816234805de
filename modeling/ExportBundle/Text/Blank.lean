import ExportBundle.Text.CodeRanges

/-! Blank characters: the Unicode white space together with the four information separators
U+001C to U+001F. Trimming removes them from both ends of a text and nothing from inside. -/

namespace ExportBundle.Text

def blankRanges : List (Nat × Nat) :=
  [(0x9, 0xd), (0x1c, 0x20), (0x85, 0x85), (0xa0, 0xa0), (0x1680, 0x1680), (0x2000, 0x200a),
   (0x2028, 0x2029), (0x202f, 0x202f), (0x205f, 0x205f), (0x3000, 0x3000)]

def isBlank (c : Char) : Bool := inRanges blankRanges c.toNat

def dropBlanks (cs : List Char) : List Char := cs.dropWhile isBlank

def trimEnd (cs : List Char) : List Char := (dropBlanks cs.reverse).reverse

def trim (cs : List Char) : List Char := trimEnd (dropBlanks cs)

theorem mem_of_mem_trim {cs : List Char} {c : Char} (h : c ∈ trim cs) : c ∈ cs := by
  rw [trim, trimEnd, List.mem_reverse] at h
  have hfront := (List.dropWhile_suffix _).mem h
  rw [List.mem_reverse] at hfront
  exact (List.dropWhile_suffix _).mem hfront

theorem trim_of_forall {cs : List Char} (h : ∀ c ∈ cs, isBlank c = false) : trim cs = cs := by
  have front {r : List Char} (hr : ∀ c ∈ r, isBlank c = false) : dropBlanks r = r := by
    cases r with
    | nil => rfl
    | cons c r => simp [dropBlanks, hr c]
  rw [trim, front h, trimEnd, front fun c hc => h c (List.mem_reverse.1 hc), List.reverse_reverse]

end ExportBundle.Text
