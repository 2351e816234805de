import ExportBundle.Text.Split
import ExportBundle.Text.Utf8

/-! Paths of files. A path is a row of segments, absolute or relative; empty segments and single
dots are dropped, double dots are kept until the path is resolved. Exactly two slashes in front are
a root of their own. -/

namespace ExportBundle

structure Path where
  /-- How many slashes stand in front: none, one or two. -/
  slashes : Nat
  segments : List String
  deriving DecidableEq, Repr, Inhabited

namespace Path

def ofString (s : String) : Path :=
  let leading := (s.toList.takeWhile (· == '/')).length
  ⟨if leading ≤ 2 then leading else 1,
    (Text.pieces '/' s).filter fun p => p != "" && p != "."⟩

def text (p : Path) : String :=
  let body := "/".intercalate p.segments
  if p.slashes = 0 ∧ p.segments.isEmpty then "."
  else String.ofList (List.replicate p.slashes '/') ++ body

def isAbsolute (p : Path) : Bool := p.slashes != 0

def join (p q : Path) : Path :=
  if q.isAbsolute then q else ⟨p.slashes, p.segments ++ q.segments⟩

def child (p : Path) (name : String) : Path := p.join (ofString name)

/-- The path without its last segment; a path without segments is its own parent. -/
def parent (p : Path) : Path := ⟨p.slashes, p.segments.dropLast⟩

def name (p : Path) : String := p.segments.getLastD ""

/-- A null character ends a name where files are kept, so no file has one. -/
def hasNull (p : Path) : Bool := p.segments.any fun s => s.toList.contains '\x00'

def unencodable? (p : Path) : Option Text.Utf8.Unencodable :=
  Text.Utf8.unencodableFrom 0 p.text.toList

/-- The segments with each double dot and the segment before it removed; `done` are those before,
the last one first. -/
def climb (done : List String) : List String → List String
  | [] => done.reverse
  | ".." :: r => climb done.tail r
  | s :: r => climb (s :: done) r

def resolve (here p : Path) : Path := ⟨1, climb [] (here.join p).segments⟩

@[simp] theorem join_relative {p q : Path} (h : q.slashes = 0) :
    p.join q = ⟨p.slashes, p.segments ++ q.segments⟩ := by
  simp [join, isAbsolute, h]

theorem ofString_of_notMem {s : String} (hslash : '/' ∉ s.toList) (hempty : s ≠ "")
    (hdot : s ≠ ".") : ofString s = ⟨0, [s]⟩ := by
  have hleading : s.toList.takeWhile (· == '/') = [] := by
    cases h : s.toList with
    | nil => rfl
    | cons c r =>
      rw [h, List.mem_cons, not_or] at hslash
      exact List.takeWhile_cons_of_neg (by simpa using Ne.symm hslash.1)
  have hpieces : Text.pieces '/' s = [s] := by
    rw [Text.pieces, Text.split_of_notMem hslash, List.map_singleton, String.ofList_toList]
  simp [ofString, hleading, hpieces, hempty, hdot]

theorem child_eq {p : Path} {name : String} (hslash : '/' ∉ name.toList) (hempty : name ≠ "")
    (hdot : name ≠ ".") : p.child name = ⟨p.slashes, p.segments ++ [name]⟩ := by
  rw [child, ofString_of_notMem hslash hempty hdot, join_relative rfl]

end Path

end ExportBundle
