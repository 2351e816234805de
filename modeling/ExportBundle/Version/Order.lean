import ExportBundle.Sorting
import ExportBundle.Version.Basic

/-! Precedence of versions. The three numbers count first; then a release is above its prereleases,
and prereleases compare identifier by identifier, numbers by value and below words. The build does
not count. -/

namespace ExportBundle.Version

/-- An identifier as precedence sees it. -/
inductive Rank where
  | number (n : Nat)
  | word (s : String)
  deriving DecidableEq, Repr

def isNumeric (identifier : String) : Bool :=
  !identifier.isEmpty && identifier.toList.all Char.isDigit

def numericValue (identifier : String) : Nat :=
  identifier.toList.foldl (fun n c => 10 * n + (c.toNat - 48)) 0

def rank (identifier : String) : Rank :=
  if isNumeric identifier then .number (numericValue identifier) else .word identifier

namespace Rank

def compare : Rank → Rank → Ordering
  | .number m, .number n => Ord.compare m n
  | .number _, .word _ => .lt
  | .word _, .number _ => .gt
  | .word s, .word t => Ord.compare s t

end Rank

/-- The order of two rows of identifiers; a row that goes on is above one that ends. -/
def compareRanks : List Rank → List Rank → Ordering
  | [], [] => .eq
  | [], _ :: _ => .lt
  | _ :: _, [] => .gt
  | a :: r, b :: s => (a.compare b).then (compareRanks r s)

def ranks (v : Version) : List Rank := v.prerelease.map rank

def comparePrerelease (v w : Version) : Ordering :=
  match v.isPrerelease, w.isPrerelease with
  | false, false => .eq
  | false, true => .gt
  | true, false => .lt
  | true, true => compareRanks v.ranks w.ranks

def compare (v w : Version) : Ordering :=
  (Ord.compare v.major w.major).then
    ((Ord.compare v.minor w.minor).then
      ((Ord.compare v.patch w.patch).then (v.comparePrerelease w)))

def precedes (v w : Version) : Bool := v.compare w == .lt

def follows (v w : Version) : Bool := v.compare w == .gt

def equivalent (v w : Version) : Bool := v.compare w == .eq

def atMost (v w : Version) : Bool := v.precedes w || v.equivalent w

def atLeast (v w : Version) : Bool := !v.precedes w

def sorted (versions : List Version) : List Version :=
  Sorting.sort (fun a b => !b.precedes a) versions

/-- The digits of the first number among the prerelease identifiers that is too long to be read. -/
def tooLong? (v : Version) : Option Nat :=
  (v.prerelease.find? fun i => isNumeric i && Text.digitLimit < i.length).map String.length

def isComparable (v : Version) : Bool := v.tooLong?.isNone

/-- What a version's hash depends on: its precedence, with numbers taken modulo `2 ^ 61 - 1`. -/
def hashKey (v : Version) : List Nat × Bool × List Rank :=
  let reduce (n : Nat) := n % 0x1fffffffffffffff
  ([v.major, v.minor, v.patch].map reduce, v.isPrerelease,
    v.ranks.map fun
      | .number n => .number (reduce n)
      | .word s => .word s)

end ExportBundle.Version
