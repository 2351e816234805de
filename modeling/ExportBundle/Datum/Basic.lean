import ExportBundle.Dependency.Snapshot
import ExportBundle.Version.Order

/-! Values that a build may be described by. Besides what a document can hold there are rows of
fixed length, sets, maps with keys of any kind, paths, versions and named records. -/

namespace ExportBundle

inductive Datum where
  | null
  | bool (b : Bool)
  | int (n : Int)
  | float (x : Binary64)
  | str (s : String)
  | path (p : String)
  | list (items : List Datum)
  | tuple (items : List Datum)
  | set (frozen : Bool) (items : List Datum)
  | dict (entries : List (Datum × Datum))
  | version (v : Version)
  | record (name : String) (fields : List (String × Datum))
  | snapshot (s : Snapshot)
  | other (kind shown : String)
  deriving Inhabited

namespace Datum

mutual

def ofJson : Json.Value → Datum
  | .null => .null
  | .bool b => .bool b
  | .int n => .int n
  | .float x => .float x
  | .str s => .str s
  | .arr items => .list (ofItems items)
  | .obj members => .dict (ofMembers members)

def ofItems : List Json.Value → List Datum
  | [] => []
  | v :: r => ofJson v :: ofItems r

def ofMembers : List (String × Json.Value) → List (Datum × Datum)
  | [] => []
  | (k, v) :: r => (.str k, ofJson v) :: ofMembers r

end

def number? : Datum → Option (Int ⊕ Binary64)
  | .bool b => some (.inl (if b then 1 else 0))
  | .int n => some (.inl n)
  | .float x => some (.inr x)
  | _ => none

def sameNumber : Int ⊕ Binary64 → Int ⊕ Binary64 → Bool
  | .inl m, .inl n => m == n
  | .inl m, .inr y => y.equalsInt m
  | .inr x, .inl n => x.equalsInt n
  | .inr x, .inr y => x.sameValue y

mutual

/-- Equality as a key of a map or an item of a set: numbers are equal by value across their kinds,
sets whatever their order, and versions when their precedence is equal. -/
def same : Datum → Datum → Bool
  | .null, .null => true
  | .str s, .str t => s == t
  | .path p, .path q => p == q
  | .tuple a, .tuple b => sameItems a b
  | .set _ a, .set _ b => a.length == b.length && allIn a b
  | .version v, .version w => v.equivalent w
  | .record m a, .record n b => m == n && sameFields a b
  | .other k s, .other l t => k == l && s == t
  | a, b =>
    match a.number?, b.number? with
    | some m, some n => sameNumber m n
    | _, _ => false

def sameItems : List Datum → List Datum → Bool
  | [], [] => true
  | a :: r, b :: s => a.same b && sameItems r s
  | _, _ => false

def allIn : List Datum → List Datum → Bool
  | [], _ => true
  | a :: r, b => b.any (fun x => a.same x) && allIn r b

def sameFields : List (String × Datum) → List (String × Datum) → Bool
  | [], [] => true
  | (k, a) :: r, (l, b) :: s => k == l && a.same b && sameFields r s
  | _, _ => false

end

instance : BEq Datum := ⟨same⟩

end Datum

end ExportBundle
