import ExportBundle.Datum.Text
import ExportBundle.Depths
import ExportBundle.Sha256
import ExportBundle.Sorting
import ExportBundle.Text.Utf8

/-! Canonical text and fingerprints. Values that differ only in the order of their entries have the
same canonical text: the entries of every map are sorted by the text of their keys, and the items of
every set among themselves. The fingerprint is the beginning of the digest of that text. -/

namespace ExportBundle.Canonical

inductive Error where
  | unsupported (kind : String)
  | incomparable
  | uncopyable
  | numberTooLong
  | tooDeep
  deriving DecidableEq, Repr

def Error.message : Error → String
  | .unsupported kind => "Cannot canonicalize type: " ++ kind
  | .incomparable => "The items of a set cannot be ordered."
  | .uncopyable => "A record cannot be taken apart."
  | .numberTooLong => "A number has too many digits."
  | .tooDeep => "The values stand too deep in each other."

def wholeNumber? : Json.Value → Option Int
  | .bool b => some (if b then 1 else 0)
  | .int n => some n
  | _ => none

mutual

/-- Two encoded items are the same when they hold the same values; the order of members does not
count. -/
def same : Json.Value → Json.Value → Bool
  | .null, .null => true
  | .str s, .str t => s == t
  | .arr a, .arr b => sameItems a b
  | .obj a, .obj b => a.length == b.length && sameMembers a b
  | a, b =>
    match wholeNumber? a, wholeNumber? b with
    | some m, some n => m == n
    | _, _ => false

def sameItems : List Json.Value → List Json.Value → Bool
  | [], [] => true
  | a :: r, b :: s => same a b && sameItems r s
  | _, _ => false

def sameMembers : List (String × Json.Value) → OrderedMap String Json.Value → Bool
  | [], _ => true
  | (key, a) :: r, others =>
    (match others.get? key with
      | some b => same a b
      | none => false) && sameMembers r others

end

mutual

/-- The order of two encoded items of a set: numbers by value, strings by code points, and rows by
the first of their items that are not the same. Whatever else has no order. -/
def compare? : Json.Value → Json.Value → Option Ordering
  | .str s, .str t => some (Text.compareTexts s t)
  | .arr a, .arr b => compareItems? a b
  | a, b =>
    match wholeNumber? a, wholeNumber? b with
    | some m, some n => some (compare m n)
    | _, _ => none

def compareItems? : List Json.Value → List Json.Value → Option Ordering
  | [], [] => some .eq
  | [], _ :: _ => some .lt
  | _ :: _, [] => some .gt
  | a :: r, b :: s => if same a b then compareItems? r s else compare? a b

end

def sortItems (items : List Json.Value) : Except Error (List Json.Value) :=
  if items.length ≤ 1 ∨ items.all fun a => items.all fun b => (compare? a b).isSome then
    .ok (Sorting.sort (fun a b => compare? a b != some .gt) items)
  else .error .incomparable

/-- The entries with their keys as text, sorted by it. Of several entries with one text the last
gives the value, and of several errors the first in this order is met. -/
def sortEntries (entries : List (String × Except Error Json.Value)) : Except Error Json.Value := do
  let sorted ← (Sorting.sort (fun a b => Text.inOrder a.1 b.1) entries).mapM fun e => do
    return (e.1, ← e.2)
  return .obj (OrderedMap.ofEntries sorted)

mutual

def encode : Datum → Except Error Json.Value
  | .null => .ok .null
  | .bool b => .ok (.bool b)
  | .int n => .ok (.int n)
  | .float x => .ok (.str (Datum.floatText x))
  | .str s => .ok (.str s)
  | .path p => .ok (.str p)
  | .list items => do return .arr (← encodeItems items)
  | .tuple items => do return .arr (← encodeItems items)
  | .set _ items => do return .arr (← sortItems (← encodeItems items))
  | .dict entries =>
    if entries.all fun e => e.1.fitsDigitLimit then sortEntries (encodeEntries entries)
    else .error .numberTooLong
  | .version v =>
    .ok (.obj [("build", Json.Value.ofStrings v.build), ("major", .int v.major),
      ("minor", .int v.minor), ("patch", .int v.patch),
      ("prerelease", Json.Value.ofStrings v.prerelease)])
  | .record _ fields => sortEntries (encodeFields fields)
  | .snapshot _ => .error .uncopyable
  | .other kind _ => .error (.unsupported kind)

def encodeItems : List Datum → Except Error (List Json.Value)
  | [] => .ok []
  | d :: r => do
    let v ← encode d
    return v :: (← encodeItems r)

def encodeEntries : List (Datum × Datum) → List (String × Except Error Json.Value)
  | [] => []
  | (k, d) :: r => (k.plainText, encode d) :: encodeEntries r

def encodeFields : List (String × Datum) → List (String × Except Error Json.Value)
  | [] => []
  | (k, d) :: r => (k, encode d) :: encodeFields r

end

def text [Depths] (d : Datum) : Except Error String := do
  let v ← encode d
  if Depths.encoding < v.depth then throw .tooDeep
  if v.fitsDigitLimit then return v.print .compact else throw .numberTooLong

def fingerprintLength : Nat := 16

def fingerprintOf (text : String) : String :=
  String.ofList ((Sha256.hexDigest (Text.Utf8.encode text.toList)).toList.take fingerprintLength)

def fingerprint [Depths] (d : Datum) : Except Error String := return fingerprintOf (← text d)

end ExportBundle.Canonical
