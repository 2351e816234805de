import ExportBundle.Datum.Basic

/-! Hashes of values, and the order in which a set goes through its items. The items sit in a table
of slots, each in the first free one on a way that its hash begins and that all hashes share in the
end. Numbers have a hash by value, and rows and sets have one from their items. A value with text
inside has no fixed one. -/

namespace ExportBundle.Datum

/-! Hashes -/

def hashModulus : Nat := (1 <<< 61) - 1

/-- The largest word stands for no hash. -/
def noHash : UInt64 := 0xffffffffffffffff

def hashOfRemainder (negative : Bool) (remainder : Nat) : UInt64 :=
  let word := UInt64.ofNat remainder
  let word := if negative then 0 - word else word
  if word = noHash then noHash - 1 else word

def infinityHash : Nat := 314159

/-- A power of two has as many different remainders as the modulus has digits in base two. -/
def hashOfNumber? : Int ⊕ Binary64 → Option UInt64
  | .inl n => some (hashOfRemainder (n < 0) (n.natAbs % hashModulus))
  | .inr (.finite negative mantissa exponent) =>
    some (hashOfRemainder negative (mantissa * Binary64.twoTo (exponent % 61) % hashModulus))
  | .inr (.infinite negative) => some (hashOfRemainder negative infinityHash)
  | .inr .nan => none

def rotate (x : UInt64) : UInt64 := x <<< 31 ||| x >>> 33

def rowStart : UInt64 := 2870177450012600261

def hashOfRow (items : List UInt64) : UInt64 :=
  let mixed : UInt64 := items.foldl
    (fun acc item => rotate (acc + item * 14029467366897019727) * 11400714785074694791) rowStart
  let word : UInt64 := mixed + (UInt64.ofNat items.length ^^^ (rowStart ^^^ (3527539 : UInt64)))
  if word = noHash then 1546275796 else word

def shuffle (x : UInt64) : UInt64 := ((x ^^^ (89869747 : UInt64)) ^^^ (x <<< 16)) * 3644798167

def hashOfSet (items : List UInt64) : UInt64 :=
  let mixed : UInt64 := items.foldl (fun acc item => acc ^^^ shuffle item) 0
  let mixed : UInt64 := mixed ^^^ ((UInt64.ofNat items.length + 1) * (1927868237 : UInt64))
  let mixed : UInt64 := mixed ^^^ ((mixed >>> 11) ^^^ (mixed >>> 25))
  let word := mixed * 69069 + 907133923
  if word = noHash then 590923713 else word

def hashOfNat (n : Nat) : UInt64 := hashOfRemainder false (n % hashModulus)

/-- The hash of a version from its precedence: the numbers, and then either one and nothing, or
zero and the prerelease. -/
def hashOfVersion? (v : Version) : Option UInt64 := do
  let core := hashOfRow [hashOfNat v.major, hashOfNat v.minor, hashOfNat v.patch]
  if v.isPrerelease then
    let identifiers ← v.ranks.mapM fun
      | .number n => some (hashOfRow [0, hashOfNat n, 0])
      | .word _ => none
    return hashOfRow [core, 0, hashOfRow identifiers]
  else return hashOfRow [core, 1, hashOfRow []]

mutual

def hash? : Datum → Option UInt64
  | .str s => if s.isEmpty then some 0 else none
  | .tuple items => hashOfRow <$> hashes? items
  | .set true items => hashOfSet <$> hashes? items
  | .version v => hashOfVersion? v
  | .record _ fields => hashOfRow <$> fieldHashes? fields
  | d => d.number?.bind hashOfNumber?

def hashes? : List Datum → Option (List UInt64)
  | [] => some []
  | d :: r => do return (← d.hash?) :: (← hashes? r)

def fieldHashes? : List (String × Datum) → Option (List UInt64)
  | [] => some []
  | (_, d) :: r => do return (← d.hash?) :: (← fieldHashes? r)

end

/-! Tables -/

abbrev Slots := List (Option (UInt64 × Datum))

namespace Slots

def smallest : Nat := 8

def free (size : Nat) : Slots := List.replicate size none

def items (t : Slots) : List (UInt64 × Datum) := t.filterMap id

def stretch : Nat := 9

def freeNear? (t : Slots) (place : Nat) : Option Nat :=
  let count := if place + stretch < t.length then stretch + 1 else 1
  (((t.drop place).take count).findIdx? Option.isNone).map (place + ·)

/-- The first free slot on the way from a place; `rest` is what of the hash is still to come in,
and `fuel` bounds the places. -/
def freeFrom (t : Slots) : Nat → Nat → Nat → Nat
  | 0, place, _ => place
  | fuel + 1, place, rest =>
    match t.freeNear? place with
    | some slot => slot
    | none =>
      let rest := rest >>> 5
      t.freeFrom fuel ((place * 5 + 1 + rest) % t.length) rest

def fill (t : Slots) (item : UInt64 × Datum) : Slots :=
  let word := item.1.toNat
  t.set (t.freeFrom (t.length + 64) (word % t.length) word) (some item)

def sizeAbove (n : Nat) : Nat → Nat → Nat
  | 0, size => size
  | fuel + 1, size => if size ≤ n then sizeAbove n fuel (2 * size) else size

/-- A table that is three fifths full gives way to one with four slots for each item, or with two
when there are many of them. -/
def put (t : Slots) (item : UInt64 × Datum) : Slots :=
  let t := t.fill item
  let used := t.items.length
  if used * 5 < (t.length - 1) * 3 then t
  else
    let size := sizeAbove (if used > 50000 then used * 2 else used * 4) used smallest
    t.items.foldl fill (free size)

end Slots

def inSetOrder (items : List Datum) : List Datum :=
  match hashes? items with
  | some words =>
    let table := (words.zip items).foldl Slots.put (Slots.free Slots.smallest)
    table.items.map (·.2)
  | none => items

end ExportBundle.Datum
