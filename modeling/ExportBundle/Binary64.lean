import ExportBundle.Text.Numeral

/-! Double-precision numbers as exact data: a sign, a mantissa below `2 ^ 53` and a power of two.
Reading a decimal rounds to the nearest double, a tie going to the even mantissa. Writing gives the
fewest digits that read back, and of those the nearest to the value. -/

namespace ExportBundle

inductive Binary64 where
  | finite (negative : Bool) (mantissa : Nat) (exponent : Int)
  | infinite (negative : Bool)
  | nan
  deriving DecidableEq, Repr, Inhabited

namespace Binary64

def minExponent : Int := -1074

def maxExponent : Int := 971

def zero (negative : Bool) : Binary64 := .finite negative 0 minExponent

def twoTo (k : Int) : Nat := Nat.pow 2 k.toNat

def tenTo (k : Int) : Nat := Nat.pow 10 k.toNat

/-- The natural number nearest to `num / den`; a tie goes to the even one. -/
def roundQuotient (num den : Nat) : Nat :=
  let q := num / den
  let twice := 2 * (num % den)
  if twice < den ∨ (twice = den ∧ q % 2 = 0) then q else q + 1

def scaled (num den : Nat) (e : Int) : Nat × Nat :=
  (num * twoTo (-e), den * twoTo e)

def ofQuotient (negative : Bool) (num den : Nat) : Binary64 :=
  if num = 0 then zero negative else
  let low : Int := (num.log2 : Int) - den.log2 - 53
  let (n, d) := scaled num den low
  let e := max (if n < d * twoTo 53 then low else low + 1) minExponent
  let (n, d) := scaled num den e
  let m := roundQuotient n d
  let (m, e) := if m = twoTo 53 then (twoTo 52, e + 1) else (m, e)
  if e > maxExponent then .infinite negative else .finite negative m e

/-- The double nearest to `digits * 10 ^ exponent`. Magnitudes far outside the range of doubles are
decided by the count of digits alone. -/
def ofDecimal (negative : Bool) (digits : Nat) (exponent : Int) : Binary64 :=
  if digits = 0 then zero negative else
  let size := (Nat.toDigits 10 digits).length + exponent
  if size > 320 then .infinite negative
  else if size < -340 then zero negative
  else ofQuotient negative (digits * tenTo exponent) (tenTo (-exponent))

def equalsInt : Binary64 → Int → Bool
  | .finite negative m e, n =>
    (if negative then n ≤ 0 else 0 ≤ n) &&
      m * twoTo e == n.natAbs * twoTo (-e)
  | _, _ => false

/-- Equality of values: the two zeros are equal and nothing equals a NaN. -/
def sameValue : Binary64 → Binary64 → Bool
  | .finite s m e, .finite t n f => m == n && e == f && (s == t || m == 0)
  | .infinite s, .infinite t => s == t
  | _, _ => false

/-- Digits of a decimal and the power of ten of its last digit. -/
structure Shortest where
  digits : Nat
  exponent : Int
  deriving DecidableEq, Repr

def between (digits : Nat) (k : Int) (lo hi : Nat) (q : Int) (closed : Bool) : Bool :=
  let x := digits * tenTo k * twoTo (-q)
  let unit := tenTo (-k) * twoTo q
  if closed then lo * unit ≤ x && x ≤ hi * unit else lo * unit < x && x < hi * unit

def nearer (a : Nat) (k : Int) (v : Nat) (q : Int) : Nat :=
  let middle := (2 * a + 1) * tenTo k * twoTo (-q)
  let value := 2 * v * tenTo (-k) * twoTo q
  if value < middle ∨ (value = middle ∧ a % 2 = 0) then a else a + 1

def magnitude (m : Nat) (e : Int) : Int :=
  ((Nat.toDigits 10 (m * twoTo e * tenTo 400 / twoTo (-e))).length : Int) - 401

/-- The decimal with `count` digits, or one more than all nines, that reads back as `m * 2 ^ e`. -/
def withDigits (m : Nat) (e : Int) (count : Nat) : Option Shortest :=
  let k := magnitude m e - count + 1
  let lo := if m = twoTo 52 ∧ e > minExponent then 4 * m - 1 else 4 * m - 2
  let hi := 4 * m + 2
  let q := e - 2
  let closed := m % 2 == 0
  let a := 4 * m * twoTo q * tenTo (-k) / (twoTo (-q) * tenTo k)
  match between a k lo hi q closed, between (a + 1) k lo hi q closed with
  | true, true => some ⟨nearer a k (4 * m) q, k⟩
  | true, false => some ⟨a, k⟩
  | false, true => some ⟨a + 1, k⟩
  | false, false => none

def Shortest.strip : Nat → Shortest → Shortest
  | 0, s => s
  | fuel + 1, s =>
    if s.digits % 10 = 0 ∧ s.digits ≠ 0 then strip fuel ⟨s.digits / 10, s.exponent + 1⟩ else s

/-- The shortest decimal that reads back as `m * 2 ^ e`; seventeen digits always do. -/
def shortest (m : Nat) (e : Int) : Shortest :=
  (((List.range 17).findSome? fun i => withDigits m e (i + 1)).getD ⟨0, 0⟩).strip 18

def Shortest.text (s : Shortest) : String :=
  let ds := Nat.toDigits 10 s.digits
  let point : Int := s.exponent + ds.length
  if -4 < point ∧ point ≤ 16 then
    if point ≤ 0 then
      String.ofList (['0', '.'] ++ List.replicate (-point).toNat '0' ++ ds)
    else if ds.length ≤ point then
      String.ofList (ds ++ List.replicate (point - ds.length).toNat '0' ++ ['.', '0'])
    else
      String.ofList (ds.take point.toNat ++ ['.'] ++ ds.drop point.toNat)
  else
    let e := point - 1
    let digits := Nat.toDigits 10 e.natAbs
    let lead := match ds with
      | [] => []
      | [d] => [d]
      | d :: r => d :: '.' :: r
    String.ofList (lead ++ ['e', if e < 0 then '-' else '+'] ++
      List.replicate (2 - digits.length) '0' ++ digits)

def text (infinity notANumber : String) : Binary64 → String
  | .nan => notANumber
  | .infinite negative => (if negative then "-" else "") ++ infinity
  | .finite negative m e =>
    (if negative then "-" else "") ++ if m = 0 then "0.0" else (shortest m e).text

end Binary64

end ExportBundle
