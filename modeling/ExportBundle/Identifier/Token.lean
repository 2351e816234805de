/-! Random bytes as text: six bits to a character, with letters, digits, hyphens and underscores. -/

namespace ExportBundle.Identifier

def tokenSize : Nat := 16

def tokenAlphabet : List Char :=
  "ABCDEFGHIJKLMNOPQRSTUVWXYZabcdefghijklmnopqrstuvwxyz0123456789-_".toList

def tokenChar (n : Nat) : Char := tokenAlphabet.getD (n % 64) 'A'

/-- The characters of a row of bytes; the last one is filled up with zero bits. -/
def tokenChars : List UInt8 → List Char
  | [] => []
  | [a] => [tokenChar (a.toNat / 4), tokenChar (a.toNat * 16)]
  | [a, b] =>
    [tokenChar (a.toNat / 4), tokenChar (a.toNat * 16 + b.toNat / 16), tokenChar (b.toNat * 4)]
  | a :: b :: c :: r =>
    tokenChar (a.toNat / 4) :: tokenChar (a.toNat * 16 + b.toNat / 16) ::
      tokenChar (b.toNat * 4 + c.toNat / 64) :: tokenChar c.toNat :: tokenChars r

def token (bytes : List UInt8) : String := String.ofList (tokenChars bytes)

end ExportBundle.Identifier
