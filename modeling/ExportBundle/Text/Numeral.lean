/-! Numbers as text, in base ten and in base sixteen. -/

namespace ExportBundle.Text

def decimal (n : Nat) : String := String.ofList (Nat.toDigits 10 n)

def decimalInt : Int → String
  | .ofNat n => decimal n
  | .negSucc n => "-" ++ decimal (n + 1)

/-- The lower-case base-sixteen digits of `n`, with zeros in front up to `width`. -/
def hex (width n : Nat) : String :=
  let digits := Nat.toDigits 16 n
  String.ofList (List.replicate (width - digits.length) '0' ++ digits)

/-- The largest count of digits that a number may have to be turned into text or read from it. -/
def digitLimit : Nat := 4300

def digitLimitMessage (digits : Nat) : String :=
  "Exceeds the limit (" ++ decimal digitLimit ++
    " digits) for integer string conversion: value has " ++ decimal digits ++
    " digits; use sys.set_int_max_str_digits() to increase the limit"

def fitsDigitLimit (n : Int) : Bool := n.natAbs < Nat.pow 10 digitLimit

end ExportBundle.Text
