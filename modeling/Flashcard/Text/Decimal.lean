/-!
# Decimal numerals

`decimalValue` reads a run of ASCII digits of any length, so leading zeros do not matter and no
numeral is too long. `padded` writes one with leading zeros.
-/

namespace Flashcard

def isDecimalDigit (c : Char) : Bool := '0' ≤ c && c ≤ '9'

def decimalValue (digits : List Char) : Nat :=
  digits.foldl (fun n c => 10 * n + (c.toNat - '0'.toNat)) 0

/-- The digits of `n`, at least `width` of them. -/
def padded (width n : Nat) : List Char :=
  let digits := Nat.toDigits 10 n
  List.replicate (width - digits.length) '0' ++ digits

end Flashcard
