import Flashcard.Json.Basic
import Flashcard.Text.Decimal

/-!
# Numbers in JSON

`readNumber` reads the numeral at the front of a text. A numeral has a value only if that is within
the range of double precision, where the value is taken from the digits that fit 64 bits and
a power of ten, both rounded to 53 bits before they are multiplied.
-/

namespace Flashcard.Json

/-- Appends digits to `n` while the result stays below `2 ^ 64`; also gives the digits left over. -/
def leadingDigits (n : Nat) : List Char → Nat × List Char
  | [] => (n, [])
  | d :: ds =>
    let longer := 10 * n + decimalValue [d]
    if longer < 2 ^ 64 then leadingDigits longer ds else (n, d :: ds)

/-- The leading digits of a numeral as one number, and the power of ten that goes with it. -/
def significand (whole fraction : List Char) (exponent : Int) : Nat × Int :=
  let (n, restOfWhole) := leadingDigits 0 whole
  let (n, restOfFraction) := leadingDigits n fraction
  (n, exponent + restOfWhole.length - (fraction.length - restOfFraction.length : Nat))

/-- The nearest number of 53 binary digits, of two the even one. -/
def nearestDouble (n : Nat) : Nat :=
  let dropped := n.log2 - 52
  let unit := Nat.pow 2 dropped
  let (q, r) := (n / unit, n % unit)
  if 2 * r > unit || (2 * r == unit && q % 2 == 1) then (q + 1) * unit else q * unit

/-- The least product that is rounded to infinity. -/
def doubleBound : Nat := Nat.pow 2 1024 - Nat.pow 2 970

/-- Whether `n * 10 ^ exponent` is beyond double precision. -/
def exceedsDouble (n : Nat) (exponent : Int) : Bool :=
  n != 0 && exponent ≥ 0 &&
    (exponent > 308 || nearestDouble n * nearestDouble (Nat.pow 10 exponent.toNat) ≥ doubleBound)

/-- A numeral without a digit where one must stand. -/
def missingDigit (s : List Char) : Value × List Char :=
  (if s.isEmpty then .brokenWord .truncated (some .malformed)
    else .brokenWord .malformed (some .malformed), s)

/-- The part of a numeral after an `e`: the exponent and the text after it. -/
def readExponent : List Char → Option Int × List Char
  | '-' :: s => digits s fun n => -n
  | '+' :: s => digits s fun n => n
  | s => digits s fun n => n
where
  digits (s : List Char) (sign : Int → Int) : Option Int × List Char :=
    let ds := s.takeWhile isDecimalDigit
    (if ds.isEmpty then none else some (sign (decimalValue ds)), s.dropWhile isDecimalDigit)

/-- The numeral `literal`, whose digits have been read up to `s`. -/
def endNumber (literal : String) (whole fraction : List Char) (exponent : Int) (s : List Char) :
    Value × List Char :=
  let (n, e) := significand whole fraction exponent
  (if exceedsDouble n e then .brokenWord .malformed none else .number literal, s)

/-- Reads on where an exponent may stand. -/
def readAfterDigits (text whole fraction s : List Char) : Value × List Char :=
  let finish (exponent : Int) (rest : List Char) :=
    endNumber (String.ofList (text.take (text.length - rest.length))) whole fraction exponent rest
  match s with
  | c :: s' =>
    if c == 'e' || c == 'E' then
      match readExponent s' with
      | (some exponent, rest) => finish exponent rest
      | (none, rest) => missingDigit rest
    else finish 0 s
  | [] => finish 0 s

/-- Reads on after the digits before the point. -/
def readAfterWhole (text whole s : List Char) : Value × List Char :=
  match s with
  | '.' :: s =>
    let fraction := s.takeWhile isDecimalDigit
    let rest := s.dropWhile isDecimalDigit
    if fraction.isEmpty then missingDigit rest else readAfterDigits text whole fraction rest
  | s => readAfterDigits text whole [] s

/-- The text after a minus sign. -/
def dropMinus : List Char → List Char
  | '-' :: s => s
  | s => s

/-- Reads the numeral at the front of `text`. No digit follows a leading zero. -/
def readNumber (text : List Char) : Value × List Char :=
  let s := dropMinus text
  let whole := s.takeWhile isDecimalDigit
  let rest := s.dropWhile isDecimalDigit
  match whole with
  | [] => missingDigit rest
  | '0' :: _ :: _ => (.brokenWord .malformed (some .malformed), rest)
  | _ => readAfterWhole text whole rest

end Flashcard.Json
