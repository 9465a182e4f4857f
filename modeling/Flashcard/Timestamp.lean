import Flashcard.Calendar
import Flashcard.Text.Blank
import Flashcard.Text.Decimal

/-!
# Timestamps

A timestamp is a moment in universal time. It is written as a date and a time with a `Z`, and with
as few groups of three digits after the point as hold the nanoseconds. Years outside the four
digits have a sign.

It is read from that form and from looser ones: white space may stand around the parts, a space may
stand for the `T`, letters may be in either case, and the offset from universal time may be given in
hours and minutes.
-/

namespace Flashcard

structure Timestamp where
  date : Date
  /-- Counted from midnight. -/
  minute : Fin 1440
  /-- The last is a leap second. -/
  second : Fin 61
  nanosecond : Fin 1000000000
deriving DecidableEq

namespace Timestamp

/-- The beginning of 1970. -/
def epoch : Timestamp := ⟨⟨1970, 1, 1, by decide, by decide, by decide⟩, 0, 0, 0⟩

/-! ### Writing -/

def printYear (year : Int) : List Char :=
  if 0 ≤ year ∧ year ≤ 9999 then padded 4 year.toNat
  else (if year < 0 then '-' else '+') :: padded 4 year.natAbs

/-- The digits after the point, with the point. -/
def printFraction (nanosecond : Nat) : List Char :=
  if nanosecond = 0 then []
  else if nanosecond % 1000000 = 0 then '.' :: padded 3 (nanosecond / 1000000)
  else if nanosecond % 1000 = 0 then '.' :: padded 6 (nanosecond / 1000)
  else '.' :: padded 9 nanosecond

def print (t : Timestamp) : String :=
  String.ofList
    (printYear t.date.year ++ '-' :: padded 2 t.date.month ++ '-' :: padded 2 t.date.day ++
      'T' :: padded 2 (t.minute / 60) ++ ':' :: padded 2 (t.minute % 60) ++
      ':' :: padded 2 t.second ++ printFraction t.nanosecond ++ ['Z'])

/-! ### Reading -/

/-- Reads a part at the front of a text. -/
abbrev Scan := StateT (List Char) Option

namespace Scan

def skip (p : Char → Bool) : Scan Unit := modify (List.dropWhile p)

/-- The next character, if it passes. -/
def char (p : Char → Bool) : Scan Char := do
  match ← get with
  | c :: s =>
    guard (p c)
    set s
    return c
  | [] => failure

/-- Up to `max` digits, at least one. -/
def digits (max : Nat) : Scan (List Char) := do
  let s ← get
  let ds := (s.take max).takeWhile isDecimalDigit
  guard (!ds.isEmpty)
  set (s.drop ds.length)
  return ds

/-- A number of at most two digits. -/
def number : Scan Nat := do
  skip isSpace
  return decimalValue (← digits 2)

/-- A sign between numbers. -/
def separator (c : Char) : Scan Unit := do
  skip isSpace
  discard (char (· == c))

/-- A year has four digits at most, unless it has a sign. -/
def year : Scan Int := do
  skip isSpace
  match ← get with
  | '-' :: s =>
    set s
    return -(decimalValue (← digits s.length))
  | '+' :: s =>
    set s
    return decimalValue (← digits s.length)
  | _ => return decimalValue (← digits 4)

def date : Scan Date := do
  let year ← year
  separator '-'
  let month ← number
  separator '-'
  let day ← number
  (Date.ofParts? year month day : Option Date)

/-- The nanoseconds after a point. Digits beyond the ninth are passed over. -/
def fraction : Scan Nat := do
  match ← get with
  | '.' :: s =>
    set s
    let ds ← digits 9
    skip isDecimalDigit
    return decimalValue ds * Nat.pow 10 (9 - ds.length)
  | _ => return 0

/-- A number of exactly two digits. -/
def twoDigits : Scan Nat := do
  let tens ← char isDecimalDigit
  let ones ← char isDecimalDigit
  return decimalValue [tens, ones]

/-- The minutes by which the local time is ahead. -/
def signedOffset : Scan Int := do
  let sign ← char fun c => c == '+' || c == '-' || c == '\u2212'
  let hours ← twoDigits
  skip fun c => c == ':' || isSpace c
  let minutes ← twoDigits
  guard (minutes < 60)
  let offset := 60 * hours + minutes
  guard (offset < 1440)
  return if sign == '+' then offset else -(offset : Int)

def offset : Scan Int := do
  match ← get with
  | c :: s =>
    if c == 'z' || c == 'Z' then
      set s
      return 0
    else if ((c :: s).take 3).map Char.toLower == ['u', 't', 'c'] then
      set (s.drop 2)
      return 0
    else signedOffset
  | [] => failure

/-- The moment of a minute counted from the midnight of `date`, at most a day before or after it. -/
def moment (date : Date) (minute : Int) (second nanosecond : Nat) : Option Timestamp := do
  let (date, minute) ←
    if minute < 0 then date.previous?.map fun date => (date, minute + 1440)
    else if 1440 ≤ minute then date.next?.map fun date => (date, minute - 1440)
    else some (date, minute)
  if h : minute.toNat < 1440 ∧ second < 61 ∧ nanosecond < 1000000000 then
    some ⟨date, ⟨minute.toNat, h.1⟩, ⟨second, h.2.1⟩, ⟨nanosecond, h.2.2⟩⟩
  else none

def timestamp : Scan Timestamp := do
  let date ← date
  discard (char fun c => c == 't' || c == 'T' || c == ' ')
  let hour ← number
  separator ':'
  let minute ← number
  separator ':'
  let second ← number
  let nanosecond ← fraction
  skip isSpace
  let offset ← offset
  skip isSpace
  guard ((← get).isEmpty && hour < 24 && minute < 60)
  (moment date ((60 * hour + minute : Nat) - offset) second nanosecond : Option Timestamp)

end Scan

def parse? (s : String) : Option Timestamp := (Scan.timestamp.run s.toList).map Prod.fst

end Timestamp

end Flashcard
