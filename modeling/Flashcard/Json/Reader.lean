import Flashcard.Json.Numeral
import Flashcard.Json.StringLiteral

/-!
# Reading JSON

`readText` reads the value at the front of a text and gives the text after it. No value has more
levels than characters, and each level takes two steps, which bounds the fuel.
-/

namespace Flashcard.Json

def isSpace (c : Char) : Bool := c == ' ' || c == '\n' || c == '\t' || c == '\r'

def skipSpace (s : List Char) : List Char := s.dropWhile isSpace

/-- Reads the rest of a keyword. -/
def readKeyword (value : Value) : List Char → List Char → Value × List Char
  | [], s => (value, s)
  | _ :: _, [] => (.brokenWord .truncated (some .truncated), [])
  | a :: rest, c :: s =>
    if a == c then readKeyword value rest s else (.brokenWord .malformed (some .malformed), s)

/-- What is wrong where `s` does not go on as it must. -/
def faultAt (s : List Char) : Fault := if s.isEmpty then .truncated else .malformed

mutual

def readValue (fuel : Nat) (s : List Char) : Value × List Char :=
  match fuel, skipSpace s with
  | 0, s => (.fault .truncated, s)
  | _, [] => (.fault .truncated, [])
  | fuel + 1, c :: s =>
    match c with
    | 'n' => readKeyword .null "ull".toList s
    | 't' => readKeyword (.bool true) "rue".toList s
    | 'f' => readKeyword (.bool false) "alse".toList s
    | '"' => readString s
    | '[' =>
      match skipSpace s with
      | [] => (.array (.cut .truncated), [])
      | ']' :: s => (.array .close, s)
      | s =>
        let (items, s) := readItems fuel s
        (.array items, s)
    | '{' =>
      match skipSpace s with
      | [] => (.object (.cut .truncated), [])
      | '}' :: s => (.object .close, s)
      | s =>
        let (members, s) := readMembers fuel s
        (.object members, s)
    | c =>
      if c == '-' || isDecimalDigit c then readNumber (c :: s) else (.fault .malformed, s)

/-- Reads an item and those after it. -/
def readItems (fuel : Nat) (s : List Char) : Items × List Char :=
  match fuel with
  | 0 => (.cut .truncated, s)
  | fuel + 1 =>
    let (value, s) := readValue fuel s
    match skipSpace s with
    | ']' :: s => (.item value .close, s)
    | ',' :: s =>
      let (rest, s) := readItems fuel s
      (.item value rest, s)
    | s => (.item value (.cut (faultAt s)), s)

/-- Reads a member and those after it. -/
def readMembers (fuel : Nat) (s : List Char) : Members × List Char :=
  match fuel with
  | 0 => (.cut .truncated, s)
  | fuel + 1 =>
    let (key, s) := readValue fuel s
    let (value, s) :=
      match skipSpace s with
      | ':' :: s => readValue fuel s
      | s => (.fault (faultAt s), s)
    match skipSpace s with
    | '}' :: s => (.member key value .close, s)
    | ',' :: s =>
      let (rest, s) := readMembers fuel s
      (.member key value rest, s)
    | s => (.member key value (.cut (faultAt s)), s)

end

/-- The value at the front of a text, and the text after it. -/
def readText (s : List Char) : Value × List Char := readValue (2 * s.length + 1) s

end Flashcard.Json
