import Flashcard.Html.NamedReferenceTable
import Flashcard.Html.Token
import Flashcard.Text.Hexadecimal

/-!
# Character references

A character reference stands for one or two characters, by name or by number. `Reference` is
what has been read of one, and `Reference.step` reads on by one character. A text that turns out to
be no reference stands for itself.

A name may lack its semicolon if it is one of the unclosed names, and then the longest such name
counts. In an attribute value such a name is no reference when a letter, a digit or an
equals sign follows.
-/

namespace Flashcard.Html

/-- What has been read of a character reference. -/
inductive Reference where
  /-- The ampersand. -/
  | start
  /-- The ampersand and the number sign. -/
  | number
  /-- The sign of a hexadecimal number too, as written. -/
  | hexadecimalSign (sign : Char)
  | decimal (value : Nat)
  | hexadecimal (value : Nat)
  /-- Letters, digits and perhaps a semicolon, and the length and the characters of the longest name
  that they begin with. -/
  | name (read : List Char) (found : Option (Nat × List Char))
deriving DecidableEq, Repr

namespace Reference

/-- The numbers from 0x80 to 0x9F that stand for other characters. -/
def renumbered : List (Nat × Nat) :=
  [(0x80, 0x20AC), (0x82, 0x201A), (0x83, 0x0192), (0x84, 0x201E), (0x85, 0x2026), (0x86, 0x2020),
   (0x87, 0x2021), (0x88, 0x02C6), (0x89, 0x2030), (0x8A, 0x0160), (0x8B, 0x2039), (0x8C, 0x0152),
   (0x8E, 0x017D), (0x91, 0x2018), (0x92, 0x2019), (0x93, 0x201C), (0x94, 0x201D), (0x95, 0x2022),
   (0x96, 0x2013), (0x97, 0x2014), (0x98, 0x02DC), (0x99, 0x2122), (0x9A, 0x0161), (0x9B, 0x203A),
   (0x9C, 0x0153), (0x9E, 0x017E), (0x9F, 0x0178)]

/-- The character that a number refers to. -/
def ofNumber (n : Nat) : Char :=
  match renumbered.lookup n with
  | some m => Char.ofNat m
  | none => if n != 0 && n.isValidChar then Char.ofNat n else replacement

/-- Whether a name, with its semicolon, begins with `read`. -/
def isNameStart (read : List Char) : Bool :=
  namedReferences.any fun r => read.isPrefixOf (r.name.toList ++ [';'])

/-- The characters that `read` names, with or without its semicolon. -/
def named? (read : List Char) : Option (List Char) :=
  (namedReferences.find? fun r =>
    read == r.name.toList ++ [';'] || (unclosedNames.contains r.name && read == r.name.toList)).map
    fun r => r.codes.map Char.ofNat

/-- How a reference goes on. -/
inductive Progress where
  | more (r : Reference)
  /-- It is over: the characters it stands for, whether its semicolon is missing, and whether the
  last character read belongs to it. -/
  | over (chars : List Char) (unclosed consumed : Bool)

/-- Whether the longest name that `read` begins with has its semicolon. -/
def isClosed (read : List Char) (found : Option (Nat × List Char)) : Bool :=
  found.any fun (length, _) => (read.take length).getLast? == some ';'

/-- The characters of a name that goes no further, before the character `next`. -/
def resolveName (inAttribute : Bool) (read : List Char) (found : Option (Nat × List Char))
    (next : Option Char) : List Char :=
  match found with
  | none => '&' :: read
  | some (length, chars) =>
    let goesOn := ((read.drop length).head?.or next).any fun c => c == '=' || c.isAlphanum
    if inAttribute && goesOn && !isClosed read found then '&' :: read
    else chars ++ read.drop length

/-- Reads on in a name. Where no name has been found, letters and digits still go with what has
been read. -/
def stepName (inAttribute : Bool) (read : List Char) (found : Option (Nat × List Char))
    (c : Char) : Progress :=
  let longer := read ++ [c]
  if isNameStart longer then
    match named? longer with
    | some chars => .more (.name longer (some (longer.length, chars)))
    | none => .more (.name longer found)
  else if found.isNone && c.isAlphanum then .more (.name longer none)
  else .over (resolveName inAttribute read found (some c)) (!isClosed read found) false

/-- Reads on by one character. -/
def step (inAttribute : Bool) (r : Reference) (c : Char) : Progress :=
  match r with
  | start =>
    if c == '#' then .more .number
    else if c.isAlphanum then stepName inAttribute [] none c
    else .over ['&'] false false
  | number =>
    if c == 'x' || c == 'X' then .more (.hexadecimalSign c)
    else if c.isDigit then .more (.decimal (c.toNat - '0'.toNat))
    else .over ['&', '#'] true false
  | hexadecimalSign sign =>
    match hexDigit? c with
    | some d => .more (.hexadecimal d.val)
    | none => .over ['&', '#', sign] true false
  | decimal n =>
    if c.isDigit then .more (.decimal (10 * n + (c.toNat - '0'.toNat)))
    else .over [ofNumber n] (c != ';') (c == ';')
  | hexadecimal n =>
    match hexDigit? c with
    | some d => .more (.hexadecimal (16 * n + d.val))
    | none => .over [ofNumber n] (c != ';') (c == ';')
  | name read found => stepName inAttribute read found c

/-- Whether the reference has its semicolon. -/
def isComplete : Reference → Bool
  | name read found => isClosed read found
  | _ => false

/-- The characters of a reference that the document's end cuts off. -/
def finish : Reference → List Char
  | start => ['&']
  | number => ['&', '#']
  | hexadecimalSign sign => ['&', '#', sign]
  | decimal n => [ofNumber n]
  | hexadecimal n => [ofNumber n]
  | name read found => resolveName false read found none

end Reference

end Flashcard.Html
