import Flashcard.Text.Hexadecimal

/-!
# Unique identifiers

A `Uuid` is 32 hexadecimal digits. It is written in five groups between hyphens, in small letters.
It is read from that form, also between braces or after `urn:uuid:`, and from the digits alone,
with letters in either case.
-/

namespace Flashcard

abbrev Uuid := Vector (Fin 16) 32

namespace Uuid

/-- The digits in each group. -/
def groupSizes : List Nat := [8, 4, 4, 4, 12]

def ofDigits? (digits : List (Fin 16)) : Option Uuid :=
  if h : digits.length = 32 then some ⟨digits.toArray, by simp [h]⟩ else none

/-- Takes the hyphens between the groups out of a text. -/
def joinGroups? : List Nat → List Char → Option (List Char)
  | [], cs => if cs.isEmpty then some [] else none
  | [size], cs => if cs.length = size then some cs else none
  | size :: sizes, cs => do
    match cs.drop size with
    | '-' :: rest => return cs.take size ++ (← joinGroups? sizes rest)
    | _ => none

/-- Takes the text from between braces or after its marking. -/
def unwrap (cs : List Char) : List Char :=
  match cs with
  | '{' :: rest => if rest.getLast? = some '}' then rest.dropLast else cs
  | 'u' :: 'r' :: 'n' :: ':' :: 'u' :: 'u' :: 'i' :: 'd' :: ':' :: rest => rest
  | cs => cs

def parse? (s : String) : Option Uuid := do
  let cs := s.toList
  let digits ← if cs.length = 32 then some cs else joinGroups? groupSizes (unwrap cs)
  ofDigits? (← digits.mapM hexDigit?)

/-- Puts hyphens between the groups. -/
def splitGroups : List Nat → List Char → List Char
  | [], _ => []
  | [size], cs => cs.take size
  | size :: sizes, cs => cs.take size ++ '-' :: splitGroups sizes (cs.drop size)

def print (id : Uuid) : String :=
  String.ofList (splitGroups groupSizes (id.toList.map hexDigit))

end Uuid

end Flashcard
