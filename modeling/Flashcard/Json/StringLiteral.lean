import Flashcard.Json.Basic
import Flashcard.Text.Hexadecimal

/-!
# Strings in JSON

`readString` reads a string after its opening quote. A character beyond 16 bits may be spelt as a
pair of surrogates. A surrogate without its partner spells no text: who reads the string rejects
it, and who passes over the string does not notice.
-/

namespace Flashcard.Json

/-- The number that four hexadecimal digits spell. -/
def hexNumber? (a b c d : Char) : Option Nat := do
  let digits ← [a, b, c, d].mapM hexDigit?
  return digits.foldl (fun n d => 16 * n + d.toNat) 0

/-- The character that follows a backslash in place of `c`. -/
def unescape? (c : Char) : Option Char :=
  match c with
  | '"' | '\\' | '/' => some c
  | 'b' => some '\x08'
  | 'f' => some '\x0c'
  | 'n' => some '\n'
  | 'r' => some '\r'
  | 't' => some '\t'
  | _ => none

/-- What has been read of a string. -/
structure StringDraft where
  /-- Newest first. -/
  chars : List Char := []
  /-- A first surrogate that waits for the second. -/
  lead : Option Nat := none
  /-- Whether a surrogate had no partner. -/
  unpaired : Bool := false

namespace StringDraft

def push (d : StringDraft) (c : Char) : StringDraft :=
  ⟨c :: d.chars, none, d.unpaired || d.lead.isSome⟩

/-- Adds a character that is spelt by its number. -/
def pushUnit (d : StringDraft) (n : Nat) : StringDraft :=
  if 0xD800 ≤ n ∧ n < 0xDC00 then ⟨d.chars, some n, d.unpaired || d.lead.isSome⟩
  else if 0xDC00 ≤ n ∧ n < 0xE000 then
    match d.lead with
    | some lead =>
      ⟨Char.ofNat (0x10000 + (lead - 0xD800) * 0x400 + (n - 0xDC00)) :: d.chars, none, d.unpaired⟩
    | none => { d with unpaired := true }
  else d.push (Char.ofNat n)

/-- The string, where its closing quote has been read. -/
def close (d : StringDraft) : Value :=
  if d.unpaired || d.lead.isSome then .broken .malformed none
  else .string (String.ofList d.chars.reverse)

/-- The string, where the text has ended in it. -/
def cutOff (d : StringDraft) : Value :=
  .broken (if d.unpaired then .malformed else .truncated) (some .truncated)

/-- Reads on to the closing quote. -/
def read (d : StringDraft) : List Char → Value × List Char
  | [] => (d.cutOff, [])
  | '"' :: s => (d.close, s)
  | ['\\'] => (d.cutOff, [])
  | '\\' :: 'u' :: a :: b :: c :: e :: s =>
    match hexNumber? a b c e with
    | some n => (d.pushUnit n).read s
    | none => (.fault .malformed, s)
  | '\\' :: 'u' :: s =>
    if utf8Size s < 4 then (d.cutOff, []) else (.fault .malformed, s)
  | '\\' :: c :: s =>
    match unescape? c with
    | some c => (d.push c).read s
    | none => (.fault .malformed, s)
  | c :: s => if c < ' ' then (.fault .malformed, s) else (d.push c).read s
where
  utf8Size (s : List Char) : Nat := s.foldl (fun size c => size + c.utf8Size) 0

end StringDraft

/-- Reads a string after its opening quote. -/
def readString (s : List Char) : Value × List Char := StringDraft.read {} s

end Flashcard.Json
