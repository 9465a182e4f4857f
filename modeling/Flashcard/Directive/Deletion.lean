import Flashcard.Text.Decimal
import Flashcard.Text.Literal

/-!
# Cloze deletions

A field value hides an answer by a deletion: an index and the answer between double braces, and
perhaps a hint. `Deletion.text` writes a deletion and `Deletion.pattern` finds the next one.

A deletion ends at the first closing braces after its index, and no line ends before them. The
first double colon inside parts the answer from the hint.
-/

namespace Flashcard

def openBraces : List Char := ['{', '{']

def closeBraces : List Char := ['}', '}']

def doubleColon : List Char := [':', ':']

structure Deletion where
  /-- Whether the letter before the index is written `C`. -/
  capital : Bool
  /-- The digits of the index, as written. -/
  index : String
  answer : String
  hint : Option String
deriving DecidableEq, Repr

namespace Deletion

def letter (capital : Bool) : Char := if capital then 'C' else 'c'

def hintText : Option String → List Char
  | none => []
  | some hint => doubleColon ++ hint.toList

/-- The deletion as it stands in a value. -/
def text (d : Deletion) : List Char :=
  openBraces ++ letter d.capital :: d.index.toList ++ doubleColon ++ d.answer.toList ++
    hintText d.hint ++ closeBraces

/-- The index as a number. -/
def number (d : Deletion) : Nat := decimalValue d.index.toList

/-- Parts what stands between the index and the closing braces into answer and hint. -/
def splitHint (body : List Char) : String × Option String :=
  match splitAt? doubleColon body with
  | some (answer, hint) => (String.ofList answer, some (String.ofList hint))
  | none => (String.ofList body, none)

theorem text_splitHint (body : List Char) :
    (splitHint body).1.toList ++ hintText (splitHint body).2 = body := by
  unfold splitHint
  split
  · next h => simp [hintText, splitAt?_eq_some h]
  · simp [hintText]

/-- The letter before the index: whether it is a capital, and the text after it. -/
def readLetter : List Char → Option (Bool × List Char)
  | 'c' :: s => some (false, s)
  | 'C' :: s => some (true, s)
  | _ => none

theorem readLetter_eq_some {s rest : List Char} {capital : Bool}
    (h : readLetter s = some (capital, rest)) : s = letter capital :: rest := by
  unfold readLetter at h
  split at h <;> cases h <;> rfl

/-- The deletion at the front of a text, and the text after it. -/
def read? (s : List Char) : Option (Deletion × List Char) := do
  let s ← after? openBraces s
  let (capital, s) ← readLetter s
  let index := s.takeWhile isDecimalDigit
  let s ← after? doubleColon (s.dropWhile isDecimalDigit)
  let (body, rest) ← splitAt? closeBraces s
  if index.isEmpty || body.contains '\n' then none
  else some (⟨capital, String.ofList index, (splitHint body).1, (splitHint body).2⟩, rest)

theorem read?_eq_some {s rest : List Char} {d : Deletion} (h : read? s = some (d, rest)) :
    s = d.text ++ rest := by
  simp only [read?, Option.bind_eq_bind, Option.bind_eq_some_iff] at h
  obtain ⟨s₁, h₁, ⟨capital, s₂⟩, h₂, s₃, h₃, ⟨body, s₄⟩, h₄, h⟩ := h
  split at h
  · cases h
  · simp only [Option.some.injEq, Prod.mk.injEq] at h
    obtain ⟨rfl, rfl⟩ := h
    calc
      s = openBraces ++ letter capital ::
          (s₂.takeWhile isDecimalDigit ++ s₂.dropWhile isDecimalDigit) := by
        rw [List.takeWhile_append_dropWhile, ← readLetter_eq_some h₂, ← after?_eq_some_iff.1 h₁]
      _ = _ := by
        have hb := congrArg (· ++ (closeBraces ++ s₄)) (text_splitHint body)
        simp only [List.append_assoc] at hb
        rw [after?_eq_some_iff.1 h₃, splitAt?_eq_some h₄]
        simp [text, hb]

/-- The pattern of deletions. -/
def pattern : Pattern Deletion where
  text := text
  matchAt := read?
  matchAt_eq := read?_eq_some
  text_ne_nil _ := by simp [text, openBraces]

/-- The deletions in a field value, in order. -/
def findAll (value : String) : List Deletion := pattern.findAll value

end Deletion

end Flashcard
