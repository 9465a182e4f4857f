import Flashcard.Directive.Deletion
import Flashcard.Text.Blank

/-!
# Conditional sections

A section of a field keeps its body or drops it according to the field's value. It runs from its
opening tag to the first closing tag of the same field, over line ends and other tags alike, and
names count letter for letter.
-/

namespace Flashcard

/-- When a section shows its body. -/
inductive Section where
  /-- When the value shows something. -/
  | present
  /-- When the value is blank. -/
  | blank
deriving DecidableEq, Repr

namespace Section

/-- The sign in the opening tag. -/
def sign : Section → Char
  | present => '#'
  | blank => '^'

def shows : Section → String → Bool
  | present, value => !isBlank value
  | blank, value => isBlank value

def openTag (kind : Section) (name : String) : List Char :=
  openBraces ++ kind.sign :: name.toList ++ closeBraces

def closeTag (name : String) : List Char := openBraces ++ '/' :: name.toList ++ closeBraces

/-- The pattern of one field's sections of one kind; a match is the body. -/
def patternFor (kind : Section) (name : String) : Pattern String :=
  .between (kind.openTag name) (closeTag name) (by simp [openTag, openBraces])

end Section

end Flashcard
