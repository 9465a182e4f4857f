import Flashcard.Html.Document
import Flashcard.Substitution

/-!
# Taking markup out of a text

`visibleText` is what a text shows when it is read as an HTML document. A text without markup
shows itself, white space and all.
-/

namespace Flashcard

/-- Whether a text may hold tags or character references. -/
def mayHoldMarkup (s : String) : Bool := s.toList.any fun c => c == '<' || c == '&'

/-- What a text shows. -/
def visibleText : Stripper := fun s =>
  if mayHoldMarkup s then String.ofList (Html.documentText s.toList) else s

end Flashcard
