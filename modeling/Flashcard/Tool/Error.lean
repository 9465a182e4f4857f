import Flashcard.Error
import Flashcard.Json.Basic
import Flashcard.Ordinal

/-!
# Why a run of the tool fails
-/

namespace Flashcard.Tool

inductive RunError where
  | unreadable (path : String)
  /-- A file does not hold what it must. -/
  | unparsable (path : String) (fault : Json.Fault)
  | unrendered (error : RenderError)
  /-- A card that no variant of the design makes. -/
  | noVariant (ord : Ordinal)
  | uncreated (path : String)
  | unwritten (path : String)

def RunError.message : RunError → String
  | .unreadable path => "failed to read " ++ path
  | .unparsable path _ => "failed to parse " ++ path
  | .unrendered error => error.message
  | .noVariant ord => "template has no child template with id " ++ toString ord
  | .uncreated path => "failed to create " ++ path
  | .unwritten path => "failed to write " ++ path

end Flashcard.Tool
