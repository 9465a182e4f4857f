import Flashcard.Note
import Flashcard.Timestamp
import Flashcard.Uuid

/-!
# Templates

A template is a design that is kept: it has an identifier, a name and the times of its making and
of its last change.
-/

namespace Flashcard

structure Template where
  id : Uuid
  name : String
  created : Timestamp
  updated : Timestamp
  design : Design
deriving DecidableEq

end Flashcard
