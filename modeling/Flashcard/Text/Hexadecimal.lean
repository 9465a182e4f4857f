/-!
# Hexadecimal digits

Digits are written in small letters and read in either case.
-/

namespace Flashcard

def hexDigit (d : Fin 16) : Char := Nat.digitChar d

/-- The digit that is written `c` in one of the cases. -/
def hexDigit? (c : Char) : Option (Fin 16) :=
  (List.finRange 16).find? fun d => hexDigit d == c.toLower

theorem hexDigit?_hexDigit (d : Fin 16) : hexDigit? (hexDigit d) = some d := by
  revert d
  decide

end Flashcard
