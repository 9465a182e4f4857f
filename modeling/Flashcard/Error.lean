/-!
# What can stop a rendering

A card whose front shows nothing is no error. The built-in substitution steps never fail, so each
of these is raised by a caller's own step or by a template with more cards than ordinals.
-/

namespace Flashcard

inductive RenderError where
  /-- A directive matched without one of its parts. -/
  | malformedDirective (pattern part : String)
  /-- A pattern that cannot be read. -/
  | invalidPattern (reason : String)
  /-- A card position that no ordinal numbers. -/
  | ordinalOutOfRange (position : Nat)
deriving DecidableEq, Repr

def RenderError.message : RenderError → String
  | .malformedDirective pattern part =>
    s!"directive pattern `{pattern}` matched without capture group `{part}`"
  | .invalidPattern reason => s!"invalid directive pattern: {reason}"
  | .ordinalOutOfRange position => s!"card position {position} does not fit in an ordinal"

end Flashcard
