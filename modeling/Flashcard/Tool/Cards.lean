import Flashcard.Preview
import Flashcard.Tool.Error

/-!
# The cards of a run

`renderNote` renders the cards of a note and `renderPreview` those of a design without a note.
Variants may share an id, and a card of a note takes the first variant that has its ordinal.
-/

namespace Flashcard

/-- The templates of the card `ord`. -/
def Layout.variant? (ord : Ordinal) : Layout → Option Variant
  | .standard variants => variants.find? (·.id = ord)
  | .cloze shared => some shared

namespace Tool

/-- A card with its number; a card whose front shows nothing has no sides. -/
structure RenderedCard where
  ordinal : Ordinal
  sides : Option Card
deriving DecidableEq

/-- The cards that a note has. -/
def renderNote (r : Renderer) (design : Design) (fields : FieldValues) :
    Except RunError (List RenderedCard) := do
  let ords ← (r.ordinals fields design).mapError .unrendered
  ords.mapM fun ord => do
    match design.layout.variant? ord with
    | none => throw (.noVariant ord)
    | some v =>
      let sides := r.pages design.layout.kind ord fields v.front v.back design.css
      return ⟨ord, ← sides.mapError .unrendered⟩

/-- The ordinals of `count` previewed cards. -/
def previewOrdinals (layout : Layout) (count : Nat) : Except RenderError (List Ordinal) :=
  match layout with
  | .standard variants => .ok (variants.map (·.id))
  | .cloze _ => (List.range count).mapM Ordinal.ofPosition

/-- The cards that a design can make. -/
def renderPreview (r : Renderer) (design : Design) : Except RunError (List RenderedCard) := do
  let sides ← (r.preview design).mapError .unrendered
  let ords ← (previewOrdinals design.layout sides.length).mapError .unrendered
  return ords.zipWith RenderedCard.mk sides

end Tool

end Flashcard
