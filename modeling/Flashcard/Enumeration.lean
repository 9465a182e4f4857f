import Flashcard.Renderer

/-!
# The cards of a note

`Renderer.ordinals` lists the cards that a note has. A standard design has the variants whose front
renders, in the order of the design. A cloze design has the indices among the deletions of the
fields with a slot on the front, in ascending order.
-/

namespace Flashcard

/-- The ordinal of the card that asks for a deletion. Index zero and indices beyond the ordinals
have none. -/
def Deletion.ordinal? (d : Deletion) : Option Ordinal :=
  if h : 0 < d.number ∧ d.number < Ordinal.bound then some ⟨d.number - 1, by omega⟩ else none

/-- Puts an ordinal into an ascending list, unless it is there. -/
def insertOrdinal (ord : Ordinal) : List Ordinal → List Ordinal
  | [] => [ord]
  | o :: ords =>
    if ord.toNat < o.toNat then ord :: o :: ords
    else if ord = o then o :: ords
    else o :: insertOrdinal ord ords

/-- The ordinals of a cloze note's cards, ascending. -/
def clozeOrdinals (fields : FieldValues) (front : String) : List Ordinal :=
  let slots := Slot.fields front
  let deletions := (fields.filter (slots.contains ·.1)).flatMap (Deletion.findAll ·.2)
  (deletions.filterMap Deletion.ordinal?).foldl (fun ords ord => insertOrdinal ord ords) []

/-- The ordinals of the cards that a note has. Whether a front renders does not wait for its markup
to be taken out, so the markup stays. -/
def Renderer.ordinals (r : Renderer) (fields : FieldValues) (design : Design) :
    Except RenderError (List Ordinal) :=
  match design.layout with
  | .standard variants => do
    let r := r.setStripper id
    let cards ← variants.mapM fun v => do
      return (v.id, (← r.card .standard v.id fields v.front v.back).isSome)
    return (cards.filter Prod.snd).map Prod.fst
  | .cloze shared => return clozeOrdinals fields shared.front

end Flashcard
