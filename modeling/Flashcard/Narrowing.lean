import Flashcard.Directive.Slot
import Flashcard.Note

/-!
# One card of a cloze note

The card of an ordinal asks for the deletions of one index. `Narrowed.ofCloze` narrows a note to
it: a field with a slot on the front takes part only if one of its deletions has the index, the
deletions of other indices are replaced by their answers, and the slots of the fields left out
disappear from both sides.
-/

namespace Flashcard

/-- The fields and templates that one card is made of. -/
structure Narrowed where
  fields : FieldValues
  front : String
  back : String
deriving DecidableEq, Repr

namespace Narrowed

/-- Whether a field has a part in the card that asks for the index `target`. Indices are compared
as written, so `01` is not `1`. -/
def takesPart (slots : List String) (target : String) (field : String × String) : Bool :=
  (Deletion.findAll field.2).any (·.index == target) || !slots.contains field.1

/-- Replaces the deletions of other indices by their answers. -/
def reveal (target value : String) : String :=
  Deletion.pattern.replace
    (fun d => if d.index == target then String.ofList d.text else d.answer) value

/-- Removes the slots of the field `name`. -/
def removeSlots (name template : String) : String :=
  (Slot.patternFor name).replace (fun _ => "") template

/-- The note narrowed to the card `ord`. -/
def ofCloze (fields : FieldValues) (front back : String) (ord : Ordinal) : Narrowed :=
  let target := toString ord.deletionIndex
  let (kept, dropped) := fields.partition (takesPart (Slot.fields front) target)
  let clear := dropped.foldl (fun template (name, _) => removeSlots name template)
  ⟨kept.map fun (name, value) => (name, reveal target value), clear front, clear back⟩

end Narrowed

end Flashcard
