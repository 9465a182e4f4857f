import Flashcard.Enumeration

/-!
# Previews of a design

A design is previewed without a note: every field shows its own name in parentheses. A cloze design
has one preview for each field with a slot on its front, where the field holds a deletion
of its own name.
-/

namespace Flashcard

def sampleValue (name : String) : String := "(" ++ name ++ ")"

/-- Every field with its name in parentheses. -/
def sampleValues (fields : List String) : FieldValues :=
  fields.map fun name => (name, sampleValue name)

/-- A sentence with a deletion of the field's own name, for the card `ord`. -/
def clozeSample (name : String) (ord : Ordinal) : String :=
  "This is a cloze deletion for " ++
    String.ofList (Deletion.text ⟨false, toString ord.deletionIndex, name, none⟩) ++ "."

/-- Like `sampleValues`, with a deletion in the field `clozeField`. -/
def clozeSampleValues (fields : List String) (clozeField : String) (ord : Ordinal) : FieldValues :=
  fields.map fun name =>
    (name, if name = clozeField then clozeSample name ord else sampleValue name)

/-- The pages of every card that a design can make. -/
def Renderer.preview (r : Renderer) (design : Design) : Except RenderError (List (Option Card)) :=
  match design.layout with
  | .standard variants =>
    variants.mapM fun v =>
      r.pages .standard v.id (sampleValues design.fields) v.front v.back design.css
  | .cloze shared =>
    (Slot.fields shared.front).zipIdx.mapM fun (name, position) => do
      let ord ← Ordinal.ofPosition position
      let fields := clozeSampleValues design.fields name ord
      r.pages .cloze ord fields shared.front shared.back design.css

end Flashcard
