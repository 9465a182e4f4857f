import Flashcard.Narrowing
import Flashcard.Page
import Flashcard.Substitution

/-!
# Rendering cards

A renderer holds settings, a stripper and a pipeline for each kind of design. `Renderer.card` makes
the two sides of one card. The card exists only if substitution changes its front: a front that
shows nothing of the note makes no card.
-/

namespace Flashcard

structure Renderer where
  settings : Settings
  stripper : Stripper
  standard : Pipeline
  cloze : Pipeline

namespace Renderer

/-- The renderer with the built-in steps. -/
def withBuiltIns (stripper : Stripper) (settings : Settings) : Renderer where
  settings := settings
  stripper := stripper
  standard := .builtIn
  cloze := .builtIn

def setSettings (r : Renderer) (settings : Settings) : Renderer := { r with settings := settings }

def setStripper (r : Renderer) (stripper : Stripper) : Renderer := { r with stripper := stripper }

/-- Puts a step into the pipeline of one kind of design. -/
def setStep (r : Renderer) (kind : Kind) (name : String) (step : Step) : Renderer :=
  match kind with
  | .standard => { r with standard := r.standard.set name step }
  | .cloze => { r with cloze := r.cloze.set name step }

def pipeline (r : Renderer) : Kind → Pipeline
  | .standard => r.standard
  | .cloze => r.cloze

/-- The renderer as one line for a reader of logs. -/
def describe (r : Renderer) : String :=
  "Renderer \x7b settings: " ++ r.settings.describe ++ ", standard_replacers: " ++
    quotedList r.standard.names ++ ", cloze_replacers: " ++ quotedList r.cloze.names ++ ", .. \x7d"

def substitute (r : Renderer) (kind : Kind) (side : Side) (fields : FieldValues)
    (template : String) : Except RenderError String :=
  (r.pipeline kind).substitute r.stripper r.settings side fields template

/-- The directive that shows the front on the back. -/
def frontSide : Pattern Unit := .literal (reference "FrontSide") (reference_ne_nil _)

/-- The fields and templates that a card is made of. -/
def narrow (kind : Kind) (ord : Ordinal) (fields : FieldValues) (front back : String) : Narrowed :=
  match kind with
  | .standard => ⟨fields, front, back⟩
  | .cloze => .ofCloze fields front back ord

/-- The sides of a card, if the card exists. The front is shown on the back as the back shows it,
with its answers. -/
def card (r : Renderer) (kind : Kind) (ord : Ordinal) (fields : FieldValues)
    (front back : String) : Except RenderError (Option Card) := do
  let note := narrow kind ord fields front back
  let frontText ← r.substitute kind .front note.fields note.front
  if frontText == note.front then
    return none
  let backText ← r.substitute kind .back note.fields note.back
  if frontSide.occursIn backText then
    let frontOnBack ← r.substitute kind .back note.fields note.front
    return some ⟨frontText, frontSide.replace (fun _ => frontOnBack) backText⟩
  return some ⟨frontText, backText⟩

/-- The sides of a card as pages. -/
def pages (r : Renderer) (kind : Kind) (ord : Ordinal) (fields : FieldValues)
    (front back css : String) : Except RenderError (Option Card) := do
  let card ← r.card kind ord fields front back
  return card.map fun card => ⟨page r.settings css card.front, page r.settings css card.back⟩

end Renderer

end Flashcard
