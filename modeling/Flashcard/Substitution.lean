import Flashcard.Directive.Section
import Flashcard.Directive.Slot
import Flashcard.Error
import Flashcard.Note
import Flashcard.Settings

/-!
# Substitution of fields

A step replaces one directive of one field in a template. A pipeline is a list of named steps, and
`Pipeline.substitute` runs all of it for one field after another, each step on the text that the
step before it left.

The built-in steps put in a field's value, decide its sections, put in the value without markup,
and fill its cloze slots. Callers may add steps or put their own in the place of one of these.
-/

namespace Flashcard

/-- Takes the markup out of a field value. -/
abbrev Stripper := String → String

inductive Side where
  | front
  | back
deriving DecidableEq, Repr

/-- What a step is told about the field it puts in. -/
structure FieldView where
  name : String
  value : String
  side : Side
  stripper : Stripper
  settings : Settings

/-- Changes a template for one field; text without the step's directive stays as it is. -/
abbrev Step := FieldView → String → Except RenderError String

/-- The directive that shows a field's value. -/
def reference (name : String) : List Char := openBraces ++ name.toList ++ closeBraces

/-- The directive that shows a field's value without markup. -/
def textReference (name : String) : List Char := reference ("text:" ++ name)

theorem reference_ne_nil (name : String) : reference name ≠ [] := by simp [reference, openBraces]

/-- The mark-up of a deletion on the front. -/
def frontBrackets (filler : String) : String :=
  "\n<span class=\"cloze-brackets-front\">[</span>\n<span class=\"cloze-filler-front\">" ++
    filler ++ "</span>\n<span class=\"cloze-brackets-front\">]</span>\n"

/-- The mark-up of a deletion on the back. -/
def backBrackets (answer : String) : String :=
  "\n<span class=\"cloze-brackets-back\">[</span>\n" ++ answer ++
    "\n<span class=\"cloze-brackets-back\">]</span>\n"

namespace FieldView

/-- What a deletion becomes: its hint or the filler on the front, its answer on the back. -/
def showDeletion (field : FieldView) (d : Deletion) : String :=
  match field.side with
  | .front => frontBrackets (d.hint.getD field.settings.clozeFiller)
  | .back => backBrackets d.answer

/-- The field's value with every deletion in brackets. -/
def clozeMarkup (field : FieldView) : String :=
  Deletion.pattern.replace field.showDeletion field.value

end FieldView

namespace Step

/-- A step that never fails. -/
def total (change : FieldView → String → String) : Step := fun field template =>
  .ok (change field template)

def value : Step := total fun field =>
  (Pattern.literal (reference field.name) (reference_ne_nil _)).replace fun _ => field.value

def conditional (kind : Section) : Step := total fun field =>
  (kind.patternFor field.name).replace fun body => if kind.shows field.value then body else ""

def strippedValue : Step := total fun field =>
  (Pattern.literal (textReference field.name) (reference_ne_nil _)).replace fun _ =>
    field.stripper field.value

def slots : Step := total fun field =>
  (Slot.patternFor field.name).replace fun _ => field.clozeMarkup

end Step

/-- Named steps, in the order they run. -/
structure Pipeline where
  steps : List (String × Step)

namespace Pipeline

/-- The pipeline without steps, which leaves every template as it is. -/
def empty : Pipeline := ⟨[]⟩

def setStep (name : String) (step : Step) : List (String × Step) → List (String × Step)
  | [] => [(name, step)]
  | (n, s) :: steps => if n = name then (n, step) :: steps else (n, s) :: setStep name step steps

/-- Puts `step` in the place of the step of that name, or at the end if there is none. -/
def set (p : Pipeline) (name : String) (step : Step) : Pipeline := ⟨setStep name step p.steps⟩

def builtIn : Pipeline where
  steps :=
    [("field", Step.value),
     ("show_if_present", Step.conditional .present),
     ("show_if_blank", Step.conditional .blank),
     ("text", Step.strippedValue),
     ("cloze", Step.slots)]

instance : Inhabited Pipeline := ⟨builtIn⟩

def names (p : Pipeline) : List String := p.steps.map Prod.fst

/-- Runs every step for one field. -/
def run (p : Pipeline) (field : FieldView) (template : String) : Except RenderError String :=
  p.steps.foldlM (fun template (_, step) => step field template) template

/-- Runs every step for one field after another. -/
def substitute (p : Pipeline) (stripper : Stripper) (settings : Settings) (side : Side)
    (fields : FieldValues) (template : String) : Except RenderError String :=
  let runOn (template : String) (field : String × String) :=
    p.run ⟨field.1, field.2, side, stripper, settings⟩ template
  fields.foldlM runOn template

end Pipeline

end Flashcard
