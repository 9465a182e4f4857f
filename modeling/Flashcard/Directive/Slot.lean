import Flashcard.Directive.Deletion
import Flashcard.Text.Folding

/-!
# Cloze slots

A template shows a field with its deletions at a slot: the keyword, a colon and the name of the
field between double braces. `Slot.pattern` finds the slots of all fields and `Slot.patternFor`
those of one field.

The keyword may be spelt in any letter case. The name of a slot is the shortest text without a
line end, at least one character long, that closing braces follow. A slot of one field agrees with
the field's name in any letter case.
-/

namespace Flashcard

/-- The keyword of a slot, with its colon. -/
def slotKeyword : List Char := ['c', 'l', 'o', 'z', 'e', ':']

structure Slot where
  /-- The keyword and its colon, as written. -/
  spelling : String
  name : String
deriving DecidableEq, Repr

namespace Slot

def text (slot : Slot) : List Char :=
  openBraces ++ slot.spelling.toList ++ slot.name.toList ++ closeBraces

/-- The shortest non-empty text before closing braces, and the text after them. -/
def readName? : List Char → Option (List Char × List Char)
  | [] => none
  | c :: s => (splitAt? closeBraces s).map fun (name, rest) => (c :: name, rest)

/-- The slot at the front of a text, and the text after it. -/
def read? (s : List Char) : Option (Slot × List Char) := do
  let s ← after? openBraces s
  let (written, s) ← takeFolded? slotKeyword s
  let (name, rest) ← readName? s
  if name.contains '\n' then none else some (⟨String.ofList written, String.ofList name⟩, rest)

theorem readName?_eq_some {s name rest : List Char} (h : readName? s = some (name, rest)) :
    s = name ++ closeBraces ++ rest := by
  cases s with
  | nil => cases h
  | cons c s =>
    obtain ⟨⟨name', rest'⟩, hn, heq⟩ := Option.map_eq_some_iff.1 h
    cases heq
    simp [splitAt?_eq_some hn]

theorem read?_eq_some {s rest : List Char} {slot : Slot} (h : read? s = some (slot, rest)) :
    s = slot.text ++ rest := by
  simp only [read?, Option.bind_eq_bind, Option.bind_eq_some_iff] at h
  obtain ⟨s₁, h₁, ⟨written, s₂⟩, h₂, ⟨name, s₃⟩, h₃, h⟩ := h
  split at h
  · cases h
  · simp only [Option.some.injEq, Prod.mk.injEq] at h
    obtain ⟨rfl, rfl⟩ := h
    have h₃ : s₂ = name ++ closeBraces ++ s₃ := readName?_eq_some h₃
    rw [after?_eq_some_iff.1 h₁, (takeFolded?_eq_some h₂).1, h₃]
    simp [text]

/-- The pattern of the slots of all fields. -/
def pattern : Pattern Slot where
  text := text
  matchAt := read?
  matchAt_eq := read?_eq_some
  text_ne_nil _ := by simp [text, openBraces]

/-- The field names of a template's slots, each once, in the order of their first slots. -/
def fields (template : String) : List String :=
  ((pattern.findAll template).map Slot.name).eraseDups

/-- A slot of the field `name` at the front of a text, as written, and the text after it. -/
def readFor? (name : String) (s : List Char) : Option (String × List Char) := do
  let s ← after? openBraces s
  let (written, s) ← takeFolded? (slotKeyword ++ name.toList) s
  let rest ← after? closeBraces s
  some (String.ofList (openBraces ++ written ++ closeBraces), rest)

/-- The pattern of the slots of one field; a match is the slot as written. -/
def patternFor (name : String) : Pattern String where
  text := String.toList
  matchAt := readFor? name
  matchAt_eq {s a rest} h := by
    simp only [readFor?, Option.bind_eq_bind, Option.bind_eq_some_iff] at h
    obtain ⟨s₁, h₁, ⟨written, s₂⟩, h₂, s₃, h₃, h⟩ := h
    cases h
    have h₃ : s₂ = closeBraces ++ rest := after?_eq_some_iff.1 h₃
    rw [after?_eq_some_iff.1 h₁, (takeFolded?_eq_some h₂).1, h₃]
    simp
  text_ne_nil {s a rest} h := by
    simp only [readFor?, Option.bind_eq_bind, Option.bind_eq_some_iff] at h
    obtain ⟨_, _, _, _, _, _, h⟩ := h
    cases h
    simp [openBraces]

end Slot

end Flashcard
