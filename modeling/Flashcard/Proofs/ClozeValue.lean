import Flashcard.Narrowing
import Flashcard.Proofs.Directive.Deletion
import Flashcard.Substitution

/-!
# Values of cloze fields

A well-written value of a cloze field is a list of literals and deletions. A scan for deletions
finds exactly those of the list (`found_write`), and whatever it puts in place of them stands
between the literals (`rewrite_write`). So the value narrowed to one index is the list with the
other deletions replaced by their answers (`reveal_write`).
-/

namespace Flashcard

/-- A deletion whose text cannot be read in another way. -/
structure Deletion.WellFormed (d : Deletion) : Prop where
  index_ne_nil : d.index.toList ≠ []
  isDecimalDigit_of_mem : ∀ c ∈ d.index.toList, isDecimalDigit c
  answer_braceFree : BraceFree d.answer.toList
  answer_line : '\n' ∉ d.answer.toList
  answer_parts : ¬ doubleColon <:+: d.answer.toList
  hint_braceFree : ∀ hint, d.hint = some hint → BraceFree hint.toList
  hint_line : ∀ hint, d.hint = some hint → '\n' ∉ hint.toList
  answer_end : d.hint ≠ none → ¬ [':'] <:+ d.answer.toList

namespace Deletion

theorem WellFormed.splitHint_body {d : Deletion} (h : d.WellFormed) :
    splitHint d.body = (d.answer, d.hint) := by
  cases hhint : d.hint with
  | none =>
    have hnone := splitAt?_eq_none_iff.2 h.answer_parts
    simp [body, hhint, hintText, splitHint, hnone]
  | some hint =>
    have hsome : splitAt? doubleColon (d.answer.toList ++ doubleColon ++ hint.toList) = _ :=
      splitAt?_doubled_iff.2 ⟨h.answer_parts, h.answer_end (by simp [hhint])⟩
    rw [List.append_assoc] at hsome
    simp [body, hhint, hintText, splitHint, hsome]

theorem WellFormed.readable {d : Deletion} (h : d.WellFormed) : d.Readable where
  index_ne_nil := h.index_ne_nil
  isDecimalDigit_of_mem := h.isDecimalDigit_of_mem
  line := by
    cases hhint : d.hint with
    | none => simpa [body, hhint, hintText] using h.answer_line
    | some hint => simp [body, hhint, hintText, doubleColon, h.answer_line, h.hint_line hint hhint]
  closes := by
    have hbody : '}' ∉ d.body := by
      cases hhint : d.hint with
      | none => simpa [body, hhint, hintText] using h.answer_braceFree.2
      | some hint =>
        simp [body, hhint, hintText, doubleColon, h.answer_braceFree.2,
          (h.hint_braceFree hint hhint).2]
    exact splitAt?_of_notMem hbody ['}'] []
  parts := h.splitHint_body

end Deletion

/-- A part of a field value. -/
inductive ValuePart where
  | literal (s : String)
  | deletion (d : Deletion)
deriving DecidableEq, Repr

namespace ValuePart

/-- The part with `f d` for a deletion `d`. -/
def fill (f : Deletion → List Char) : ValuePart → List Char
  | literal s => s.toList
  | deletion d => f d

def WellFormed : ValuePart → Prop
  | literal s => BraceFree s.toList
  | deletion d => d.WellFormed

/-- The value that its parts make up. -/
def write (parts : List ValuePart) : String := String.ofList (parts.flatMap (fill Deletion.text))

def deletion? : ValuePart → Option Deletion
  | literal _ => none
  | deletion d => some d

/-- The part with the answer in place of a deletion of another index. -/
def reveal (target : String) : ValuePart → ValuePart
  | literal s => literal s
  | deletion d => if d.index == target then deletion d else literal d.answer

variable {parts : List ValuePart}

theorem rewrite_write (h : ∀ part ∈ parts, part.WellFormed) (f : Deletion → List Char) :
    Deletion.pattern.rewrite f (write parts).toList = parts.flatMap (fill f) := by
  rw [write, String.toList_ofList]
  induction parts with
  | nil => simp
  | cons part parts ih =>
    obtain ⟨hpart, hparts⟩ := List.forall_mem_cons.1 h
    rw [List.flatMap_cons, List.flatMap_cons, ← ih hparts]
    cases part with
    | literal s => exact Pattern.rewrite_append_of_notMem Deletion.pattern_opens f hpart.1 _
    | deletion d => exact Pattern.rewrite_hit _ f (hpart.readable.read?_text _)

theorem found_write (h : ∀ part ∈ parts, part.WellFormed) :
    Deletion.findAll (write parts) = parts.filterMap deletion? := by
  rw [Deletion.findAll, Pattern.findAll_eq, write, String.toList_ofList]
  induction parts with
  | nil => simp
  | cons part parts ih =>
    obtain ⟨hpart, hparts⟩ := List.forall_mem_cons.1 h
    rw [List.flatMap_cons]
    cases part with
    | literal s =>
      have hfound := Pattern.found_append_of_notMem Deletion.pattern_opens hpart.1
        (parts.flatMap (fill Deletion.text))
      rw [ih hparts] at hfound
      exact hfound
    | deletion d =>
      have hfound := Deletion.pattern.found_hit (hpart.readable.read?_text
        (parts.flatMap (fill Deletion.text)))
      rw [ih hparts] at hfound
      exact hfound

theorem WellFormed.reveal {part : ValuePart} (h : part.WellFormed) (target : String) :
    (part.reveal target).WellFormed := by
  cases part with
  | literal s => exact h
  | deletion d =>
    rw [ValuePart.reveal]
    split
    · exact h
    · exact h.answer_braceFree

theorem reveal_write (h : ∀ part ∈ parts, part.WellFormed) (target : String) :
    Narrowed.reveal target (write parts) = write (parts.map (reveal target)) := by
  rw [Narrowed.reveal, Pattern.replace_eq, rewrite_write h, write, List.flatMap_map]
  congr 2
  funext part
  cases part with
  | literal s => rfl
  | deletion d =>
    by_cases hd : d.index == target <;> simp [fill, reveal, hd]

end ValuePart

end Flashcard
