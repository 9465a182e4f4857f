import Flashcard.Proofs.Text.Literal
import Flashcard.Proofs.Directive.Tag
import Mathlib.Data.List.TakeWhile

/-!
# Reading and writing deletions

`Deletion.Readable` says which deletions a scan can find: the index is a run of digits, no line
ends in what follows it, the closing braces come first at the end, and the answer ends at the first
double colon. `read?_eq_some_iff` says that the reader takes the written forms of these deletions
and nothing else.
-/

namespace Flashcard

namespace Deletion

/-- What stands between the index and the closing braces. -/
def body (d : Deletion) : List Char := d.answer.toList ++ hintText d.hint

/-- A deletion that is read back as it is written. -/
structure Readable (d : Deletion) : Prop where
  index_ne_nil : d.index.toList ≠ []
  isDecimalDigit_of_mem : ∀ c ∈ d.index.toList, isDecimalDigit c
  line : '\n' ∉ d.body
  closes : splitAt? closeBraces (d.body ++ closeBraces) = some (d.body, [])
  parts : splitHint d.body = (d.answer, d.hint)

theorem text_eq (d : Deletion) :
    d.text = openBraces ++ (letter d.capital ::
      (d.index.toList ++ (doubleColon ++ (d.body ++ closeBraces)))) := by
  simp [text, body]

theorem readLetter_letter (capital : Bool) (s : List Char) :
    readLetter (letter capital :: s) = some (capital, s) := by
  cases capital <;> rfl

theorem Readable.read?_text {d : Deletion} (h : d.Readable) (t : List Char) :
    read? (d.text ++ t) = some (d, t) := by
  have hindex : (d.index.toList ++ (doubleColon ++ (d.body ++ closeBraces ++ t))).takeWhile
      isDecimalDigit = d.index.toList := by
    rw [List.takeWhile_append_of_pos h.isDecimalDigit_of_mem]
    simp [doubleColon, isDecimalDigit]
  have hrest : (d.index.toList ++ (doubleColon ++ (d.body ++ closeBraces ++ t))).dropWhile
      isDecimalDigit = doubleColon ++ (d.body ++ closeBraces ++ t) := by
    rw [List.dropWhile_append_of_pos h.isDecimalDigit_of_mem]
    simp [doubleColon, isDecimalDigit]
  have hsplit : splitAt? closeBraces (d.body ++ closeBraces ++ t) = some (d.body, t) := by
    simpa using splitAt?_append t h.closes
  have htext : d.text ++ t = openBraces ++ (letter d.capital ::
      (d.index.toList ++ (doubleColon ++ (d.body ++ closeBraces ++ t)))) := by
    simp [text_eq]
  rw [htext, read?, after?_append]
  simp only [Option.bind_eq_bind, Option.bind_some, readLetter_letter, hindex, hrest,
    after?_append, hsplit, h.parts]
  simp [h.line, h.index_ne_nil]

theorem readable_of_read?_eq_some {s rest : List Char} {d : Deletion}
    (h : read? s = some (d, rest)) : d.Readable := by
  simp only [read?, Option.bind_eq_bind, Option.bind_eq_some_iff] at h
  obtain ⟨s₁, -, ⟨capital, s₂⟩, -, s₃, -, ⟨body, s₄⟩, h₄, h⟩ := h
  split at h
  · cases h
  · next hok =>
    simp only [Bool.or_eq_true, List.isEmpty_iff, List.contains_eq_mem, decide_eq_true_eq,
      not_or] at hok
    cases h
    have hbody : Deletion.body ⟨capital, String.ofList (s₂.takeWhile isDecimalDigit),
        (splitHint body).1, (splitHint body).2⟩ = body := text_splitHint body
    obtain ⟨hs, hfirst⟩ := splitAt?_eq_some_iff.1 h₄
    refine ⟨by simpa using hok.1, fun c hc => ?_, by rw [hbody]; exact hok.2, ?_, by rw [hbody]⟩
    · rw [String.toList_ofList] at hc
      exact List.mem_takeWhile_imp hc
    · rw [hbody]
      refine splitAt?_eq_some_iff.2 ⟨by simp, fun before behind heq => ?_⟩
      exact hfirst before (behind ++ s₄) (by rw [hs, heq]; simp)

theorem read?_eq_some_iff {s rest : List Char} {d : Deletion} :
    read? s = some (d, rest) ↔ d.Readable ∧ s = d.text ++ rest := by
  constructor
  · intro h
    exact ⟨readable_of_read?_eq_some h, read?_eq_some h⟩
  · rintro ⟨h, rfl⟩
    exact h.read?_text rest

theorem readable_of_mem_found {s : List Char} {d : Deletion} (h : d ∈ pattern.found s) :
    d.Readable := by
  obtain ⟨_, _, hmatch, -⟩ := pattern.exists_matchAt_of_mem_found h
  exact readable_of_read?_eq_some hmatch

theorem pattern_opens : pattern.Opens :=
  Pattern.opens_of_text fun d => by
    change openBraces <+: d.text
    rw [text_eq]
    exact List.prefix_append _ _

end Deletion

end Flashcard
