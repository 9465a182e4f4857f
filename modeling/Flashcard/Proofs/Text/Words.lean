import Flashcard.Text.Blank
import Flashcard.Text.Decimal

/-!
# Words

The words of a text are the pieces between its white space that are not empty (`wordsFrom_nil`).
White space around a text does not change its words, and joined words hold no white space but the
single spaces between them (`eq_space_of_mem_joinedWords`).
-/

namespace Flashcard

/-- The pieces of a text between white space, without the empty ones. -/
def words (s : List Char) : List (List Char) := (s.splitOnP isSpace).filter (· ≠ [])

theorem wordsFrom_eq (word s : List Char) :
    wordsFrom word s = (s.splitOnPPrepend isSpace word).filter (· ≠ []) := by
  induction s generalizing word with
  | nil => cases word <;> simp [wordsFrom, wordsFrom.close]
  | cons c s ih =>
    rw [wordsFrom, ih, ih]
    by_cases hc : isSpace c = true
    · rw [if_pos hc, List.splitOnPPrepend_cons_pos hc]
      cases word <;> simp [wordsFrom.close]
    · rw [if_neg hc, List.splitOnPPrepend_cons_neg (by simpa using hc)]

theorem wordsFrom_nil (s : List Char) : wordsFrom [] s = words s := wordsFrom_eq [] s

theorem words_append_cons (s : List Char) {c : Char} (hc : isSpace c = true) (t : List Char) :
    words (s ++ c :: t) = words s ++ words t := by
  rw [words, List.splitOnP_append_cons s t hc, List.filter_append]
  rfl

theorem words_cons {c : Char} (hc : isSpace c = true) (s : List Char) : words (c :: s) = words s :=
  words_append_cons [] hc s

/-- White space in front of a text does not change its words. -/
theorem words_append_of_forall {x : List Char} (hx : ∀ c ∈ x, isSpace c = true) (s : List Char) :
    words (x ++ s) = words s := by
  induction x with
  | nil => rfl
  | cons c x ih =>
    rw [List.cons_append, words_cons (hx c List.mem_cons_self),
      ih fun d hd => hx d (List.mem_cons_of_mem c hd)]

/-- White space behind a text does not change its words. -/
theorem words_append_eq_self (s : List Char) {x : List Char} (hx : ∀ c ∈ x, isSpace c = true) :
    words (s ++ x) = words s := by
  cases x with
  | nil => rw [List.append_nil]
  | cons c x =>
    have hrest : words x = [] := by
      rw [← List.append_nil x, words_append_of_forall fun d hd => hx d (List.mem_cons_of_mem c hd)]
      rfl
    rw [words_append_cons s (hx c List.mem_cons_self), hrest, List.append_nil]

/-- No word holds white space. -/
theorem not_isSpace_of_mem_wordsFrom {word s w : List Char} (hword : ∀ c ∈ word, ¬ isSpace c)
    (hw : w ∈ wordsFrom word s) : ∀ c ∈ w, ¬ isSpace c := by
  have hclose {word : List Char} (hword : ∀ c ∈ word, ¬ isSpace c) (hw : w ∈ wordsFrom.close word) :
      ∀ c ∈ w, ¬ isSpace c := by
    rw [wordsFrom.close] at hw
    split at hw
    · simp at hw
    · obtain rfl := List.mem_singleton.1 hw
      simpa using hword
  induction s generalizing word with
  | nil => exact hclose hword hw
  | cons c s ih =>
    rw [wordsFrom] at hw
    split at hw
    · rcases List.mem_append.1 hw with hw | hw
      · exact hclose hword hw
      · exact ih (by simp) hw
    · next hc => exact ih (List.forall_mem_cons.2 ⟨hc, hword⟩) hw

/-- The words of a text, joined by single spaces. -/
def joinedWords (s : String) : String := " ".intercalate ((words s.toList).map String.ofList)

theorem collapseSpace_eq (s : String) : collapseSpace s = joinedWords s := by
  rw [collapseSpace, wordsFrom_nil, joinedWords]

theorem mem_intercalate (sep : Char) {c : Char} {ws : List (List Char)}
    (hc : c ∈ [sep].intercalate ws) : c = sep ∨ ∃ w ∈ ws, c ∈ w := by
  induction ws with
  | nil => simp at hc
  | cons w ws ih =>
    cases ws with
    | nil => exact .inr ⟨w, List.mem_cons_self, by simpa using hc⟩
    | cons w' ws =>
      rw [List.intercalate_cons_cons, List.mem_append, List.mem_append, List.mem_singleton] at hc
      rcases hc with (hc | hc) | hc
      · exact .inr ⟨w, List.mem_cons_self, hc⟩
      · exact .inl hc
      · exact (ih hc).imp_right fun ⟨v, hv, hcv⟩ => ⟨v, List.mem_cons_of_mem w hv, hcv⟩

/-- The only white space of joined words are the spaces between them. -/
theorem eq_space_of_mem_joinedWords {s : String} {c : Char} (hc : c ∈ (joinedWords s).toList)
    (hspace : isSpace c = true) : c = ' ' := by
  rw [joinedWords, String.toList_intercalate] at hc
  rcases mem_intercalate ' ' hc with rfl | ⟨w, hw, hcw⟩
  · rfl
  · simp only [List.map_map, List.mem_map, Function.comp_apply, String.toList_ofList] at hw
    obtain ⟨v, hv, rfl⟩ := hw
    rw [← wordsFrom_nil] at hv
    exact absurd hspace (not_isSpace_of_mem_wordsFrom (by simp) hv c hcw)

theorem not_isSpace_of_isDecimalDigit {c : Char} (h : isDecimalDigit c) : ¬ isSpace c := by
  simp only [isDecimalDigit, Bool.and_eq_true, decide_eq_true_eq, Char.le_def] at h
  have hlow : 48 ≤ c.toNat := h.1
  have hhigh : c.toNat ≤ 57 := h.2
  simp [isSpace, spaceRuns]
  omega

end Flashcard
