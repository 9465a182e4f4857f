import Flashcard.Text.Pattern

/-!
# Literal texts inside a text

`after? needle s` is what follows `needle` at the front of `s`, `splitAt? needle s` parts `s` at the
first place where `needle` stands. `Pattern.literal needle` matches `needle` and nothing else, and
`Pattern.between front back` matches from `front` to the first `back` after it. The lemmas say that
the parts and the needle make up the whole.
-/

namespace Flashcard

/-- The rest of a text that starts with `needle`. -/
def after? : List Char → List Char → Option (List Char)
  | [], s => some s
  | _ :: _, [] => none
  | a :: needle, b :: s => if a = b then after? needle s else none

theorem after?_eq_some_iff {needle s rest : List Char} :
    after? needle s = some rest ↔ s = needle ++ rest := by
  fun_induction after? needle s with
  | case1 s => simp
  | case2 a needle => simp
  | case3 needle b s ih => simpa using ih
  | case4 a needle b s h =>
    simp only [reduceCtorEq, List.cons_append, List.cons.injEq, false_iff, not_and]
    exact fun hb => absurd hb.symm h

/-- Parts a text at the first `needle`, where `before` holds the characters passed, newest first. -/
def splitFrom (needle before : List Char) : List Char → Option (List Char × List Char)
  | [] => (after? needle []).map fun rest => (before.reverse, rest)
  | c :: s =>
    match after? needle (c :: s) with
    | some rest => some (before.reverse, rest)
    | none => splitFrom needle (c :: before) s

/-- The text before the first `needle` in `s` and the text after it. -/
def splitAt? (needle s : List Char) : Option (List Char × List Char) := splitFrom needle [] s

theorem splitFrom_eq_some {needle before s front rest : List Char}
    (h : splitFrom needle before s = some (front, rest)) :
    before.reverse ++ s = front ++ needle ++ rest := by
  fun_induction splitFrom needle before s with
  | case1 before =>
    obtain ⟨r, hr, heq⟩ := Option.map_eq_some_iff.1 h
    cases heq
    simp [← after?_eq_some_iff.1 hr]
  | case2 before c s r hr =>
    cases h
    simp [after?_eq_some_iff.1 hr]
  | case3 before c s hr ih => simpa using ih h

theorem splitAt?_eq_some {needle s front rest : List Char}
    (h : splitAt? needle s = some (front, rest)) : s = front ++ needle ++ rest := by
  simpa using splitFrom_eq_some h

/-- The pattern of one fixed text. -/
def Pattern.literal (needle : List Char) (ne_nil : needle ≠ []) : Pattern Unit where
  text _ := needle
  matchAt s := (after? needle s).map fun rest => ((), rest)
  matchAt_eq h := by
    obtain ⟨rest, hr, heq⟩ := Option.map_eq_some_iff.1 h
    cases heq
    exact after?_eq_some_iff.1 hr
  text_ne_nil _ := ne_nil

/-- The body at the front of a text, between `front` and the first `back`, and the text after it. -/
def readBetween? (front back s : List Char) : Option (String × List Char) := do
  let s ← after? front s
  let (body, rest) ← splitAt? back s
  some (String.ofList body, rest)

/-- The pattern of a body between two fixed texts, which runs to the first `back`. -/
def Pattern.between (front back : List Char) (ne_nil : front ≠ []) : Pattern String where
  text body := front ++ body.toList ++ back
  matchAt := readBetween? front back
  matchAt_eq {s a rest} h := by
    simp only [readBetween?, Option.bind_eq_bind, Option.bind_eq_some_iff] at h
    obtain ⟨s₁, h₁, ⟨body, s₂⟩, h₂, h⟩ := h
    cases h
    rw [after?_eq_some_iff.1 h₁, splitAt?_eq_some h₂]
    simp
  text_ne_nil _ := by simp [ne_nil]

end Flashcard
