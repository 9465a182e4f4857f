import Flashcard.Text.Folding
import Mathlib.Data.List.Forall2

/-!
# Texts up to letter case

`foldText` folds a text, and two texts are one up to letter case when they fold to the same text.
`takeFolded?_eq_some_iff` says what the matcher for such texts takes.

Punctuation has no letter case. `eq_of_foldCase_eq` says so for each character that no run of the
table folds to, braces among them. A letter that only its capital folds to has two forms
(`eq_or_eq_toUpper_of_foldCase_eq`).
-/

namespace Flashcard

def foldText (s : List Char) : List Char := s.map foldCase

@[simp] theorem foldText_nil : foldText [] = [] := rfl

@[simp] theorem foldText_cons (c : Char) (s : List Char) :
    foldText (c :: s) = foldCase c :: foldText s := rfl

@[simp] theorem foldText_append (s t : List Char) :
    foldText (s ++ t) = foldText s ++ foldText t := List.map_append

/-- Two texts fold to the same one if they agree character by character. -/
theorem foldText_eq_iff {s t : List Char} :
    foldText s = foldText t ↔ List.Forall₂ (fun c d => foldCase c = foldCase d) s t := by
  rw [foldText, foldText, ← List.forall₂_eq_eq_eq, List.forall₂_map_left_iff,
    List.forall₂_map_right_iff]

theorem sameLetter_iff {a b : Char} : sameLetter a b ↔ foldCase a = foldCase b := by
  simp only [sameLetter, Bool.or_eq_true, beq_iff_eq, or_iff_right_iff_imp]
  exact congrArg foldCase

theorem takeFolded?_eq_some_iff {needle s t rest : List Char} :
    takeFolded? needle s = some (t, rest) ↔ s = t ++ rest ∧ foldText t = foldText needle := by
  fun_induction takeFolded? needle s generalizing t with
  | case1 s =>
    simp only [Option.some.injEq, Prod.mk.injEq, foldText_nil]
    constructor
    · rintro ⟨rfl, rfl⟩
      exact ⟨rfl, rfl⟩
    · rintro ⟨rfl, h⟩
      have ht : t = [] := List.map_eq_nil_iff.1 h
      simp [ht]
  | case2 a needle =>
    simp only [reduceCtorEq, false_iff, not_and]
    rintro h ht
    obtain ⟨rfl, -⟩ := List.append_eq_nil_iff.1 h.symm
    simp at ht
  | case3 a needle b s hab ih =>
    rw [sameLetter_iff] at hab
    constructor
    · intro h
      obtain ⟨⟨t', r⟩, ht, heq⟩ := Option.map_eq_some_iff.1 h
      cases heq
      obtain ⟨rfl, hfold⟩ := ih.1 ht
      simp [hfold, hab]
    · rintro ⟨hs, hfold⟩
      cases t with
      | nil => simp at hfold
      | cons d t' =>
        simp only [List.cons_append, List.cons.injEq, foldText_cons] at hs hfold
        obtain ⟨rfl, rfl⟩ := hs
        rw [ih.2 ⟨rfl, hfold.2⟩]
        rfl
  | case4 a needle b s hab =>
    simp only [reduceCtorEq, false_iff, not_and]
    rw [sameLetter_iff] at hab
    rintro hs hfold
    cases t with
    | nil => simp at hfold
    | cons d t' =>
      simp only [List.cons_append, List.cons.injEq, foldText_cons] at hs hfold
      exact hab (hs.1 ▸ hfold.1.symm)

/-- What folds to a character is the character or stands in a run that leads there. -/
theorem eq_or_exists_run_of_foldCase_eq {c d : Char} (hzero : d ≠ '\x00') (h : foldCase c = d) :
    c = d ∨ ∃ r ∈ foldingRuns, r.first ≤ c.toNat ∧ c.toNat ≤ r.last ∧
      c.toNat - r.first + r.target = d.toNat := by
  rw [foldCase] at h
  split at h
  · next r hr =>
    have hcovers : r.covers c.toNat := by simpa using List.find?_some hr
    simp only [FoldingRun.covers, Bool.and_eq_true, decide_eq_true_eq] at hcovers
    refine Or.inr ⟨r, List.mem_of_find?_eq_some hr, hcovers.1.1, hcovers.1.2, ?_⟩
    rw [Char.ofNat] at h
    by_cases hvalid : (c.toNat - r.first + r.target).isValidChar
    · rw [dif_pos hvalid] at h
      exact congrArg Char.toNat h
    · rw [dif_neg hvalid] at h
      exact absurd h.symm hzero
  · exact Or.inl h

/-- Whether some run folds a character to the one numbered `n`. -/
def isFoldingTarget (n : Nat) : Bool :=
  foldingRuns.any fun r => r.target ≤ n && n ≤ r.target + (r.last - r.first)

/-- A character that nothing folds to agrees with itself alone. -/
theorem eq_of_foldCase_eq {c d : Char} (hd : isFoldingTarget d.toNat = false)
    (hself : foldCase d = d) (hzero : d ≠ '\x00') (h : foldCase c = foldCase d) : c = d := by
  refine (eq_or_exists_run_of_foldCase_eq hzero (h.trans hself)).resolve_right ?_
  rintro ⟨r, hmem, hfirst, hlast, htarget⟩
  have hout := List.any_eq_false.1 hd r hmem
  simp only [Bool.and_eq_true, decide_eq_true_eq, not_and, Nat.not_le] at hout
  have := hout (by omega)
  omega

/-- Whether the runs fold nothing to `d` but its capital. -/
def foldsFromCapital (d : Char) : Bool :=
  foldingRuns.all fun r => r.target + (r.last - r.first) < d.toNat || d.toNat < r.target ||
    r.first + (d.toNat - r.target) == d.toUpper.toNat

/-- A character that only its capital folds to has these two forms. -/
theorem eq_or_eq_toUpper_of_foldCase_eq {c d : Char} (hd : foldsFromCapital d = true)
    (hself : foldCase d = d) (hzero : d ≠ '\x00') (h : foldCase c = foldCase d) :
    c = d ∨ c = d.toUpper := by
  refine (eq_or_exists_run_of_foldCase_eq hzero (h.trans hself)).imp_right ?_
  rintro ⟨r, hmem, hfirst, hlast, htarget⟩
  have hrun := List.all_eq_true.1 hd r hmem
  simp only [Bool.or_eq_true, decide_eq_true_eq, beq_iff_eq] at hrun
  exact Char.toNat_inj.1 (by omega)

theorem eq_openBrace_of_foldCase_eq {c : Char} (h : foldCase c = foldCase '{') : c = '{' :=
  eq_of_foldCase_eq (by decide) (by decide) (by decide) h

theorem eq_closeBrace_of_foldCase_eq {c : Char} (h : foldCase c = foldCase '}') : c = '}' :=
  eq_of_foldCase_eq (by decide) (by decide) (by decide) h

end Flashcard
