import Flashcard.Text.FoldingTable

/-!
# Text up to letter case

Two characters agree when they fold to the same one, and `afterFolded? needle s` is what follows a
spelling of `needle` at the front of `s` in any letter case. Folding is simple: one character never
becomes two, and no locale has a say.
-/

namespace Flashcard

/-- Whether the run folds the character numbered `n`. -/
def FoldingRun.covers (r : FoldingRun) (n : Nat) : Bool :=
  r.first ≤ n && n ≤ r.last && (n - r.first) % r.stride == 0

/-- The character that stands for `c` and all its case variants. -/
def foldCase (c : Char) : Char :=
  match foldingRuns.find? (·.covers c.toNat) with
  | some r => Char.ofNat (c.toNat - r.first + r.target)
  | none => c

/-- Whether `a` and `b` are one letter up to case. -/
def sameLetter (a b : Char) : Bool := a == b || foldCase a == foldCase b

/-- A spelling of `needle` in any letter case at the front of a text, and the text after it. -/
def takeFolded? : List Char → List Char → Option (List Char × List Char)
  | [], s => some ([], s)
  | _ :: _, [] => none
  | a :: needle, b :: s =>
    if sameLetter a b then (takeFolded? needle s).map fun (t, rest) => (b :: t, rest) else none

theorem takeFolded?_eq_some {needle s t rest : List Char}
    (h : takeFolded? needle s = some (t, rest)) : s = t ++ rest ∧ t.length = needle.length := by
  fun_induction takeFolded? needle s generalizing t with
  | case1 s => cases h; simp
  | case2 => cases h
  | case3 a needle b s _ ih =>
    obtain ⟨⟨t', r⟩, ht, heq⟩ := Option.map_eq_some_iff.1 h
    cases heq
    obtain ⟨rfl, hl⟩ := ih ht
    simp [hl]
  | case4 => cases h

end Flashcard
