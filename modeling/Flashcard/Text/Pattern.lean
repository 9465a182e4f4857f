/-!
# Patterns and the texts they cut

A `Pattern` recognises a match at the front of a text. `Pattern.cut` walks a text from left to
right and takes each match it meets, so matches are disjoint and each one is the leftmost that is
left. `Cut.fill` puts a text in place of every match and keeps the gaps between them.

`Pattern.fill_text_cut` says that a cut loses nothing.
-/

namespace Flashcard

/-- A test at the front of a text that splits off a non-empty match. -/
structure Pattern (α : Type) where
  /-- The text that a match stands for. -/
  text : α → List Char
  matchAt : List Char → Option (α × List Char)
  matchAt_eq : ∀ {s a rest}, matchAt s = some (a, rest) → s = text a ++ rest
  text_ne_nil : ∀ {s a rest}, matchAt s = some (a, rest) → text a ≠ []

/-- A text cut at its matches: each match after the gap before it, and the text after the last. -/
structure Cut (α : Type) where
  hits : List (List Char × α)
  rest : List Char

namespace Pattern

variable {α : Type} (p : Pattern α)

theorem length_rest_lt {s rest : List Char} {a : α} (h : p.matchAt s = some (a, rest)) :
    rest.length < s.length := by
  have := List.length_pos_iff.2 (p.text_ne_nil h)
  rw [p.matchAt_eq h, List.length_append]
  omega

/-- Cuts `s`, where `gap` holds the characters since the last match, newest first. -/
def cutFrom (gap : List Char) : List Char → Cut α
  | [] => ⟨[], gap.reverse⟩
  | c :: s =>
    match h : p.matchAt (c :: s) with
    | some (a, rest) =>
      have := p.length_rest_lt h
      let later := cutFrom [] rest
      ⟨(gap.reverse, a) :: later.hits, later.rest⟩
    | none => cutFrom (c :: gap) s
termination_by s => s.length
decreasing_by
  · assumption
  · exact Nat.lt_succ_self _

/-- The disjoint leftmost matches in `s`, with the text around them. -/
def cut (s : List Char) : Cut α := p.cutFrom [] s

end Pattern

namespace Cut

variable {α : Type}

/-- Puts `f a` in place of every match `a`. -/
def fill (f : α → List Char) (c : Cut α) : List Char :=
  (c.hits.flatMap fun (gap, a) => gap ++ f a) ++ c.rest

/-- Each match with the number of UTF-8 bytes before it. -/
def located (text : α → List Char) (c : Cut α) : List (Nat × α) :=
  go 0 c.hits
where
  go (start : Nat) : List (List Char × α) → List (Nat × α)
    | [] => []
    | (gap, a) :: hits =>
      let here := start + bytes gap
      (here, a) :: go (here + bytes (text a)) hits
  bytes (s : List Char) : Nat := s.foldl (fun n c => n + c.utf8Size) 0

end Cut

namespace Pattern

variable {α : Type} (p : Pattern α)

theorem fill_text_cutFrom (gap s : List Char) :
    (p.cutFrom gap s).fill p.text = gap.reverse ++ s := by
  fun_induction p.cutFrom gap s with
  | case1 gap => simp [Cut.fill]
  | case2 gap c s a rest h _ later ih =>
    simp only [Cut.fill, List.reverse_nil, List.nil_append] at ih ⊢
    rw [p.matchAt_eq h, List.flatMap_cons, List.append_assoc, ih]
    simp
  | case3 gap c s h ih => simpa using ih

/-- Writing every match back gives the text that was cut. -/
theorem fill_text_cut (s : List Char) : (p.cut s).fill p.text = s := by
  simpa [cut] using p.fill_text_cutFrom [] s

/-- The matches in `s`, from left to right. -/
def findAll (s : String) : List α := (p.cut s.toList).hits.map Prod.snd

/-- Whether `s` holds a match. -/
def occursIn (s : String) : Bool := !(p.cut s.toList).hits.isEmpty

/-- Puts `f a` in place of every match `a` in `s`. -/
def replace (f : α → String) (s : String) : String :=
  String.ofList ((p.cut s.toList).fill fun a => (f a).toList)

end Pattern

end Flashcard
