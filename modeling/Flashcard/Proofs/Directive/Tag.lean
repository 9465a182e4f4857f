import Flashcard.Proofs.Text.Folding
import Flashcard.Proofs.Text.Literal
import Flashcard.Proofs.Text.Scan
import Flashcard.Directive.Section
import Flashcard.Directive.Slot
import Mathlib.Data.List.Basic

/-!
# Tags

A tag is a text between double braces. A tag without braces inside cannot overlap another one, so
a scan for directives sees a text of tags as the writer of the text did: it passes what holds no
opening brace, and takes a tag as a whole or passes it as a whole.

`rewrite_append_of_notMem`, `rewrite_tag_miss` and `exists_rewrite_append_braces` say so for every
pattern whose matches open with braces. The rest of the module says which tags each pattern of the
library takes.
-/

namespace Flashcard

/-- A text between double braces. -/
def tag (inner : List Char) : List Char := openBraces ++ inner ++ closeBraces

/-- A text without braces. -/
def BraceFree (s : List Char) : Prop := '{' ∉ s ∧ '}' ∉ s

instance (s : List Char) : Decidable (BraceFree s) := inferInstanceAs (Decidable (_ ∧ _))

theorem braceFree_append {s t : List Char} : BraceFree (s ++ t) ↔ BraceFree s ∧ BraceFree t := by
  simp only [BraceFree, List.mem_append, not_or]
  tauto

theorem braceFree_cons {c : Char} {s : List Char} :
    BraceFree (c :: s) ↔ BraceFree [c] ∧ BraceFree s := braceFree_append (s := [c])

theorem BraceFree.of_foldText_eq {s t : List Char} (ht : BraceFree t)
    (h : foldText s = foldText t) : BraceFree s := by
  constructor
  · intro hs
    obtain ⟨c, hc, hfold⟩ := List.mem_map.1 (h ▸ List.mem_map_of_mem hs : foldCase '{' ∈ foldText t)
    exact ht.1 (eq_openBrace_of_foldCase_eq hfold ▸ hc)
  · intro hs
    obtain ⟨c, hc, hfold⟩ := List.mem_map.1 (h ▸ List.mem_map_of_mem hs : foldCase '}' ∈ foldText t)
    exact ht.2 (eq_closeBrace_of_foldCase_eq hfold ▸ hc)

theorem tag_ne_nil (x : List Char) : tag x ≠ [] := by simp [tag, openBraces]

theorem tag_append (x t : List Char) : tag x ++ t = '{' :: '{' :: (x ++ '}' :: '}' :: t) := by
  simp [tag, openBraces, closeBraces]

theorem BraceFree.notMem_closing {x : List Char} (hx : BraceFree x) : '{' ∉ x ++ ['}', '}'] := by
  simp [hx.1]

theorem append_closeBrace_inj {x y s t : List Char} (hx : '}' ∉ x) (hy : '}' ∉ y) :
    x ++ '}' :: s = y ++ '}' :: t ↔ x = y ∧ s = t := by
  induction x generalizing y with
  | nil =>
    cases y with
    | nil => simp
    | cons d y =>
      simp only [List.mem_cons, not_or] at hy
      simp [hy.1]
  | cons c x ih =>
    simp only [List.mem_cons, not_or] at hx
    cases y with
    | nil => simp [Ne.symm hx.1]
    | cons d y =>
      simp only [List.mem_cons, not_or] at hy
      simp [ih hx.2 hy.2, and_assoc]

theorem tag_append_inj {x y s t : List Char} (hx : BraceFree x) (hy : BraceFree y) :
    tag x ++ s = tag y ++ t ↔ x = y ∧ s = t := by
  simp [tag_append, append_closeBrace_inj hx.2 hy.2]

theorem after?_tag {x y : List Char} (t : List Char) (hx : BraceFree x) (hy : BraceFree y) :
    after? (tag y) (tag x ++ t) = if x = y then some t else none := by
  split
  · next h => rw [h, after?_append]
  · next h =>
    rw [after?_eq_none_iff]
    rintro ⟨rest, hrest⟩
    exact h ((tag_append_inj hy hx).1 hrest).1.symm

/-- The first place of a tag is not inside another tag. -/
theorem splitAt?_tag_append {x y : List Char} (t : List Char) (hx : BraceFree x)
    (hy : BraceFree y) (hne : x ≠ y) :
    splitAt? (tag y) (tag x ++ t) =
      (splitAt? (tag y) t).map fun (front, rest) => (tag x ++ front, rest) := by
  have hy' : tag y = '{' :: '{' :: (y ++ ['}', '}']) := by simp [tag, openBraces, closeBraces]
  have hfirst : after? (tag y) (tag x ++ t) = none := by rw [after?_tag t hx hy, if_neg hne]
  have hsecond : after? (tag y) ('{' :: (x ++ ['}', '}'] ++ t)) = none := by
    rw [after?_eq_none_iff, hy']
    rintro ⟨rest, hrest⟩
    simp only [List.cons_append, List.cons.injEq, true_and] at hrest
    cases hw : x ++ ['}', '}'] with
    | nil => simp at hw
    | cons c w =>
      rw [hw, List.cons_append, List.cons.injEq] at hrest
      have := hx.notMem_closing
      rw [hw] at this
      exact this (hrest.1 ▸ List.mem_cons_self)
  have hrest : splitAt? (tag y) (x ++ ['}', '}'] ++ t) =
      (splitAt? (tag y) t).map fun (front, rest) => (x ++ ['}', '}'] ++ front, rest) := by
    rw [hy']
    exact splitAt?_append_of_notMem hx.notMem_closing _ _
  have htag : tag x ++ t = '{' :: '{' :: (x ++ ['}', '}'] ++ t) := by simp [tag_append]
  rw [htag] at hfirst ⊢
  rw [splitAt?_miss hfirst, splitAt?_miss hsecond, hrest, Option.map_map, Option.map_map]
  congr 1

/-- No tag stands across the end of another tag. -/
theorem tag_infix_tag_append_iff {x y : List Char} (t : List Char) (hx : BraceFree x)
    (hy : BraceFree y) : tag y <:+: tag x ++ t ↔ x = y ∨ tag y <:+: t := by
  by_cases hxy : x = y
  · subst hxy
    exact iff_of_true (List.prefix_append _ _).isInfix (.inl rfl)
  · rw [or_iff_right hxy, ← not_iff_not, ← splitAt?_eq_none_iff, ← splitAt?_eq_none_iff,
      splitAt?_tag_append t hx hy hxy, Option.map_eq_none_iff]

/-- A tag that stands further left in a text ends before double braces further right. -/
theorem exists_eq_tag_append {y s rest t : List Char} (hy : BraceFree y) (hs : s ≠ [])
    (h : s ++ '{' :: '{' :: t = tag y ++ rest) :
    ∃ u, s = tag y ++ u ∧ rest = u ++ '{' :: '{' :: t := by
  have hclosing := hy.notMem_closing
  obtain ⟨u, hu, hrest⟩ | ⟨u, hu, hrest⟩ := List.append_eq_append_iff.1 h
  · cases u with
    | nil => exact ⟨[], by simpa using hu.symm, by simpa using hrest.symm⟩
    | cons a u =>
      -- Otherwise the braces on the right would open inside the tag on the left.
      exfalso
      simp only [List.cons_append, List.cons.injEq] at hrest
      obtain ⟨rfl, hrest⟩ := hrest
      have hy' : tag y = '{' :: '{' :: (y ++ ['}', '}']) := by simp [tag, openBraces, closeBraces]
      rw [hy'] at hu
      match s, hs with
      | [b], _ =>
        simp only [List.cons_append, List.nil_append, List.cons.injEq, true_and] at hu
        rw [← hu.2] at hrest
        cases hw : y ++ ['}', '}'] with
        | nil => simp at hw
        | cons d w =>
          rw [hw] at hrest hclosing
          simp only [List.cons_append, List.cons.injEq] at hrest
          exact hclosing (hrest.1 ▸ List.mem_cons_self)
      | b :: b' :: s, _ =>
        simp only [List.cons_append, List.cons.injEq] at hu
        rw [hu.2.2] at hclosing
        simp at hclosing
  · exact ⟨u, hu, hrest⟩

namespace Pattern

variable {α : Type} {p : Pattern α}

/-- Whether every match of the pattern opens with braces. -/
def Opens (p : Pattern α) : Prop := ∀ s, p.matchAt s ≠ none → openBraces <+: s

/-- Whether every match of the pattern is a tag without braces inside. -/
def MatchesTags (p : Pattern α) : Prop :=
  ∀ s a rest, p.matchAt s = some (a, rest) → ∃ x, BraceFree x ∧ p.text a = tag x

theorem MatchesTags.opens (hp : p.MatchesTags) : p.Opens := by
  intro s hs
  obtain ⟨⟨a, rest⟩, h⟩ := Option.ne_none_iff_exists'.1 hs
  obtain ⟨x, -, hx⟩ := hp s a rest h
  rw [p.matchAt_eq h, hx, tag_append]
  exact ⟨_, rfl⟩

theorem opens_of_text (h : ∀ a, openBraces <+: p.text a) : p.Opens := by
  intro s hs
  obtain ⟨⟨a, rest⟩, hmatch⟩ := Option.ne_none_iff_exists'.1 hs
  exact p.matchAt_eq hmatch ▸ (h a).trans (List.prefix_append _ _)

theorem Opens.matchAt_cons_eq_none (hp : p.Opens) {c : Char} (s : List Char) (hc : c ≠ '{') :
    p.matchAt (c :: s) = none := by
  by_contra h
  obtain ⟨t, ht⟩ := hp _ h
  simp only [openBraces, List.cons_append, List.cons.injEq] at ht
  exact hc ht.1.symm

theorem Opens.matchAt_brace_cons_eq_none (hp : p.Opens) {c : Char} (s : List Char)
    (hc : c ≠ '{') : p.matchAt ('{' :: c :: s) = none := by
  by_contra h
  obtain ⟨t, ht⟩ := hp _ h
  simp only [openBraces, List.cons_append, List.cons.injEq] at ht
  exact hc ht.2.1.symm

theorem rewrite_append_of_notMem (hp : p.Opens) (f : α → List Char) {s : List Char}
    (hs : '{' ∉ s) (t : List Char) : p.rewrite f (s ++ t) = s ++ p.rewrite f t := by
  induction s with
  | nil => rfl
  | cons c s ih =>
    simp only [List.mem_cons, not_or] at hs
    rw [List.cons_append, p.rewrite_miss f (hp.matchAt_cons_eq_none _ (Ne.symm hs.1)), ih hs.2]
    rfl

theorem found_append_of_notMem (hp : p.Opens) {s : List Char} (hs : '{' ∉ s) (t : List Char) :
    p.found (s ++ t) = p.found t := by
  induction s with
  | nil => rfl
  | cons c s ih =>
    simp only [List.mem_cons, not_or] at hs
    rw [List.cons_append, p.found_miss (hp.matchAt_cons_eq_none _ (Ne.symm hs.1)), ih hs.2]

/-- Behind the first brace of a tag nothing opens before the tag ends. -/
theorem Opens.matchAt_tail_tag_eq_none (hp : p.Opens) {x : List Char} (hx : BraceFree x)
    (t : List Char) : p.matchAt ('{' :: (x ++ '}' :: '}' :: t)) = none := by
  cases x with
  | nil => exact hp.matchAt_brace_cons_eq_none _ (by decide)
  | cons c x =>
    have hc : c ≠ '{' := fun h => hx.1 (h ▸ List.mem_cons_self)
    exact hp.matchAt_brace_cons_eq_none _ hc

theorem rewrite_tag_miss (hp : p.Opens) (f : α → List Char) {x t : List Char} (hx : BraceFree x)
    (h : p.matchAt (tag x ++ t) = none) :
    p.rewrite f (tag x ++ t) = tag x ++ p.rewrite f t := by
  rw [tag_append] at h
  rw [tag_append, p.rewrite_miss f h, p.rewrite_miss f (hp.matchAt_tail_tag_eq_none hx t)]
  have hrest := rewrite_append_of_notMem hp f hx.notMem_closing t
  simp only [List.append_assoc, List.cons_append, List.nil_append] at hrest
  rw [hrest, tag_append]

theorem rewrite_tag_eq_self (hp : p.Opens) (f : α → List Char) {x : List Char} (hx : BraceFree x)
    (h : ∀ t, p.matchAt (tag x ++ t) = none) : p.rewrite f (tag x) = tag x := by
  simpa using rewrite_tag_miss hp f hx (h [])

/-- A scan for tags meets all double braces of a text at its front, whatever stands before
them. -/
theorem exists_rewrite_append_braces (hp : p.MatchesTags) (f : α → List Char) (s t : List Char) :
    ∃ u, p.rewrite f (s ++ '{' :: '{' :: t) = u ++ p.rewrite f ('{' :: '{' :: t) := by
  induction hn : s.length using Nat.strongRecOn generalizing s with
  | ind n ih =>
    cases s with
    | nil => exact ⟨[], rfl⟩
    | cons c s =>
      cases h : p.matchAt (c :: s ++ '{' :: '{' :: t) with
      | none =>
        obtain ⟨u, hu⟩ := ih s.length (by simp [← hn]) s rfl
        exact ⟨c :: u, by rw [List.cons_append] at h ⊢; rw [p.rewrite_miss f h, hu]; rfl⟩
      | some hit =>
        obtain ⟨a, rest⟩ := hit
        obtain ⟨y, hy, htext⟩ := hp _ a rest h
        have heq := htext ▸ p.matchAt_eq h
        obtain ⟨s', hs', rfl⟩ := exists_eq_tag_append hy (List.cons_ne_nil c s) heq
        have hlt : s'.length < n := by
          rw [← hn, hs', List.length_append, tag]
          simp [openBraces]
        obtain ⟨u, hu⟩ := ih _ hlt s' rfl
        exact ⟨f a ++ u, by rw [p.rewrite_hit f h, hu, List.append_assoc]⟩

section Literal

theorem literal_tag_opens (x : List Char) : (literal (tag x) (tag_ne_nil x)).Opens :=
  opens_of_text fun _ => ⟨x ++ closeBraces, by simp [literal, tag]⟩

variable {y : List Char} (hne : tag y ≠ [])

theorem literal_matchesTags (hy : BraceFree y) : (literal (tag y) hne).MatchesTags :=
  fun _ _ _ _ => ⟨y, hy, rfl⟩

theorem literal_matchAt_tag (hy : BraceFree y) {x : List Char} (hx : BraceFree x)
    (t : List Char) :
    (literal (tag y) hne).matchAt (tag x ++ t) = if x = y then some ((), t) else none := by
  change (after? (tag y) (tag x ++ t)).map _ = _
  rw [after?_tag t hx hy]
  split <;> rfl

end Literal

end Pattern

namespace Section

variable (kind : Section) (name : String)

theorem patternFor_opens : (kind.patternFor name).Opens :=
  Pattern.opens_of_text fun body => by
    change openBraces <+: kind.openTag name ++ body.toList ++ closeTag name
    simp only [openTag, List.append_assoc]
    exact List.prefix_append _ _

theorem patternFor_matchAt_open (t : List Char) :
    (kind.patternFor name).matchAt (tag (kind.sign :: name.toList) ++ t) =
      (splitAt? (closeTag name) t).map fun (body, rest) => (String.ofList body, rest) := by
  change readBetween? (kind.openTag name) (closeTag name) (kind.openTag name ++ t) = _
  rw [readBetween?, after?_append]
  cases h : splitAt? (closeTag name) t <;> simp [h]

theorem patternFor_matchAt_tag_eq_none {name : String} (hname : BraceFree name.toList)
    {x : List Char} (hx : BraceFree x) (hne : x ≠ kind.sign :: name.toList) (t : List Char) :
    (kind.patternFor name).matchAt (tag x ++ t) = none := by
  have hsign : BraceFree [kind.sign] := by cases kind <;> decide
  have hopen : BraceFree (kind.sign :: name.toList) := braceFree_cons.2 ⟨hsign, hname⟩
  change readBetween? (tag (kind.sign :: name.toList)) (closeTag name) (tag x ++ t) = none
  rw [readBetween?, after?_tag t hx hopen, if_neg hne]
  rfl

end Section

end Flashcard
