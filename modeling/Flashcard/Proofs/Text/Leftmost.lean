import Flashcard.Proofs.Text.Scan

/-!
# Leftmost matches

`Leftmost starts reads s c` says without a scanner what a scan of `s` is to find. `starts` tells
where a match begins and `reads` what it is: the first match begins at the first place where one
can, the second at the first such place behind it, and so on until there is no such place.

`Pattern.leftmost_iff` says that a scan finds these matches and no others.
-/

namespace Flashcard

variable {α : Type}

/-- Whether `c` cuts a text at its leftmost matches. -/
inductive Leftmost (starts : List Char → Prop) (reads : List Char → α → List Char → Prop) :
    List Char → Cut α → Prop
  | done {s : List Char} (none : ∀ behind, behind <:+ s → ¬ starts behind) :
    Leftmost starts reads s ⟨[], s⟩
  | next {gap s rest : List Char} {a : α} {c : Cut α}
    (first : ∀ before behind, gap ++ s = before ++ behind → starts behind →
      gap.length ≤ before.length)
    (start : starts s) (read : reads s a rest) (later : Leftmost starts reads rest c) :
    Leftmost starts reads (gap ++ s) ⟨(gap, a) :: c.hits, c.rest⟩

theorem Cut.after_nil (c : Cut α) : c.after [] = c := by
  obtain ⟨_ | _, _⟩ := c <;> rfl

namespace Pattern

variable {p : Pattern α}

/-- Where no match begins in `before`, a scan goes on behind it. -/
theorem cut_append {before s : List Char}
    (h : ∀ u v, before = u ++ v → v ≠ [] → p.matchAt (v ++ s) = none) :
    p.cut (before ++ s) = (p.cut s).after before := by
  induction before with
  | nil => rw [List.nil_append, Cut.after_nil]
  | cons c before ih =>
    have hmiss : p.matchAt (c :: (before ++ s)) = none := h [] (c :: before) rfl (by simp)
    rw [List.cons_append, p.cut_miss hmiss, ih, Cut.after_after, List.singleton_append]
    rintro u v rfl hv
    exact h (c :: u) v rfl hv

section Leftmost

variable {starts : List Char → Prop} {reads : List Char → α → List Char → Prop}
  (hstarts : ∀ s, starts s ↔ p.matchAt s ≠ none)
  (hreads : ∀ s a rest, reads s a rest ↔ p.matchAt s = some (a, rest))
include hstarts hreads

theorem cut_eq_of_leftmost {s : List Char} {c : Cut α} (h : Leftmost starts reads s c) :
    p.cut s = c := by
  induction h with
  | @done s hnone =>
    have hcut : p.cut (s ++ []) = (p.cut []).after s := p.cut_append fun u v hs _ => by
      have hmiss := mt (hstarts v).2 (hnone v ⟨u, hs.symm⟩)
      simpa using hmiss
    simpa [Cut.after] using hcut
  | @next gap s rest a c hfirst hstart hread hlater ih =>
    rw [p.cut_append, p.cut_hit ((hreads s a rest).1 hread), ih]
    · simp [Cut.after]
    · rintro u v rfl hv
      refine Decidable.not_not.1 fun hmatch => ?_
      have hle := hfirst u (v ++ s) (by simp) ((hstarts _).2 hmatch)
      have hpos := List.length_pos_iff.2 hv
      rw [List.length_append] at hle
      omega

theorem leftmost_cut (s : List Char) : Leftmost starts reads s (p.cut s) := by
  induction s using p.scan_induction with
  | nil =>
    rw [cut_nil]
    refine .done fun behind hbehind hstart => ?_
    rw [List.suffix_nil.1 hbehind, hstarts] at hstart
    exact hstart p.matchAt_nil
  | hit s a rest hmatch ih =>
    rw [p.cut_hit hmatch]
    change Leftmost starts reads ([] ++ s) _
    exact .next (fun _ _ _ _ => Nat.zero_le _)
      ((hstarts s).2 (by simp [hmatch])) ((hreads s a rest).2 hmatch) ih
  | miss c s hmiss ih =>
    have hc : ¬ starts (c :: s) := fun h => (hstarts _).1 h hmiss
    rw [p.cut_miss hmiss]
    generalize p.cut s = cut at ih
    cases ih with
    | done hnone =>
      refine .done fun behind hbehind => ?_
      obtain rfl | hbehind := List.suffix_cons_iff.1 hbehind
      · exact hc
      · exact hnone behind hbehind
    | @next gap s rest a later hfirst hstart hread hlater =>
      change Leftmost starts reads ((c :: gap) ++ s) _
      refine .next (fun before behind heq hbehind => ?_) hstart hread hlater
      cases before with
      | nil =>
        obtain rfl : c :: (gap ++ s) = behind := heq
        exact absurd hbehind hc
      | cons d before =>
        simp only [List.cons_append, List.cons.injEq] at heq
        simpa using hfirst before behind heq.2 hbehind

/-- A scan cuts a text at its leftmost matches and nowhere else. -/
theorem leftmost_iff {s : List Char} {c : Cut α} :
    Leftmost starts reads s c ↔ p.cut s = c := by
  constructor
  · exact cut_eq_of_leftmost hstarts hreads
  · rintro rfl
    exact leftmost_cut hstarts hreads s

end Leftmost

end Pattern

end Flashcard
