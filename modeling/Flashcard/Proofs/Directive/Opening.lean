import Flashcard.Proofs.Directive.Tag
import Mathlib.Data.List.Infix

/-!
# Openings of tags

The openings of a tag are the places of a text where the tag stands, in some letter case, or could
stand once the text behind the next double braces has changed. Texts without openings may take the
place of directives: this makes no openings (`tagOpenings_rewrite_le_self`), and it takes one away
for each directive that is the tag itself (`tagOpenings_rewrite_lt`). So a tag that has been
replaced never comes back.
-/

namespace Flashcard

/-- Whether a text agrees with `needle` in some letter case, up to its next double braces. -/
def agrees : List Char → List Char → Bool
  | [], _ => true
  | _ :: _, [] => true
  | a :: needle, c :: s => openBraces.isPrefixOf (c :: s) || (sameLetter a c && agrees needle s)

/-- Whether the tag around `inner` stands at the front of a text, or could stand there. -/
def opensTag (inner : List Char) : List Char → Bool
  | [] => false
  | c :: s => c == '{' && agrees ('{' :: (inner ++ closeBraces)) s

/-- The number of openings of the tag around `inner`. -/
def tagOpenings (inner : List Char) : List Char → Nat
  | [] => 0
  | c :: s => (opensTag inner (c :: s)).toNat + tagOpenings inner s

theorem tagOpenings_cons (inner : List Char) (c : Char) (s : List Char) :
    tagOpenings inner (c :: s) = (opensTag inner (c :: s)).toNat + tagOpenings inner s := rfl

/-- Whether a text holds no opening of the tag around `inner`, whatever follows it. -/
def TagFree (inner w : List Char) : Prop := ∀ s ∈ w.tails, opensTag inner s = false

instance (inner w : List Char) : Decidable (TagFree inner w) :=
  inferInstanceAs (Decidable (∀ s ∈ w.tails, _))

section Agrees

variable {needle s : List Char}

theorem agrees_cons_iff {a c : Char} :
    agrees (a :: needle) (c :: s) ↔
      openBraces <+: c :: s ∨ foldCase a = foldCase c ∧ agrees needle s := by
  rw [agrees, Bool.or_eq_true, Bool.and_eq_true, sameLetter_iff, List.isPrefixOf_iff_prefix]

@[simp] theorem agrees_nil_right : agrees needle [] := by cases needle <;> rfl

theorem agrees_of_braces (h : openBraces <+: s) : agrees needle s := by
  cases needle with
  | nil => rfl
  | cons a needle =>
    cases s with
    | nil => rfl
    | cons c s => exact agrees_cons_iff.2 (.inl h)

theorem openBraces_prefix_cons_iff {c : Char} :
    openBraces <+: c :: s ↔ c = '{' ∧ ['{'] <+: s := by
  rw [openBraces, List.cons_prefix_cons, eq_comm]

theorem singleton_prefix_append_iff {c : Char} {t : List Char} (hs : s ≠ []) :
    [c] <+: s ++ t ↔ [c] <+: s := by
  cases s with
  | nil => exact absurd rfl hs
  | cons a s => simp

/-- What is put in place of double braces does not make a text agree further left. -/
theorem agrees_append_braces {t u : List Char} (h : agrees needle (s ++ u)) :
    agrees needle (s ++ '{' :: '{' :: t) := by
  induction s generalizing needle with
  | nil => exact agrees_of_braces ⟨t, rfl⟩
  | cons c s ih =>
    cases needle with
    | nil => rfl
    | cons a needle =>
      rw [List.cons_append, agrees_cons_iff, openBraces_prefix_cons_iff] at h ⊢
      obtain ⟨hc, hs⟩ | ⟨hac, hs⟩ := h
      · refine .inl ⟨hc, ?_⟩
        cases s with
        | nil => exact ⟨'{' :: t, rfl⟩
        | cons b s => rwa [singleton_prefix_append_iff (List.cons_ne_nil b s)] at hs ⊢
      · exact .inr ⟨hac, ih hs⟩

/-- A text agrees if it does with another text behind it, unless double braces arise between
them. -/
theorem agrees_of_append {u : List Char} (hend : ¬ ['{'] <:+ s) (h : agrees needle (s ++ u)) :
    agrees needle s := by
  induction s generalizing needle with
  | nil => exact agrees_nil_right
  | cons c s ih =>
    cases needle with
    | nil => rfl
    | cons a needle =>
      have hend' : ¬ ['{'] <:+ s := fun h => hend (h.trans (List.suffix_cons c s))
      rw [List.cons_append, agrees_cons_iff, openBraces_prefix_cons_iff] at h
      rw [agrees_cons_iff, openBraces_prefix_cons_iff]
      obtain ⟨rfl, hs⟩ | ⟨hac, hs⟩ := h
      · cases s with
        | nil => exact absurd (List.suffix_refl _) hend
        | cons b s =>
          rw [singleton_prefix_append_iff (List.cons_ne_nil b s)] at hs
          exact .inl ⟨rfl, hs⟩
      · exact .inr ⟨hac, ih hend' hs⟩

theorem agrees_of_foldText_eq {x : List Char} (h : foldText x = foldText needle) (t : List Char) :
    agrees needle (x ++ t) := by
  induction needle generalizing x with
  | nil => rfl
  | cons a needle ih =>
    cases x with
    | nil => simp at h
    | cons c x =>
      rw [foldText_cons, foldText_cons, List.cons.injEq] at h
      exact agrees_cons_iff.2 (.inr ⟨h.1.symm, ih h.2⟩)

/-- Replacing matches does not make a text agree. -/
theorem agrees_of_rewrite {α : Type} {p : Pattern α} (hp : p.Opens) (f : α → List Char)
    (h : agrees needle (p.rewrite f s)) : agrees needle s := by
  induction s using p.scan_induction generalizing needle with
  | nil => exact agrees_nil_right
  | hit s a rest ha _ => exact agrees_of_braces (hp s (by simp [ha]))
  | miss c s hc ih =>
    cases needle with
    | nil => rfl
    | cons a needle =>
      rw [p.rewrite_miss f hc, agrees_cons_iff, openBraces_prefix_cons_iff] at h
      rw [agrees_cons_iff, openBraces_prefix_cons_iff]
      obtain ⟨rfl, hs⟩ | ⟨hac, hs⟩ := h
      · refine .inl ⟨rfl, ?_⟩
        cases s with
        | nil => rwa [p.rewrite_nil] at hs
        | cons b s =>
          cases hmatch : p.matchAt (b :: s) with
          | some hit => exact (List.prefix_append ['{'] ['{']).trans (hp _ (by simp [hmatch]))
          | none =>
            rw [p.rewrite_miss f hmatch, List.cons_prefix_cons] at hs
            exact List.cons_prefix_cons.2 ⟨hs.1, List.nil_prefix⟩
      · exact .inr ⟨hac, ih hs⟩

end Agrees

section Openings

variable (inner : List Char)

theorem opensTag_cons_iff {c : Char} {s : List Char} :
    opensTag inner (c :: s) ↔ c = '{' ∧ agrees ('{' :: (inner ++ closeBraces)) s := by
  rw [opensTag, Bool.and_eq_true, beq_iff_eq]

theorem tagOpenings_cons_le {c : Char} {s t : List Char} {n : Nat}
    (h : opensTag inner (c :: s) → opensTag inner (c :: t))
    (hle : tagOpenings inner s + n ≤ tagOpenings inner t) :
    tagOpenings inner (c :: s) + n ≤ tagOpenings inner (c :: t) := by
  rw [tagOpenings_cons, tagOpenings_cons]
  cases hs : opensTag inner (c :: s) with
  | false =>
    rw [Bool.toNat_false]
    omega
  | true =>
    rw [h hs]
    omega

theorem tagOpenings_le_append (s t : List Char) :
    tagOpenings inner t ≤ tagOpenings inner (s ++ t) := by
  induction s with
  | nil => exact Nat.le_refl _
  | cons c s ih =>
    rw [List.cons_append, tagOpenings_cons]
    omega

/-- A tag is an opening. -/
theorem tagOpenings_tag_append {x : List Char} (hx : foldText x = foldText inner) (t : List Char) :
    tagOpenings inner t + 1 ≤ tagOpenings inner (tag x ++ t) := by
  have hagrees : agrees ('{' :: (inner ++ closeBraces)) ('{' :: (x ++ '}' :: '}' :: t)) := by
    have hfold : foldText ('{' :: (x ++ closeBraces)) =
        foldText ('{' :: (inner ++ closeBraces)) := by
      rw [foldText_cons, foldText_cons, foldText_append, foldText_append, hx]
    have hfront := agrees_of_foldText_eq hfold t
    simpa [closeBraces] using hfront
  have hopens := (opensTag_cons_iff inner).2 ⟨rfl, hagrees⟩
  have hinside := tagOpenings_le_append inner ('{' :: (x ++ ['}', '}'])) t
  simp only [List.cons_append, List.append_assoc, List.nil_append] at hinside
  rw [tag_append, tagOpenings_cons, hopens, Bool.toNat_true]
  omega

theorem tagOpenings_tagFree_append {w : List Char} (h : TagFree inner w) (u : List Char) :
    tagOpenings inner (w ++ u) = tagOpenings inner u := by
  induction w with
  | nil => rfl
  | cons c w ih =>
    have htails (s : List Char) (hs : s <:+ c :: w) : opensTag inner s = false :=
      h s ((List.mem_tails _ _).2 hs)
    have hw : TagFree inner w := fun s hs =>
      htails s (((List.mem_tails _ _).1 hs).trans (List.suffix_cons c w))
    have hclosed : opensTag inner (c :: (w ++ u)) = false := by
      rw [← Bool.not_eq_true]
      intro hopens
      obtain ⟨rfl, hagrees⟩ := (opensTag_cons_iff inner).1 hopens
      have hend : ¬ ['{'] <:+ w := by
        intro hend
        have hbrace : opensTag inner ['{'] = true := rfl
        rw [htails _ (hend.trans (List.suffix_cons _ w))] at hbrace
        cases hbrace
      have hopen := (opensTag_cons_iff inner).2 ⟨rfl, agrees_of_append hend hagrees⟩
      rw [htails _ (List.suffix_refl _)] at hopen
      cases hopen
    rw [List.cons_append, tagOpenings_cons, hclosed, ih hw, Bool.toNat_false, Nat.zero_add]

theorem tagFree_iff {w : List Char} : TagFree inner w ↔ tagOpenings inner w = 0 := by
  induction w with
  | nil => simp [TagFree, opensTag, tagOpenings]
  | cons c w ih =>
    simp only [TagFree, List.tails_cons, List.forall_mem_cons] at ih ⊢
    rw [ih, tagOpenings_cons, Nat.add_eq_zero_iff, Bool.toNat_eq_zero]

theorem tagFree_of_openBrace_notMem {w : List Char} (h : '{' ∉ w) : TagFree inner w := by
  intro s hs
  cases s with
  | nil => rfl
  | cons c s =>
    have hmem := ((List.mem_tails _ _).1 hs).mem List.mem_cons_self
    rw [opensTag, beq_false_of_ne (ne_of_mem_of_not_mem hmem h), Bool.false_and]

/-- Openings do not grow where a text takes the place of double braces. -/
theorem tagOpenings_append_le {u t : List Char} {n : Nat}
    (h : tagOpenings inner u + n ≤ tagOpenings inner ('{' :: '{' :: t)) (s : List Char) :
    tagOpenings inner (s ++ u) + n ≤ tagOpenings inner (s ++ '{' :: '{' :: t) := by
  induction s with
  | nil => exact h
  | cons c s ih =>
    refine tagOpenings_cons_le inner (fun hopens => ?_) ih
    obtain ⟨hc, hagrees⟩ := (opensTag_cons_iff inner).1 hopens
    exact (opensTag_cons_iff inner).2 ⟨hc, agrees_append_braces hagrees⟩

section Rewrite

variable {α : Type} {p : Pattern α} (hp : p.Opens)
include hp

theorem tagOpenings_cons_rewrite_le (f : α → List Char) {c : Char} {s : List Char} {n : Nat}
    (h : tagOpenings inner (p.rewrite f s) + n ≤ tagOpenings inner s) :
    tagOpenings inner (c :: p.rewrite f s) + n ≤ tagOpenings inner (c :: s) := by
  refine tagOpenings_cons_le inner (fun hopens => ?_) h
  obtain ⟨hc, hagrees⟩ := (opensTag_cons_iff inner).1 hopens
  exact (opensTag_cons_iff inner).2 ⟨hc, agrees_of_rewrite hp f hagrees⟩

/-- Where each replacement takes at least `k` openings away, all replacements together take `k`
openings for each match. -/
theorem tagOpenings_rewrite_le (f : α → List Char) {k : Nat}
    (hhit : ∀ s a rest, p.matchAt s = some (a, rest) → ∀ u n,
      tagOpenings inner u + n ≤ tagOpenings inner rest →
      tagOpenings inner (f a ++ u) + n + k ≤ tagOpenings inner s) (s : List Char) :
    tagOpenings inner (p.rewrite f s) + k * (p.found s).length ≤ tagOpenings inner s := by
  induction s using p.scan_induction with
  | nil => simp
  | hit s a rest ha ih =>
    rw [p.rewrite_hit f ha, p.found_hit ha, List.length_cons, Nat.mul_succ]
    have := hhit s a rest ha _ _ ih
    omega
  | miss c s hc ih =>
    rw [p.rewrite_miss f hc, p.found_miss hc]
    exact tagOpenings_cons_rewrite_le inner hp f ih

variable {inner} {w : List Char} (hw : TagFree inner w)
include hw

theorem tagOpenings_rewrite_le_self (t : List Char) :
    tagOpenings inner (p.rewrite (fun _ => w) t) ≤ tagOpenings inner t := by
  have hle := tagOpenings_rewrite_le inner hp (fun _ => w) (k := 0)
    (fun s a rest hmatch u n h => ?_) t
  · rw [Nat.zero_mul, Nat.add_zero] at hle
    exact hle
  · rw [tagOpenings_tagFree_append inner hw, p.matchAt_eq hmatch]
    exact h.trans (tagOpenings_le_append inner _ rest)

/-- Replacing a tag takes an opening away. -/
theorem tagOpenings_rewrite_lt
    (htag : ∀ s a rest, p.matchAt s = some (a, rest) →
      ∃ x, foldText x = foldText inner ∧ s = tag x ++ rest)
    {t : List Char} (hfound : p.found t ≠ []) :
    tagOpenings inner (p.rewrite (fun _ => w) t) < tagOpenings inner t := by
  have hle := tagOpenings_rewrite_le inner hp (fun _ => w) (k := 1)
    (fun s a rest hmatch u n h => ?_) t
  · have hlength := List.length_pos_iff.2 hfound
    omega
  · obtain ⟨x, hx, rfl⟩ := htag s a rest hmatch
    have hopening := tagOpenings_tag_append inner hx rest
    rw [tagOpenings_tagFree_append inner hw]
    omega

end Rewrite

end Openings

end Flashcard
