import Flashcard.Proofs.Directive.Deletion

/-!
# Unclosed deletions

A text may end inside a deletion. The closing braces of a deletion behind it close the open one
instead, which takes the deletion for a part of its hint (`Unclosed.read?_append`). Behind a text
that leaves no deletion open, a deletion is found where it stands (`rewrite_append_text`).
-/

namespace Flashcard

namespace Deletion

/-- What stands before the answer of a deletion. -/
def opening (capital : Bool) (index : String) : List Char :=
  openBraces ++ letter capital :: (index.toList ++ doubleColon)

theorem text_eq_opening (d : Deletion) :
    d.text = opening d.capital d.index ++ (d.body ++ closeBraces) := by
  simp [text_eq, opening]

theorem notMem_opening {c : Char} (hc : c = '}' ∨ c = '\n') (capital : Bool) {index : String}
    (hindex : ∀ c ∈ index.toList, isDecimalDigit c) : c ∉ opening capital index := by
  have hdigit : c ∉ index.toList := by
    intro hmem
    obtain rfl | rfl := hc <;> exact absurd (hindex _ hmem) (by decide)
  have hletter : c ≠ letter capital := by
    obtain rfl | rfl := hc <;> cases capital <;> decide
  have hsigns : c ≠ '{' ∧ c ≠ ':' := by obtain rfl | rfl := hc <;> decide
  simp [opening, openBraces, doubleColon, hdigit, hletter, hsigns]

end Deletion

open Deletion

/-- A deletion that a text ends in. -/
structure Unclosed where
  capital : Bool
  index : String
  tail : List Char
  index_ne_nil : index.toList ≠ []
  isDecimalDigit_of_mem : ∀ c ∈ index.toList, isDecimalDigit c
  line : '\n' ∉ tail
  closes : ¬ closeBraces <:+: tail

namespace Unclosed

def text (u : Unclosed) : List Char := opening u.capital u.index ++ u.tail

/-- The deletion that `u` becomes at the closing braces of `d`. -/
def takes (u : Unclosed) (d : Deletion) : Deletion :=
  let parts := splitHint (u.tail ++ (opening d.capital d.index ++ d.body))
  ⟨u.capital, u.index, parts.1, parts.2⟩

variable (u : Unclosed) {d : Deletion}

theorem body_takes (d : Deletion) :
    (u.takes d).body = u.tail ++ (opening d.capital d.index ++ d.body) :=
  text_splitHint _

theorem text_takes (d : Deletion) : (u.takes d).text = u.text ++ d.text := by
  rw [text_eq_opening, body_takes, text_eq_opening d, text]
  simp [takes]

theorem readable_takes (hd : d.Readable) : (u.takes d).Readable where
  index_ne_nil := u.index_ne_nil
  isDecimalDigit_of_mem := u.isDecimalDigit_of_mem
  line := by
    have hopening := notMem_opening (.inr rfl) d.capital hd.isDecimalDigit_of_mem
    rw [body_takes]
    simp [u.line, hopening, hd.line]
  closes := by
    have hopening := notMem_opening (.inl rfl) d.capital hd.isDecimalDigit_of_mem
    obtain ⟨v, hv⟩ : ∃ v, opening d.capital d.index = '{' :: v := ⟨_, rfl⟩
    rw [hv, List.mem_cons, not_or] at hopening
    rw [body_takes, hv, List.append_assoc, List.cons_append, List.cons_append, List.append_assoc,
      closeBraces, splitAt?_append_cons (by decide) u.closes,
      splitAt?_append_of_notMem hopening.2]
    have hcloses := hd.closes
    rw [closeBraces] at hcloses
    rw [hcloses]
    rfl
  parts := by
    rw [body_takes]
    rfl

/-- The closing braces of a deletion close the unclosed one before it. -/
theorem read?_append (hd : d.Readable) (s : List Char) :
    read? (u.text ++ (d.text ++ s)) = some (u.takes d, s) := by
  rw [← List.append_assoc, ← text_takes]
  exact (u.readable_takes hd).read?_text s

/-- The hint of the longer deletion ends with the answer and the hint of the shorter. -/
theorem exists_hint_takes (capital : Bool) (index : String) :
    ∃ start, ∀ d : Deletion, d.capital = capital → d.index = index →
      (u.takes d).hint = some (String.ofList (start ++ d.body)) := by
  cases hsplit : splitAt? doubleColon (u.tail ++ opening capital index) with
  | none =>
    refine absurd ?_ (splitAt?_eq_none_iff.1 hsplit)
    exact ⟨u.tail ++ (openBraces ++ letter capital :: index.toList), [], by simp [opening]⟩
  | some parts =>
    obtain ⟨answer, start⟩ := parts
    refine ⟨start, ?_⟩
    rintro d rfl rfl
    have hbody := splitAt?_append d.body hsplit
    rw [List.append_assoc] at hbody
    rw [takes, splitHint, hbody]

theorem closeBraces_not_infix_text : ¬ closeBraces <:+: u.text := by
  have hopening := notMem_opening (.inl rfl) u.capital u.isDecimalDigit_of_mem
  rw [← splitAt?_eq_none_iff, text, closeBraces, splitAt?_append_of_notMem hopening,
    Option.map_eq_none_iff]
  exact splitAt?_eq_none_iff.2 u.closes

/-- An unclosed deletion takes an unclosed one behind it as well. -/
def append (v : Unclosed) : Unclosed where
  capital := u.capital
  index := u.index
  tail := u.tail ++ v.text
  index_ne_nil := u.index_ne_nil
  isDecimalDigit_of_mem := u.isDecimalDigit_of_mem
  line := by
    have hopening := notMem_opening (.inr rfl) v.capital v.isDecimalDigit_of_mem
    simp [text, u.line, v.line, hopening]
  closes := by
    obtain ⟨w, hw⟩ : ∃ w, v.text = '{' :: w := ⟨_, rfl⟩
    have hclosed := v.closeBraces_not_infix_text
    rw [hw, List.infix_cons_iff, not_or] at hclosed
    rw [hw]
    exact not_infix_append_cons (by decide) u.closes hclosed.2

theorem text_append (v : Unclosed) : (u.append v).text = u.text ++ v.text := by
  simp [append, text]

end Unclosed

/-- Whether a text ends inside a deletion that a later text may close. -/
def LeavesOpen (s : List Char) : Prop := ∃ u : Unclosed, u.text <:+ s

theorem LeavesOpen.append {s : List Char} (h : LeavesOpen s) (before : List Char) :
    LeavesOpen (before ++ s) := by
  obtain ⟨u, hu⟩ := h
  exact ⟨u, hu.trans (List.suffix_append before s)⟩

/-- Before the first unclosed deletion none is left open. -/
theorem LeavesOpen.exists_first {s : List Char} (h : LeavesOpen s) :
    ∃ before, ∃ u : Unclosed, s = before ++ u.text ∧ ¬ LeavesOpen before := by
  obtain ⟨u, before, hs⟩ := h
  induction hn : before.length using Nat.strongRecOn generalizing before u with
  | ind n ih =>
    by_cases hopen : LeavesOpen before
    · obtain ⟨v, front, rfl⟩ := hopen
      have hv : v.text ≠ [] := by simp [Unclosed.text, opening, openBraces]
      have hlength := List.length_pos_iff.2 hv
      refine ih front.length ?_ (v.append u) front ?_ rfl
      · rw [← hn, List.length_append]
        omega
      · rw [v.text_append, ← List.append_assoc, hs]
    · exact ⟨before, u, hs.symm, hopen⟩

namespace Deletion

/-- A character that a text does not hold stands behind it. -/
theorem exists_eq_append_of_notMem {c : Char} {s t gap u : List Char} (hc : c ∉ s)
    (h : s ++ t = gap ++ c :: u) : ∃ tail, gap = s ++ tail ∧ t = tail ++ c :: u := by
  induction s generalizing gap with
  | nil => exact ⟨gap, rfl, h⟩
  | cons a s ih =>
    simp only [List.mem_cons, not_or] at hc
    cases gap with
    | nil =>
      simp only [List.cons_append, List.nil_append, List.cons.injEq] at h
      exact absurd h.1.symm hc.1
    | cons b gap =>
      simp only [List.cons_append, List.cons.injEq] at h
      obtain ⟨rfl, h⟩ := h
      obtain ⟨tail, rfl, ht⟩ := ih hc.2 h
      exact ⟨tail, rfl, ht⟩

/-- A deletion that is cut off before two opening braces is left open. -/
theorem exists_unclosed_of_text_eq {d : Deletion} (hd : d.Readable) {v w : List Char}
    (hv : v ≠ []) (hsecond : ∀ c t, w = c :: t → c = '{') (h : d.text = v ++ '{' :: w) :
    ∃ u : Unclosed, u.text = v := by
  rw [text_eq_opening, opening] at h
  match v with
  | [] => exact absurd rfl hv
  | [c] =>
    simp only [openBraces, List.cons_append, List.nil_append, List.cons.injEq, true_and] at h
    exact absurd (hsecond _ _ h.2.symm) (by cases d.capital <;> decide)
  | c :: c' :: v =>
    simp only [openBraces, List.cons_append, List.nil_append, List.cons.injEq] at h
    obtain ⟨rfl, rfl, h⟩ := h
    -- The letter, the digits and the colons are no braces, so the cut is behind them.
    have hbrace : '{' ∉ letter d.capital :: (d.index.toList ++ doubleColon) := by
      have hindex : '{' ∉ d.index.toList := fun hmem =>
        absurd (hd.isDecimalDigit_of_mem _ hmem) (by decide)
      cases d.capital <;> simp [letter, hindex, doubleColon]
    have hcut : letter d.capital :: (d.index.toList ++ doubleColon) ++ (d.body ++ closeBraces) =
        v ++ '{' :: w := by simpa using h
    obtain ⟨tail, rfl, hbody⟩ := exists_eq_append_of_notMem hbrace hcut
    have hbegins : tail <+: d.body := by
      obtain ⟨t, -, hend⟩ | ⟨t, ht, -⟩ := List.append_eq_append_iff.1 hbody
      · exact absurd (hend ▸ List.mem_append_right t List.mem_cons_self) (by decide)
      · exact ⟨t, ht.symm⟩
    have hbody : ¬ closeBraces <:+: d.body :=
      not_infix_of_splitAt?_eq_some (by simp [closeBraces]) hd.closes
    exact ⟨⟨d.capital, d.index, tail, hd.index_ne_nil, hd.isDecimalDigit_of_mem,
      fun hline => hd.line (hbegins.mem hline), fun h => hbody (h.trans hbegins.isInfix)⟩,
      by simp [Unclosed.text, opening, openBraces]⟩

theorem read?_append {v rest : List Char} {a : Deletion} (h : read? v = some (a, rest))
    (t : List Char) : read? (v ++ t) = some (a, rest ++ t) := by
  obtain ⟨ha, rfl⟩ := read?_eq_some_iff.1 h
  rw [List.append_assoc]
  exact ha.read?_text _

/-- A text that begins no deletion and is no unclosed one begins none before another deletion. -/
theorem read?_append_text_eq_none {v : List Char} (hv : v ≠ []) (hmiss : read? v = none)
    (hclosed : ∀ u : Unclosed, u.text ≠ v) (d : Deletion) (s : List Char) :
    read? (v ++ (d.text ++ s)) = none := by
  rw [Option.eq_none_iff_forall_ne_some]
  rintro ⟨a, rest⟩ hsome
  obtain ⟨ha, hsplit⟩ := read?_eq_some_iff.1 hsome
  have hlong : ¬ a.text <+: v := by
    rintro ⟨u, rfl⟩
    rw [ha.read?_text] at hmiss
    cases hmiss
  have hbegins := List.prefix_or_prefix_of_prefix (List.prefix_append a.text rest)
    (hsplit ▸ List.prefix_append v (d.text ++ s))
  obtain ⟨w, hw⟩ := hbegins.resolve_left hlong
  rw [← hw, List.append_assoc, List.append_cancel_left_eq, text_eq_opening] at hsplit
  match w with
  | [] => exact hlong ⟨[], by rw [← hw]; simp⟩
  | b :: w =>
    simp only [opening, openBraces, List.cons_append, List.cons.injEq] at hsplit
    obtain ⟨rfl, hsplit⟩ := hsplit
    obtain ⟨u, hu⟩ := exists_unclosed_of_text_eq ha hv
      (fun c t hct => by rw [hct] at hsplit; exact (List.cons.inj hsplit).1.symm) hw.symm
    exact hclosed u hu

section Scan

variable {d : Deletion} (hd : d.Readable)
include hd

/-- A deletion is found where it stands, unless the text before it leaves a deletion open. -/
theorem rewrite_append_text {gap : List Char} (hgap : ¬ LeavesOpen gap) (f : Deletion → List Char)
    (s : List Char) :
    pattern.rewrite f (gap ++ (d.text ++ s)) =
      pattern.rewrite f gap ++ (f d ++ pattern.rewrite f s) := by
  induction gap using pattern.scan_induction with
  | nil =>
    rw [pattern.rewrite_nil]
    exact pattern.rewrite_hit f (hd.read?_text s)
  | hit gap a rest ha ih =>
    have hsplit : gap = a.text ++ rest := pattern.matchAt_eq ha
    have hrest : ¬ LeavesOpen rest := fun h => hgap (hsplit ▸ h.append a.text)
    have hlater : pattern.matchAt (gap ++ (d.text ++ s)) = _ := read?_append ha _
    rw [pattern.rewrite_hit f hlater, pattern.rewrite_hit f ha, ih hrest, List.append_assoc]
  | miss c gap hc ih =>
    have hrest : ¬ LeavesOpen gap := fun h => hgap (h.append [c])
    have hlater : pattern.matchAt (c :: (gap ++ (d.text ++ s))) = none :=
      read?_append_text_eq_none (List.cons_ne_nil c gap) hc
        (fun u hu => hgap ⟨u, hu ▸ List.suffix_refl _⟩) d s
    rw [List.cons_append, pattern.rewrite_miss f hlater, pattern.rewrite_miss f hc, ih hrest]
    rfl

/-- A text that begins no deletion before `d` begins none before another one. -/
theorem read?_append_text_eq_none_of {v s : List Char} (hv : v ≠ [])
    (hmiss : read? (v ++ (d.text ++ s)) = none) (d' : Deletion) (s' : List Char) :
    read? (v ++ (d'.text ++ s')) = none := by
  refine read?_append_text_eq_none hv ?_ (fun u hu => ?_) d' s'
  · rw [Option.eq_none_iff_forall_ne_some]
    rintro ⟨a, rest⟩ hsome
    rw [read?_append hsome] at hmiss
    cases hmiss
  · rw [← hu, u.read?_append hd] at hmiss
    cases hmiss

end Scan

/-- Other deletions in place of those that a scan finds are found in the same places. -/
theorem cut_fill_map {g : Deletion → Deletion} (hg : ∀ d : Deletion, d.Readable → (g d).Readable)
    (s : List Char) :
    pattern.cut (((pattern.cut s).map g).fill text) = (pattern.cut s).map g := by
  induction s using pattern.scan_induction with
  | nil =>
    rw [pattern.cut_nil]
    exact pattern.cut_nil
  | hit s a rest ha ih =>
    have hlater : pattern.matchAt ((g a).text ++ ((pattern.cut rest).map g).fill text) =
        some (g a, ((pattern.cut rest).map g).fill text) :=
      (hg a (readable_of_read?_eq_some ha)).read?_text _
    have hfill := Cut.fill_cons text [] (g a) ((pattern.cut rest).map g)
    rw [pattern.cut_hit ha, Cut.map_cons, hfill, List.nil_append, pattern.cut_hit hlater, ih]
  | miss c s hc ih =>
    have hlater : pattern.matchAt (c :: ((pattern.cut s).map g).fill text) = none := by
      have hs : (pattern.cut s).fill text = s := pattern.fill_text_cut s
      have hread : ∀ hit ∈ (pattern.cut s).hits, hit.2.Readable := fun _ hhit =>
        readable_of_mem_found (List.mem_map_of_mem hhit)
      generalize pattern.cut s = pieces at hs hread ⊢
      obtain ⟨_ | ⟨⟨gap, d⟩, hits⟩, rest⟩ := pieces
      · have hrest : rest = s := hs
        exact hrest ▸ hc
      · have hfill := Cut.fill_cons text gap d ⟨hits, rest⟩
        rw [← hs, hfill] at hc
        have hlater := Cut.fill_cons text gap (g d) (Cut.map g ⟨hits, rest⟩)
        rw [Cut.map_cons, hlater]
        exact read?_append_text_eq_none_of (hread _ List.mem_cons_self) (List.cons_ne_nil c gap)
          hc (g d) _
    rw [pattern.cut_miss hc, Cut.map_after, Cut.fill_after, List.singleton_append,
      pattern.cut_miss hlater, ih]

end Deletion

end Flashcard
