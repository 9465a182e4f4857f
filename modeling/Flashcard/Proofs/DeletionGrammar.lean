import Flashcard.Proofs.Directive.Deletion
import Flashcard.Proofs.Text.Leftmost

/-!
# The grammar of deletions

Which deletions a value holds, said without the reader: where one begins (`Deletion.StartsAt`), and
what it is and where it ends (`Deletion.ReadsAt`). A scan finds the leftmost of them, one after
another, and nothing else.

So a value can be written from the deletions it is to hold. Literals without double opening braces
may stand between them, and a scan gives the deletions back exactly if each of them is
`Deletion.Printable`: no part holds what would end it earlier or begin the next part.
-/

namespace Flashcard

/-- Whether `front` stands before the first `needle` in a text, and `rest` behind it. -/
def PartsAt (needle s front rest : List Char) : Prop :=
  s = front ++ needle ++ rest ∧
    ∀ before behind, s = before ++ needle ++ behind → front.length ≤ before.length

theorem splitAt?_eq_some_iff_partsAt {needle s front rest : List Char} :
    splitAt? needle s = some (front, rest) ↔ PartsAt needle s front rest :=
  splitAt?_eq_some_iff

namespace Deletion

/-- Whether a deletion begins at the front of a text: after its double colon there are closing
braces, and no line ends before them. -/
def StartsAt (s : List Char) : Prop :=
  ∃ capital digits span rest,
    s = openBraces ++ letter capital :: (digits ++ (doubleColon ++ (span ++ closeBraces ++ rest))) ∧
      digits ≠ [] ∧ (∀ c ∈ digits, isDecimalDigit c) ∧ '\n' ∉ span

/-- Whether the span between the index and the closing braces is this answer with this hint. -/
def Parts (span : List Char) (answer : String) : Option String → Prop
  | some hint => PartsAt doubleColon span answer.toList hint.toList
  | none => answer.toList = span ∧ ¬ doubleColon <:+: span

/-- Whether `d` stands at the front of a text, and `rest` behind it: its digits are those before the
double colon, and it ends with the first closing braces behind that. -/
def ReadsAt (s : List Char) (d : Deletion) (rest : List Char) : Prop :=
  ∃ span tail,
    s = openBraces ++ letter d.capital :: (d.index.toList ++ (doubleColon ++ tail)) ∧
      d.index.toList ≠ [] ∧ (∀ c ∈ d.index.toList, isDecimalDigit c) ∧
      PartsAt closeBraces tail span rest ∧ '\n' ∉ span ∧ Parts span d.answer d.hint

theorem parts_iff {span : List Char} {d : Deletion} :
    Parts span d.answer d.hint ↔ splitHint span = (d.answer, d.hint) := by
  unfold splitHint
  cases hhint : d.hint with
  | some hint =>
    rw [Parts, ← splitAt?_eq_some_iff_partsAt]
    cases hsplit : splitAt? doubleColon span with
    | none => simp
    | some parts => simp [Prod.ext_iff, ← String.toList_inj]
  | none =>
    rw [Parts, ← splitAt?_eq_none_iff]
    cases hsplit : splitAt? doubleColon span with
    | none => simp [← String.toList_inj, eq_comm]
    | some parts => simp

theorem body_eq_of_splitHint {span : List Char} {d : Deletion}
    (h : splitHint span = (d.answer, d.hint)) : d.body = span := by
  have hspan := text_splitHint span
  rwa [h] at hspan

theorem closes_iff {d : Deletion} (rest : List Char) :
    splitAt? closeBraces (d.body ++ closeBraces ++ rest) = some (d.body, rest) ↔
      splitAt? closeBraces (d.body ++ closeBraces) = some (d.body, []) := by
  have hnil := splitAt?_doubled_iff (c := '}') (x := d.body) (y := [])
  rw [List.append_nil] at hnil
  exact splitAt?_doubled_iff.trans hnil.symm

theorem readsAt_iff {s rest : List Char} {d : Deletion} :
    ReadsAt s d rest ↔ pattern.matchAt s = some (d, rest) := by
  change ReadsAt s d rest ↔ read? s = some (d, rest)
  rw [read?_eq_some_iff]
  constructor
  · rintro ⟨span, tail, rfl, hne, hdigits, hcloses, hline, hparts⟩
    have hbody := body_eq_of_splitHint (parts_iff.1 hparts)
    subst hbody
    obtain rfl := hcloses.1
    refine ⟨⟨hne, hdigits, hline, (closes_iff rest).1 ?_, parts_iff.1 hparts⟩, by simp [text_eq]⟩
    exact splitAt?_eq_some_iff_partsAt.2 hcloses
  · rintro ⟨h, rfl⟩
    refine ⟨d.body, d.body ++ closeBraces ++ rest, by simp [text_eq], h.index_ne_nil,
      h.isDecimalDigit_of_mem, ?_, h.line, parts_iff.2 h.parts⟩
    exact splitAt?_eq_some_iff_partsAt.1 ((closes_iff rest).2 h.closes)

theorem startsAt_iff {s : List Char} : StartsAt s ↔ pattern.matchAt s ≠ none := by
  change StartsAt s ↔ read? s ≠ none
  constructor
  · rintro ⟨capital, digits, span, rest, rfl, hne, hdigits, hline⟩
    obtain ⟨⟨front, behind⟩, hsplit⟩ := Option.ne_none_iff_exists'.1
      (mt splitAt?_eq_none_iff.1 (not_not.2 ⟨span, rest, rfl⟩))
    obtain ⟨hs, hfirst⟩ := splitAt?_eq_some_iff.1 hsplit
    -- The first closing braces stand no further right than those that are given.
    have hfront : front <+: span := prefix_of_places hs rfl (hfirst span rest rfl)
    let d : Deletion := ⟨capital, String.ofList digits, (splitHint front).1, (splitHint front).2⟩
    have hbody : d.body = front := body_eq_of_splitHint rfl
    have hd : d.Readable := by
      refine ⟨by simpa [d] using hne, by simpa [d] using hdigits, ?_, ?_, by rw [hbody]⟩
      · rw [hbody]
        exact fun hmem => hline (hfront.subset hmem)
      · rw [← closes_iff behind, hbody, ← hs]
        exact hsplit
    have hread := hd.read?_text behind
    rw [text_eq, hbody] at hread
    rw [hs, List.append_assoc front]
    intro hnone
    simp [d, hnone] at hread
  · intro h
    obtain ⟨⟨d, rest⟩, hread⟩ := Option.ne_none_iff_exists'.1 h
    obtain ⟨hd, rfl⟩ := read?_eq_some_iff.1 hread
    exact ⟨d.capital, d.index.toList, d.body, rest, by simp [text_eq], hd.index_ne_nil,
      hd.isDecimalDigit_of_mem, hd.line⟩

theorem leftmost_iff_cut {s : List Char} {c : Cut Deletion} :
    Leftmost StartsAt ReadsAt s c ↔ pattern.cut s = c :=
  pattern.leftmost_iff (fun _ => startsAt_iff) fun _ _ _ => readsAt_iff

/-- A deletion whose parts can be told apart where it is written. -/
structure Printable (d : Deletion) : Prop where
  index_ne_nil : d.index.toList ≠ []
  isDecimalDigit_of_mem : ∀ c ∈ d.index.toList, isDecimalDigit c
  answer_line : '\n' ∉ d.answer.toList
  answer_braces : ¬ closeBraces <:+: d.answer.toList
  answer_parts : ¬ doubleColon <:+: d.answer.toList
  answer_end : d.hint = none → ¬ ['}'] <:+ d.answer.toList
  answer_end_hint : d.hint ≠ none → ¬ [':'] <:+ d.answer.toList
  hint_line : ∀ hint, d.hint = some hint → '\n' ∉ hint.toList
  hint_braces : ∀ hint, d.hint = some hint → ¬ closeBraces <:+: hint.toList
  hint_end : ∀ hint, d.hint = some hint → ¬ ['}'] <:+ hint.toList

/-- A deletion is read back as it is written exactly if its parts can be told apart. -/
theorem readable_iff_printable {d : Deletion} : d.Readable ↔ d.Printable := by
  have hcloses := splitAt?_doubled_iff (c := '}') (x := d.body) (y := [])
  rw [List.append_nil] at hcloses
  cases hhint : d.hint with
  | none =>
    have hbody : d.body = d.answer.toList := by simp [body, hhint, hintText]
    have hparts : splitHint d.body = (d.answer, d.hint) ↔ ¬ doubleColon <:+: d.answer.toList := by
      rw [← parts_iff, hhint, Parts, hbody, and_iff_right rfl]
    constructor
    · rintro ⟨hne, hdigits, hline, hclose, hsplit⟩
      rw [hbody] at hline
      obtain ⟨hbraces, hend⟩ := hcloses.1 hclose
      rw [hbody] at hbraces hend
      exact ⟨hne, hdigits, hline, hbraces, hparts.1 hsplit, fun _ => hend, by simp [hhint],
        by simp [hhint], by simp [hhint], by simp [hhint]⟩
    · intro h
      refine ⟨h.index_ne_nil, h.isDecimalDigit_of_mem, hbody ▸ h.answer_line, hcloses.2 ?_,
        hparts.2 h.answer_parts⟩
      rw [hbody]
      exact ⟨h.answer_braces, h.answer_end hhint⟩
  | some hint =>
    have hbody : d.body = d.answer.toList ++ doubleColon ++ hint.toList := by
      simp [body, hhint, hintText]
    have hline : '\n' ∉ d.body ↔ '\n' ∉ d.answer.toList ∧ '\n' ∉ hint.toList := by
      simp [hbody, doubleColon]
    have hbraces : ¬ closeBraces <:+: d.body ↔
        ¬ closeBraces <:+: d.answer.toList ∧ ¬ closeBraces <:+: hint.toList := by
      have hbody' : d.body = d.answer.toList ++ ':' :: ([] ++ ':' :: hint.toList) := by
        simp [hbody, doubleColon]
      constructor
      · intro h
        rw [hbody] at h
        exact ⟨fun ha => h (ha.trans ⟨[], doubleColon ++ hint.toList, by simp⟩),
          fun hh => h (hh.trans (List.suffix_append _ _).isInfix)⟩
      · rintro ⟨ha, hh⟩
        rw [hbody']
        exact not_infix_append_cons (by decide) ha
          (not_infix_append_cons (by decide) (by decide) hh)
    have hend : ['}'] <:+ d.body ↔ ['}'] <:+ hint.toList := by
      rw [hbody, List.singleton_suffix_iff_getLast?_eq_some,
        List.singleton_suffix_iff_getLast?_eq_some, List.getLast?_append]
      cases hint.toList.getLast? <;> simp [doubleColon]
    have hparts : splitHint d.body = (d.answer, d.hint) ↔
        ¬ doubleColon <:+: d.answer.toList ∧ ¬ [':'] <:+ d.answer.toList := by
      rw [← parts_iff, hhint, Parts, ← splitAt?_eq_some_iff_partsAt, hbody]
      exact splitAt?_doubled_iff
    constructor
    · rintro ⟨hne, hdigits, hbodyLine, hclose, hsplit⟩
      obtain ⟨hholds, hsuffix⟩ := hcloses.1 hclose
      obtain ⟨ha, hh⟩ := hbraces.1 hholds
      obtain ⟨hanswer, hanswerEnd⟩ := hparts.1 hsplit
      have hlines := hline.1 hbodyLine
      refine ⟨hne, hdigits, hlines.1, ha, hanswer, by simp [hhint], fun _ => hanswerEnd, ?_, ?_, ?_⟩
      all_goals
        rintro _ heq
        cases hhint.symm.trans heq
      · exact hlines.2
      · exact hh
      · exact mt hend.2 hsuffix
    · intro h
      refine ⟨h.index_ne_nil, h.isDecimalDigit_of_mem,
        hline.2 ⟨h.answer_line, h.hint_line hint hhint⟩, hcloses.2 ⟨?_, ?_⟩,
        hparts.2 ⟨h.answer_parts, h.answer_end_hint (by simp [hhint])⟩⟩
      · exact hbraces.2 ⟨h.answer_braces, h.hint_braces hint hhint⟩
      · exact mt hend.1 (h.hint_end hint hhint)

/-- No deletion begins in a literal without double opening braces, also where one follows. -/
theorem matchAt_append_text_eq_none {gap : List Char} (hgap : ¬ openBraces <:+: gap)
    {u v : List Char} (hsplit : gap = u ++ v) (hv : v ≠ []) (d : Deletion) (t : List Char) :
    pattern.matchAt (v ++ (d.text ++ t)) = none := by
  have hopens {c c' : Char} {v : List Char} (h : ¬ openBraces <:+: c :: c' :: v) (t : List Char) :
      pattern.matchAt (c :: c' :: (v ++ t)) = none := by
    refine Decidable.not_not.1 fun hmatch => h ?_
    obtain ⟨w, hw⟩ := pattern_opens _ hmatch
    simp only [openBraces, List.cons_append, List.cons.injEq] at hw
    obtain ⟨rfl, rfl, -⟩ := hw
    exact ⟨[], v, rfl⟩
  have hholds : ¬ openBraces <:+: v := fun h => hgap (h.trans ⟨u, [], by simp [hsplit]⟩)
  match v, hv with
  | [c], _ =>
    by_cases hc : c = '{'
    · -- Three braces: the second pair of them opens the deletion.
      subst hc
      change read? _ = none
      cases hletter : d.capital <;>
        simp [read?, text, openBraces, after?, readLetter, letter, hletter]
    · exact pattern_opens.matchAt_cons_eq_none _ hc
  | c :: c' :: v, _ => exact hopens hholds (d.text ++ t)

/-- Literals without double opening braces and deletions that are read back are found again where
they stand. -/
theorem cut_fill_text {c : Cut Deletion} (hgaps : ∀ hit ∈ c.hits, ¬ openBraces <:+: hit.1)
    (hrest : ¬ openBraces <:+: c.rest) (h : ∀ hit ∈ c.hits, hit.2.Readable) :
    pattern.cut (c.fill text) = c := by
  obtain ⟨hits, rest⟩ := c
  induction hits with
  | nil =>
    have hcut : pattern.cut (rest ++ []) = (pattern.cut []).after rest :=
      pattern.cut_append fun u v hs _ => ?_
    · simpa [Cut.fill, Cut.after] using hcut
    · refine Decidable.not_not.1 fun hmatch => hrest ?_
      obtain ⟨w, hw⟩ := pattern_opens _ hmatch
      exact ⟨u, w, by rw [hs, List.append_assoc, hw, List.append_nil]⟩
  | cons hit hits ih =>
    obtain ⟨gap, d⟩ := hit
    obtain ⟨hgap, hgaps⟩ := List.forall_mem_cons.1 hgaps
    obtain ⟨hd, hrests⟩ := List.forall_mem_cons.1 h
    have hfill := Cut.fill_cons text gap d ⟨hits, rest⟩
    have hlater := ih hgaps hrest hrests
    have hmatch : pattern.matchAt (d.text ++ Cut.fill text ⟨hits, rest⟩) = some (d, _) :=
      hd.read?_text _
    rw [hfill, pattern.cut_append fun u v hs hv => matchAt_append_text_eq_none hgap hs hv d _,
      pattern.cut_hit hmatch, hlater]
    simp [Cut.after]

/-- The deletions of a value are the leftmost ones of the grammar, and the value is what they and
the texts between them make up. Where deletions are written between literals without double opening
braces, they are found again exactly if the parts of each can be told apart. -/
theorem findAll_grammar :
    (∀ value : String, ∃ c, findAll value = c.hits.map Prod.snd ∧
      Leftmost StartsAt ReadsAt value.toList c ∧
      (∀ other, Leftmost StartsAt ReadsAt value.toList other → other = c) ∧
      c.fill text = value.toList) ∧
    ∀ c : Cut Deletion, (∀ hit ∈ c.hits, ¬ openBraces <:+: hit.1) → ¬ openBraces <:+: c.rest →
      (findAll (String.ofList (c.fill text)) = c.hits.map Prod.snd ↔
        ∀ hit ∈ c.hits, hit.2.Printable) := by
  constructor
  · intro value
    refine ⟨pattern.cut value.toList, rfl, leftmost_iff_cut.2 rfl, fun other hother => ?_,
      pattern.fill_text_cut _⟩
    exact (leftmost_iff_cut.1 hother).symm
  · intro c hgaps hrest
    rw [findAll, Pattern.findAll_eq, String.toList_ofList]
    constructor
    · intro hfound hit hmem
      refine readable_iff_printable.1 (readable_of_mem_found (s := c.fill text) ?_)
      rw [hfound]
      exact List.mem_map_of_mem hmem
    · intro h
      rw [Pattern.found, cut_fill_text hgaps hrest fun hit hmem =>
        readable_iff_printable.2 (h hit hmem)]

/-- Three braces before a deletion, whose hint begins with a colon, and three behind it. -/
theorem findAll_grammar_three_braces :
    findAll "x\x7b\x7b\x7bc1::a:::b\x7d\x7d\x7d" = [⟨false, "1", "a", some ":b"⟩] := by
  let d : Deletion := ⟨false, "1", "a", some ":b"⟩
  let c : Cut Deletion := ⟨[(['x', '{'], d)], ['}']⟩
  have hwritten : String.ofList (c.fill text) = "x\x7b\x7b\x7bc1::a:::b\x7d\x7d\x7d" := by decide
  have hread : read? d.text = some (d, []) := by decide
  have hd : d.Printable := readable_iff_printable.1 (readable_of_read?_eq_some hread)
  have h := (findAll_grammar.2 c (List.forall_mem_singleton.2 (by decide)) (by decide)).2
    (List.forall_mem_singleton.2 hd)
  rwa [hwritten] at h

end Deletion

end Flashcard
