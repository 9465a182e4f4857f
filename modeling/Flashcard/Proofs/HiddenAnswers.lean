import Flashcard.Proofs.Directive.Unclosed
import Flashcard.Proofs.FieldReading
import Mathlib.Data.List.Forall2
import Mathlib.Data.List.Permutation

/-!
# Hidden answers

The front of a cloze card hides the answers of the card's deletions. All values that differ from a
value in these answers only have its front, exactly if uncovering the other deletions leaves no
deletion open in the text before a hidden one (`front_hides_answers_iff`). A deletion that is left
open takes the hidden one behind it for a part of itself and shows its answer as a hint
(`front_shows_answer`).
-/

namespace Flashcard

namespace Deletion

/-- Whether two deletions differ at most in an answer that is hidden at index `target`. -/
structure Alike (target : String) (d d' : Deletion) : Prop where
  index : d.index = d'.index
  hint : d.hint = d'.hint
  answer : d.index ≠ target → d.answer = d'.answer

end Deletion

open Deletion

/-- Whether two values fall into the same pieces but for the answers hidden at index `target`. -/
structure AlikeCut (target : String) (c c' : Cut Deletion) : Prop where
  hits : List.Forall₂ (fun hit hit' => hit.1 = hit'.1 ∧ hit.2.Alike target hit'.2) c.hits c'.hits
  rest : c.rest = c'.rest

/-- The cut of a value at the deletions of index `target`, where the others are uncovered. -/
def uncovered (target value : String) : Cut Deletion :=
  (Deletion.pattern.cut value.toList).keep (·.index == target) fun d => d.answer.toList

section Uncovered

variable {target : String}

theorem toList_reveal (value : String) :
    (Narrowed.reveal target value).toList = (uncovered target value).fill Deletion.text := by
  rw [uncovered, Cut.fill_keep, Narrowed.reveal, Pattern.replace_eq, String.toList_ofList,
    Pattern.rewrite]
  congr 1
  funext d
  by_cases hd : d.index == target <;> simp [hd]

theorem readable_of_mem_uncovered {value : String} {hit : List Char × Deletion}
    (h : hit ∈ (uncovered target value).hits) : hit.2.Readable :=
  readable_of_mem_found (Cut.mem_hits_keep h).2

theorem AlikeCut.after {c c' : Cut Deletion} (h : AlikeCut target c c') (before : List Char) :
    AlikeCut target (c.after before) (c'.after before) := by
  obtain ⟨hits, rest⟩ := c
  obtain ⟨hits', rest'⟩ := c'
  obtain ⟨hhits, hrest⟩ := h
  cases hhits with
  | nil => exact ⟨.nil, congrArg (before ++ ·) hrest⟩
  | cons hhit hhits => exact ⟨.cons ⟨congrArg (before ++ ·) hhit.1, hhit.2⟩ hhits, hrest⟩

/-- Uncovering the other deletions leaves alike values alike. -/
theorem AlikeCut.keep {c c' : Cut Deletion} (h : AlikeCut target c c') :
    AlikeCut target (c.keep (·.index == target) fun d => d.answer.toList)
      (c'.keep (·.index == target) fun d => d.answer.toList) := by
  obtain ⟨hits, rest⟩ := c
  obtain ⟨hits', rest'⟩ := c'
  obtain ⟨hhits, hrest⟩ := h
  dsimp only at hhits hrest
  subst hrest
  induction hhits with
  | nil => exact ⟨.nil, rfl⟩
  | @cons hit hit' hits hits' hhit hhits ih =>
    obtain ⟨gap, d⟩ := hit
    obtain ⟨gap', d'⟩ := hit'
    obtain ⟨rfl, hd⟩ : gap = gap' ∧ d.Alike target d' := hhit
    rw [Cut.keep_cons, Cut.keep_cons, ← hd.index]
    by_cases htarget : d.index = target
    · rw [if_pos (by simpa using htarget), if_pos (by simpa using htarget)]
      exact ⟨.cons ⟨rfl, hd⟩ ih.hits, ih.rest⟩
    · rw [if_neg (by simpa using htarget), if_neg (by simpa using htarget), hd.answer htarget]
      exact ih.after _

theorem any_index_eq {value value' : String}
    (h : AlikeCut target (Deletion.pattern.cut value.toList)
      (Deletion.pattern.cut value'.toList)) :
    (Deletion.findAll value).any (·.index == target) =
      (Deletion.findAll value').any (·.index == target) := by
  obtain ⟨hhits, -⟩ := h
  simp only [Deletion.findAll, Pattern.findAll, List.any_map]
  generalize (Deletion.pattern.cut value.toList).hits = hits at hhits ⊢
  generalize (Deletion.pattern.cut value'.toList).hits = hits' at hhits ⊢
  induction hhits with
  | nil => rfl
  | cons hhit _ ih =>
    rw [List.any_cons, List.any_cons, ih, Function.comp_apply, Function.comp_apply, hhit.2.index]

/-- What a deletion becomes on the front. -/
def bracketed (filler : String) (d : Deletion) : List Char :=
  (frontBrackets (d.hint.getD filler)).toList

/-- What is on the front, where `c` is cut at the hidden deletions. -/
def hidden (filler : String) (c : Cut Deletion) : List Char :=
  Deletion.pattern.rewrite (bracketed filler) (c.fill Deletion.text)

theorem toList_clozeMarkup_reveal (name value : String) (stripper : Stripper)
    (settings : Settings) :
    (FieldView.clozeMarkup
      ⟨name, Narrowed.reveal target value, .front, stripper, settings⟩).toList =
        hidden settings.clozeFiller (uncovered target value) := by
  rw [FieldView.clozeMarkup, Pattern.replace_eq, String.toList_ofList, toList_reveal]
  rfl

variable {filler : String}

/-- Where no deletion is left open, the front shows the gaps and the hints. -/
theorem AlikeCut.hidden_eq {c c' : Cut Deletion} (h : AlikeCut target c c')
    (hread : ∀ hit ∈ c.hits, hit.2.Readable) (hread' : ∀ hit ∈ c'.hits, hit.2.Readable)
    (hclosed : ∀ hit ∈ c.hits, ¬ LeavesOpen hit.1) : hidden filler c = hidden filler c' := by
  obtain ⟨hits, rest⟩ := c
  obtain ⟨hits', rest'⟩ := c'
  obtain ⟨hhits, hrest⟩ := h
  dsimp only at hhits hrest hread hread' hclosed
  subst hrest
  induction hhits with
  | nil => rfl
  | @cons hit hit' hits hits' hhit hhits ih =>
    obtain ⟨gap, d⟩ := hit
    obtain ⟨gap', d'⟩ := hit'
    obtain ⟨rfl, hd⟩ : gap = gap' ∧ d.Alike target d' := hhit
    obtain ⟨hreadd, hread⟩ := List.forall_mem_cons.1 hread
    obtain ⟨hreadd', hread'⟩ := List.forall_mem_cons.1 hread'
    obtain ⟨hgap, hclosed⟩ := List.forall_mem_cons.1 hclosed
    have hlater := ih hread hclosed hread'
    have hfill := Cut.fill_cons Deletion.text gap d ⟨hits, rest⟩
    have hfill' := Cut.fill_cons Deletion.text gap d' ⟨hits', rest⟩
    have hshown : bracketed filler d = bracketed filler d' := by
      rw [bracketed, bracketed, hd.hint]
    rw [hidden, hidden] at hlater ⊢
    rw [hfill, hfill', rewrite_append_text hreadd hgap, rewrite_append_text hreadd' hgap, hshown,
      hlater]

/-- The front of alike values, where no deletion is left open before a hidden one. -/
theorem clozeMarkup_reveal_eq {value value' : String}
    (halike : AlikeCut target (Deletion.pattern.cut value.toList)
      (Deletion.pattern.cut value'.toList))
    (hclosed : ∀ hit ∈ (uncovered target value).hits, ¬ LeavesOpen hit.1)
    (name : String) (stripper : Stripper) (settings : Settings) :
    FieldView.clozeMarkup
        ⟨name, Narrowed.reveal target value, .front, stripper, settings⟩ =
      FieldView.clozeMarkup
        ⟨name, Narrowed.reveal target value', .front, stripper, settings⟩ := by
  rw [← String.toList_inj, toList_clozeMarkup_reveal, toList_clozeMarkup_reveal]
  exact halike.keep.hidden_eq (fun _ => readable_of_mem_uncovered)
    (fun _ => readable_of_mem_uncovered) hclosed

end Uncovered

section Lengthen

variable {target : String}

/-- The deletion with one more character in an answer hidden at index `target`. -/
def lengthen (target : String) (d : Deletion) : Deletion :=
  if d.index = target then { d with answer := d.answer ++ "x" } else d

theorem lengthen_capital (d : Deletion) : (lengthen target d).capital = d.capital := by
  unfold lengthen
  split <;> rfl

theorem lengthen_index (d : Deletion) : (lengthen target d).index = d.index := by
  unfold lengthen
  split <;> rfl

theorem alike_lengthen (d : Deletion) : d.Alike target (lengthen target d) where
  index := (lengthen_index d).symm
  hint := by
    unfold lengthen
    split <;> rfl
  answer hne := by rw [lengthen, if_neg hne]

theorem length_body_lengthen {d : Deletion} (h : d.index = target) :
    (lengthen target d).body.length = d.body.length + 1 := by
  rw [lengthen, if_pos h]
  simp only [body, String.toList_append, List.length_append]
  have hx : "x".toList.length = 1 := rfl
  omega

theorem readable_append_answer {d : Deletion} (hd : d.Readable) :
    Readable { d with answer := d.answer ++ "x" } := by
  have hbody : body { d with answer := d.answer ++ "x" } =
      d.answer.toList ++ 'x' :: hintText d.hint := by simp [body]
  refine ⟨hd.index_ne_nil, hd.isDecimalDigit_of_mem, ?_, ?_, ?_⟩ <;> rw [hbody]
  · have hline := hd.line
    simp only [body, List.mem_append, not_or] at hline
    simp [hline]
  · have hanswer : ¬ closeBraces <:+: d.answer.toList := fun h =>
      not_infix_of_splitAt?_eq_some (by simp [closeBraces]) hd.closes
        (h.trans (List.infix_append' [] _ _))
    have hcloses : splitAt? closeBraces (d.answer.toList ++ (hintText d.hint ++ closeBraces)) =
        some (d.answer.toList ++ hintText d.hint, []) := by
      rw [← List.append_assoc]
      exact hd.closes
    have hhint : splitAt? closeBraces (hintText d.hint ++ closeBraces) =
        some (hintText d.hint, []) := splitAt?_of_append hcloses
    rw [List.append_assoc, List.cons_append, closeBraces,
      splitAt?_append_cons (by decide) hanswer]
    rw [closeBraces] at hhint
    rw [hhint]
    rfl
  · have hparts := hd.parts
    have hanswer : ¬ doubleColon <:+: d.answer.toList := by
      unfold splitHint at hparts
      split at hparts
      · next answer hint hsplit =>
        rw [← (Prod.mk.inj hparts).1, String.toList_ofList]
        exact not_infix_of_splitAt?_eq_some (List.cons_ne_nil _ _) hsplit
      · next hsplit =>
        rw [← (Prod.mk.inj hparts).1, String.toList_ofList]
        exact splitAt?_eq_none_iff.1 hsplit
    have hx : 'x' ≠ ':' := by decide
    have hmatch := splitAt?_append_cons hx hanswer (hintText d.hint)
    cases hhint : d.hint with
    | none =>
      have hnone : splitAt? [':', ':'] (hintText none) = none := rfl
      rw [hhint, hnone, Option.map_none] at hmatch
      rw [splitHint, doubleColon, hmatch]
      simp [hintText]
    | some hint =>
      have hsome : splitAt? [':', ':'] (hintText (some hint)) = some ([], hint.toList) :=
        splitAt?_hit (after?_append _ _)
      rw [hhint, hsome, Option.map_some] at hmatch
      rw [splitHint, doubleColon, hmatch]
      simp

theorem readable_lengthen (target : String) {d : Deletion} (hd : d.Readable) : (lengthen target d).Readable := by
  rw [lengthen]
  split
  · exact readable_append_answer hd
  · exact hd

theorem alikeCut_lengthen (c : Cut Deletion) : AlikeCut target c (c.map (lengthen target)) := by
  refine ⟨?_, rfl⟩
  rw [Cut.map, List.forall₂_map_right_iff, List.forall₂_same]
  exact fun hit _ => ⟨rfl, alike_lengthen hit.2⟩

theorem length_append_lt (before s t behind : String) :
    (before ++ s ++ behind).toList.length < (before ++ t ++ behind).toList.length ↔
      s.length < t.length := by
  simp only [String.length_toList, String.length_append]
  omega

theorem length_frontBrackets_lt {s t : String} :
    (frontBrackets s).toList.length < (frontBrackets t).toList.length ↔ s.length < t.length :=
  length_append_lt _ s t _

/-- A longer hidden answer makes the front longer if a deletion is left open before it. -/
theorem length_hidden_lengthen (filler : String) {c : Cut Deletion}
    (hread : ∀ hit ∈ c.hits, hit.2.Readable ∧ hit.2.index = target) :
    (hidden filler c).length ≤ (hidden filler (c.map (lengthen target))).length ∧
      ((∃ hit ∈ c.hits, LeavesOpen hit.1) →
        (hidden filler c).length < (hidden filler (c.map (lengthen target))).length) := by
  obtain ⟨hits, rest⟩ := c
  induction hits with
  | nil => exact ⟨Nat.le_refl _, fun ⟨_, hhit, _⟩ => nomatch hhit⟩
  | cons hit hits ih =>
    obtain ⟨gap, d⟩ := hit
    obtain ⟨⟨hd, hindex⟩, hread⟩ := List.forall_mem_cons.1 hread
    obtain ⟨hle, hlt⟩ := ih hread
    have hd' : (lengthen target d).Readable := readable_lengthen target hd
    have hfill := Cut.fill_cons Deletion.text gap d ⟨hits, rest⟩
    have hfill' := Cut.fill_cons Deletion.text gap (lengthen target d)
      (Cut.map (lengthen target) ⟨hits, rest⟩)
    rw [Cut.map_cons]
    rw [hidden, hidden] at hle hlt ⊢
    rw [hfill, hfill']
    by_cases hgap : LeavesOpen gap
    · obtain ⟨before, u, rfl, hbefore⟩ := hgap.exists_first
      obtain ⟨start, hstart⟩ := u.exists_hint_takes d.capital d.index
      have htext (a : Deletion) (s : List Char) :
          before ++ u.text ++ (a.text ++ s) = before ++ ((u.takes a).text ++ s) := by
        rw [u.text_takes]
        simp only [List.append_assoc]
      have hshown : (bracketed filler (u.takes d)).length <
          (bracketed filler (u.takes (lengthen target d))).length := by
        rw [bracketed, bracketed, hstart d rfl rfl,
          hstart _ (lengthen_capital d) (lengthen_index d)]
        refine length_frontBrackets_lt.2 ?_
        simp [length_body_lengthen hindex]
      rw [htext, htext, rewrite_append_text (u.readable_takes hd) hbefore,
        rewrite_append_text (u.readable_takes hd') hbefore]
      simp only [List.length_append]
      exact ⟨by omega, fun _ => by omega⟩
    · have hshown : bracketed filler d = bracketed filler (lengthen target d) := by
        rw [bracketed, bracketed, (alike_lengthen d).hint]
      rw [rewrite_append_text hd hgap, rewrite_append_text hd' hgap, ← hshown]
      simp only [List.length_append]
      refine ⟨by omega, fun ⟨hit, hhit, hopen⟩ => ?_⟩
      obtain rfl | hlater := List.mem_cons.1 hhit
      · exact absurd hopen hgap
      · have hless := hlt ⟨hit, hlater, hopen⟩
        omega

/-- Longer answers in place of the hidden ones make an alike value. -/
theorem exists_longer (target value : String) :
    ∃ value', AlikeCut target (Deletion.pattern.cut value.toList)
        (Deletion.pattern.cut value'.toList) ∧
      uncovered target value' = (uncovered target value).map (lengthen target) := by
  have hcut := cut_fill_map (fun d hd => readable_lengthen target hd) value.toList
  refine ⟨String.ofList (((Deletion.pattern.cut value.toList).map (lengthen target)).fill
    Deletion.text), ?_, ?_⟩
  · rw [String.toList_ofList, hcut]
    exact alikeCut_lengthen _
  · have hkeep (d : Deletion) : ((lengthen target d).index == target) = (d.index == target) := by
      rw [lengthen_index]
    have hout (d : Deletion) (h : (d.index == target) = false) : lengthen target d = d := by
      rw [lengthen, if_neg (by simpa using h)]
    rw [uncovered, String.toList_ofList, hcut, Cut.keep_map hkeep hout]
    rfl

/-- A deletion that is left open lets a hidden answer through. -/
theorem exists_clozeMarkup_reveal_ne {value : String}
    (hopen : ∃ hit ∈ (uncovered target value).hits, LeavesOpen hit.1)
    (name : String) (stripper : Stripper) (settings : Settings) :
    ∃ value', AlikeCut target (Deletion.pattern.cut value.toList)
        (Deletion.pattern.cut value'.toList) ∧
      FieldView.clozeMarkup ⟨name, Narrowed.reveal target value, .front, stripper, settings⟩ ≠
        FieldView.clozeMarkup
          ⟨name, Narrowed.reveal target value', .front, stripper, settings⟩ := by
  obtain ⟨value', halike, hlonger⟩ := exists_longer target value
  refine ⟨value', halike, fun heq => ?_⟩
  have hread : ∀ hit ∈ (uncovered target value).hits, hit.2.Readable ∧ hit.2.index = target :=
    fun hit hhit =>
      ⟨readable_of_mem_uncovered hhit, by simpa using (Cut.mem_hits_keep hhit).1⟩
  have hlt := (length_hidden_lengthen settings.clozeFiller hread).2 hopen
  rw [← String.toList_inj, toList_clozeMarkup_reveal, toList_clozeMarkup_reveal, hlonger] at heq
  rw [← heq] at hlt
  exact Nat.lt_irrefl _ hlt

end Lengthen

/-- A template of one slot. -/
def slotTemplate (name : String) : String := String.ofList (tag (Slot.inner name))

/-- A field fills its own slot, and no other step of its changes the slot. -/
theorem apply_slot {field : FieldView} (hfree : BraceFree field.name.toList) :
    field.apply (tag (Slot.inner field.name)) = field.clozeMarkup.toList := by
  have hinner := Slot.braceFree_inner hfree
  have htext : BraceFree (Reference.text field.name).inner :=
    braceFree_append.2 ⟨by decide, hfree⟩
  have hvalue : field.putValue (tag (Slot.inner field.name)) = tag (Slot.inner field.name) := by
    refine Pattern.rewrite_tag_eq_self (Pattern.literal_matchesTags _ hfree).opens _ hinner
      fun t => ?_
    refine (Pattern.literal_matchAt_tag _ hfree hinner t).trans (if_neg fun heq => ?_)
    have hlength := congrArg List.length heq
    simp only [Slot.inner, slotKeyword, List.length_append, List.length_cons] at hlength
    omega
  have hsections (kind : Section) :
      field.decideSections kind (tag (Slot.inner field.name)) = tag (Slot.inner field.name) := by
    refine Pattern.rewrite_tag_eq_self (kind.patternFor_opens _) _ hinner fun t => ?_
    refine kind.patternFor_matchAt_tag_eq_none hfree hinner (fun heq => ?_) t
    exact absurd (List.cons.inj heq).1 (by cases kind <;> decide)
  have hstripped : field.putText (tag (Slot.inner field.name)) = tag (Slot.inner field.name) := by
    rw [FieldView.putText, textPattern_eq]
    refine Pattern.rewrite_tag_eq_self (Pattern.literal_matchesTags _ htext).opens _ hinner
      fun t => ?_
    refine (Pattern.literal_matchAt_tag _ htext hinner t).trans (if_neg fun heq => ?_)
    exact absurd (List.cons.inj heq).1 (by decide)
  have hslot := Slot.patternFor_matchAt_tag hfree hinner []
  rw [if_pos rfl, List.append_nil] at hslot
  rw [FieldView.apply, hvalue, hsections, hsections, hstripped, FieldView.fillSlots,
    Pattern.rewrite_hit _ _ hslot, Pattern.rewrite_nil, List.append_nil]

theorem fields_slotTemplate {name : String} (hne : name ≠ "") (hfree : BraceFree name.toList)
    (hline : '\n' ∉ name.toList) : Slot.fields (slotTemplate name) = [name] := by
  have hmatch := Slot.pattern_matchAt_slot hfree hne hline []
  rw [List.append_nil] at hmatch
  rw [Slot.fields, Pattern.findAll_eq, slotTemplate, String.toList_ofList,
    Slot.pattern.found_hit hmatch, Pattern.found_nil]
  rfl

section Card

variable (stripper : Stripper) (settings : Settings) (ord : Ordinal) {name : String}

/-- What the front of a one-slot card shows. -/
theorem card_slotTemplate (hne : name ≠ "") (hfree : BraceFree name.toList)
    (hline : '\n' ∉ name.toList) {target : String} (htarget : target = toString ord.deletionIndex)
    (value back : String) :
    let shown := FieldView.clozeMarkup
      ⟨name, Narrowed.reveal target value, .front, stripper, settings⟩
    ∃ card, (Renderer.withBuiltIns stripper settings).card .cloze ord [(name, value)]
        (slotTemplate name) back = .ok card ∧
      card.map Card.front =
        if (Deletion.findAll value).any (·.index == target) ∧ shown ≠ slotTemplate name then
          some shown
        else none := by
  intro shown
  have hslots := fields_slotTemplate hne hfree hline
  have hnarrow := Narrowed.ofCloze_eq [(name, value)] (slotTemplate name) back htarget
  simp only [hslots] at hnarrow
  have htakes : Narrowed.takesPart [name] target (name, value) =
      (Deletion.findAll value).any (·.index == target) := by simp [Narrowed.takesPart]
  by_cases hasks : (Deletion.findAll value).any (·.index == target)
  · have hnote : Renderer.narrow .cloze ord [(name, value)] (slotTemplate name) back =
        ⟨[(name, Narrowed.reveal target value)], slotTemplate name, back⟩ := by
      rw [hasks] at htakes
      rw [Renderer.narrow, hnarrow, List.filter_cons_of_pos htakes]
      simp [htakes]
    refine ⟨_, card_withBuiltIns stripper settings hnote, ?_⟩
    have hfront : builtInText stripper settings .front [(name, Narrowed.reveal target value)]
        (slotTemplate name).toList = shown.toList := by
      rw [slotTemplate, String.toList_ofList]
      exact apply_slot hfree
    simp only [hfront, String.toList_inj, String.ofList_toList, hasks, true_and]
    by_cases hsame : shown = slotTemplate name <;> simp [hsame]
  · have hnote : Renderer.narrow .cloze ord [(name, value)] (slotTemplate name) back =
        ⟨[], Narrowed.removeSlots name (slotTemplate name), Narrowed.removeSlots name back⟩ := by
      rw [Bool.not_eq_true] at hasks
      rw [hasks] at htakes
      rw [Renderer.narrow, hnarrow]
      simp [htakes]
    refine ⟨_, card_withBuiltIns stripper settings hnote, ?_⟩
    simp [hasks, builtInText, views]

/-- The front of a card does not depend on the answers that it hides exactly if uncovering the
other deletions leaves none open before a hidden one. -/
theorem front_hides_answers_iff (hne : name ≠ "") (hfree : BraceFree name.toList)
    (hline : '\n' ∉ name.toList) (value : String) :
    (∀ value', AlikeCut (toString ord.deletionIndex) (Deletion.pattern.cut value.toList)
        (Deletion.pattern.cut value'.toList) → ∀ back, ∃ card card',
      (Renderer.withBuiltIns stripper settings).card .cloze ord [(name, value)]
        (slotTemplate name) back = .ok card ∧
      (Renderer.withBuiltIns stripper settings).card .cloze ord [(name, value')]
        (slotTemplate name) back = .ok card' ∧
      card.map Card.front = card'.map Card.front) ↔
    ∀ hit ∈ (uncovered (toString ord.deletionIndex) value).hits, ¬ LeavesOpen hit.1 := by
  have hcard := card_slotTemplate stripper settings ord hne hfree hline rfl
  constructor
  · intro hsame hit hhit hopen
    obtain ⟨value', halike, hne⟩ :=
      exists_clozeMarkup_reveal_ne ⟨hit, hhit, hopen⟩ name stripper settings
    obtain ⟨card, card', hok, hok', heq⟩ := hsame value' halike ""
    obtain ⟨shown, hshown, hfront⟩ := hcard value ""
    obtain ⟨shown', hshown', hfront'⟩ := hcard value' ""
    cases hok.symm.trans hshown
    cases hok'.symm.trans hshown'
    have hasks : (Deletion.findAll value).any (·.index == toString ord.deletionIndex) :=
      List.any_eq_true.2 ⟨hit.2, (Cut.mem_hits_keep hhit).2, (Cut.mem_hits_keep hhit).1⟩
    rw [hfront, hfront', ← any_index_eq halike] at heq
    simp only [hasks, true_and] at heq
    -- Both fronts are missing only if both are the template, and then they agree.
    split at heq <;> split at heq
    · exact hne (Option.some.inj heq)
    · cases heq
    · cases heq
    · next h h' => exact hne ((not_not.1 h).trans (not_not.1 h').symm)
  · intro hclosed value' halike back
    obtain ⟨card, hok, hfront⟩ := hcard value back
    obtain ⟨card', hok', hfront'⟩ := hcard value' back
    refine ⟨card, card', hok, hok', ?_⟩
    rw [hfront, hfront', any_index_eq halike,
      clozeMarkup_reveal_eq halike hclosed name stripper settings]

end Card

/-- Two answers that are hidden, and a front that does not tell which it is. -/
theorem front_hides_two_answers :
    ∃ card card',
      (Renderer.withBuiltIns id {}).card .cloze .first [("N", "\x7b\x7bc1::a\x7d\x7d")]
        (slotTemplate "N") "" = .ok card ∧
      (Renderer.withBuiltIns id {}).card .cloze .first [("N", "\x7b\x7bc1::b\x7d\x7d")]
        (slotTemplate "N") "" = .ok card' ∧
      card.map Card.front = card'.map Card.front := by
  have ha : Deletion.pattern.cut "\x7b\x7bc1::a\x7d\x7d".toList =
      ⟨[([], ⟨false, "1", "a", none⟩)], []⟩ := by cbv
  have hb : Deletion.pattern.cut "\x7b\x7bc1::b\x7d\x7d".toList =
      ⟨[([], ⟨false, "1", "b", none⟩)], []⟩ := by cbv
  refine (front_hides_answers_iff id {} .first (by decide) (by decide) (by decide) _).2
    ?_ _ ?_ ""
  · have hopen : ¬ LeavesOpen [] := by
      rintro ⟨u, hu⟩
      simpa [Unclosed.text, opening, openBraces] using List.suffix_nil.1 hu
    rw [uncovered, ha]
    exact List.forall_mem_singleton.2 hopen
  · rw [ha, hb]
    exact ⟨.cons ⟨rfl, rfl, rfl, fun h => absurd (by decide) h⟩ .nil, rfl⟩

/-- The hint of the open deletion is the answer of the hidden one behind it. -/
theorem clozeMarkup_of_open {value answer : String}
    (hcut : Deletion.pattern.cut value.toList =
      ⟨[([], ⟨false, "1", "x \x7b\x7bc1", some answer⟩)], []⟩) :
    FieldView.clozeMarkup ⟨"N", value, .front, id, {}⟩ = frontBrackets answer := by
  rw [FieldView.clozeMarkup_of_cut hcut, FieldView.showDeletion]
  rfl

theorem frontBrackets_inj {s t : String} (h : frontBrackets s = frontBrackets t) : s = t := by
  unfold frontBrackets at h
  exact (String.append_right_inj _).1 ((String.append_left_inj _).1 h)

/-- The answer behind an open deletion shows on the front. -/
theorem front_shows_answer :
    AlikeCut "1"
        (Deletion.pattern.cut
          "\x7b\x7bc\x7b\x7bc2::1\x7d\x7d::x \x7b\x7bc1::secret\x7d\x7d".toList)
        (Deletion.pattern.cut
          "\x7b\x7bc\x7b\x7bc2::1\x7d\x7d::x \x7b\x7bc1::other\x7d\x7d".toList) ∧
      ∃ card card',
        (Renderer.withBuiltIns id {}).card .cloze .first
          [("N", "\x7b\x7bc\x7b\x7bc2::1\x7d\x7d::x \x7b\x7bc1::secret\x7d\x7d")]
          (slotTemplate "N") "" = .ok card ∧
        (Renderer.withBuiltIns id {}).card .cloze .first
          [("N", "\x7b\x7bc\x7b\x7bc2::1\x7d\x7d::x \x7b\x7bc1::other\x7d\x7d")]
          (slotTemplate "N") "" = .ok card' ∧
        card.map Card.front ≠ card'.map Card.front := by
  have hsecret : Deletion.pattern.cut
      "\x7b\x7bc\x7b\x7bc2::1\x7d\x7d::x \x7b\x7bc1::secret\x7d\x7d".toList =
      ⟨[(['\x7b', '\x7b', 'c'], ⟨false, "2", "1", none⟩),
        ([':', ':', 'x', ' '], ⟨false, "1", "secret", none⟩)], []⟩ := by cbv
  have hother : Deletion.pattern.cut
      "\x7b\x7bc\x7b\x7bc2::1\x7d\x7d::x \x7b\x7bc1::other\x7d\x7d".toList =
      ⟨[(['\x7b', '\x7b', 'c'], ⟨false, "2", "1", none⟩),
        ([':', ':', 'x', ' '], ⟨false, "1", "other", none⟩)], []⟩ := by cbv
  constructor
  · rw [hsecret, hother]
    exact ⟨.cons ⟨rfl, rfl, rfl, fun _ => rfl⟩
      (.cons ⟨rfl, rfl, rfl, fun h => absurd rfl h⟩ .nil), rfl⟩
  · have htarget : "1" = toString Ordinal.first.deletionIndex := by decide
    obtain ⟨card, hcard, hfront⟩ := card_slotTemplate id {} .first
      (by decide : "N" ≠ "") (by decide) (by decide) htarget
      "\x7b\x7bc\x7b\x7bc2::1\x7d\x7d::x \x7b\x7bc1::secret\x7d\x7d" ""
    obtain ⟨card', hcard', hfront'⟩ := card_slotTemplate id {} .first
      (by decide : "N" ≠ "") (by decide) (by decide) htarget
      "\x7b\x7bc\x7b\x7bc2::1\x7d\x7d::x \x7b\x7bc1::other\x7d\x7d" ""
    have hshown : FieldView.clozeMarkup ⟨"N", Narrowed.reveal "1"
        "\x7b\x7bc\x7b\x7bc2::1\x7d\x7d::x \x7b\x7bc1::secret\x7d\x7d", .front, id, {}⟩ =
        frontBrackets "secret" := clozeMarkup_of_open (by cbv)
    have hshown' : FieldView.clozeMarkup ⟨"N", Narrowed.reveal "1"
        "\x7b\x7bc\x7b\x7bc2::1\x7d\x7d::x \x7b\x7bc1::other\x7d\x7d", .front, id, {}⟩ =
        frontBrackets "other" := clozeMarkup_of_open (by cbv)
    refine ⟨card, card', hcard, hcard', fun h => ?_⟩
    rw [hfront, hfront', hshown, hshown', if_pos ⟨by cbv, by decide⟩,
      if_pos ⟨by cbv, by decide⟩] at h
    exact absurd (frontBrackets_inj (Option.some.inj h)) (by decide)

end Flashcard
