import Flashcard.Directive.Section
import Flashcard.Directive.Slot
import Flashcard.Proofs.Expression

/-!
# Directives as expressions

Each directive that a scan looks for can be written as an expression. What a reader of the
directive takes at the front of a text is the preferred way of the expression there, and the parts
that it hands back are the texts of the groups (`Deletion.first?_expression` and its like).

So a deletion always comes with its index and its answer, a slot with the name of a field and a
section with its body. The hint alone is an optional part.
-/

namespace Flashcard

/-! ### Letter case -/

/-- Whether no other character is the same letter. -/
def isCaseless (a : Char) : Bool := !isFoldingTarget a.toNat && foldCase a == a && a != '\x00'

theorem sameLetter_of_isCaseless {a : Char} (ha : isCaseless a = true) (c : Char) :
    sameLetter a c = (a == c) := by
  simp only [isCaseless, Bool.and_eq_true, Bool.not_eq_true', beq_iff_eq, bne_iff_ne] at ha
  rw [Bool.eq_iff_iff, sameLetter_iff, beq_iff_eq]
  constructor
  · exact fun h => (eq_of_foldCase_eq ha.1.1 ha.1.2 ha.2 h.symm).symm
  · exact congrArg foldCase

theorem takeFolded?_of_isCaseless {needle : List Char} (h : needle.all isCaseless = true)
    (s : List Char) : takeFolded? needle s = (after? needle s).map fun rest => (needle, rest) := by
  induction needle generalizing s with
  | nil => rfl
  | cons a needle ih =>
    rw [List.all_cons, Bool.and_eq_true] at h
    cases s with
    | nil => rfl
    | cons c s =>
      rw [takeFolded?, after?, sameLetter_of_isCaseless h.1, ih h.2]
      by_cases hc : a = c
      · simp [hc, Function.comp_def]
      · simp [hc]

theorem takeFolded?_openBraces (s : List Char) :
    takeFolded? openBraces s = (after? openBraces s).map fun rest => (openBraces, rest) :=
  takeFolded?_of_isCaseless (by decide) s

theorem takeFolded?_closeBraces (s : List Char) :
    takeFolded? closeBraces s = (after? closeBraces s).map fun rest => (closeBraces, rest) :=
  takeFolded?_of_isCaseless (by decide) s

theorem takeFolded?_doubleColon (s : List Char) :
    takeFolded? doubleColon s = (after? doubleColon s).map fun rest => (doubleColon, rest) :=
  takeFolded?_of_isCaseless (by decide) s

theorem takeFolded?_append (u v s : List Char) :
    takeFolded? (u ++ v) s = (takeFolded? u s).bind fun (w, s) =>
      (takeFolded? v s).map fun (w', rest) => (w ++ w', rest) := by
  induction u generalizing s with
  | nil => simp [takeFolded?]
  | cons a u ih =>
    cases s with
    | nil => rfl
    | cons c s =>
      rw [List.cons_append, takeFolded?, takeFolded?, ih]
      by_cases hc : sameLetter a c = true
      · rw [if_pos hc, if_pos hc, Option.map_bind, Option.bind_map]
        simp only [Function.comp_def, Option.map_map, List.cons_append]
      · rw [if_neg hc, if_neg hc, Option.bind_none]

/-- The letter before an index has two forms. -/
theorem eq_or_eq_of_foldCase_eq_c {x : Char} (h : foldCase x = foldCase 'c') :
    x = 'c' ∨ x = 'C' :=
  eq_or_eq_toUpper_of_foldCase_eq (by decide) (by decide) (by decide) h

theorem takeFolded?_letter (s : List Char) :
    takeFolded? ['c'] s =
      (Deletion.readLetter s).map fun (capital, rest) => ([Deletion.letter capital], rest) := by
  cases s with
  | nil => rfl
  | cons x s =>
    have hc : sameLetter 'c' 'c' = true := by decide
    have hC : sameLetter 'c' 'C' = true := by decide
    by_cases hx : x = 'c' ∨ x = 'C'
    · obtain rfl | rfl := hx
      · rw [takeFolded?, if_pos hc]
        rfl
      · rw [takeFolded?, if_pos hC]
        rfl
    · have hne : ¬ sameLetter 'c' x = true := fun h =>
        hx (eq_or_eq_of_foldCase_eq_c (sameLetter_iff.1 h).symm)
      rw [takeFolded?, if_neg hne, Deletion.readLetter.eq_def]
      split <;> simp_all

/-- A character that does not end a line. -/
def inLine (c : Char) : Bool := c != '\n'

theorem all_inLine (s : List Char) : s.all inLine = !s.contains '\n' := by
  rw [Bool.eq_iff_iff]
  simp [inLine, List.all_eq_true]
  grind

theorem partWithin?_inLine (needle s : List Char) :
    Expression.partWithin? inLine needle s = (splitAt? needle s).bind fun (front, rest) =>
      if front.contains '\n' then none else some (front, rest) := by
  rw [Expression.partWithin?]
  cases splitAt? needle s with
  | none => rfl
  | some parts =>
    obtain ⟨front, rest⟩ := parts
    simp only [Option.filter, Option.bind_some, all_inLine]
    cases front.contains '\n' <;> rfl

open Expression

theorem fixed_closeBraces : (spelled closeBraces).Fixed closeBraces := by
  intro s
  rw [first?_spelled, takeFolded?_closeBraces, Option.map_map]
  rfl

/-! ### Deletions -/

namespace Deletion

def hintExpression : Expression :=
  .seq (.optional (.seq (.spelled doubleColon) (.group "hint" (.lazily inLine))))
    (.spelled closeBraces)

def bodyExpression : Expression := .seq (.group "answer" (.lazily inLine)) hintExpression

/-- A deletion, in any letter case. -/
def expression : Expression :=
  .seq (.spelled (openBraces ++ ['c'])) <|
    .seq (.group "index" (.seq (.char isDecimalDigit) (.eagerly isDecimalDigit))) <|
      .seq (.spelled doubleColon) bodyExpression

/-- The group of a hint, if there is one. -/
def hintGroup (hint : Option String) : List (String × List Char) :=
  (hint.map fun hint => ("hint", hint.toList)).toList

/-- A deletion as its groups show it. -/
def captures (d : Deletion) : Captures where
  whole := d.text
  groups := ("index", d.index.toList) :: ("answer", d.answer.toList) :: hintGroup d.hint

/-- The hint at the front of a text, if there is one, and the text after the closing braces. -/
def readHint? (s : List Char) : Option (Option String × List Char) :=
  (((after? doubleColon s).bind (partWithin? inLine closeBraces)).map fun (hint, rest) =>
    (some (String.ofList hint), rest)).or ((after? closeBraces s).map fun rest => (none, rest))

theorem first?_hintExpression (s : List Char) :
    hintExpression.first? s = (readHint? s).map fun (hint, rest) =>
      (⟨hintText hint ++ closeBraces, hintGroup hint⟩, rest) := by
  rw [hintExpression, first?_optional_seq, first?_seq_assoc, first?_spelled_seq,
    takeFolded?_doubleColon, fixed_closeBraces s, readHint?]
  cases after? doubleColon s with
  | none => cases after? closeBraces s <;> rfl
  | some t =>
    simp only [Option.map_some, Option.bind_some,
      fixed_closeBraces.first?_group_lazily "hint" inLine t]
    cases partWithin? inLine closeBraces t with
    | none => cases after? closeBraces s <;> rfl
    | some parts => simp [hintText, hintGroup]

theorem text_splitHint_append (body t : List Char) :
    (splitHint body).1.toList ++ (hintText (splitHint body).2 ++ t) = body ++ t := by
  rw [← List.append_assoc, text_splitHint]

theorem splitHint_cons {c : Char} {body : List Char} (h : after? doubleColon (c :: body) = none) :
    splitHint (c :: body) =
      (String.ofList (c :: (splitHint body).1.toList), (splitHint body).2) := by
  rw [splitHint, splitHint, splitAt?_miss h]
  cases splitAt? doubleColon body <;> simp

/-- The answer runs to a double colon that a hint follows, or to the closing braces. -/
theorem findSome?_stretches_readHint? (s : List Char) :
    ((stretches inLine s).findSome? fun (t, r) =>
        (readHint? r).map fun (hint, rest) => ((String.ofList t, hint), rest)) =
      (partWithin? inLine closeBraces s).map fun (body, rest) => (splitHint body, rest) := by
  induction s with
  | nil => rfl
  | cons c s ih =>
    have hlater : ((stretches inLine s).findSome? fun (t, r) =>
          (readHint? r).map fun (hint, rest) => ((String.ofList (c :: t), hint), rest)) =
        (partWithin? inLine closeBraces s).map fun (body, rest) =>
          ((String.ofList (c :: (splitHint body).1.toList), (splitHint body).2), rest) := by
      have hmapped := congrArg (Option.map fun ((answer, hint), rest) =>
        ((String.ofList (c :: answer.toList), hint), rest)) ih
      rw [List.map_findSome?] at hmapped
      simpa only [Function.comp_def, Option.map_map, String.toList_ofList] using hmapped
    rw [stretches, List.findSome?_cons, apply_ite (List.findSome? _), List.findSome?_map,
      List.findSome?_nil]
    simp only [Function.comp_def, hlater]
    cases hcolon : after? doubleColon (c :: s) with
    | some t =>
      -- The answer ends here if the hint ends in the line; if not, it ends nowhere.
      obtain ⟨rfl, hs⟩ := List.cons.inj (after?_eq_some_iff.1 hcolon)
      obtain rfl : s = ':' :: t := hs
      have hpast (s : List Char) : partWithin? inLine closeBraces (':' :: s) =
          (partWithin? inLine closeBraces s).map fun (body, rest) => (':' :: body, rest) :=
        (partWithin?_miss rfl).trans (if_pos rfl)
      have hopen : after? closeBraces (':' :: ':' :: t) = none := rfl
      rw [hpast (':' :: t), hpast t, readHint?, hcolon, hopen]
      cases hhint : partWithin? inLine closeBraces t with
      | some parts =>
        have hsplit : splitHint (':' :: ':' :: parts.1) = ("", some (String.ofList parts.1)) := by
          have hcolons : after? doubleColon (':' :: ':' :: parts.1) = some parts.1 :=
            after?_append doubleColon parts.1
          rw [splitHint, splitAt?_hit hcolons]
        simp [hhint, hsplit]
      | none => simp [hhint]
    | none =>
      rw [readHint?, hcolon]
      cases hclose : after? closeBraces (c :: s) with
      | some rest =>
        rw [partWithin?_hit hclose]
        rfl
      | none =>
        rw [partWithin?_miss hclose]
        cases hbody : partWithin? inLine closeBraces s with
        | none => simp
        | some parts =>
          obtain ⟨body, rest⟩ := parts
          have hs : s = body ++ closeBraces ++ rest :=
            splitAt?_eq_some (Option.eq_some_of_filter_eq_some hbody)
          -- A double colon across the first character would be one of the text.
          have hmiss : after? doubleColon (c :: body) = none := by
            rw [after?_eq_none_iff] at hcolon ⊢
            refine fun hbegins => hcolon (hbegins.trans ?_)
            rw [hs, List.append_assoc]
            exact List.prefix_append (c :: body) _
          by_cases hc : inLine c = true <;> simp [hc, splitHint_cons hmiss]

theorem first?_bodyExpression (s : List Char) :
    bodyExpression.first? s = (partWithin? inLine closeBraces s).map fun (body, rest) =>
      (⟨body ++ closeBraces, ("answer", (splitHint body).1.toList) ::
        hintGroup (splitHint body).2⟩, rest) := by
  have hwritten := congrArg (Option.map fun ((answer, hint), rest) =>
    ((⟨answer.toList ++ (hintText hint ++ closeBraces),
      ("answer", answer.toList) :: hintGroup hint⟩ : Captures), rest))
    (findSome?_stretches_readHint? s)
  rw [List.map_findSome?] at hwritten
  rw [bodyExpression, first?_seq, ways_group, ways_lazily, List.findSome?_map, List.findSome?_map]
  simp only [Function.comp_def, first?_hintExpression, Option.map_map, String.toList_ofList,
    text_splitHint_append] at hwritten ⊢
  exact hwritten

/-- A deletion stands wherever the preferred way of the expression leads, and nowhere else. -/
theorem first?_expression (s : List Char) :
    expression.first? s = (read? s).map fun (d, rest) => (d.captures, rest) := by
  have hcolon (c : Char) (r : List Char) (hc : isDecimalDigit c = true) :
      (seq (spelled doubleColon) bodyExpression).first? (c :: r) = none := by
    have hne : after? doubleColon (c :: r) = none := by
      rw [doubleColon, after?, if_neg]
      rintro rfl
      exact absurd hc (by decide)
    rw [first?_spelled_seq, takeFolded?_doubleColon, hne]
    rfl
  rw [expression, first?_spelled_seq, takeFolded?_append, takeFolded?_openBraces, read?]
  simp only [first?_group_run _ _ _ hcolon, first?_spelled_seq, takeFolded?_letter,
    takeFolded?_doubleColon, first?_bodyExpression, partWithin?_inLine, Option.bind_eq_bind,
    Option.bind_map, Option.map_bind, Option.bind_assoc, Function.comp_def]
  refine congrArg _ (funext fun s => congrArg _ (funext fun letter => ?_))
  obtain ⟨capital, s⟩ := letter
  by_cases hdigits : (s.takeWhile isDecimalDigit).isEmpty = true
  · simp [hdigits]
  · simp only [hdigits, Bool.false_eq_true, ↓reduceIte, Bool.false_or, Option.map_bind,
      Function.comp_def]
    refine congrArg _ (funext fun s => congrArg _ (funext fun parts => ?_))
    obtain ⟨body, rest⟩ := parts
    by_cases hline : body.contains '\n' = true
    · simp only [hline, ↓reduceIte, Option.map_none]
    · simp only [hline, Bool.false_eq_true, ↓reduceIte, Option.map_some]
      simp [captures, text, text_splitHint_append]

end Deletion

/-! ### Slots -/

namespace Slot

/-- A slot of any field. -/
def expression : Expression :=
  .seq (.spelled (openBraces ++ slotKeyword)) <|
    .seq (.group "field" (.seq (.char inLine) (.lazily inLine))) (.spelled closeBraces)

/-- A slot as its groups show it. -/
def captures (slot : Slot) : Captures := ⟨slot.text, [("field", slot.name.toList)]⟩

theorem first?_expression (s : List Char) :
    expression.first? s = (read? s).map fun (slot, rest) => (slot.captures, rest) := by
  rw [expression, first?_spelled_seq, takeFolded?_append, takeFolded?_openBraces, read?]
  simp only [Option.bind_eq_bind, Option.bind_map, Option.map_bind, Option.bind_assoc,
    Function.comp_def]
  refine congrArg _ (funext fun s => congrArg _ (funext fun keyword => ?_))
  obtain ⟨written, s⟩ := keyword
  cases s with
  | nil => rfl
  | cons c s =>
    rw [fixed_closeBraces.first?_group_char_lazily, partWithin?_inLine]
    simp only [readName?, Option.bind_map, Function.comp_def]
    cases splitAt? closeBraces s with
    | none => simp
    | some parts =>
      obtain ⟨name, rest⟩ := parts
      by_cases hc : c = '\n'
      · simp [hc, inLine]
      · by_cases hname : name.contains '\n' = true
        · simp_all
        · have hc' : '\n' ≠ c := Ne.symm hc
          simp_all [inLine, captures, text]

/-- A field's slot as a text. -/
def textFor (name : String) : List Char := openBraces ++ (slotKeyword ++ name.toList) ++ closeBraces

theorem takeFolded?_textFor (name : String) (s : List Char) :
    takeFolded? (textFor name) s = (readFor? name s).map fun (slot, rest) => (slot.toList, rest) := by
  rw [textFor, takeFolded?_append, takeFolded?_append, takeFolded?_openBraces, readFor?]
  simp only [takeFolded?_closeBraces, Option.bind_eq_bind, Option.bind_map, Option.map_bind,
    Option.bind_assoc, Option.map_map, Function.comp_def]
  refine congrArg _ (funext fun s => congrArg _ (funext fun keyword => ?_))
  obtain ⟨written, s⟩ := keyword
  cases after? closeBraces s <;> simp

/-- A slot of one field, in any letter case. -/
def expressionFor (name : String) : Expression := .spelled (textFor name)

/-- A slot of one field as a match, which has no groups. -/
def capturesFor (slot : String) : Captures := .bare slot.toList

theorem first?_expressionFor (name : String) (s : List Char) :
    (expressionFor name).first? s = (readFor? name s).map fun (slot, rest) =>
      (capturesFor slot, rest) := by
  rw [expressionFor, first?_spelled, takeFolded?_textFor, Option.map_map]
  rfl

end Slot

/-! ### Sections -/

namespace Section

/-- A section of one field. -/
def expressionFor (kind : Section) (name : String) : Expression :=
  .seq (.literal (kind.openTag name)) <|
    .seq (.group "body" (.lazily fun _ => true)) (.literal (closeTag name))

/-- A section as its groups show it. -/
def captures (kind : Section) (name body : String) : Captures where
  whole := (kind.patternFor name).text body
  groups := [("body", body.toList)]

theorem first?_expressionFor (kind : Section) (name : String) (s : List Char) :
    (kind.expressionFor name).first? s =
      ((kind.patternFor name).matchAt s).map fun (body, rest) =>
        (kind.captures name body, rest) := by
  have hpart (needle s : List Char) : partWithin? (fun _ => true) needle s = splitAt? needle s := by
    rw [partWithin?]
    cases splitAt? needle s <;> simp [Option.filter]
  change _ = (readBetween? (kind.openTag name) (closeTag name) s).map _
  rw [expressionFor, first?_literal_seq, readBetween?]
  simp only [(fixed_literal (closeTag name)).first?_group_lazily, hpart,
    Option.bind_eq_bind, Option.map_bind, Option.map_map, Function.comp_def]
  refine congrArg _ (funext fun s => ?_)
  cases splitAt? (closeTag name) s <;> simp [captures, patternFor, Pattern.between]

end Section

end Flashcard
