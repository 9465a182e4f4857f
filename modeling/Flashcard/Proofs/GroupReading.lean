import Flashcard.Enumeration
import Flashcard.Proofs.BuiltIn
import Flashcard.Proofs.Directive.Groups

/-!
# Reading directives by their groups

The functions of this module ask each match for its parts by the names of the groups. A match that
had not gone through a group that is asked for would stop them with an error, and the loops around
them would stop as well: those over the matches of a text, over the fields of a note and over the
steps of a pipeline.

It never comes to that. Each of these functions succeeds on every input, with the result of the
function that takes the parts from the reader (`Deletion.tryFindAll_eq` and its like).
-/

namespace Flashcard

namespace Pattern

variable {α β : Type}

/-- Puts `f a` in place of every match `a`, as long as `f` does not fail. -/
def tryReplace (p : Pattern α) (f : α → Except RenderError String) (s : String) :
    Except RenderError String := do
  let cut := p.cut s.toList
  let parts ← cut.hits.mapM fun (gap, a) => do return gap ++ (← f a).toList
  return String.ofList (parts.flatten ++ cut.rest)

theorem tryReplace_eq (p : Pattern α) {f : α → Except RenderError String} {g : α → String}
    (h : ∀ a, f a = .ok (g a)) (s : String) : p.tryReplace f s = .ok (p.replace g s) := by
  have hpart : (fun (gap, a) => do return gap ++ (← f a).toList :
      List Char × α → Except RenderError (List Char)) =
      fun (gap, a) => pure (gap ++ (g a).toList) := by
    funext (gap, a)
    simp only [h]
    rfl
  rw [tryReplace, hpart, List.mapM_pure, replace, Cut.fill, List.flatMap_def]
  rfl

section Renamed

variable {p : Pattern α} {q : Pattern β} {g : α → β}
  (h : ∀ s, q.matchAt s = (p.matchAt s).map fun (a, rest) => (g a, rest))
include h

/-- Two patterns that match at the same places cut a text at the same places. -/
theorem cut_renamed (s : List Char) :
    q.cut s = ⟨(p.cut s).hits.map fun (gap, a) => (gap, g a), (p.cut s).rest⟩ := by
  induction s using p.scan_induction with
  | nil => simp
  | hit s a rest ha ih =>
    have hb : q.matchAt s = some (g a, rest) := by rw [h, ha, Option.map_some]
    rw [p.cut_hit ha, q.cut_hit hb, ih]
    rfl
  | miss c s hc ih =>
    have hmiss : q.matchAt (c :: s) = none := by rw [h, hc, Option.map_none]
    rw [p.cut_miss hc, q.cut_miss hmiss, ih]
    cases hcut : p.cut s with
    | mk hits rest => cases hits <;> rfl

theorem findAll_renamed (s : String) : q.findAll s = (p.findAll s).map g := by
  simp only [findAll, cut_renamed h, List.map_map]
  rfl

theorem occursIn_renamed (s : String) : q.occursIn s = p.occursIn s := by
  simp only [occursIn, cut_renamed h, List.isEmpty_map]

theorem replace_renamed (f : β → String) (s : String) : q.replace f s = p.replace (f ∘ g) s := by
  simp only [replace, cut_renamed h, Cut.fill, List.flatMap_map]
  rfl

theorem tryReplace_renamed (f : β → Except RenderError String) (s : String) :
    q.tryReplace f s = p.tryReplace (f ∘ g) s := by
  simp only [tryReplace, cut_renamed h, List.mapM_map]
  rfl

end Renamed

end Pattern

/-- Puts `f c` in place of every match `c`, which is asked for its whole text first. -/
def replaceMatches (p : Pattern Captures) (f : Captures → Except RenderError String) :
    String → Except RenderError String :=
  p.tryReplace fun c => do
    let _ ← c.read "replacement" "0"
    f c

/-- What is read of each match is put in its place. -/
theorem replaceMatches_eq {α : Type} {p : Pattern α} {q : Pattern Captures} {g : α → Captures}
    (h : ∀ s, q.matchAt s = (p.matchAt s).map fun (a, rest) => (g a, rest))
    {f : Captures → Except RenderError String} {k : α → String} (hf : ∀ a, f (g a) = .ok (k a))
    (s : String) : replaceMatches q f s = .ok (p.replace k s) := by
  rw [replaceMatches, Pattern.tryReplace_renamed h]
  exact p.tryReplace_eq (fun a => hf a) s

/-! ### Deletions -/

namespace Deletion

/-- The pattern of deletions with their groups. -/
def matcher : Pattern Captures := expression.pattern rfl

theorem matchAt_matcher (s : List Char) :
    matcher.matchAt s = (pattern.matchAt s).map fun (d, rest) => (d.captures, rest) :=
  first?_expression s

/-- The deletion that a match shows. The whole text tells how the letter is written. -/
def ofCaptures (c : Captures) : Except RenderError Deletion := do
  let raw ← c.read "cloze marker" "0"
  let index ← c.read "cloze marker" "index"
  let answer ← c.read "cloze marker" "answer"
  return ⟨raw.toList[2]? == some 'C', index, answer, c.group? "hint"⟩

theorem ofCaptures_captures (d : Deletion) : ofCaptures d.captures = .ok d := by
  have hraw : d.captures.read "cloze marker" "0" = .ok (String.ofList d.text) := rfl
  have hindex : d.captures.read "cloze marker" "index" = .ok d.index := by
    simp [Captures.read, Captures.group?, captures]
  have hanswer : d.captures.read "cloze marker" "answer" = .ok d.answer := by
    simp [Captures.read, Captures.group?, captures, List.lookup_cons]
  have hhint : d.captures.group? "hint" = d.hint := by
    cases h : d.hint <;> simp [Captures.group?, captures, List.lookup_cons, hintGroup, h]
  have hletter : (d.text[2]? == some 'C') = d.capital := by
    cases h : d.capital <;> simp [text, openBraces, letter, h]
  rw [ofCaptures, hraw, hindex, hanswer, hhint]
  simp only [bind, Except.bind, String.toList_ofList, hletter]
  rfl

/-- The deletions in a value. -/
def tryFindAll (value : String) : Except RenderError (List Deletion) :=
  (matcher.findAll value).mapM ofCaptures

theorem tryFindAll_eq (value : String) : tryFindAll value = .ok (findAll value) := by
  have hread : ofCaptures ∘ captures = pure := funext ofCaptures_captures
  rw [tryFindAll, Pattern.findAll_renamed matchAt_matcher, List.mapM_map, hread]
  exact (List.mapM_pure (f := id)).trans (by rw [List.map_id]; rfl)

end Deletion

/-- Replaces the deletions of other indices by their answers. -/
def Narrowed.tryReveal (target : String) : String → Except RenderError String :=
  replaceMatches Deletion.matcher fun c => do
    let d ← Deletion.ofCaptures c
    return if d.index == target then String.ofList d.text else d.answer

theorem Narrowed.tryReveal_eq (target value : String) :
    tryReveal target value = .ok (reveal target value) :=
  replaceMatches_eq Deletion.matchAt_matcher
    (fun d => by rw [Deletion.ofCaptures_captures]; rfl) value

/-! ### Slots -/

namespace Slot

/-- The pattern of the slots of all fields with their groups. -/
def matcher : Pattern Captures := expression.pattern rfl

/-- The pattern of the slots of one field; they have no groups. -/
def matcherFor (name : String) : Pattern Captures := (expressionFor name).pattern rfl

theorem matchAt_matcher (s : List Char) :
    matcher.matchAt s = (pattern.matchAt s).map fun (slot, rest) => (slot.captures, rest) :=
  first?_expression s

theorem matchAt_matcherFor (name : String) (s : List Char) :
    (matcherFor name).matchAt s = ((patternFor name).matchAt s).map fun (slot, rest) =>
      (capturesFor slot, rest) :=
  first?_expressionFor name s

theorem occursIn_matcherFor (name template : String) :
    (matcherFor name).occursIn template = (patternFor name).occursIn template :=
  Pattern.occursIn_renamed (matchAt_matcherFor name) template

theorem replace_matcherFor (name markup template : String) :
    (matcherFor name).replace (fun _ => markup) template =
      (patternFor name).replace (fun _ => markup) template :=
  Pattern.replace_renamed (matchAt_matcherFor name) _ template

/-- The field names of a template's slots, each once. -/
def tryFields (template : String) : Except RenderError (List String) := do
  let names ← (matcher.findAll template).mapM (Captures.read "cloze slot" "field")
  return names.eraseDups

theorem tryFields_eq (template : String) : tryFields template = .ok (fields template) := by
  have hread : Captures.read "cloze slot" "field" ∘ captures = pure ∘ name := by
    funext slot
    simp [Captures.read, Captures.group?, captures, pure, Except.pure]
  rw [tryFields, Pattern.findAll_renamed matchAt_matcher, List.mapM_map, hread]
  simp only [Function.comp_def, List.mapM_pure, pure_bind]
  rfl

end Slot

/-- What a deletion becomes, read from its groups. -/
def FieldView.tryMarkup (field : FieldView) : Except RenderError String :=
  replaceMatches Deletion.matcher
    (fun c => do return field.showDeletion (← Deletion.ofCaptures c)) field.value

theorem FieldView.tryMarkup_eq (field : FieldView) : field.tryMarkup = .ok field.clozeMarkup :=
  replaceMatches_eq Deletion.matchAt_matcher
    (fun d => by rw [Deletion.ofCaptures_captures]; rfl) field.value

/-! ### Steps -/

namespace Step

/-- A section that is shown gives its body. -/
def tryConditional (kind : Section) : Step := fun field template =>
  let sections := (kind.expressionFor field.name).pattern rfl
  if kind.shows field.value then
    replaceMatches sections (Captures.read "section" "body") template
  else return sections.replace (fun _ => "") template

theorem tryConditional_eq (kind : Section) : tryConditional kind = conditional kind := by
  funext field template
  have hsections := kind.first?_expressionFor field.name
  rw [tryConditional, conditional, total]
  by_cases hshows : kind.shows field.value = true
  · simp only [if_pos hshows]
    exact replaceMatches_eq hsections
      (fun body => by simp [Captures.read, Captures.group?, Section.captures]) template
  · simp only [if_neg hshows]
    exact congrArg Except.ok (Pattern.replace_renamed hsections _ template)

/-- A field's value is read only where a template has a slot for it. -/
def trySlots : Step := fun field template => do
  let slots := Slot.matcherFor field.name
  if slots.occursIn template then
    let markup ← field.tryMarkup
    return slots.replace (fun _ => markup) template
  return template

theorem trySlots_eq : trySlots = slots := by
  funext field template
  rw [trySlots, slots, total, Slot.occursIn_matcherFor, field.tryMarkup_eq]
  by_cases hoccurs : (Slot.patternFor field.name).occursIn template = true
  · rw [if_pos hoccurs]
    exact congrArg Except.ok (Slot.replace_matcherFor field.name field.clozeMarkup template)
  · have hnone := not_not.1 (mt ((Slot.patternFor field.name).occursIn_iff template).2 hoccurs)
    rw [if_neg hoccurs, Pattern.replace_eq, Pattern.rewrite_eq_self _ _ hnone, String.ofList_toList]
    rfl

end Step

/-- The built-in steps, reading by groups. -/
def Pipeline.tryBuiltIn : Pipeline where
  steps :=
    [("field", Step.value),
     ("show_if_present", Step.tryConditional .present),
     ("show_if_blank", Step.tryConditional .blank),
     ("text", Step.strippedValue),
     ("cloze", Step.trySlots)]

theorem Pipeline.tryBuiltIn_eq : tryBuiltIn = builtIn := by
  simp only [tryBuiltIn, builtIn, Step.tryConditional_eq, Step.trySlots_eq]

/-! ### Notes -/

namespace Narrowed

/-- Puts a field to those that take part in a card, or its name to those that are left out. -/
def tryTake (slots : List String) (target : String) (taken : FieldValues × List String)
    (field : String × String) : Except RenderError (FieldValues × List String) := do
  let deletions ← Deletion.tryFindAll field.2
  if deletions.any (·.index == target) || !slots.contains field.1 then
    return (taken.1 ++ [(field.1, ← tryReveal target field.2)], taken.2)
  return (taken.1, taken.2 ++ [field.1])

/-- The note narrowed to the card `ord`. -/
def tryOfCloze (fields : FieldValues) (front back : String) (ord : Ordinal) :
    Except RenderError Narrowed := do
  let target := toString ord.deletionIndex
  let slots ← Slot.tryFields front
  let (kept, dropped) ← fields.foldlM (tryTake slots target) ([], [])
  let clear := dropped.foldl fun template name =>
    (Slot.matcherFor name).replace (fun _ => "") template
  return ⟨kept, clear front, clear back⟩

theorem foldlM_tryTake_eq (slots : List String) (target : String) (fields : FieldValues)
    (taken : FieldValues × List String) :
    fields.foldlM (tryTake slots target) taken = .ok
      (taken.1 ++ (fields.filter (takesPart slots target)).map fun field =>
          (field.1, reveal target field.2),
        taken.2 ++ (fields.filter fun field => !takesPart slots target field).map Prod.fst) := by
  induction fields generalizing taken with
  | nil => simp [pure, Except.pure]
  | cons field fields ih =>
    have htake : tryTake slots target taken field =
        if takesPart slots target field then
          .ok (taken.1 ++ [(field.1, reveal target field.2)], taken.2)
        else .ok (taken.1, taken.2 ++ [field.1]) := by
      rw [tryTake, Deletion.tryFindAll_eq, tryReveal_eq]
      rfl
    rw [List.foldlM_cons, htake]
    by_cases hpart : takesPart slots target field = true
    · rw [if_pos hpart]
      refine (ih _).trans ?_
      simp [hpart]
    · rw [if_neg hpart]
      refine (ih _).trans ?_
      simp [hpart]

theorem tryOfCloze_eq (fields : FieldValues) (front back : String) (ord : Ordinal) :
    tryOfCloze fields front back ord = .ok (ofCloze fields front back ord) := by
  have hremove (name template : String) :
      (Slot.matcherFor name).replace (fun _ => "") template = removeSlots name template :=
    Slot.replace_matcherFor name "" template
  rw [tryOfCloze, Slot.tryFields_eq, ofCloze_eq fields front back rfl]
  simp only [bind, Except.bind, foldlM_tryTake_eq, List.nil_append, hremove, List.foldl_map]
  rfl

end Narrowed

/-- The ordinals of a cloze note's cards, ascending. -/
def tryClozeOrdinals (fields : FieldValues) (front : String) :
    Except RenderError (List Ordinal) := do
  let slots ← Slot.tryFields front
  let deletions ← (fields.filter (slots.contains ·.1)).mapM fun field =>
    Deletion.tryFindAll field.2
  return (deletions.flatten.filterMap Deletion.ordinal?).foldl
    (fun ords ord => insertOrdinal ord ords) []

theorem tryClozeOrdinals_eq (fields : FieldValues) (front : String) :
    tryClozeOrdinals fields front = .ok (clozeOrdinals fields front) := by
  have hread : (fun field : String × String => Deletion.tryFindAll field.2) =
      fun field => pure (Deletion.findAll field.2) :=
    funext fun field => Deletion.tryFindAll_eq field.2
  rw [tryClozeOrdinals, Slot.tryFields_eq, hread]
  simp only [bind, Except.bind, List.mapM_pure, clozeOrdinals, List.flatMap_def]
  rfl

end Flashcard
