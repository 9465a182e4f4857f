import Flashcard.Proofs.Openings

/-!
# The directives that a template uses

A field has five directives, one for each of the built-in steps. A step changes a text only if its
directive stands there (`BuiltInStep.run_eq_self`), and it then takes an opening of the directive
away (`BuiltInStep.tagOpenings_run_lt`). No step makes an opening of a tag that the text it puts in
does not open (`BuiltInStep.tagOpenings_run_le`).

So the first step that finds its directive decides: unless a text that it or a later step puts in
brings the directive back, the template does not come out of all steps as it was
(`builtInText_eq_self_iff`). Field names may hold braces here, and the template need not be
well-written.
-/

namespace Flashcard

/-- A directive of a field that the built-in steps replace. -/
inductive Directive where
  | value
  | conditional (kind : Section)
  | text
  | slot
deriving DecidableEq, Repr

namespace Directive

/-- The directives in the order in which the steps replace them. -/
def all : List Directive := [value, conditional .present, conditional .blank, text, slot]

theorem mem_all (d : Directive) : d ∈ all := by
  cases d with
  | conditional kind => cases kind <;> decide
  | _ => decide

/-- What stands in the tag that a directive of the field `name` begins with. -/
def inner (name : String) : Directive → List Char
  | value => name.toList
  | conditional kind => kind.sign :: name.toList
  | text => textKeyword ++ name.toList
  | slot => Slot.inner name

/-- Whether a directive of the field `name` stands in a text. Slots count in any letter case, and a
section counts if its closing tag stands somewhere behind its opening tag. -/
def StandsIn (name : String) (t : List Char) : Directive → Prop
  | value => reference name <:+: t
  | conditional kind => ∃ before body behind,
      t = before ++ (kind.openTag name ++ (body ++ (Section.closeTag name ++ behind)))
  | text => textReference name <:+: t
  | slot => HasSlot name t

end Directive

theorem Pattern.literal_found_ne_nil_iff {needle : List Char} (hne : needle ≠ []) {t : List Char} :
    (Pattern.literal needle hne).found t ≠ [] ↔ needle <:+: t := by
  rw [Pattern.found_ne_nil_iff]
  constructor
  · rintro ⟨before, a, rest, -, rfl⟩
    exact ⟨before, rest, List.append_assoc _ _ _⟩
  · rintro ⟨before, rest, rfl⟩
    refine ⟨before, (), rest, ?_, List.append_assoc _ _ _⟩
    change (after? needle (needle ++ rest)).map _ = _
    rw [after?_append, Option.map_some]

theorem Section.patternFor_found_ne_nil_iff {kind : Section} {name : String} {t : List Char} :
    (kind.patternFor name).found t ≠ [] ↔ (Directive.conditional kind).StandsIn name t := by
  rw [Pattern.found_ne_nil_iff]
  constructor
  · rintro ⟨before, body, rest, -, rfl⟩
    exact ⟨before, body.toList, rest, by simp [patternFor, Pattern.between]⟩
  · rintro ⟨before, body, behind, rfl⟩
    have hinfix : closeTag name <:+: body ++ (closeTag name ++ behind) :=
      ⟨body, behind, List.append_assoc _ _ _⟩
    obtain ⟨⟨first, rest⟩, hfirst⟩ :=
      Option.ne_none_iff_exists'.1 fun hnone => splitAt?_eq_none_iff.1 hnone hinfix
    have hmatch : (kind.patternFor name).matchAt
        (kind.openTag name ++ (body ++ (closeTag name ++ behind))) =
          some (String.ofList first, rest) := by
      have hopen := kind.patternFor_matchAt_open name (body ++ (closeTag name ++ behind))
      rwa [hfirst, Option.map_some] at hopen
    have hsplit := (kind.patternFor name).matchAt_eq hmatch
    exact ⟨before, String.ofList first, rest, by rw [← hsplit, hmatch], by rw [hsplit]⟩

namespace Directive

/-- A directive begins with its tag, a slot with a tag in some letter case. -/
theorem StandsIn.exists_tag {d : Directive} {name : String} {t : List Char}
    (h : d.StandsIn name t) :
    ∃ before x behind, foldText x = foldText (d.inner name) ∧ t = before ++ (tag x ++ behind) := by
  cases d with
  | value =>
    obtain ⟨before, behind, rfl⟩ := h
    exact ⟨before, _, behind, rfl, List.append_assoc _ _ _⟩
  | conditional kind =>
    obtain ⟨before, body, behind, rfl⟩ := h
    exact ⟨before, _, body ++ (Section.closeTag name ++ behind), rfl,
      by simp [Section.openTag, tag, inner]⟩
  | text =>
    obtain ⟨before, behind, rfl⟩ := h
    exact ⟨before, _, behind, rfl, by rw [textReference_eq, List.append_assoc]; rfl⟩
  | slot => exact h

/-- A text without openings of a directive does not hold it. -/
theorem not_standsIn_of_tagFree {d : Directive} {name : String} {t : List Char}
    (h : TagFree (d.inner name) t) : ¬ d.StandsIn name t := by
  intro hstands
  obtain ⟨before, x, behind, hx, rfl⟩ := hstands.exists_tag
  have hopening := tagOpenings_tag_append _ hx behind
  have hbefore := tagOpenings_le_append (d.inner name) before (tag x ++ behind)
  rw [(tagFree_iff _).1 h] at hbefore
  omega

end Directive

/-- One of the built-in steps, for one field. -/
structure BuiltInStep where
  directive : Directive
  field : FieldView

namespace BuiltInStep

def inner (step : BuiltInStep) : List Char := step.directive.inner step.field.name

/-- Whether the step finds its directive in a text. -/
def Finds (step : BuiltInStep) (t : List Char) : Prop :=
  step.directive.StandsIn step.field.name t

/-- The text that the step puts into a template. A section brings no text of its own along. -/
def put : BuiltInStep → List Char
  | ⟨.value, field⟩ => field.value.toList
  | ⟨.conditional _, _⟩ => []
  | ⟨.text, field⟩ => (field.stripper field.value).toList
  | ⟨.slot, field⟩ => field.clozeMarkup.toList

/-- A template after the step. -/
def run : BuiltInStep → List Char → List Char
  | ⟨.value, field⟩ => field.putValue
  | ⟨.conditional kind, field⟩ => field.decideSections kind
  | ⟨.text, field⟩ => field.putText
  | ⟨.slot, field⟩ => field.fillSlots

section Run

variable {step : BuiltInStep} {t : List Char}

theorem run_eq_self (h : ¬ step.Finds t) : step.run t = t := by
  obtain ⟨d, field⟩ := step
  cases d with
  | value =>
    have hfound : ¬ (valuePattern field.name).found t ≠ [] :=
      mt (Pattern.literal_found_ne_nil_iff _).1 h
    rw [run, FieldView.putValue, Pattern.rewrite_eq_self _ _ (not_not.1 hfound)]
  | conditional kind =>
    have hfound := mt Section.patternFor_found_ne_nil_iff.1 h
    rw [run, FieldView.decideSections, Pattern.rewrite_eq_self _ _ (not_not.1 hfound)]
  | text =>
    have hfound : ¬ (textPattern field.name).found t ≠ [] :=
      mt (Pattern.literal_found_ne_nil_iff _).1 h
    rw [run, FieldView.putText, Pattern.rewrite_eq_self _ _ (not_not.1 hfound)]
  | slot =>
    have hfound := mt Slot.patternFor_found_ne_nil_iff.1 h
    rw [run, FieldView.fillSlots, Pattern.rewrite_eq_self _ _ (not_not.1 hfound)]

/-- A step makes no opening of a tag that its text does not open. -/
theorem tagOpenings_run_le {inner : List Char} (h : TagFree inner step.put) (t : List Char) :
    tagOpenings inner (step.run t) ≤ tagOpenings inner t := by
  obtain ⟨d, field⟩ := step
  cases d with
  | value => exact tagOpenings_rewrite_le_self (Pattern.literal_tag_opens field.name.toList) h t
  | conditional kind => exact tagOpenings_decideSections_le kind inner t
  | text =>
    rw [run, FieldView.putText, textPattern_eq]
    exact tagOpenings_rewrite_le_self (Pattern.literal_tag_opens _) h t
  | slot => exact tagOpenings_rewrite_le_self (Slot.patternFor_opens field.name) h t

/-- A step that finds its directive takes an opening of it away. -/
theorem tagOpenings_run_lt (h : TagFree step.inner step.put) (hfinds : step.Finds t) :
    tagOpenings step.inner (step.run t) < tagOpenings step.inner t := by
  obtain ⟨d, field⟩ := step
  cases d with
  | value =>
    exact tagOpenings_rewrite_lt (Pattern.literal_tag_opens field.name.toList) h
      (fun s a rest hmatch => ⟨field.name.toList, rfl, Pattern.matchAt_eq _ hmatch⟩)
      ((Pattern.literal_found_ne_nil_iff _).2 hfinds)
  | conditional kind =>
    exact tagOpenings_decideSections_lt kind (Section.patternFor_found_ne_nil_iff.2 hfinds)
  | text =>
    rw [Finds, Directive.StandsIn, textReference_eq] at hfinds
    rw [run, FieldView.putText, textPattern_eq]
    exact tagOpenings_rewrite_lt (Pattern.literal_tag_opens _) h
      (fun s a rest hmatch => ⟨_, rfl, Pattern.matchAt_eq _ hmatch⟩)
      ((Pattern.literal_found_ne_nil_iff _).2 hfinds)
  | slot =>
    refine tagOpenings_rewrite_lt (Slot.patternFor_opens field.name) h
      (fun s a rest hmatch => ?_) (Slot.patternFor_found_ne_nil_iff.2 hfinds)
    obtain ⟨x, hx, -, rfl⟩ := Slot.readFor?_eq_some_iff.1 hmatch
    exact ⟨x, hx, rfl⟩

end Run

/-- A template after one step after another. -/
def runAll (steps : List BuiltInStep) (t : List Char) : List Char :=
  steps.foldl (fun t step => step.run t) t

@[simp] theorem runAll_nil (t : List Char) : runAll [] t = t := rfl

@[simp] theorem runAll_cons (step : BuiltInStep) (steps : List BuiltInStep) (t : List Char) :
    runAll (step :: steps) t = runAll steps (step.run t) := rfl

@[simp] theorem runAll_append (first second : List BuiltInStep) (t : List Char) :
    runAll (first ++ second) t = runAll second (runAll first t) := List.foldl_append

/-- Whether `step` is the first to find its directive, where `behind` are the steps after it. -/
def FirstFinds (steps : List BuiltInStep) (t : List Char) (step : BuiltInStep)
    (behind : List BuiltInStep) : Prop :=
  step.Finds t ∧ ∃ before, steps = before ++ step :: behind ∧ ∀ other ∈ before, ¬ other.Finds t

/-- The texts that are put into a template from the first step that finds its directive on do not
bring the directive back. -/
def TextsFree (steps : List BuiltInStep) (t : List Char) : Prop :=
  ∀ step behind, FirstFinds steps t step behind →
    ∀ other ∈ step :: behind, TagFree step.inner other.put

section Steps

variable {steps : List BuiltInStep} {t : List Char}

theorem exists_firstFinds (h : ∃ step ∈ steps, step.Finds t) :
    ∃ step behind, FirstFinds steps t step behind := by
  induction steps with
  | nil => simp at h
  | cons first steps ih =>
    by_cases hfirst : first.Finds t
    · exact ⟨first, steps, hfirst, [], rfl, by simp⟩
    · have hrest : ∃ step ∈ steps, step.Finds t := by
        obtain ⟨step, hstep, hfinds⟩ := h
        obtain rfl | hstep := List.mem_cons.1 hstep
        · exact absurd hfinds hfirst
        · exact ⟨step, hstep, hfinds⟩
      obtain ⟨step, behind, hfinds, before, rfl, hbefore⟩ := ih hrest
      exact ⟨step, behind, hfinds, first :: before, rfl, List.forall_mem_cons.2 ⟨hfirst, hbefore⟩⟩

theorem runAll_eq_self (h : ∀ step ∈ steps, ¬ step.Finds t) : runAll steps t = t := by
  induction steps with
  | nil => rfl
  | cons step steps ih =>
    obtain ⟨hfirst, hrest⟩ := List.forall_mem_cons.1 h
    rw [runAll_cons, run_eq_self hfirst, ih hrest]

theorem tagOpenings_runAll_le {inner : List Char} (h : ∀ step ∈ steps, TagFree inner step.put)
    (t : List Char) : tagOpenings inner (runAll steps t) ≤ tagOpenings inner t := by
  induction steps generalizing t with
  | nil => exact Nat.le_refl _
  | cons step steps ih =>
    obtain ⟨hfirst, hrest⟩ := List.forall_mem_cons.1 h
    exact (ih hrest _).trans (tagOpenings_run_le hfirst t)

/-- The first step that finds its directive takes an opening away that no later step makes
again. -/
theorem runAll_ne_self (hfree : TextsFree steps t) (h : ∃ step ∈ steps, step.Finds t) :
    runAll steps t ≠ t := by
  intro hsame
  obtain ⟨step, behind, hfirst⟩ := exists_firstFinds h
  obtain ⟨hown, hlater⟩ := List.forall_mem_cons.1 (hfree step behind hfirst)
  obtain ⟨hfinds, before, rfl, hbefore⟩ := hfirst
  have hlt := tagOpenings_run_lt hown hfinds
  have hle := tagOpenings_runAll_le hlater (step.run t)
  rw [runAll_append, runAll_eq_self hbefore, runAll_cons] at hsame
  rw [hsame] at hle
  exact Nat.lt_irrefl _ (Nat.lt_of_le_of_lt hle hlt)

end Steps

end BuiltInStep

/-- All steps for one field after another. -/
def stepsOf (fields : List FieldView) : List BuiltInStep :=
  fields.flatMap fun field => Directive.all.map fun d => ⟨d, field⟩

theorem mem_stepsOf {fields : List FieldView} {step : BuiltInStep} :
    step ∈ stepsOf fields ↔ step.field ∈ fields := by
  obtain ⟨d, field⟩ := step
  simp [stepsOf, Directive.mem_all]

section Fields

variable {stripper : Stripper} {settings : Settings} {side : Side} {fields : FieldValues}
  {t : List Char}

theorem builtInText_eq_runAll (stripper : Stripper) (settings : Settings) (side : Side)
    (fields : FieldValues) (t : List Char) :
    builtInText stripper settings side fields t =
      BuiltInStep.runAll (stepsOf (views stripper settings side fields)) t := by
  rw [builtInText]
  induction views stripper settings side fields generalizing t with
  | nil => rfl
  | cons field fields ih =>
    have hsteps : stepsOf (field :: fields) =
        (Directive.all.map fun d => ⟨d, field⟩) ++ stepsOf fields := List.flatMap_cons
    rw [List.foldl_cons, ih, hsteps, BuiltInStep.runAll_append]
    rfl

/-- Whether a template uses a directive of one of the fields. -/
def UsesDirective (fields : FieldValues) (t : List Char) : Prop :=
  ∃ field ∈ fields, ∃ d : Directive, d.StandsIn field.1 t

theorem exists_finds_iff (stripper : Stripper) (settings : Settings) (side : Side) :
    (∃ step ∈ stepsOf (views stripper settings side fields), step.Finds t) ↔
      UsesDirective fields t := by
  simp only [mem_stepsOf, views, List.mem_map]
  constructor
  · rintro ⟨step, ⟨field, hfield, hview⟩, hfinds⟩
    rw [BuiltInStep.Finds, ← hview] at hfinds
    exact ⟨field, hfield, step.directive, hfinds⟩
  · rintro ⟨field, hfield, d, hstands⟩
    exact ⟨⟨d, _⟩, ⟨field, hfield, rfl⟩, hstands⟩

/-- The steps leave a template without directives as it is. -/
theorem builtInText_eq_self_of_unused (stripper : Stripper) (settings : Settings) (side : Side)
    (h : ¬ UsesDirective fields t) : builtInText stripper settings side fields t = t := by
  rw [← exists_finds_iff stripper settings side] at h
  rw [builtInText_eq_runAll]
  exact BuiltInStep.runAll_eq_self fun step hstep hfinds => h ⟨step, hstep, hfinds⟩

/-- The steps change a template exactly if it uses a directive. -/
theorem builtInText_eq_self_iff
    (hfree : BuiltInStep.TextsFree (stepsOf (views stripper settings side fields)) t) :
    builtInText stripper settings side fields t = t ↔ ¬ UsesDirective fields t := by
  refine ⟨fun hsame huses => ?_, builtInText_eq_self_of_unused stripper settings side⟩
  obtain ⟨step, hstep, hfinds⟩ := (exists_finds_iff stripper settings side).2 huses
  rw [builtInText_eq_runAll] at hsame
  exact BuiltInStep.runAll_ne_self hfree ⟨step, hstep, hfinds⟩ hsame

theorem openBrace_notMem_put {step : BuiltInStep} (hvalue : '{' ∉ step.field.value.toList)
    (hstripped : '{' ∉ (step.field.stripper step.field.value).toList) : '{' ∉ step.put := by
  obtain ⟨d, field⟩ := step
  cases d with
  | value => exact hvalue
  | conditional _ => exact List.not_mem_nil
  | text => exact hstripped
  | slot => rwa [BuiltInStep.put, FieldView.clozeMarkup_of_openBrace_notMem hvalue]

theorem textsFree_of_openBrace_notMem
    (h : ∀ field ∈ fields, '{' ∉ field.2.toList ∧ '{' ∉ (stripper field.2).toList) :
    BuiltInStep.TextsFree (stepsOf (views stripper settings side fields)) t := by
  rintro step behind ⟨-, before, hsteps, -⟩ other hother
  have hview : other.field ∈ views stripper settings side fields := by
    rw [← mem_stepsOf, hsteps]
    exact List.mem_append_right before hother
  obtain ⟨pair, hpair, hfield⟩ := List.mem_map.1 hview
  obtain ⟨hvalue, hstripped⟩ := h pair hpair
  refine tagFree_of_openBrace_notMem _ (openBrace_notMem_put ?_ ?_)
  · rwa [← hfield]
  · rwa [← hfield]

end Fields

/-- A standard card does not exist exactly if its front uses no directive of a field, provided that
no value brings an opening brace along. -/
theorem standard_card_eq_none_iff {r : Renderer} (hr : r.standard = .builtIn) (ord : Ordinal)
    {fields : FieldValues} (front back : String)
    (hfields : ∀ field ∈ fields, '{' ∉ field.2.toList ∧ '{' ∉ (r.stripper field.2).toList) :
    ∃ card, r.card .standard ord fields front back = .ok card ∧
      (card = none ↔ ¬ UsesDirective fields front.toList) := by
  obtain ⟨card, hcard, hnone⟩ := exists_card_of_standard_builtIn hr ord fields front back
  exact ⟨card, hcard,
    hnone.trans (builtInText_eq_self_iff (textsFree_of_openBrace_notMem hfields))⟩

/-- A field whose name holds braces, and a section of another field that is opened twice. -/
theorem standard_card_eq_none_iff_braces :
    ∃ card, (Renderer.withBuiltIns id {}).card .standard .first
        [("a\x7d\x7d", "x\x7d"), ("N", "")]
        "\x7b\x7b#N\x7d\x7d\x7b\x7b#N\x7d\x7d\x7b\x7b/N\x7d\x7d" "" = .ok (some card) := by
  have hfields : ∀ field ∈ [("a\x7d\x7d", "x\x7d"), ("N", "")],
      '{' ∉ field.2.toList ∧ '{' ∉ (id field.2).toList := by decide
  obtain ⟨card, hcard, hnone⟩ := standard_card_eq_none_iff (r := Renderer.withBuiltIns id {}) rfl
    .first "\x7b\x7b#N\x7d\x7d\x7b\x7b#N\x7d\x7d\x7b\x7b/N\x7d\x7d" "" hfields
  have huses : UsesDirective [("a\x7d\x7d", "x\x7d"), ("N", "")]
      "\x7b\x7b#N\x7d\x7d\x7b\x7b#N\x7d\x7d\x7b\x7b/N\x7d\x7d".toList :=
    ⟨("N", ""), by decide, .conditional .present, [], "\x7b\x7b#N\x7d\x7d".toList, [], by decide⟩
  obtain ⟨card, rfl⟩ := Option.ne_none_iff_exists'.1 fun h => hnone.1 h huses
  exact ⟨card, hcard⟩

end Flashcard
