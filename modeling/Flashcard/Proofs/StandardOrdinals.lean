import Flashcard.Enumeration
import Flashcard.Proofs.UsedDirectives
import Flashcard.Stripper

/-!
# The ordinals of a standard note

The enumerator leaves the markup in where a front asks for text without it. The fronts that render
are the same either way (`ordinals_standard`), unless a text that a field puts into a front holds a
directive: markup that is taken out can take a directive along or put one together.
-/

namespace Flashcard

namespace BuiltInStep

/-- The step with another stripper. -/
def withStripper (stripper : Stripper) (step : BuiltInStep) : BuiltInStep :=
  { step with field := { step.field with stripper := stripper } }

/-- Whether no step asks for a value without markup that the stripper changes: neither does the
template hold an opening of the directive nor a text that an earlier step puts in. -/
def StripperUnasked (stripper : Stripper) (steps : List BuiltInStep) (t : List Char) : Prop :=
  ∀ before field behind, steps = before ++ ⟨.text, field⟩ :: behind →
    stripper field.value ≠ field.stripper field.value →
      ∀ w ∈ t :: before.map put, TagFree (Directive.text.inner field.name) w

section Stripper

variable {stripper : Stripper} {steps : List BuiltInStep} {t : List Char}

theorem StripperUnasked.run_eq {step : BuiltInStep}
    (h : StripperUnasked stripper (step :: steps) t) :
    (step.withStripper stripper).run t = step.run t := by
  obtain ⟨d, field⟩ := step
  cases d with
  | text =>
    by_cases hsame : stripper field.value = field.stripper field.value
    · simp only [withStripper, run, FieldView.putText, hsame]
    · have hfree := h [] field steps rfl hsame t List.mem_cons_self
      have hnone : ¬ Finds ⟨.text, field⟩ t := Directive.not_standsIn_of_tagFree hfree
      have hnone' : ¬ Finds (withStripper stripper ⟨.text, field⟩) t := hnone
      rw [run_eq_self hnone, run_eq_self hnone']
  | _ => rfl

theorem StripperUnasked.tail {step : BuiltInStep}
    (h : StripperUnasked stripper (step :: steps) t) :
    StripperUnasked stripper steps (step.run t) := by
  rintro before field behind rfl hchanged
  have hfree := h (step :: before) field behind rfl hchanged
  rw [List.map_cons, List.forall_mem_cons, List.forall_mem_cons] at hfree
  obtain ⟨ht, hput, hbefore⟩ := hfree
  have hle := tagOpenings_run_le hput t
  rw [(tagFree_iff _).1 ht, Nat.le_zero] at hle
  exact List.forall_mem_cons.2 ⟨(tagFree_iff _).2 hle, hbefore⟩

/-- The runs with either stripper agree from step to step. -/
theorem runAll_withStripper (h : StripperUnasked stripper steps t) :
    runAll (steps.map (withStripper stripper)) t = runAll steps t := by
  induction steps generalizing t with
  | nil => rfl
  | cons step steps ih => rw [List.map_cons, runAll_cons, runAll_cons, h.run_eq, ih h.tail]

end Stripper

end BuiltInStep

theorem stepsOf_withStripper (stripper : Stripper) (settings : Settings) (side : Side)
    (fields : FieldValues) :
    (stepsOf (views id settings side fields)).map (BuiltInStep.withStripper stripper) =
      stepsOf (views stripper settings side fields) := by
  simp only [stepsOf, views, List.map_flatMap, List.flatMap_map, List.map_map]
  rfl

/-- Whether the front of a variant renders. -/
def Renderer.renders (r : Renderer) (fields : FieldValues) (v : Variant) : Bool :=
  match r.card .standard v.id fields v.front v.back with
  | .ok (some _) => true
  | _ => false

section Ordinals

variable {r : Renderer} (hr : r.standard = .builtIn) {fields : FieldValues}
include hr

theorem exists_card_renders (fields : FieldValues) (v : Variant) :
    ∃ card, r.card .standard v.id fields v.front v.back = .ok card ∧
      card.isSome = r.renders fields v := by
  obtain ⟨card, hcard, -⟩ := exists_card_of_standard_builtIn hr v.id fields v.front v.back
  refine ⟨card, hcard, ?_⟩
  rw [Renderer.renders, hcard]
  cases card <;> rfl

theorem renders_iff (v : Variant) :
    r.renders fields v ↔
      builtInText r.stripper r.settings .front fields v.front.toList ≠ v.front.toList := by
  obtain ⟨card, hcard, hnone⟩ := exists_card_of_standard_builtIn hr v.id fields v.front v.back
  rw [Ne, ← hnone, Renderer.renders, hcard]
  cases card <;> simp

/-- The enumerator lists the variants that render with the markup left in. -/
theorem ordinals_eq_renders {design : Design} {variants : List Variant}
    (hlayout : design.layout = .standard variants) :
    r.ordinals fields design =
      .ok ((variants.filter ((r.setStripper id).renders fields)).map Variant.id) := by
  have hr' : (r.setStripper id).standard = .builtIn := hr
  have hstep (v : Variant) :
      (do return (v.id, (← (r.setStripper id).card .standard v.id fields v.front v.back).isSome) :
        Except RenderError (Ordinal × Bool)) =
      pure (v.id, (r.setStripper id).renders fields v) := by
    obtain ⟨card, hcard, hrenders⟩ := exists_card_renders hr' fields v
    rw [hcard, ← hrenders]
    rfl
  simp only [Renderer.ordinals, hlayout, hstep, List.mapM_pure, pure_bind, List.filter_map,
    List.map_map]
  rfl

/-- Whether the stripper has no part in whether a front renders: the texts put in bring no
directive back, with the markup or without it, or the stripper changes no text that is asked
for. -/
def StripperIrrelevant (stripper : Stripper) (settings : Settings) (fields : FieldValues)
    (front : List Char) : Prop :=
  (BuiltInStep.TextsFree (stepsOf (views stripper settings .front fields)) front ∧
    BuiltInStep.TextsFree (stepsOf (views id settings .front fields)) front) ∨
  BuiltInStep.StripperUnasked stripper (stepsOf (views id settings .front fields)) front

theorem renders_setStripper_id {v : Variant}
    (h : StripperIrrelevant r.stripper r.settings fields v.front.toList) :
    (r.setStripper id).renders fields v = r.renders fields v := by
  have hr' : (r.setStripper id).standard = .builtIn := hr
  rw [Bool.eq_iff_iff, renders_iff hr, renders_iff hr', Renderer.setStripper]
  obtain ⟨hfree, hfree'⟩ | hunasked := h
  · rw [Ne, Ne, builtInText_eq_self_iff hfree, builtInText_eq_self_iff hfree']
  · rw [builtInText_eq_runAll, builtInText_eq_runAll, ← stepsOf_withStripper r.stripper,
      BuiltInStep.runAll_withStripper hunasked]

end Ordinals

/-- The ordinals that a note lists for a design with one variant, and whether that renders. -/
def ListsAndRenders (fields : FieldValues) (front : String) (ords : List Ordinal)
    (renders : Bool) : Prop :=
  let renderer := Renderer.withBuiltIns visibleText {}
  let v : Variant := ⟨.first, "", front, "", none, none⟩
  renderer.ordinals fields ⟨fields.map Prod.fst, .standard [v], ""⟩ = .ok ords ∧
    renderer.renders fields v = renders

end Flashcard
