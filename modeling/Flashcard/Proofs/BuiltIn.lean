import Flashcard.Proofs.Directive.Slot
import Flashcard.Renderer

/-!
# The built-in steps

The built-in steps never fail. `FieldView.apply` is what all of them do to a template for one
field, `builtInText` what they do for one field after another, and `card_withBuiltIns` the card of
a renderer that has these steps and no others.
-/

namespace Flashcard

theorem notMem_toList_append {c : Char} {s t : String} (hs : c ∉ s.toList) (ht : c ∉ t.toList) :
    c ∉ (s ++ t).toList := by simp [hs, ht]

theorem openBrace_notMem_frontBrackets {s : String} (h : '{' ∉ s.toList) :
    '{' ∉ (frontBrackets s).toList :=
  notMem_toList_append (notMem_toList_append (by decide +kernel) h) (by decide +kernel)

theorem openBrace_notMem_backBrackets {s : String} (h : '{' ∉ s.toList) :
    '{' ∉ (backBrackets s).toList :=
  notMem_toList_append (notMem_toList_append (by decide +kernel) h) (by decide +kernel)

/-- The pattern of the references to a field's value. -/
def valuePattern (name : String) : Pattern Unit := .literal (reference name) (reference_ne_nil name)

/-- The pattern of the references to a field's value without markup. -/
def textPattern (name : String) : Pattern Unit :=
  .literal (textReference name) (reference_ne_nil _)

namespace FieldView

def putValue (field : FieldView) : List Char → List Char :=
  (valuePattern field.name).rewrite fun _ => field.value.toList

def decideSections (field : FieldView) (kind : Section) : List Char → List Char :=
  (kind.patternFor field.name).rewrite fun body =>
    (if kind.shows field.value then body else "").toList

def putText (field : FieldView) : List Char → List Char :=
  (textPattern field.name).rewrite fun _ => (field.stripper field.value).toList

def fillSlots (field : FieldView) : List Char → List Char :=
  (Slot.patternFor field.name).rewrite fun _ => field.clozeMarkup.toList

/-- A template after the built-in steps of one field. -/
def apply (field : FieldView) (template : List Char) : List Char :=
  field.fillSlots <| field.putText <| field.decideSections .blank <|
    field.decideSections .present <| field.putValue template

end FieldView

/-- A value that is one deletion becomes what the deletion becomes. -/
theorem FieldView.clozeMarkup_of_cut {field : FieldView} {d : Deletion}
    (h : Deletion.pattern.cut field.value.toList = ⟨[([], d)], []⟩) :
    field.clozeMarkup = field.showDeletion d := by
  rw [clozeMarkup, Pattern.replace_eq, Pattern.rewrite, h, Cut.fill]
  simp

/-- A value without opening braces has no deletions. -/
theorem FieldView.clozeMarkup_of_openBrace_notMem {field : FieldView}
    (h : '{' ∉ field.value.toList) : field.clozeMarkup = field.value := by
  have hopen (d : Deletion) : '{' ∈ Deletion.pattern.text d := by
    simp [Deletion.pattern, Deletion.text, openBraces]
  rw [clozeMarkup, Pattern.replace_eq, Pattern.rewrite_eq_self_of_notMem _ hopen _ h,
    String.ofList_toList]

theorem run_builtIn (field : FieldView) (template : String) :
    Pipeline.builtIn.run field template = .ok (String.ofList (field.apply template.toList)) := by
  simp only [Pipeline.run, Pipeline.builtIn, List.foldlM_cons, List.foldlM_nil, Step.value,
    Step.conditional, Step.strippedValue, Step.slots, Step.total, Pattern.replace_eq, bind,
    Except.bind, pure, Except.pure, String.toList_ofList]
  rfl

/-- What the steps are told about each field. -/
def views (stripper : Stripper) (settings : Settings) (side : Side) (fields : FieldValues) :
    List FieldView :=
  fields.map fun (name, value) => ⟨name, value, side, stripper, settings⟩

/-- A template after the built-in steps for one field after another. -/
def builtInText (stripper : Stripper) (settings : Settings) (side : Side) (fields : FieldValues)
    (template : List Char) : List Char :=
  (views stripper settings side fields).foldl (fun template field => field.apply template) template

section NoClosingBrace

variable {t : List Char} (ht : '}' ∉ t)
include ht

theorem FieldView.fillSlots_eq_self (field : FieldView) : field.fillSlots t = t := by
  -- The pattern of slots holds texts of any form, so only the texts that it finds have braces.
  refine Pattern.rewrite_eq_self _ _ (List.eq_nil_iff_forall_not_mem.2 fun a ha => ht ?_)
  obtain ⟨before, rest, hread, rfl⟩ := Pattern.exists_matchAt_of_mem_found _ ha
  obtain ⟨x, -, rfl, -⟩ := Slot.readFor?_eq_some_iff.1 hread
  simp [Slot.patternFor, tag, closeBraces]

theorem FieldView.apply_eq_self (field : FieldView) : field.apply t = t := by
  have hreference (name : String) : '}' ∈ reference name := by simp [reference, closeBraces]
  have hsection (kind : Section) (body : String) :
      '}' ∈ (kind.patternFor field.name).text body := by
    simp [Section.patternFor, Pattern.between, Section.closeTag, closeBraces]
  have hvalue : field.putValue t = t :=
    Pattern.rewrite_eq_self_of_notMem _ (fun _ => hreference _) _ ht
  have hsections (kind : Section) : field.decideSections kind t = t :=
    Pattern.rewrite_eq_self_of_notMem _ (hsection kind) _ ht
  have hstripped : field.putText t = t :=
    Pattern.rewrite_eq_self_of_notMem _ (fun _ => hreference _) _ ht
  rw [FieldView.apply, hvalue, hsections, hsections, hstripped, field.fillSlots_eq_self ht]

/-- No step changes a template without closing braces. -/
theorem builtInText_eq_self (stripper : Stripper) (settings : Settings) (side : Side)
    (fields : FieldValues) : builtInText stripper settings side fields t = t := by
  rw [builtInText]
  induction views stripper settings side fields with
  | nil => rfl
  | cons field rest ih => rw [List.foldl_cons, field.apply_eq_self ht, ih]

end NoClosingBrace

theorem substitute_builtIn (stripper : Stripper) (settings : Settings) (side : Side)
    (fields : FieldValues) (template : String) :
    Pipeline.builtIn.substitute stripper settings side fields template =
      .ok (String.ofList (builtInText stripper settings side fields template.toList)) := by
  induction fields generalizing template with
  | nil => simp [Pipeline.substitute, builtInText, views, pure, Except.pure]
  | cons field fields ih =>
    simp only [Pipeline.substitute, List.foldlM_cons, run_builtIn] at ih ⊢
    simp only [bind, Except.bind, ih, String.toList_ofList]
    rfl

theorem substitute_withBuiltIns (stripper : Stripper) (settings : Settings) (kind : Kind)
    (side : Side) (fields : FieldValues) (template : String) :
    (Renderer.withBuiltIns stripper settings).substitute kind side fields template =
      .ok (String.ofList (builtInText stripper settings side fields template.toList)) := by
  cases kind <;> exact substitute_builtIn stripper settings side fields template

/-- The fields that take part are kept in order, and the slots of the others go. -/
theorem Narrowed.ofCloze_eq (fields : FieldValues) (front back : String) {ord : Ordinal}
    {target : String} (htarget : target = toString ord.deletionIndex) :
    let takes := takesPart (Slot.fields front) target
    let clear := fun template => (fields.filter fun field => !takes field).foldl
      (fun template field => removeSlots field.1 template) template
    ofCloze fields front back ord =
      ⟨(fields.filter takes).map fun field => (field.1, reveal target field.2), clear front,
        clear back⟩ := by
  simp only [ofCloze, List.partition_eq_filter_filter, htarget]
  rfl

/-- The card of a note narrowed to it. Where the back does not ask for the front, putting the front
there changes nothing. -/
theorem card_withBuiltIns (stripper : Stripper) (settings : Settings) {kind : Kind}
    {ord : Ordinal} {fields : FieldValues} {front back : String} {note : Narrowed}
    (hnote : Renderer.narrow kind ord fields front back = note) :
    (Renderer.withBuiltIns stripper settings).card kind ord fields front back =
      .ok (if builtInText stripper settings .front note.fields note.front.toList =
            note.front.toList then none
        else some
          ⟨String.ofList (builtInText stripper settings .front note.fields note.front.toList),
            String.ofList (Renderer.frontSide.rewrite
              (fun _ => builtInText stripper settings .back note.fields note.front.toList)
              (builtInText stripper settings .back note.fields note.back.toList))⟩) := by
  simp only [Renderer.card, hnote, substitute_withBuiltIns, bind, Except.bind, pure, Except.pure,
    beq_iff_eq, ← String.toList_inj, String.toList_ofList]
  by_cases hsame : builtInText stripper settings .front note.fields note.front.toList =
      note.front.toList
  · simp only [if_pos hsame]
  · simp only [if_neg hsame]
    split
    · simp [Pattern.replace_eq]
    · next hfree =>
      rw [Pattern.occursIn_iff, not_not, String.toList_ofList] at hfree
      rw [Pattern.rewrite_eq_self _ _ hfree]

/-- A standard card asks for the pipeline of standard designs only. -/
theorem card_of_standard_builtIn {r : Renderer} (hr : r.standard = .builtIn) (ord : Ordinal)
    (fields : FieldValues) (front back : String) :
    r.card .standard ord fields front back =
      (Renderer.withBuiltIns r.stripper r.settings).card .standard ord fields front back := by
  have hsubstitute (side : Side) (fields : FieldValues) (template : String) :
      r.substitute .standard side fields template =
        (Renderer.withBuiltIns r.stripper r.settings).substitute .standard side fields
          template := by
    simp only [Renderer.substitute, Renderer.pipeline, Renderer.withBuiltIns, hr]
  simp only [Renderer.card, hsubstitute]

/-- A standard card exists exactly if the steps change its front. -/
theorem exists_card_of_standard_builtIn {r : Renderer} (hr : r.standard = .builtIn) (ord : Ordinal)
    (fields : FieldValues) (front back : String) :
    ∃ card, r.card .standard ord fields front back = .ok card ∧
      (card = none ↔
        builtInText r.stripper r.settings .front fields front.toList = front.toList) := by
  have hnote : Renderer.narrow .standard ord fields front back = ⟨fields, front, back⟩ := rfl
  rw [card_of_standard_builtIn hr, card_withBuiltIns r.stripper r.settings hnote]
  exact ⟨_, rfl, by simp⟩

end Flashcard
