import Flashcard.Proofs.ClozeValue
import Flashcard.Proofs.SlotTemplate
import Mathlib.Data.List.Nodup

/-!
# Cloze cards as trees

On a note with well-written values and templates, `card_cloze` says that a cloze card is what one
reading of the templates gives: each slot stands for the value of its field with the deletions of
the card in brackets and the other deletions uncovered, and for nothing if the field is left out.
The card exists if some slot of the front asks for one of its deletions.
-/

namespace Flashcard

/-- A name that a slot can ask for. -/
structure SlotName (name : String) : Prop where
  ne_empty : name ≠ ""
  braceFree : BraceFree name.toList
  line : '\n' ∉ name.toList
  not_slot : ¬ slotKeyword <+: name.toList
  ne_frontSide : name ≠ "FrontSide"

/-- A field with the parts of its value. -/
structure ClozeField where
  name : String
  parts : List ValuePart
deriving DecidableEq, Repr

namespace ClozeField

/-- The name and the value of the field. -/
def pair (field : ClozeField) : String × String := (field.name, ValuePart.write field.parts)

/-- Whether some deletion of the field has the index `target`. -/
def asks (target : String) (field : ClozeField) : Bool :=
  (field.parts.filterMap ValuePart.deletion?).any (·.index == target)

/-- What a deletion becomes on the card that asks for `target`. -/
def showDeletion (settings : Settings) (side : Side) (target : String) (d : Deletion) : String :=
  if d.index = target then
    match side with
    | .front => frontBrackets (d.hint.getD settings.clozeFiller)
    | .back => backBrackets d.answer
  else d.answer

/-- The value on the card that asks for `target`, piece by piece. -/
def shown (settings : Settings) (side : Side) (target : String) (field : ClozeField) : String :=
  String.ofList (field.parts.flatMap
    (ValuePart.fill fun d => (showDeletion settings side target d).toList))

end ClozeField

namespace TemplateTree

variable {P : Reference → Prop} {σ : Reading} {t : TemplateTree}

theorem openBrace_notMem_read (ht : t.WellFormed P fun _ => False) (hσ : Quiet P σ)
    (hall : ∀ r, P r → σ.shown r ≠ none) : '{' ∉ t.read σ := by
  induction t with
  | literal s => exact ht.1
  | reference r =>
    obtain ⟨s, hs⟩ := Option.ne_none_iff_exists'.1 (hall r ht)
    simpa [TemplateTree.read, hs] using hσ r s ht hs
  | conditional kind name body ih => exact ht.1.elim
  | append first second ih₁ ih₂ =>
    rw [TemplateTree.read, List.mem_append, not_or]
    exact ⟨ih₁ ht.1, ih₂ ht.2⟩

theorem openBrace_mem_read (ht : t.WellFormed P fun _ => False) {name : String}
    (hname : name ∈ t.slots) (hnone : σ.shown (.slot name) = none) : '{' ∈ t.read σ := by
  induction t with
  | literal s => cases hname
  | reference r =>
    cases r with
    | slot n =>
      obtain rfl : name = n := by simpa [slots] using hname
      simp [TemplateTree.read, hnone, tag, openBraces]
    | _ => cases hname
  | conditional kind name body ih => exact ht.1.elim
  | append first second ih₁ ih₂ =>
    rw [TemplateTree.read, List.mem_append]
    exact (List.mem_append.1 hname).imp (ih₁ ht.1) (ih₂ ht.2)

theorem WellFormed.slots (ht : t.WellFormed P fun _ => False) :
    t.WellFormed (fun r => P r ∧ ∀ name, r = .slot name → name ∈ t.slots) fun _ => False := by
  induction t with
  | literal s => exact ht
  | reference r =>
    refine ⟨ht, ?_⟩
    rintro name rfl
    exact List.mem_singleton_self name
  | conditional kind name body ih => exact ht.1.elim
  | append first second ih₁ ih₂ =>
    exact ⟨(ih₁ ht.1).mono fun r hr => ⟨hr.1, fun n hn => List.mem_append_left _ (hr.2 n hn)⟩,
      (ih₂ ht.2).mono fun r hr => ⟨hr.1, fun n hn => List.mem_append_right _ (hr.2 n hn)⟩⟩

end TemplateTree

/-- A note whose slots and deletions can be read in one way only. -/
structure ClozeNote (note : List ClozeField) : Prop where
  name : ∀ field ∈ note, SlotName field.name
  distinct : note.Pairwise fun field other => foldText field.name.toList ≠ foldText other.name.toList
  part : ∀ field ∈ note, ∀ part ∈ field.parts, part.WellFormed

/-- The references of a cloze front: slots of the note's fields. -/
def ClozeReference (note : List ClozeField) (r : Reference) : Prop :=
  ∃ field ∈ note, r = .slot field.name

/-- The references of a cloze back. -/
def ClozeBackReference (note : List ClozeField) (r : Reference) : Prop :=
  ClozeReference note r ∨ r = .frontSide

/-- Whether a field is left out of the card that asks for `target`, where `slots` are the slots of
the front. -/
def ClozeField.leftOut (slots : List String) (target : String) (field : ClozeField) : Bool :=
  slots.contains field.name && !field.asks target

/-- What a note says about the slots of a template on one side of a card, where `slots` are the
slots of the front and `front` is the front to show on the back. -/
def Reading.ofCloze (settings : Settings) (side : Side) (target : String) (slots : List String)
    (note : List ClozeField) (front : Option String) : Reading where
  shown
    | .slot name => (note.find? (·.name = name)).map fun field =>
        if field.leftOut slots target then "" else field.shown settings side target
    | .frontSide => front
    | _ => none

@[simp] theorem Reading.ofCloze_shown_frontSide (settings : Settings) (side : Side)
    (target : String) (slots : List String) (note : List ClozeField) (front : Option String) :
    (ofCloze settings side target slots note front).shown .frontSide = front := rfl

open TemplateTree

section Note

variable {note : List ClozeField}

theorem ClozeNote.eq_of_foldText_eq (h : ClozeNote note) {field other : ClozeField}
    (hfield : field ∈ note) (hother : other ∈ note)
    (heq : foldText field.name.toList = foldText other.name.toList) : field = other := by
  have hnodup : (note.map fun field => foldText field.name.toList).Nodup :=
    List.pairwise_map.2 h.distinct
  exact List.inj_on_of_nodup_map hnodup hfield hother heq

theorem ClozeNote.distinguishes (h : ClozeNote note) {field : ClozeField} (hfield : field ∈ note) :
    Distinguishes (ClozeBackReference note) (fun _ => False) field.name where
  braceFree := (h.name field hfield).braceFree
  inner_braceFree := by
    rintro r (⟨other, hother, rfl⟩ | rfl)
    · exact Slot.braceFree_inner (h.name other hother).braceFree
    · decide
  section_braceFree := fun _ hm => hm.elim
  value := by
    rintro r (⟨other, hother, rfl⟩ | rfl) heq
    · exact absurd ⟨other.name.toList, heq⟩ (h.name field hfield).not_slot
    · exact absurd (String.toList_inj.1 heq).symm (h.name field hfield).ne_frontSide
  text := by
    rintro r (⟨other, hother, rfl⟩ | rfl) heq <;>
      exact absurd (List.cons.inj heq).1 (by decide)
  slot := by
    rintro r (⟨other, hother, rfl⟩ | rfl) heq
    · exact ⟨other.name, rfl⟩
    · exact absurd (List.cons.inj heq).1 (by decide)
  reference_ne := by
    rintro r c (⟨other, hother, rfl⟩ | rfl) hc heq <;>
      exact absurd ((List.cons.inj heq).1 ▸ hc) (by decide)
  section_ne := fun _ _ hm => hm.elim

theorem ClozeNote.slotReference (h : ClozeNote note) {r : Reference} (hr : ClozeReference note r) :
    SlotReference r := by
  obtain ⟨field, hfield, rfl⟩ := hr
  have hname := h.name field hfield
  exact .slot hname.ne_empty hname.braceFree hname.line

/-- What is known once the slots of the fields left out are gone. -/
def Reading.ofRemoved (dropped : List ClozeField) : Reading where
  shown r := dropped.findSome? fun field => slotsShown field.name "" r

theorem Reading.ofRemoved_eq (dropped : List ClozeField) :
    ofRemoved dropped = withoutSlots (dropped.map ClozeField.name) := by
  simp only [ofRemoved, withoutSlots, List.findSome?_map]
  rfl

theorem foldl_removeSlots_pair (h : ClozeNote note) {t : TemplateTree}
    (ht : t.WellFormed (ClozeBackReference note) fun _ => False) {dropped : List ClozeField}
    (hdropped : dropped ⊆ note) :
    (dropped.map ClozeField.pair).foldl
        (fun template (name, _) => Narrowed.removeSlots name template) t.written =
      String.ofList (t.read (.ofRemoved dropped)) := by
  have hnothing : Quiet (ClozeBackReference note) {} := fun r s _ hs => by simp at hs
  have hnames : ∀ name ∈ dropped.map ClozeField.name, BraceFree name.toList :=
    List.forall_mem_map.2 fun field hfield => (h.name field (hdropped hfield)).braceFree
  have hread := foldl_removeSlots_read ht hnothing (fun r hr => ?_) hnames
  · rw [Reading.nothing_orElse, ← Reading.ofRemoved_eq, List.foldl_map] at hread
    rw [List.foldl_map]
    exact hread
  · obtain ⟨field, hfield, rfl⟩ | rfl := hr
    · exact ⟨Slot.braceFree_inner (h.name field hfield).braceFree, fun _ _ => ⟨_, rfl⟩⟩
    · exact ⟨by decide, fun name heq => absurd (List.cons.inj heq).1 (by decide)⟩

section Card

variable {settings : Settings} {target : String} {slots : List String}

/-- The fields that take part in a card. -/
def ClozeField.kept (slots : List String) (target : String) (note : List ClozeField) :
    List ClozeField := note.filter fun field => !field.leftOut slots target

/-- The fields that are left out of a card. -/
def ClozeField.dropped (slots : List String) (target : String) (note : List ClozeField) :
    List ClozeField := note.filter (ClozeField.leftOut slots target)

/-- The field with the answers of the deletions that the card does not ask for. -/
def ClozeField.revealed (target : String) (field : ClozeField) : ClozeField :=
  ⟨field.name, field.parts.map (ValuePart.reveal target)⟩

theorem takesPart_pair (h : ClozeNote note) {t : TemplateTree}
    (ht : t.WellFormed (ClozeReference note) fun _ => False) {field : ClozeField}
    (hfield : field ∈ note) :
    Narrowed.takesPart (Slot.fields t.written) target field.pair =
      !field.leftOut t.slots target := by
  have hslots : (Slot.fields t.written).contains field.name = t.slots.contains field.name := by
    rw [Bool.eq_iff_iff, List.contains_iff_mem, List.contains_iff_mem, 
      mem_fields_written (ht.mono fun _ => h.slotReference)]
  rw [Narrowed.takesPart, ClozeField.pair, ValuePart.found_write (h.part field hfield), hslots,
    ClozeField.leftOut, ClozeField.asks]
  cases t.slots.contains field.name <;> simp

/-- A note narrowed to a card: the fields that take part with their answers uncovered, and the
templates without the slots of the others. -/
theorem ofCloze_written (h : ClozeNote note) {front back : TemplateTree}
    (hfront : front.WellFormed (ClozeReference note) fun _ => False)
    (hback : back.WellFormed (ClozeBackReference note) fun _ => False) (ord : Ordinal)
    (htarget : target = toString ord.deletionIndex) :
    Narrowed.ofCloze (note.map ClozeField.pair) front.written back.written ord =
      ⟨(ClozeField.kept front.slots target note).map fun field => (field.revealed target).pair,
        String.ofList (front.read (.ofRemoved (ClozeField.dropped front.slots target note))),
        String.ofList (back.read (.ofRemoved (ClozeField.dropped front.slots target note)))⟩ := by
  have hkept : (note.map ClozeField.pair).filter
      (Narrowed.takesPart (Slot.fields front.written) target) =
      (ClozeField.kept front.slots target note).map ClozeField.pair := by
    rw [List.filter_map, ClozeField.kept]
    exact congrArg _ (List.filter_congr fun field hfield => takesPart_pair h hfront hfield)
  have hdropped : (note.map ClozeField.pair).filter
      (fun field => !Narrowed.takesPart (Slot.fields front.written) target field) =
      (ClozeField.dropped front.slots target note).map ClozeField.pair := by
    rw [List.filter_map, ClozeField.dropped]
    refine congrArg _ (List.filter_congr fun field hfield => ?_)
    rw [Function.comp_apply, takesPart_pair h hfront hfield, Bool.not_not]
  have hsubset : ClozeField.dropped front.slots target note ⊆ note := List.filter_subset_self _
  have hclear {t : TemplateTree} (ht : t.WellFormed (ClozeBackReference note) fun _ => False) :=
    foldl_removeSlots_pair h ht hsubset
  have hreveal (field : ClozeField) (hfield : field ∈ ClozeField.kept front.slots target note) :
      (field.pair.1, Narrowed.reveal target field.pair.2) = (field.revealed target).pair := by
    rw [ClozeField.pair, ValuePart.reveal_write (h.part field (List.mem_of_mem_filter hfield))]
    rfl
  have hcloze := Narrowed.ofCloze_eq (note.map ClozeField.pair) front.written back.written htarget
  simp only [hkept, hdropped] at hcloze
  rw [hcloze, hclear hback, hclear (hfront.mono fun r hr => .inl hr), List.map_map]
  exact congrArg (Narrowed.mk · _ _) (List.map_congr_left hreveal)

/-- The deletions of the card go in brackets, and the others have been uncovered before. -/
theorem clozeMarkup_revealed {field : ClozeField} (h : ∀ part ∈ field.parts, part.WellFormed)
    (target : String) (stripper : Stripper) (settings : Settings) (side : Side) :
    FieldView.clozeMarkup
        ⟨field.name, ValuePart.write (field.revealed target).parts, side, stripper, settings⟩ =
      field.shown settings side target := by
  have hparts : ∀ part ∈ (field.revealed target).parts, part.WellFormed := by
    intro part hpart
    obtain ⟨part, hmem, rfl⟩ := List.mem_map.1 hpart
    exact (h part hmem).reveal target
  rw [FieldView.clozeMarkup, Pattern.replace_eq, ValuePart.rewrite_write hparts,
    ClozeField.revealed, ClozeField.shown, List.flatMap_map]
  congr 2
  funext part
  cases part with
  | literal s => rfl
  | deletion d =>
    by_cases hd : d.index = target
    · simp [ValuePart.reveal, ValuePart.fill, ClozeField.showDeletion, hd]
      rfl
    · simp [ValuePart.reveal, ValuePart.fill, ClozeField.showDeletion, hd]

theorem openBrace_notMem_showDeletion (hfiller : BraceFree settings.clozeFiller.toList)
    {d : Deletion} (h : d.WellFormed) (side : Side) :
    '{' ∉ (ClozeField.showDeletion settings side target d).toList := by
  unfold ClozeField.showDeletion
  split
  · cases side with
    | back => exact openBrace_notMem_backBrackets h.answer_braceFree.1
    | front =>
      cases hhint : d.hint with
      | none => exact openBrace_notMem_frontBrackets hfiller.1
      | some hint => exact openBrace_notMem_frontBrackets (h.hint_braceFree hint hhint).1
  · exact h.answer_braceFree.1

theorem openBrace_notMem_shown (hfiller : BraceFree settings.clozeFiller.toList)
    {field : ClozeField} (h : ∀ part ∈ field.parts, part.WellFormed) (side : Side) :
    '{' ∉ (field.shown settings side target).toList := by
  rw [ClozeField.shown, String.toList_ofList, List.mem_flatMap]
  rintro ⟨part, hpart, hmem⟩
  have hwell := h part hpart
  cases part with
  | literal s => exact hwell.1 hmem
  | deletion d => exact openBrace_notMem_showDeletion hfiller hwell side hmem

theorem findSome?_eq_some_of_mem {α β : Type} {f : α → Option β} {l : List α} {a : α} {b : β}
    (ha : a ∈ l) (hb : f a = some b) (hunique : ∀ x ∈ l, ∀ c, f x = some c → c = b) :
    l.findSome? f = some b := by
  cases h : l.findSome? f with
  | none =>
    rw [List.findSome?_eq_none_iff.1 h a ha] at hb
    cases hb
  | some c =>
    obtain ⟨x, hx, hc⟩ := List.exists_of_findSome?_eq_some h
    rw [hunique x hx c hc]

section Shown

variable (hnote : ClozeNote note)
include hnote

theorem shown_ofRemoved {field : ClozeField} (hfield : field ∈ note) :
    (Reading.ofRemoved (ClozeField.dropped slots target note)).shown (.slot field.name) =
      if field.leftOut slots target then some "" else none := by
  have hsame (other : ClozeField) (hother : other ∈ ClozeField.dropped slots target note)
      (s : String) (hs : slotsShown other.name "" (.slot field.name) = some s) :
      other = field ∧ s = "" := by
    obtain ⟨n, hn, hfold, rfl⟩ := slotsShown_eq_some_iff.1 hs
    cases hn
    exact ⟨hnote.eq_of_foldText_eq (List.mem_of_mem_filter hother) hfield hfold.symm, rfl⟩
  split
  · next hout =>
    exact findSome?_eq_some_of_mem (List.mem_filter.2 ⟨hfield, hout⟩) (by simp [slotsShown])
      fun other hother s hs => (hsame other hother s hs).2
  · next hkept =>
    refine List.findSome?_eq_none_iff.2 fun other hother => ?_
    by_contra hne
    obtain ⟨s, hs⟩ := Option.ne_none_iff_exists'.1 hne
    obtain ⟨rfl, -⟩ := hsame other hother s hs
    exact hkept (List.of_mem_filter hother)

/-- The fields that a card keeps, as its steps see them. -/
theorem shown_ofFields_kept (stripper : Stripper) (side : Side) {field : ClozeField}
    (hfield : field ∈ ClozeField.kept slots target note) :
    (Reading.ofFields (views stripper settings side ((ClozeField.kept slots target note).map
      fun field => (field.revealed target).pair))).shown (.slot field.name) =
      some (field.shown settings side target) := by
  have hmem := List.mem_of_mem_filter hfield
  have hmarkup := clozeMarkup_revealed (hnote.part field hmem) target stripper settings side
  simp only [views, List.map_map, Reading.ofFields, List.findSome?_map]
  refine findSome?_eq_some_of_mem hfield ?_ fun other hother s hs => ?_
  · simpa [Reading.ofField, ClozeField.pair, ClozeField.revealed] using hmarkup
  · simp only [Function.comp_apply, Reading.ofField, ClozeField.pair, ClozeField.revealed,
      Option.ite_none_right_eq_some, Option.some.injEq] at hs
    obtain ⟨hfold, rfl⟩ := hs
    have hsame := hnote.eq_of_foldText_eq hmem (List.mem_of_mem_filter hother) hfold
    rw [← hsame, ← hmarkup]
    rfl

theorem shown_ofCloze (side : Side) (front : Option String) {field : ClozeField}
    (hfield : field ∈ note) :
    (Reading.ofCloze settings side target slots note front).shown (.slot field.name) =
      some (if field.leftOut slots target then "" else field.shown settings side target) := by
  have hfind : note.find? (·.name = field.name) = some field := by
    cases h : note.find? (·.name = field.name) with
    | none =>
      have hnone := List.find?_eq_none.1 h field hfield
      simp at hnone
    | some other =>
      have hname : other.name = field.name := by simpa using List.find?_some h
      rw [hnote.eq_of_foldText_eq (List.mem_of_find?_eq_some h) hfield (by rw [hname])]
  simp only [Reading.ofCloze, hfind, Option.map_some]

/-- Removing slots and filling the others gives what one reading of the note gives. -/
theorem shown_narrowed (stripper : Stripper) (side : Side) {r : Reference}
    (hr : ClozeBackReference note r) :
    ((Reading.ofRemoved (ClozeField.dropped slots target note)).orElse
      (.ofFields (views stripper settings side ((ClozeField.kept slots target note).map
        fun field => (field.revealed target).pair)))).shown r =
      (Reading.ofCloze settings side target slots note none).shown r := by
  obtain ⟨field, hfield, rfl⟩ | rfl := hr
  · rw [shown_ofCloze hnote side none hfield, Reading.orElse_shown, shown_ofRemoved hnote hfield]
    by_cases hout : field.leftOut slots target
    · simp [hout]
    · have hkept : field ∈ ClozeField.kept slots target note :=
        List.mem_filter.2 ⟨hfield, by simpa using hout⟩
      simp [hout, shown_ofFields_kept hnote stripper side hkept]
  · have hremoved : (Reading.ofRemoved (ClozeField.dropped slots target note)).shown
        .frontSide = none := List.findSome?_eq_none_iff.2 fun _ _ => rfl
    have hfields (fields : List FieldView) : (Reading.ofFields fields).shown .frontSide = none :=
      List.findSome?_eq_none_iff.2 fun _ _ => rfl
    rw [Reading.orElse_shown, hremoved, hfields]
    rfl

/-- The steps of a card on a template without the slots of the fields left out. -/
theorem builtInText_narrowed (hfiller : BraceFree settings.clozeFiller.toList)
    (stripper : Stripper) (side : Side) {t : TemplateTree}
    (ht : t.WellFormed (ClozeBackReference note) fun _ => False) :
    builtInText stripper settings side
        ((ClozeField.kept slots target note).map fun field => (field.revealed target).pair)
        (t.read (.ofRemoved (ClozeField.dropped slots target note))) =
      t.read (.ofCloze settings side target slots note none) := by
  have hremoved : Quiet (ClozeBackReference note)
      (.ofRemoved (ClozeField.dropped slots target note)) := by
    rintro r s (⟨field, hfield, rfl⟩ | rfl) hs
    · rw [shown_ofRemoved hnote hfield, Option.ite_none_right_eq_some] at hs
      obtain ⟨-, hs⟩ := hs
      cases hs
      decide
    · obtain ⟨_, _, hnone⟩ := List.exists_of_findSome?_eq_some hs
      cases hnone
  rw [builtInText_read stripper settings side _ ht hremoved fun view hview => ?_]
  · exact read_congr ht (fun r hr => shown_narrowed hnote stripper side hr) fun _ _ h => h.elim
  · rw [views, List.map_map] at hview
    obtain ⟨field, hfield, rfl⟩ := List.mem_map.1 hview
    have hmem := List.mem_of_mem_filter hfield
    have hdistinguishes := hnote.distinguishes hmem
    refine ⟨hdistinguishes, ?_⟩
    rintro r s (⟨other, hother, rfl⟩ | rfl) hs
    · simp only [Reading.ofField, Function.comp_apply, Option.ite_none_right_eq_some,
        Option.some.injEq] at hs
      obtain ⟨-, rfl⟩ := hs
      have hmarkup := clozeMarkup_revealed (hnote.part field hmem) target stripper settings side
      have hquiet : '{' ∉ (field.shown settings side target).toList :=
        openBrace_notMem_shown hfiller (hnote.part field hmem) side
      rw [← hmarkup] at hquiet
      exact hquiet
    · cases hs

theorem quiet_ofCloze (hfiller : BraceFree settings.clozeFiller.toList) (side : Side) :
    Quiet (ClozeBackReference note) (.ofCloze settings side target slots note none) := by
  rintro r s (⟨field, hfield, rfl⟩ | rfl) hs
  · rw [shown_ofCloze hnote side none hfield, Option.some.injEq] at hs
    subst hs
    split
    · decide
    · exact openBrace_notMem_shown hfiller (hnote.part field hfield) side
  · cases hs

/-- The front on the back is one more reference that becomes known. -/
theorem rewrite_frontSide_ofCloze (hfiller : BraceFree settings.clozeFiller.toList) (side : Side)
    {t : TemplateTree} (ht : t.WellFormed (ClozeBackReference note) fun _ => False)
    (w : List Char) :
    Renderer.frontSide.rewrite (fun _ => w)
        (t.read (.ofCloze settings side target slots note none)) =
      t.read (.ofCloze settings side target slots note (some (String.ofList w))) := by
  rw [rewrite_frontSide_read w ht (quiet_ofCloze hnote hfiller side) ?_ fun _ h => h.elim]
  · refine read_congr ht ?_ fun _ _ h => h.elim
    rintro r (⟨field, hfield, rfl⟩ | rfl)
    · simp [Reading.withShown, shown_ofCloze hnote side _ hfield]
    · simp [Reading.withShown]
  · rintro r (⟨field, hfield, rfl⟩ | rfl)
    · exact ⟨Slot.braceFree_inner (hnote.name field hfield).braceFree,
        fun heq => absurd (List.cons.inj heq).1 (by decide)⟩
    · exact ⟨by decide, fun _ => rfl⟩

/-- The front changes exactly if one of its slots belongs to a field that takes part. -/
theorem read_ofCloze_eq_iff (hfiller : BraceFree settings.clozeFiller.toList) (side : Side)
    {t : TemplateTree} (ht : t.WellFormed (ClozeReference note) fun _ => False) :
    t.read (.ofCloze settings side target t.slots note none) =
        t.read (.ofRemoved (ClozeField.dropped t.slots target note)) ↔
      ¬ ∃ field ∈ note, field.name ∈ t.slots ∧ field.asks target := by
  constructor
  · rintro heq ⟨field, hfield, hslot, hasks⟩
    have hout : field.leftOut t.slots target = false := by simp [ClozeField.leftOut, hasks]
    have hstands : (Reading.ofRemoved (ClozeField.dropped t.slots target note)).shown
        (.slot field.name) = none := by simp [shown_ofRemoved hnote hfield, hout]
    have hopen := openBrace_mem_read ht hslot hstands
    rw [← heq] at hopen
    have hquiet : Quiet (ClozeBackReference note)
        (.ofCloze settings side target t.slots note none) := quiet_ofCloze hnote hfiller side
    refine openBrace_notMem_read ht (fun r s hr => hquiet r s (.inl hr)) ?_ hopen
    rintro r ⟨other, hother, rfl⟩
    simp [shown_ofCloze hnote side none hother]
  · intro hnone
    refine read_congr ht.slots ?_ fun _ _ h => h.elim
    rintro r ⟨⟨field, hfield, rfl⟩, hslot⟩
    have hslot := hslot _ rfl
    have hout : field.leftOut t.slots target := by
      simp only [ClozeField.leftOut, Bool.and_eq_true, Bool.not_eq_true', List.contains_iff_mem]
      refine ⟨hslot, ?_⟩
      by_contra hasks
      exact hnone ⟨field, hfield, hslot, by simpa using hasks⟩
    rw [shown_ofCloze hnote side none hfield, shown_ofRemoved hnote hfield, if_pos hout,
      if_pos hout]

end Shown

/-- Both sides of a cloze card are what one reading of the templates gives, and the card exists
exactly if some field with a slot on the front has a deletion of its index. -/
theorem card_cloze (stripper : Stripper) (settings : Settings) (ord : Ordinal)
    (hnote : ClozeNote note) (hfiller : BraceFree settings.clozeFiller.toList)
    {front back : TemplateTree} (hfront : front.WellFormed (ClozeReference note) fun _ => False)
    (hback : back.WellFormed (ClozeBackReference note) fun _ => False) :
    let target := toString ord.deletionIndex
    let reading := fun side => Reading.ofCloze settings side target front.slots note
    (Renderer.withBuiltIns stripper settings).card .cloze ord (note.map ClozeField.pair)
        front.written back.written =
      .ok (if ∃ field ∈ note, field.name ∈ front.slots ∧ field.asks target then
          some ⟨front.eval (reading .front none),
            back.eval (reading .back (some (front.eval (reading .back none))))⟩
        else none) := by
  intro target reading
  have hfront' : front.WellFormed (ClozeBackReference note) fun _ => False :=
    hfront.mono fun r hr => .inl hr
  have hnarrow : Renderer.narrow .cloze ord (note.map ClozeField.pair) front.written
      back.written = _ := ofCloze_written hnote hfront hback ord rfl
  rw [card_withBuiltIns stripper settings hnarrow]
  simp only [String.toList_ofList]
  rw [builtInText_narrowed hnote hfiller stripper .front hfront',
    builtInText_narrowed hnote hfiller stripper .back hfront',
    builtInText_narrowed hnote hfiller stripper .back hback,
    rewrite_frontSide_ofCloze hnote hfiller .back hback]
  have hexists : front.read (reading .front none) =
      front.read (.ofRemoved (ClozeField.dropped front.slots target note)) ↔ _ :=
    read_ofCloze_eq_iff hnote hfiller .front hfront
  by_cases hasks : ∃ field ∈ note, field.name ∈ front.slots ∧ field.asks target
  · rw [if_neg fun h => hexists.1 h hasks, if_pos hasks]
    rfl
  · rw [if_pos (hexists.2 hasks), if_neg hasks]

end Card

end Note

/-- One deletion, with its answer on the back only. -/
theorem card_cloze_one_deletion :
    (Renderer.withBuiltIns id {}).card .cloze .first
        [("A", "\x7b\x7bc1::y\x7d\x7d")] "\x7b\x7bcloze:A\x7d\x7d"
        "\x7b\x7bFrontSide\x7d\x7d" =
      .ok (some ⟨frontBrackets "...", backBrackets "y"⟩) := by
  let field : ClozeField := ⟨"A", [.deletion ⟨false, "1", "y", none⟩]⟩
  have hname : SlotName field.name := ⟨by decide, by decide, by decide, by decide, by decide⟩
  have hdeletion : Deletion.WellFormed ⟨false, "1", "y", none⟩ :=
    ⟨by decide, List.forall_mem_singleton.2 (by decide), by decide, by decide, by decide, nofun,
      nofun, by decide⟩
  have hnote : ClozeNote [field] :=
    ⟨List.forall_mem_singleton.2 hname, List.pairwise_singleton _ _,
      List.forall_mem_singleton.2 (List.forall_mem_singleton.2 hdeletion)⟩
  have hfront : WellFormed (ClozeReference [field]) (fun _ => False) (.reference (.slot "A")) :=
    ⟨field, List.mem_singleton_self _, rfl⟩
  have hback : WellFormed (ClozeBackReference [field]) (fun _ => False) (.reference .frontSide) :=
    .inr rfl
  have hpair : [field].map ClozeField.pair = [("A", "\x7b\x7bc1::y\x7d\x7d")] := by decide
  have hslot : written (.reference (.slot "A")) = "\x7b\x7bcloze:A\x7d\x7d" := by decide
  have hfrontSide : written (.reference .frontSide) = "\x7b\x7bFrontSide\x7d\x7d" := by decide
  have h := card_cloze id {} .first hnote (by decide) hfront hback
  have htarget : toString Ordinal.first.deletionIndex = "1" := by decide
  simp only [hpair, hslot, hfrontSide, htarget] at h
  refine h.trans ?_
  rw [if_pos ⟨field, List.mem_singleton_self _, List.mem_singleton_self _, by decide⟩]
  have hshown (side : Side) : field.shown {} side "1" =
      match side with
      | .front => frontBrackets "..."
      | .back => backBrackets "y" := by
    cases side <;> simp [field, ClozeField.shown, ValuePart.fill, ClozeField.showDeletion]
  have hkept : field.leftOut ["A"] "1" = false := by decide
  have hreading (side : Side) (front : Option String) :
      (Reading.ofCloze {} side "1" ["A"] [field] front).shown (.slot "A") =
        some (field.shown {} side "1") := by simp [Reading.ofCloze, field, hkept]
  simp [eval, TemplateTree.read, slots, hreading, hshown]

end Flashcard
