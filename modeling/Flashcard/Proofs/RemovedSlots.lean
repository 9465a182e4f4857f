import Flashcard.Proofs.Distinct
import Flashcard.Proofs.ListedCards

/-!
# The slots that go with a field

A field that takes no part in a card takes its slots along. On templates of slots these are the
slots that agree with its name in some letter case, and nothing else goes: the other slots and all
literals stay where they are (`slotsRemoved_ofCloze`). So a field that takes part loses its slots
if its name agrees with that of a field left out (`kept_field_without_slots`).
-/

namespace Flashcard

namespace Slot

/-- A template without the slots whose names `p` picks. -/
def drop (p : String → Bool) (template : String) : String :=
  pattern.replace (fun slot => if p slot.name then "" else String.ofList slot.text) template

/-- Whether a slot agrees with one of the names in some letter case. -/
def agrees (names : List String) (slot : String) : Bool :=
  names.any fun name => foldText slot.toList == foldText name.toList

theorem agrees_iff {names : List String} {slot : String} :
    agrees names slot ↔ ∃ name ∈ names, foldText slot.toList = foldText name.toList := by
  simp [agrees]

theorem agrees_congr {names names' : List String} (h : ∀ name, name ∈ names ↔ name ∈ names') :
    agrees names = agrees names' := by
  funext slot
  rw [Bool.eq_iff_iff, agrees_iff, agrees_iff]
  simp only [h]

/-- A template without its slots. -/
def literals : String → String := drop fun _ => true

end Slot

/-- Whether `after` is the template `before` without the slots of the fields `names`. -/
structure SlotsRemoved (names : List String) (before after : String) : Prop where
  text : after = Slot.drop (Slot.agrees names) before
  fields : Slot.fields after = (Slot.fields before).filter fun slot => !Slot.agrees names slot
  literals : Slot.literals after = Slot.literals before

theorem Reading.shown_withoutSlots (names : List String) (slot : String) :
    (withoutSlots names).shown (.slot slot) = if Slot.agrees names slot then some "" else none := by
  split
  · next hagrees =>
    obtain ⟨name, hname, hfold⟩ := Slot.agrees_iff.1 hagrees
    cases hshown : (withoutSlots names).shown (.slot slot) with
    | none => exact absurd hfold (shown_withoutSlots_eq_none_iff.1 hshown name hname)
    | some s => rw [shown_withoutSlots_eq_some hshown]
  · next hagrees =>
    refine shown_withoutSlots_eq_none_iff.2 fun name hname hfold => hagrees ?_
    exact Slot.agrees_iff.2 ⟨name, hname, hfold⟩

namespace TemplateTree

/-- The tree without the slots whose names `p` picks. -/
def dropSlots (p : String → Bool) : TemplateTree → TemplateTree
  | literal s => literal s
  | reference (.slot name) => if p name then literal "" else reference (.slot name)
  | reference r => reference r
  | conditional kind name body => conditional kind name (body.dropSlots p)
  | append first second => append (first.dropSlots p) (second.dropSlots p)

variable {p : String → Bool} {t : TemplateTree}

theorem dropSlots_literal (s : String) : dropSlots p (literal s) = literal s := rfl

theorem dropSlots_slot (name : String) :
    dropSlots p (reference (.slot name)) =
      if p name then literal "" else reference (.slot name) := rfl

theorem dropSlots_conditional (kind : Section) (name : String) (body : TemplateTree) :
    dropSlots p (conditional kind name body) = conditional kind name (body.dropSlots p) := rfl

theorem dropSlots_append (first second : TemplateTree) :
    dropSlots p (append first second) = append (first.dropSlots p) (second.dropSlots p) := rfl

theorem slots_dropSlots : (t.dropSlots p).slots = t.slots.filter fun slot => !p slot := by
  induction t with
  | literal s => rfl
  | reference r =>
    cases r with
    | slot name => cases hp : p name <;> simp [dropSlots_slot, slots, hp]
    | _ => rfl
  | conditional kind name body ih => exact ih
  | append first second ih₁ ih₂ =>
    rw [dropSlots_append, slots, ih₁, ih₂, slots, List.filter_append]

theorem dropSlots_dropSlots (q : String → Bool) :
    (t.dropSlots p).dropSlots q = t.dropSlots fun slot => p slot || q slot := by
  induction t with
  | literal s => rfl
  | reference r =>
    cases r with
    | slot name => cases hp : p name <;> simp [dropSlots_slot, dropSlots_literal, hp]
    | _ => rfl
  | conditional kind name body ih => simp only [dropSlots_conditional, ih]
  | append first second ih₁ ih₂ => simp only [dropSlots_append, ih₁, ih₂]

section Slots

variable (ht : t.WellFormed SlotReference fun _ => False)
include ht

theorem WellFormed.dropSlots (p : String → Bool) :
    (t.dropSlots p).WellFormed SlotReference fun _ => False := by
  induction t with
  | literal s => exact ht
  | reference r =>
    obtain ⟨name, rfl⟩ := ht.exists_name
    cases hp : p name
    · simpa [dropSlots_slot, hp] using ht
    · simp [dropSlots_slot, hp, TemplateTree.WellFormed, BraceFree]
  | conditional kind name body ih => exact ht.1.elim
  | append first second ih₁ ih₂ => exact ⟨ih₁ ht.1, ih₂ ht.2⟩

/-- Hiding the slots of some fields takes them out of the tree. -/
theorem read_withoutSlots (names : List String) :
    t.read (.withoutSlots names) = (t.dropSlots (Slot.agrees names)).read {} := by
  induction t with
  | literal s => rfl
  | reference r =>
    obtain ⟨name, rfl⟩ := ht.exists_name
    cases hagrees : Slot.agrees names name <;>
      simp [read, dropSlots_slot, Reading.shown_withoutSlots, hagrees]
  | conditional kind name body ih => exact ht.1.elim
  | append first second ih₁ ih₂ => rw [read, ih₁ ht.1, ih₂ ht.2, dropSlots_append, read]

/-- A scan of a template takes out the slots that the tree has. -/
theorem rewrite_dropped_read (p : String → Bool) (u : List Char) :
    Slot.pattern.rewrite (fun slot => (if p slot.name then "" else String.ofList slot.text).toList)
        (t.read {} ++ u) =
      (t.dropSlots p).read {} ++
        Slot.pattern.rewrite
          (fun slot => (if p slot.name then "" else String.ofList slot.text).toList) u := by
  induction t generalizing u with
  | literal s => exact Pattern.rewrite_append_of_notMem Slot.pattern_opens _ ht.1 u
  | reference r =>
    obtain @⟨name, hne, hfree, hline⟩ := ht
    have hread : read {} (.reference (.slot name)) = tag (Slot.inner name) := rfl
    rw [hread, Slot.pattern.rewrite_hit _ (Slot.pattern_matchAt_slot hfree hne hline u)]
    cases hp : p name
    · simp [dropSlots_slot, hp, hread, Slot.text, tag, Slot.inner]
    · simp [dropSlots_slot, hp, read]
  | conditional kind name body ih => exact ht.1.elim
  | append first second ih₁ ih₂ =>
    rw [read, List.append_assoc, ih₁ ht.1, ih₂ ht.2, ← List.append_assoc]
    rfl

theorem drop_written (p : String → Bool) : Slot.drop p t.written = (t.dropSlots p).written := by
  have hrewrite := rewrite_dropped_read ht p []
  rw [List.append_nil, Pattern.rewrite_nil, List.append_nil] at hrewrite
  rw [Slot.drop, Pattern.replace_eq, written, String.toList_ofList, hrewrite, written]

/-- Hiding the slots of some fields removes them. -/
theorem slotsRemoved_read (names : List String) :
    SlotsRemoved names t.written (String.ofList (t.read (.withoutSlots names))) := by
  have hread : String.ofList (t.read (.withoutSlots names)) =
      (t.dropSlots (Slot.agrees names)).written := by rw [read_withoutSlots ht, written]
  have hdrop := ht.dropSlots (Slot.agrees names)
  rw [hread]
  constructor
  · rw [drop_written ht]
  · rw [fields_written hdrop, slots_dropSlots, eraseDups_filter, fields_written ht]
  · rw [Slot.literals, drop_written hdrop, drop_written ht, dropSlots_dropSlots]
    simp only [Bool.or_true]

end Slots

end TemplateTree

open TemplateTree

/-- The names of the fields that have no part in a card. -/
def droppedNames (fields : FieldValues) (note : Narrowed) : List String :=
  (fields.map Prod.fst).filter fun name => name ∉ note.fields.map Prod.fst

theorem mem_fields_of_mem_leftOut {fields : FieldValues} {front : String} {ord : Ordinal}
    {field : String × String} (h : field ∈ leftOut fields front ord) :
    field.1 ∈ Slot.fields front := by
  have htakes := (List.mem_filter.1 h).2
  rw [Bool.not_eq_true', Narrowed.takesPart, Bool.or_eq_false_iff, Bool.not_eq_false'] at htakes
  exact List.contains_iff_mem.1 htakes.2

section Narrowed

variable {fields : FieldValues} (hnames : (fields.map Prod.fst).Nodup) {ord : Ordinal}
include hnames

/-- Where no name occurs twice, a name that the card does not have is that of a field left out. -/
theorem mem_droppedNames_ofCloze {front back name : String} :
    name ∈ droppedNames fields (.ofCloze fields front back ord) ↔
      name ∈ (leftOut fields front ord).map Prod.fst := by
  have hkept : name ∈ (Narrowed.ofCloze fields front back ord).fields.map Prod.fst ↔
      ∃ field ∈ fields, field ∉ leftOut fields front ord ∧ field.1 = name := by
    have hfields : (∃ value, (name, value) ∈ (Narrowed.ofCloze fields front back ord).fields) ↔ _ :=
      mem_fields_ofCloze
    rw [← hfields]
    simp
  rw [droppedNames, List.mem_filter, decide_eq_true_eq, hkept, List.mem_map, List.mem_map]
  constructor
  · rintro ⟨⟨field, hfield, rfl⟩, hdropped⟩
    by_contra hnot
    exact hdropped ⟨field, hfield, fun hleft => hnot ⟨field, hleft, rfl⟩, rfl⟩
  · rintro ⟨field, hleft, rfl⟩
    have hfield := List.mem_of_mem_filter hleft
    refine ⟨⟨field, hfield, rfl⟩, ?_⟩
    rintro ⟨other, hother, hpart, hname⟩
    exact hpart (List.inj_on_of_nodup_map hnames hother hfield hname ▸ hleft)

/-- The slots of the fields left out go from a template of slots. -/
theorem slotsRemoved_leftOut {front : TemplateTree}
    (hfront : front.WellFormed SlotReference fun _ => False) {side : TemplateTree}
    (hside : side.WellFormed SlotReference fun _ => False) (back : String) :
    SlotsRemoved (droppedNames fields (.ofCloze fields front.written back ord)) side.written
      ((leftOut fields front.written ord).foldl
        (fun template field => Narrowed.removeSlots field.1 template) side.written) := by
  have hquiet : Quiet SlotReference {} := fun r s _ hs => by simp at hs
  -- A field is left out only if the front has a slot of exactly its name.
  have hslot : ∀ name ∈ (leftOut fields front.written ord).map Prod.fst,
      BraceFree name.toList := by
    refine List.forall_mem_map.2 fun field hleft => ?_
    have hslot := (mem_fields_written hfront).1 (mem_fields_of_mem_leftOut hleft)
    obtain ⟨-, hfree, -⟩ := hfront.of_mem_slots hslot
    exact hfree
  have hread := foldl_removeSlots_read hside hquiet
    (fun r hr => ⟨hr.braceFree_inner, fun _ _ => hr.exists_name⟩) hslot
  rw [Reading.nothing_orElse, List.foldl_map] at hread
  have hagrees : Slot.agrees (droppedNames fields (.ofCloze fields front.written back ord)) =
      Slot.agrees ((leftOut fields front.written ord).map Prod.fst) :=
    Slot.agrees_congr fun name => mem_droppedNames_ofCloze hnames
  obtain ⟨htext, hfields, hliterals⟩ :=
    slotsRemoved_read hside ((leftOut fields front.written ord).map Prod.fst)
  rw [← hagrees, ← hread] at htext hfields
  rw [← hread] at hliterals
  exact ⟨htext, hfields, hliterals⟩

/-- Narrowing a note removes exactly the slots that agree with the name of a field left out. -/
theorem slotsRemoved_ofCloze {front back : TemplateTree}
    (hfront : front.WellFormed SlotReference fun _ => False)
    (hback : back.WellFormed SlotReference fun _ => False) (ord : Ordinal) :
    let note := Narrowed.ofCloze fields front.written back.written ord
    SlotsRemoved (droppedNames fields note) front.written note.front ∧
      SlotsRemoved (droppedNames fields note) back.written note.back := by
  have hremoved {side : TemplateTree} (hside : side.WellFormed SlotReference fun _ => False) :
      SlotsRemoved _ side.written ((leftOut fields front.written ord).foldl _ side.written) :=
    slotsRemoved_leftOut hnames hfront hside back.written
  rw [Narrowed.ofCloze_eq fields front.written back.written rfl] at hremoved ⊢
  exact ⟨hremoved hfront, hremoved hback⟩

end Narrowed

/-- Two slots with a literal between them. -/
def twoSlots (first between second : String) : TemplateTree :=
  .append (.reference (.slot first)) (.append (.literal between) (.reference (.slot second)))

theorem wellFormed_twoSlots {first between second : String} (hfirst : SlotReference (.slot first))
    (hbetween : BraceFree between.toList) (hsecond : SlotReference (.slot second)) :
    (twoSlots first between second).WellFormed SlotReference fun _ => False :=
  ⟨hfirst, hbetween, hsecond⟩

/-- The field without a deletion takes its slot along. -/
theorem slotsRemoved_ofCloze_two_slots :
    let fields := [("A", "\x7b\x7bc1::x\x7d\x7d"), ("B", "y")]
    let front := twoSlots "A" " and " "B"
    let back := twoSlots "B" ": " "A"
    let note := Narrowed.ofCloze fields front.written back.written .first
    droppedNames fields note = ["B"] ∧
      SlotsRemoved ["B"] "\x7b\x7bcloze:A\x7d\x7d and \x7b\x7bcloze:B\x7d\x7d"
        "\x7b\x7bcloze:A\x7d\x7d and " ∧
      SlotsRemoved ["B"] "\x7b\x7bcloze:B\x7d\x7d: \x7b\x7bcloze:A\x7d\x7d"
        ": \x7b\x7bcloze:A\x7d\x7d" := by
  have hA : SlotReference (.slot "A") := .slot (by decide) (by decide) (by decide)
  have hB : SlotReference (.slot "B") := .slot (by decide) (by decide) (by decide)
  have hremoved := slotsRemoved_ofCloze
    (by decide : ([("A", "\x7b\x7bc1::x\x7d\x7d"), ("B", "y")].map Prod.fst).Nodup)
    (wellFormed_twoSlots hA (by decide : BraceFree " and ".toList) hB)
    (wellFormed_twoSlots hB (by decide : BraceFree ": ".toList) hA) .first
  have hnote : Narrowed.ofCloze [("A", "\x7b\x7bc1::x\x7d\x7d"), ("B", "y")]
      (twoSlots "A" " and " "B").written (twoSlots "B" ": " "A").written .first =
      ⟨[("A", "\x7b\x7bc1::x\x7d\x7d")], "\x7b\x7bcloze:A\x7d\x7d and ",
        ": \x7b\x7bcloze:A\x7d\x7d"⟩ := by decide +kernel
  rw [hnote] at hremoved
  exact ⟨by decide +kernel, hremoved⟩

/-- The names of two fields differ in letter case only: the field that takes part loses its slot. -/
theorem kept_field_without_slots :
    let fields := [("N", ""), ("n", "\x7b\x7bc1::x\x7d\x7d")]
    let front := twoSlots "N" " " "n"
    let note := Narrowed.ofCloze fields front.written (TemplateTree.literal "").written .first
    (fields.map Prod.fst).Nodup ∧ front.WellFormed SlotReference (fun _ => False) ∧
      (TemplateTree.literal "").WellFormed SlotReference (fun _ => False) ∧
      droppedNames fields note = ["N"] ∧ Slot.fields front.written = ["N", "n"] ∧
      Slot.fields note.front = [] ∧
      Slot.fields note.front ≠
        (Slot.fields front.written).filter (· ∉ droppedNames fields note) := by
  have hN : SlotReference (.slot "N") := .slot (by decide) (by decide) (by decide)
  have hn : SlotReference (.slot "n") := .slot (by decide) (by decide) (by decide)
  have hempty : BraceFree "".toList := by decide
  exact ⟨by decide, wellFormed_twoSlots hN (by decide) hn, hempty, by decide +kernel,
    by decide +kernel, by decide +kernel, by decide +kernel⟩

end Flashcard
