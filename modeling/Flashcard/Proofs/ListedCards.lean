import Flashcard.Proofs.ClozeOrdinals
import Flashcard.Proofs.SlotTemplate
import Flashcard.Proofs.UsedDirectives
import Flashcard.Stripper

/-!
# The cloze cards that the enumerator lists

A cloze card renders only if a field that takes part in it is shown on the front
(`usesDirective_ofCloze_iff`). A field with a slot of its own takes part through a deletion, which
the enumerator lists. Slots agree with names in any letter case, and the reference to the value of
a field may read like a slot, so a field without a slot of its own may be shown as well: on such
fronts cards render that are not listed (`rendered_listed_iff`).
-/

namespace Flashcard

open TemplateTree

/-- Whether the field `name` is shown where the slot of the field `slot` stands: the slot agrees
with the name in some letter case, or it is a reference to the value of the field. -/
def ShownAt (name slot : String) : Prop :=
  foldText name.toList = foldText slot.toList ∨ name = "cloze:" ++ slot

instance (name slot : String) : Decidable (ShownAt name slot) :=
  inferInstanceAs (Decidable (_ ∨ _))

theorem eq_slot_inner_iff {name slot : String} :
    Slot.inner slot = name.toList ↔ name = "cloze:" ++ slot := by
  have hkeyword : "cloze:".toList = slotKeyword := by simp [slotKeyword]
  rw [← String.toList_inj, String.toList_append, hkeyword, Slot.inner, eq_comm]

section Template

variable {t : TemplateTree} (ht : t.WellFormed SlotReference fun _ => False) {σ : Reading}
  (hσ : Quiet SlotReference σ) {name : String} (hname : BraceFree name.toList)
include ht hσ hname

theorem hasSlot_read_iff :
    HasSlot name (t.read σ) ↔
      ∃ slot ∈ t.slots, σ.shown (.slot slot) = none ∧
        foldText name.toList = foldText slot.toList := by
  constructor
  · rintro ⟨before, x, behind, hx, heq⟩
    have hxfree := (Slot.braceFree_inner hname).of_foldText_eq hx
    have htag : tag x <:+: t.read σ := ⟨before, behind, by rw [heq, List.append_assoc]⟩
    obtain ⟨slot, hslot, hnone, rfl⟩ := (tag_infix_read_iff ht hσ hxfree).1 htag
    exact ⟨slot, hslot, hnone, (Slot.foldText_inner_inj.1 hx).symm⟩
  · rintro ⟨slot, hslot, hnone, hfold⟩
    have hfree := Slot.braceFree_inner (hname.of_foldText_eq hfold.symm)
    obtain ⟨before, behind, hread⟩ :=
      (tag_infix_read_iff ht hσ hfree).2 ⟨slot, hslot, hnone, rfl⟩
    refine ⟨before, _, behind, Slot.foldText_inner_inj.2 hfold.symm, ?_⟩
    rw [← hread, List.append_assoc]

theorem reference_infix_read_iff :
    reference name <:+: t.read σ ↔
      ∃ slot ∈ t.slots, σ.shown (.slot slot) = none ∧ name = "cloze:" ++ slot := by
  simp only [← eq_slot_inner_iff]
  exact tag_infix_read_iff ht hσ hname

/-- Neither sections nor references to text without markup stand in a template of slots. -/
theorem standsIn_read {d : Directive} (h : d.StandsIn name (t.read σ)) :
    d = .value ∨ d = .slot := by
  obtain ⟨before, x, behind, hx, heq⟩ := h.exists_tag
  have hfree (hinner : BraceFree (d.inner name)) :
      ∃ slot, foldText (Slot.inner slot) = foldText (d.inner name) := by
    have htag : tag x <:+: t.read σ := ⟨before, behind, by rw [heq, List.append_assoc]⟩
    obtain ⟨slot, -, -, rfl⟩ := (tag_infix_read_iff ht hσ (hinner.of_foldText_eq hx)).1 htag
    exact ⟨slot, hx⟩
  cases d with
  | value => exact .inl rfl
  | slot => exact .inr rfl
  | conditional kind =>
    obtain ⟨slot, hslot⟩ := hfree (braceFree_sign_cons (sign_mem_sectionSigns kind) hname)
    exact absurd hslot.symm (foldText_sign_ne (sign_mem_sectionSigns kind) _)
  | text =>
    obtain ⟨slot, hslot⟩ := hfree (braceFree_append.2 ⟨by decide, hname⟩)
    exact absurd (List.cons.inj hslot).1 (by decide)

/-- A field has a directive in a template of slots exactly if it is shown at one of the slots. -/
theorem exists_standsIn_read_iff :
    (∃ d : Directive, d.StandsIn name (t.read σ)) ↔
      ∃ slot ∈ t.slots, σ.shown (.slot slot) = none ∧ ShownAt name slot := by
  have hd : (∃ d : Directive, d.StandsIn name (t.read σ)) ↔
      HasSlot name (t.read σ) ∨ reference name <:+: t.read σ := by
    constructor
    · rintro ⟨d, hstands⟩
      obtain rfl | rfl := standsIn_read ht hσ hname hstands
      · exact .inr hstands
      · exact .inl hstands
    · rintro (hslot | hvalue)
      · exact ⟨.slot, hslot⟩
      · exact ⟨.value, hvalue⟩
  rw [hd, hasSlot_read_iff ht hσ hname, reference_infix_read_iff ht hσ hname, ← exists_or]
  simp only [ShownAt, and_or_left]

end Template

/-- Whether each slot at which a field without a slot of its own is shown agrees with the name of
a field that has one. -/
def SlotsCovered (names slots : List String) : Prop :=
  ∀ name ∈ names, name ∉ slots → ∀ slot ∈ slots, ShownAt name slot →
    ∃ owner ∈ names, owner ∈ slots ∧ foldText owner.toList = foldText slot.toList

instance (names slots : List String) : Decidable (SlotsCovered names slots) :=
  inferInstanceAs (Decidable (∀ name ∈ names, _))

/-- The fields that take no part in a card. -/
def leftOut (fields : FieldValues) (front : String) (ord : Ordinal) : FieldValues :=
  fields.filter fun field =>
    !Narrowed.takesPart (Slot.fields front) (toString ord.deletionIndex) field

section Narrowed

variable {fields : FieldValues} {ord : Ordinal}

theorem notMem_leftOut_iff {front : String} {field : String × String} (hfield : field ∈ fields) :
    field ∉ leftOut fields front ord ↔
      Narrowed.takesPart (Slot.fields front) (toString ord.deletionIndex) field := by
  rw [leftOut, List.mem_filter, and_iff_right hfield, Bool.not_eq_true', Bool.not_eq_false]

/-- A field with a slot takes part in a card through a deletion that is listed. -/
theorem mem_clozeOrdinals_of_notMem_leftOut {front : String} {field : String × String}
    (hfield : field ∈ fields) (hslot : field.1 ∈ Slot.fields front)
    (hpart : field ∉ leftOut fields front ord) (hbound : ord.deletionIndex < Ordinal.bound) :
    ord ∈ clozeOrdinals fields front := by
  rw [notMem_leftOut_iff hfield, Narrowed.takesPart, List.contains_iff_mem.2 hslot, Bool.not_true,
    Bool.or_false, List.any_eq_true] at hpart
  obtain ⟨d, hd, hindex⟩ := hpart
  exact mem_clozeOrdinals.2
    ⟨field, hfield, hslot, d, hd, ordinal?_of_index_eq (beq_iff_eq.1 hindex) hbound⟩

/-- The fields of a card are those that are not left out. -/
theorem mem_fields_ofCloze {front back name : String} :
    (∃ value, (name, value) ∈ (Narrowed.ofCloze fields front back ord).fields) ↔
      ∃ field ∈ fields, field ∉ leftOut fields front ord ∧ field.1 = name := by
  rw [Narrowed.ofCloze_eq fields front back rfl]
  simp only [List.mem_map, List.mem_filter, Prod.mk.injEq]
  constructor
  · rintro ⟨value, field, ⟨hfield, htakes⟩, rfl, -⟩
    exact ⟨field, hfield, (notMem_leftOut_iff hfield).2 htakes, rfl⟩
  · rintro ⟨field, hfield, hpart, rfl⟩
    exact ⟨_, field, ⟨hfield, (notMem_leftOut_iff hfield).1 hpart⟩, rfl, rfl⟩

variable {front : TemplateTree} (hfields : ∀ field ∈ fields, BraceFree field.1.toList)
  (hfront : front.WellFormed SlotReference fun _ => False) (back : String)
include hfields hfront

/-- On a front of slots, the slots of the fields left out are hidden. -/
theorem ofCloze_front_read :
    (Narrowed.ofCloze fields front.written back ord).front =
      String.ofList
        (front.read (.withoutSlots ((leftOut fields front.written ord).map Prod.fst))) := by
  have hnothing : Quiet SlotReference {} := fun r s _ hs => by simp at hs
  have hnames : ∀ name ∈ (leftOut fields front.written ord).map Prod.fst, BraceFree name.toList :=
    List.forall_mem_map.2 fun field hfield => hfields field (List.mem_of_mem_filter hfield)
  have hread := foldl_removeSlots_read hfront hnothing
    (fun r hr => ⟨hr.braceFree_inner, fun _ _ => hr.exists_name⟩) hnames
  rw [Reading.nothing_orElse, List.foldl_map] at hread
  rw [Narrowed.ofCloze_eq fields front.written back rfl, ← hread]
  rfl

/-- The front of a card uses a directive exactly if a field of the card is shown at a slot that does
not go with a field left out. -/
theorem usesDirective_ofCloze_iff :
    UsesDirective (Narrowed.ofCloze fields front.written back ord).fields
        (Narrowed.ofCloze fields front.written back ord).front.toList ↔
      ∃ field ∈ fields, field ∉ leftOut fields front.written ord ∧
        ∃ slot ∈ front.slots, ShownAt field.1 slot ∧
          ∀ other ∈ leftOut fields front.written ord,
            foldText slot.toList ≠ foldText other.1.toList := by
  have hquiet (names : List String) : Quiet SlotReference (.withoutSlots names) := by
    intro r s _ hs
    simp [Reading.shown_withoutSlots_eq_some hs]
  have hstands {field : String × String} (hfield : field ∈ fields) :
      (∃ d : Directive, d.StandsIn field.1
        (front.read (.withoutSlots ((leftOut fields front.written ord).map Prod.fst)))) ↔ _ :=
    exists_standsIn_read_iff hfront (hquiet _) (hfields field hfield)
  simp only [Reading.shown_withoutSlots_eq_none_iff, List.forall_mem_map] at hstands
  rw [ofCloze_front_read hfields hfront, String.toList_ofList]
  constructor
  · rintro ⟨⟨name, value⟩, hmem, hd⟩
    obtain ⟨field, hfield, hpart, rfl⟩ := mem_fields_ofCloze.1 ⟨value, hmem⟩
    obtain ⟨slot, hslot, hkept, hshown⟩ := (hstands hfield).1 hd
    exact ⟨field, hfield, hpart, slot, hslot, hshown, hkept⟩
  · rintro ⟨field, hfield, hpart, slot, hslot, hshown, hkept⟩
    obtain ⟨value, hmem⟩ := mem_fields_ofCloze.2 ⟨field, hfield, hpart, rfl⟩
    exact ⟨_, hmem, (hstands hfield).2 ⟨slot, hslot, hkept, hshown⟩⟩

/-- Where the slots are covered, each card that renders is listed. -/
theorem mem_clozeOrdinals_of_card {stripper : Stripper} {settings : Settings} {back : String}
    (hcovered : SlotsCovered (fields.map Prod.fst) front.slots)
    (hbound : ord.deletionIndex < Ordinal.bound) {card : Card}
    (hcard : (Renderer.withBuiltIns stripper settings).card .cloze ord fields front.written back =
      .ok (some card)) : ord ∈ clozeOrdinals fields front.written := by
  have huses : UsesDirective (Narrowed.ofCloze fields front.written back ord).fields
      (Narrowed.ofCloze fields front.written back ord).front.toList := by
    by_contra hunused
    rw [card_withBuiltIns stripper settings rfl, Renderer.narrow,
      if_pos (builtInText_eq_self_of_unused stripper settings .front hunused)] at hcard
    cases hcard
  obtain ⟨field, hfield, hpart, slot, hslot, hshown, hkept⟩ :=
    (usesDirective_ofCloze_iff hfields hfront back).1 huses
  by_cases hown : field.1 ∈ front.slots
  · exact mem_clozeOrdinals_of_notMem_leftOut hfield ((mem_fields_written hfront).2 hown) hpart
      hbound
  · obtain ⟨name, hname, hnameslot, hfold⟩ :=
      hcovered field.1 (List.mem_map_of_mem hfield) hown slot hslot hshown
    obtain ⟨owner, howner, rfl⟩ := List.mem_map.1 hname
    exact mem_clozeOrdinals_of_notMem_leftOut howner ((mem_fields_written hfront).2 hnameslot)
      (fun hleft => hkept owner hleft hfold.symm) hbound

end Narrowed

/-- The note of the fields `names` whose values are empty. -/
def emptyNote (names : List String) : FieldValues := names.map fun name => (name, "")

section EmptyNote

variable {names : List String} {front : TemplateTree} {ord : Ordinal}

theorem clozeOrdinals_emptyNote (names : List String) (front : String) :
    clozeOrdinals (emptyNote names) front = [] := by
  refine List.eq_nil_iff_forall_not_mem.2 fun ord hord => ?_
  obtain ⟨field, hfield, -, d, hd, -⟩ := mem_clozeOrdinals.1 hord
  obtain ⟨name, -, rfl⟩ := List.mem_map.1 hfield
  simp [Deletion.findAll, Pattern.findAll] at hd

/-- Each field with a slot is left out of every card. -/
theorem mem_leftOut_emptyNote {front : String} {field : String × String}
    (hfield : field ∈ emptyNote names) :
    field ∈ leftOut (emptyNote names) front ord ↔ field.1 ∈ Slot.fields front := by
  obtain ⟨name, -, rfl⟩ := List.mem_map.1 hfield
  rw [← not_iff_not, notMem_leftOut_iff hfield, Narrowed.takesPart]
  simp [Deletion.findAll, Pattern.findAll]

theorem value_eq_empty_of_mem_ofCloze {front back : String} {field : String × String}
    (h : field ∈ (Narrowed.ofCloze (emptyNote names) front back ord).fields) : field.2 = "" := by
  rw [Narrowed.ofCloze_eq _ _ _ rfl] at h
  obtain ⟨other, hother, rfl⟩ := List.mem_map.1 h
  obtain ⟨name, -, rfl⟩ := List.mem_map.1 (List.mem_of_mem_filter hother)
  simp [Narrowed.reveal, Pattern.replace_eq]

variable (hnames : ∀ name ∈ names, BraceFree name.toList)
  (hfront : front.WellFormed SlotReference fun _ => False)
  (hcovered : ¬ SlotsCovered names front.slots)
include hnames hfront hcovered

/-- Where a slot is not covered, it stays, and a field that is shown there stays as well. -/
theorem usesDirective_emptyNote (ord : Ordinal) (back : String) :
    UsesDirective (Narrowed.ofCloze (emptyNote names) front.written back ord).fields
      (Narrowed.ofCloze (emptyNote names) front.written back ord).front.toList := by
  simp only [SlotsCovered, not_forall] at hcovered
  obtain ⟨name, hname, hnone, slot, hslot, hshown, howner⟩ := hcovered
  have hfields : ∀ field ∈ emptyNote names, BraceFree field.1.toList := List.forall_mem_map.2 hnames
  have hfield : (name, "") ∈ emptyNote names := List.mem_map_of_mem hname
  refine (usesDirective_ofCloze_iff hfields hfront back).2
    ⟨_, hfield, ?_, slot, hslot, hshown, fun other hother hfold => howner ?_⟩
  · rwa [mem_leftOut_emptyNote hfield, mem_fields_written hfront]
  · have hmem := List.mem_of_mem_filter hother
    rw [mem_leftOut_emptyNote hmem, mem_fields_written hfront] at hother
    obtain ⟨owner, howner, rfl⟩ := List.mem_map.1 hmem
    exact ⟨owner, howner, hother, hfold.symm⟩

/-- Where a slot is not covered, every card of the note with empty values renders. -/
theorem exists_card_emptyNote (stripper : Stripper) (settings : Settings)
    (hempty : '{' ∉ (stripper "").toList) (ord : Ordinal) (back : String) :
    ∃ card, (Renderer.withBuiltIns stripper settings).card .cloze ord (emptyNote names)
      front.written back = .ok (some card) := by
  have huses := usesDirective_emptyNote hnames hfront hcovered ord back
  have hfree : BuiltInStep.TextsFree (stepsOf (views stripper settings .front
      (Narrowed.ofCloze (emptyNote names) front.written back ord).fields))
      (Narrowed.ofCloze (emptyNote names) front.written back ord).front.toList :=
    textsFree_of_openBrace_notMem fun field hfield => by
      rw [value_eq_empty_of_mem_ofCloze hfield]
      exact ⟨by simp, hempty⟩
  have hcard := card_withBuiltIns stripper settings
    (rfl : Renderer.narrow .cloze ord (emptyNote names) front.written back = _)
  rw [Renderer.narrow, if_neg fun hsame => (builtInText_eq_self_iff hfree).1 hsame huses] at hcard
  exact ⟨_, hcard⟩

end EmptyNote

/-- On a front of slots, the cards that render are listed, whatever the values of the fields are,
exactly if the slots are covered. -/
theorem rendered_listed_iff {names : List String} (hnames : ∀ name ∈ names, BraceFree name.toList)
    {front : TemplateTree} (hfront : front.WellFormed SlotReference fun _ => False) :
    (∀ fields : FieldValues, fields.map Prod.fst = names → ∀ (back : String) (ord : Ordinal),
      ord.deletionIndex < Ordinal.bound →
      (∃ card, (Renderer.withBuiltIns visibleText {}).card .cloze ord fields front.written back =
        .ok (some card)) → ord ∈ clozeOrdinals fields front.written) ↔
      SlotsCovered names front.slots := by
  constructor
  · intro hlisted
    by_contra hcovered
    have hfields : (emptyNote names).map Prod.fst = names := by
      rw [emptyNote, List.map_map]
      exact List.map_id names
    have hcard := exists_card_emptyNote hnames hfront hcovered visibleText {} (by decide) .first ""
    have hord := hlisted _ hfields "" .first (by decide) hcard
    rw [clozeOrdinals_emptyNote] at hord
    exact List.not_mem_nil hord
  · rintro hcovered fields rfl back ord hbound ⟨card, hcard⟩
    have hfields : ∀ field ∈ fields, BraceFree field.1.toList := fun field hfield =>
      hnames field.1 (List.mem_map_of_mem hfield)
    exact mem_clozeOrdinals_of_card hfields hfront hcovered hbound hcard

/-- A field without a slot of its own is shown at the slot of a field that has one. -/
theorem rendered_listed_iff_letter_case :
    (Renderer.withBuiltIns visibleText {}).card .cloze ⟨1, by decide⟩
        [("n", "y"), ("N", "\x7b\x7bc2::x\x7d\x7d")] "\x7b\x7bcloze:N\x7d\x7d" "" =
          .ok (some ⟨"y", ""⟩) ∧
      ⟨1, by decide⟩ ∈ clozeOrdinals [("n", "y"), ("N", "\x7b\x7bc2::x\x7d\x7d")]
        "\x7b\x7bcloze:N\x7d\x7d" := by
  have hnames : ∀ name ∈ ["n", "N"], BraceFree name.toList := by decide
  have hfront : (TemplateTree.reference (.slot "N")).WellFormed SlotReference fun _ => False :=
    .slot (by decide) (by decide) (by decide)
  have hcovered : SlotsCovered ["n", "N"] ["N"] := by decide
  have hwritten : (TemplateTree.reference (.slot "N")).written = "\x7b\x7bcloze:N\x7d\x7d" := by
    decide
  have hlisted := (rendered_listed_iff hnames hfront).2 hcovered
    [("n", "y"), ("N", "\x7b\x7bc2::x\x7d\x7d")] rfl "" ⟨1, by decide⟩ (by decide)
  rw [hwritten] at hlisted
  have hcard : (Renderer.withBuiltIns visibleText {}).card .cloze ⟨1, by decide⟩
      [("n", "y"), ("N", "\x7b\x7bc2::x\x7d\x7d")] "\x7b\x7bcloze:N\x7d\x7d" "" =
        .ok (some ⟨"y", ""⟩) := by decide +kernel
  exact ⟨hcard, hlisted ⟨_, hcard⟩⟩

/-- Whether a note has a card for an ordinal that it does not list. -/
def CardWithoutListing (ord : Ordinal) (fields : FieldValues) (front : String) : Prop :=
  (∃ card, (Renderer.withBuiltIns visibleText {}).card .cloze ord fields front "" =
    .ok (some card)) ∧ ord ∉ clozeOrdinals fields front

/-- A slot in another letter case than the name, and a name that makes the slot a reference. -/
theorem card_without_listing :
    CardWithoutListing .first [("n", "x")] "\x7b\x7bcloze:N\x7d\x7d" ∧
      CardWithoutListing .first [("cloze:N", "x")] "\x7b\x7bcloze:N\x7d\x7d" :=
  ⟨⟨⟨⟨"x", ""⟩, by decide +kernel⟩, by decide +kernel⟩,
    ⟨⟨⟨"x", ""⟩, by decide +kernel⟩, by decide +kernel⟩⟩

end Flashcard
