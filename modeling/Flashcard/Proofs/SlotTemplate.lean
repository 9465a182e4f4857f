import Flashcard.Narrowing
import Flashcard.Proofs.FieldReading

/-!
# Templates of slots

Where a template consists of literals and slots, a scan finds the slots of its tree
(`fields_written`). Removing the slots of some fields hides those that agree with one of the
names in some letter case (`foldl_removeSlots_read`), and the tags in what is left are the slots
that are not hidden (`tag_infix_read_iff`).
-/

namespace Flashcard

/-- A slot that a scan takes for what it is. -/
inductive SlotReference : Reference → Prop where
  | slot {name : String} (ne_empty : name ≠ "") (braceFree : BraceFree name.toList)
    (line : '\n' ∉ name.toList) : SlotReference (.slot name)

theorem SlotReference.braceFree_inner {r : Reference} (h : SlotReference r) :
    BraceFree r.inner := by
  cases h with
  | slot _ hname _ => exact Slot.braceFree_inner hname

theorem SlotReference.exists_name {r : Reference} (h : SlotReference r) :
    ∃ name, r = .slot name := by
  cases h with
  | @slot name => exact ⟨name, rfl⟩

open TemplateTree

/-- What is known once the slots of the fields `names` are gone. -/
def Reading.withoutSlots (names : List String) : Reading where
  shown r := names.findSome? fun name => slotsShown name "" r

theorem Reading.shown_withoutSlots_eq_some {names : List String} {r : Reference} {s : String}
    (h : (withoutSlots names).shown r = some s) : s = "" := by
  obtain ⟨name, -, hs⟩ := List.exists_of_findSome?_eq_some h
  obtain ⟨n, -, -, rfl⟩ := slotsShown_eq_some_iff.1 hs
  rfl

theorem Reading.shown_withoutSlots_eq_none_iff {names : List String} {slot : String} :
    (withoutSlots names).shown (.slot slot) = none ↔
      ∀ name ∈ names, foldText slot.toList ≠ foldText name.toList := by
  rw [withoutSlots, List.findSome?_eq_none_iff]
  simp only [slotsShown, ite_eq_right_iff, reduceCtorEq, imp_false, ne_eq]

namespace TemplateTree

/-- The names of a tree's slots. -/
def slots : TemplateTree → List String
  | literal _ => []
  | reference (.slot name) => [name]
  | reference _ => []
  | conditional _ _ body => body.slots
  | append first second => first.slots ++ second.slots

/-- Each slot of a template is one of the references that the template may hold. -/
theorem WellFormed.of_mem_slots {P : Reference → Prop} {t : TemplateTree}
    (ht : t.WellFormed P fun _ => False) {name : String} (hname : name ∈ t.slots) :
    P (.slot name) := by
  induction t with
  | literal s => cases hname
  | reference r =>
    cases r with
    | slot n => rwa [List.mem_singleton.1 hname]
    | _ => cases hname
  | conditional kind name body ih => exact ht.1.elim
  | append first second ih₁ ih₂ => exact (List.mem_append.1 hname).elim (ih₁ ht.1) (ih₂ ht.2)

section Scan

variable {t : TemplateTree} (ht : t.WellFormed SlotReference fun _ => False)
include ht

/-- A scan of a template finds the slots of its tree. -/
theorem found_slots_read (u : List Char) :
    (Slot.pattern.found (t.read {} ++ u)).map Slot.name =
      t.slots ++ (Slot.pattern.found u).map Slot.name := by
  induction t generalizing u with
  | literal s => rw [read, Pattern.found_append_of_notMem Slot.pattern_opens ht.1]; rfl
  | reference r =>
    obtain @⟨name, hne, hfree, hline⟩ := ht
    have hread : read {} (.reference (.slot name)) = tag (Slot.inner name) := rfl
    rw [hread, Slot.pattern.found_hit (Slot.pattern_matchAt_slot hfree hne hline u)]
    rfl
  | conditional kind name body ih => exact ht.1.elim
  | append first second ih₁ ih₂ =>
    rw [read, List.append_assoc, ih₁ ht.1, ih₂ ht.2, slots, List.append_assoc]

theorem fields_written : Slot.fields t.written = t.slots.eraseDups := by
  have hfound := found_slots_read ht []
  rw [List.append_nil, Pattern.found_nil, List.map_nil, List.append_nil] at hfound
  rw [Slot.fields, Pattern.findAll_eq, written, String.toList_ofList, hfound]

theorem mem_fields_written {name : String} : name ∈ Slot.fields t.written ↔ name ∈ t.slots := by
  rw [fields_written ht, List.mem_eraseDups]

section Tag

variable {σ : Reading} (hσ : Quiet SlotReference σ) {x : List Char} (hx : BraceFree x)
include hσ hx

/-- No tag stands across the end of a template. -/
theorem tag_infix_read_append_iff (u : List Char) :
    tag x <:+: t.read σ ++ u ↔
      (∃ name ∈ t.slots, σ.shown (.slot name) = none ∧ Slot.inner name = x) ∨ tag x <:+: u := by
  have hplain {s : List Char} (hs : '{' ∉ s) (u : List Char) :
      tag x <:+: s ++ u ↔ tag x <:+: u := infix_append_iff_of_notMem hs _ u
  induction t generalizing u with
  | literal s => simp [read, slots, hplain ht.1]
  | reference r =>
    obtain @⟨name, hne, hfree, hline⟩ := ht
    cases hshown : σ.shown (.slot name) with
    | some s =>
      have hquiet := hσ _ s (.slot hne hfree hline) hshown
      simp [read, slots, hshown, hplain hquiet]
    | none =>
      have hread : read σ (.reference (.slot name)) = tag (Slot.inner name) := by
        simp only [read, hshown]
        rfl
      rw [hread, tag_infix_tag_append_iff u (Slot.braceFree_inner hfree) hx]
      simp [slots, hshown]
  | conditional kind name body ih => exact ht.1.elim
  | append first second ih₁ ih₂ =>
    simp only [read, slots, List.append_assoc, ih₁ ht.1, ih₂ ht.2, List.mem_append, or_and_right,
      exists_or, or_assoc]

/-- A tag stands in a template exactly if it is a slot that is not known. -/
theorem tag_infix_read_iff :
    tag x <:+: t.read σ ↔
      ∃ name ∈ t.slots, σ.shown (.slot name) = none ∧ Slot.inner name = x := by
  have hread := tag_infix_read_append_iff ht hσ hx []
  have hnil : ¬ tag x <:+: [] := fun h => tag_ne_nil x (List.infix_nil.1 h)
  rwa [List.append_nil, or_iff_left hnil] at hread

end Tag

end Scan

/-- Removing the slots of one field after another hides them in the tree. -/
theorem foldl_removeSlots_read {P : Reference → Prop} {t : TemplateTree}
    (ht : t.WellFormed P fun _ => False) {σ : Reading} (hσ : Quiet P σ)
    (hP : ∀ r, P r → BraceFree r.inner ∧
      ∀ name, foldText r.inner = foldText (Slot.inner name) → ∃ m, r = .slot m)
    {names : List String} (hnames : ∀ name ∈ names, BraceFree name.toList) :
    names.foldl (fun template name => Narrowed.removeSlots name template)
        (String.ofList (t.read σ)) =
      String.ofList (t.read (σ.orElse (.withoutSlots names))) := by
  induction names generalizing σ with
  | nil =>
    have hnothing : σ.orElse (.withoutSlots []) = σ := by
      simp [Reading.orElse, Reading.withoutSlots]
    rw [hnothing]
    rfl
  | cons name names ih =>
    obtain ⟨hname, hrest⟩ := List.forall_mem_cons.1 hnames
    have hstep : Narrowed.removeSlots name (String.ofList (t.read σ)) =
        String.ofList (t.read (σ.withShown (slotsShown name ""))) := by
      rw [← rewrite_slots_read hname "" ht hσ (fun r hr => ⟨(hP r hr).1, (hP r hr).2 name⟩)
        (fun _ hm => hm.elim), Narrowed.removeSlots, Pattern.replace_eq]
      simp only [String.toList_ofList]
    have hσ' := quiet_withShown (slotsShown name "") hσ fun r s _ hs => by
      obtain ⟨n, -, -, rfl⟩ := slotsShown_eq_some_iff.1 hs
      simp
    have hcons : (σ.withShown (slotsShown name "")).orElse (.withoutSlots names) =
        σ.orElse (.withoutSlots (name :: names)) := by
      refine Reading.ext (funext fun r => ?_) rfl
      simp only [Reading.orElse, Reading.withShown, Reading.withoutSlots, List.findSome?_cons]
      cases σ.shown r <;> cases slotsShown name "" r <;> rfl
    rw [List.foldl_cons, ← hcons, ← ih hσ' hrest, ← hstep]

end TemplateTree

end Flashcard
