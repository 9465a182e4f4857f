import Flashcard.Enumeration
import Flashcard.Proofs.Directive.Deletion
import Flashcard.Proofs.Text.Decimal
import Mathlib.Data.List.Sort
import Mathlib.Data.Nat.Digits.Defs

/-!
# The ordinals of a cloze note

`mem_clozeOrdinals` says which ordinals the enumerator lists, and `clozeOrdinals_ascending` that it
lists them in ascending order, each of them once. So the list depends on the note only as a set of
fields.

An index counts as a number here, with leading zeros and at any length. Index zero and indices
that no ordinal reaches list nothing.
-/

namespace Flashcard

section Insert

variable {ord new : Ordinal} {ords : List Ordinal}

theorem mem_insertOrdinal : ord ∈ insertOrdinal new ords ↔ ord = new ∨ ord ∈ ords := by
  fun_induction insertOrdinal new ords with
  | case1 => simp
  | case2 o ords hlt => simp
  | case3 ords => simp
  | case4 o ords hlt hne ih =>
    rw [List.mem_cons, ih, List.mem_cons]
    tauto

theorem mem_foldl_insertOrdinal {more : List Ordinal} :
    ord ∈ more.foldl (fun ords ord => insertOrdinal ord ords) ords ↔ ord ∈ more ∨ ord ∈ ords := by
  induction more generalizing ords with
  | nil => simp
  | cons first more ih =>
    rw [List.foldl_cons, ih, mem_insertOrdinal, List.mem_cons]
    tauto

/-- Whether a list of ordinals ascends, without repetition. -/
def Ascending (ords : List Ordinal) : Prop := ords.Pairwise fun a b => a.toNat < b.toNat

theorem Ascending.insertOrdinal (h : Ascending ords) : Ascending (insertOrdinal new ords) := by
  induction ords with
  | nil => exact List.pairwise_singleton _ _
  | cons o ords ih =>
    obtain ⟨hfirst, hrest⟩ := List.pairwise_cons.1 h
    rw [Flashcard.insertOrdinal]
    split
    · next hlt =>
      refine List.pairwise_cons.2 ⟨fun x hx => ?_, h⟩
      obtain rfl | hx := List.mem_cons.1 hx
      · exact hlt
      · exact Nat.lt_trans hlt (hfirst x hx)
    · next hle =>
      split
      · exact h
      · next hne =>
        have hlt : o.toNat < new.toNat := by
          have hvalue : new.toNat ≠ o.toNat := fun heq => hne (by cases new; cases o; simp_all)
          omega
        refine List.pairwise_cons.2 ⟨fun x hx => ?_, ih hrest⟩
        obtain rfl | hx := mem_insertOrdinal.1 hx
        · exact hlt
        · exact hfirst x hx

theorem Ascending.foldl_insertOrdinal (h : Ascending ords) (more : List Ordinal) :
    Ascending (more.foldl (fun ords ord => Flashcard.insertOrdinal ord ords) ords) := by
  induction more generalizing ords with
  | nil => exact h
  | cons first more ih => exact ih h.insertOrdinal

/-- An ascending list is determined by its members. -/
theorem Ascending.eq_of_mem_iff {other : List Ordinal} (h : Ascending ords)
    (hother : Ascending other) (hmem : ∀ ord, ord ∈ ords ↔ ord ∈ other) : ords = other := by
  have hirrefl : Std.Irrefl fun a b : Ordinal => a.toNat < b.toNat := ⟨fun a => Nat.lt_irrefl _⟩
  have hantisymm : Std.Antisymm fun a b : Ordinal => a.toNat < b.toNat :=
    ⟨fun a b hab hba => absurd hab (Nat.lt_asymm hba)⟩
  exact List.Pairwise.eq_of_mem_iff h hother hmem

end Insert

/-- The enumerator lists the ordinals of the deletions in fields with a slot on the front. -/
theorem mem_clozeOrdinals {ord : Ordinal} {fields : FieldValues} {front : String} :
    ord ∈ clozeOrdinals fields front ↔ ∃ field ∈ fields, field.1 ∈ Slot.fields front ∧
      ∃ d ∈ Deletion.findAll field.2, d.ordinal? = some ord := by
  simp only [clozeOrdinals, mem_foldl_insertOrdinal, List.not_mem_nil, or_false,
    List.mem_filterMap, List.mem_flatMap, List.mem_filter, List.contains_iff_mem]
  constructor
  · rintro ⟨d, ⟨field, ⟨hfield, hslot⟩, hd⟩, hord⟩
    exact ⟨field, hfield, hslot, d, hd, hord⟩
  · rintro ⟨field, hfield, hslot, d, hd, hord⟩
    exact ⟨d, ⟨field, ⟨hfield, hslot⟩, hd⟩, hord⟩

theorem ascending_clozeOrdinals (fields : FieldValues) (front : String) :
    Ascending (clozeOrdinals fields front) :=
  Ascending.foldl_insertOrdinal List.Pairwise.nil _

namespace Deletion

theorem ordinal?_eq_some_iff {d : Deletion} {ord : Ordinal} :
    d.ordinal? = some ord ↔ d.number = ord.deletionIndex ∧ d.number < Ordinal.bound := by
  unfold ordinal?
  split
  · next h =>
    rw [Option.some.injEq, Ordinal.mk.injEq, Ordinal.deletionIndex]
    omega
  · next h =>
    simp only [reduceCtorEq, false_iff, Ordinal.deletionIndex]
    omega

theorem number_eq_ofDigits (d : Deletion) :
    d.number = Nat.ofDigits 10 (d.index.toList.reverse.map fun c => c.toNat - '0'.toNat) := by
  rw [number, decimalValue, Nat.ofDigits_eq_foldr, List.foldr_map, List.foldr_reverse]
  simp [Nat.add_comm]

end Deletion

/-- A deletion without leading zeros has the index that the card of its ordinal asks for. -/
theorem index_eq_of_ordinal? {d : Deletion} {ord : Ordinal} (hd : d.Readable)
    (hord : d.ordinal? = some ord) (hzero : ¬ ['0'] <+: d.index.toList) :
    d.index = toString ord.deletionIndex := by
  rw [← String.toList_inj, Nat.toString_eq_ofList_toDigits, String.toList_ofList,
    ← (Deletion.ordinal?_eq_some_iff.1 hord).1, Deletion.number,
    toDigits_decimalValue hd.isDecimalDigit_of_mem hd.index_ne_nil hzero]

/-- A deletion with the index that the card of an ordinal asks for is listed as this ordinal. -/
theorem ordinal?_of_index_eq {d : Deletion} {ord : Ordinal}
    (hindex : d.index = toString ord.deletionIndex) (hbound : ord.deletionIndex < Ordinal.bound) :
    d.ordinal? = some ord := by
  have hnumber : d.number = ord.deletionIndex := by
    rw [Deletion.number, hindex, Nat.toString_eq_ofList_toDigits, String.toList_ofList,
      decimalValue_toDigits]
  exact Deletion.ordinal?_eq_some_iff.2 ⟨hnumber, hnumber ▸ hbound⟩

/-- Whether a field with a slot on the front has a deletion whose index reads `index`. -/
def HasIndex (fields : FieldValues) (front : String) (index : Nat) : Prop :=
  ∃ field ∈ fields, field.1 ∈ Slot.fields front ∧ ∃ d ∈ Deletion.findAll field.2,
    Nat.ofDigits 10 (d.index.toList.reverse.map fun c => c.toNat - '0'.toNat) = index

theorem mem_map_clozeOrdinals {fields : FieldValues} {front : String} {n : Nat} :
    n ∈ (clozeOrdinals fields front).map Ordinal.toNat ↔
      ∃ index, HasIndex fields front index ∧ 1 ≤ index ∧ index ≤ 2 ^ 32 - 1 ∧ n = index - 1 := by
  simp only [List.mem_map, mem_clozeOrdinals, Deletion.ordinal?_eq_some_iff, HasIndex,
    ← Deletion.number_eq_ofDigits, Ordinal.deletionIndex, Ordinal.bound]
  constructor
  · rintro ⟨ord, ⟨field, hfield, hslot, d, hd, hnumber, hlt⟩, rfl⟩
    exact ⟨d.number, ⟨field, hfield, hslot, d, hd, rfl⟩, by omega, by omega, by omega⟩
  · rintro ⟨index, ⟨field, hfield, hslot, d, hd, rfl⟩, hpos, hle, rfl⟩
    have hlt : d.number - 1 < Ordinal.bound := by
      rw [Ordinal.bound]
      omega
    exact ⟨⟨d.number - 1, hlt⟩, ⟨field, hfield, hslot, d, hd, by simp only; omega, by omega⟩, rfl⟩

/-- The ordinals ascend without repetition, and they are the indices of the deletions less one, as
far as these are positive and have 32 bits. Neither the order of the fields nor a repeated field
changes the list, and the last of the ordinals is never in it. -/
theorem clozeOrdinals_ascending (fields : FieldValues) (front : String) :
    ((clozeOrdinals fields front).map Ordinal.toNat).Pairwise (· < ·) ∧
    (∀ n, n ∈ (clozeOrdinals fields front).map Ordinal.toNat ↔
      ∃ index, HasIndex fields front index ∧ 1 ≤ index ∧ index ≤ 2 ^ 32 - 1 ∧ n = index - 1) ∧
    (∀ other : FieldValues, (∀ field, field ∈ other ↔ field ∈ fields) →
      clozeOrdinals other front = clozeOrdinals fields front) ∧
    2 ^ 32 - 1 ∉ (clozeOrdinals fields front).map Ordinal.toNat := by
  have hascending := ascending_clozeOrdinals fields front
  refine ⟨List.pairwise_map.2 hascending, fun n => mem_map_clozeOrdinals, ?_, ?_⟩
  · intro other hsame
    refine (ascending_clozeOrdinals other front).eq_of_mem_iff hascending fun ord => ?_
    simp only [mem_clozeOrdinals, hsame]
  · rw [mem_map_clozeOrdinals]
    rintro ⟨index, -, hpos, hle, heq⟩
    omega

/-- Two fields in either order, one of them twice, with leading zeros in an index and with indices
that list nothing. -/
theorem clozeOrdinals_ascending_two_fields :
    clozeOrdinals
        [("B", "\x7b\x7bc003::x\x7d\x7d \x7b\x7bc0::y\x7d\x7d"), ("A", "\x7b\x7bc1::z\x7d\x7d"),
          ("B", "\x7b\x7bc003::x\x7d\x7d \x7b\x7bc0::y\x7d\x7d")]
        "\x7b\x7bcloze:A\x7d\x7d\x7b\x7bcloze:B\x7d\x7d" =
      clozeOrdinals
        [("A", "\x7b\x7bc1::z\x7d\x7d"), ("B", "\x7b\x7bc003::x\x7d\x7d \x7b\x7bc0::y\x7d\x7d")]
        "\x7b\x7bcloze:A\x7d\x7d\x7b\x7bcloze:B\x7d\x7d" := by
  refine (clozeOrdinals_ascending _ _).2.2.1 _ fun field => ?_
  simp only [List.mem_cons, List.not_mem_nil, or_false]
  tauto

end Flashcard
