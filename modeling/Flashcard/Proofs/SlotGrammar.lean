import Flashcard.Proofs.Directive.Slot
import Flashcard.Proofs.Distinct
import Flashcard.Proofs.Text.Leftmost

/-!
# The grammar of slots

Which slots a template holds, said without the reader: where one begins (`Slot.StartsAt`), and what
its name is and where it ends (`Slot.ReadsAt`). A scan finds the leftmost of them, one after
another, and nothing else.

The fields of a template are the names of these slots, each at its first appearance
(`Slot.fields_grammar`).
-/

namespace Flashcard

namespace Slot

/-- Whether a text spells the keyword and its colon, each letter small or capital. -/
def Spells (spelling : List Char) : Prop :=
  List.Forall₂ (fun c d => c = d ∨ c = d.toUpper) spelling slotKeyword

/-- Whether a slot begins at the front of a text: behind its keyword there are closing braces after
at least one character, and no line ends before them. -/
def StartsAt (s : List Char) : Prop :=
  ∃ spelling name rest, s = openBraces ++ (spelling ++ (name ++ closeBraces ++ rest)) ∧
    Spells spelling ∧ name ≠ [] ∧ '\n' ∉ name

/-- Whether `name` is the shortest text within a line, but not an empty one, that closing braces
follow, and `rest` stands behind them. -/
def NamesAt (s name rest : List Char) : Prop :=
  s = name ++ closeBraces ++ rest ∧ name ≠ [] ∧ '\n' ∉ name ∧
    ∀ before behind, s = before ++ closeBraces ++ behind → before ≠ [] → '\n' ∉ before →
      name.length ≤ before.length

/-- Whether `slot` stands at the front of a text, and `rest` behind it. -/
def ReadsAt (s : List Char) (slot : Slot) (rest : List Char) : Prop :=
  ∃ tail, s = openBraces ++ (slot.spelling.toList ++ tail) ∧ Spells slot.spelling.toList ∧
    NamesAt tail slot.name.toList rest

theorem forall₂_congr_right {α β : Type} {R S : α → β → Prop} {l : List α} {m : List β}
    (h : ∀ b ∈ m, ∀ a, R a b ↔ S a b) : List.Forall₂ R l m ↔ List.Forall₂ S l m := by
  induction m generalizing l with
  | nil => simp only [List.forall₂_nil_right_iff]
  | cons b m ih =>
    obtain ⟨hb, hm⟩ := List.forall_mem_cons.1 h
    simp only [List.forall₂_cons_right_iff, hb, ih hm]

theorem spells_iff {spelling : List Char} :
    Spells spelling ↔ foldText spelling = foldText slotKeyword := by
  rw [foldText_eq_iff]
  refine forall₂_congr_right fun d hd c => ?_
  have hletters : (slotKeyword.all fun d => foldsFromCapital d ∧ foldCase d = d ∧ d ≠ '\x00' ∧
      foldCase d.toUpper = foldCase d) = true := by decide +kernel
  obtain ⟨hcapital, hself, hzero, hupper⟩ :=
    of_decide_eq_true (List.all_eq_true.1 hletters d hd)
  constructor
  · rintro (rfl | rfl)
    · rfl
    · exact hupper
  · exact eq_or_eq_toUpper_of_foldCase_eq hcapital hself hzero

theorem readName?_eq_some_iff {s name rest : List Char} :
    readName? s = some (name, rest) ↔ s = name ++ closeBraces ++ rest ∧ name ≠ [] ∧
      ∀ before behind, s = before ++ closeBraces ++ behind → before ≠ [] →
        name.length ≤ before.length := by
  cases s with
  | nil => simp [readName?, closeBraces]
  | cons c s =>
    rw [readName?, Option.map_eq_some_iff]
    constructor
    · rintro ⟨⟨front, behind⟩, hsplit, heq⟩
      cases heq
      obtain ⟨hs, hfirst⟩ := splitAt?_eq_some_iff.1 hsplit
      refine ⟨by simp [hs], List.cons_ne_nil c front, fun before behind heq hne => ?_⟩
      obtain ⟨d, before, rfl⟩ := List.exists_cons_of_ne_nil hne
      simp only [List.cons_append, List.cons.injEq] at heq
      exact Nat.succ_le_succ (hfirst before behind heq.2)
    · rintro ⟨hs, hne, hfirst⟩
      obtain ⟨d, front, rfl⟩ := List.exists_cons_of_ne_nil hne
      simp only [List.cons_append, List.cons.injEq] at hs
      obtain ⟨rfl, hs⟩ := hs
      refine ⟨(front, rest), splitAt?_eq_some_iff.2 ⟨hs, fun before behind heq => ?_⟩, rfl⟩
      have hle := hfirst (c :: before) behind (by simp [heq]) (List.cons_ne_nil c before)
      exact Nat.le_of_succ_le_succ hle

theorem readName?_eq_none_iff {s : List Char} :
    readName? s = none ↔ ∀ name rest, s = name ++ closeBraces ++ rest → name = [] := by
  cases s with
  | nil => simp [readName?, closeBraces]
  | cons c s =>
    rw [readName?, Option.map_eq_none_iff, splitAt?_eq_none_iff]
    constructor
    · rintro hnone (_ | ⟨d, name⟩) rest heq
      · rfl
      · simp only [List.cons_append, List.cons.injEq] at heq
        exact absurd ⟨name, rest, heq.2.symm⟩ hnone
    · rintro hall ⟨name, rest, rfl⟩
      exact List.cons_ne_nil c name (hall (c :: name) rest rfl)

/-- Closing braces before those of a name stand behind a text within the line as well. -/
theorem namesAt_iff {s name rest : List Char} :
    NamesAt s name rest ↔ readName? s = some (name, rest) ∧ '\n' ∉ name := by
  rw [readName?_eq_some_iff]
  constructor
  · rintro ⟨rfl, hne, hline, hfirst⟩
    refine ⟨⟨rfl, hne, fun before behind heq hbefore => ?_⟩, hline⟩
    refine Nat.le_of_not_lt fun hlt => ?_
    have hbegins : before <+: name := prefix_of_places heq rfl (Nat.le_of_lt hlt)
    have hle := hfirst before behind heq hbefore fun hmem => hline (hbegins.subset hmem)
    omega
  · rintro ⟨⟨hs, hne, hfirst⟩, hline⟩
    exact ⟨hs, hne, hline, fun before behind heq hbefore _ => hfirst before behind heq hbefore⟩

theorem read?_eq_some_iff {s rest : List Char} {slot : Slot} :
    read? s = some (slot, rest) ↔ ∃ tail, s = openBraces ++ (slot.spelling.toList ++ tail) ∧
      foldText slot.spelling.toList = foldText slotKeyword ∧
      readName? tail = some (slot.name.toList, rest) ∧ '\n' ∉ slot.name.toList := by
  simp only [read?, Option.bind_eq_bind, Option.bind_eq_some_iff, after?_eq_some_iff, Prod.exists,
    takeFolded?_eq_some_iff]
  constructor
  · rintro ⟨_, rfl, written, tail, ⟨rfl, hfold⟩, name, rest', hname, h⟩
    split at h
    · cases h
    · next hline =>
      cases h
      refine ⟨tail, by simp, by simpa using hfold, by simpa using hname, by simpa using hline⟩
  · rintro ⟨tail, rfl, hfold, hname, hline⟩
    refine ⟨_, rfl, _, tail, ⟨rfl, hfold⟩, _, rest, hname, ?_⟩
    simp [hline]

theorem readsAt_iff {s rest : List Char} {slot : Slot} :
    ReadsAt s slot rest ↔ pattern.matchAt s = some (slot, rest) := by
  change ReadsAt s slot rest ↔ read? s = some (slot, rest)
  simp only [ReadsAt, read?_eq_some_iff, spells_iff, namesAt_iff]

theorem startsAt_iff {s : List Char} : StartsAt s ↔ pattern.matchAt s ≠ none := by
  constructor
  · rintro ⟨spelling, name, rest, rfl, hspells, hne, hline⟩
    cases hread : readName? (name ++ closeBraces ++ rest) with
    | none => exact absurd (readName?_eq_none_iff.1 hread name rest rfl) hne
    | some parts =>
      obtain ⟨shortest, behind⟩ := parts
      obtain ⟨heq, -, hfirst⟩ := readName?_eq_some_iff.1 hread
      have hbegins : shortest <+: name := prefix_of_places heq rfl (hfirst name rest rfl hne)
      have hmatch : read? (openBraces ++ (spelling ++ (name ++ closeBraces ++ rest))) =
          some (⟨String.ofList spelling, String.ofList shortest⟩, behind) :=
        read?_eq_some_iff.2 ⟨name ++ closeBraces ++ rest, by simp,
          by simpa using spells_iff.1 hspells, by simpa using hread,
          by simpa using fun hmem => hline (hbegins.subset hmem)⟩
      change read? _ ≠ none
      rw [hmatch]
      exact Option.some_ne_none _
  · intro h
    obtain ⟨⟨slot, rest⟩, hmatch⟩ := Option.ne_none_iff_exists'.1 h
    obtain ⟨tail, rfl, hspells, rfl, hne, hline, -⟩ := readsAt_iff.2 hmatch
    exact ⟨slot.spelling.toList, slot.name.toList, rest, rfl, hspells, hne, hline⟩

theorem leftmost_iff_cut {s : List Char} {c : Cut Slot} :
    Leftmost StartsAt ReadsAt s c ↔ pattern.cut s = c :=
  pattern.leftmost_iff (fun _ => startsAt_iff) fun _ _ _ => readsAt_iff

/-- The slots of a template are the leftmost ones of the grammar, and the template is what they and
the texts between them make up. Its fields are their names, each once and in the order in which the
names come up. -/
theorem fields_grammar (template : String) :
    ∃ c, (∀ other, Leftmost StartsAt ReadsAt template.toList other ↔ other = c) ∧
      c.fill text = template.toList ∧
      FirstAppearances (c.hits.map fun hit => hit.2.name) (fields template) := by
  refine ⟨pattern.cut template.toList, fun other => ?_, pattern.fill_text_cut _, ?_⟩
  · rw [leftmost_iff_cut, eq_comm]
  · have hfields : fields template =
        ((pattern.cut template.toList).hits.map fun hit => hit.2.name).eraseDups := by
      rw [fields, Pattern.findAll, List.map_map]
      rfl
    rw [hfields]
    exact firstAppearances_eraseDups _

/-- Closing braces right behind the colon belong to the name. -/
example : fields "\x7b\x7bcloze:\x7d\x7dx\x7d\x7d\x7b\x7bCLOZE:a\x7d\x7d" = ["\x7d\x7dx", "a"] := by
  decide +kernel

end Slot

end Flashcard
