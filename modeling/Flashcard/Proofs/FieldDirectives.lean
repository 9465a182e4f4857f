import Flashcard.Proofs.DeletionGrammar
import Flashcard.Proofs.Directive.Slot
import Flashcard.Proofs.GroupReading

/-!
# The directives of one field

A field's name counts as it stands, whatever characters it has. Its sections run from an opening tag
to the first closing tag behind it (`Section.StartsAt`, `Section.ReadsAt`), and its slots are the
texts that agree with its tag up to letter case (`Slot.AgreesAt`). A scan for the directives of the
field finds the leftmost of these, one after another, and nothing else
(`sections_and_slots_of_field`).
-/

namespace Flashcard

namespace Section

variable {kind : Section} {name : String}

/-- Whether a section begins at the front of a text: somewhere behind its opening tag there is its
closing tag. -/
def StartsAt (kind : Section) (name : String) (s : List Char) : Prop :=
  ∃ body rest, s = kind.openTag name ++ (body ++ closeTag name ++ rest)

/-- Whether the section at the front of a text has this body: it ends with the first closing tag
behind the opening tag, and `rest` stands behind that. -/
def ReadsAt (kind : Section) (name : String) (s : List Char) (body : String) (rest : List Char) :
    Prop :=
  ∃ tail, s = kind.openTag name ++ tail ∧ PartsAt (closeTag name) tail body.toList rest

theorem readsAt_iff {s rest : List Char} {body : String} :
    kind.ReadsAt name s body rest ↔ (kind.patternFor name).matchAt s = some (body, rest) := by
  change _ ↔ readBetween? (kind.openTag name) (closeTag name) s = some (body, rest)
  simp only [readBetween?, Option.bind_eq_bind, Option.bind_eq_some_iff, after?_eq_some_iff,
    Prod.exists, Option.some.injEq, Prod.mk.injEq, ReadsAt]
  constructor
  · rintro ⟨tail, rfl, hparts⟩
    exact ⟨tail, rfl, body.toList, rest, splitAt?_eq_some_iff_partsAt.2 hparts,
      String.ofList_toList, rfl⟩
  · rintro ⟨tail, rfl, span, _, hsplit, rfl, rfl⟩
    exact ⟨tail, rfl, by simpa using splitAt?_eq_some_iff_partsAt.1 hsplit⟩

theorem startsAt_iff {s : List Char} :
    kind.StartsAt name s ↔ (kind.patternFor name).matchAt s ≠ none := by
  constructor
  · rintro ⟨body, rest, rfl⟩
    have hcloses : splitAt? (closeTag name) (body ++ closeTag name ++ rest) ≠ none :=
      mt splitAt?_eq_none_iff.1 (not_not.2 ⟨body, rest, rfl⟩)
    obtain ⟨⟨front, behind⟩, hsplit⟩ := Option.ne_none_iff_exists'.1 hcloses
    have hparts := splitAt?_eq_some_iff_partsAt.1 hsplit
    have hmatch := readsAt_iff.1 (⟨_, rfl, by simpa using hparts⟩ :
      kind.ReadsAt name (kind.openTag name ++ (body ++ closeTag name ++ rest))
        (String.ofList front) behind)
    rw [hmatch]
    exact Option.some_ne_none _
  · intro h
    obtain ⟨⟨body, rest⟩, hmatch⟩ := Option.ne_none_iff_exists'.1 h
    obtain ⟨tail, rfl, rfl, -⟩ := readsAt_iff.2 hmatch
    exact ⟨body.toList, rest, rfl⟩

theorem leftmost_iff_cut {s : List Char} {c : Cut String} :
    Leftmost (kind.StartsAt name) (kind.ReadsAt name) s c ↔ (kind.patternFor name).cut s = c :=
  (kind.patternFor name).leftmost_iff (fun _ => startsAt_iff) fun _ _ _ => readsAt_iff

end Section

namespace Slot

variable {name : String}

/-- Whether `written` stands at the front of a text, with `rest` behind it, and agrees character by
character with the slot of a field, up to simple case folding. -/
def AgreesAt (name : String) (s : List Char) (written : String) (rest : List Char) : Prop :=
  s = written.toList ++ rest ∧
    List.Forall₂ (fun c d => foldCase c = foldCase d) written.toList (textFor name)

theorem agreesAt_iff {s rest : List Char} {written : String} :
    AgreesAt name s written rest ↔ (patternFor name).matchAt s = some (written, rest) := by
  change _ ↔ readFor? name s = some (written, rest)
  rw [AgreesAt, ← foldText_eq_iff, ← takeFolded?_eq_some_iff, takeFolded?_textFor]
  simp [Option.map_eq_some_iff, String.toList_inj]

theorem exists_agreesAt_iff {s : List Char} :
    (∃ written rest, AgreesAt name s written rest) ↔ (patternFor name).matchAt s ≠ none := by
  simp only [agreesAt_iff, Option.ne_none_iff_exists', Prod.exists]

theorem leftmost_iff_cutFor {s : List Char} {c : Cut String} :
    Leftmost (fun s => ∃ written rest, AgreesAt name s written rest) (AgreesAt name) s c ↔
      (patternFor name).cut s = c :=
  (patternFor name).leftmost_iff (fun _ => exists_agreesAt_iff) fun _ _ _ => agreesAt_iff

end Slot

/-- The sections of a field are the leftmost spans from an opening tag to the first closing tag
behind it, and a step that decides them puts the body or nothing in the place of each span and
leaves the text around them alone. The slots of the field are the leftmost texts that agree with its
tag. The name stands for itself in all of them. -/
theorem sections_and_slots_of_field (field : FieldView) (template : String) :
    (∀ kind : Section, ∃ c : Cut String,
      (∀ other, Leftmost (kind.StartsAt field.name) (kind.ReadsAt field.name) template.toList
        other ↔ other = c) ∧
      (kind.patternFor field.name).cut template.toList = c ∧
      ((kind.expressionFor field.name).pattern rfl).findAll template =
        c.hits.map (fun hit => kind.captures field.name hit.2) ∧
      Step.conditional kind field template = .ok (String.ofList (c.fill fun body =>
        if kind.shows field.value then body.toList else []))) ∧
    ∃ c : Cut String,
      (∀ other, Leftmost (fun s => ∃ written rest, Slot.AgreesAt field.name s written rest)
        (Slot.AgreesAt field.name) template.toList other ↔ other = c) ∧
      (Slot.patternFor field.name).cut template.toList = c ∧
      (Slot.matcherFor field.name).findAll template =
        c.hits.map fun hit => Slot.capturesFor hit.2 := by
  constructor
  · intro kind
    refine ⟨(kind.patternFor field.name).cut template.toList, fun other => ?_, rfl, ?_, ?_⟩
    · rw [Section.leftmost_iff_cut, eq_comm]
    · rw [Pattern.findAll_renamed (kind.first?_expressionFor field.name), Pattern.findAll,
        List.map_map]
      rfl
    · rw [Step.conditional, Step.total, Pattern.replace]
      refine congrArg (fun f => Except.ok (String.ofList (Cut.fill f _))) (funext fun body => ?_)
      split <;> rfl
  · refine ⟨(Slot.patternFor field.name).cut template.toList, fun other => ?_, rfl, ?_⟩
    · rw [Slot.leftmost_iff_cutFor, eq_comm]
    · rw [Pattern.findAll_renamed (Slot.matchAt_matcherFor field.name), Pattern.findAll,
        List.map_map]
      rfl

/-- A section ends with the first closing tag, also where a second one has been opened. -/
example : (Section.present.patternFor "a.b").findAll
    "\x7b\x7b#a.b\x7d\x7d1\x7b\x7b#a.b\x7d\x7d2\x7b\x7b/a.b\x7d\x7d\x7b\x7b/a.b\x7d\x7d" =
      ["1\x7b\x7b#a.b\x7d\x7d2"] := by
  decide +kernel

end Flashcard
