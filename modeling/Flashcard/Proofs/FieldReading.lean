import Flashcard.Proofs.TemplateTree

/-!
# What a field makes known

The built-in steps of one field make its references and sections known and nothing else
(`apply_read`), provided that no directive of the template can be taken for another one and that
the texts of the field bring no opening brace along. One field after another, what the first of two
fields makes known is not touched by the second (`builtInText_read`).
-/

namespace Flashcard

namespace Reading

/-- What `σ` knows, and else what `τ` knows. -/
def orElse (σ τ : Reading) : Reading where
  shown r := σ.shown r <|> τ.shown r
  shows kind name := σ.shows kind name <|> τ.shows kind name

/-- What the built-in steps of a field make known. Slots agree with their field up to letter
case. -/
def ofField (field : FieldView) : Reading where
  shown
    | .value n => if n = field.name then some field.value else none
    | .text n => if n = field.name then some (field.stripper field.value) else none
    | .slot n =>
      if foldText n.toList = foldText field.name.toList then some field.clozeMarkup else none
    | .frontSide => none
  shows kind n := if n = field.name then some (kind.shows field.value) else none

/-- What the first field that knows a directive makes known. -/
def ofFields (fields : List FieldView) : Reading where
  shown r := fields.findSome? fun field => (ofField field).shown r
  shows kind name := fields.findSome? fun field => (ofField field).shows kind name

theorem orElse_shown (σ τ : Reading) (r : Reference) :
    (σ.orElse τ).shown r = (σ.shown r <|> τ.shown r) := rfl

@[simp] theorem nothing_orElse (τ : Reading) : orElse {} τ = τ := by simp [orElse]

theorem orElse_assoc (σ τ υ : Reading) : (σ.orElse τ).orElse υ = σ.orElse (τ.orElse υ) := by
  refine Reading.ext (funext fun r => ?_) (funext fun kind => funext fun n => ?_)
  · cases h : σ.shown r <;> simp [orElse, h]
  · cases h : σ.shows kind n <;> simp [orElse, h]

end Reading

/-- Whether no directive of a tree can be taken for another one of the field `name`. -/
structure Distinguishes (P : Reference → Prop) (Q : String → Prop) (name : String) : Prop where
  braceFree : BraceFree name.toList
  inner_braceFree : ∀ r, P r → BraceFree r.inner
  section_braceFree : ∀ m, Q m → BraceFree m.toList
  value : ∀ r, P r → r.inner = (Reference.value name).inner → r = .value name
  text : ∀ r, P r → r.inner = (Reference.text name).inner → r = .text name
  slot : ∀ r, P r → foldText r.inner = foldText (Slot.inner name) → ∃ m, r = .slot m
  reference_ne : ∀ r c, P r → c ∈ TemplateTree.sectionSigns → r.inner ≠ c :: name.toList
  section_ne : ∀ m c, Q m → c ∈ TemplateTree.sectionSigns → c :: m.toList ≠ name.toList

theorem textReference_eq (name : String) :
    textReference name = tag (Reference.text name).inner := by
  have hkeyword : "text:".toList = textKeyword := by simp [textKeyword]
  rw [textReference, reference, String.toList_append, hkeyword]
  rfl

theorem textPattern_eq (name : String) :
    textPattern name = .literal (tag (Reference.text name).inner) (tag_ne_nil _) := by
  simp only [textPattern, textReference_eq]

namespace TemplateTree

variable {P : Reference → Prop} {Q : String → Prop} {σ : Reading} {t : TemplateTree}

theorem quiet_withShown (more : Reference → Option String) (hσ : Quiet P σ)
    (hmore : ∀ r s, P r → more r = some s → '{' ∉ s.toList) : Quiet P (σ.withShown more) := by
  intro r s hr hs
  cases h : σ.shown r with
  | some s' =>
    simp only [Reading.withShown, h] at hs
    cases hs
    exact hσ r s hr h
  | none => exact hmore r s hr (by simpa [Reading.withShown, h] using hs)

/-- Deciding sections shows no text. -/
theorem quiet_withShows (hσ : Quiet P σ) (kind : Section) (name : String) (b : Bool) :
    Quiet P (σ.withShows kind name b) := hσ

/-- A pattern of one tag makes known the one reference that has this tag. -/
theorem rewrite_literal_read {inner : List Char} (hne : tag inner ≠ []) {r₀ : Reference}
    (w : String) (hinner : r₀.inner = inner) (hfree : BraceFree inner)
    (ht : t.WellFormed P Q) (hσ : Quiet P σ)
    (hP : ∀ r, P r → BraceFree r.inner ∧ (r.inner = inner → r = r₀))
    (hQ : ∀ m, Q m → BraceFree m.toList ∧ ∀ c ∈ sectionSigns, c :: m.toList ≠ inner) :
    (Pattern.literal (tag inner) hne).rewrite (fun _ => w.toList) (t.read σ) =
      t.read (σ.withShown fun r => if r = r₀ then some w else none) := by
  have hp := (Pattern.literal_matchesTags hne hfree).opens
  have h := rewrite_read hp (fun _ => w.toList) (fun r => if r = r₀ then some w else none) ht hσ
    (fun r hr => (hP r hr).1) (fun m hm => (hQ m hm).1) ?_ ?_ ?_ []
  · simpa using h
  · intro r s u hr hs
    obtain ⟨rfl, rfl⟩ : r = r₀ ∧ w = s := by simpa using hs
    have hmatch : (Pattern.literal (tag inner) hne).matchAt (tag r.inner ++ u) = some ((), u) := by
      rw [Pattern.literal_matchAt_tag hne hfree (hP r hr).1, if_pos hinner]
    rw [Pattern.rewrite_hit _ _ hmatch]
  · intro r u hr hnone
    have hrne : r ≠ r₀ := by simpa using hnone
    rw [Pattern.literal_matchAt_tag hne hfree (hP r hr).1,
      if_neg fun h => hrne ((hP r hr).2 h)]
  · intro c m u hc hm
    obtain ⟨hmfree, hmne⟩ := hQ m hm
    rw [Pattern.literal_matchAt_tag hne hfree (braceFree_sign_cons hc hmfree),
      if_neg (hmne c hc)]

/-- The slots of one field, in any letter case, when all of them become `w`. -/
def slotsShown (name w : String) : Reference → Option String
  | .slot n => if foldText n.toList = foldText name.toList then some w else none
  | _ => none

theorem slotsShown_eq_some_iff {name w s : String} {r : Reference} :
    slotsShown name w r = some s ↔
      ∃ n, r = .slot n ∧ foldText n.toList = foldText name.toList ∧ w = s := by
  cases r <;> simp [slotsShown]

/-- The pattern of one field's slots makes known the slots of the field. -/
theorem rewrite_slots_read {name : String} (hname : BraceFree name.toList) (w : String)
    (ht : t.WellFormed P Q) (hσ : Quiet P σ)
    (hP : ∀ r, P r → BraceFree r.inner ∧
      (foldText r.inner = foldText (Slot.inner name) → ∃ m, r = .slot m))
    (hQ : ∀ m, Q m → BraceFree m.toList) :
    (Slot.patternFor name).rewrite (fun _ => w.toList) (t.read σ) =
      t.read (σ.withShown (slotsShown name w)) := by
  have hp := Slot.patternFor_opens name
  have hread := rewrite_read hp (fun _ => w.toList) (slotsShown name w) ht hσ
    (fun r hr => (hP r hr).1) hQ ?_ ?_ ?_ []
  · simpa using hread
  · intro r s u hr hs
    obtain ⟨n, rfl, hn, rfl⟩ := slotsShown_eq_some_iff.1 hs
    have hmatch := Slot.patternFor_matchAt_tag hname (hP _ hr).1 u
    have hfold : foldText (Reference.slot n).inner = foldText (Slot.inner name) :=
      Slot.foldText_inner_inj.2 hn
    rw [if_pos hfold] at hmatch
    rw [Pattern.rewrite_hit _ _ hmatch]
  · intro r u hr hnone
    rw [Slot.patternFor_matchAt_tag hname (hP _ hr).1, if_neg]
    intro hfold
    obtain ⟨n, rfl⟩ := (hP r hr).2 hfold
    simp [slotsShown, Slot.foldText_inner_inj.1 hfold] at hnone
  · intro c m u hc hm
    have hfree := braceFree_sign_cons hc (hQ m hm)
    rw [Slot.patternFor_matchAt_tag hname hfree, if_neg]
    simp only [Slot.inner, slotKeyword, List.cons_append, foldText_cons, List.cons.injEq, not_and]
    intro hfold
    simp only [sectionSigns, List.mem_cons, List.not_mem_nil, or_false] at hc
    obtain rfl | rfl | rfl := hc <;> exact absurd hfold (by decide)

section Apply

variable {field : FieldView}

theorem putValue_read (h : Distinguishes P Q field.name) (ht : t.WellFormed P Q)
    (hσ : Quiet P σ) :
    field.putValue (t.read σ) = t.read (σ.withShown fun r =>
      if r = .value field.name then some field.value else none) :=
  rewrite_literal_read (tag_ne_nil _) field.value rfl h.braceFree ht hσ
    (fun r hr => ⟨h.inner_braceFree r hr, h.value r hr⟩)
    fun m hm => ⟨h.section_braceFree m hm, fun c hc => h.section_ne m c hm hc⟩

theorem putText_read (h : Distinguishes P Q field.name) (ht : t.WellFormed P Q)
    (hσ : Quiet P σ) :
    field.putText (t.read σ) = t.read (σ.withShown fun r =>
      if r = .text field.name then some (field.stripper field.value) else none) := by
  have hfree : BraceFree (Reference.text field.name).inner :=
    braceFree_append.2 ⟨by decide, h.braceFree⟩
  rw [FieldView.putText, textPattern_eq]
  refine rewrite_literal_read _ (field.stripper field.value) rfl hfree ht hσ
    (fun r hr => ⟨h.inner_braceFree r hr, h.text r hr⟩)
    fun m hm => ⟨h.section_braceFree m hm, fun c hc heq => ?_⟩
  have hhead : c = 't' := (List.cons.inj heq).1
  exact absurd (hhead ▸ hc) (by decide)

theorem decideSections_read (h : Distinguishes P Q field.name) (ht : t.WellFormed P Q)
    (hσ : Quiet P σ) (kind : Section) :
    field.decideSections kind (t.read σ) =
      t.read (σ.withShows kind field.name (kind.shows field.value)) := by
  have hread := rewrite_conditional_read ht hσ kind h.braceFree (kind.shows field.value)
    (fun r hr => ⟨h.inner_braceFree r hr, fun c hc => h.reference_ne r c hr hc⟩)
    h.section_braceFree []
  simpa [FieldView.decideSections] using hread

/-- What the field makes known, step after step. -/
theorem withShown_orElse_ofField :
    ((((σ.withShown fun r => if r = .value field.name then some field.value else none).withShows
      .present field.name (Section.present.shows field.value)).withShows
      .blank field.name (Section.blank.shows field.value)).withShown fun r =>
        if r = .text field.name then some (field.stripper field.value) else none).withShown
      (slotsShown field.name field.clozeMarkup) = σ.orElse (.ofField field) := by
  refine Reading.ext (funext fun r => ?_) (funext fun kind => funext fun n => ?_)
  · cases h : σ.shown r <;> cases r <;>
      simp [Reading.withShown, Reading.withShows, Reading.orElse, Reading.ofField, slotsShown, h]
  · cases h : σ.shows kind n <;> cases kind <;>
      simp [Reading.withShown, Reading.withShows, Reading.orElse, Reading.ofField, h]

/-- The built-in steps of a field make known what the field knows. -/
theorem apply_read (h : Distinguishes P Q field.name) (hfield : Quiet P (.ofField field))
    (ht : t.WellFormed P Q) (hσ : Quiet P σ) :
    field.apply (t.read σ) = t.read (σ.orElse (.ofField field)) := by
  have hvalue := quiet_withShown
    (fun r => if r = .value field.name then some field.value else none) hσ fun r s hr hs => by
      obtain ⟨rfl, rfl⟩ : r = .value field.name ∧ field.value = s := by simpa using hs
      exact hfield _ _ hr (by simp [Reading.ofField])
  have hpresent := quiet_withShows hvalue .present field.name (Section.present.shows field.value)
  have hblank := quiet_withShows hpresent .blank field.name (Section.blank.shows field.value)
  have htext := quiet_withShown
    (fun r => if r = .text field.name then some (field.stripper field.value) else none) hblank
    fun r s hr hs => by
      obtain ⟨rfl, rfl⟩ : r = .text field.name ∧ field.stripper field.value = s := by
        simpa using hs
      exact hfield _ _ hr (by simp [Reading.ofField])
  rw [FieldView.apply, putValue_read h ht hσ, decideSections_read h ht hvalue,
    decideSections_read h ht hpresent, putText_read h ht hblank, FieldView.fillSlots,
    rewrite_slots_read h.braceFree field.clozeMarkup ht htext
      (fun r hr => ⟨h.inner_braceFree r hr, h.slot r hr⟩) h.section_braceFree,
    withShown_orElse_ofField]

end Apply

theorem quiet_orElse {τ : Reading} (hσ : Quiet P σ) (hτ : Quiet P τ) : Quiet P (σ.orElse τ) := by
  intro r s hr hs
  cases h : σ.shown r with
  | some s' =>
    simp only [Reading.orElse, h] at hs
    cases hs
    exact hσ r s hr h
  | none => exact hτ r s hr (by simpa [Reading.orElse, h] using hs)

/-- One field after another makes known what the fields know, the first of them before all
others. -/
theorem foldl_apply_read (fields : List FieldView) (ht : t.WellFormed P Q) (hσ : Quiet P σ)
    (h : ∀ field ∈ fields, Distinguishes P Q field.name ∧ Quiet P (.ofField field)) :
    fields.foldl (fun template field => field.apply template) (t.read σ) =
      t.read (σ.orElse (.ofFields fields)) := by
  induction fields generalizing σ with
  | nil =>
    have hnothing : σ.orElse (.ofFields []) = σ := by simp [Reading.orElse, Reading.ofFields]
    rw [hnothing, List.foldl_nil]
  | cons field fields ih =>
    obtain ⟨⟨hname, hfield⟩, hrest⟩ := List.forall_mem_cons.1 h
    have hcons : (Reading.ofField field).orElse (.ofFields fields) =
        .ofFields (field :: fields) := by
      simp only [Reading.orElse, Reading.ofFields, List.findSome?_cons]
      congr 1
      · funext r
        cases (Reading.ofField field).shown r <;> rfl
      · funext kind n
        cases (Reading.ofField field).shows kind n <;> rfl
    rw [List.foldl_cons, apply_read hname hfield ht hσ, ih (quiet_orElse hσ hfield) hrest,
      Reading.orElse_assoc, hcons]

theorem builtInText_read (stripper : Stripper) (settings : Settings) (side : Side)
    (fields : FieldValues) (ht : t.WellFormed P Q) (hσ : Quiet P σ)
    (h : ∀ field ∈ views stripper settings side fields,
      Distinguishes P Q field.name ∧ Quiet P (.ofField field)) :
    builtInText stripper settings side fields (t.read σ) =
      t.read (σ.orElse (.ofFields (views stripper settings side fields))) :=
  foldl_apply_read _ ht hσ h

/-- Putting the front on the back makes known the one reference to it. -/
theorem rewrite_frontSide_read (w : List Char) (ht : t.WellFormed P Q) (hσ : Quiet P σ)
    (hP : ∀ r, P r → BraceFree r.inner ∧ (r.inner = Reference.frontSide.inner → r = .frontSide))
    (hQ : ∀ m, Q m → BraceFree m.toList) :
    Renderer.frontSide.rewrite (fun _ => w) (t.read σ) =
      t.read (σ.withShown fun r => if r = .frontSide then some (String.ofList w) else none) := by
  have hread := rewrite_literal_read (tag_ne_nil _) (String.ofList w) rfl (by decide) ht hσ hP
    fun m hm => ⟨hQ m hm, fun c hc heq => ?_⟩
  · rw [String.toList_ofList] at hread
    exact hread
  · have hhead : c = 'F' := (List.cons.inj heq).1
    exact absurd (hhead ▸ hc) (by decide)

end TemplateTree

end Flashcard
